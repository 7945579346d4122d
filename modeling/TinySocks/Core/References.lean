import TinySocks.Core.Text

/-!
# References in a text

A reference stands for a value: `expand` goes through a text from the left and
puts the value in place of each reference it meets. A text without references
(`Free`) is left as it is, and where every value is shorter than its reference, no
other text is (`expand_length`).
-/
namespace TinySocks.Core

/-- The references of one kind: what a text may begin with, and what is behind it. -/
structure References (ρ : Type) where
  find : Str → Option (ρ × Str)
  shorter : ∀ s r rest, find s = some (r, rest) → rest.length < s.length

namespace References

variable {ρ : Type} (R : References ρ)

/-- The first argument is the length of a text that is long enough. -/
def expandFrom (value : ρ → Str) : Nat → Str → Str
  | 0, s => s
  | _ + 1, [] => []
  | n + 1, c :: s =>
    match R.find (c :: s) with
    | some (r, rest) => value r ++ expandFrom value n rest
    | none => c :: expandFrom value n s

def expand (value : ρ → Str) (s : Str) : Str := R.expandFrom value s.length s

/-- No reference begins anywhere in the text. -/
def Free (s : Str) : Prop := ∀ t, t <:+ s → R.find t = none

/-- Every value is shorter than the references to it. -/
def Shrinks (value : ρ → Str) : Prop :=
  ∀ s r rest, R.find s = some (r, rest) → (value r).length + rest.length < s.length

variable {R}

theorem find_nil : R.find [] = none := by
  cases h : R.find [] with
  | none => rfl
  | some p => cases R.shorter [] p.1 p.2 h

theorem free_nil : R.Free [] := by
  intro t ht
  rw [List.suffix_nil.1 ht, find_nil]

theorem free_cons {c : Char} {s : Str} : R.Free (c :: s) ↔ R.find (c :: s) = none ∧ R.Free s := by
  constructor
  · exact fun h => ⟨h _ (List.suffix_refl _), fun t ht => h t (ht.trans (List.suffix_cons c s))⟩
  · intro hx t ht
    obtain ⟨hc, hs⟩ := hx
    rcases List.suffix_cons_iff.1 ht with rfl | ht
    · exact hc
    · exact hs t ht

theorem expandFrom_of_free {value : ρ → Str} : ∀ {n : Nat} {s : Str}, R.Free s →
    R.expandFrom value n s = s := by
  intro n
  induction n with
  | zero => exact fun _ => rfl
  | succ n ih =>
    intro s h
    cases s with
    | nil => rfl
    | cons c s =>
      obtain ⟨hc, hs⟩ := free_cons.1 h
      rw [expandFrom, hc]
      exact congrArg (List.cons c) (ih hs)

theorem expand_of_free {value : ρ → Str} {s : Str} (h : R.Free s) : R.expand value s = s :=
  expandFrom_of_free h

/-- Where values are shorter than references, a text that keeps its length has none. -/
theorem expandFrom_length {value : ρ → Str} (hv : R.Shrinks value) : ∀ {n : Nat} {s : Str},
    s.length ≤ n → (R.expandFrom value n s).length ≤ s.length ∧
      ((R.expandFrom value n s).length = s.length → R.Free s) := by
  intro n
  induction n with
  | zero =>
    intro s hs
    rw [List.length_eq_zero_iff.1 (Nat.le_zero.1 hs)]
    exact ⟨Nat.le_refl _, fun _ => free_nil⟩
  | succ n ih =>
    intro s hs
    cases s with
    | nil => exact ⟨Nat.le_refl _, fun _ => free_nil⟩
    | cons c s =>
      rw [expandFrom]
      cases hc : R.find (c :: s) with
      | some p =>
        have hlt := hv _ p.1 p.2 hc
        have hrest := R.shorter _ p.1 p.2 hc
        obtain ⟨hle, -⟩ := ih (s := p.2) (by omega)
        simp only [List.length_append]
        constructor <;> omega
      | none =>
        obtain ⟨hle, hfree⟩ := ih (s := s) (Nat.le_of_succ_le_succ hs)
        simp only [List.length_cons]
        exact ⟨Nat.succ_le_succ hle, fun he => free_cons.2 ⟨hc, hfree (Nat.succ.inj he)⟩⟩

theorem expand_length {value : ρ → Str} (hv : R.Shrinks value) (s : Str) :
    (R.expand value s).length ≤ s.length ∧ ((R.expand value s).length = s.length → R.Free s) :=
  expandFrom_length hv (Nat.le_refl _)

end References

end TinySocks.Core
