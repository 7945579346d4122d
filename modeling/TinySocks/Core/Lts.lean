/-!
# Labelled transition systems

A system is a set of initial states and a labelled step relation. `Run`
strings steps together, `Inductive` is the proof obligation of an invariant,
and `Inductive.reachable` discharges it once for every reachable state.
-/
namespace TinySocks.Core

structure LTS (S L : Type) where
  init : S → Prop
  step : S → L → S → Prop

namespace LTS

variable {S L : Type} {M : LTS S L}

/-- `M.Run s ls s'`: the steps labelled `ls`, in order, lead from `s` to `s'`. -/
inductive Run (M : LTS S L) : S → List L → S → Prop
  | nil (a : S) : Run M a [] a
  | cons {a b c : S} {l : L} {ls : List L} (first : M.step a l b) (rest : Run M b ls c) :
      Run M a (l :: ls) c

/-- A state some run reaches from an initial state. -/
def Reachable (M : LTS S L) (s : S) : Prop := ∃ s₀ ls, M.init s₀ ∧ M.Run s₀ ls s

/-- The system of a partial step function. -/
def ofFn (init : S → Prop) (f : S → L → Option S) : LTS S L where
  init := init
  step s l s' := f s l = some s'

/-- `I` holds initially and every step keeps it. -/
structure Inductive (M : LTS S L) (I : S → Prop) : Prop where
  init : ∀ s, M.init s → I s
  step : ∀ s l s', I s → M.step s l s' → I s'

theorem Run.keeps {I : S → Prop} (hI : ∀ s l s', I s → M.step s l s' → I s') {s s' : S}
    {ls : List L} (h : M.Run s ls s') : I s → I s' := by
  induction h with
  | nil => exact id
  | cons hs _ ih => exact fun h0 => ih (hI _ _ _ h0 hs)

theorem Inductive.reachable {I : S → Prop} (hI : M.Inductive I) (s : S) (h : M.Reachable s) :
    I s := by
  obtain ⟨s₀, ls, h0, hr⟩ := h
  exact hr.keeps hI.step (hI.init s₀ h0)

/-- What holds of a state and all that led to it. -/
theorem Run.history {P : List L → S → Prop} (hP : ∀ ls s l s', P ls s → M.step s l s' → P (ls ++ [l]) s')
    {s s' : S} {ls : List L} (h : M.Run s ls s') : P [] s → P ls s' := by
  have hfrom : ∀ earlier, P earlier s → P (earlier ++ ls) s' := by
    induction h with
    | nil =>
      intro earlier h0
      rw [List.append_nil]
      exact h0
    | @cons a b c l ls first _ ih =>
      intro earlier h0
      rw [List.append_cons]
      exact ih _ (hP _ _ _ _ h0 first)
  exact hfrom []

theorem Run.append {a b c : S} {ls ms : List L} (hab : M.Run a ls b) (hbc : M.Run b ms c) :
    M.Run a (ls ++ ms) c := by
  induction hab with
  | nil => exact hbc
  | cons first _ ih => exact .cons first (ih hbc)

/-- A run over `ls ++ ls'` passes through a state between the two halves. -/
theorem Run.split {ls ls' : List L} : ∀ {s s'' : S}, M.Run s (ls ++ ls') s'' →
    ∃ s', M.Run s ls s' ∧ M.Run s' ls' s'' := by
  induction ls with
  | nil => exact fun h => ⟨_, .nil _, h⟩
  | cons l ls ih =>
    intro s s'' h
    cases h with
    | cons hs hr =>
      obtain ⟨t, h1, h2⟩ := ih hr
      exact ⟨t, .cons hs h1, h2⟩

theorem Reachable.run {s s' : S} {ls : List L} (h : M.Reachable s) (hr : M.Run s ls s') :
    M.Reachable s' := by
  obtain ⟨s₀, ls₀, h0, hr₀⟩ := h
  exact ⟨s₀, ls₀ ++ ls, h0, hr₀.append hr⟩

/-! ## Visits -/

/-- Where `I` holds, the system marks the labels it passes, keeps the marks, and
does not pass a marked label. -/
structure Marking (M : LTS S L) (I : S → Prop) (marked : S → L → Prop) : Prop where
  inv : ∀ {s l s'}, M.step s l s' → I s'
  marks : ∀ {s l s'}, M.step s l s' → marked s' l
  fresh : ∀ {s l s'}, M.step s l s' → ¬ marked s l
  keeps : ∀ {s l s'}, I s → M.step s l s' → ∀ l', marked s l' → marked s' l'

section
variable {I : S → Prop} {marked : S → L → Prop}

theorem Marking.run (hM : M.Marking I marked) {s s' : S} {ls : List L} (h : M.Run s ls s') :
    I s → (∀ l, marked s l → l ∉ ls ∧ marked s' l) ∧ ls.Nodup ∧ ∀ l ∈ ls, marked s' l := by
  induction h with
  | nil a => exact fun _ => ⟨fun l hl => ⟨List.not_mem_nil, hl⟩, List.nodup_nil, by simp⟩
  | @cons a b c l ls first rest ih =>
    intro hI
    obtain ⟨hold, hnd, hnew⟩ := ih (hM.inv first)
    have hl := hold l (hM.marks first)
    refine ⟨fun l' hl' => ?_, List.nodup_cons.2 ⟨hl.1, hnd⟩, ?_⟩
    · obtain ⟨hn, hm⟩ := hold l' (hM.keeps hI first l' hl')
      refine ⟨fun hmem => ?_, hm⟩
      rcases List.mem_cons.1 hmem with rfl | hmem
      · exact hM.fresh first hl'
      · exact hn hmem
    · intro l' hmem
      rcases List.mem_cons.1 hmem with rfl | hmem
      · exact hl.2
      · exact hnew l' hmem

/-- A label is passed once, wherever the run starts. -/
theorem Marking.nodup (hM : M.Marking I marked) {s s' : S} {ls : List L} (h : M.Run s ls s') :
    ls.Nodup ∧ ∀ l ∈ ls, marked s' l := by
  cases h with
  | nil => exact ⟨List.nodup_nil, by simp⟩
  | @cons _ b _ l ls first rest =>
    obtain ⟨hold, hnd, hnew⟩ := hM.run rest (hM.inv first)
    obtain ⟨hn, hm⟩ := hold l (hM.marks first)
    refine ⟨List.nodup_cons.2 ⟨hn, hnd⟩, fun l' hmem => ?_⟩
    rcases List.mem_cons.1 hmem with rfl | hmem
    · exact hm
    · exact hnew l' hmem

end

end LTS
end TinySocks.Core
