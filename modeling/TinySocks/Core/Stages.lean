import TinySocks.Core.Effect

/-!
# Programs that may be stopped

A program may be stopped between any two of its effects, so its state keeps all stages of
what it works on (`Staged`). `Survives C P m Q` is a triple for that: begun in a stage of
`P`, the program leaves stages of `C` wherever it is stopped or fails, and one of `Q` if it
returns. A triple of a program is put together from those of its steps (`Survives.bind`).
-/
namespace TinySocks.Core

/-- A state with the stage it is in, and all stages so far. -/
class Staged (σ : Type) (S : outParam Type) where
  now : σ → S
  stages : σ → List S

section
variable {σ S ε α β : Type} [Staged σ S] {C P : S → Prop}

def Survives (C P : S → Prop) (m : EStateM ε σ α) (Q : α → S → Prop) : Prop :=
  ∀ d, P (Staged.now d) →
    (∃ new, Staged.stages (finalState (m d)) = Staged.stages d ++ new ∧ ∀ s ∈ new, C s) ∧
      ∀ a d', m d = .ok a d' → Q a (Staged.now d')

theorem Survives.imp {P' : S → Prop} {m : EStateM ε σ α} {Q Q' : α → S → Prop}
    (h : Survives C P m Q) (hP : ∀ s, P' s → P s) (hQ : ∀ a s, Q a s → Q' a s) :
    Survives C P' m Q' := by
  intro d hd
  obtain ⟨hnew, hok⟩ := h d (hP _ hd)
  exact ⟨hnew, fun a d' hm => hQ a _ (hok a d' hm)⟩

/-- The rule for a sequence. -/
theorem Survives.bind {x : EStateM ε σ α} {f : α → EStateM ε σ β} {R : α → S → Prop}
    {Q : β → S → Prop} (hx : Survives C P x R) (hf : ∀ a, Survives C (R a) (f a) Q) :
    Survives C P (x >>= f) Q := by
  intro d hd
  obtain ⟨⟨new, he, hnew⟩, hok⟩ := hx d hd
  rw [bind_apply]
  cases hm : x d with
  | error e d' =>
    rw [hm] at he
    exact ⟨⟨new, he, hnew⟩, nofun⟩
  | ok a d' =>
    rw [hm] at he
    obtain ⟨⟨new', he', hnew'⟩, hok'⟩ := hf a d' (hok a d' hm)
    refine ⟨⟨new ++ new', ?_, List.forall_mem_append.2 ⟨hnew, hnew'⟩⟩, hok'⟩
    show Staged.stages (finalState (f a d')) = _
    rw [he', ← List.append_assoc]
    exact congrArg (· ++ new') he

/-- A program that changes nothing. -/
theorem Survives.quiet {m : EStateM ε σ α} {Q : α → S → Prop} (hm : ∀ d, finalState (m d) = d)
    (hQ : ∀ d a d', m d = .ok a d' → P (Staged.now d) → Q a (Staged.now d)) : Survives C P m Q := by
  intro d hd
  refine ⟨⟨[], ?_, nofun⟩, fun a d' h => ?_⟩
  · rw [hm, List.append_nil]
  · have hsame := hm d
    rw [h] at hsame
    rw [show d' = d from hsame]
    exact hQ d a d' h hd

theorem Survives.pure {a : α} {Q : α → S → Prop} (h : ∀ s, P s → Q a s) :
    Survives C P (pure a : EStateM ε σ α) Q :=
  .quiet (fun _ => rfl) fun _ _ _ hm hP => by
    cases hm
    exact h _ hP

theorem Survives.throw {e : ε} {Q : α → S → Prop} :
    Survives C P (throw e : EStateM ε σ α) Q :=
  .quiet (fun _ => rfl) fun _ _ _ hm => nomatch hm

theorem Survives.ofExcept {x : Except ε α} {Q : α → S → Prop}
    (h : ∀ a, x = .ok a → ∀ s, P s → Q a s) :
    Survives C P (ofExcept x : EStateM ε σ α) Q := by
  cases x with
  | ok a => exact .pure (h a rfl)
  | error e => exact .throw

/-- Every stage is one before the program, or one it may be stopped in. -/
theorem Survives.stages {m : EStateM ε σ α} {Q : α → S → Prop} (h : Survives C P m Q) {d : σ}
    (hP : P (Staged.now d)) (hC : ∀ s ∈ Staged.stages d, C s) :
    ∀ s ∈ Staged.stages (finalState (m d)), C s := by
  obtain ⟨⟨new, he, hnew⟩, -⟩ := h d hP
  rw [he]
  exact List.forall_mem_append.2 ⟨hC, hnew⟩

end
end TinySocks.Core
