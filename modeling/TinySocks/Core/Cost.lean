import Mathlib.Algebra.Order.Monoid.Canonical.Defs
import Mathlib.Algebra.Order.Monoid.Prod
import TinySocks.Core.Effect

/-!
# What a program spends before it commits

A program logs what it does. Its events cost something, in any ordered monoid, until
the first event that commits it; what comes behind that is not counted. `Spends` bounds
this for a program from a state on.

* `Spends.bind`, `Spends.catch`: the bounds of a sequence add up.
* `Commits.bind`: behind a step that commits, a program may do what it likes.
* `outlay_takeWhile`: what is bounded is what happened until then.
-/
namespace TinySocks.Core

variable {E C σ ε α β : Type}

section
variable [AddCommMonoid C] (weight : E → C) (commits : E → Bool)

/-- What the events cost up to the first that commits. -/
def outlay : List E → C
  | [] => 0
  | e :: es => if commits e then 0 else weight e + outlay es

theorem outlay_append_committed {es : List E} (h : ∃ e ∈ es, commits e = true) (fs : List E) :
    outlay weight commits (es ++ fs) = outlay weight commits es := by
  induction es with
  | nil => simp at h
  | cons e es ih =>
    rw [List.cons_append, outlay, outlay]
    cases hc : commits e with
    | true => rfl
    | false =>
      simp only [Bool.false_eq_true, if_false]
      rw [ih (by simpa [hc] using h)]

theorem outlay_append_free {es : List E} (h : ∀ e ∈ es, commits e = false) (fs : List E) :
    outlay weight commits (es ++ fs) = outlay weight commits es + outlay weight commits fs := by
  induction es with
  | nil => simp [outlay]
  | cons e es ih =>
    obtain ⟨he, hes⟩ := List.forall_mem_cons.1 h
    rw [List.cons_append, outlay, outlay, he, ih hes]
    simp [add_assoc]

/-- The events behind that one do not matter. -/
theorem outlay_takeWhile (es : List E) :
    outlay weight commits (es.takeWhile fun e => !commits e) = outlay weight commits es := by
  induction es with
  | nil => rfl
  | cons e es ih =>
    cases hc : commits e with
    | true => simp [outlay, hc]
    | false => simp [outlay, hc, ih]

end

section
variable [AddCommMonoid C] [PartialOrder C] [CanonicallyOrderedAdd C] (weight : E → C)
  (commits : E → Bool)

theorem outlay_append_le (es fs : List E) :
    outlay weight commits (es ++ fs) ≤ outlay weight commits es + outlay weight commits fs := by
  by_cases h : ∃ e ∈ es, commits e = true
  · rw [outlay_append_committed weight commits h]
    exact le_self_add
  · refine le_of_eq (outlay_append_free weight commits (fun e he => ?_) fs)
    cases hc : commits e with
    | true => exact absurd ⟨e, he, hc⟩ h
    | false => rfl

end

/-! ## Programs -/

section
variable [AddCommMonoid C] [PartialOrder C] (log : σ → List E) (weight : E → C) (commits : E → Bool)

/-- From `s` on, the program spends at most `n` before it commits. -/
def Spends (s : σ) (m : EStateM ε σ α) (n : C) : Prop :=
  ∃ es, log (finalState (m s)) = log s ++ es ∧ outlay weight commits es ≤ n

/-- And it does commit. -/
def Commits (s : σ) (m : EStateM ε σ α) (n : C) : Prop :=
  ∃ es, log (finalState (m s)) = log s ++ es ∧ outlay weight commits es ≤ n ∧ ∃ e ∈ es, commits e = true

end

section
variable [AddCommMonoid C] [PartialOrder C] {log : σ → List E} {weight : E → C} {commits : E → Bool}
  {s : σ} {n k : C}

theorem Commits.spends {m : EStateM ε σ α} (h : Commits log weight commits s m n) :
    Spends log weight commits s m n := by
  obtain ⟨es, hlog, hle, -⟩ := h
  exact ⟨es, hlog, hle⟩

theorem Spends.mono {m : EStateM ε σ α} (h : Spends log weight commits s m n) (hnk : n ≤ k) :
    Spends log weight commits s m k := by
  obtain ⟨es, hlog, hle⟩ := h
  exact ⟨es, hlog, hle.trans hnk⟩

theorem Spends.adapt {ε' : Type} {m : EStateM ε σ α} (h : Spends log weight commits s m n)
    (f : ε → ε') : Spends log weight commits s (EStateM.adaptExcept f m) n := by
  obtain ⟨es, hlog, hle⟩ := h
  refine ⟨es, ?_, hle⟩
  rw [← hlog]
  unfold EStateM.adaptExcept
  cases m s <;> rfl

theorem Commits.adapt {ε' : Type} {m : EStateM ε σ α} (h : Commits log weight commits s m n)
    (f : ε → ε') : Commits log weight commits s (EStateM.adaptExcept f m) n := by
  obtain ⟨es, hlog, hle⟩ := h
  refine ⟨es, ?_, hle⟩
  rw [← hlog]
  unfold EStateM.adaptExcept
  cases m s <;> rfl

/-- A program that has committed may still handle what went wrong. -/
theorem Commits.catch {x : EStateM ε σ α} {h : ε → EStateM ε σ α}
    (hx : Commits log weight commits s x n)
    (hh : ∀ e s', ∃ es, log (finalState (h e s')) = log s' ++ es) :
    Commits log weight commits s (tryCatch x h) n := by
  obtain ⟨es, hlog, hle, hcommit⟩ := hx
  rw [Commits]
  cases hm : x s with
  | ok a s' =>
    rw [hm] at hlog
    rw [tryCatch_of_ok hm]
    exact ⟨es, hlog, hle, hcommit⟩
  | error e s' =>
    rw [hm] at hlog
    obtain ⟨fs, hfs⟩ := hh e s'
    refine ⟨es ++ fs, ?_, ?_, ?_⟩
    · rw [tryCatch_of_error hm, hfs, ← List.append_assoc]
      exact congrArg (· ++ fs) hlog
    · rw [outlay_append_committed weight commits hcommit]
      exact hle
    · obtain ⟨e, he, hc⟩ := hcommit
      exact ⟨e, List.mem_append_left fs he, hc⟩

/-- A program that commits and whatever follows it, as long as it only logs. -/
theorem Commits.bind {x : EStateM ε σ α} {f : α → EStateM ε σ β}
    (hx : Commits log weight commits s x n)
    (hf : ∀ a s', ∃ es, log (finalState (f a s')) = log s' ++ es) :
    Commits log weight commits s (x >>= f) n := by
  obtain ⟨es, hlog, hle, hcommit⟩ := hx
  rw [Commits, bind_apply]
  cases hm : x s with
  | error e s' =>
    rw [hm] at hlog
    exact ⟨es, hlog, hle, hcommit⟩
  | ok a s' =>
    rw [hm] at hlog
    obtain ⟨fs, hfs⟩ := hf a s'
    refine ⟨es ++ fs, ?_, ?_, ?_⟩
    · show log (finalState (f a s')) = _
      rw [hfs, ← List.append_assoc]
      exact congrArg (· ++ fs) hlog
    · rw [outlay_append_committed weight commits hcommit]
      exact hle
    · obtain ⟨e, he, hc⟩ := hcommit
      exact ⟨e, List.mem_append_left fs he, hc⟩

end

section
variable [AddCommMonoid C] [PartialOrder C] [CanonicallyOrderedAdd C]
  {log : σ → List E} {weight : E → C} {commits : E → Bool} {s : σ} {n k : C}

theorem Spends.quiet {m : EStateM ε σ α} (h : log (finalState (m s)) = log s) :
    Spends log weight commits s m n := ⟨[], by rw [h, List.append_nil], zero_le⟩

theorem Spends.bind_error {x : EStateM ε σ α} {f : α → EStateM ε σ β} {e : ε} (hx : x s = .error e s) :
    Spends log weight commits s (x >>= f) n := .quiet (by rw [bind_eq_error.2 (.inl hx)]; rfl)

theorem Spends.pure (a : α) : Spends log weight commits s (pure a : EStateM ε σ α) n := .quiet rfl

theorem Spends.throw (e : ε) : Spends log weight commits s (throw e : EStateM ε σ α) n := .quiet rfl

variable [IsOrderedAddMonoid C]

/-- The rule for a sequence. -/
theorem Spends.bind {x : EStateM ε σ α} {f : α → EStateM ε σ β} (hx : Spends log weight commits s x n)
    (hf : ∀ a s', x s = .ok a s' → Spends log weight commits s' (f a) k) :
    Spends log weight commits s (x >>= f) (n + k) := by
  obtain ⟨es, hlog, hle⟩ := hx
  rw [Spends, bind_apply]
  cases hm : x s with
  | error e s' =>
    rw [hm] at hlog
    exact ⟨es, hlog, hle.trans le_self_add⟩
  | ok a s' =>
    rw [hm] at hlog
    obtain ⟨fs, hfs, hle'⟩ := hf a s' hm
    refine ⟨es ++ fs, ?_, (outlay_append_le weight commits es fs).trans (add_le_add hle hle')⟩
    show log (finalState (f a s')) = _
    rw [hfs, ← List.append_assoc]
    exact congrArg (· ++ fs) hlog

/-- The same where the first step is known to return. -/
theorem Spends.after {x : EStateM ε σ α} {f : α → EStateM ε σ β} {a : α} {s' : σ} {es : List E}
    (hx : x s = .ok a s') (hlog : log s' = log s ++ es) (hes : outlay weight commits es ≤ n)
    (hf : Spends log weight commits s' (f a) k) : Spends log weight commits s (x >>= f) (n + k) := by
  refine Spends.bind ⟨es, ?_, hes⟩ fun b t hb => ?_
  · rw [hx]
    exact hlog
  · cases hx.symm.trans hb
    exact hf

/-- The rule for a handler. -/
theorem Spends.catch {x : EStateM ε σ α} {h : ε → EStateM ε σ α} (hx : Spends log weight commits s x n)
    (hh : ∀ e s', x s = .error e s' → Spends log weight commits s' (h e) k) :
    Spends log weight commits s (tryCatch x h) (n + k) := by
  obtain ⟨es, hlog, hle⟩ := hx
  rw [Spends]
  cases hm : x s with
  | ok a s' =>
    rw [tryCatch_of_ok hm]
    rw [hm] at hlog
    exact ⟨es, hlog, hle.trans le_self_add⟩
  | error e s' =>
    rw [tryCatch_of_error hm]
    rw [hm] at hlog
    obtain ⟨fs, hfs, hle'⟩ := hh e s' hm
    refine ⟨es ++ fs, ?_, (outlay_append_le weight commits es fs).trans (add_le_add hle hle')⟩
    rw [hfs, ← List.append_assoc]
    exact congrArg (· ++ fs) hlog

end
end TinySocks.Core
