/-!
# Programs that keep their state on failure

`EStateM ε σ` is a program over a state `σ` that may stop with an `ε`; the
state reached is kept either way. Two rules carry every proof about such
programs:

* `bind_eq_ok` / `bind_eq_error` peel a sequence apart at its first step;
* `Keeps R`: whatever the outcome, the state after is `R`-related to the
  state before, for a reflexive and transitive `R`.
-/
namespace TinySocks.Core

variable {ε σ α β : Type}

/-- The state a program ends in, whether it returned or failed. -/
def finalState : EStateM.Result ε σ α → σ
  | .ok _ s => s
  | .error _ s => s

@[simp] theorem finalState_ok (a : α) (s : σ) :
    finalState (.ok a s : EStateM.Result ε σ α) = s := rfl

@[simp] theorem finalState_error (e : ε) (s : σ) :
    finalState (.error e s : EStateM.Result ε σ α) = s := rfl

theorem bind_apply (x : EStateM ε σ α) (f : α → EStateM ε σ β) (s : σ) :
    (x >>= f) s = match x s with
      | .ok a s' => f a s'
      | .error e s' => .error e s' := rfl

theorem bind_eq_ok {x : EStateM ε σ α} {f : α → EStateM ε σ β} {s s'' : σ} {b : β} :
    (x >>= f) s = .ok b s'' ↔ ∃ a s', x s = .ok a s' ∧ f a s' = .ok b s'' := by
  rw [bind_apply]
  cases hx : x s with
  | ok a s' =>
    constructor
    · exact fun h => ⟨a, s', rfl, h⟩
    · intro hp
      obtain ⟨_, _, he, h⟩ := hp
      cases he
      exact h
  | error e s' =>
    constructor
    · exact fun h => by cases h
    · intro hp
      obtain ⟨_, _, he, -⟩ := hp
      cases he

theorem bind_eq_error {x : EStateM ε σ α} {f : α → EStateM ε σ β} {s s'' : σ} {e : ε} :
    (x >>= f) s = .error e s'' ↔
      x s = .error e s'' ∨ ∃ a s', x s = .ok a s' ∧ f a s' = .error e s'' := by
  rw [bind_apply]
  cases hx : x s with
  | ok a s' =>
    constructor
    · exact fun h => .inr ⟨a, s', rfl, h⟩
    · intro hp
      rcases hp with h | ⟨_, _, he, h⟩
      · cases h
      · cases he
        exact h
  | error e' s' =>
    constructor
    · intro h
      cases h
      exact .inl rfl
    · intro hp
      rcases hp with h | ⟨_, _, he, -⟩
      · cases h
        rfl
      · cases he

/-- Once the first step returned, the sequence is the rest of it. -/
theorem bind_of_ok {x : EStateM ε σ α} {f : α → EStateM ε σ β} {s s' : σ} {a : α}
    (h : x s = .ok a s') : (x >>= f) s = f a s' := by
  rw [bind_apply, h]

@[simp] theorem pure_apply (a : α) (s : σ) : (pure a : EStateM ε σ α) s = .ok a s := rfl

@[simp] theorem throw_apply (e : ε) (s : σ) : (throw e : EStateM ε σ α) s = .error e s := rfl

theorem ofExcept_ok_bind (a : α) (f : α → EStateM ε σ β) : (ofExcept (.ok a) >>= f) = f a := rfl

theorem tryCatch_of_ok {x : EStateM ε σ α} {h : ε → EStateM ε σ α} {s s' : σ} {a : α}
    (hx : x s = .ok a s') : tryCatch x h s = .ok a s' := by
  show EStateM.tryCatch x h s = _
  unfold EStateM.tryCatch
  rw [hx]

/-- The handler goes on from the state the failure left. -/
theorem tryCatch_of_error {x : EStateM ε σ α} {h : ε → EStateM ε σ α} {s s' : σ} {e : ε}
    (hx : x s = .error e s') : tryCatch x h s = h e s' := by
  show EStateM.tryCatch x h s = _
  unfold EStateM.tryCatch
  rw [hx]
  rfl

/-- The same rule for results without a state. -/
theorem except_bind_eq_ok {x : Except ε α} {f : α → Except ε β} {b : β} :
    (x >>= f) = .ok b ↔ ∃ a, x = .ok a ∧ f a = .ok b := by
  cases x with
  | ok a =>
    constructor
    · exact fun h => ⟨a, rfl, h⟩
    · intro hx
      obtain ⟨_, he, h⟩ := hx
      cases he
      exact h
  | error e =>
    constructor
    · exact fun h => by cases h
    · intro hx
      obtain ⟨_, he, -⟩ := hx
      cases he

theorem except_map_eq_ok {x : Except ε α} {f : α → β} {b : β} :
    x.map f = .ok b ↔ ∃ a, x = .ok a ∧ f a = b := by
  cases x with
  | ok a =>
    constructor
    · intro h
      cases h
      exact ⟨a, rfl, rfl⟩
    · intro hx
      obtain ⟨_, he, rfl⟩ := hx
      cases he
      rfl
  | error e =>
    constructor
    · exact fun h => by cases h
    · intro hx
      obtain ⟨_, he, -⟩ := hx
      cases he

/-! ## Frame relations -/

/-- Whatever happens, the state after is `R`-related to the state before. -/
def Keeps (R : σ → σ → Prop) (m : EStateM ε σ α) : Prop := ∀ s, R s (finalState (m s))

/-- A frame relation: it allows doing nothing and doing two things in a row. -/
structure Frame (R : σ → σ → Prop) : Prop where
  refl : ∀ s, R s s
  trans : ∀ {s s' s''}, R s s' → R s' s'' → R s s''

section
variable {R : σ → σ → Prop} (hR : Frame R)
include hR

theorem Keeps.pure (a : α) : Keeps R (pure a : EStateM ε σ α) := fun s => hR.refl s

theorem Keeps.throw (e : ε) : Keeps R (throw e : EStateM ε σ α) := fun s => hR.refl s

theorem Keeps.ofExcept (x : Except ε α) : Keeps R (ofExcept x : EStateM ε σ α) := by
  cases x with
  | ok a => exact Keeps.pure hR a
  | error e => exact Keeps.throw hR e

/-- The rule for a sequence from one state on: what follows the first step is
looked at only in the states that step leads to. -/
theorem Frame.bind {x : EStateM ε σ α} {f : α → EStateM ε σ β} {s : σ} (hx : R s (finalState (x s)))
    (hf : ∀ a s', x s = .ok a s' → R s' (finalState (f a s'))) : R s (finalState ((x >>= f) s)) := by
  rw [bind_apply]
  cases h : x s with
  | ok a s' =>
    rw [h] at hx
    exact hR.trans hx (hf a s' h)
  | error e s' =>
    rw [h] at hx
    exact hx

theorem Keeps.bind {x : EStateM ε σ α} {f : α → EStateM ε σ β} (hx : Keeps R x)
    (hf : ∀ a, Keeps R (f a)) : Keeps R (x >>= f) :=
  fun s => Frame.bind hR (hx s) fun a s' _ => hf a s'

theorem Keeps.tryCatch {x : EStateM ε σ α} {h : ε → EStateM ε σ α} (hx : Keeps R x)
    (hh : ∀ e, Keeps R (h e)) : Keeps R (tryCatch x h) := by
  intro s
  have h1 := hx s
  cases hs : x s with
  | ok a s' =>
    rw [hs] at h1
    rw [tryCatch_of_ok hs]
    exact h1
  | error e s' =>
    rw [hs] at h1
    rw [tryCatch_of_error hs]
    exact hR.trans h1 (hh e s')

end

theorem Keeps.mono {R S : σ → σ → Prop} {m : EStateM ε σ α} (h : Keeps R m)
    (hRS : ∀ {s s'}, R s s' → S s s') : Keeps S m := fun s => hRS (h s)

theorem Keeps.ite {R : σ → σ → Prop} {p : Prop} [Decidable p] {x y : EStateM ε σ α}
    (hx : Keeps R x) (hy : Keeps R y) : Keeps R (if p then x else y) := by
  split
  · exact hx
  · exact hy

/-! ## Two runs -/

/-- Two programs that do the same, from states that are related to such states. -/
def InStep (R : σ → σ → Prop) (x y : EStateM ε σ α) : Prop := ∀ s t, R s t →
  (∃ a s' t', x s = .ok a s' ∧ y t = .ok a t' ∧ R s' t') ∨
  ∃ e s' t', x s = .error e s' ∧ y t = .error e t' ∧ R s' t'

/-- Two programs that end in related states, whatever they do last. -/
def Ends (R S : σ → σ → Prop) (x y : EStateM ε σ α) : Prop :=
  ∀ s t, R s t → S (finalState (x s)) (finalState (y t))

section
variable {R S : σ → σ → Prop}

theorem InStep.pure (a : α) : InStep R (pure a : EStateM ε σ α) (pure a) :=
  fun s t h => .inl ⟨a, s, t, rfl, rfl, h⟩

theorem InStep.throw (e : ε) : InStep R (throw e : EStateM ε σ α) (throw e) :=
  fun s t h => .inr ⟨e, s, t, rfl, rfl, h⟩

theorem InStep.ofExcept (x : Except ε α) : InStep R (ofExcept x : EStateM ε σ α) (ofExcept x) := by
  cases x with
  | ok a => exact InStep.pure a
  | error e => exact InStep.throw e

/-- One program from one state. -/
theorem InStep.same (x : EStateM ε σ α) : InStep Eq x x := by
  intro s _ he
  subst he
  cases h : x s with
  | ok a s' => exact .inl ⟨a, s', s', rfl, rfl, rfl⟩
  | error e s' => exact .inr ⟨e, s', s', rfl, rfl, rfl⟩

theorem InStep.bind {x y : EStateM ε σ α} {f g : α → EStateM ε σ β} (hx : InStep R x y)
    (hf : ∀ a, InStep R (f a) (g a)) : InStep R (x >>= f) (y >>= g) := by
  intro s t h
  rw [bind_apply, bind_apply]
  rcases hx s t h with ⟨a, s', t', hs, ht, h'⟩ | ⟨e, s', t', hs, ht, h'⟩
  · rw [hs, ht]
    exact hf a s' t' h'
  · rw [hs, ht]
    exact .inr ⟨e, s', t', rfl, rfl, h'⟩

theorem InStep.ends {x y : EStateM ε σ α} (h : InStep R x y) (hRS : ∀ {s t}, R s t → S s t) :
    Ends R S x y := by
  intro s t hst
  rcases h s t hst with ⟨a, s', t', hs, ht, h'⟩ | ⟨e, s', t', hs, ht, h'⟩
  all_goals
    rw [hs, ht]
    exact hRS h'

theorem Ends.bind {x y : EStateM ε σ α} {f g : α → EStateM ε σ β} (hx : InStep R x y)
    (hRS : ∀ {s t}, R s t → S s t) (hf : ∀ a, Ends R S (f a) (g a)) : Ends R S (x >>= f) (y >>= g) := by
  intro s t h
  rw [bind_apply, bind_apply]
  rcases hx s t h with ⟨a, s', t', hs, ht, h'⟩ | ⟨e, s', t', hs, ht, h'⟩
  · rw [hs, ht]
    exact hf a s' t' h'
  · rw [hs, ht]
    exact hRS h'

end

end TinySocks.Core
