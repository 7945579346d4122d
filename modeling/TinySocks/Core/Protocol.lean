import TinySocks.Core.Effect
import TinySocks.Core.Lts

/-!
# Programs that obey a protocol

A protocol is a transition system over phases, labelled with events. A program that
logs what it does obeys it from a phase if all it logs, until it returns or fails, is
a run of the protocol from there. `Obeys` says so, with the phases a program may
return and fail in.

* `Obeys.bind` takes a program apart at its steps, `Obeys.catch` at its handlers.
* `ObeysAt` is about one state: what is said of the outcome may be about what was there.
* `Obeys.stays`: events that do not leave a phase may come in any number.
* `LTS.Run.weigh`: what every event of a protocol balances, a run balances.
* `LTS.Run.crossing`: a run that gets somewhere takes the step that leads there.
-/
namespace TinySocks.Core

variable {P E σ ε α β : Type} {A : LTS P E} {log : σ → List E}

/-- From the phase `p` on, what the program logs is a run; it returns in a phase of `ok`,
or fails in one of `stop`. -/
def Obeys (A : LTS P E) (log : σ → List E) (p : P) (m : EStateM ε σ α) (ok : α → P → Prop)
    (stop : ε → P → Prop) : Prop :=
  ∀ s, ∃ evs q, log (finalState (m s)) = log s ++ evs ∧ A.Run p evs q ∧
    match m s with
    | .ok a _ => ok a q
    | .error e _ => stop e q

section
variable {p : P} {ok : α → P → Prop} {stop : ε → P → Prop}

theorem Obeys.pure {a : α} (h : ok a p) : Obeys A log p (pure a : EStateM ε σ α) ok stop :=
  fun _ => ⟨[], p, (List.append_nil _).symm, .nil p, h⟩

theorem Obeys.throw {e : ε} (h : stop e p) : Obeys A log p (throw e : EStateM ε σ α) ok stop :=
  fun _ => ⟨[], p, (List.append_nil _).symm, .nil p, h⟩

theorem Obeys.mono {m : EStateM ε σ α} {ok' : α → P → Prop} {stop' : ε → P → Prop}
    (h : Obeys A log p m ok stop) (hok : ∀ a q, ok a q → ok' a q)
    (hstop : ∀ e q, stop e q → stop' e q) :
    Obeys A log p m ok' stop' := by
  intro s
  obtain ⟨evs, q, hlog, hrun, hq⟩ := h s
  refine ⟨evs, q, hlog, hrun, ?_⟩
  cases hm : m s with
  | ok a s' =>
    rw [hm] at hq
    exact hok a q hq
  | error e s' =>
    rw [hm] at hq
    exact hstop e q hq

/-- The rule for a sequence. -/
theorem Obeys.bind {x : EStateM ε σ α} {f : α → EStateM ε σ β} {mid : α → P → Prop}
    {ok : β → P → Prop} (hx : Obeys A log p x mid stop)
    (hf : ∀ a q, mid a q → Obeys A log q (f a) ok stop) : Obeys A log p (x >>= f) ok stop := by
  intro s
  obtain ⟨evs, q, hlog, hrun, hq⟩ := hx s
  rw [bind_apply]
  cases hm : x s with
  | ok a s' =>
    rw [hm] at hlog hq
    obtain ⟨evs', q', hlog', hrun', hq'⟩ := hf a q hq s'
    refine ⟨evs ++ evs', q', ?_, hrun.append hrun', hq'⟩
    rw [hlog', ← List.append_assoc]
    exact congrArg (· ++ evs') hlog
  | error e s' =>
    rw [hm] at hlog hq
    exact ⟨evs, q, hlog, hrun, hq⟩

/-- A sequence whose first step returns in one phase. -/
theorem Obeys.after {x : EStateM ε σ α} {f : α → EStateM ε σ β} {q : P} {ok : β → P → Prop}
    (hx : Obeys A log p x (fun _ r => r = q) stop) (hf : ∀ a, Obeys A log q (f a) ok stop) :
    Obeys A log p (x >>= f) ok stop := Obeys.bind hx fun a _ h => h ▸ hf a

/-- The rule for a handler: it goes on in the phase the failure left. -/
theorem Obeys.catch {x : EStateM ε σ α} {h : ε → EStateM ε σ α} {fail : ε → P → Prop}
    (hx : Obeys A log p x ok fail) (hh : ∀ e q, fail e q → Obeys A log q (h e) ok stop) :
    Obeys A log p (tryCatch x h) ok stop := by
  intro s
  obtain ⟨evs, q, hlog, hrun, hq⟩ := hx s
  cases hm : x s with
  | ok a s' =>
    rw [hm] at hlog hq
    rw [tryCatch_of_ok hm]
    exact ⟨evs, q, hlog, hrun, hq⟩
  | error e s' =>
    rw [hm] at hlog hq
    obtain ⟨evs', q', hlog', hrun', hq'⟩ := hh e q hq s'
    rw [tryCatch_of_error hm]
    refine ⟨evs ++ evs', q', ?_, hrun.append hrun', hq'⟩
    rw [hlog', ← List.append_assoc]
    exact congrArg (· ++ evs') hlog

theorem Obeys.adapt {ε' : Type} {m : EStateM ε σ α} {stop' : ε' → P → Prop}
    (h : Obeys A log p m ok stop) {f : ε → ε'} (hf : ∀ e q, stop e q → stop' (f e) q) :
    Obeys A log p (EStateM.adaptExcept f m) ok stop' := by
  intro s
  obtain ⟨evs, q, hlog, hrun, hq⟩ := h s
  unfold EStateM.adaptExcept
  cases hm : m s with
  | ok a s' =>
    rw [hm] at hlog hq
    exact ⟨evs, q, hlog, hrun, hq⟩
  | error e s' =>
    rw [hm] at hlog hq
    exact ⟨evs, q, hlog, hrun, hf e q hq⟩

theorem Obeys.ite {c : Prop} [Decidable c] {x y : EStateM ε σ α} (hx : Obeys A log p x ok stop)
    (hy : Obeys A log p y ok stop) : Obeys A log p (if c then x else y) ok stop := by
  split
  · exact hx
  · exact hy

end

theorem LTS.Run.stays {p : P} {evs : List E} (h : ∀ e ∈ evs, A.step p e p) : A.Run p evs p := by
  induction evs with
  | nil => exact .nil p
  | cons e evs ih =>
    obtain ⟨he, hevs⟩ := List.forall_mem_cons.1 h
    exact .cons he (ih hevs)

/-- A program whose events all leave it in its phase. -/
theorem Obeys.stays {p : P} {m : EStateM ε σ α} {k : E → Bool}
    (hk : ∀ e, k e = true → A.step p e p)
    (hm : ∀ s, ∃ evs, log (finalState (m s)) = log s ++ evs ∧ ∀ e ∈ evs, k e = true) :
    Obeys A log p m (fun _ q => q = p) (fun _ q => q = p) := by
  intro s
  obtain ⟨evs, hlog, hevs⟩ := hm s
  refine ⟨evs, p, hlog, .stays fun e he => hk e (hevs e he), ?_⟩
  cases m s <;> rfl

/-! ## From one state on -/

/-- What `Obeys` says, from one state on and of all of the outcome. -/
def ObeysAt (A : LTS P E) (log : σ → List E) (s : σ) (p : P) (m : EStateM ε σ α)
    (post : EStateM.Result ε σ α → P → Prop) : Prop :=
  ∃ evs q, log (finalState (m s)) = log s ++ evs ∧ A.Run p evs q ∧ post (m s) q

section
variable {p : P} {s : σ} {stop : ε → P → Prop}

theorem ObeysAt.mono {m : EStateM ε σ α} {post post' : EStateM.Result ε σ α → P → Prop}
    (h : ObeysAt A log s p m post) (hpost : ∀ r q, post r q → post' r q) : ObeysAt A log s p m post' := by
  obtain ⟨evs, q, hlog, hrun, hq⟩ := h
  exact ⟨evs, q, hlog, hrun, hpost _ q hq⟩

theorem Obeys.obeysAt {m : EStateM ε σ α} {ok : α → P → Prop} (h : Obeys A log p m ok stop)
    {post : EStateM.Result ε σ α → P → Prop}
    (hok : ∀ a s' q, m s = .ok a s' → log s <+: log s' → ok a q → post (.ok a s') q)
    (hstop : ∀ e s' q, m s = .error e s' → log s <+: log s' → stop e q → post (.error e s') q) :
    ObeysAt A log s p m post := by
  obtain ⟨evs, q, hlog, hrun, hq⟩ := h s
  refine ⟨evs, q, hlog, hrun, ?_⟩
  cases hm : m s with
  | ok a s' =>
    rw [hm] at hlog hq
    exact hok a s' q hm ⟨evs, hlog.symm⟩ hq
  | error e s' =>
    rw [hm] at hlog hq
    exact hstop e s' q hm ⟨evs, hlog.symm⟩ hq

/-- The rule for a sequence; what its first step did in this state is known to the second. -/
theorem Obeys.bindAt {x : EStateM ε σ α} {f : α → EStateM ε σ β} {mid : α → P → Prop}
    (hx : Obeys A log p x mid stop) {post : EStateM.Result ε σ β → P → Prop}
    (hok : ∀ a s' q, x s = .ok a s' → mid a q → ObeysAt A log s' q (f a) post)
    (hstop : ∀ e s' q, x s = .error e s' → stop e q → post (.error e s') q) :
    ObeysAt A log s p (x >>= f) post := by
  obtain ⟨evs, q, hlog, hrun, hq⟩ := hx s
  unfold ObeysAt
  rw [bind_apply]
  cases hm : x s with
  | ok a s' =>
    rw [hm] at hlog hq
    obtain ⟨evs', q', hlog', hrun', hq'⟩ := hok a s' q hm hq
    refine ⟨evs ++ evs', q', ?_, hrun.append hrun', hq'⟩
    rw [hlog', ← List.append_assoc]
    exact congrArg (· ++ evs') hlog
  | error e s' =>
    rw [hm] at hlog hq
    exact ⟨evs, q, hlog, hrun, hstop e s' q hm hq⟩

end

/-! ## What a run comes to -/

/-- The sum of the weights of the events. -/
def weigh (weight : E → Int) (evs : List E) : Int := evs.foldr (fun e n => weight e + n) 0

@[simp] theorem weigh_nil (weight : E → Int) : weigh weight [] = 0 := rfl

@[simp] theorem weigh_cons (weight : E → Int) (e : E) (evs : List E) :
    weigh weight (e :: evs) = weight e + weigh weight evs := rfl

/-- One for each event of a kind. -/
def tally (k : E → Bool) (e : E) : Int := (k e).toInt

theorem weigh_tally (k : E → Bool) (evs : List E) : weigh (tally k) evs = evs.countP k := by
  induction evs with
  | nil => rfl
  | cons e evs ih =>
    rw [weigh_cons, ih, tally, List.countP_cons]
    cases k e with
    | false => simp
    | true =>
      simp
      omega

theorem weigh_add (f g : E → Int) (evs : List E) :
    weigh (fun e => f e + g e) evs = weigh f evs + weigh g evs := by
  induction evs with
  | nil => rfl
  | cons e evs ih =>
    rw [weigh_cons, weigh_cons, weigh_cons, ih]
    omega

theorem weigh_sub (f g : E → Int) (evs : List E) :
    weigh (fun e => f e - g e) evs = weigh f evs - weigh g evs := by
  induction evs with
  | nil => rfl
  | cons e evs ih =>
    rw [weigh_cons, weigh_cons, weigh_cons, ih]
    omega

/-- A balance that every step keeps is kept by a run. -/
theorem LTS.Run.weigh {φ : P → Int} {weight : E → Int}
    (hφ : ∀ {p e q}, A.step p e q → φ q = φ p + weight e) {p q : P} {evs : List E}
    (h : A.Run p evs q) : φ q = φ p + weigh weight evs := by
  induction h with
  | nil p => simp
  | cons first rest ih => rw [ih, hφ first, weigh_cons, Int.add_assoc]

/-- So is a bound. -/
theorem LTS.Run.weigh_le {φ : P → Int} {weight : E → Int}
    (hφ : ∀ {p e q}, A.step p e q → φ p + weight e ≤ φ q) {p q : P} {evs : List E}
    (h : A.Run p evs q) : φ p + Core.weigh weight evs ≤ φ q := by
  induction h with
  | nil p => simp
  | cons first rest ih =>
    have := hφ first
    rw [weigh_cons]
    omega

/-- A run that ends where it did not begin gets there by a step. -/
theorem LTS.Run.crossing {I : P → Prop} {p q : P} {evs : List E} (h : A.Run p evs q) (hp : ¬ I p)
    (hq : I q) : ∃ pre e post p' q', evs = pre ++ e :: post ∧ A.Run p pre p' ∧ ¬ I p' ∧
      A.step p' e q' ∧ I q' ∧ A.Run q' post q := by
  induction h with
  | nil p => exact absurd hq hp
  | @cons a b c e es first rest ih =>
    by_cases hb : I b
    · exact ⟨[], e, es, a, b, rfl, .nil a, hp, first, hb, rest⟩
    · obtain ⟨pre, e', post, p', q', rfl, hrun, hp', hstep, hq', hrest⟩ := ih hb hq
      exact ⟨e :: pre, e', post, p', q', rfl, .cons first hrun, hp', hstep, hq', hrest⟩

end TinySocks.Core
