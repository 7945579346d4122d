import TinySocks.Core.Protocol

/-!
# Ledgers

Agents are taken on one after the other, each with entries to post. Some are posted
on the spot, the others are due until their agent posts them, in any interleaving.
A `Ledger` is what that leads to, with the proof that nothing is lost or posted
twice; what does not see the order (`weigh_perm`) then has one value at the end,
whatever the interleaving was (`Ledger.weigh_settled`).

`LTS.Run.spends` and `LTS.drains` are for systems that come to an end: every step
does one piece of the work, and there is a step as long as there is work.
-/
namespace TinySocks.Core

variable {E A S L : Type}

/-! ## Sums -/

theorem weigh_append (weight : E → Int) (es fs : List E) :
    weigh weight (es ++ fs) = weigh weight es + weigh weight fs := by
  induction es with
  | nil => simp
  | cons e es ih => rw [List.cons_append, weigh_cons, weigh_cons, ih, Int.add_assoc]

/-- A sum does not see the order. -/
theorem weigh_perm (weight : E → Int) {es fs : List E} (h : es.Perm fs) :
    weigh weight es = weigh weight fs := by
  induction h with
  | nil => rfl
  | cons e _ ih => rw [weigh_cons, weigh_cons, ih]
  | swap e f es =>
    simp only [weigh_cons]
    omega
  | trans _ _ ih ih' => exact ih.trans ih'

theorem weigh_flatMap (weight : E → Int) (f : A → List E) (as : List A) :
    weigh weight (as.flatMap f) = weigh (fun a => weigh weight (f a)) as := by
  induction as with
  | nil => rfl
  | cons a as ih => rw [List.flatMap_cons, weigh_append, ih, weigh_cons]

theorem weigh_congr {f g : E → Int} {es : List E} (h : ∀ e ∈ es, f e = g e) :
    weigh f es = weigh g es := by
  induction es with
  | nil => rfl
  | cons e es ih =>
    obtain ⟨he, hes⟩ := List.forall_mem_cons.1 h
    rw [weigh_cons, weigh_cons, he, ih hes]

theorem weigh_natCast (f : E → Nat) (es : List E) :
    weigh (fun e => (f e : Int)) es = (es.foldr (fun e n => f e + n) 0 : Nat) := by
  induction es with
  | nil => rfl
  | cons e es ih => rw [weigh_cons, ih, List.foldr_cons, Int.natCast_add]

theorem weigh_eq_zero {weight : E → Int} {es : List E} (h : ∀ e ∈ es, weight e = 0) :
    weigh weight es = 0 := by
  induction es with
  | nil => rfl
  | cons e es ih =>
    obtain ⟨he, hes⟩ := List.forall_mem_cons.1 h
    rw [weigh_cons, he, ih hes, Int.zero_add]

theorem weigh_one (es : List E) : weigh (fun _ => 1) es = es.length := by
  induction es with
  | nil => rfl
  | cons e es ih =>
    rw [weigh_cons, ih, List.length_cons]
    omega

/-- A sum over what was taken and what was not is a sum over both. -/
theorem weigh_split (weight : A × Bool → Int) (es : List (A × Bool)) : weigh weight es =
    weigh (fun a => weight (a, true)) ((es.filter Prod.snd).map Prod.fst) +
      weigh (fun a => weight (a, false)) ((es.filter fun e => !e.2).map Prod.fst) := by
  induction es with
  | nil => rfl
  | cons e es ih =>
    obtain ⟨a, b⟩ := e
    cases b <;> simp [ih] <;> omega

/-! ## The ledger -/

/-- What was posted, in order; what each agent has still to post; and all that was
handed in so far. -/
structure Ledger (E : Type) where
  posted : List E
  due : List (List E)
  handed : List E
  balanced : (posted ++ due.flatten).Perm handed

namespace Ledger

def empty : Ledger E := ⟨[], [], [], .nil⟩

/-- Entries that no agent is needed for. -/
def note (b : Ledger E) (now : List E) : Ledger E where
  posted := b.posted ++ now
  due := b.due
  handed := b.handed ++ now
  balanced := by
    rw [List.append_assoc]
    refine ((@List.perm_append_comm _ now _).append_left b.posted).trans ?_
    rw [← List.append_assoc]
    exact b.balanced.append_right now

/-- A new agent, some of whose entries are posted at once. -/
def enter (b : Ledger E) (now later : List E) : Ledger E where
  posted := b.posted ++ now
  due := b.due ++ [later]
  handed := b.handed ++ (now ++ later)
  balanced := by
    rw [List.flatten_concat, ← List.append_assoc, ← List.append_assoc]
    exact (b.note now).balanced.append_right later

/-- What an agent posts is no longer due. -/
theorem flatten_post {due : List (List E)} {i : Nat} {es rest : List E}
    (h : due[i]? = some (es ++ rest)) : (es ++ (due.set i rest).flatten).Perm due.flatten := by
  induction due generalizing i with
  | nil => simp at h
  | cons d due ih =>
    cases i with
    | zero =>
      obtain rfl : d = es ++ rest := by simpa using h
      simp
    | succ i =>
      have := ih (i := i) (by simpa using h)
      rw [List.set_cons_succ, List.flatten_cons, List.flatten_cons, ← List.append_assoc]
      refine (List.perm_append_comm.append_right _).trans ?_
      rw [List.append_assoc]
      exact this.append_left d

/-- An agent posts its next entries. -/
def post (b : Ledger E) (i : Nat) (es rest : List E) (h : b.due[i]? = some (es ++ rest)) : Ledger E where
  posted := b.posted ++ es
  due := b.due.set i rest
  handed := b.handed
  balanced := by
    rw [List.append_assoc]
    exact ((flatten_post h).append_left b.posted).trans b.balanced

section
variable (b : Ledger E) (now later : List E)

@[simp] theorem note_posted : (b.note now).posted = b.posted ++ now := rfl
@[simp] theorem note_due : (b.note now).due = b.due := rfl
@[simp] theorem note_handed : (b.note now).handed = b.handed ++ now := rfl
@[simp] theorem enter_posted : (b.enter now later).posted = b.posted ++ now := rfl
@[simp] theorem enter_due : (b.enter now later).due = b.due ++ [later] := rfl
@[simp] theorem enter_handed : (b.enter now later).handed = b.handed ++ (now ++ later) := rfl

end

section
variable (b : Ledger E) {i : Nat} {es rest : List E} (h : b.due[i]? = some (es ++ rest))

@[simp] theorem post_posted : (b.post i es rest h).posted = b.posted ++ es := rfl
@[simp] theorem post_due : (b.post i es rest h).due = b.due.set i rest := rfl
@[simp] theorem post_handed : (b.post i es rest h).handed = b.handed := rfl

end

/-- Nothing is due. -/
def Settled (b : Ledger E) : Prop := ∀ es ∈ b.due, es = []

theorem Settled.perm {b : Ledger E} (h : b.Settled) : b.posted.Perm b.handed := by
  have hnone : b.due.flatten = [] := List.flatten_eq_nil_iff.2 h
  have := b.balanced
  rwa [hnone, List.append_nil] at this

/-- At the end a sum over what was posted is the sum over what was handed in. -/
theorem Settled.weigh {b : Ledger E} (h : b.Settled) (weight : E → Int) :
    weigh weight b.posted = Core.weigh weight b.handed := weigh_perm weight h.perm

end Ledger

/-! ## Coming to an end -/

namespace LTS

variable {M : LTS S L} {work : S → Nat} {quiet : L → Prop}

/-- Where every quiet step does one piece of the work, a run of them does as many as
it has steps. -/
theorem Run.spends (hstep : ∀ {s l s'}, quiet l → M.step s l s' → work s = work s' + 1) {s s' : S}
    {ls : List L} (h : M.Run s ls s') (hls : ∀ l ∈ ls, quiet l) : work s = ls.length + work s' := by
  induction h with
  | nil => exact (Nat.zero_add _).symm
  | cons first _ ih =>
    obtain ⟨hl, hls⟩ := List.forall_mem_cons.1 hls
    rw [hstep hl first, ih hls, List.length_cons]
    omega

/-- Where every own step does a piece of the work, and a step may bring more of it, a run
makes no more own steps than there was work and was brought. -/
theorem Run.budget {own : L → Bool} {load : L → Nat}
    (hstep : ∀ {s l s'}, M.step s l s' → (own l).toNat + work s' ≤ work s + load l) {s s' : S}
    {ls : List L} (h : M.Run s ls s') :
    ls.countP own + work s' ≤ work s + ls.foldr (fun l n => load l + n) 0 := by
  induction h with
  | nil => simp
  | @cons a b c l ls first _ ih =>
    have hfirst := hstep first
    have hcount : (l :: ls).countP own = ls.countP own + (own l).toNat := by
      cases hown : own l <;> simp [hown]
    rw [List.foldr_cons, hcount]
    omega

/-- Where every quiet step leaves less work, and there is one from wherever a run from `s`
comes to, until this is done, some run from `s` does it. -/
theorem drains {done : S → Prop} (hstep : ∀ {s l s'}, quiet l → M.step s l s' → work s' < work s) {s : S}
    (hnext : ∀ {ls s'}, M.Run s ls s' → ¬ done s' → ∃ l s'', quiet l ∧ M.step s' l s'') :
    ∃ ls s', M.Run s ls s' ∧ (∀ l ∈ ls, quiet l) ∧ done s' := by
  induction hn : work s using Nat.strongRecOn generalizing s with
  | ind n ih =>
    by_cases hs : done s
    · exact ⟨[], s, .nil s, by simp, hs⟩
    · obtain ⟨l, s₁, hl, hs₁⟩ := hnext (.nil s) hs
      obtain ⟨ls, s', hrun, hls, hd⟩ :=
        ih _ (hn ▸ hstep hl hs₁) (fun hrun => hnext (.cons hs₁ hrun)) rfl
      exact ⟨l :: ls, s', .cons hs₁ hrun, List.forall_mem_cons.2 ⟨hl, hls⟩, hd⟩

end LTS
end TinySocks.Core
