import TinySocks.L5Concurrency.Books

/-!
# How the accept loop ends (`server.rs`)

`ProxyServer::run` binds, and then waits for a client or for its shutdown receiver,
whichever comes first; a listener that fails ends it as well. The tasks it spawned go on
without it. When the runtime is dropped, a task is dropped where it waits, and what it
holds goes with it: first its guard, then its permit. A task that was never polled holds
its permit but has no guard yet, so nobody takes its connection off the active ones.

* `Call.Balanced`: through all that, every permit is there or held by a task.
* `Call.Tallied`: the counters say what happened, up to the connections left on the
  active ones so, which are what is left there in the end (`Tally`).
* `Call.step_work`, `Call.cancel_work`: every step does a piece of the work, and only a
  client brings more.
-/
namespace TinySocks.L5

open TinySocks.Core TinySocks.L1 TinySocks.L2 TinySocks.L3 TinySocks.L4

/-- mirrors src/server.rs:40-42 -/
def ProxyServer.new (cfg : Config) : Except Str ProxyServer := ProxyServer.withStats cfg true

/-- Where `ProxyServer::run` is. -/
inductive Loop where
  | binding
  | listening
  | returned (result : Except Str Unit)

def Loop.over : Loop → Bool
  | returned _ => true
  | _ => false

/-- A call of `ProxyServer::run`, and what it spawned. `orphans` is history: the tasks
that were dropped before their first poll. -/
structure Call where
  loop : Loop := .binding
  state : State
  orphans : Nat := 0

inductive Event where
  | bound
  | bindFailed
  /-- the bound socket has no local address -/
  | unaddressed (e : Str)
  | accepted (client : Connection)
  | acceptFailed (e : Str)
  /-- the shutdown receiver has something new -/
  | changed
  | task (i : Nat) (act : Act)

/-- What the call fails with. -/
def Event.failure (self : ProxyServer) : Event → Option Str
  | .bindFailed => some ("Failed to bind " ++ self.bind)
  | .unaddressed e | .acceptFailed e => some e
  | _ => none

section
variable (L : Libs) (listener : HttpListener) (self : ProxyServer)

/-- A receiver that was never given does not change.
mirrors src/server.rs:61-205 -/
def Call.step (c : Call) (e : Event) : Option Call :=
  match c.loop, e with
  | .binding, .bound => some { c with loop := .listening }
  | .binding, .bindFailed => some { c with loop := .returned (.error ("Failed to bind " ++ self.bind)) }
  | .binding, .unaddressed e => some { c with loop := .returned (.error e) }
  | .listening, .accepted client => some { c with state := accept self c.state client }
  | .listening, .acceptFailed e => some { c with loop := .returned (.error e) }
  | .listening, .changed => some { c with loop := .returned (.ok ()) }
  | _, .task i act => (L5.step L listener self c.state (.task i act)).map fun s => { c with state := s }
  | _, _ => none

namespace Task

def unpolled : Task → Bool
  | spawned _ => true
  | _ => false

/-- The future is dropped where it waits. A task that is past its guard no longer waits.
mirrors src/server.rs:101-114 -/
def cancel : Task → Option (Task × List StatOp)
  | spawned _ => some (ended none, [])
  | started _ => some (unguarded none, [.decActiveConnections])
  | serving protocol _ => some (unguarded protocol, [.decActiveConnections])
  | unguarded _ | ended _ => none

end Task

/-- The runtime is dropped, and a task with it. -/
def Call.cancel (c : Call) (i : Nat) : Option Call := do
  let t ← c.state.tasks[i]?
  let (t', ops) ← t.cancel
  some { c with
    state := { c.state with
      counters := self.count ops c.state.counters
      permits := c.state.permits + t.unpolled.toNat
      tasks := c.state.tasks.set i t' }
    orphans := c.orphans + t.unpolled.toNat }

end

section
variable {L : Libs} {listener : HttpListener} {self : ProxyServer} {c c' : Call} {e : Event}

/-! ## What a step is -/

theorem Call.step_cases (h : c.step L listener self e = some c') :
    (c.loop = .binding ∧ e = .bound ∧ c' = { c with loop := .listening }) ∨
    (∃ text, e.failure self = some text ∧ (c.loop = .binding ∨ c.loop = .listening) ∧
      c' = { c with loop := .returned (.error text) }) ∨
    (∃ client, c.loop = .listening ∧ e = .accepted client ∧
      c' = { c with state := accept self c.state client }) ∨
    (c.loop = .listening ∧ e = .changed ∧ c' = { c with loop := .returned (.ok ()) }) ∨
    (∃ i act s, e = .task i act ∧ (run L listener self).step c.state (.task i act) s ∧
      c' = { c with state := s }) := by
  unfold Call.step at h
  split at h
  · rename_i hloop
    cases h
    exact .inl ⟨hloop, rfl, rfl⟩
  · rename_i hloop
    cases h
    exact .inr (.inl ⟨_, rfl, .inl hloop, rfl⟩)
  · rename_i hloop
    cases h
    exact .inr (.inl ⟨_, rfl, .inl hloop, rfl⟩)
  · rename_i hloop
    cases h
    exact .inr (.inr (.inl ⟨_, hloop, rfl, rfl⟩))
  · rename_i hloop
    cases h
    exact .inr (.inl ⟨_, rfl, .inr hloop, rfl⟩)
  · rename_i hloop
    cases h
    exact .inr (.inr (.inr (.inl ⟨hloop, rfl, rfl⟩)))
  · obtain ⟨s, hs, rfl⟩ := Option.map_eq_some_iff.1 h
    exact .inr (.inr (.inr (.inr ⟨_, _, s, rfl, hs, rfl⟩)))
  · cases h

theorem Task.cancel_cases {t t' : Task} {ops : List StatOp} (h : t.cancel = some (t', ops)) :
    (∃ client, t = .spawned client ∧ t' = .ended none ∧ ops = []) ∨
    (t.unpolled = false ∧ t.guarded = true ∧ t.holdsPermit = true ∧ t' = .unguarded t.protocol ∧
      ops = [.decActiveConnections]) := by
  cases t with
  | spawned client =>
    cases h
    exact .inl ⟨client, rfl, rfl, rfl⟩
  | started client =>
    cases h
    exact .inr ⟨rfl, rfl, rfl, rfl, rfl⟩
  | serving protocol updates =>
    cases h
    exact .inr ⟨rfl, rfl, rfl, rfl, rfl⟩
  | unguarded protocol => cases h
  | ended protocol => cases h

theorem Call.cancel_some {i : Nat} (h : c.cancel self i = some c') :
    ∃ t t' ops, c.state.tasks[i]? = some t ∧ t.cancel = some (t', ops) ∧ c' = { c with
      state := { c.state with
        counters := self.count ops c.state.counters
        permits := c.state.permits + t.unpolled.toNat
        tasks := c.state.tasks.set i t' }
      orphans := c.orphans + t.unpolled.toNat } := by
  obtain ⟨t, hget, h⟩ := Option.bind_eq_some_iff.1 h
  obtain ⟨⟨t', ops⟩, hcancel, h⟩ := Option.bind_eq_some_iff.1 h
  cases h
  exact ⟨t, t', ops, hget, hcancel, rfl⟩

/-- A task can go on wherever the loop is. -/
theorem Call.goes_on {i : Nat} {act : Act} {s : State}
    (h : (run L listener self).step c.state (.task i act) s) :
    c.step L listener self (.task i act) = some { c with state := s } := by
  have hstep : L5.step L listener self c.state (.task i act) = some s := h
  obtain ⟨loop, state, orphans⟩ := c
  cases loop <;> simp [Call.step, hstep]

/-- A loop that has returned stays so. -/
theorem Call.step_over (h : c.step L listener self e = some c') (hover : c'.loop.over = false) :
    c.loop.over = false := by
  rcases Call.step_cases h with ⟨hloop, -, -⟩ | ⟨text, -, -, rfl⟩ | ⟨client, hloop, -, -⟩ |
    ⟨hloop, -, -⟩ | ⟨i, act, s, -, -, rfl⟩
  · rw [hloop]
    rfl
  · cases hover
  · rw [hloop]
    rfl
  · rw [hloop]
    rfl
  · exact hover

theorem Call.step_changed (h : c.step L listener self .changed = some c') :
    c.loop = .listening ∧ c' = { c with loop := .returned (.ok ()) } := by
  rcases Call.step_cases h with ⟨-, he, -⟩ | ⟨text, he, -, -⟩ | ⟨client, -, he, -⟩ |
    ⟨hloop, -, rfl⟩ | ⟨i, act, s, he, -, -⟩
  · cases he
  · cases he
  · cases he
  · exact ⟨hloop, rfl⟩
  · cases he

/-! ## The permits -/

/-- Whether or not anything is counted. -/
def Call.Balanced (self : ProxyServer) (c : Call) : Prop :=
  c.state.permits + c.state.held = self.maxConnections

theorem Call.Balanced.step (h : c.Balanced self) (hstep : c.step L listener self e = some c') :
    c'.Balanced self := by
  have hbalanced : c.state.permits + c.state.held = self.maxConnections := h
  rcases Call.step_cases hstep with ⟨-, -, rfl⟩ | ⟨text, -, -, rfl⟩ | ⟨client, -, -, rfl⟩ |
    ⟨-, -, rfl⟩ | ⟨i, act, s, -, htask, rfl⟩
  · exact h
  · exact h
  · unfold Call.Balanced accept
    split
    · exact hbalanced
    · simp only [State.held, List.countP_append, List.countP_singleton, Task.holdsPermit, if_true]
        at hbalanced ⊢
      omega
  · exact h
  · obtain ⟨t, t', ops, hget, ht, rfl⟩ := step_task htask
    have hset := countP_replace (p := Task.holdsPermit) hget t'
    have hreleased : act.released + t'.holdsPermit.toNat = t.holdsPermit.toNat := by
      rcases Task.step_cases ht with ⟨c, rfl, rfl, rfl, rfl⟩ | ⟨c, rfl, rfl, rfl, rfl⟩ |
        ⟨protocol, op, updates, rfl, rfl, rfl, rfl⟩ | ⟨protocol, rfl, rfl, rfl, rfl⟩ |
        ⟨protocol, rfl, rfl, rfl, rfl⟩ <;> rfl
    simp only [Call.Balanced, State.held] at hbalanced ⊢
    omega

theorem Call.Balanced.cancel (h : c.Balanced self) {i : Nat} (hcancel : c.cancel self i = some c') :
    c'.Balanced self := by
  obtain ⟨t, t', ops, hget, ht, rfl⟩ := Call.cancel_some hcancel
  have hbalanced : c.state.permits + c.state.held = self.maxConnections := h
  have hset := countP_replace (p := Task.holdsPermit) hget t'
  have hreleased : t.unpolled.toNat + t'.holdsPermit.toNat = t.holdsPermit.toNat := by
    rcases Task.cancel_cases ht with ⟨client, rfl, rfl, rfl⟩ | ⟨hpolled, hguarded, hholds, rfl, rfl⟩
    · rfl
    · rw [hpolled, hholds]
      rfl
  simp only [Call.Balanced, State.held] at hbalanced ⊢
  omega

/-- No task holds a permit exactly if every task has ended. -/
theorem held_idle {s : State} : s.held = 0 ↔ s.Idle := by
  unfold State.held State.Idle
  rw [List.countP_eq_zero]
  refine forall_congr' fun t => imp_congr_right fun _ => ?_
  cases t with
  | ended protocol => exact iff_of_true Bool.false_ne_true ⟨protocol, rfl⟩
  | _ => exact iff_of_false (not_not_intro rfl) nofun

theorem Call.Balanced.idle (h : c.Balanced self) (hidle : c.state.Idle) :
    c.state.permits = self.maxConnections := by
  have hheld := held_idle.2 hidle
  have hbalanced : c.state.permits + c.state.held = self.maxConnections := h
  omega

/-! ## The counters -/

/-- Had somebody taken these off the active ones. -/
def relieve (orphans : Nat) (c : Counters) : Counters :=
  { c with activeConnections := c.activeConnections - .ofNat orphans }

def State.relieve (orphans : Nat) (s : State) : State :=
  { s with counters := L5.relieve orphans s.counters }

theorem apply_relieve (op : StatOp) (n : Nat) (c : Counters) :
    op.apply (relieve n c) = relieve n (op.apply c) := by
  have hinc : c.activeConnections - .ofNat n + 1 = c.activeConnections + 1 - .ofNat n := by grind
  have hdec : c.activeConnections - .ofNat n - 1 = c.activeConnections - 1 - .ofNat n := by grind
  cases op with
  | incActiveConnections => simp only [StatOp.apply, relieve, hinc]
  | decActiveConnections => simp only [StatOp.apply, relieve, hdec]
  | _ => rfl

theorem count_relieve (ops : List StatOp) (n : Nat) (c : Counters) :
    self.count ops (relieve n c) = relieve n (self.count ops c) := by
  unfold ProxyServer.count
  split
  · induction ops generalizing c with
    | nil => rfl
    | cons op ops ih => rw [List.foldl_cons, List.foldl_cons, apply_relieve, ih]
  · rfl

theorem accept_relieve (n : Nat) (s : State) (client : Connection) :
    accept self (s.relieve n) client = (accept self s client).relieve n := by
  simp only [accept, State.relieve, count_relieve]
  split <;> rfl

theorem task_relieve {n : Nat} {s s' : State} {i : Nat} {act : Act}
    (h : (run L listener self).step s (.task i act) s') :
    step L listener self (s.relieve n) (.task i act) = some (s'.relieve n) := by
  obtain ⟨t, t', ops, hget, ht, rfl⟩ := step_task h
  simp [step, State.relieve, hget, ht, count_relieve]

/-- The counters say what happened, up to the orphans. -/
def Call.Tallied (self : ProxyServer) (c : Call) : Prop := Counted self (c.state.relieve c.orphans)

theorem Call.tallied_init (self : ProxyServer) :
    Call.Tallied self { state := { permits := self.maxConnections } } := by
  have hnone : State.relieve 0 { permits := self.maxConnections } = { permits := self.maxConnections } := by
    simp [State.relieve, relieve]
  unfold Call.Tallied
  rw [hnone]
  exact counted_init

theorem Call.Tallied.step (hs : self.statsEnabled = true) (h : c.Tallied self)
    (hstep : c.step L listener self e = some c') : c'.Tallied self := by
  rcases Call.step_cases hstep with ⟨-, -, rfl⟩ | ⟨text, -, -, rfl⟩ | ⟨client, -, -, rfl⟩ |
    ⟨-, -, rfl⟩ | ⟨i, act, s, -, htask, rfl⟩
  · exact h
  · exact h
  · have haccept := Counted.accept hs h client
    rw [accept_relieve] at haccept
    exact haccept
  · exact h
  · exact Counted.task hs h (task_relieve htask)

/-- A task that is dropped takes its connection off the active ones, or leaves it there. -/
theorem Call.Tallied.cancel (hs : self.statsEnabled = true) (h : c.Tallied self) {i : Nat}
    (hcancel : c.cancel self i = some c') : c'.Tallied self := by
  obtain ⟨t, t', ops, hget, ht, rfl⟩ := Call.cancel_some hcancel
  have hget' : (c.state.relieve c.orphans).tasks[i]? = some t := hget
  have hcounted : Counted self (c.state.relieve c.orphans) := h
  unfold Call.Tallied
  rw [count_eq hs]
  rcases Task.cancel_cases ht with ⟨client, rfl, rfl, rfl⟩ | ⟨hpolled, hguarded, hholds, rfl, rfl⟩
  · refine hcounted.replace hget' rfl rfl ?_ rfl rfl rfl (by simp [Task.updates])
    simp only [State.relieve, relieve, Task.unpolled, Task.guarded, List.foldl_nil, Bool.toNat_true,
      Bool.toNat_false, UInt64.ofNat_add]
    grind
  · rw [hpolled]
    have hleft : Task.guarded (.unguarded t.protocol) = false := rfl
    refine hcounted.replace hget' ?_ rfl ?_ rfl rfl rfl (by simp [Task.updates])
    · rw [hholds]
      rfl
    · rw [hguarded, hleft]
      simp only [State.relieve, relieve, StatOp.apply, List.foldl_cons, List.foldl_nil,
        Bool.toNat_true, Bool.toNat_false, Nat.add_zero]
      grind

/-- What the counters of connections say of a call. -/
structure Tally (self : ProxyServer) (c : Call) : Prop where
  total : c.state.counters.totalConnections = .ofNat c.state.granted
  active : c.state.counters.activeConnections = .ofNat (c.state.active + c.orphans)
  socks5 : c.state.counters.socks5Connections = .ofNat (c.state.classifiedAs .socks5)
  http : c.state.counters.httpConnections = .ofNat (c.state.classifiedAs .http)
  refused : ∃ n, c.state.accepted = c.state.granted + n ∧
    c.state.counters.connectionLimitRejections = .ofNat n
  /-- once every task is gone, the orphans are what is left -/
  left : c.state.Idle → c.state.counters.activeConnections = .ofNat c.orphans

theorem Call.Tallied.tally (h : c.Tallied self) : Tally self c := by
  have hcounted : Counted self (c.state.relieve c.orphans) := h
  have hrelieved : c.state.counters.activeConnections - .ofNat c.orphans = .ofNat c.state.active :=
    hcounted.active
  have hactive : c.state.counters.activeConnections = .ofNat (c.state.active + c.orphans) := by
    rw [UInt64.ofNat_add, ← hrelieved]
    grind
  refine ⟨hcounted.total, hactive, hcounted.socks5, hcounted.http, hcounted.refused, fun hidle => ?_⟩
  have hle := active_le_held c.state
  have hheld := held_idle.2 hidle
  have hnone : c.state.active = 0 := by omega
  rw [hactive, hnone, Nat.zero_add]

/-! ## The loop and its tasks are the server -/

theorem Call.step_reaches (h : c.step L listener self e = some c')
    (hc : (run L listener self).Reachable c.state) :
    (run L listener self).Reachable c'.state ∧ c'.orphans = c.orphans := by
  rcases Call.step_cases h with ⟨-, -, rfl⟩ | ⟨text, -, -, rfl⟩ | ⟨client, -, -, rfl⟩ |
    ⟨-, -, rfl⟩ | ⟨i, act, s, -, htask, rfl⟩
  · exact ⟨hc, rfl⟩
  · exact ⟨hc, rfl⟩
  · have haccept : (run L listener self).step c.state (.accept client) (accept self c.state client) := rfl
    exact ⟨hc.run (.cons haccept (.nil _)), rfl⟩
  · exact ⟨hc, rfl⟩
  · exact ⟨hc.run (.cons htask (.nil _)), rfl⟩

/-! ## The work -/

end

section
variable (L : Libs) (listener : HttpListener) (self : ProxyServer)

/-- The steps the loop still takes, if nobody connects. -/
def Loop.work : Loop → Nat
  | binding => 2
  | listening => 1
  | returned _ => 0

def Call.work (c : Call) : Nat := c.state.work L listener self + c.loop.work

/-- What a client brings. -/
def Event.load : Event → Nat
  | accepted client => (client.updates L listener self).length + 5
  | _ => 0

end

section
variable {L : Libs} {listener : HttpListener} {self : ProxyServer} {c c' : Call} {e : Event}

theorem work_accept (s : State) (client : Connection) : (accept self s client).work L listener self ≤
    s.work L listener self + ((client.updates L listener self).length + 4) := by
  unfold accept
  split
  · exact Nat.le_add_right _ _
  · have happend : ∀ (ts : List Task) (n : Nat), ts.foldr (fun t n => t.work L listener self + n) n =
        ts.foldr (fun t n => t.work L listener self + n) 0 + n := by
      intro ts n
      induction ts with
      | nil => simp
      | cons t ts ih =>
        simp only [List.foldr_cons, ih]
        omega
    simp only [State.work, List.foldr_append, List.foldr_cons, List.foldr_nil]
    rw [happend]
    simp [Task.work]

/-- Every step does a piece of the work, and only a client brings more. -/
theorem Call.step_work (h : c.step L listener self e = some c') :
    1 + c'.work L listener self ≤ c.work L listener self + e.load L listener self := by
  rcases Call.step_cases h with ⟨hloop, rfl, rfl⟩ | ⟨text, hfail, hloop, rfl⟩ | ⟨client, hloop, rfl, rfl⟩ |
    ⟨hloop, rfl, rfl⟩ | ⟨i, act, s, rfl, htask, rfl⟩
  · simp only [Call.work, hloop, Loop.work]
    omega
  · rcases hloop with hloop | hloop
    · simp only [Call.work, hloop, Loop.work]
      omega
    · simp only [Call.work, hloop, Loop.work]
      omega
  · have := @work_accept L listener self c.state client
    simp only [Call.work, Event.load]
    omega
  · simp only [Call.work, hloop, Loop.work]
    omega
  · have := quiet_spends rfl htask
    simp only [Call.work]
    omega

theorem Call.cancel_work {i : Nat} (h : c.cancel self i = some c') :
    1 + c'.work L listener self ≤ c.work L listener self := by
  obtain ⟨t, t', ops, hget, ht, rfl⟩ := Call.cancel_some h
  have hset := @work_set L listener self _ _ _ hget t'
  have htask : t'.work L listener self < t.work L listener self := by
    rcases Task.cancel_cases ht with ⟨client, rfl, rfl, rfl⟩ | ⟨hpolled, hguarded, hholds, rfl, rfl⟩
    · simp [Task.work]
    · cases t <;> simp_all [Task.work, Task.guarded, Task.unpolled]
  simp only [Call.work, State.work]
  omega

end
end TinySocks.L5
