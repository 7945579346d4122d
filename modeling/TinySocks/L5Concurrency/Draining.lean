import TinySocks.L5Concurrency.Books

/-!
# What is left of the clients when nobody connects any more

What a handler reads and writes on its own has a timeout. It waits without one for a
connect, for a name, for a datagram to go out, and, until its client is gone, for the copy
loop (`copy_bidirectional_with_sizes`) and for the relay of a UDP association. A client
whose tunnel stays idle, or whose association stays open, keeps its task for ever. What of
this comes to an end is up to the outside world, so it is a parameter here (`ends`), and
`Connection.returns` says which handlers return.

* `server_drains`: with no new client, every task whose handler returns ends, in any
  order; the others keep their permits and stay among the active connections, and if
  there are none, every permit is back.
-/
namespace TinySocks.L5

open TinySocks.Core TinySocks.L1 TinySocks.L2 TinySocks.L3 TinySocks.L4

section
variable (L : Libs) (listener : HttpListener) (server : ProxyServer) (ends : Connection → Bool)

/-- It is waited for without a timeout. -/
def isUntimed : Ev → Bool
  | .connect _ _ | .copied _ _ _ | .resolved _ _ | .udpSend _ _ _ => true
  | _ => false

/-- Its association has nothing more to do, and is still open. -/
def Connection.waits (c : Connection) : Bool :=
  match serveConnection L server.auth server.statsEnabled listener c.peer c.accepted with
  | .error .waiting _ => true
  | _ => false

/-- Its handler returns: no association stays open, and what it waits for comes to an end. -/
def Connection.returns (c : Connection) : Bool :=
  !c.waits L listener server && (!(c.trace L listener server).any isUntimed || ends c)

/-- The listener, and the clients of its tasks. -/
structure Served where
  state : State
  clients : List Connection := []

namespace Served

/-- A task whose handler does not return keeps its guard. -/
def step (s : Served) : Label → Option Served
  | .accept c => some {
    state := accept server s.state c
    clients := if s.state.permits = 0 then s.clients else s.clients ++ [c] }
  | .task i act => do
    let c ← s.clients[i]?
    if act = .dropGuard ∧ c.returns L listener server ends = false then none
    else
      let state ← L5.step L listener server s.state (.task i act)
      some { s with state }

def system : LTS Served Label :=
  .ofFn (fun s => s = { state := { permits := server.maxConnections } }) (step L listener server ends)

/-- The clients whose handlers do not return. -/
def hanging (s : Served) : Nat := s.clients.countP fun c => !c.returns L listener server ends

/-- Every task whose handler returns has ended. -/
def Rested (s : Served) : Prop :=
  ∀ (i : Nat) (c : Connection) (t : Task), s.clients[i]? = some c → s.state.tasks[i]? = some t →
    c.returns L listener server ends = true → ∃ protocol, t = .ended protocol

/-- The others are guarded. -/
structure Held (s : Served) : Prop where
  clients : s.clients.length = s.state.tasks.length
  guarded : ∀ (i : Nat) (c : Connection) (t : Task), s.clients[i]? = some c →
    s.state.tasks[i]? = some t → c.returns L listener server ends = false → t.guarded = true

end Served

/-- What a server does once nobody connects any more. -/
structure Drains (s : Served) : Prop where
  /-- whatever the interleaving, so many steps are taken and so many are left at most -/
  spends : ∀ {ls s'}, (Served.system L listener server ends).Run s ls s' → (∀ l ∈ ls, l.quiet = true) →
    s.state.work L listener server = ls.length + s'.state.work L listener server
  /-- there is a next step of a task whose handler returns, unless all of them have ended -/
  next : ¬ s.Rested L listener server ends → ∃ i c act s', s.clients[i]? = some c ∧
    c.returns L listener server ends = true ∧ (Served.system L listener server ends).step s (.task i act) s'
  rests : ∃ ls s', (Served.system L listener server ends).Run s ls s' ∧ (∀ l ∈ ls, l.quiet = true) ∧
    s'.Rested L listener server ends
  /-- then the others have kept their permits -/
  kept : ∀ {ls s'}, (Served.system L listener server ends).Run s ls s' → (∀ l ∈ ls, l.quiet = true) →
    s'.Rested L listener server ends → s'.clients = s.clients ∧
      s'.state.permits + s.hanging L listener server ends = server.maxConnections ∧
      s'.state.counters.activeConnections = .ofNat (s.hanging L listener server ends)
  /-- and without others, every task has ended and every permit is back -/
  back : s.hanging L listener server ends = 0 → ∀ {ls s'},
    (Served.system L listener server ends).Run s ls s' → (∀ l ∈ ls, l.quiet = true) →
    s'.Rested L listener server ends → s'.state.Idle ∧ s'.state.permits = server.maxConnections ∧
      s'.state.counters.activeConnections = 0

end

section
variable {L : Libs} {listener : HttpListener} {server : ProxyServer} {ends : Connection → Bool}
  {s s' : Served} {l : Label}

namespace Served

theorem step_cases (h : s.step L listener server ends l = some s') :
    (∃ c, l = .accept c ∧ s' = {
      state := accept server s.state c
      clients := if s.state.permits = 0 then s.clients else s.clients ++ [c] }) ∨
    (∃ i act c state, l = .task i act ∧ s.clients[i]? = some c ∧
      ¬ (act = .dropGuard ∧ c.returns L listener server ends = false) ∧
      (run L listener server).step s.state (.task i act) state ∧ s' = { s with state }) := by
  cases l with
  | accept c =>
    cases h
    exact .inl ⟨c, rfl, rfl⟩
  | task i act =>
    obtain ⟨c, hc, h⟩ := Option.bind_eq_some_iff.1 h
    split at h
    · cases h
    · rename_i hact
      obtain ⟨state, hstate, h⟩ := Option.bind_eq_some_iff.1 h
      cases h
      exact .inr ⟨i, act, c, state, rfl, hc, hact, hstate, rfl⟩

/-- What such a server does, the listener and its tasks do. -/
theorem step_reaches (h : (system L listener server ends).step s l s') :
    (run L listener server).step s.state l s'.state := by
  rcases step_cases h with ⟨c, rfl, rfl⟩ | ⟨i, act, c, state, rfl, -, -, hstate, rfl⟩
  · rfl
  · exact hstate

theorem reachable_state (h : (system L listener server ends).Reachable s) :
    (run L listener server).Reachable s.state := by
  obtain ⟨s₀, ls, rfl, hrun⟩ := h
  refine ⟨_, ls, rfl, ?_⟩
  have hmap : ∀ {a b : Served} {ls : List Label}, (system L listener server ends).Run a ls b →
      (run L listener server).Run a.state ls b.state := by
    intro a b ls hrun
    induction hrun with
    | nil => exact .nil _
    | cons first _ ih => exact .cons (step_reaches first) ih
  exact hmap hrun

theorem quiet_clients (hl : l.quiet = true) (h : (system L listener server ends).step s l s') :
    s'.clients = s.clients := by
  rcases step_cases h with ⟨c, rfl, rfl⟩ | ⟨i, act, c, state, rfl, -, -, -, rfl⟩
  · cases hl
  · rfl

/-- A guard is dropped by its own step only. -/
theorem guarded_step {t t' : Task} {act : Act} {ops : List StatOp}
    (h : t.step L listener server act = some (t', ops)) (hg : t.guarded = true) (hact : act ≠ .dropGuard) :
    t'.guarded = true := by
  rcases Task.step_cases h with ⟨c, rfl, rfl, rfl, rfl⟩ | ⟨c, rfl, rfl, rfl, rfl⟩ |
    ⟨protocol, op, updates, rfl, rfl, rfl, rfl⟩ | ⟨protocol, rfl, rfl, rfl, rfl⟩ |
    ⟨protocol, rfl, rfl, rfl, rfl⟩
  · rfl
  · rfl
  · rfl
  · exact absurd rfl hact
  · cases hg

theorem Held.accept (h : s.Held L listener server ends) (c : Connection) : Held L listener server ends {
    state := accept server s.state c
    clients := if s.state.permits = 0 then s.clients else s.clients ++ [c] } := by
  unfold L5.accept
  split
  · exact ⟨h.clients, h.guarded⟩
  · refine ⟨by simp [h.clients], fun i c' t hc ht hr => ?_⟩
    by_cases hi : i < s.clients.length
    · rw [List.getElem?_append_left hi] at hc
      rw [List.getElem?_append_left (h.clients ▸ hi)] at ht
      exact h.guarded i c' t hc ht hr
    · rw [List.getElem?_append_right (h.clients ▸ Nat.le_of_not_lt hi)] at ht
      rw [List.mem_singleton.1 (List.mem_of_getElem? ht)]
      rfl

theorem held_inductive : (system L listener server ends).Inductive (Held L listener server ends) where
  init := by
    intro s heq
    subst heq
    exact ⟨rfl, fun i c t hc => by simp at hc⟩
  step := by
    intro s l s' h hstep
    rcases step_cases hstep with ⟨c, rfl, rfl⟩ | ⟨i, act, c, state, rfl, hc, hact, hstate, rfl⟩
    · exact h.accept c
    · obtain ⟨t, t', ops, hget, ht, rfl⟩ := step_task hstate
      refine ⟨by simp [h.clients], fun j c' u hc' hu hr => ?_⟩
      rw [List.getElem?_set] at hu
      split at hu
      · rename_i hij
        subst hij
        split at hu
        · cases hu
          cases hc.symm.trans hc'
          exact guarded_step ht (h.guarded i c t hc hget hr) fun he => hact ⟨he, hr⟩
        · cases hu
      · exact h.guarded j c' u hc' hu hr

/-- A task whose handler returns goes on, whatever the others do. -/
theorem next_of_not_rested (h : ¬ s.Rested L listener server ends) : ∃ i c act s', s.clients[i]? = some c ∧
    c.returns L listener server ends = true ∧ (system L listener server ends).step s (.task i act) s' := by
  simp only [Rested, Classical.not_forall] at h
  obtain ⟨i, c, t, hc, hget, hr, hended⟩ := h
  obtain ⟨act, t', ops, ht⟩ := @Task.goes_on L listener server t hended
  have hnext : (step L listener server ends s (.task i act)).isSome = true := by
    simp [step, L5.step, hc, hget, ht, hr]
  obtain ⟨s', hs'⟩ := Option.isSome_iff_exists.1 hnext
  exact ⟨i, c, act, s', hc, hr, hs'⟩

/-- At rest, the permits and the guards are with those that do not return. -/
theorem Held.rested (h : s.Held L listener server ends) (hrest : s.Rested L listener server ends)
    {p : Task → Bool} (hguarded : ∀ t : Task, t.guarded = true → p t = true)
    (hended : ∀ protocol, p (.ended protocol) = false) :
    s.state.tasks.countP p = s.hanging L listener server ends := by
  have hmap : s.state.tasks.map p = s.clients.map fun c => !c.returns L listener server ends := by
    refine List.ext_getElem (by simp [h.clients]) fun i hi hi' => ?_
    rw [List.length_map] at hi hi'
    have ht := List.getElem?_eq_getElem hi
    have hc := List.getElem?_eq_getElem hi'
    rw [List.getElem_map, List.getElem_map]
    cases hr : s.clients[i].returns L listener server ends with
    | true =>
      obtain ⟨protocol, he⟩ := hrest i _ _ hc ht hr
      rw [he, hended]
      rfl
    | false =>
      rw [hguarded _ (h.guarded i _ _ hc ht hr)]
      rfl
  have hcount : ∀ {A : Type} (q : A → Bool) (as : List A), as.countP q = (as.map q).countP id := by
    intro A q as
    rw [List.countP_map]
    rfl
  rw [hcount, hmap, ← hcount]
  rfl

/-- If every handler returns, they have all ended. -/
theorem Rested.idle (hrest : s.Rested L listener server ends) (h : s.Held L listener server ends)
    (hnone : s.hanging L listener server ends = 0) : s.state.Idle := by
  intro t ht
  obtain ⟨i, hget⟩ := List.getElem?_of_mem ht
  have hi : i < s.clients.length := by
    rw [h.clients]
    exact (List.getElem?_eq_some_iff.1 hget).1
  have hc := List.getElem?_eq_getElem hi
  refine hrest i _ t hc hget ?_
  have hall := List.countP_eq_zero.1 hnone _ (List.mem_of_getElem? hc)
  simpa using hall

theorem quiet_run_clients {ls : List Label} (h : (system L listener server ends).Run s ls s') :
    (∀ l ∈ ls, l.quiet = true) → s'.clients = s.clients := by
  induction h with
  | nil => exact fun _ => rfl
  | cons first _ ih =>
    intro hls
    obtain ⟨hl, hls⟩ := List.forall_mem_cons.1 hls
    rw [ih hls, quiet_clients hl first]

theorem Held.settles (h : s.Held L listener server ends) (hcounted : Counted server s.state)
    (hrest : s.Rested L listener server ends) :
    s.state.permits + s.hanging L listener server ends = server.maxConnections ∧
      s.state.counters.activeConnections = .ofNat (s.hanging L listener server ends) := by
  have hheld : s.state.held = s.hanging L listener server ends :=
    h.rested hrest (fun t ht => by cases t <;> first | rfl | cases ht) fun _ => rfl
  have hactive : s.state.active = s.hanging L listener server ends :=
    h.rested hrest (fun _ => id) fun _ => rfl
  exact ⟨hheld ▸ hcounted.permits, hactive ▸ hcounted.active⟩

end Served
end

/-- **The server drains.** Whichever handlers return: from every state of every
interleaving, when nobody connects any more, the tasks of those that return do what they
have still to do, in any order and without ever being blocked by the others, and end. The
others keep their permits and stay active; if there are none, every permit is back and no
connection is active. -/
theorem server_drains {cfg : Config} {server : ProxyServer}
    (hcfg : ProxyServer.withStats cfg true = .ok server) (hstats : cfg.server.disableStats = false)
    (L : Libs) (listener : HttpListener) (ends : Connection → Bool) {s : Served}
    (h : (Served.system L listener server ends).Reachable s) : Drains L listener server ends s := by
  obtain ⟨-, -, henabled⟩ := withStats_ok hcfg
  have hcounts := counted_inductive L listener (henabled.trans (by rw [hstats]; rfl))
  have hspends : ∀ {s l s'}, l.quiet = true → (Served.system L listener server ends).step s l s' →
      s.state.work L listener server = s'.state.work L listener server + 1 :=
    fun hl hstep => quiet_spends hl (Served.step_reaches hstep)
  have hrest : ∀ {ls s'}, (Served.system L listener server ends).Run s ls s' →
      s'.Held L listener server ends ∧ Counted server s'.state := by
    intro ls s' hrun
    have hreach := h.run hrun
    exact ⟨Served.held_inductive.reachable s' hreach,
      hcounts.reachable _ (Served.reachable_state hreach)⟩
  refine ⟨fun hrun hq => hrun.spends hspends hq, Served.next_of_not_rested, ?_,
    fun hrun hq hrested => ?_, fun hnone ls s' hrun hq hrested => ?_⟩
  · refine LTS.drains (fun hl hstep => Nat.lt_of_lt_of_eq (Nat.lt_succ_self _) (hspends hl hstep).symm)
      fun {_ s'} _ hs => ?_
    obtain ⟨i, c, act, s'', -, -, hstep⟩ := Served.next_of_not_rested hs
    exact ⟨.task i act, s'', rfl, hstep⟩
  · obtain ⟨hheld, hcounted⟩ := hrest hrun
    obtain ⟨hpermits, hactive⟩ := hheld.settles hcounted hrested
    have hclients := Served.quiet_run_clients hrun hq
    unfold Served.hanging at hpermits hactive ⊢
    rw [← hclients]
    exact ⟨rfl, hpermits, hactive⟩
  · obtain ⟨hheld, hcounted⟩ := hrest hrun
    unfold Served.hanging at hnone
    rw [← Served.quiet_run_clients hrun hq] at hnone
    have hidle := hrested.idle hheld hnone
    exact ⟨hidle, hcounted.idle hidle⟩

/-- A server of which one client wants a tunnel that nobody closes, and the other nothing. -/
theorem server_drains_idle_tunnel :
    let cfg : Config := ⟨⟨"127.0.0.1:0", 2, false⟩, ⟨some "admin", some "pw", []⟩⟩
    let ends : Connection → Bool := fun _ => false
    ∃ (server : ProxyServer) (s s' : Served) (ls : List Label),
      ProxyServer.withStats cfg true = .ok server ∧ s.state.permits = 0 ∧
      (Served.system plainLibs ⟨1080, "v"⟩ server ends).Run s ls s' ∧ (∀ l ∈ ls, l.quiet = true) ∧
      s'.Rested plainLibs ⟨1080, "v"⟩ server ends ∧ s'.state.permits = 1 ∧
      s'.state.counters.activeConnections = 1 := by
  intro cfg ends
  let server : ProxyServer := ⟨"127.0.0.1:0", 2, cfg.auth, true⟩
  let peer : SocketAddr := .new (.v4 ⟨[10, 0, 0, 1], rfl⟩) 5000
  let tunnel : Connection := ⟨peer, .calm [] [], [5, 1, 2, 1, 5, 97, 100, 109, 105, 110, 2, 112, 119,
    5, 1, 0, 1, 10, 0, 0, 7, 0, 80]⟩
  let nothing : Connection := ⟨peer, .calm [] [], []⟩
  have hr : ∃ s, (Served.system plainLibs ⟨1080, "v"⟩ server ends).Reachable s ∧ s.state.permits = 0 ∧
      s.clients = [tunnel, nothing] :=
    ⟨_, ⟨_, [.accept tunnel, .accept nothing], rfl, .cons rfl (.cons rfl (.nil _))⟩, rfl, rfl⟩
  obtain ⟨s, hs, hp, hclients⟩ := hr
  have hhangs : s.hanging plainLibs ⟨1080, "v"⟩ server ends = 1 := by
    rw [Served.hanging, hclients]
    decide +kernel
  have hdrains := @server_drains cfg server rfl rfl plainLibs ⟨1080, "v"⟩ ends s hs
  obtain ⟨ls, s', hrun, hq, hrest⟩ := hdrains.rests
  obtain ⟨-, hpermits, hactive⟩ := hdrains.kept hrun hq hrest
  rw [hhangs] at hpermits hactive
  exact ⟨server, s, s', ls, rfl, hp, hrun, hq, hrest, Nat.succ.inj hpermits, hactive⟩

end TinySocks.L5
