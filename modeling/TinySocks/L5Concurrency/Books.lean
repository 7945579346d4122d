import TinySocks.Core.Ledger
import TinySocks.L2Stream.Counter
import TinySocks.L4App.Outcome
import TinySocks.L5Concurrency.Limiter

/-!
# What the server has counted in the end

`Counted` says at every moment what the counters of connections are. This file says
what all counters are once every task has ended. The tasks are the agents of a
`Ledger`, their calls on the statistics handle its entries: a task posts them one
after the other, interleaved with those of all the others.

* `counters_settled`: then every counter is a sum over the clients that came, and
  the interleaving is not to be seen in it.
* `quiet_spends`, `Task.goes_on`: until then the tasks have so much work to do.
-/
namespace TinySocks.L5

open TinySocks.Core TinySocks.L1 TinySocks.L2 TinySocks.L3 TinySocks.L4

/-! ## Who came -/

/-- The clients of a run that begins with so many permits, and whether each got one. -/
def admissions : Nat → List Label → List (Connection × Bool)
  | _, [] => []
  | permits, .accept c :: ls => (c, permits != 0) :: admissions (permits - 1) ls
  | permits, .task _ act :: ls => admissions (permits + act.released) ls

def admitted (permits : Nat) (ls : List Label) : List Connection :=
  ((admissions permits ls).filter Prod.snd).map Prod.fst

def refused (permits : Nat) (ls : List Label) : List Connection :=
  ((admissions permits ls).filter fun client => !client.2).map Prod.fst

/-- What the loop calls for a client it turns away. -/
def Connection.refusal (c : Connection) : List StatOp :=
  [.incConnectionLimitRejections, .recordError ("connection limit rejected from " ++ c.peer.toStr)]

section
variable (L : Libs) (listener : HttpListener) (self : ProxyServer)

/-- All its connection does. -/
def Connection.trace (c : Connection) : Trace :=
  connectionTrace L self.auth self.statsEnabled listener c.peer c.env c.inp

/-- What is called for a client. -/
def entries (client : Connection × Bool) : List StatOp :=
  if client.2 then [.incTotalConnections, .incActiveConnections] ++
    (client.1.calls L listener self ++ [.decActiveConnections])
  else client.1.refusal

namespace Task

/-- The calls a task has still to make. -/
def due : Task → List StatOp
  | spawned c | started c => c.calls L listener self ++ [.decActiveConnections]
  | serving _ updates => updates ++ [.decActiveConnections]
  | unguarded _ | ended _ => []

/-- The steps a task has still to take. -/
def work : Task → Nat
  | spawned c => (c.updates L listener self).length + 4
  | started c => (c.updates L listener self).length + 3
  | serving _ updates => updates.length + 2
  | unguarded _ => 1
  | ended _ => 0

end Task

def State.work (s : State) : Nat := s.tasks.foldr (fun t n => t.work L listener self + n) 0

end

/-- The counters are what was posted to the ledger, and what the tasks have still to
call is due. -/
structure Posted (L : Libs) (listener : HttpListener) (server : ProxyServer) (s : State)
    (b : Ledger StatOp) : Prop where
  counters : s.counters = b.posted.foldl StatOp.apply {}
  due : b.due = s.tasks.map (Task.due L listener server)

/-- Every task has ended. -/
def State.Idle (s : State) : Prop := ∀ t ∈ s.tasks, ∃ protocol, t = .ended protocol

/-- Nobody connects. -/
def Label.quiet : Label → Bool
  | .accept _ => false
  | .task _ _ => true

section
variable {L : Libs} {listener : HttpListener} {self : ProxyServer} {s s' : State} {ls : List Label}

/-! ## Every step posts what it should -/

/-- A task posts the first of its calls that are due, or none. -/
theorem Task.step_due {t t' : Task} {act : Act} {ops : List StatOp}
    (h : t.step L listener self act = some (t', ops)) :
    t.due L listener self = ops ++ t'.due L listener self := by
  rcases Task.step_cases h with ⟨c, rfl, rfl, rfl, rfl⟩ | ⟨c, rfl, rfl, rfl, rfl⟩ |
    ⟨protocol, op, updates, rfl, rfl, rfl, rfl⟩ | ⟨protocol, rfl, rfl, rfl, rfl⟩ |
    ⟨protocol, rfl, rfl, rfl, rfl⟩
  · rfl
  · simp only [Task.due, c.calls_eq.1, List.append_assoc]
  · rfl
  · rfl
  · rfl

theorem Posted.step {b : Ledger StatOp} (hs : self.statsEnabled = true) (h : Posted L listener self s b)
    {l : Label} (hstep : (run L listener self).step s l s') : ∃ b', Posted L listener self s' b' ∧
      b'.handed = b.handed ++ (admissions s.permits [l]).flatMap (entries L listener self) := by
  cases l with
  | accept c =>
    cases hstep
    unfold accept
    rw [count_eq hs, count_eq hs]
    split
    · rename_i hp
      refine ⟨b.note c.refusal, ⟨?_, h.due⟩, by simp [admissions, entries, hp]⟩
      rw [Ledger.note_posted, List.foldl_append, ← h.counters]
      rfl
    · rename_i hp
      refine ⟨b.enter [.incTotalConnections, .incActiveConnections]
        (Task.due L listener self (.spawned c)), ⟨?_, ?_⟩, ?_⟩
      · rw [Ledger.enter_posted, List.foldl_append, ← h.counters]
      · rw [Ledger.enter_due, h.due, List.map_append]
        rfl
      · simp [admissions, entries, hp, Task.due]
  | task i act =>
    obtain ⟨t, t', ops, hget, ht, rfl⟩ := step_task hstep
    have hdue : b.due[i]? = some (ops ++ t'.due L listener self) := by
      rw [h.due, List.getElem?_map, hget, ← Task.step_due ht]
      rfl
    refine ⟨b.post i ops _ hdue, ⟨?_, ?_⟩, by simp [admissions]⟩
    · rw [count_eq hs, Ledger.post_posted, List.foldl_append, ← h.counters]
    · rw [Ledger.post_due, h.due, List.map_set]

/-- What is done for a client does not depend on what came before it, only whether
there was a permit for it. -/
theorem admissions_cons {l : Label} (hstep : (run L listener self).step s l s') :
    admissions s.permits (l :: ls) = admissions s.permits [l] ++ admissions s'.permits ls := by
  cases l with
  | accept c =>
    cases hstep
    unfold accept
    split
    · rename_i hp
      simp [admissions, hp]
    · rfl
  | task i act =>
    obtain ⟨t, t', ops, -, -, rfl⟩ := step_task hstep
    rfl

theorem Posted.run {b : Ledger StatOp} (hs : self.statsEnabled = true) (h : Posted L listener self s b)
    (hrun : (run L listener self).Run s ls s') : ∃ b', Posted L listener self s' b' ∧
      b'.handed = b.handed ++ (admissions s.permits ls).flatMap (entries L listener self) := by
  induction hrun generalizing b with
  | nil s => exact ⟨b, h, by simp [admissions]⟩
  | cons first rest ih =>
    obtain ⟨b₁, h₁, hh₁⟩ := h.step hs first
    obtain ⟨b', h', hh'⟩ := ih h₁
    refine ⟨b', h', ?_⟩
    rw [hh', hh₁, List.append_assoc, ← List.flatMap_append, ← admissions_cons first]

/-- At the end a counter is a sum over the clients that came. -/
theorem Posted.settled {b : Ledger StatOp} (h : Posted L listener self s b) (hidle : s.Idle)
    (k : Counter) : k.read s.counters = .ofInt (weigh k.weight b.handed) := by
  have hsettled : b.Settled := by
    intro es hes
    rw [h.due] at hes
    obtain ⟨t, ht, rfl⟩ := List.mem_map.1 hes
    obtain ⟨protocol, rfl⟩ := hidle t ht
    rfl
  rw [h.counters, k.read_foldl, hsettled.weigh]
  cases k <;> exact UInt64.zero_add _

/-! ## The work of the tasks -/

theorem Task.step_work {t t' : Task} {act : Act} {ops : List StatOp}
    (h : t.step L listener self act = some (t', ops)) :
    t.work L listener self = t'.work L listener self + 1 := by
  rcases Task.step_cases h with ⟨c, rfl, rfl, rfl, rfl⟩ | ⟨c, rfl, rfl, rfl, rfl⟩ |
    ⟨protocol, op, updates, rfl, rfl, rfl, rfl⟩ | ⟨protocol, rfl, rfl, rfl, rfl⟩ |
    ⟨protocol, rfl, rfl, rfl, rfl⟩ <;> rfl

/-- A task that has not ended can go on. -/
theorem Task.goes_on (t : Task) (h : ¬ ∃ protocol, t = .ended protocol) :
    ∃ act t' ops, t.step L listener self act = some (t', ops) := by
  match t with
  | .spawned c => exact ⟨.poll, _, _, rfl⟩
  | .started c => exact ⟨.dispatch, _, _, rfl⟩
  | .serving protocol (op :: updates) => exact ⟨.update, _, _, rfl⟩
  | .serving protocol [] => exact ⟨.dropGuard, _, _, rfl⟩
  | .unguarded protocol => exact ⟨.release, _, _, rfl⟩
  | .ended protocol => exact absurd ⟨protocol, rfl⟩ h

/-- A task is replaced by what becomes of it. -/
theorem work_set {ts : List Task} {i : Nat} {t : Task} (hget : ts[i]? = some t) (t' : Task) :
    (ts.set i t').foldr (fun t n => t.work L listener self + n) 0 + t.work L listener self =
      ts.foldr (fun t n => t.work L listener self + n) 0 + t'.work L listener self := by
  induction ts generalizing i with
  | nil => cases hget
  | cons u ts ih =>
    cases i with
    | zero =>
      cases hget
      simp only [List.set_cons_zero, List.foldr_cons]
      omega
    | succ i =>
      have := ih hget
      simp only [List.set_cons_succ, List.foldr_cons]
      omega

theorem quiet_spends {l : Label} (hl : l.quiet = true) (hstep : (run L listener self).step s l s') :
    s.work L listener self = s'.work L listener self + 1 := by
  cases l with
  | accept c => cases hl
  | task i act =>
    obtain ⟨t, t', ops, hget, ht, rfl⟩ := step_task hstep
    have hwork := Task.step_work ht
    have hset := @work_set L listener self _ _ _ hget t'
    simp only [State.work]
    omega

theorem Counted.idle (h : Counted self s) (hidle : s.Idle) :
    s.permits = self.maxConnections ∧ s.counters.activeConnections = 0 := by
  have hnone : ∀ p : Task → Bool, (∀ protocol, p (.ended protocol) = false) → s.tasks.countP p = 0 := by
    intro p hp
    refine List.countP_eq_zero.2 fun t ht => ?_
    obtain ⟨protocol, rfl⟩ := hidle t ht
    rw [hp]
    exact Bool.false_ne_true
  have hheld : s.held = 0 := hnone _ fun _ => rfl
  have hactive : s.active = 0 := hnone _ fun _ => rfl
  refine ⟨?_, ?_⟩
  · have := h.permits
    omega
  · rw [h.active, hactive]
    rfl

end

/-! ## The counters in the end -/

/-- A client whose refusal was counted. -/
def Connection.unauthorized (L : Libs) (listener : HttpListener) (self : ProxyServer) (c : Connection) : Bool :=
  (c.trace L listener self).contains (.stat .incAuthFailures)

/-- What the counters of a server say that served these clients and turned away others. -/
structure Totals (L : Libs) (listener : HttpListener) (server : ProxyServer)
    (served turnedAway : List Connection) (c : Counters) : Prop where
  total : c.totalConnections = .ofNat served.length
  active : c.activeConnections = 0
  socks5 : c.socks5Connections = .ofNat (served.countP fun c => c.protocol == some .socks5)
  http : c.httpConnections = .ofNat (served.countP fun c => c.protocol == some .http)
  rejections : c.connectionLimitRejections = .ofNat turnedAway.length
  tcpBytesUp : c.tcpBytesUp = .ofNat (L2.counted StatOp.tcpUp (served.flatMap (·.trace L listener server)))
  tcpBytesDown : c.tcpBytesDown =
    .ofNat (L2.counted StatOp.tcpDown (served.flatMap (·.trace L listener server)))
  associations : c.udpAssociateSessions =
    .ofNat ((served.flatMap (·.trace L listener server)).countP isBind)
  udpBytesIn : c.udpBytesIn = .ofNat (L2.counted StatOp.udpIn (served.flatMap (·.trace L listener server)))
  udpBytesOut : c.udpBytesOut =
    .ofNat (L2.counted StatOp.udpOut (served.flatMap (·.trace L listener server)))
  connectFailures : c.connectFailures =
    .ofNat ((served.flatMap (·.trace L listener server)).countP isUnreached)
  authFailures : c.authFailures = .ofNat (served.countP (·.unauthorized L listener server))
  relayFailures : c.relayFailures =
    .ofNat ((served.flatMap (·.trace L listener server)).countP isCutShort)

section
variable {L : Libs} {listener : HttpListener} {self : ProxyServer}

theorem Connection.trace_run (c : Connection) : ∃ q, q.quiescent = true ∧
    session.Run .fresh (c.trace L listener self) q := connectionTrace_run L _ _ listener _ _ _

theorem Connection.calls_trace (c : Connection) : c.calls L listener self = statOps (c.trace L listener self) :=
  rfl

theorem countP_statOps (op : StatOp) (t : Trace) :
    (statOps t).countP (· == op) = t.count (.stat op) := by
  induction t with
  | nil => rfl
  | cons e t ih =>
    rw [List.count_cons, ← ih]
    cases e with
    | stat op' =>
      rw [show statOps (.stat op' :: t) = op' :: statOps t from rfl, List.countP_cons]
      congr 1
      simp
    | _ => rfl

theorem statOps_flatMap (f : Connection → Trace) (cs : List Connection) :
    statOps (cs.flatMap f) = cs.flatMap fun c => statOps (f c) := List.filterMap_flatMap

theorem countP_flatMap_congr {A B : Type} {f : A → List B} {p q : B → Bool} {as : List A}
    (h : ∀ a ∈ as, (f a).countP p = (f a).countP q) : (as.flatMap f).countP p = (as.flatMap f).countP q := by
  induction as with
  | nil => rfl
  | cons a as ih =>
    obtain ⟨ha, has⟩ := List.forall_mem_cons.1 h
    rw [List.flatMap_cons, List.countP_append, List.countP_append, ha, ih has]

/-- What a client that was served adds to a counter of connections. -/
theorem weigh_served_connection {k : Counter} (hk : k.ofConnections = true) (c : Connection) :
    weigh k.weight (entries L listener self (c, true)) = weigh k.weight
      ([.incTotalConnections, .incActiveConnections, .decActiveConnections] ++ counted c.protocol) := by
  have hcalls : weigh k.weight (c.calls L listener self) = weigh k.weight (counted c.protocol) := by
    obtain ⟨heq, hops⟩ := @Connection.calls_eq L listener self c
    rw [heq, weigh_append, weigh_eq_zero fun op hop => k.weight_handlers hk (hops op hop), Int.add_zero]
  simp only [entries, if_true, weigh_append, hcalls, weigh_cons, weigh_nil]
  omega

/-- The others are about what its connection did. -/
theorem weigh_served_handlers {k : Counter} (hk : k.ofConnections = false) (c : Connection) :
    weigh k.weight (entries L listener self (c, true)) = weigh k.weight (statOps (c.trace L listener self)) ∧
      weigh k.weight c.refusal = 0 := by
  have hfixed : k.weight .incTotalConnections = 0 ∧ k.weight .incActiveConnections = 0 ∧
      k.weight .decActiveConnections = 0 := by
    cases k <;> first | exact ⟨rfl, rfl, rfl⟩ | cases hk
  obtain ⟨h₁, h₂, h₃⟩ := hfixed
  refine ⟨?_, weigh_eq_zero ?_⟩
  · simp only [entries, if_true, weigh_append, weigh_cons, weigh_nil, h₁, h₂, h₃, c.calls_trace]
    omega
  · intro op hop
    simp only [Connection.refusal, List.mem_cons, List.not_mem_nil, or_false] at hop
    rcases hop with rfl | rfl <;> cases k <;> first | rfl | cases hk

variable {s : State} {ls : List Label}

/-- Every counter, as a sum over the clients. -/
theorem reads_settled (hs : self.statsEnabled = true)
    (hrun : (run L listener self).Run { permits := self.maxConnections } ls s) (hidle : s.Idle)
    (k : Counter) : k.read s.counters = .ofInt
      (weigh (fun c => weigh k.weight (entries L listener self (c, true))) (admitted self.maxConnections ls) +
        weigh (fun c => weigh k.weight c.refusal) (refused self.maxConnections ls)) := by
  have h0 : Posted L listener self { permits := self.maxConnections } .empty := ⟨rfl, rfl⟩
  obtain ⟨b, hb, hhanded⟩ := h0.run hs hrun
  rw [hb.settled hidle, hhanded, Ledger.empty, List.nil_append, weigh_flatMap, weigh_split]
  rfl

/-- The counters of connections. -/
theorem reads_connections (hs : self.statsEnabled = true)
    (hrun : (run L listener self).Run { permits := self.maxConnections } ls s) (hidle : s.Idle)
    {k : Counter} (hk : k.ofConnections = true) {f g : Connection → Int}
    (hserved : ∀ c : Connection, weigh k.weight
      ([.incTotalConnections, .incActiveConnections, .decActiveConnections] ++ counted c.protocol) = f c)
    (hrefused : ∀ c : Connection, weigh k.weight c.refusal = g c) :
    k.read s.counters = .ofInt (weigh f (admitted self.maxConnections ls) +
      weigh g (refused self.maxConnections ls)) := by
  rw [reads_settled hs hrun hidle, weigh_congr fun c _ => (weigh_served_connection hk c).trans (hserved c),
    weigh_congr fun c _ => hrefused c]

/-- The counters of what connections did. -/
theorem reads_handlers (hs : self.statsEnabled = true)
    (hrun : (run L listener self).Run { permits := self.maxConnections } ls s) (hidle : s.Idle)
    {k : Counter} (hk : k.ofConnections = false) : k.read s.counters = .ofInt
      (weigh k.weight (statOps ((admitted self.maxConnections ls).flatMap (·.trace L listener self)))) := by
  rw [reads_settled hs hrun hidle, statOps_flatMap, weigh_flatMap,
    weigh_congr fun c _ => (weigh_served_handlers hk c).1,
    weigh_eq_zero fun c _ => (@weigh_served_handlers L listener self k hk c).2,
    Int.add_zero]

theorem Connection.refused_once (c : Connection) :
    (c.trace L listener self).count (.stat .incAuthFailures) = (c.unauthorized L listener self).toNat := by
  obtain ⟨q, hq, hrun⟩ := @Connection.trace_run L listener self c
  have hle := (FailuresAccounted.of_run hrun hq).refusals
  unfold Connection.unauthorized
  cases hc : (c.trace L listener self).contains (.stat .incAuthFailures) with
  | true =>
    have hpos := List.count_pos_iff.2 (List.contains_iff_mem.1 hc)
    rw [Bool.toNat_true]
    omega
  | false =>
    rw [Bool.toNat_false, List.count_eq_zero]
    exact fun hmem => Bool.false_ne_true (hc.symm.trans (List.contains_iff_mem.2 hmem))

theorem count_unauthorized (cs : List Connection) :
    (cs.flatMap (·.trace L listener self)).count (.stat .incAuthFailures) =
      cs.countP (·.unauthorized L listener self) := by
  induction cs with
  | nil => rfl
  | cons c cs ih =>
    rw [List.flatMap_cons, List.count_append, ih, c.refused_once, List.countP_cons, Nat.add_comm]
    cases c.unauthorized L listener self <;> rfl

/-- A counter that one call moves, and no other. -/
theorem reads_count (hs : self.statsEnabled = true)
    (hrun : (run L listener self).Run { permits := self.maxConnections } ls s) (hidle : s.Idle)
    {k : Counter} (hk : k.ofConnections = false) {op : StatOp} (hop : k.weight = tally (· == op)) :
    k.read s.counters = .ofNat (((admitted self.maxConnections ls).flatMap
      (·.trace L listener self)).count (.stat op)) := by
  rw [reads_handlers hs hrun hidle hk, hop, weigh_tally, ofInt_natCast, countP_statOps]

/-- A counter that calls move by a number of bytes. -/
theorem reads_bytes (hs : self.statsEnabled = true)
    (hrun : (run L listener self).Run { permits := self.maxConnections } ls s) (hidle : s.Idle)
    {k : Counter} (hk : k.ofConnections = false) {f : StatOp → Nat} (hf : k.weight = fun op => (f op : Int)) :
    k.read s.counters = .ofNat (L2.counted f ((admitted self.maxConnections ls).flatMap
      (·.trace L listener self))) := by
  rw [reads_handlers hs hrun hidle hk, hf, weigh_natCast, ofInt_natCast]
  rfl

theorem totals_settled (hs : self.statsEnabled = true)
    (hrun : (run L listener self).Run { permits := self.maxConnections } ls s) (hidle : s.Idle) :
    Totals L listener self (admitted self.maxConnections ls) (refused self.maxConnections ls) s.counters := by
  have hprotocol : ∀ {p : ProxyProtocol} (cs : List Connection),
      weigh (fun c : Connection => (c.protocol == some p).toInt) cs =
        (cs.countP fun c => c.protocol == some p : Nat) := fun cs => weigh_tally _ cs
  have hzero : ∀ cs : List Connection, weigh (fun _ => 0) cs = 0 := fun cs => weigh_eq_zero fun _ _ => rfl
  have haccounted : ∀ c ∈ admitted self.maxConnections ls,
      (c.trace L listener self).countP (· == .stat .incConnectFailures) =
        (c.trace L listener self).countP isUnreached ∧
      (c.trace L listener self).countP (· == .stat .incUdpAssociateSessions) =
        (c.trace L listener self).countP isBind ∧
      (c.trace L listener self).countP (· == .stat .incRelayFailures) =
        (c.trace L listener self).countP isCutShort := by
    intro c _
    obtain ⟨q, hq, hr⟩ := @Connection.trace_run L listener self c
    have hfailures := FailuresAccounted.of_run hr hq
    exact ⟨hfailures.connects, associations_counted hr hq, hfailures.relays⟩
  refine ⟨?_, ?_, ?_, ?_, ?_, reads_bytes hs hrun hidle (k := .tcpBytesUp) rfl rfl,
    reads_bytes hs hrun hidle (k := .tcpBytesDown) rfl rfl, ?_,
    reads_bytes hs hrun hidle (k := .udpBytesIn) rfl rfl,
    reads_bytes hs hrun hidle (k := .udpBytesOut) rfl rfl, ?_, ?_, ?_⟩
  · have := reads_connections hs hrun hidle (k := .totalConnections) rfl (f := fun _ => 1) (g := fun _ => 0)
      (fun c => by rcases c.protocol with _ | _ | _ <;> rfl) fun c => rfl
    rwa [weigh_one, hzero, Int.add_zero, ofInt_natCast] at this
  · have := reads_connections hs hrun hidle (k := .activeConnections) rfl (f := fun _ => 0) (g := fun _ => 0)
      (fun c => by rcases c.protocol with _ | _ | _ <;> rfl) fun c => rfl
    rwa [hzero, hzero] at this
  · have := reads_connections hs hrun hidle (k := .socks5Connections) rfl
      (f := fun c => (c.protocol == some .socks5).toInt) (g := fun _ => 0)
      (fun c => by rcases c.protocol with _ | _ | _ <;> rfl) fun c => rfl
    rwa [hprotocol, hzero, Int.add_zero, ofInt_natCast] at this
  · have := reads_connections hs hrun hidle (k := .httpConnections) rfl
      (f := fun c => (c.protocol == some .http).toInt) (g := fun _ => 0)
      (fun c => by rcases c.protocol with _ | _ | _ <;> rfl) fun c => rfl
    rwa [hprotocol, hzero, Int.add_zero, ofInt_natCast] at this
  · have := reads_connections hs hrun hidle (k := .connectionLimitRejections) rfl
      (f := fun _ => 0) (g := fun _ => 1)
      (fun c => by rcases c.protocol with _ | _ | _ <;> rfl) fun c => rfl
    rwa [weigh_one, hzero, Int.zero_add, ofInt_natCast] at this
  · have := reads_count hs hrun hidle (k := .udpAssociateSessions) rfl rfl
    rwa [List.count, countP_flatMap_congr fun c hc => (haccounted c hc).2.1] at this
  · have := reads_count hs hrun hidle (k := .connectFailures) rfl rfl
    rwa [List.count, countP_flatMap_congr fun c hc => (haccounted c hc).1] at this
  · have := reads_count hs hrun hidle (k := .authFailures) rfl rfl
    rwa [count_unauthorized] at this
  · have := reads_count hs hrun hidle (k := .relayFailures) rfl rfl
    rwa [List.count, countP_flatMap_congr fun c hc => (haccounted c hc).2.2] at this

end
/-- **The counters of an idle server** are sums over the clients that came: how many were
served and turned away, what they spoke, what failed in their connections, and the bytes
that these called for. The order they came in and the interleaving of their tasks are not
in it, but for who got a permit. -/
theorem counters_settled {cfg : Config} {server : ProxyServer}
    (hcfg : ProxyServer.withStats cfg true = .ok server) (hstats : cfg.server.disableStats = false)
    (L : Libs) (listener : HttpListener) {s : State} {ls : List Label}
    (hrun : (run L listener server).Run { permits := server.maxConnections } ls s) (hidle : s.Idle) :
    Totals L listener server (admitted server.maxConnections ls) (refused server.maxConnections ls)
      s.counters := by
  obtain ⟨-, -, henabled⟩ := withStats_ok hcfg
  exact totals_settled (henabled.trans (by rw [hstats]; rfl)) hrun hidle

/-- A proxy for one client, who sends nothing, when a second one comes. -/
theorem counters_settled_refusal :
    let cfg : Config := ⟨⟨"127.0.0.1:0", 1, false⟩, ⟨some "admin", some "pw", []⟩⟩
    ∃ (server : ProxyServer) (ls : List Label) (s : State), ProxyServer.withStats cfg true = .ok server ∧
      (admitted server.maxConnections ls).length = 1 ∧ (refused server.maxConnections ls).length = 1 ∧
      Totals plainLibs ⟨1080, "v"⟩ server (admitted server.maxConnections ls)
        (refused server.maxConnections ls) s.counters := by
  intro cfg
  let server : ProxyServer := ⟨"127.0.0.1:0", 1, cfg.auth, true⟩
  let c : Connection := ⟨.new (.v4 ⟨[10, 0, 0, 1], rfl⟩) 5000, .calm [] [], []⟩
  let ls : List Label := [.accept c, .accept c, .task 0 .poll, .task 0 .dispatch, .task 0 .dropGuard,
    .task 0 .release]
  have hr : ∃ s, (run plainLibs ⟨1080, "v"⟩ server).Run { permits := 1 } ls s ∧
      s.tasks = [.ended none] :=
    ⟨_, .cons rfl (.cons rfl (.cons rfl (.cons rfl (.cons rfl (.cons rfl (.nil _)))))), rfl⟩
  obtain ⟨s, hrun, htasks⟩ := hr
  have hidle : s.Idle := by
    intro t ht
    rw [htasks, List.mem_singleton] at ht
    exact ⟨_, ht⟩
  exact ⟨server, ls, s, rfl, rfl, rfl, @counters_settled cfg server rfl rfl _ _ s ls hrun hidle⟩

end TinySocks.L5
