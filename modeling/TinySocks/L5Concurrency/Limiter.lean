import TinySocks.Core.Lts
import TinySocks.L4App.Gate

/-!
# The accept loop and its tasks (`server.rs`)

`ProxyServer::run` accepts a client, takes a permit of the semaphore or turns
the client away, counts it, and spawns a task. A task creates its guard at its
first poll, reads the first byte and counts the protocol, serves the
connection, drops the guard (which takes the connection off the active ones)
and then releases its permit. Every poll, update and drop is a step of its
own, and the steps of the loop and of any number of tasks interleave.

The updates a task makes are those of a run of `serveConnection`
(`serveConnection_stats`): at most one counts the protocol, none touches the
other counters of connections. `Counted` is the invariant, and
`connection_counting_consistent` what it says of the counters.
-/
namespace TinySocks.L5

open TinySocks.Core TinySocks.L1 TinySocks.L2 TinySocks.L3 TinySocks.L4

/-! ## What a connection counts -/

/-- mirrors src/server.rs:126-132 -/
def counterOf : ProxyProtocol → StatOp
  | .socks5 => .incSocks5Connections
  | .http => .incHttpConnections

/-- What the dispatch counts for its answer. -/
def counted (protocol : Option ProxyProtocol) : List StatOp := (protocol.map counterOf).toList

/-- The protocol a run of the dispatch found, if it got to one. -/
def protocolFound : EStateM.Result Stop World (Option ProxyProtocol) → Option ProxyProtocol
  | .ok protocol _ => protocol
  | .error _ _ => none

theorem statOps_emits {w w' : World} (h : Emits Ev.isHandlers w w') :
    ∃ ops, statOps w'.trace = statOps w.trace ++ ops ∧ ∀ op ∈ ops, op.isHandlers = true := by
  obtain ⟨-, evs, ht, hev⟩ := h
  refine ⟨statOps evs, by rw [ht, statOps_append], fun op hop => ?_⟩
  obtain ⟨e, he, heq⟩ := List.mem_filterMap.1 hop
  have hh := hev e he
  cases e <;> cases heq
  exact hh

theorem dispatchOn_stats (first : Bytes) (w : World) : ∃ protocol w',
    dispatchOn first w = .ok protocol w' ∧
      statOps w'.trace = statOps w.trace ++ counted protocol := by
  cases first with
  | nil => exact ⟨none, w, rfl, (List.append_nil _).symm⟩
  | cons byte rest =>
    unfold dispatchOn
    simp only
    split
    · exact ⟨some .socks5, _, rfl, statOps_append w.trace [.stat .incSocks5Connections]⟩
    · exact ⟨some .http, _, rfl, statOps_append w.trace [.stat .incHttpConnections]⟩

theorem readWithTimeout_stats (cap : Nat) (action : Str) (w : World) :
    statOps (finalState (readWithTimeout cap action w)).trace = statOps w.trace := by
  obtain ⟨-, evs, ht, hev⟩ :=
    Keeps.withTimeout (keeps_read_emits (p := Ev.isRead) (fun _ => rfl) cap) action w
  have hnone : statOps evs = [] := by
    rw [statOps, List.filterMap_eq_nil_iff]
    intro e he
    have := hev e he
    cases e <;> first | rfl | cases this
  unfold readWithTimeout
  rw [ht, statOps_append, hnone, List.append_nil]

/-- The dispatch counts what it finds, and nothing else. -/
theorem classify_stats (w : World) : statOps (finalState (classify w)).trace =
    statOps w.trace ++ counted (protocolFound (classify w)) := by
  have hread := readWithTimeout_stats 1 "initial protocol read" w
  rcases classify_steps w with ⟨e, hc⟩ | ⟨e, w', hr, hc⟩ | ⟨first, w₁, hr, hc⟩
  · rw [hc]
    exact (List.append_nil _).symm
  · rw [hr] at hread
    rw [hc]
    exact hread.trans (List.append_nil _).symm
  · rw [hr] at hread
    obtain ⟨protocol, w₂, hd, hs⟩ := dispatchOn_stats first w₁
    rw [hc, hd]
    exact hs.trans (congrArg (· ++ _) hread)

/-- A connection counts its protocol, if it gets that far, and then nothing
about connections. -/
theorem serveConnection_stats (L : Libs) (auth : AuthConfig) (statsEnabled : Bool)
    (listener : HttpListener) (peer : SocketAddr) (w : World) :
    ∃ ops, statOps (finalState (serveConnection L auth statsEnabled listener peer w)).trace =
        statOps w.trace ++ counted (protocolFound (classify w)) ++ ops ∧
      ∀ op ∈ ops, op.isHandlers = true := by
  have hc := classify_stats w
  unfold serveConnection
  cases h : classify w with
  | error e w₁ =>
    rw [h] at hc
    rw [bind_eq_error.2 (.inl h)]
    exact ⟨[], by rw [List.append_nil]; exact hc, by simp⟩
  | ok protocol w₁ =>
    rw [h] at hc
    rw [bind_of_ok h]
    have hrest : ∀ {m : M Unit}, Keeps Extends m →
        ∃ ops, statOps (finalState (m w₁)).trace = statOps w₁.trace ++ ops ∧
          ∀ op ∈ ops, op.isHandlers = true := fun hm => statOps_emits (hm w₁)
    have hw₁ : statOps w₁.trace = statOps w.trace ++ counted protocol := hc
    simp only [protocolFound]
    rw [← hw₁]
    match protocol with
    | none => exact ⟨[], (List.append_nil _).symm, by simp⟩
    | some .socks5 =>
      exact hrest (Keeps.bind extends_frame (keeps_quiet (keeps_socksCommand _ _ _ _)) fun cmd =>
        keeps_runCommand cmd peer)
    | some .http => exact hrest (Http.keeps_handleHttpProxy _ _ _ _ _)

/-! ## The server -/

/-- Of the statistics handle, whether it counts.
mirrors src/server.rs:27-32 -/
structure ProxyServer where
  bind : Str
  maxConnections : Nat
  auth : AuthConfig
  statsEnabled : Bool
  deriving DecidableEq, Repr

/-- mirrors src/server.rs:46-59 -/
def ProxyServer.withStats (cfg : Config) (statsEnabled : Bool) : Except Str ProxyServer := do
  cfg.validate
  pure {
    bind := cfg.server.bind
    maxConnections := cfg.server.maxConnections
    auth := cfg.auth
    statsEnabled := if cfg.server.disableStats then false else statsEnabled }

/-- Calls on the handle, one after the other. -/
def ProxyServer.count (self : ProxyServer) (ops : List StatOp) (c : Counters) : Counters :=
  if self.statsEnabled then ops.foldl StatOp.apply c else c

/-- A client: where it connects from, what it sends, and how its connection goes. -/
structure Connection where
  peer : SocketAddr
  env : Env
  inp : Bytes

/-- A spawned task. -/
inductive Task where
  /-- not polled yet; the permit went with it -/
  | spawned (c : Connection)
  /-- the guard is there, and the first byte is waited for -/
  | started (c : Connection)
  /-- past the first read, with these calls still to make -/
  | serving (protocol : Option ProxyProtocol) (updates : List StatOp)
  /-- the guard is dropped, the permit is not -/
  | unguarded (protocol : Option ProxyProtocol)
  | ended (protocol : Option ProxyProtocol)

namespace Task

/-- It has not dropped its guard. -/
def guarded : Task → Bool
  | unguarded _ | ended _ => false
  | _ => true

def holdsPermit : Task → Bool
  | ended _ => false
  | _ => true

/-- What it was classified as; none before, and none if its client sent nothing. -/
def protocol : Task → Option ProxyProtocol
  | spawned _ | started _ => none
  | serving protocol _ | unguarded protocol | ended protocol => protocol

/-- It was classified as this. -/
def speaks (protocol : ProxyProtocol) (t : Task) : Bool := t.protocol == some protocol

def updates : Task → List StatOp
  | serving _ updates => updates
  | _ => []

end Task

/-- What a task does next. -/
inductive Act where
  | poll
  | dispatch
  | update
  | dropGuard
  | release
  deriving DecidableEq, Repr

def Act.released : Act → Nat
  | release => 1
  | _ => 0

/-- The listener and everything it spawned. `accepted` and `granted` are the
history: sockets accepted, and permits handed out. -/
structure State where
  counters : Counters := {}
  permits : Nat
  tasks : List Task := []
  accepted : Nat := 0
  granted : Nat := 0

namespace State

def active (s : State) : Nat := s.tasks.countP Task.guarded

def held (s : State) : Nat := s.tasks.countP Task.holdsPermit

/-- The tasks that were classified as this. -/
def classifiedAs (s : State) (protocol : ProxyProtocol) : Nat :=
  s.tasks.countP (Task.speaks protocol)

/-- The tasks that got past classification. -/
def classified (s : State) : Nat := s.tasks.countP fun t => t.protocol.isSome

end State

inductive Label where
  | accept (c : Connection)
  | task (i : Nat) (act : Act)

section
variable (L : Libs) (listener : HttpListener) (self : ProxyServer)

namespace Connection

def accepted (c : Connection) : World := .accepted c.env c.inp

/-- Every call the task's body makes on the handle. -/
def calls (c : Connection) : List StatOp := statOps
  (finalState (serveConnection L self.auth self.statsEnabled listener c.peer c.accepted)).trace

def protocol (c : Connection) : Option ProxyProtocol := protocolFound (classify c.accepted)

/-- Its calls behind the classification. -/
def updates (c : Connection) : List StatOp :=
  (c.calls L listener self).drop (counted c.protocol).length

end Connection

/-- mirrors src/server.rs:81-101 -/
def accept (s : State) (c : Connection) : State :=
  if s.permits = 0 then
    { s with
      counters := self.count [.incConnectionLimitRejections,
        .recordError ("connection limit rejected from " ++ c.peer.toStr)] s.counters
      accepted := s.accepted + 1 }
  else
    { s with
      counters := self.count [.incTotalConnections, .incActiveConnections] s.counters
      permits := s.permits - 1
      tasks := s.tasks ++ [.spawned c]
      accepted := s.accepted + 1
      granted := s.granted + 1 }

/-- The next step of a task, and its calls on the handle. The guard was created
last and is dropped first.
mirrors src/server.rs:101-204 -/
def Task.step : Task → Act → Option (Task × List StatOp)
  | .spawned c, .poll => some (.started c, [])
  | .started c, .dispatch =>
    some (.serving c.protocol (c.updates L listener self), counted c.protocol)
  | .serving protocol (op :: updates), .update => some (.serving protocol updates, [op])
  | .serving protocol [], .dropGuard => some (.unguarded protocol, [.decActiveConnections])
  | .unguarded protocol, .release => some (.ended protocol, [])
  | _, _ => none

def step (s : State) : Label → Option State
  | .accept c => some (accept self s c)
  | .task i act => do
    let t ← s.tasks[i]?
    let (t', ops) ← t.step L listener self act
    some { s with
      counters := self.count ops s.counters
      permits := s.permits + act.released
      tasks := s.tasks.set i t' }

/-- mirrors src/server.rs:61-205 -/
def run : LTS State Label :=
  .ofFn (fun s => s = { permits := self.maxConnections }) (step L listener self)

end

/-! ## The invariant -/

/-- The counters say what happened. -/
structure Counted (server : ProxyServer) (s : State) : Prop where
  permits : s.permits + s.held = server.maxConnections
  spawned : s.tasks.length = s.granted
  total : s.counters.totalConnections = .ofNat s.granted
  active : s.counters.activeConnections = .ofNat s.active
  socks5 : s.counters.socks5Connections = .ofNat (s.classifiedAs .socks5)
  http : s.counters.httpConnections = .ofNat (s.classifiedAs .http)
  refused : ∃ n, s.accepted = s.granted + n ∧ s.counters.connectionLimitRejections = .ofNat n
  handlers : ∀ t ∈ s.tasks, ∀ op ∈ t.updates, op.isHandlers = true

/-- A counter that moved by as much as what it counts still counts it. -/
theorem counts_on {c : UInt64} {n n' a b : Nat} (hc : c + .ofNat a = .ofNat n + .ofNat b)
    (hn : n' + a = n + b) : c = .ofNat n' := by
  rw [← UInt64.ofNat_add, ← hn, UInt64.ofNat_add] at hc
  exact (UInt64.add_left_inj _).1 hc

/-- The counters of connections. -/
structure SameCounts (c c' : Counters) : Prop where
  total : c'.totalConnections = c.totalConnections
  active : c'.activeConnections = c.activeConnections
  socks5 : c'.socks5Connections = c.socks5Connections
  http : c'.httpConnections = c.httpConnections
  rejections : c'.connectionLimitRejections = c.connectionLimitRejections

theorem apply_isHandlers {op : StatOp} (h : op.isHandlers = true) (c : Counters) :
    SameCounts c (op.apply c) := by
  cases op <;> first | exact ⟨rfl, rfl, rfl, rfl, rfl⟩ | cases h

variable {L : Libs} {listener : HttpListener} {self : ProxyServer} {s : State}

/-- What a run of the body calls is what its task makes of it. -/
theorem Connection.calls_eq (c : Connection) :
    c.calls L listener self = counted c.protocol ++ c.updates L listener self ∧
      ∀ op ∈ c.updates L listener self, op.isHandlers = true := by
  obtain ⟨ops, h, hops⟩ :=
    serveConnection_stats L self.auth self.statsEnabled listener c.peer c.accepted
  have hcalls : c.calls L listener self = counted c.protocol ++ ops := h
  have hup : c.updates L listener self = ops := by
    unfold Connection.updates
    rw [hcalls, List.drop_left]
  rw [hup]
  exact ⟨hcalls, hops⟩

theorem count_eq (hs : self.statsEnabled = true) (ops : List StatOp) (c : Counters) :
    self.count ops c = ops.foldl StatOp.apply c := by
  unfold ProxyServer.count
  rw [hs]
  rfl

theorem counted_init : Counted self { permits := self.maxConnections } :=
  ⟨rfl, rfl, rfl, rfl, rfl, rfl, ⟨0, rfl, rfl⟩, by simp⟩

/-- One step of the loop. -/
theorem Counted.accept (hs : self.statsEnabled = true) (h : Counted self s) (c : Connection) :
    Counted self (accept self s c) := by
  obtain ⟨n, hacc, hrej⟩ := h.refused
  unfold L5.accept
  rw [count_eq hs, count_eq hs]
  split
  · refine ⟨h.permits, h.spawned, h.total, h.active, h.socks5, h.http, ⟨n + 1, ?_, ?_⟩, h.handlers⟩
    · simp only [hacc]
      omega
    · simp [StatOp.apply, hrej, UInt64.ofNat_add]
  · rename_i hp
    have happ : ∀ p : Task → Bool, (s.tasks ++ [Task.spawned c]).countP p =
        s.tasks.countP p + (p (.spawned c)).toNat := by
      intro p
      rw [List.countP_append, List.countP_singleton, toNat_eq_ite]
    refine ⟨?_, ?_, ?_, ?_, ?_, ?_, ⟨n, ?_, ?_⟩, ?_⟩
    · have := h.permits
      simp only [State.held, happ, Task.holdsPermit, Bool.toNat_true] at this ⊢
      omega
    · rw [List.length_append, h.spawned]
      rfl
    · simp [StatOp.apply, h.total, UInt64.ofNat_add]
    · simp [StatOp.apply, State.active, happ, Task.guarded, h.active, UInt64.ofNat_add]
    · simp [StatOp.apply, State.classifiedAs, happ, Task.speaks, Task.protocol, h.socks5]
    · simp [StatOp.apply, State.classifiedAs, happ, Task.speaks, Task.protocol, h.http]
    · simp only [hacc]
      omega
    · simp [StatOp.apply, hrej]
    · intro t ht
      rcases List.mem_append.1 ht with ht | ht
      · exact h.handlers t ht
      · rw [List.mem_singleton.1 ht]
        simp [Task.updates]

/-- A task moves on, and the counters move with what it stands for. -/
theorem Counted.replace (h : Counted self s) {i : Nat} {t t' : Task} (hget : s.tasks[i]? = some t)
    {counters : Counters} {permits : Nat}
    (hpermits : permits + t'.holdsPermit.toNat = s.permits + t.holdsPermit.toNat)
    (htotal : counters.totalConnections = s.counters.totalConnections)
    (hactive : counters.activeConnections + .ofNat t.guarded.toNat =
      s.counters.activeConnections + .ofNat t'.guarded.toNat)
    (hsocks5 : counters.socks5Connections + .ofNat (t.speaks .socks5).toNat =
      s.counters.socks5Connections + .ofNat (t'.speaks .socks5).toNat)
    (hhttp : counters.httpConnections + .ofNat (t.speaks .http).toNat =
      s.counters.httpConnections + .ofNat (t'.speaks .http).toNat)
    (hrejections : counters.connectionLimitRejections = s.counters.connectionLimitRejections)
    (hhandlers : ∀ op ∈ t'.updates, op.isHandlers = true) :
    Counted self { s with counters, permits, tasks := s.tasks.set i t' } := by
  refine ⟨?_, ?_, htotal.trans h.total, ?_, ?_, ?_, ?_, ?_⟩
  · have hp := h.permits
    have := countP_replace (p := Task.holdsPermit) hget t'
    simp only [State.held] at hp ⊢
    omega
  · rw [List.length_set, h.spawned]
  · rw [h.active] at hactive
    exact counts_on hactive (countP_replace hget t')
  · rw [h.socks5] at hsocks5
    exact counts_on hsocks5 (countP_replace (p := Task.speaks .socks5) hget t')
  · rw [h.http] at hhttp
    exact counts_on hhttp (countP_replace (p := Task.speaks .http) hget t')
  · obtain ⟨n, hacc, hrej⟩ := h.refused
    exact ⟨n, hacc, hrejections.trans hrej⟩
  · intro t₁ ht₁
    rcases List.mem_or_eq_of_mem_set ht₁ with ht₁ | rfl
    · exact h.handlers t₁ ht₁
    · exact hhandlers

/-- What a step of a task is. -/
theorem Task.step_cases {t t' : Task} {act : Act} {ops : List StatOp}
    (h : t.step L listener self act = some (t', ops)) :
    (∃ c, act = .poll ∧ t = .spawned c ∧ t' = .started c ∧ ops = []) ∨
    (∃ c, act = .dispatch ∧ t = .started c ∧
      t' = .serving c.protocol (c.updates L listener self) ∧ ops = counted c.protocol) ∨
    (∃ protocol op updates, act = .update ∧ t = .serving protocol (op :: updates) ∧
      t' = .serving protocol updates ∧ ops = [op]) ∨
    (∃ protocol, act = .dropGuard ∧ t = .serving protocol [] ∧ t' = .unguarded protocol ∧
      ops = [.decActiveConnections]) ∨
    (∃ protocol, act = .release ∧ t = .unguarded protocol ∧ t' = .ended protocol ∧ ops = []) := by
  unfold Task.step at h
  split at h
  · cases h
    exact .inl ⟨_, rfl, rfl, rfl, rfl⟩
  · cases h
    exact .inr (.inl ⟨_, rfl, rfl, rfl, rfl⟩)
  · cases h
    exact .inr (.inr (.inl ⟨_, _, _, rfl, rfl, rfl, rfl⟩))
  · cases h
    exact .inr (.inr (.inr (.inl ⟨_, rfl, rfl, rfl, rfl⟩)))
  · cases h
    exact .inr (.inr (.inr (.inr ⟨_, rfl, rfl, rfl, rfl⟩)))
  · cases h

theorem step_task {s' : State} {i : Nat} {act : Act}
    (h : step L listener self s (.task i act) = some s') :
    ∃ t t' ops, s.tasks[i]? = some t ∧ t.step L listener self act = some (t', ops) ∧
      s' = { s with
        counters := self.count ops s.counters
        permits := s.permits + act.released
        tasks := s.tasks.set i t' } := by
  obtain ⟨t, ht, h⟩ := Option.bind_eq_some_iff.1 h
  obtain ⟨⟨t', ops⟩, hs, h⟩ := Option.bind_eq_some_iff.1 h
  cases h
  exact ⟨t, t', ops, ht, hs, rfl⟩

/-- One step of a task. -/
theorem Counted.task (hs : self.statsEnabled = true) (h : Counted self s) {s' : State} {i : Nat}
    {act : Act} (hstep : step L listener self s (.task i act) = some s') : Counted self s' := by
  obtain ⟨t, t', ops, hget, ht, rfl⟩ := step_task hstep
  have hmem := h.handlers t (List.mem_of_getElem? hget)
  rw [count_eq hs]
  rcases Task.step_cases ht with ⟨c, rfl, rfl, rfl, rfl⟩ | ⟨c, rfl, rfl, rfl, rfl⟩ |
    ⟨protocol, op, updates, rfl, rfl, rfl, rfl⟩ | ⟨protocol, rfl, rfl, rfl, rfl⟩ |
    ⟨protocol, rfl, rfl, rfl, rfl⟩
  · exact h.replace hget rfl rfl rfl rfl rfl rfl (by simp [Task.updates])
  · have hup : ∀ op ∈ c.updates L listener self, op.isHandlers = true := c.calls_eq.2
    rcases c.protocol with _ | _ | _
    · exact h.replace hget rfl rfl rfl rfl rfl rfl hup
    · refine h.replace hget rfl rfl rfl ?_ rfl rfl hup
      simp [counted, counterOf, StatOp.apply, Task.speaks, Task.protocol]
    · refine h.replace hget rfl rfl rfl rfl ?_ rfl hup
      simp [counted, counterOf, StatOp.apply, Task.speaks, Task.protocol]
  · have hsame := apply_isHandlers (hmem op List.mem_cons_self) s.counters
    refine h.replace hget rfl hsame.total ?_ ?_ ?_ hsame.rejections fun op' hop' =>
      hmem op' (List.mem_cons_of_mem op hop')
    · exact congrArg (· + _) hsame.active
    · exact congrArg (· + _) hsame.socks5
    · exact congrArg (· + _) hsame.http
  · refine h.replace hget rfl rfl ?_ rfl rfl rfl (by simp [Task.updates])
    simp [StatOp.apply, Task.guarded]
  · exact h.replace hget rfl rfl rfl rfl rfl rfl (by simp [Task.updates])

/-- **The invariant of the accept loop**: it holds after every step of every
interleaving. -/
theorem counted_inductive (L : Libs) (listener : HttpListener) (hs : self.statsEnabled = true) :
    (run L listener self).Inductive (Counted self) where
  init := by
    intro s he
    subst he
    exact counted_init
  step := by
    intro s hx s' h hstep
    rcases hx with c | ⟨i, act⟩
    · cases hstep
      exact h.accept hs c
    · exact h.task hs hstep

/-! ## The counters -/

/-- What a proxy for `maxConnections` clients may say of itself. The counters
wrap at 2^64, so the last field is the reading of the others as numbers. -/
structure Consistent (maxConnections : Nat) (s : State) : Prop where
  active : s.counters.activeConnections.toNat = s.active
  active_le : s.active ≤ s.held
  held_le : s.held ≤ maxConnections
  total : s.counters.totalConnections = .ofNat s.granted
  accepted : .ofNat s.accepted = s.counters.totalConnections + s.counters.connectionLimitRejections
  protocols : s.counters.socks5Connections + s.counters.httpConnections = .ofNat s.classified
  classified_le : s.classified ≤ s.granted
  unwrapped : s.accepted < UInt64.size →
    s.counters.totalConnections.toNat = s.granted ∧
    s.accepted =
      s.counters.totalConnections.toNat + s.counters.connectionLimitRejections.toNat ∧
    s.counters.socks5Connections.toNat + s.counters.httpConnections.toNat = s.classified ∧
    s.counters.socks5Connections.toNat + s.counters.httpConnections.toNat ≤
      s.counters.totalConnections.toNat

/-- The guard is dropped before the permit. -/
theorem active_le_held (s : State) : s.active ≤ s.held := by
  refine List.countP_mono_left fun t _ ht => ?_
  cases t <;> first | rfl | cases ht

theorem classified_eq (s : State) : s.classified = s.classifiedAs .socks5 + s.classifiedAs .http := by
  unfold State.classified State.classifiedAs
  induction s.tasks with
  | nil => rfl
  | cons t ts ih =>
    have hone : (if t.protocol.isSome then 1 else 0) =
        (if t.speaks .socks5 then 1 else 0) + if t.speaks .http then 1 else 0 := by
      unfold Task.speaks
      rcases t.protocol with _ | _ | _ <;> rfl
    simp only [List.countP_cons, ih, hone]
    omega

theorem toNat_counts {c : UInt64} {n : Nat} (hc : c = .ofNat n) (hn : n < UInt64.size) :
    c.toNat = n := by
  rw [hc]
  exact UInt64.toNat_ofNat_of_lt hn

theorem Counted.consistent (h : Counted self s) (hmax : self.maxConnections < UInt64.size) :
    Consistent self.maxConnections s := by
  obtain ⟨n, hacc, hrej⟩ := h.refused
  have hle := active_le_held s
  have hheld : s.held ≤ self.maxConnections := by
    have := h.permits
    omega
  have hclass : s.classified ≤ s.granted := by
    rw [← h.spawned]
    exact List.countP_le_length
  refine ⟨toNat_counts h.active (by omega), hle, hheld, h.total, ?_, ?_, hclass, fun hlt => ?_⟩
  · rw [hacc, UInt64.ofNat_add, h.total, hrej]
  · rw [classified_eq, UInt64.ofNat_add, h.socks5, h.http]
  · have heq := classified_eq s
    have htotal := toNat_counts h.total (by omega)
    have hrefused := toNat_counts hrej (by omega)
    have hsocks5 := toNat_counts h.socks5 (by omega)
    have hhttp := toNat_counts h.http (by omega)
    refine ⟨htotal, ?_, ?_, ?_⟩ <;> omega

/-- Whoever takes a connection off the active ones is one of them. -/
theorem Counted.decrement (h : Counted self s) (hmax : self.maxConnections < UInt64.size) {i : Nat}
    {t t' : Task} {act : Act} {ops : List StatOp} (hget : s.tasks[i]? = some t)
    (hstep : t.step L listener self act = some (t', ops)) (hops : .decActiveConnections ∈ ops) :
    0 < s.counters.activeConnections := by
  have hguarded : t.guarded = true := by
    rcases Task.step_cases hstep with ⟨c, rfl, rfl, rfl, rfl⟩ | ⟨c, rfl, rfl, rfl, rfl⟩ |
      ⟨protocol, op, updates, rfl, rfl, rfl, rfl⟩ | ⟨protocol, rfl, rfl, rfl, rfl⟩ |
      ⟨protocol, rfl, rfl, rfl, rfl⟩
    · rfl
    · rfl
    · rfl
    · rfl
    · cases hops
  have hpos : 0 < s.active := List.countP_pos_iff.2 ⟨t, List.mem_of_getElem? hget, hguarded⟩
  have hactive := (h.consistent hmax).active
  rw [UInt64.lt_iff_toNat_lt, hactive]
  exact hpos

theorem withStats_ok {cfg : Config} {statsEnabled : Bool}
    (h : ProxyServer.withStats cfg statsEnabled = .ok self) : cfg.validate = .ok () ∧
      self.maxConnections = cfg.server.maxConnections ∧
      self.statsEnabled = (!cfg.server.disableStats && statsEnabled) := by
  obtain ⟨⟨⟩, hv, h⟩ := except_bind_eq_ok.1 h
  cases h
  refine ⟨hv, rfl, ?_⟩
  cases cfg.server.disableStats <;> rfl

/-- **Connection limiting and counting are consistent** in every state of
every interleaving: the counters say what happened, no more clients are active
than permits are held, and the active connections are never counted below zero. -/
theorem connection_counting_consistent {cfg : Config} {server : ProxyServer}
    (hcfg : ProxyServer.withStats cfg true = .ok server) (hstats : cfg.server.disableStats = false)
    (L : Libs) (listener : HttpListener) {s : State} (h : (run L listener server).Reachable s) :
    Consistent cfg.server.maxConnections s ∧
      ∀ (i : Nat) (t t' : Task) (act : Act) (ops : List StatOp), s.tasks[i]? = some t →
        t.step L listener server act = some (t', ops) → .decActiveConnections ∈ ops →
          0 < s.counters.activeConnections := by
  obtain ⟨hv, hmax, henabled⟩ := withStats_ok hcfg
  obtain ⟨-, -, hlimit, -⟩ := validate_ok.1 hv
  have hcounted := (counted_inductive L listener (henabled.trans (by rw [hstats]; rfl))).reachable s h
  have hlt : server.maxConnections < UInt64.size := by
    rw [hmax]
    exact Nat.lt_of_le_of_lt hlimit (by decide)
  rw [← hmax]
  exact ⟨hcounted.consistent hlt, fun _ _ _ _ _ hget => hcounted.decrement hlt hget⟩

/-- A proxy for one client, when a second one comes. -/
theorem connection_counting_consistent_refusal :
    let cfg : Config := ⟨⟨"127.0.0.1:0", 1, false⟩, ⟨some "admin", some "pw", []⟩⟩
    ∃ server s, ProxyServer.withStats cfg true = .ok server ∧
      (run plainLibs ⟨1080, "v"⟩ server).Reachable s ∧ s.accepted = 2 ∧ s.granted = 1 ∧
      Consistent 1 s := by
  intro cfg
  let server : ProxyServer := ⟨"127.0.0.1:0", 1, cfg.auth, true⟩
  let c : Connection := ⟨.new (.v4 ⟨[10, 0, 0, 1], rfl⟩) 5000, .calm [] [], [5, 1, 0]⟩
  have hr : ∃ s, (run plainLibs ⟨1080, "v"⟩ server).Reachable s ∧ s.accepted = 2 ∧ s.granted = 1 :=
    ⟨_, ⟨_, [.accept c, .accept c, .task 0 .poll, .task 0 .dispatch], rfl,
      .cons rfl (.cons rfl (.cons rfl (.cons rfl (.nil _))))⟩, rfl, rfl⟩
  obtain ⟨s, hs, hacc, hgr⟩ := hr
  exact ⟨server, s, rfl, hs, hacc, hgr, (@connection_counting_consistent cfg server rfl rfl _ _ _ hs).1⟩

end TinySocks.L5
