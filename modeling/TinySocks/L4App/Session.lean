import TinySocks.Core.Protocol
import TinySocks.L4App.Server

/-!
# The session of a connection

A session is what a connection amounts to, one event after the other: the first byte,
the talk of the protocol's front end, and then one of a refusal, the statistics page, a
tunnel or a UDP association, each with what it reports when it fails. `Phase.Moves` says
which event may come next, and `session` is the system it makes.

`serveConnection_obeys`: whatever a connection does is a run of `session`, for every
client, every environment and every point at which it stops.
-/
namespace TinySocks.L4

open TinySocks.Core TinySocks.L1 TinySocks.L2 TinySocks.L3

inductive Phase where
  /-- the first byte is waited for -/
  | fresh
  /-- the front end reads and answers -/
  | talking (protocol : ProxyProtocol)
  /-- a refusal was counted, and is to be recorded -/
  | refusing
  | refused
  /-- the statistics page is to be sent -/
  | answering
  /-- the target was not reached, which is to be counted -/
  | unreached
  | reached (protocol : ProxyProtocol)
  /-- the client was told, or its request sent on -/
  | opened (protocol : ProxyProtocol)
  /-- the copy loop ended, and its bytes are to be counted -/
  | moved (up down : Nat)
  /-- the copy loop failed, a reply was not sent or nothing received, which is to be counted -/
  | broken
  /-- a failure was counted, and is to be recorded -/
  | failing
  | closed
  | associating
  /-- the socket of the relay is there, and the client is to be told -/
  | bound
  | relaying
  /-- a name was not resolved, which is to be recorded -/
  | unresolved
  /-- a payload may be sent to this target -/
  | resolved (target : SocketAddr)
  /-- so many bytes were sent to a target, and are to be counted -/
  | sent (n : Nat)
  /-- a payload could not be sent to its target, which is to be counted -/
  | unsent
  /-- it was counted, and is to be recorded -/
  | missed
  /-- a reply was counted, and is to be sent to the client -/
  | replying
  deriving DecidableEq, Repr

namespace Phase

/-- A connection may end here: nothing that happened has still to be accounted for. -/
def quiescent : Phase → Bool
  | refusing | answering | unreached | moved _ _ | broken | failing | associating | unresolved
  | sent _ | unsent | missed | replying => false
  | _ => true

/-- The relay waits for what comes next. -/
def waits : Phase → Bool
  | relaying | resolved _ => true
  | _ => false

/-- What an event leads to. -/
inductive Moves : Phase → Ev → Phase → Prop where
  | firstByte (b : Bytes) : Moves fresh (.read b) fresh
  | socks5 : Moves fresh (.stat .incSocks5Connections) (talking .socks5)
  | http : Moves fresh (.stat .incHttpConnections) (talking .http)
  | heard (protocol : ProxyProtocol) (b : Bytes) : Moves (talking protocol) (.read b) (talking protocol)
  | answered (protocol : ProxyProtocol) (b : Bytes) : Moves (talking protocol) (.write b) (talking protocol)
  | refuse (protocol : ProxyProtocol) : Moves (talking protocol) (.stat .incAuthFailures) refusing
  | refusalRecorded (text : Str) : Moves refusing (.stat (.recordError text)) refused
  | challenge (b : Bytes) : Moves refused (.write b) refused
  | render : Moves (talking .http) .renderHtml answering
  | page (b : Bytes) : Moves answering (.write b) closed
  | reach (protocol : ProxyProtocol) (target : Str) :
      Moves (talking protocol) (.connect target true) (reached protocol)
  | miss (protocol : ProxyProtocol) (target : Str) :
      Moves (talking protocol) (.connect target false) unreached
  | missCounted : Moves unreached (.stat .incConnectFailures) failing
  | recorded (text : Str) : Moves failing (.stat (.recordError text)) closed
  | tell (protocol : ProxyProtocol) (b : Bytes) : Moves (reached protocol) (.write b) (opened protocol)
  | sendOn (b : Bytes) : Moves (reached .http) (.upWrite b) (opened .http)
  | sendMore (b : Bytes) : Moves (opened .http) (.upWrite b) (opened .http)
  | sentCounted (n : Nat) : Moves (opened .http) (.stat (.addTcpBytes n 0)) (opened .http)
  | copied (protocol : ProxyProtocol) (up down : Bytes) :
      Moves (opened protocol) (.copied up down true) (moved up.length down.length)
  | cutShort (protocol : ProxyProtocol) (up down : Bytes) :
      Moves (opened protocol) (.copied up down false) broken
  | copyCounted (up down : Nat) : Moves (moved up down) (.stat (.addTcpBytes up down)) closed
  | breakCounted : Moves broken (.stat .incRelayFailures) failing
  | associate : Moves (talking .socks5) (.stat .incUdpAssociateSessions) associating
  | bind (ip : IpAddr) : Moves associating (.udpBind ip true) bound
  | unbound (ip : IpAddr) : Moves associating (.udpBind ip false) closed
  | relayTold (b : Bytes) : Moves bound (.write b) relaying
  | control {p : Phase} (hp : p.waits = true) (b : Bytes) : Moves p (.read b) relaying
  | received {p : Phase} (hp : p.waits = true) (source : SocketAddr) (packet : Bytes) :
      Moves p (.udpRecv source packet) relaying
  | resolve {p : Phase} (hp : p.waits = true) (destination : Address) (target : SocketAddr) :
      Moves p (.resolved destination (some target)) (resolved target)
  | unresolve {p : Phase} (hp : p.waits = true) (destination : Address) :
      Moves p (.resolved destination none) unresolved
  | unresolvedRecorded (text : Str) : Moves unresolved (.stat (.recordError text)) relaying
  | send (target : SocketAddr) (payload : Bytes) :
      Moves (resolved target) (.udpSend target payload true) (sent payload.length)
  | payloadCounted (n : Nat) : Moves (sent n) (.stat (.addUdpBytesOut n)) relaying
  | sendFailed (target : SocketAddr) (payload : Bytes) :
      Moves (resolved target) (.udpSend target payload false) unsent
  | unsentCounted : Moves unsent (.stat .incRelayFailures) missed
  | unsentRecorded (text : Str) : Moves missed (.stat (.recordError text)) relaying
  | replyCounted {p : Phase} (hp : p.waits = true) (n : Nat) : Moves p (.stat (.addUdpBytesIn n)) replying
  | reply (client : SocketAddr) (packet : Bytes) : Moves replying (.udpSend client packet true) relaying
  | replyFailed (client : SocketAddr) (packet : Bytes) :
      Moves replying (.udpSend client packet false) broken
  | fallDeaf {p : Phase} (hp : p.waits = true) : Moves p .udpRecvFailed broken

end Phase

open Phase (Moves)

/-- What a connection may do, in which order. -/
def session : LTS Phase Ev where
  init p := p = .fresh
  step := Moves

/-! ## Steps of programs -/

/-- All the program does is a run of `session` from here, and if it fails, nothing is left
to be accounted for. -/
abbrev Plays {α : Type} (p : Phase) (m : M α) (ok : α → Phase → Prop) : Prop :=
  Obeys session World.trace p m ok fun _ q => q.quiescent = true

/-- It may only fail with a text, and in one phase. -/
def Fails (fail : Phase) (e : Stop) (q : Phase) : Prop := (∃ message, e = .failed message) ∧ q = fail

section
variable {α β : Type} {p q : Phase} {ok : α → Phase → Prop} {stop : Stop → Phase → Prop}

theorem obeys_emit {ε : Type} {e : Ev} {ok : Unit → Phase → Prop} {stop : ε → Phase → Prop}
    (h : Moves p e q) (hq : ok () q) :
    Obeys session World.trace p (emit e : EStateM ε World Unit) ok stop :=
  fun _ => ⟨[e], q, rfl, .cons h (.nil q), hq⟩

theorem obeys_ask {ε : Type} {f : Env → Trace → α} {k : α → EStateM ε World β}
    {ok : β → Phase → Prop} {stop : ε → Phase → Prop}
    (h : ∀ a, Obeys session World.trace p (k a) ok stop) :
    Obeys session World.trace p (ask f >>= k) ok stop := fun w => h (f w.env w.trace) w

theorem plays_bail (hp : p.quiescent = true) (message : Str) : Plays p (bail message) ok :=
  Obeys.throw hp

theorem plays_liftResult (hp : p.quiescent = true) (r : Except Str α) :
    Plays p (liftResult r) fun _ q => q = p := by
  cases r with
  | ok a => exact Obeys.pure rfl
  | error message => exact plays_bail hp message

theorem plays_liftAbort (hp : p.quiescent = true) (r : Except (Abort Str) α) :
    Plays p (liftAbort r) fun _ q => q = p := by
  match r with
  | .ok a => exact Obeys.pure rfl
  | .error (.fail message) => exact plays_bail hp message
  | .error .panic => exact Obeys.throw hp

theorem plays_adapt {ε : Type} {m : EStateM ε World α} (f : ε → Stop)
    (h : Obeys session World.trace p m ok fun _ q => q.quiescent = true) :
    Plays p (EStateM.adaptExcept f m) ok := Obeys.adapt h fun _ _ h => h

theorem plays_context {m : M α} (h : Plays p m ok) (message : Str) : Plays p (context message m) ok :=
  plays_adapt _ h

/-- A write is one event, on success and on failure. -/
theorem plays_writeAllBy {fault : Env → Trace → Bytes → Option (Nat × Fault)} {ev : Bytes → Ev}
    (h : ∀ b, Moves p (ev b) q) (hq : q.quiescent = true) (b : Bytes) (action : Str) :
    Plays p (withTimeout action (writeAllBy fault ev b)) fun _ r => r = q := by
  refine plays_adapt _ (obeys_ask fun o => ?_)
  cases o with
  | none => exact obeys_emit (h b) rfl
  | some f => exact Obeys.after (obeys_emit (h _) rfl) fun _ => Obeys.throw hq

theorem obeys_reportFailure {op : StatOp} {mid : Phase} {ok : Unit → Phase → Prop}
    (hop : Moves p (.stat op) mid) (hrec : ∀ text, Moves mid (.stat (.recordError text)) q)
    (hq : ok () q) (message : Str) :
    Obeys session World.trace p (reportFailure op message) ok stop :=
  Obeys.after (obeys_emit hop rfl) fun _ => obeys_emit (hrec message) hq

theorem obeys_inspectErr {m : M α} {look : Str → M Unit} {fail : Stop → Phase → Prop}
    (hm : Obeys session World.trace p m ok fail)
    (hlook : ∀ message q, fail (.failed message) q →
      Obeys session World.trace q (look message) (fun _ r => stop (.failed message) r) stop)
    (hother : ∀ e q, (∀ message, e ≠ .failed message) → fail e q → stop e q) :
    Obeys session World.trace p (inspectErr m look) ok stop := by
  refine Obeys.catch hm fun e q h => ?_
  cases e with
  | failed message => exact Obeys.bind (hlook message q h) fun _ r hr => Obeys.throw hr
  | panicked => exact Obeys.throw (hother _ q nofun h)
  | waiting => exact Obeys.throw (hother _ q nofun h)

/-- A failure is counted, recorded, and passed on. -/
theorem plays_reported {fail mid : Phase} {m : M α} (hm : Obeys session World.trace p m ok (Fails fail))
    {op : StatOp} (hop : Moves fail (.stat op) mid)
    (hrec : ∀ text, Moves mid (.stat (.recordError text)) q) (hq : q.quiescent = true)
    (message text : Str) : Plays p (reported message op text m) ok := by
  refine plays_context (obeys_inspectErr hm ?_ ?_) message
  · intro err q h
    obtain ⟨-, rfl⟩ := h
    exact obeys_reportFailure hop hrec hq _
  · intro e q hne h
    obtain ⟨⟨message, rfl⟩, -⟩ := h
    exact absurd rfl (hne message)

theorem plays_failing (hp : p.quiescent = true) (f : Env → Trace → Option Str) :
    Plays p (failing f) fun _ q => q = p := by
  refine obeys_ask fun o => ?_
  cases o with
  | none => exact Obeys.pure rfl
  | some message => exact plays_bail hp message

end

/-! ## The front ends -/

/-! ### What only reads -/

section
variable {p : Ev → Bool} (hread : ∀ b, p (.read b) = true)
include hread

theorem emits_readWithTimeout (cap : Nat) (action : Str) : Keeps (Emits p) (readWithTimeout cap action) :=
  Keeps.withTimeout (keeps_read_emits hread cap) action

theorem emits_readExactGo : ∀ fuel need, Keeps (Emits p) (readExactGo fuel need) := by
  intro fuel
  induction fuel with
  | zero =>
    intro need
    cases need with
    | zero => exact Keeps.pure (emits_frame p) _
    | succ need => exact Keeps.throw (emits_frame p) _
  | succ fuel ih =>
    intro need
    cases need with
    | zero => exact Keeps.pure (emits_frame p) _
    | succ need =>
      refine Keeps.bind (emits_frame p) (keeps_read_emits hread _) fun b => ?_
      refine Keeps.ite (Keeps.throw (emits_frame p) _) ?_
      exact Keeps.bind (emits_frame p) (ih _) fun _ => Keeps.pure (emits_frame p) _

theorem emits_readExactWithTimeout (n : Nat) (action : Str) :
    Keeps (Emits p) (readExactWithTimeout n action) :=
  Keeps.withTimeout (Keeps.bind (emits_frame p) (emits_readExactGo hread n n) fun _ =>
    Keeps.pure (emits_frame p) _) action

theorem emits_readString : Keeps (Emits p) readString :=
  Keeps.bind (emits_frame p) (emits_readExactWithTimeout hread _ _) fun _ =>
    Keeps.bind (emits_frame p) (emits_readExactWithTimeout hread _ _) fun _ => Keeps.pure (emits_frame p) _

theorem emits_readPort : Keeps (Emits p) readPort :=
  Keeps.bind (emits_frame p) (emits_readExactWithTimeout hread _ _) fun _ => Keeps.pure (emits_frame p) _

theorem emits_readAddress (atyp : UInt8) : Keeps (Emits p) (readAddress atyp) := by
  have hR := emits_frame p
  refine Keeps.ite ?_ (Keeps.ite ?_ (Keeps.ite ?_ (keeps_bail hR _)))
  · refine Keeps.bind hR (emits_readExactWithTimeout hread _ _) fun _ => ?_
    exact Keeps.bind hR (emits_readPort hread) fun _ => Keeps.pure hR _
  · refine Keeps.bind hR (emits_readExactWithTimeout hread _ _) fun _ => ?_
    refine Keeps.ite (keeps_bail hR _) ?_
    refine Keeps.bind hR (emits_readExactWithTimeout hread _ _) fun _ => ?_
    refine Keeps.bind hR (emits_readPort hread) fun _ => ?_
    split
    · exact Keeps.pure hR _
    · exact keeps_bail hR _
  · refine Keeps.bind hR (emits_readExactWithTimeout hread _ _) fun _ => ?_
    exact Keeps.bind hR (emits_readPort hread) fun _ => Keeps.pure hR _

theorem emits_readRequest : Keeps (Emits p) readRequest := by
  have hR := emits_frame p
  refine Keeps.bind hR (emits_readExactWithTimeout hread _ _) fun _ => ?_
  refine Keeps.ite (keeps_bail hR _) (Keeps.ite (keeps_bail hR _) ?_)
  refine Keeps.bind hR (emits_readAddress hread _) fun _ => ?_
  exact Keeps.ite (Keeps.pure hR _) (Keeps.ite (Keeps.pure hR _) (keeps_bail hR _))

theorem emits_readHttpRequestGo (L : Libs) : ∀ fuel buf, Keeps (Emits p) (readHttpRequestGo L fuel buf) := by
  have hR := emits_frame p
  intro fuel
  induction fuel with
  | zero => exact fun buf => keeps_bail hR _
  | succ fuel ih =>
    intro buf
    refine Keeps.bind hR (emits_readWithTimeout hread _ _) fun chunk => ?_
    refine Keeps.ite (keeps_bail hR _) (Keeps.ite (keeps_bail hR _) ?_)
    cases L.httparse (buf ++ chunk) with
    | complete n parsed => exact keeps_liftAbort hR _
    | more => exact ih _
    | tooManyHeaders => exact keeps_bail hR _
    | bad => exact keeps_bail hR _

end

/-! ### What reads and writes -/

/-- Something was read from the client, or written to it. -/
def Ev.isTalk : Ev → Bool
  | .read _ | .write _ => true
  | _ => false

/-- Between the two states the connection read and wrote, and nothing else. -/
abbrev Talks : World → World → Prop := Emits Ev.isTalk

theorem talks_frame : Frame Talks := emits_frame _

theorem obeys_talk {α : Type} {m : M α} (h : Keeps Talks m) (protocol : ProxyProtocol) :
    Obeys session World.trace (.talking protocol) m (fun _ q => q = .talking protocol)
      fun _ q => q = .talking protocol := by
  have htalk : ∀ e, Ev.isTalk e = true → session.step (.talking protocol) e (.talking protocol) := by
    intro e he
    cases e with
    | read b => exact .heard protocol b
    | write b => exact .answered protocol b
    | _ => cases he
  exact Obeys.stays htalk fun w => (h w).2

theorem plays_talk {α : Type} {m : M α} (h : Keeps Talks m) (protocol : ProxyProtocol) :
    Plays (.talking protocol) m fun _ q => q = .talking protocol := by
  refine (obeys_talk h protocol).mono (fun _ _ => id) ?_
  intro _ _ he
  subst he
  rfl

theorem talks_writeAllWithTimeout (b : Bytes) (action : Str) :
    Keeps Talks (writeAllWithTimeout b action) :=
  Keeps.withTimeout (keeps_writeAllBy (fun w b => emits_emit (e := .write b) rfl w) _ b) action

theorem talks_handshake (method : AuthMethod) : Keeps Talks (handshake method) := by
  refine Keeps.bind talks_frame (emits_readExactWithTimeout (fun _ => rfl) _ _) fun _ => ?_
  refine Keeps.ite (keeps_bail talks_frame _) ?_
  refine Keeps.bind talks_frame (emits_readExactWithTimeout (fun _ => rfl) _ _) fun _ => ?_
  refine Keeps.ite ?_ (talks_writeAllWithTimeout _ _)
  exact Keeps.bind talks_frame (talks_writeAllWithTimeout _ _) fun _ => keeps_bail talks_frame _

section
variable (L : Libs)

theorem talks_replyToLogin (auth : AuthConfig) (u p : Str) : Keeps Talks (replyToLogin L auth u p) := by
  unfold replyToLogin
  split
  · refine Keeps.ite (talks_writeAllWithTimeout _ _) ?_
    exact Keeps.bind talks_frame (talks_writeAllWithTimeout _ _) fun _ => keeps_bail talks_frame _
  · exact keeps_bail talks_frame _

theorem talks_basicAuthenticate (auth : AuthConfig) : Keeps Talks (basicAuthenticate L auth) := by
  refine Keeps.bind talks_frame (emits_readExactWithTimeout (fun _ => rfl) _ _) fun _ => ?_
  refine Keeps.ite (keeps_bail talks_frame _) ?_
  refine Keeps.bind talks_frame (emits_readString fun _ => rfl) fun _ => ?_
  exact Keeps.bind talks_frame (emits_readString fun _ => rfl) fun _ => talks_replyToLogin L auth _ _

/-! ## SOCKS5 -/

/-- The end of a session. -/
def Ended (_ : Unit) (q : Phase) : Prop := q.quiescent = true

theorem plays_negotiate (bypassAuth : Bool) (peer : SocketAddr) :
    Plays (.talking .socks5) (negotiate bypassAuth peer) fun _ q => q = .talking .socks5 := by
  refine obeys_inspectErr (obeys_talk (talks_handshake _) .socks5) ?_ ?_
  · intro err q he
    subst he
    exact Obeys.ite (Obeys.pure rfl) (obeys_reportFailure (.refuse .socks5) .refusalRecorded rfl _)
  · intro e q _ he
    subst he
    rfl

theorem plays_login (bypassAuth : Bool) (auth : AuthConfig) (peer : SocketAddr) :
    Plays (.talking .socks5) (login L bypassAuth auth peer) fun _ q => q = .talking .socks5 := by
  refine Obeys.ite (Obeys.pure rfl) ?_
  refine obeys_inspectErr (obeys_talk (talks_basicAuthenticate L auth) .socks5) ?_ ?_
  · intro err q he
    subst he
    exact obeys_reportFailure (.refuse .socks5) .refusalRecorded rfl _
  · intro e q _ he
    subst he
    rfl

theorem plays_socksCommand (bypassAuth : Bool) (auth : AuthConfig) (peer : SocketAddr) :
    Plays (.talking .socks5) (socksCommand L bypassAuth auth peer) fun _ q => q = .talking .socks5 := by
  refine Obeys.after (plays_negotiate bypassAuth peer) fun _ => ?_
  refine Obeys.after (plays_login L bypassAuth auth peer) fun _ => ?_
  exact Obeys.after (plays_talk (emits_readRequest fun _ => rfl) .socks5) fun _ => Obeys.pure rfl

end

/-! ## Tunnels -/

theorem plays_connect (protocol : ProxyProtocol) (message text target : Str) :
    Plays (.talking protocol) (reported message .incConnectFailures text (tcpConnect target))
      fun _ q => q = .reached protocol := by
  refine plays_reported (obeys_ask fun o => ?_) .missCounted .recorded rfl _ _
  cases o with
  | none => exact obeys_emit (.reach protocol target) rfl
  | some err => exact Obeys.after (obeys_emit (.miss protocol target) rfl) fun _ => Obeys.throw ⟨⟨err, rfl⟩, rfl⟩

theorem copyBidirectional_cases (w : World) :
    (∃ up down w', copyBidirectional w = .ok (up.length, down.length) w' ∧
      w'.trace = w.trace ++ [.copied up down true]) ∨
    ∃ up down err w', copyBidirectional w = .error (.failed err) w' ∧
      w'.trace = w.trace ++ [.copied up down false] := by
  unfold copyBidirectional
  simp only
  split
  · rename_i h
    exact .inl ⟨_, _, _, rfl, by rw [h]; rfl⟩
  · rename_i err h
    exact .inr ⟨_, _, err, _, rfl, by rw [h]; rfl⟩

/-- The copy loop, and what is counted behind it. -/
theorem plays_copy (protocol : ProxyProtocol) (message text : Str) :
    Plays (.opened protocol) (reported message .incRelayFailures text copyBidirectional >>= fun r =>
      stat (.addTcpBytes r.1 r.2)) Ended := by
  have hcopy : Plays (.opened protocol) (reported message .incRelayFailures text copyBidirectional)
      fun r q => q = .moved r.1 r.2 := by
    refine plays_reported (fun w => ?_) .breakCounted .recorded rfl _ _
    rcases copyBidirectional_cases w with ⟨up, down, w', h, ht⟩ | ⟨up, down, err, w', h, ht⟩
    · rw [h]
      exact ⟨_, _, ht, .cons (.copied protocol up down) (.nil _), rfl⟩
    · rw [h]
      exact ⟨_, _, ht, .cons (.cutShort protocol up down) (.nil _), ⟨err, rfl⟩, rfl⟩
  refine Obeys.bind hcopy ?_
  intro hx q he
  obtain ⟨up, down⟩ := hx
  subst he
  exact obeys_emit (.copyCounted up down) rfl

theorem plays_sendReply {p q : Phase} (h : ∀ b, Moves p (.write b) q) (hq : q.quiescent = true)
    (rep : UInt8) (addr : SocketAddr) :
    Plays p (sendReply rep (.fromSocketAddr addr)) fun _ r => r = q := by
  rw [sendReply_eq rep (fromSocketAddr_encodable addr)]
  exact plays_writeAllBy h hq _ _

theorem plays_handleConnect (addr : Address) (peer : SocketAddr) :
    Plays (.talking .socks5) (Handler.handleConnect addr peer) Ended := by
  refine Obeys.after (plays_connect .socks5 _ _ _) fun _ => ?_
  refine Obeys.after (plays_context (plays_failing rfl _) _) fun _ => ?_
  refine obeys_ask fun localAddr => Obeys.after (plays_liftResult rfl _) fun localAddr => ?_
  refine Obeys.after (plays_sendReply (.tell .socks5) rfl _ _) fun _ => ?_
  exact plays_copy .socks5 _ _

/-! ## UDP associations -/

theorem quiescent_of_waits {q : Phase} (h : q.waits = true) : q.quiescent = true := by
  cases q <;> first | rfl | cases h

theorem plays_sendToTarget (payload : Bytes) (target peer : SocketAddr) :
    Plays (.resolved target) (Handler.sendToTarget payload target peer) fun _ q => q = .relaying := by
  have hsend : Obeys session World.trace (.resolved target) (Handler.udpSendTo payload target)
      (fun _ q => q = .sent payload.length) (Fails .unsent) := by
    refine obeys_ask fun o => ?_
    cases o with
    | none => exact obeys_emit (.send target payload) rfl
    | some err =>
      exact Obeys.after (obeys_emit (.sendFailed target payload) rfl) fun _ => Obeys.throw ⟨⟨err, rfl⟩, rfl⟩
  have hrequest : Obeys session World.trace (.resolved target) (Handler.sendRequest payload target)
      (fun _ q => q = .relaying) (Fails .unsent) := by
    refine Obeys.after (Obeys.adapt hsend ?_) fun _ => obeys_emit (.payloadCounted _) rfl
    intro _ q h
    obtain ⟨⟨err, rfl⟩, rfl⟩ := h
    exact ⟨⟨_, rfl⟩, rfl⟩
  refine Obeys.catch hrequest ?_
  intro _ q h
  obtain ⟨⟨err, rfl⟩, rfl⟩ := h
  exact obeys_reportFailure .unsentCounted .unsentRecorded rfl _

theorem obeys_getRelay {β : Type} {p : Phase} {k : Relay → M β} {ok : β → Phase → Prop}
    (h : ∀ r, Plays p (k r) ok) : Plays p (Handler.getRelay >>= k) ok := fun w => h w.relay w

theorem obeys_setRelay {β : Type} {p : Phase} {r : Relay} {k : Unit → M β} {ok : β → Phase → Prop}
    (h : Plays p (k ()) ok) : Plays p (Handler.setRelay r >>= k) ok := fun w => h { w with relay := r }

theorem plays_relayDatagram {p : Phase} (hp : p.waits = true) (datagram : UdpDatagram)
    (peer : SocketAddr) : Plays p (Handler.relayDatagram datagram peer) fun _ q => q.waits = true := by
  refine obeys_ask fun r => ?_
  cases r with
  | error err =>
    exact Obeys.after (obeys_emit (.unresolve hp _) rfl) fun _ => obeys_emit (.unresolvedRecorded _) rfl
  | ok target =>
    refine Obeys.after (obeys_emit (.resolve hp _ target) rfl) fun _ => ?_
    refine obeys_getRelay fun r => Obeys.ite (Obeys.pure rfl) (obeys_setRelay ?_)
    exact (plays_sendToTarget datagram.payload target peer).mono (fun _ _ h => h ▸ rfl) fun _ _ => id

theorem plays_lockClient (p : Phase) (source : SocketAddr) :
    Plays p (Handler.lockClient source) fun _ q => q = p :=
  obeys_getRelay fun _ => Obeys.ite (fun _ => ⟨[], p, (List.append_nil _).symm, .nil p, rfl⟩) (Obeys.pure rfl)

theorem plays_handleClientUdpPacket {p : Phase} (hp : p.waits = true) (packet : Bytes)
    (source peer : SocketAddr) :
    Plays p (Handler.handleClientUdpPacket packet source peer) fun _ q => q.waits = true := by
  unfold Handler.handleClientUdpPacket
  split
  · exact Obeys.after (plays_lockClient p source) fun _ => plays_relayDatagram hp _ peer
  · exact Obeys.pure hp
  · exact Obeys.pure hp
  · exact Obeys.throw (quiescent_of_waits hp)

theorem plays_replyToClient {p : Phase} (hp : p.waits = true) (client source peer : SocketAddr)
    (packet : Bytes) :
    Plays p (Handler.replyToClient client source peer packet) fun _ q => q.waits = true := by
  refine Obeys.after (obeys_emit (.replyCounted hp _) rfl) fun _ => ?_
  rw [encodeUdpDatagram_eq _ _ (fromSocketAddr_encodable source)]
  refine Obeys.after (q := .replying) (Obeys.pure rfl) fun wrapped => ?_
  refine plays_reported (obeys_ask fun o => ?_) .breakCounted .recorded rfl _ _
  cases o with
  | none => exact obeys_emit (.reply client wrapped) rfl
  | some err =>
    exact Obeys.after (obeys_emit (.replyFailed client wrapped) rfl) fun _ => Obeys.throw ⟨⟨err, rfl⟩, rfl⟩

theorem plays_relayReceived {p : Phase} (hp : p.waits = true) (peer source : SocketAddr) (packet : Bytes) :
    Plays p (Handler.relayReceived peer source packet) fun _ q => q.waits = true := by
  have hr : Phase.relaying.waits = true := rfl
  refine Obeys.after (obeys_emit (.received hp source packet) rfl) fun _ => ?_
  refine obeys_getRelay fun r => ?_
  refine Obeys.ite (plays_handleClientUdpPacket hr packet source peer) ?_
  refine Obeys.ite (plays_handleClientUdpPacket hr packet source peer) ?_
  cases r.clientUdpAddr with
  | none => exact Obeys.pure hr
  | some client => exact Obeys.ite (plays_replyToClient hr client source peer packet) (Obeys.pure hr)

theorem plays_controlRead {p : Phase} (hp : p.waits = true) (message : Str) :
    Plays p (context message (withoutTimeout (read 1))) fun _ q => q.waits = true := by
  have hreads : ∀ (evs : Trace) {p : Phase}, p.waits = true → (∀ e ∈ evs, Ev.isRead e = true) →
      ∃ q, session.Run p evs q ∧ q.waits = true := by
    intro evs
    induction evs with
    | nil => exact fun {p} hp _ => ⟨p, .nil p, hp⟩
    | cons e evs ih =>
      intro p hp hevs
      obtain ⟨he, hevs⟩ := List.forall_mem_cons.1 hevs
      obtain ⟨q, hrun, hq⟩ := ih (p := .relaying) rfl hevs
      cases e with
      | read b => exact ⟨q, .cons (.control hp b) hrun, hq⟩
      | _ => cases he
  intro w
  obtain ⟨-, evs, ht, hevs⟩ := Keeps.context (Keeps.withTimeout
    (keeps_read_emits (p := Ev.isRead) (fun _ => rfl) 1) []) message w
  obtain ⟨q, hrun, hq⟩ := hreads evs hp hevs
  refine ⟨evs, q, ht, hrun, ?_⟩
  split
  · exact hq
  · exact quiescent_of_waits hq

/-- The loop, by induction on what wakes it. -/
theorem plays_relayUdpLoop (peer : SocketAddr) : ∀ (inputs : List UdpInput) {p : Phase}, p.waits = true →
    Plays p (Handler.relayUdpLoop peer inputs) Ended := by
  intro inputs
  induction inputs with
  | nil => exact fun hp => Obeys.throw (quiescent_of_waits hp)
  | cons input inputs ih =>
    intro p hp
    cases input with
    | control =>
      refine Obeys.bind (plays_controlRead hp _) fun b q hq => ?_
      exact Obeys.ite (Obeys.pure (quiescent_of_waits hq)) (plays_bail (quiescent_of_waits hq) _)
    | recvError message =>
      exact plays_reported (Obeys.after (obeys_emit (.fallDeaf hp) rfl) fun _ =>
        Obeys.throw ⟨⟨message, rfl⟩, rfl⟩) .breakCounted .recorded rfl _ _
    | datagram source packet =>
      exact Obeys.bind (plays_relayReceived hp peer source _) fun _ _ hq => ih hq

theorem plays_handleUdpAssociate (peer : SocketAddr) (relayBindIp : IpAddr) :
    Plays (.talking .socks5) (Handler.handleUdpAssociate peer relayBindIp) Ended := by
  refine Obeys.after (obeys_emit .associate rfl) fun _ => ?_
  refine Obeys.after (q := .bound) (plays_context (obeys_ask fun o => ?_) _) fun _ => ?_
  · cases o with
    | none => exact obeys_emit (.bind relayBindIp) rfl
    | some err => exact Obeys.after (obeys_emit (.unbound relayBindIp) rfl) fun _ => plays_bail rfl err
  refine obeys_ask fun localAddr => Obeys.after (plays_liftResult rfl _) fun localAddr => ?_
  refine Obeys.after (plays_sendReply .relayTold rfl _ _) fun _ => ?_
  exact obeys_setRelay (obeys_ask fun inputs => plays_relayUdpLoop peer inputs rfl)

theorem plays_runCommand (cmd : Command) (peer : SocketAddr) :
    Plays (.talking .socks5) (runCommand cmd peer) Ended := by
  cases cmd with
  | connect addr => exact plays_handleConnect addr peer
  | udpAssociate addr =>
    refine obeys_ask fun localAddr => Obeys.after (plays_liftResult rfl _) fun localAddr => ?_
    exact plays_handleUdpAssociate peer localAddr.ip

/-! ## HTTP -/

section
variable (L : Libs)

theorem plays_write (b : Bytes) (action : Str) {p q : Phase} (h : ∀ b, Moves p (.write b) q)
    (hq : q.quiescent = true) : Plays p (writeAllWithTimeout b action) Ended :=
  (plays_writeAllBy h hq b action).mono (fun _ _ he => he ▸ hq) fun _ _ => id

theorem plays_refusal (text : Str) (b : Bytes) (action : Str) :
    Plays (.talking .http) (do reportFailure .incAuthFailures text; writeAllWithTimeout b action) Ended :=
  Obeys.after (obeys_reportFailure (.refuse .http) .refusalRecorded rfl text) fun _ =>
    plays_write b action .challenge rfl

theorem plays_serveStatsPage : Plays (.talking .http) Http.serveStatsPage Ended := by
  refine obeys_ask fun body => Obeys.after (obeys_emit .render rfl) fun _ => ?_
  exact plays_write _ _ .page rfl

theorem plays_upWrite {p : Phase} (h : ∀ b, Moves p (.upWrite b) (.opened .http)) (b : Bytes)
    (action : Str) : Plays p (upWriteAllWithTimeout b action) fun _ q => q = .opened .http :=
  plays_writeAllBy h rfl b action

theorem plays_httpConnect (req : HttpRequest) (peer : SocketAddr) :
    Plays (.talking .http) (Http.handleConnect L req peer) Ended := by
  refine Obeys.after (plays_liftResult rfl _) fun r => ?_
  refine Obeys.after (plays_connect .http _ _ _) fun _ => ?_
  refine Obeys.after (plays_writeAllBy (.tell .http) rfl _ _) fun _ => ?_
  refine Obeys.after (q := .opened .http) (Obeys.ite ?_ (Obeys.pure rfl)) fun _ => plays_copy .http _ _
  exact Obeys.after (plays_upWrite .sendMore _ _) fun _ => obeys_emit (.sentCounted _) rfl

theorem plays_forwardTo (req : HttpRequest) (peer : SocketAddr) (via host : Str) (port : UInt16)
    (path : Str) : Plays (.talking .http) (Http.forwardTo req peer via host port path) Ended := by
  refine Obeys.after (plays_connect .http _ _ _) fun _ => ?_
  refine Obeys.after (plays_upWrite .sendOn _ _) fun _ => ?_
  refine Obeys.after (q := .opened .http) (Obeys.ite (plays_upWrite .sendMore _ _) (Obeys.pure rfl))
    fun _ => ?_
  refine Obeys.after (q := .opened .http) (plays_adapt _ (obeys_ask fun o => ?_)) fun _ => ?_
  · cases o with
    | none => exact Obeys.pure rfl
    | some f => exact Obeys.throw rfl
  · exact Obeys.after (obeys_emit (.sentCounted _) rfl) fun _ => plays_copy .http _ _

theorem plays_allowed (bypassAuth : Bool) (check : Except (Abort Str) Bool) :
    Plays (.talking .http) (Http.allowed bypassAuth check) fun _ q => q = .talking .http :=
  Obeys.ite (Obeys.pure rfl) (plays_liftAbort rfl _)

theorem plays_serveRequest (bypassAuth : Bool) (auth : AuthConfig) (statsEnabled : Bool)
    (listener : HttpListener) (peer : SocketAddr) (req : HttpRequest) :
    Plays (.talking .http) (Http.serveRequest L bypassAuth auth statsEnabled listener peer req) Ended := by
  refine Obeys.ite (plays_write _ _ (.answered .http) rfl) (Obeys.ite ?_ ?_)
  · refine Obeys.after (plays_allowed bypassAuth _) fun authorized => ?_
    exact Obeys.ite plays_serveStatsPage (plays_refusal _ _ _)
  · refine Obeys.after (plays_allowed bypassAuth _) fun authorized => ?_
    refine Obeys.ite (Obeys.ite (plays_httpConnect L req peer) ?_) (plays_refusal _ _ _)
    exact Obeys.after (plays_liftResult rfl _) fun r => plays_forwardTo req peer _ _ _ _

theorem plays_handleHttpProxy (bypassAuth : Bool) (auth : AuthConfig) (statsEnabled : Bool)
    (listener : HttpListener) (peer : SocketAddr) :
    Plays (.talking .http) (Http.handleHttpProxy L bypassAuth auth statsEnabled listener peer) Ended :=
  Obeys.after (plays_talk (emits_readHttpRequestGo (fun _ => rfl) L _ _) .http) fun req =>
    plays_serveRequest L bypassAuth auth statsEnabled listener peer req

/-! ## Connections -/

/-- What the dispatch says is what the session goes on with. -/
def Dispatched : Option ProxyProtocol → Phase → Prop
  | none, q => q = .fresh
  | some protocol, q => q = .talking protocol

theorem plays_classify : Plays .fresh classify Dispatched := by
  refine Obeys.after (plays_failing rfl _) fun _ => ?_
  refine Obeys.after (q := .fresh) ?_ fun first => ?_
  · refine (Obeys.stays (k := Ev.isRead) ?_ fun w => ?_).mono (fun _ _ => id) ?_
    · intro e he
      cases e with
      | read b => exact .firstByte b
      | _ => cases he
    · exact (Keeps.withTimeout (keeps_read_emits (fun _ => rfl) 1) _ w).2
    · intro _ _ heq
      subst heq
      rfl
  · cases first with
    | nil => exact Obeys.pure rfl
    | cons byte rest =>
      refine Obeys.ite ?_ ?_
      · exact Obeys.after (obeys_emit .socks5 rfl) fun _ _ =>
          ⟨[], .talking .socks5, (List.append_nil _).symm, .nil _, rfl⟩
      · exact Obeys.after (obeys_emit .http rfl) fun _ _ =>
          ⟨[], .talking .http, (List.append_nil _).symm, .nil _, rfl⟩

/-- **Every connection is a session**: whatever its client sends and its environment
does, and wherever it stops, what it did is a run of `session`, and nothing that
happened is left without being counted and recorded. -/
theorem serveConnection_obeys (auth : AuthConfig) (statsEnabled : Bool) (listener : HttpListener)
    (peer : SocketAddr) : Plays .fresh (serveConnection L auth statsEnabled listener peer) Ended := by
  refine Obeys.bind plays_classify fun protocol q hq => ?_
  match protocol, hq with
  | none, rfl => exact Obeys.pure rfl
  | some .socks5, rfl =>
    exact Obeys.after (plays_socksCommand L _ auth peer) fun cmd => plays_runCommand cmd peer
  | some .http, rfl => exact plays_handleHttpProxy L _ auth statsEnabled listener peer

end

end TinySocks.L4
