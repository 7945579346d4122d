import TinySocks.L3Protocol.Socks
import TinySocks.L4App.Tunnel

/-!
# The SOCKS5 commands (`handler.rs`)

CONNECT opens the upstream connection, replies and copies; UDP ASSOCIATE binds
a socket, replies and relays datagrams until the control connection or the
socket ends it. `TinySocks.L4.UdpAssociation` says what the relay does.
-/
namespace TinySocks.L4.Handler

open TinySocks.Core TinySocks.L1 TinySocks.L2 TinySocks.L3

def UDP_BUFFER_SIZE : Nat := 65535
def MAX_UDP_REMOTE_ENDPOINTS : Nat := 1024

/-! ## CONNECT -/

/-- mirrors src/handler.rs:23-60 -/
def handleConnect (addr : Address) (peer : SocketAddr) : M Unit := do
  let target := addr.toTargetString
  reported "SocksError::ConnectionFailed" .incConnectFailures
    ("SOCKS connect " ++ target ++ " failed from " ++ peer.toStr ++ ": ") <| tcpConnect target
  context "Failed to disable Nagle on outbound stream" <| failing Env.outboundSetNodelay
  let localAddr ← liftResult (← ask Env.outboundLocalAddr)
  let bound := Address.fromSocketAddr localAddr
  sendReply 0x00 bound
  let (up, down) ← reported "Failed to proxy traffic" .incRelayFailures
    ("SOCKS TCP relay " ++ target ++ " failed from " ++ peer.toStr ++ ": ") copyBidirectional
  stat (.addTcpBytes up down)

/-! ## UDP ASSOCIATE -/

def getRelay : M Relay := fun w => .ok w.relay w

def setRelay (r : Relay) : M Unit := fun w => .ok () { w with relay := r }

/-- mirrors src/protocol.rs:105-115 -/
def resolveSocketAddr (env : Env) (t : Trace) : Address → Except Str SocketAddr
  | .v4 ip port => .ok (.new (.v4 ip) port)
  | .v6 ip port => .ok (.new (.v6 ip) port)
  | .domain domain port => do
    match ← env.lookupHost t domain port with
    | addr :: _ => .ok addr
    | [] => .error "SocksError::NameResolutionFailed"

/-- `UdpSocket::send_to` -/
def udpSendTo (packet : Bytes) (target : SocketAddr) : M Unit := do
  match ← ask fun env t => env.udpSend t target packet with
  | none => emit (.udpSend target packet true)
  | some message => do
    emit (.udpSend target packet false)
    bail message

/-- mirrors src/handler.rs:184-189 -/
def lockClient (source : SocketAddr) : M Unit := do
  let r ← getRelay
  if r.clientUdpAddr = none then setRelay { r with clientUdpAddr := some source } else pure ()

/-- mirrors src/handler.rs:206-209,216 -/
def sendRequest (payload : Bytes) (target : SocketAddr) : M Unit := do
  context "SOCKS UDP relay request send failed" <| udpSendTo payload target
  stat (.addUdpBytesOut payload.length)

/-- mirrors src/handler.rs:210-215 -/
def reportSendFailure (tcpPeer : SocketAddr) : Stop → M Unit
  | .failed err =>
    reportFailure .incRelayFailures
      ("SOCKS UDP relay request send failed from " ++ tcpPeer.toStr ++ ": " ++ err)
  | e => throw e

/-- mirrors src/handler.rs:206-217 -/
def sendToTarget (payload : Bytes) (target tcpPeer : SocketAddr) : M Unit :=
  tryCatch (sendRequest payload target) (reportSendFailure tcpPeer)

/-- mirrors src/handler.rs:201-217 -/
def relayToTarget (payload : Bytes) (target tcpPeer : SocketAddr) : M Unit := do
  let r ← getRelay
  if target ∉ r.relayedTargets ∧ MAX_UDP_REMOTE_ENDPOINTS ≤ r.relayedTargets.length then pure ()
  else do
    setRelay { r with relayedTargets := r.relayedTargets.insert target }
    sendToTarget payload target tcpPeer

/-- mirrors src/handler.rs:191-217 -/
def relayDatagram (datagram : UdpDatagram) (tcpPeer : SocketAddr) : M Unit := do
  match ← ask fun env t => resolveSocketAddr env t datagram.destination with
  | .error err => do
    emit (.resolved datagram.destination none)
    stat (.recordError
      ("SOCKS UDP target resolution failed from " ++ tcpPeer.toStr ++ ": " ++ err))
  | .ok target => do
    emit (.resolved datagram.destination (some target))
    relayToTarget datagram.payload target tcpPeer

/-- mirrors src/handler.rs:167-218 -/
def handleClientUdpPacket (packet : Bytes) (source tcpPeer : SocketAddr) : M Unit :=
  match parseUdpDatagram packet with
  | .ok (some datagram) => do
    lockClient source
    relayDatagram datagram tcpPeer
  | .ok none => pure ()
  | .error (.fail _) => pure ()
  | .error .panic => throw .panicked

/-- mirrors src/handler.rs:149-160 -/
def replyToClient (client source tcpPeer : SocketAddr) (packet : Bytes) : M Unit := do
  stat (.addUdpBytesIn packet.length)
  let wrapped ← liftResult (encodeUdpDatagram (.fromSocketAddr source) packet)
  reported "SOCKS UDP relay response send failed" .incRelayFailures
    ("SOCKS UDP relay response send failed from " ++ tcpPeer.toStr ++ ": ") <| udpSendTo wrapped client

/-- One datagram.
mirrors src/handler.rs:118-161 -/
def relayReceived (tcpPeer source : SocketAddr) (packet : Bytes) : M Unit := do
  emit (.udpRecv source packet)
  let r ← getRelay
  if some source = r.clientUdpAddr then handleClientUdpPacket packet source tcpPeer
  else if r.clientUdpAddr = none ∧ source.ip = tcpPeer.ip then
    handleClientUdpPacket packet source tcpPeer
  else
    match r.clientUdpAddr with
    | some client =>
      if source ∈ r.relayedTargets then replyToClient client source tcpPeer packet else pure ()
    | none => pure ()

/-- `UdpSocket::recv_from`, failing -/
def udpRecvFails (message : Str) : M Unit := do
  emit .udpRecvFailed
  bail message

theorem udpRecvFails_apply (message : Str) (w : World) : udpRecvFails message w =
    .error (.failed message) { w with trace := w.trace ++ [.udpRecvFailed] } := rfl

/-- The loop, over what wakes it. A datagram longer than the buffer is cut.
mirrors src/handler.rs:101-163 -/
def relayUdpLoop (tcpPeer : SocketAddr) : List UdpInput → M Unit
  | [] => throw .waiting
  | .control :: _ => do
    let b ← context "SOCKS UDP control connection read failed" <| withoutTimeout (read 1)
    if b = [] then pure () else bail "SocksError::UnexpectedTcpDataDuringUdpAssociate"
  | .recvError message :: _ =>
    reported "SOCKS UDP relay receive failed" .incRelayFailures
      ("SOCKS UDP relay receive failed from " ++ tcpPeer.toStr ++ ": ") <| udpRecvFails message
  | .datagram source packet :: inputs => do
    relayReceived tcpPeer source (packet.take UDP_BUFFER_SIZE)
    relayUdpLoop tcpPeer inputs

/-- mirrors src/handler.rs:87-164 -/
def relayUdp (tcpPeer : SocketAddr) : M Unit := do
  setRelay {}
  relayUdpLoop tcpPeer (← ask fun env _ => env.udpInputs)

/-- `UdpSocket::bind` -/
def udpBind (ip : IpAddr) : M Unit := do
  match ← ask fun env t => env.udpBind t ip with
  | none => emit (.udpBind ip true)
  | some message => do
    emit (.udpBind ip false)
    bail message

/-- mirrors src/handler.rs:63-84 -/
def handleUdpAssociate (tcpPeer : SocketAddr) (relayBindIp : IpAddr) : M Unit := do
  stat .incUdpAssociateSessions
  context ("Failed to bind UDP relay on " ++ relayBindIp.toStr ++ ":0") <| udpBind relayBindIp
  let localAddr ← liftResult (← ask Env.udpLocalAddr)
  let bound := Address.fromSocketAddr localAddr
  sendReply 0x00 bound
  relayUdp tcpPeer

/-! ## Frames -/

theorem keeps_sendReply (rep : UInt8) (addr : SocketAddr) :
    Keeps Quiet (sendReply rep (.fromSocketAddr addr)) := by
  rw [sendReply_eq rep (fromSocketAddr_encodable addr)]
  exact keeps_writeAllWithTimeout _ _

theorem keeps_handleConnect (addr : Address) (peer : SocketAddr) :
    Keeps Extends (handleConnect addr peer) := by
  refine Keeps.bind extends_frame (keeps_connect _ _ _) fun _ => ?_
  refine Keeps.bind extends_frame (Keeps.context (keeps_failing extends_frame _) _) fun _ => ?_
  refine Keeps.bind extends_frame (keeps_ask extends_frame _) fun _ => ?_
  refine Keeps.bind extends_frame (keeps_liftResult extends_frame _) fun _ => ?_
  refine Keeps.bind extends_frame (keeps_quiet (keeps_sendReply _ _)) fun _ => ?_
  refine Keeps.bind extends_frame ?_ fun _ => keeps_quiet (keeps_stat rfl)
  exact Keeps.reported extends_frame extends_of_quiet keeps_copyBidirectional rfl _ _

theorem keeps_getRelay : Keeps Aside getRelay := fun w => aside_frame.refl w

theorem keeps_setRelay (r : Relay) : Keeps Aside (setRelay r) :=
  fun _ => ⟨rfl, [], by simp [setRelay], by simp⟩

theorem keeps_udpSendTo (packet : Bytes) (target : SocketAddr) :
    Keeps Aside (udpSendTo packet target) := by
  refine Keeps.bind aside_frame (keeps_ask aside_frame _) fun o => ?_
  cases o with
  | none => exact keeps_emit rfl
  | some message => exact Keeps.bind aside_frame (keeps_emit rfl) fun _ => keeps_bail aside_frame _

theorem keeps_lockClient (source : SocketAddr) : Keeps Aside (lockClient source) :=
  Keeps.bind aside_frame keeps_getRelay fun _ =>
    Keeps.ite (keeps_setRelay _) (Keeps.pure aside_frame _)

theorem keeps_sendToTarget (payload : Bytes) (target peer : SocketAddr) :
    Keeps Aside (sendToTarget payload target peer) := by
  refine Keeps.tryCatch aside_frame ?_ fun e => ?_
  · exact Keeps.bind aside_frame (Keeps.context (keeps_udpSendTo _ _) _) fun _ =>
      keeps_aside_quiet (keeps_stat rfl)
  · cases e with
    | failed err => exact keeps_aside_quiet (keeps_reportFailure rfl _)
    | panicked => exact Keeps.throw aside_frame _
    | waiting => exact Keeps.throw aside_frame _

theorem keeps_relayToTarget (payload : Bytes) (target peer : SocketAddr) :
    Keeps Aside (relayToTarget payload target peer) := by
  refine Keeps.bind aside_frame keeps_getRelay fun _ => ?_
  refine Keeps.ite (Keeps.pure aside_frame _) ?_
  exact Keeps.bind aside_frame (keeps_setRelay _) fun _ => keeps_sendToTarget _ _ _

theorem keeps_relayDatagram (datagram : UdpDatagram) (peer : SocketAddr) :
    Keeps Aside (relayDatagram datagram peer) := by
  refine Keeps.bind aside_frame (keeps_ask aside_frame _) fun r => ?_
  cases r with
  | error err =>
    exact Keeps.bind aside_frame (keeps_emit rfl) fun _ => keeps_aside_quiet (keeps_stat rfl)
  | ok target => exact Keeps.bind aside_frame (keeps_emit rfl) fun _ => keeps_relayToTarget _ _ _

theorem keeps_handleClientUdpPacket (packet : Bytes) (source peer : SocketAddr) :
    Keeps Aside (handleClientUdpPacket packet source peer) := by
  unfold handleClientUdpPacket
  split
  · exact Keeps.bind aside_frame (keeps_lockClient _) fun _ => keeps_relayDatagram _ _
  · exact Keeps.pure aside_frame _
  · exact Keeps.pure aside_frame _
  · exact Keeps.throw aside_frame _

theorem keeps_replyToClient (client source peer : SocketAddr) (packet : Bytes) :
    Keeps Aside (replyToClient client source peer packet) := by
  refine Keeps.bind aside_frame (keeps_aside_quiet (keeps_stat rfl)) fun _ => ?_
  refine Keeps.bind aside_frame (keeps_liftResult aside_frame _) fun _ => ?_
  exact Keeps.reported aside_frame aside_of_quiet (keeps_udpSendTo _ _) rfl _ _

theorem keeps_relayReceived (peer source : SocketAddr) (packet : Bytes) :
    Keeps Aside (relayReceived peer source packet) := by
  refine Keeps.bind aside_frame (keeps_emit rfl) fun _ => ?_
  refine Keeps.bind aside_frame keeps_getRelay fun r => ?_
  refine Keeps.ite (keeps_handleClientUdpPacket _ _ _)
    (Keeps.ite (keeps_handleClientUdpPacket _ _ _) ?_)
  cases r.clientUdpAddr with
  | none => exact Keeps.pure aside_frame _
  | some client => exact Keeps.ite (keeps_replyToClient _ _ _ _) (Keeps.pure aside_frame _)

theorem keeps_udpRecvFails {p : Ev → Bool} (hp : p .udpRecvFailed = true) (message : Str) :
    Keeps (Emits p) (udpRecvFails message) :=
  Keeps.bind (emits_frame p) (keeps_emit hp) fun _ => keeps_bail (emits_frame p) message

theorem keeps_relayUdpLoop (peer : SocketAddr) : ∀ inputs, Keeps Aside (relayUdpLoop peer inputs) := by
  intro inputs
  induction inputs with
  | nil => exact Keeps.throw aside_frame _
  | cons input inputs ih =>
    cases input with
    | control =>
      refine Keeps.bind aside_frame ?_ fun b =>
        Keeps.ite (Keeps.pure aside_frame _) (keeps_bail aside_frame _)
      exact Keeps.context (keeps_aside_quiet (Keeps.withTimeout (keeps_read 1) _)) _
    | recvError message =>
      exact Keeps.reported aside_frame aside_of_quiet (keeps_udpRecvFails rfl _) rfl _ _
    | datagram source packet =>
      exact Keeps.bind aside_frame (keeps_relayReceived _ _ _) fun _ => ih

theorem keeps_udpBind (ip : IpAddr) : Keeps Aside (udpBind ip) := by
  refine Keeps.bind aside_frame (keeps_ask aside_frame _) fun o => ?_
  cases o with
  | none => exact keeps_emit rfl
  | some message => exact Keeps.bind aside_frame (keeps_emit rfl) fun _ => keeps_bail aside_frame _

theorem keeps_handleUdpAssociate (peer : SocketAddr) (relayBindIp : IpAddr) :
    Keeps Aside (handleUdpAssociate peer relayBindIp) := by
  refine Keeps.bind aside_frame (keeps_aside_quiet (keeps_stat rfl)) fun _ => ?_
  refine Keeps.bind aside_frame (Keeps.context (keeps_udpBind _) _) fun _ => ?_
  refine Keeps.bind aside_frame (keeps_ask aside_frame _) fun _ => ?_
  refine Keeps.bind aside_frame (keeps_liftResult aside_frame _) fun _ => ?_
  refine Keeps.bind aside_frame (keeps_aside_quiet (keeps_sendReply _ _)) fun _ => ?_
  refine Keeps.bind aside_frame (keeps_setRelay _) fun _ => ?_
  exact Keeps.bind aside_frame (keeps_ask aside_frame _) fun _ => keeps_relayUdpLoop _ _

end TinySocks.L4.Handler
