import TinySocks.Core.Lts
import TinySocks.L4App.Handler

/-!
# UDP associations

`Round` says everything one received datagram can do to an association; it is
the step relation of the relay. `relayReceived_round` derives it from the code,
and `relayUdpLoop_run` turns a whole run of the loop into a run of rounds,
followed by events that emit nothing. The safety of the relay
(`udp_association_safe`) is then an induction over rounds.
-/
namespace TinySocks.L4.UdpAssociation

open TinySocks.Core TinySocks.L1 TinySocks.L2 TinySocks.L3 TinySocks.L4.Handler

def isStat : Ev → Bool
  | .stat _ => true
  | _ => false

/-- The relay takes the datagram for one of its client's. -/
def FromClient (peer : SocketAddr) (r : Relay) (source : SocketAddr) : Prop :=
  r.clientUdpAddr = some source ∨ r.clientUdpAddr = none ∧ source.ip = peer.ip

/-- The relay, locked to a client. -/
def locked (r : Relay) (client : SocketAddr) : Relay := { r with clientUdpAddr := some client }

/-- The relay once it has contacted a target for its client. -/
def contacted (r : Relay) (client target : SocketAddr) : Relay where
  clientUdpAddr := some client
  relayedTargets := r.relayedTargets.insert target

/-- One received datagram: the events it causes and the state it leaves. -/
inductive Round (env : Env) (peer : SocketAddr) (r : Relay) (source : SocketAddr) (packet : Bytes) :
    Trace → Relay → Prop where
  | dropped (h : FromClient peer r source → ∀ d, parseUdpDatagram packet ≠ .ok (some d)) :
      Round env peer r source packet [.udpRecv source packet] r
  | unresolved {d : UdpDatagram} {stats : Trace} (hc : FromClient peer r source)
      (hp : parseUdpDatagram packet = .ok (some d)) (hs : ∀ e ∈ stats, isStat e = true) :
      Round env peer r source packet
        (.udpRecv source packet :: .resolved d.destination none :: stats) (locked r source)
  | full {d : UdpDatagram} {target : SocketAddr} (hc : FromClient peer r source)
      (hp : parseUdpDatagram packet = .ok (some d)) :
      Round env peer r source packet
        [.udpRecv source packet, .resolved d.destination (some target)] (locked r source)
  | relayed {d : UdpDatagram} {target : SocketAddr} {ok : Bool} {stats t : Trace}
      (hc : FromClient peer r source) (hp : parseUdpDatagram packet = .ok (some d))
      (ht : resolveSocketAddr env t d.destination = .ok target)
      (hroom : target ∈ r.relayedTargets ∨ r.relayedTargets.length < MAX_UDP_REMOTE_ENDPOINTS)
      (hs : ∀ e ∈ stats, isStat e = true) :
      Round env peer r source packet
        (.udpRecv source packet :: .resolved d.destination (some target) ::
          .udpSend target d.payload ok :: stats)
        (contacted r source target)
  | replied {client : SocketAddr} {wrapped : Bytes} {ok : Bool} {stats : Trace}
      (hc : r.clientUdpAddr = some client) (hm : source ∈ r.relayedTargets) (hne : source ≠ client)
      (hw : encodeUdpDatagram (.fromSocketAddr source) packet = .ok wrapped)
      (hs : ∀ e ∈ stats, isStat e = true) :
      Round env peer r source packet
        (.udpRecv source packet :: .stat (.addUdpBytesIn packet.length) ::
          .udpSend client wrapped ok :: stats) r

/-! ## What a round sends -/

/-- The payload a round put out to a target: what is sent right after a destination
was resolved. -/
def toTarget : Trace → Bytes
  | .udpRecv _ _ :: .resolved _ _ :: .udpSend _ payload true :: _ => payload
  | _ => []

/-- The payload a round put out to the client: the datagram it received, if sending
it on came next and succeeded. -/
def toClient : Trace → Bytes
  | .udpRecv _ packet :: .stat _ :: .udpSend _ _ true :: _ => packet
  | _ => []

/-- The counters say what a round sent. -/
structure Booked (evs : Trace) : Prop where
  out : counted StatOp.udpOut evs = (toTarget evs).length
  inn : counted StatOp.udpIn evs = (toClient evs).length

/-! ## The code makes rounds -/

section
variable {w : World}

theorem udpSendTo_eq {packet : Bytes} {target : SocketAddr}
    (h : w.env.udpSend w.trace target packet = none) :
    udpSendTo packet target w = .ok () { w with trace := w.trace ++ [.udpSend target packet true] } := by
  unfold udpSendTo
  rw [bind_apply, ask_apply, h]
  rfl

theorem udpSendTo_error {packet : Bytes} {target : SocketAddr} {message : Str}
    (h : w.env.udpSend w.trace target packet = some message) : udpSendTo packet target w =
      .error (.failed message) { w with trace := w.trace ++ [.udpSend target packet false] } := by
  unfold udpSendTo
  rw [bind_apply, ask_apply, h]
  rfl

/-- Sending to a target never ends the association, and is counted once it succeeded. -/
theorem sendToTarget_cases (payload : Bytes) (target peer : SocketAddr) (w : World) :
    ∃ ok stats, (∀ e ∈ stats, isStat e = true) ∧
      counted StatOp.udpOut stats = (if ok then payload.length else 0) ∧
      counted StatOp.udpIn stats = 0 ∧ ok = (w.env.udpSend w.trace target payload).isNone ∧
      sendToTarget payload target peer w =
        .ok () { w with trace := w.trace ++ .udpSend target payload ok :: stats } := by
  cases h : w.env.udpSend w.trace target payload with
  | none =>
    refine ⟨true, [.stat (.addUdpBytesOut payload.length)], by simp [isStat], by simp [StatOp.udpOut],
      by simp [StatOp.udpIn], rfl, ?_⟩
    refine tryCatch_of_ok (bind_eq_ok.2 ⟨(), _, context_ok.2 (udpSendTo_eq h), ?_⟩)
    show EStateM.Result.ok () _ = _
    simp
  | some message =>
    obtain ⟨text, htext⟩ : ∃ text, reportSendFailure peer
        (.failed "SOCKS UDP relay request send failed") = reportFailure .incRelayFailures text :=
      ⟨_, rfl⟩
    refine ⟨false, [.stat .incRelayFailures, .stat (.recordError text)], by simp [isStat],
      by simp [StatOp.udpOut], by simp [StatOp.udpIn], rfl, ?_⟩
    refine (tryCatch_of_error (bind_eq_error.2 (.inl (context_error _ (udpSendTo_error h))))).trans ?_
    rw [htext, reportFailure_apply, List.append_assoc]
    rfl

theorem lockClient_apply {peer source : SocketAddr} (hc : FromClient peer w.relay source) :
    lockClient source w = .ok () { w with relay := locked w.relay source } := by
  obtain ⟨env, stream, ⟨client, targets⟩, trace⟩ := w
  rcases hc with rfl | ⟨rfl, -⟩ <;> rfl

/-- What a datagram of the client leads to, besides the statistics. -/
def requestEvents (env : Env) (t : Trace) (r : Relay) (d : UdpDatagram) : Trace :=
  match resolveSocketAddr env t d.destination with
  | .error _ => [.resolved d.destination none]
  | .ok target =>
    if target ∉ r.relayedTargets ∧ MAX_UDP_REMOTE_ENDPOINTS ≤ r.relayedTargets.length then
      [.resolved d.destination (some target)]
    else [.resolved d.destination (some target), .udpSend target d.payload
      (env.udpSend (t ++ [.resolved d.destination (some target)]) target d.payload).isNone]

def requestRelay (env : Env) (t : Trace) (r : Relay) (source : SocketAddr) (d : UdpDatagram) : Relay :=
  match resolveSocketAddr env t d.destination with
  | .error _ => locked r source
  | .ok target =>
    if target ∉ r.relayedTargets ∧ MAX_UDP_REMOTE_ENDPOINTS ≤ r.relayedTargets.length then
      locked r source
    else contacted r source target

/-- What the relay does with a datagram of its client, from the locked state on. -/
theorem relayDatagram_eq {peer source : SocketAddr} {d : UdpDatagram} {r : Relay}
    (hw : w.relay = locked r source) :
    ∃ stats, (∀ e ∈ stats, isStat e = true) ∧
      relayDatagram d peer w = .ok () { w with
        relay := requestRelay w.env w.trace r source d
        trace := w.trace ++ (requestEvents w.env w.trace r d ++ stats) } ∧
      ∀ packet, FromClient peer r source → parseUdpDatagram packet = .ok (some d) →
        Round w.env peer r source packet (.udpRecv source packet ::
          (requestEvents w.env w.trace r d ++ stats)) (requestRelay w.env w.trace r source d) ∧
        Booked (.udpRecv source packet :: (requestEvents w.env w.trace r d ++ stats)) := by
  unfold requestEvents requestRelay
  cases hres : resolveSocketAddr w.env w.trace d.destination with
  | error err =>
    have hs : ∀ e ∈ [Ev.stat (.recordError
        ("SOCKS UDP target resolution failed from " ++ peer.toStr ++ ": " ++ err))], isStat e = true := by
      simp [isStat]
    refine ⟨_, hs, ?_, fun packet hc hp => ⟨.unresolved hc hp hs, rfl, rfl⟩⟩
    unfold relayDatagram
    simp only [bind_apply, ask_apply, hres, emit_apply, stat, List.append_assoc]
    rw [← hw]
  | ok target =>
    have hstep : relayDatagram d peer w = relayToTarget d.payload target peer
        { w with trace := w.trace ++ [.resolved d.destination (some target)] } := by
      unfold relayDatagram
      simp only [bind_apply, ask_apply, hres, emit_apply]
    have htargets : w.relay.relayedTargets = r.relayedTargets := by rw [hw]; rfl
    rw [hstep]
    unfold relayToTarget
    by_cases hfull : target ∉ r.relayedTargets ∧ MAX_UDP_REMOTE_ENDPOINTS ≤ r.relayedTargets.length
    · simp only [if_pos hfull]
      refine ⟨[], by simp, ?_, fun packet hc hp => ⟨.full hc hp, rfl, rfl⟩⟩
      simp only [bind_apply, getRelay, htargets, if_pos hfull, List.append_nil]
      rw [← hw]
      rfl
    · simp only [if_neg hfull]
      have hr : ({ w.relay with relayedTargets := r.relayedTargets.insert target } : Relay) =
          contacted r source target := by rw [hw]; rfl
      obtain ⟨ok, stats, hs, hout, hin, hok, hsend⟩ := sendToTarget_cases d.payload target peer
        { w with
          relay := contacted r source target
          trace := w.trace ++ [.resolved d.destination (some target)] }
      simp only at hok
      rw [← hok]
      refine ⟨stats, hs, ?_, fun packet hc hp => ⟨?_, hout.trans ?_, hin⟩⟩
      · simp only [bind_apply, getRelay, htargets, if_neg hfull, setRelay, hr]
        rw [hsend, List.append_assoc]
        rfl
      · refine .relayed hc hp hres ?_ hs
        by_cases hm : target ∈ r.relayedTargets
        · exact .inl hm
        · exact .inr (Nat.lt_of_not_le fun hle => hfull ⟨hm, hle⟩)
      · cases ok <;> rfl

/-- A datagram taken for the client's: one it did not mean for the relay, or a request.
Neither ends the association. -/
theorem handleClientUdpPacket_eq {peer source : SocketAddr} (packet : Bytes)
    (hc : FromClient peer w.relay source) :
    ((∀ d, parseUdpDatagram packet ≠ .ok (some d)) ∧
      handleClientUdpPacket packet source peer w = .ok () w) ∨
    ∃ d stats, (∀ e ∈ stats, isStat e = true) ∧ parseUdpDatagram packet = .ok (some d) ∧
      handleClientUdpPacket packet source peer w = .ok () { w with
        relay := requestRelay w.env w.trace w.relay source d
        trace := w.trace ++ (requestEvents w.env w.trace w.relay d ++ stats) } ∧
      Round w.env peer w.relay source packet (.udpRecv source packet ::
        (requestEvents w.env w.trace w.relay d ++ stats)) (requestRelay w.env w.trace w.relay source d) ∧
      Booked (.udpRecv source packet :: (requestEvents w.env w.trace w.relay d ++ stats)) := by
  unfold handleClientUdpPacket
  rcases parseUdpDatagram_cases packet with h | h | ⟨a, p, -, -, h⟩
  · rw [h]
    exact .inl ⟨nofun, rfl⟩
  · rw [h]
    exact .inl ⟨nofun, rfl⟩
  · obtain ⟨stats, hs, hd, hround⟩ :=
      @relayDatagram_eq { w with relay := locked w.relay source } peer source ⟨a, p⟩ w.relay rfl
    refine .inr ⟨⟨a, p⟩, stats, hs, h, ?_, hround packet hc h⟩
    rw [h]
    simp only [bind_apply, lockClient_apply hc]
    exact hd

/-- A datagram taken for the client's never ends the association. -/
theorem handleClientUdpPacket_round {peer source : SocketAddr} (packet : Bytes) {r : Relay}
    (hc : FromClient peer r source) (hw : w.relay = r) :
    ∃ evs r', handleClientUdpPacket packet source peer w =
        .ok () { w with relay := r', trace := w.trace ++ evs } ∧
      Round w.env peer r source packet (.udpRecv source packet :: evs) r' ∧
      Booked (.udpRecv source packet :: evs) := by
  subst hw
  rcases handleClientUdpPacket_eq packet hc with ⟨hn, h⟩ | ⟨d, stats, -, -, h, hround, hb⟩
  · exact ⟨[], w.relay, by simp [h], .dropped fun _ => hn, rfl, rfl⟩
  · exact ⟨_, _, h, hround, hb⟩

/-- Where a run is when it hands a reply to the socket. -/
def replying (w : World) (source : SocketAddr) (packet : Bytes) : World :=
  { w with trace := w.trace ++ [.udpRecv source packet, .stat (.addUdpBytesIn packet.length)] }

/-- The datagram is a reply, to be sent on to `client`. -/
def IsReplyTo (r : Relay) (source client : SocketAddr) : Prop :=
  r.clientUdpAddr = some client ∧ source ≠ client ∧ source ∈ r.relayedTargets

/-- The client's own datagrams are no replies. -/
theorem FromClient.not_reply {peer : SocketAddr} {r : Relay} {source : SocketAddr}
    (hc : FromClient peer r source) (client : SocketAddr) : ¬ IsReplyTo r source client := by
  intro hr
  rcases hc with hc | ⟨hc, -⟩
  · cases hr.1.symm.trans hc
    exact hr.2.1 rfl
  · cases hr.1.symm.trans hc

/-- Everything the loop does with a datagram: it is one of the client's, it is a reply to
the client, or it is dropped. -/
theorem relayReceived_cases (peer source : SocketAddr) (packet : Bytes) (w : World) :
    (FromClient peer w.relay source ∧ relayReceived peer source packet w =
      handleClientUdpPacket packet source peer
        { w with trace := w.trace ++ [.udpRecv source packet] }) ∨
    (∃ client, IsReplyTo w.relay source client ∧
      relayReceived peer source packet w = replyToClient client source peer packet
        { w with trace := w.trace ++ [.udpRecv source packet] }) ∨
    (¬ FromClient peer w.relay source ∧ (∀ client, ¬ IsReplyTo w.relay source client) ∧
      relayReceived peer source packet w =
        .ok () { w with trace := w.trace ++ [.udpRecv source packet] }) := by
  have hstep : ∀ k : Relay → M Unit, (do
      emit (.udpRecv source packet)
      let r ← getRelay
      k r) w = k w.relay { w with trace := w.trace ++ [.udpRecv source packet] } := fun _ => rfl
  unfold relayReceived
  rw [hstep]
  by_cases hl : some source = w.relay.clientUdpAddr
  · rw [if_pos hl]
    exact .inl ⟨.inl hl.symm, rfl⟩
  rw [if_neg hl]
  by_cases hn : w.relay.clientUdpAddr = none ∧ source.ip = peer.ip
  · rw [if_pos hn]
    exact .inl ⟨.inr hn, rfl⟩
  rw [if_neg hn]
  have hnot : ¬ FromClient peer w.relay source := by
    intro hx
    rcases hx with h | h
    · exact hl h.symm
    · exact hn h
  cases hc : w.relay.clientUdpAddr with
  | none =>
    refine .inr (.inr ⟨hnot, fun client h => ?_, rfl⟩)
    have := hc.symm.trans h.1
    cases this
  | some client =>
    by_cases hm : source ∈ w.relay.relayedTargets
    · refine .inr (.inl ⟨client, ⟨hc, ?_, hm⟩, ?_⟩)
      · intro he
        subst he
        exact hl hc.symm
      · simp only [if_pos hm]
    · refine .inr (.inr ⟨hnot, fun _ h => hm h.2.2, ?_⟩)
      simp only [if_neg hm]
      rfl

/-- A reply is counted, wrapped and sent to the client. -/
theorem replyToClient_eq {client source peer : SocketAddr} {packet wrapped : Bytes} {w : World}
    (hw : encodeUdpDatagram (.fromSocketAddr source) packet = .ok wrapped) :
    replyToClient client source peer packet { w with trace := w.trace ++ [.udpRecv source packet] } =
      reported "SOCKS UDP relay response send failed" .incRelayFailures
        ("SOCKS UDP relay response send failed from " ++ peer.toStr ++ ": ") (udpSendTo wrapped client)
        (replying w source packet) := by
  unfold replyToClient
  rw [hw]
  show reported _ _ _ _ _ = _
  simp [replying]

/-- If it cannot be sent, the association ends, and the counter keeps it. -/
theorem replyToClient_cases (client source peer : SocketAddr) (packet : Bytes) (w : World) :
    ∃ wrapped ok stats, encodeUdpDatagram (.fromSocketAddr source) packet = .ok wrapped ∧
      (∀ e ∈ stats, isStat e = true) ∧ counted StatOp.udpOut stats = 0 ∧
      counted StatOp.udpIn stats = 0 ∧
      (ok = true ↔ w.env.udpSend (replying w source packet).trace client wrapped = none) ∧
      finalState (replyToClient client source peer packet
        { w with trace := w.trace ++ [.udpRecv source packet] }) = { w with
          trace := w.trace ++ .udpRecv source packet :: .stat (.addUdpBytesIn packet.length) ::
            .udpSend client wrapped ok :: stats } ∧
      (ok = true ↔ ∃ w', replyToClient client source peer packet
        { w with trace := w.trace ++ [.udpRecv source packet] } = .ok () w') := by
  have hw := encodeUdpDatagram_eq _ packet (fromSocketAddr_encodable source)
  generalize [0, 0, 0] ++ (Address.fromSocketAddr source).wire ++ packet = wrapped at hw
  rw [replyToClient_eq hw]
  cases h : w.env.udpSend (replying w source packet).trace client wrapped with
  | none =>
    have hsend := udpSendTo_eq (w := replying w source packet) h
    refine ⟨wrapped, true, [], hw, by simp, rfl, rfl, by simp [h], ?_,
      fun _ => ⟨_, reported_ok.2 hsend⟩, fun _ => rfl⟩
    rw [reported_ok.2 hsend]
    simp [replying]
  | some message =>
    have hsend := udpSendTo_error (w := replying w source packet) h
    refine ⟨wrapped, false, [.stat .incRelayFailures, .stat (.recordError
      ("SOCKS UDP relay response send failed from " ++ peer.toStr ++ ": " ++ message))], hw,
      by simp [isStat], by simp [StatOp.udpOut], by simp [StatOp.udpIn], by simp [h], ?_, ?_⟩
    · rw [reported_error hsend]
      simp [replying]
    · constructor
      · intro h
        cases h
      · intro hx
        obtain ⟨w', h⟩ := hx
        rw [reported_error hsend] at h
        cases h

/-- One received datagram is one round; unless the round ends in a failed
reply, the association goes on. -/
theorem relayReceived_round (peer source : SocketAddr) (packet : Bytes) (w : World) :
    ∃ evs r', finalState (relayReceived peer source packet w) =
        { w with relay := r', trace := w.trace ++ evs } ∧
      Round w.env peer w.relay source packet evs r' := by
  rcases relayReceived_cases peer source packet w with ⟨hc, h⟩ | ⟨client, ⟨hc, hne, hm⟩, h⟩ | ⟨hc, -, h⟩
  · obtain ⟨evs, r', hh, hr, -⟩ := handleClientUdpPacket_round packet
      (w := { w with trace := w.trace ++ [.udpRecv source packet] }) hc rfl
    refine ⟨_, r', ?_, hr⟩
    rw [h, hh]
    simp
  · obtain ⟨wrapped, ok, stats, hw, hs, -, -, -, hf, -⟩ :=
      replyToClient_cases client source peer packet w
    have hround : Round w.env peer w.relay source packet (.udpRecv source packet ::
        .stat (.addUdpBytesIn packet.length) :: .udpSend client wrapped ok :: stats) w.relay :=
      .replied hc hm hne hw hs
    exact ⟨_, _, by rw [h, hf], hround⟩
  · exact ⟨_, _, by rw [h]; rfl, .dropped fun h => absurd h hc⟩

end

/-! ## Runs -/

/-- A round together with the states it leads from and to. -/
structure Received where
  before : Relay
  source : SocketAddr
  packet : Bytes
  evs : Trace
  after : Relay

/-- The association as a transition system. -/
def system (env : Env) (peer : SocketAddr) : LTS Relay Received where
  init r := r = {}
  step r l r' := l.before = r ∧ l.after = r' ∧ Round env peer l.before l.source l.packet l.evs l.after

/-- The datagrams that wake the relay, as it receives them. -/
def datagrams (inputs : List UdpInput) : List (SocketAddr × Bytes) :=
  inputs.filterMap fun
    | .datagram source packet => some (source, packet.take UDP_BUFFER_SIZE)
    | _ => none

/-- What happens at the end of an association. -/
def isEnd : Ev → Bool
  | .read _ | .udpRecvFailed | .stat .incRelayFailures | .stat (.recordError _) => true
  | _ => false

theorem emits_end (peer : SocketAddr) {input : UdpInput}
    (h : ∀ source packet, input ≠ .datagram source packet) (inputs : List UdpInput) :
    Keeps (Emits isEnd) (relayUdpLoop peer (input :: inputs)) := by
  cases input with
  | control =>
    refine Keeps.bind (emits_frame _) ?_ fun b =>
      Keeps.ite (Keeps.pure (emits_frame _) _) (keeps_bail (emits_frame _) _)
    exact Keeps.context (Keeps.withTimeout (keeps_read_emits (fun _ => rfl) 1) _) _
  | recvError message => exact keeps_emits_reported (keeps_udpRecvFails rfl message) rfl (fun _ => rfl) _ _
  | datagram source packet => exact absurd rfl (h source packet)

/-- The end of an association does not touch its locals. -/
theorem relayUdpLoop_end (peer : SocketAddr) (w : World) {input : UdpInput}
    (h : ∀ source packet, input ≠ .datagram source packet) (inputs : List UdpInput) :
    (finalState (relayUdpLoop peer (input :: inputs) w)).relay = w.relay := by
  cases input with
  | control =>
    have hread : Keeps Quiet (relayUdpLoop peer (.control :: inputs)) :=
      Keeps.bind quiet_frame (Keeps.context (Keeps.withTimeout (keeps_read _) _) _) fun b =>
        Keeps.ite (Keeps.pure quiet_frame _) (keeps_bail quiet_frame _)
    obtain ⟨⟨c, out, hadvance⟩, -⟩ := hread w
    exact hadvance.relay
  | recvError message => rw [relayUdpLoop, reported_error (udpRecvFails_apply message w), finalState_error]
  | datagram source packet => exact absurd rfl (h source packet)

/-- **The loop is a run of rounds**, one for each datagram it received before
it ended. -/
theorem relayUdpLoop_run (peer : SocketAddr) : ∀ (inputs : List UdpInput) (w : World),
    ∃ (rounds : List Received) (tail : Trace),
      (system w.env peer).Run w.relay rounds (finalState (relayUdpLoop peer inputs w)).relay ∧
      (finalState (relayUdpLoop peer inputs w)).trace =
        w.trace ++ rounds.flatMap Received.evs ++ tail ∧
      (∀ e ∈ tail, isEnd e = true) ∧
      (rounds.map fun l => (l.source, l.packet)) <+: datagrams inputs := by
  intro inputs
  induction inputs with
  | nil =>
    intro w
    exact ⟨[], [], .nil _, by simp [relayUdpLoop], by simp, by simp⟩
  | cons input inputs ih =>
    intro w
    by_cases hd : ∃ source packet, input = .datagram source packet
    · obtain ⟨source, packet, rfl⟩ := hd
      obtain ⟨evs, r', hf, hround⟩ := relayReceived_round peer source (packet.take UDP_BUFFER_SIZE) w
      have hstep : (system w.env peer).step w.relay
          ⟨w.relay, source, packet.take UDP_BUFFER_SIZE, evs, r'⟩ r' := ⟨rfl, rfl, hround⟩
      rw [relayUdpLoop, bind_apply]
      cases hr : relayReceived peer source (packet.take UDP_BUFFER_SIZE) w with
      | error e w₁ =>
        rw [hr] at hf
        cases hf
        exact ⟨_, [], .cons hstep (.nil _), by simp, by simp, ⟨datagrams inputs, rfl⟩⟩
      | ok u w₁ =>
        rw [hr] at hf
        cases hf
        obtain ⟨rounds, tail, hrun, ht, htail, hpre⟩ :=
          ih { w with relay := r', trace := w.trace ++ evs }
        refine ⟨_ :: rounds, tail, .cons hstep hrun, ?_, htail, ?_⟩
        · rw [ht]
          simp
        · exact List.cons_prefix_cons.2 ⟨rfl, hpre⟩
    · have hne : ∀ source packet, input ≠ .datagram source packet :=
        fun source packet he => hd ⟨source, packet, he⟩
      obtain ⟨-, evs, ht, hev⟩ := emits_end peer hne inputs w
      refine ⟨[], evs, ?_, by simpa using ht, hev, by simp⟩
      rw [relayUdpLoop_end peer w hne]
      exact .nil _

/-! ## The invariant -/

/-- The datagram is one an unlocked relay takes its client from. -/
def claims (peer : SocketAddr) (l : Received) : Bool :=
  l.source.ip == peer.ip && match parseUdpDatagram l.packet with
    | .ok (some _) => true
    | _ => false

/-- The round accepted a datagram whose destination resolved to `target`. -/
def Contacts (env : Env) (l : Received) (target : SocketAddr) : Prop :=
  ∃ d t, parseUdpDatagram l.packet = .ok (some d) ∧
    resolveSocketAddr env t d.destination = .ok target ∧
    .resolved d.destination (some target) ∈ l.evs

/-- What the state says about the rounds before it. -/
structure Inv (env : Env) (peer : SocketAddr) (past : List Received) (r : Relay) : Prop where
  client : r.clientUdpAddr = (past.find? (claims peer)).map Received.source
  nodup : r.relayedTargets.Nodup
  bound : r.relayedTargets.length ≤ MAX_UDP_REMOTE_ENDPOINTS
  targets : ∀ target ∈ r.relayedTargets, ∃ l ∈ past,
    r.clientUdpAddr = some l.source ∧ Contacts env l target

section
variable {env : Env} {peer source : SocketAddr} {r r' : Relay} {packet : Bytes} {evs : Trace}

theorem claims_eq {l : Received} {d : UdpDatagram} (hp : parseUdpDatagram l.packet = .ok (some d)) :
    claims peer l = (l.source.ip == peer.ip) := by
  unfold claims
  rw [hp, Bool.and_true]

/-- A round locks the relay to the first source that claims it, once. -/
theorem Round.client (h : Round env peer r source packet evs r') : r'.clientUdpAddr =
    r.clientUdpAddr.or
      (if claims peer ⟨r, source, packet, evs, r'⟩ = true then some source else none) := by
  have hacc : ∀ {d}, FromClient peer r source → parseUdpDatagram packet = .ok (some d) →
      some source = r.clientUdpAddr.or
        (if claims peer ⟨r, source, packet, evs, r'⟩ = true then some source else none) := by
    intro d hc hp
    rcases hc with hc | ⟨hc, hip⟩
    · rw [hc]
      rfl
    · have ht : claims peer ⟨r, source, packet, evs, r'⟩ = true := by
        rw [claims_eq hp]
        exact beq_iff_eq.2 hip
      rw [hc, if_pos ht]
      rfl
  cases h with
  | dropped hd =>
    cases hc : r.clientUdpAddr with
    | some client => rfl
    | none =>
      rw [if_neg]
      · rfl
      · intro hcl
        unfold claims at hcl
        simp only [Bool.and_eq_true, beq_iff_eq] at hcl
        have hp := hd (.inr ⟨hc, hcl.1⟩)
        split at hcl
        · rename_i d hd
          exact hp d hd
        · cases hcl.2
  | unresolved hc hp hs => exact hacc hc hp
  | full hc hp => exact hacc hc hp
  | relayed hc hp ht hroom hs => exact hacc hc hp
  | replied hc hm hne hw hs =>
    rw [hc]
    rfl

/-- A lock is final. -/
theorem Round.client_some (h : Round env peer r source packet evs r') {client : SocketAddr}
    (hc : r.clientUdpAddr = some client) : r'.clientUdpAddr = some client := by
  rw [h.client, hc]
  rfl

/-- Every target was there before or was contacted in this round. -/
theorem Round.targets (h : Round env peer r source packet evs r') : ∀ target ∈ r'.relayedTargets,
    target ∈ r.relayedTargets ∨
      r'.clientUdpAddr = some source ∧ Contacts env ⟨r, source, packet, evs, r'⟩ target := by
  intro target hm
  cases h with
  | dropped hd => exact .inl hm
  | unresolved hc hp hs => exact .inl hm
  | full hc hp => exact .inl hm
  | replied hc hm' hne hw hs => exact .inl hm
  | relayed hc hp ht hroom hs =>
    rcases List.mem_insert_iff.1 hm with rfl | hm
    · exact .inr ⟨rfl, _, _, hp, ht, by simp⟩
    · exact .inl hm

theorem Round.grows (h : Round env peer r source packet evs r') :
    ∀ target ∈ r.relayedTargets, target ∈ r'.relayedTargets := by
  intro target hm
  cases h with
  | relayed hc hp ht hroom hs => exact List.mem_insert_of_mem hm
  | _ => exact hm

theorem Round.nodup (h : Round env peer r source packet evs r') (hn : r.relayedTargets.Nodup) :
    r'.relayedTargets.Nodup := by
  cases h with
  | @relayed d target ok stats t hc hp ht hroom hs =>
    show (r.relayedTargets.insert target).Nodup
    by_cases hm : target ∈ r.relayedTargets
    · rw [List.insert_of_mem hm]
      exact hn
    · rw [List.insert_of_not_mem hm]
      exact List.nodup_cons.2 ⟨hm, hn⟩
  | _ => exact hn

theorem Round.bound (h : Round env peer r source packet evs r')
    (hb : r.relayedTargets.length ≤ MAX_UDP_REMOTE_ENDPOINTS) :
    r'.relayedTargets.length ≤ MAX_UDP_REMOTE_ENDPOINTS := by
  cases h with
  | relayed hc hp ht hroom hs =>
    show (r.relayedTargets.insert _).length ≤ _
    rw [List.length_insert]
    split
    · exact hb
    · rename_i hm
      exact hroom.resolve_left hm
  | _ => exact hb

/-! ### What a round emits -/

def isSend : Ev → Bool
  | .udpSend _ _ _ => true
  | _ => false

theorem no_send {stats : Trace} (hs : ∀ e ∈ stats, isStat e = true) : stats.filter isSend = [] := by
  rw [List.filter_eq_nil_iff]
  intro e he
  have := hs e he
  cases e <;> simp_all [isStat, isSend]

/-- The payload of an accepted datagram of the client, sent to where its
destination resolved in that round. -/
def IsRequest (env : Env) (l : Received) (target : SocketAddr) (b : Bytes) : Prop :=
  l.after.clientUdpAddr = some l.source ∧ target ∈ l.after.relayedTargets ∧
    ∃ d t, parseUdpDatagram l.packet = .ok (some d) ∧ b = d.payload ∧
      resolveSocketAddr env t d.destination = .ok target ∧
      .resolved d.destination (some target) ∈ l.evs

/-- A target's datagram, wrapped with its address and sent to the client. -/
def IsReply (l : Received) (target : SocketAddr) (b : Bytes) : Prop :=
  l.before.clientUdpAddr = some target ∧ l.source ∈ l.before.relayedTargets ∧
    encodeUdpDatagram (.fromSocketAddr l.source) l.packet = .ok b

/-- At most one datagram goes out, and it is a request or a reply. -/
theorem Round.sends (h : Round env peer r source packet evs r') :
    evs.filter isSend = [] ∨ ∃ target b ok, evs.filter isSend = [.udpSend target b ok] ∧
      (IsRequest env ⟨r, source, packet, evs, r'⟩ target b ∨
        IsReply ⟨r, source, packet, evs, r'⟩ target b) := by
  cases h with
  | dropped hd => exact .inl rfl
  | unresolved hc hp hs => exact .inl (by simp [isSend, no_send hs])
  | full hc hp => exact .inl rfl
  | @relayed d target ok stats t hc hp ht hroom hs =>
    refine .inr ⟨target, d.payload, ok, ?_, .inl ⟨rfl, ?_, d, t, hp, rfl, ht, by simp⟩⟩
    · simp [List.filter_cons, isSend, no_send hs]
    · exact List.mem_insert_self
  | @replied client wrapped ok stats hc hm hne hw hs =>
    refine .inr ⟨client, wrapped, ok, ?_, .inr ⟨hc, hm, hw⟩⟩
    simp [List.filter_cons, isSend, no_send hs]

/-- A stranger's datagram changes nothing and causes nothing. -/
theorem Round.stranger (h : Round env peer r source packet evs r') (hc : ¬ FromClient peer r source)
    (hm : source ∉ r.relayedTargets) : r' = r ∧ evs.filter isSend = [] := by
  cases h with
  | dropped hd => exact ⟨rfl, rfl⟩
  | unresolved hc' hp hs => exact absurd hc' hc
  | full hc' hp => exact absurd hc' hc
  | relayed hc' hp ht hroom hs => exact absurd hc' hc
  | replied hc' hm' hne hw hs => exact absurd hm' hm

/-- One round keeps the invariant, with itself in the past. -/
theorem Inv.step {past : List Received} (hi : Inv env peer past r)
    (h : Round env peer r source packet evs r') :
    Inv env peer (past ++ [⟨r, source, packet, evs, r'⟩]) r' where
  client := by
    rw [h.client, hi.client, List.find?_append]
    cases past.find? (claims peer) with
    | some l => rfl
    | none =>
      simp only [Option.map_none, Option.none_or, List.find?_cons, List.find?_nil]
      split <;> simp_all
  nodup := h.nodup hi.nodup
  bound := h.bound hi.bound
  targets := by
    intro target hm
    rcases h.targets target hm with hm | ⟨hc, ht⟩
    · obtain ⟨l, hl, hlc, ht⟩ := hi.targets target hm
      exact ⟨l, List.mem_append_left _ hl, h.client_some hlc, ht⟩
    · exact ⟨_, List.mem_append_right _ (.head _), hc, ht⟩

end

/-- Along a run, every round starts from and leads to a state with the
invariant. -/
theorem run_inv {env : Env} {peer : SocketAddr} {rounds : List Received} : ∀ {past : List Received}
    {r r' : Relay}, Inv env peer past r → (system env peer).Run r rounds r' →
      Inv env peer (past ++ rounds) r' ∧
      ∀ pre l post, rounds = pre ++ l :: post →
        Inv env peer (past ++ pre) l.before ∧ Inv env peer (past ++ pre ++ [l]) l.after ∧
          Round env peer l.before l.source l.packet l.evs l.after := by
  induction rounds with
  | nil =>
    intro past r r' hi hr
    cases hr
    refine ⟨by simpa using hi, fun pre l post he => ?_⟩
    simp at he
  | cons l rounds ih =>
    intro past r r' hi hr
    cases hr with
    | cons hs hr =>
      obtain ⟨rfl, rfl, hround⟩ := hs
      have hi' := hi.step hround
      obtain ⟨hend, hall⟩ := ih hi' hr
      refine ⟨by simpa using hend, fun pre l' post he => ?_⟩
      cases pre with
      | nil =>
        obtain ⟨rfl, rfl⟩ := List.cons_eq_cons.1 he
        exact ⟨by simpa using hi, by simpa using hi', hround⟩
      | cons m pre =>
        obtain ⟨rfl, htail⟩ := List.cons_eq_cons.1 he
        simpa using hall pre l' post htail

theorem inv_init (env : Env) (peer : SocketAddr) : Inv env peer [] {} :=
  ⟨rfl, List.nodup_nil, Nat.zero_le _, fun _ h => by cases h⟩

/-- **A UDP association is safe in every run**, whatever arrives and whatever
the resolver and the socket answer. The run is a sequence of rounds, one for
each datagram received, and after every round:

* the client is the first source on the peer's address whose datagram was
  accepted, and stays it;
* the targets only grow, stay within the limit, and each is where a datagram
  of the client resolved to;
* at most one datagram was sent: a payload of the client to a target, or a
  target's datagram, wrapped, to the client;
* a datagram from anywhere else changed nothing and sent nothing. -/
theorem udp_association_safe (peer : SocketAddr) (w : World) :
    ∃ (rounds : List Received) (tail : Trace),
      (system w.env peer).Run {} rounds (finalState (relayUdp peer w)).relay ∧
      (finalState (relayUdp peer w)).trace = w.trace ++ rounds.flatMap Received.evs ++ tail ∧
      (∀ e ∈ tail, isEnd e = true) ∧
      (rounds.map fun l => (l.source, l.packet)) <+: datagrams w.env.udpInputs ∧
      ∀ pre l post, rounds = pre ++ l :: post →
        (l.after.clientUdpAddr = ((pre ++ [l]).find? (claims peer)).map Received.source ∧
          ∀ client, l.before.clientUdpAddr = some client → l.after.clientUdpAddr = some client) ∧
        ((∀ target ∈ l.before.relayedTargets, target ∈ l.after.relayedTargets) ∧
          l.after.relayedTargets.Nodup ∧
          l.after.relayedTargets.length ≤ MAX_UDP_REMOTE_ENDPOINTS ∧
          ∀ target ∈ l.after.relayedTargets, ∃ m ∈ pre ++ [l],
            l.after.clientUdpAddr = some m.source ∧ Contacts w.env m target) ∧
        (l.evs.filter isSend = [] ∨ ∃ target b ok, l.evs.filter isSend = [.udpSend target b ok] ∧
          (IsRequest w.env l target b ∨ IsReply l target b)) ∧
        (¬ FromClient peer l.before l.source → l.source ∉ l.before.relayedTargets →
          l.after = l.before ∧ l.evs.filter isSend = []) := by
  obtain ⟨rounds, tail, hrun, ht, htail, hpre⟩ :=
    relayUdpLoop_run peer w.env.udpInputs { w with relay := {} }
  have hloop : relayUdp peer w = relayUdpLoop peer w.env.udpInputs { w with relay := {} } := rfl
  rw [hloop]
  refine ⟨rounds, tail, hrun, ht, htail, hpre, fun pre l post he => ?_⟩
  obtain ⟨hb, ha, hround⟩ := (run_inv (inv_init w.env peer) hrun).2 pre l post he
  refine ⟨⟨by simpa using ha.client, fun client hc => hround.client_some hc⟩,
    ⟨hround.grows, ha.nodup, ha.bound, by simpa using ha.targets⟩, hround.sends, ?_⟩
  intro hc hm
  exact hround.stranger hc hm

end TinySocks.L4.UdpAssociation
