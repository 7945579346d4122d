import TinySocks.L4App.UdpAssociation

/-!
# What ends a UDP association

`GoesOn` says that the relay handled some datagrams and is where it was: at the
top of its loop. A datagram of the client never ends the association, whatever
becomes of it: its destination may not resolve, the target may be one too many,
and `handle_client_udp_packet` counts a failed send and returns `Ok`
(src/handler.rs:206-215). A reply does, if it cannot be sent: the `?` behind
`udp.send_to(&wrapped, client)` (src/handler.rs:153-159) leaves the loop.

A reply grows by its SOCKS header on the way, by 10 bytes over IPv4. So one
datagram of a target, of 65498 bytes or more, is enough: `large_reply_ends`.

* `datagrams_never_end_iff`: a sequence of datagrams leaves the association
  alive exactly if every reply in it can be sent to the client.
-/
namespace TinySocks.L4.UdpAssociation

open TinySocks.Core TinySocks.L1 TinySocks.L2 TinySocks.L3 TinySocks.L4.Handler

/-- A datagram with its source. -/
abbrev Datagram := SocketAddr × Bytes

def Datagram.input (d : Datagram) : UdpInput := .datagram d.1 d.2

/-- What the relay sees of it: as much as its buffer holds. -/
def Datagram.packet (d : Datagram) : Bytes := d.2.take UDP_BUFFER_SIZE

/-- The association `relay_udp` starts with. -/
def associated (w : World) : World := { w with relay := {} }

theorem relayUdp_eq (peer : SocketAddr) (w : World) :
    relayUdp peer w = relayUdpLoop peer w.env.udpInputs (associated w) := rfl

/-- The relay handled these datagrams in `w` and goes on in `w'`: it does with
whatever comes next what its loop does with it. -/
def GoesOn (peer : SocketAddr) (ds : List Datagram) (w w' : World) : Prop :=
  ∀ inputs, relayUdpLoop peer (ds.map Datagram.input ++ inputs) w = relayUdpLoop peer inputs w'

/-- If the datagram is a reply to the client, the socket takes it, wrapped. -/
def ReplyPasses (w : World) (d : Datagram) : Prop :=
  ∀ client wrapped, IsReplyTo w.relay d.1 client →
    encodeUdpDatagram (.fromSocketAddr d.1) d.packet = .ok wrapped →
    w.env.udpSend (replying w d.1 d.packet).trace client wrapped = none

section
variable {peer : SocketAddr} {w w' : World} {d : Datagram} {ds : List Datagram}

/-- Nothing but a reply that cannot be sent stops the loop. -/
theorem relayReceived_ok_iff :
    (∃ w', relayReceived peer d.1 d.packet w = .ok () w') ↔ ReplyPasses w d := by
  rcases relayReceived_cases peer d.1 d.packet w with ⟨hc, h⟩ | ⟨client, hr, h⟩ | ⟨-, hn, h⟩
  · obtain ⟨evs, r', hh, -⟩ := handleClientUdpPacket_round d.packet
      (w := { w with trace := w.trace ++ [.udpRecv d.1 d.packet] }) hc rfl
    exact ⟨fun _ client wrapped hr => absurd hr (hc.not_reply client), fun _ => ⟨_, h.trans hh⟩⟩
  · obtain ⟨wrapped, ok, stats, hw, -, -, -, hsend, -, hok⟩ :=
      replyToClient_cases client d.1 peer d.packet w
    rw [h, ← hok, hsend]
    constructor
    · intro hs client' wrapped' hr' hw'
      cases hr.1.symm.trans hr'.1
      cases hw.symm.trans hw'
      exact hs
    · exact fun hp => hp client wrapped hr hw
  · exact ⟨fun _ client wrapped hr => absurd hr (hn client), fun _ => ⟨_, h⟩⟩

theorem goesOn_nil : GoesOn peer [] w w := fun _ => rfl

theorem goesOn_cons (h : relayReceived peer d.1 d.packet w = .ok () w') {w'' : World} :
    GoesOn peer (d :: ds) w w'' ↔ GoesOn peer ds w' w'' := by
  have hstep : ∀ inputs, relayUdpLoop peer ((d :: ds).map Datagram.input ++ inputs) w =
      relayUdpLoop peer (ds.map Datagram.input ++ inputs) w' := fun _ => bind_of_ok h
  constructor
  · exact fun hg inputs => (hstep inputs).symm.trans (hg inputs)
  · exact fun hg inputs => (hstep inputs).trans (hg inputs)

/-- A run that left its loop takes nothing more. -/
theorem not_goesOn (h : ¬ ∃ w', relayReceived peer d.1 d.packet w = .ok () w') {w'' : World} :
    ¬ GoesOn peer (d :: ds) w w'' := by
  intro hg
  cases hr : relayReceived peer d.1 d.packet w with
  | ok u w' => exact h ⟨w', hr⟩
  | error e w' =>
    have hstop : ∀ inputs, relayUdpLoop peer inputs w'' = .error e w' := by
      intro inputs
      rw [← hg inputs]
      show (relayReceived peer d.1 d.packet >>= fun _ => _) w = _
      rw [bind_apply, hr]
    -- whether there is more to come or the socket fails makes a difference to a live association
    have h₁ : EStateM.Result.error Stop.waiting w'' = .error e w' := hstop []
    have h₂ := hstop [.recvError []]
    rw [relayUdpLoop, reported_error (udpRecvFails_apply _ _)] at h₂
    cases h₁
    cases h₂

end

/-- The association is alive after `ds` exactly if each reply among them passed. -/
theorem goesOn_iff {peer : SocketAddr} : ∀ {ds : List Datagram} {w : World},
    (∃ w', GoesOn peer ds w w') ↔ ∀ pre d post, ds = pre ++ d :: post →
      ∀ w₁, GoesOn peer pre w w₁ → ReplyPasses w₁ d := by
  intro ds
  induction ds with
  | nil =>
    refine fun {w} => ⟨fun _ pre d post he => ?_, fun _ => ⟨w, goesOn_nil⟩⟩
    simp at he
  | cons d ds ih =>
    intro w
    by_cases hd : ∃ w', relayReceived peer d.1 d.packet w = .ok () w'
    · obtain ⟨w', h⟩ := hd
      simp only [goesOn_cons h, ih]
      constructor
      · intro hall pre d' post he w₁ hg
        cases pre with
        | nil =>
          obtain ⟨rfl, -⟩ := List.cons_eq_cons.1 he
          cases hg []
          exact relayReceived_ok_iff.1 ⟨w', h⟩
        | cons e pre =>
          obtain ⟨rfl, rfl⟩ := List.cons_eq_cons.1 he
          exact hall pre d' post rfl w₁ ((goesOn_cons h).1 hg)
      · intro hall pre d' post he w₁ hg
        exact hall (d :: pre) d' post (by rw [he]; rfl) w₁ ((goesOn_cons h).2 hg)
    · constructor
      · intro hx
        obtain ⟨w', hg⟩ := hx
        exact absurd hg (not_goesOn hd)
      · intro hall
        exact absurd (relayReceived_ok_iff.2 (hall [] d ds rfl w goesOn_nil)) hd

/-- **Datagrams leave a UDP association alive exactly if every reply among them can
be sent to the client.** Whatever came before, and whatever the resolver and the
socket answer, the relay handles a sequence of datagrams and goes on with whatever
comes next if, and only if, each of them that is a reply, in the state it arrives
in, is taken by the socket once it is wrapped. -/
theorem datagrams_never_end_iff (peer : SocketAddr) (w : World) (ds : List Datagram) :
    ((∃ w', GoesOn peer ds (associated w) w') ↔ ∀ pre d post, ds = pre ++ d :: post →
      ∀ w₁, GoesOn peer pre (associated w) w₁ → ReplyPasses w₁ d) ∧
    ∀ w' inputs, GoesOn peer ds (associated w) w' →
      w.env.udpInputs = ds.map Datagram.input ++ inputs →
      relayUdp peer w = relayUdpLoop peer inputs w' := by
  refine ⟨goesOn_iff, fun w' inputs hg hi => ?_⟩
  rw [relayUdp_eq, hi]
  exact hg inputs

/-! ## A reply that is too large -/

/-- The largest payload of a UDP datagram over IPv4. -/
def MAX_UDP_PAYLOAD : Nat := 65507

/-- A socket that sends what fits into a datagram. -/
def boundedEnv : Env := { Env.calm [] [] with
  udpSend := fun _ _ packet =>
    if MAX_UDP_PAYLOAD < packet.length then some "Message too long (os error 90)" else none }

def clientAddr : SocketAddr := .new (ipv4 127 0 0 1) 40000

def targetAddr : SocketAddr := .new (ipv4 10 0 0 7) 53

/-- The client asks the target. -/
def question : Datagram := (clientAddr, [0, 0, 0, 1, 10, 0, 0, 7, 0, 53, 63])

/-- The client's TCP address. -/
def clientPeer : SocketAddr := .new (ipv4 127 0 0 1) 50000

/-- The association between the question and the answer. -/
theorem question_passes : ∃ w₁, relayReceived clientPeer question.1 question.packet
    (associated (.accepted boundedEnv [])) = .ok () w₁ ∧
    w₁.relay = { clientUdpAddr := some clientAddr, relayedTargets := [targetAddr] } ∧
    w₁.env = boundedEnv := ⟨_, rfl, rfl, rfl⟩

/-- Where the header does not fit any more. -/
theorem answer_ends {payload : Bytes} (hlarge : MAX_UDP_PAYLOAD < 10 + payload.length)
    (hfits : payload.length ≤ UDP_BUFFER_SIZE) :
    ¬ ∃ w', GoesOn clientPeer [question, (targetAddr, payload)]
      (associated (.accepted boundedEnv [])) w' := by
  obtain ⟨w₁, h₁, hr, he⟩ := question_passes
  simp only [goesOn_cons h₁]
  intro h
  obtain ⟨w', hg⟩ := h
  refine not_goesOn (fun hok => ?_) hg
  have hreply : IsReplyTo w₁.relay targetAddr clientAddr := by
    rw [hr]
    exact ⟨rfl, by decide, List.mem_singleton.2 rfl⟩
  have hp := relayReceived_ok_iff.1 hok clientAddr _ hreply
    (encodeUdpDatagram_eq _ _ (fromSocketAddr_encodable _))
  rw [he] at hp
  have hlen : MAX_UDP_PAYLOAD < ([0, 0, 0] ++ (Address.fromSocketAddr targetAddr).wire ++
      Datagram.packet (targetAddr, payload)).length := by
    rw [Datagram.packet, List.take_of_length_le hfits, List.length_append, List.length_append,
      wire_length]
    exact hlarge
  simp only [boundedEnv, if_pos hlen] at hp
  cases hp

/-- A datagram of a target, of a size it may have, ends the association. -/
theorem large_reply_ends : (List.replicate 65500 (0 : UInt8)).length ≤ MAX_UDP_PAYLOAD ∧
    ¬ ∃ w', GoesOn clientPeer [question, (targetAddr, List.replicate 65500 0)]
      (associated (.accepted boundedEnv [])) w' := by
  have hl : (List.replicate 65500 (0 : UInt8)).length = 65500 := List.length_replicate
  refine ⟨?_, answer_ends ?_ ?_⟩ <;> rw [hl] <;> decide

end TinySocks.L4.UdpAssociation
