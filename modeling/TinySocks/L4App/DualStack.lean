import TinySocks.L4App.UdpAccounting

/-!
# IPv4 peers on a dual-stack listener

A listener on `[::]` reports the peer `a.b.c.d` as `[::ffff:a.b.c.d]`, and so do
the UDP sockets behind it. Nothing in the proxy turns such an address back: the
allowlist is asked about the peer as it was accepted (src/server.rs:113-114), and
a reply is forwarded if its source, as it was received, is among the targets
(src/handler.rs:145-147), which are what destinations resolved to.

The same exchange is run twice here, once with each representation. As long as no
target answers the two runs are in `Lockstep`; the first reply is forwarded by one
of them and dropped by the other, which never forwards any.

* `dual_stack_same_iff`: what the proxy does is the same exactly if the allowlist
  exempts the peer in both representations or in none, and no target answers.
-/
namespace TinySocks.L4.UdpAssociation

open TinySocks.Core TinySocks.L1 TinySocks.L2 TinySocks.L3 TinySocks.L4.Handler

/-! ## The two representations -/

/-- A dual-stack socket reports where a datagram came from in its own form. -/
def mappedEv : Ev → Ev
  | .udpRecv source packet => .udpRecv source.toMapped packet
  | e => e

def mappedInput : UdpInput → UdpInput
  | .datagram source packet => .datagram source.toMapped packet
  | input => input

def mappedDatagram (d : Datagram) : Datagram := (d.1.toMapped, d.2)

/-- The relay took its client from a datagram, its targets from destinations. -/
def mappedRelay (r : Relay) : Relay :=
  { r with clientUdpAddr := r.clientUdpAddr.map SocketAddr.toMapped }

/-- What went through the sockets and the resolver. -/
def outside (t : Trace) : Trace := t.filter fun e => !isStat e

/-- The same happened, in the two representations. -/
def SameHistory (t t' : Trace) : Prop := outside t' = (outside t).map mappedEv

/-- The same datagrams arrive, and the resolver and the sockets answer the same where
the same happened before. -/
structure SameOutside (env env' : Env) : Prop where
  inputs : env'.udpInputs = env.udpInputs.map mappedInput
  lookup : ∀ t t', SameHistory t t' → env'.lookupHost t' = env.lookupHost t
  send : ∀ t t', SameHistory t t' → ∀ target payload, target.IsV4 →
    (env'.udpSend t' target payload).isNone = (env.udpSend t target payload).isNone

def Ipv4Sources (inputs : List UdpInput) : Prop :=
  ∀ source packet, .datagram source packet ∈ inputs → source.IsV4

/-- Every destination the run resolves is an IPv4 one. -/
def Ipv4Targets (r : EStateM.Result Stop World Unit) : Prop :=
  ∀ d target, .resolved d (some target) ∈ (finalState r).trace → target.IsV4

def Forwarded.canonical : Forwarded → Forwarded
  | .request target payload ok => .request target.toCanonical payload ok
  | .reply source client packet ok => .reply source.toCanonical client.toCanonical packet ok

def Forwarded.isRequest : Forwarded → Bool
  | .request _ _ _ => true
  | .reply _ _ _ _ => false

/-- What the relay forwards from `w` on. -/
def forwardsFrom (peer : SocketAddr) (inputs : List UdpInput) (w : World) : List Forwarded :=
  forwards ((finalState (relayUdpLoop peer inputs w)).trace.drop w.trace.length)

/-- What an association forwards, whatever represents the peers. -/
def forwardedBy (peer : SocketAddr) (w : World) : List Forwarded :=
  (forwards ((finalState (relayUdp peer w)).trace.drop w.trace.length)).map Forwarded.canonical

/-- No datagram arrives from a target of the client, unless the client is that target. -/
def NoReplies (peer : SocketAddr) (w : World) : Prop :=
  AtEach (fun w₁ d => ∀ client, ¬ IsReplyTo w₁.relay d.1 client) peer w.env.udpInputs (associated w)

theorem mappedInput_input (d : Datagram) : mappedInput d.input = (mappedDatagram d).input := rfl

/-- No other input is a datagram. -/
theorem mappedInput_ne {input : UdpInput} (h : ∀ d : Datagram, input ≠ d.input) (d : Datagram) :
    mappedInput input ≠ d.input := by
  intro he
  cases input with
  | datagram source packet => exact h (source, packet) rfl
  | control => cases he
  | recvError message => cases he

theorem outside_append (s t : Trace) : outside (s ++ t) = outside s ++ outside t := by
  simp [outside]

theorem outside_stats {stats : Trace} (hs : ∀ e ∈ stats, isStat e = true) : outside stats = [] := by
  rw [outside, List.filter_eq_nil_iff]
  intro e he
  simp [hs e he]

theorem SameHistory.append {t t' s s' : Trace} (ht : SameHistory t t') (hs : SameHistory s s') :
    SameHistory (t ++ s) (t' ++ s') := by
  unfold SameHistory
  rw [outside_append, outside_append, List.map_append, ht, hs]

theorem sameHistory_stats {s s' : Trace} (hs : ∀ e ∈ s, isStat e = true)
    (hs' : ∀ e ∈ s', isStat e = true) : SameHistory s s' := by
  unfold SameHistory
  rw [outside_stats hs, outside_stats hs']
  rfl

/-- Only datagrams carry a representation. -/
theorem sameHistory_refl {s : Trace} (hs : ∀ e ∈ s, isRecv e = false) : SameHistory s s := by
  have hid : ∀ e ∈ outside s, mappedEv e = id e := by
    intro e he
    have := hs e (List.mem_filter.1 he).1
    cases e <;> first | rfl | cases this
  unfold SameHistory
  rw [List.map_congr_left hid, List.map_id]

/-! ## Requests -/

section
variable {env env' : Env} {t t' : Trace} {r : Relay} {peer source : SocketAddr} {d : UdpDatagram}

theorem requestEvents_no_recv (env : Env) (t : Trace) (r : Relay) (d : UdpDatagram) :
    ∀ e ∈ requestEvents env t r d, isRecv e = false ∧ isStat e = false := by
  unfold requestEvents
  cases resolveSocketAddr env t d.destination with
  | error err => simp [isRecv, isStat]
  | ok target =>
    dsimp only
    split <;> simp [isRecv, isStat]

/-- The resolver is asked the same. -/
theorem resolve_same (ho : SameOutside env env') (ht : SameHistory t t') (a : Address) :
    resolveSocketAddr env' t' a = resolveSocketAddr env t a := by
  cases a with
  | v4 ip port => rfl
  | v6 ip port => rfl
  | domain name port =>
    unfold resolveSocketAddr
    rw [ho.lookup t t' ht]

theorem requestRelay_same (r : Relay) (source : SocketAddr) (d : UdpDatagram)
    (ho : SameOutside env env') (ht : SameHistory t t') :
    requestRelay env' t' (mappedRelay r) source.toMapped d = mappedRelay (requestRelay env t r source d) := by
  unfold requestRelay
  rw [resolve_same ho ht]
  cases resolveSocketAddr env t d.destination with
  | error err => rfl
  | ok target =>
    show (if target ∉ r.relayedTargets ∧ MAX_UDP_REMOTE_ENDPOINTS ≤ r.relayedTargets.length then _ else _) = _
    dsimp only
    split <;> rfl

theorem requestEvents_same (ho : SameOutside env env') (ht : SameHistory t t')
    (hv : ∀ target, .resolved d.destination (some target) ∈ requestEvents env t r d → target.IsV4) :
    requestEvents env' t' (mappedRelay r) d = requestEvents env t r d := by
  unfold requestEvents at hv ⊢
  rw [resolve_same ho ht]
  cases hres : resolveSocketAddr env t d.destination with
  | error err => rfl
  | ok target =>
    rw [hres] at hv
    have hv4 : target.IsV4 := by
      refine hv target ?_
      dsimp only
      split <;> exact .head _
    have hsend := ho.send _ _ (ht.append (sameHistory_refl (s := [.resolved d.destination (some target)])
      (by simp [isRecv]))) target d.payload hv4
    show (if target ∉ r.relayedTargets ∧ MAX_UDP_REMOTE_ENDPOINTS ≤ r.relayedTargets.length then _ else _) = _
    dsimp only
    split
    · rfl
    · rw [hsend]

/-- A request makes no difference to the families of the endpoints. -/
theorem requestRelay_targets (hr : ∀ target ∈ r.relayedTargets, target.IsV4)
    (hv : ∀ target, .resolved d.destination (some target) ∈ requestEvents env t r d → target.IsV4) :
    ∀ target ∈ (requestRelay env t r source d).relayedTargets, target.IsV4 := by
  unfold requestRelay
  unfold requestEvents at hv
  cases hres : resolveSocketAddr env t d.destination with
  | error err => exact hr
  | ok target =>
    rw [hres] at hv
    dsimp only at hv ⊢
    split
    · exact hr
    · rename_i hroom
      rw [if_neg hroom] at hv
      intro x hx
      rcases List.mem_insert_iff.1 hx with rfl | hx
      · exact hv _ (.head _)
      · exact hr x hx

theorem requestRelay_client : (requestRelay env t r source d).clientUdpAddr = some source := by
  unfold requestRelay
  cases resolveSocketAddr env t d.destination with
  | error err => rfl
  | ok target =>
    dsimp only
    split <;> rfl

/-- What a request forwards is a request, and does not depend on who is told about it. -/
theorem forwardOf_request (env : Env) (t : Trace) (r : Relay) (d : UdpDatagram) (packet : Bytes) :
    ∃ o : Option Forwarded, (∀ f ∈ o.toList, f.isRequest = true) ∧
    ∀ (s : SocketAddr) (stats : Trace), (∀ e ∈ stats, isStat e = true) →
      forwardOf (.udpRecv s packet :: (requestEvents env t r d ++ stats)) = o := by
  have hnone : ∀ (o : Option SocketAddr) (s : SocketAddr) (stats : Trace), (∀ e ∈ stats, isStat e = true) →
      forwardOf (.udpRecv s packet :: ([.resolved d.destination o] ++ stats)) = none := by
    intro o s stats hs
    refine forwardOf_resolved (fun e he => ?_) s packet d.destination o
    have := hs e (List.mem_of_mem_head? he)
    cases e <;> first | rfl | cases this
  unfold requestEvents
  cases resolveSocketAddr env t d.destination with
  | error err => exact ⟨none, by simp, hnone none⟩
  | ok target =>
    dsimp only
    split
    · exact ⟨none, by simp, hnone _⟩
    · exact ⟨some _, by simp [Forwarded.isRequest], fun s stats hs => rfl⟩

end

/-! ## One of the runs -/

section
variable {peer : SocketAddr} {d : Datagram} {inputs : List UdpInput} {w w' : World} {evs : Trace}

theorem relayUdpLoop_follows (peer : SocketAddr) (inputs : List UdpInput) (w : World) :
    ∃ evs, (finalState (relayUdpLoop peer inputs w)).trace = w.trace ++ evs ∧ Follows evs := by
  obtain ⟨evs, ht, hfol, -⟩ := relayUdpLoop_books peer inputs w
  exact ⟨evs, ht, hfol⟩

theorem relayUdpLoop_cons (h : relayReceived peer d.1 d.packet w = .ok () w') :
    relayUdpLoop peer (d.input :: inputs) w = relayUdpLoop peer inputs w' := bind_of_ok h

/-- The events of a datagram that was handled are those of its round. -/
theorem received_round {r' : EStateM.Result Stop World Unit} (h : relayReceived peer d.1 d.packet w = r')
    (ht : (finalState r').trace = w.trace ++ evs) :
    Round w.env peer w.relay d.1 d.packet evs (finalState r').relay := by
  obtain ⟨evs', r', hf, hround⟩ := relayReceived_round peer d.1 d.packet w
  rw [h] at hf
  rw [hf] at ht ⊢
  rwa [← List.append_cancel_left ht]

theorem forwardsFrom_cons (h : relayReceived peer d.1 d.packet w = .ok () w')
    (ht : w'.trace = w.trace ++ evs) :
    forwardsFrom peer (d.input :: inputs) w = (forwardOf evs).toList ++ forwardsFrom peer inputs w' := by
  obtain ⟨evs', ht', hfol⟩ := relayUdpLoop_follows peer inputs w'
  unfold forwardsFrom
  rw [relayUdpLoop_cons h, ht', List.drop_left, ht, List.append_assoc, List.drop_left,
    (received_round h ht).forwards hfol]

theorem forwardsFrom_stopped {e : Stop} (h : relayReceived peer d.1 d.packet w = .error e w')
    (ht : w'.trace = w.trace ++ evs) : forwardsFrom peer (d.input :: inputs) w = (forwardOf evs).toList := by
  have hstop : relayUdpLoop peer (d.input :: inputs) w = .error e w' := by
    show (relayReceived peer d.1 d.packet >>= fun _ => _) w = _
    rw [bind_apply, h]
  have hf := (received_round h ht).forwards (t := []) (.inr (by simp))
  rw [List.append_nil] at hf
  unfold forwardsFrom
  rw [hstop, finalState_error, ht, List.drop_left, hf]
  exact List.append_nil _

theorem forwardsFrom_end {input : UdpInput} (h : ∀ d : Datagram, input ≠ d.input) :
    forwardsFrom peer (input :: inputs) w = [] := by
  obtain ⟨-, evs, ht, hev⟩ := emits_end peer (fun source packet => h (source, packet)) inputs w
  have hno : ∀ e ∈ evs, isRecv e = false := by
    intro e he
    have := hev e he
    cases e <;> first | rfl | cases this
  have hskip := forwards_skip (t := []) hno
  rw [List.append_nil] at hskip
  unfold forwardsFrom
  rw [ht, List.drop_left, hskip]
  rfl

/-- A reply is what the relay forwards next. -/
theorem forwardsFrom_reply (peer : SocketAddr) (inputs : List UdpInput) {client : SocketAddr}
    (hr : IsReplyTo w.relay d.1 client) :
    ∃ ok rest, forwardsFrom peer (d.input :: inputs) w = .reply d.1 client d.packet ok :: rest := by
  rcases relayReceived_cases peer d.1 d.packet w with ⟨hc, -⟩ | ⟨client', hr', h⟩ | ⟨-, hn, -⟩
  · exact absurd hr (hc.not_reply client)
  · cases hr.1.symm.trans hr'.1
    obtain ⟨wrapped, ok, stats, -, -, -, -, -, hf, -⟩ :=
      replyToClient_cases client d.1 peer d.packet w
    rw [← h] at hf
    cases hres : relayReceived peer d.1 d.packet w with
    | ok u w' =>
      rw [hres] at hf
      exact ⟨ok, _, forwardsFrom_cons hres (congrArg World.trace hf)⟩
    | error e w' =>
      rw [hres] at hf
      exact ⟨ok, [], forwardsFrom_stopped hres (congrArg World.trace hf)⟩
  · exact absurd hr (hn client)

/-- What was resolved so far is part of what the run resolves. -/
theorem Ipv4Targets.so_far (h : Ipv4Targets (relayUdpLoop peer inputs w)) :
    ∀ d target, .resolved d (some target) ∈ w.trace → target.IsV4 := by
  obtain ⟨evs, ht, -⟩ := relayUdpLoop_follows peer inputs w
  intro d target hm
  exact h d target (by rw [ht]; exact List.mem_append_left _ hm)

/-- What one datagram of the client does to a relay of IPv4 targets. -/
theorem relayReceived_request (hc : FromClient peer w.relay d.1) :
    ((∀ x, parseUdpDatagram d.packet ≠ .ok (some x)) ∧ relayReceived peer d.1 d.packet w =
      .ok () { w with trace := w.trace ++ [.udpRecv d.1 d.packet] }) ∨
    ∃ x stats, (∀ e ∈ stats, isStat e = true) ∧ parseUdpDatagram d.packet = .ok (some x) ∧
      relayReceived peer d.1 d.packet w = .ok () { w with
        relay := requestRelay w.env (w.trace ++ [.udpRecv d.1 d.packet]) w.relay d.1 x
        trace := w.trace ++ .udpRecv d.1 d.packet ::
          (requestEvents w.env (w.trace ++ [.udpRecv d.1 d.packet]) w.relay x ++ stats) } := by
  rcases relayReceived_cases peer d.1 d.packet w with ⟨-, h⟩ | ⟨client, hr, -⟩ | ⟨hn, -, -⟩
  · rw [h]
    rcases handleClientUdpPacket_eq d.packet
        (w := { w with trace := w.trace ++ [.udpRecv d.1 d.packet] }) hc with hn | ⟨x, stats, hs, hx, hh, -⟩
    · exact .inl hn
    · refine .inr ⟨x, stats, hs, hx, hh.trans ?_⟩
      simp only [List.append_assoc, List.singleton_append]
  · exact absurd hr (hc.not_reply client)
  · exact absurd hc hn

/-- Behind a dual-stack socket the relay forwards requests only. -/
theorem forwardsFrom_mapped (peer : SocketAddr) : ∀ (inputs : List UdpInput) (w : World),
    (∀ target ∈ w.relay.relayedTargets, target.IsV4) →
    Ipv4Targets (relayUdpLoop peer (inputs.map mappedInput) w) →
    ∀ f ∈ forwardsFrom peer (inputs.map mappedInput) w, f.isRequest = true := by
  intro inputs
  induction inputs with
  | nil =>
    intro w hr hv f hf
    simp [forwardsFrom, relayUdpLoop, forwards] at hf
  | cons input inputs ih =>
    intro w hr hv
    rw [List.map_cons] at hv ⊢
    by_cases hd : ∃ d : Datagram, input = d.input
    · obtain ⟨d, rfl⟩ := hd
      rw [mappedInput_input] at hv ⊢
      have hdrop : ∀ w', relayReceived peer (mappedDatagram d).1 (mappedDatagram d).packet w = .ok () w' →
          w'.relay = w.relay →
          w'.trace = w.trace ++ [.udpRecv (mappedDatagram d).1 (mappedDatagram d).packet] →
          ∀ f ∈ forwardsFrom peer ((mappedDatagram d).input :: inputs.map mappedInput) w,
            f.isRequest = true := by
        intro w' h hrel ht f hf
        rw [relayUdpLoop_cons h] at hv
        rw [forwardsFrom_cons h ht] at hf
        exact ih w' (by rw [hrel]; exact hr) hv f hf
      rcases relayReceived_cases peer (mappedDatagram d).1 (mappedDatagram d).packet w with
        ⟨hc, -⟩ | ⟨client, hreply, -⟩ | ⟨-, -, h⟩
      · rcases relayReceived_request hc with ⟨-, h⟩ | ⟨x, stats, hs, -, h⟩
        · exact hdrop _ h rfl rfl
        · obtain ⟨o, ho, hfo⟩ := forwardOf_request w.env
            (w.trace ++ [.udpRecv (mappedDatagram d).1 (mappedDatagram d).packet]) w.relay x
            (mappedDatagram d).packet
          rw [relayUdpLoop_cons h] at hv
          rw [forwardsFrom_cons h rfl, hfo _ stats hs]
          intro f hf
          rcases List.mem_append.1 hf with hf | hf
          · exact ho f hf
          · refine ih _ (requestRelay_targets hr fun target hm => hv.so_far x.destination target ?_) hv f hf
            simp [hm]
      · exact absurd (hr _ hreply.2.2) (SocketAddr.toMapped_not_v4 d.1)
      · exact hdrop _ h rfl rfl
    · intro f hf
      rw [forwardsFrom_end (mappedInput_ne fun d he => hd ⟨d, he⟩)] at hf
      cases hf

end

/-! ## Both runs -/

/-- The two runs are where the same exchange leads them. -/
structure Lockstep (w w' : World) : Prop where
  same : SameOutside w.env w'.env
  relay : w'.relay = mappedRelay w.relay
  history : SameHistory w.trace w'.trace
  client : ∀ client, w.relay.clientUdpAddr = some client → client.IsV4
  targets : ∀ target ∈ w.relay.relayedTargets, target.IsV4

section
variable {peer : SocketAddr} {d : Datagram} {inputs : List UdpInput} {w w' : World}

theorem sameHistory_recv (source : SocketAddr) (packet : Bytes) :
    SameHistory [.udpRecv source packet] [.udpRecv source.toMapped packet] := rfl

theorem Lockstep.dropped (hl : Lockstep w w') (d : Datagram) :
    Lockstep { w with trace := w.trace ++ [.udpRecv d.1 d.packet] }
      { w' with trace := w'.trace ++ [.udpRecv (mappedDatagram d).1 (mappedDatagram d).packet] } where
  same := hl.same
  relay := hl.relay
  history := hl.history.append (sameHistory_recv d.1 d.packet)
  client := hl.client
  targets := hl.targets

/-- Whose datagram it is does not depend on the representation. -/
theorem fromClient_mapped (hp : peer.IsV4) (hs : d.1.IsV4) (hl : Lockstep w w') :
    FromClient peer.toMapped w'.relay (mappedDatagram d).1 ↔ FromClient peer w.relay d.1 := by
  have hclient : w'.relay.clientUdpAddr = w.relay.clientUdpAddr.map SocketAddr.toMapped := by
    rw [hl.relay]
    rfl
  unfold FromClient
  rw [hclient]
  refine or_congr ?_ (and_congr Option.map_eq_none_iff ?_)
  · cases hc : w.relay.clientUdpAddr with
    | none => simp
    | some client =>
      constructor
      · intro h
        rw [SocketAddr.toMapped_injective (hl.client client hc) hs (Option.some.inj h)]
      · intro hx
        cases hx
        rfl
  · constructor
    · exact SocketAddr.ip_toMapped_injective hs hp
    · intro h
      show d.1.toMapped.ip = _
      rw [SocketAddr.ip_toMapped, SocketAddr.ip_toMapped, h]

/-- Both runs handle a datagram of the client, forward the same and stay in step. -/
theorem Lockstep.request (hp : peer.IsV4) (hs : d.1.IsV4) (hl : Lockstep w w')
    (hc : FromClient peer w.relay d.1)
    (hv : Ipv4Targets (relayUdpLoop peer (d.input :: inputs) w)) :
    ∃ w₁ w₁' evs evs', relayReceived peer d.1 d.packet w = .ok () w₁ ∧
      relayReceived peer.toMapped (mappedDatagram d).1 (mappedDatagram d).packet w' = .ok () w₁' ∧
      w₁.trace = w.trace ++ evs ∧ w₁'.trace = w'.trace ++ evs' ∧
      forwardOf evs' = forwardOf evs ∧ Lockstep w₁ w₁' := by
  have hc' := (fromClient_mapped hp hs hl).2 hc
  rcases relayReceived_request hc with ⟨hx, h⟩ | ⟨x, stats, hst, hx, h⟩
  · rcases relayReceived_request hc' with ⟨-, h'⟩ | ⟨x, -, -, hx', -⟩
    · exact ⟨_, _, _, _, h, h', rfl, rfl, rfl, hl.dropped d⟩
    · exact absurd hx' (hx x)
  · rcases relayReceived_request hc' with ⟨hx', -⟩ | ⟨x', stats', hst', hx', h'⟩
    · exact absurd hx (hx' x)
    cases hx.symm.trans hx'
    have hrecv : SameHistory (w.trace ++ [.udpRecv d.1 d.packet])
        (w'.trace ++ [.udpRecv (mappedDatagram d).1 (mappedDatagram d).packet]) :=
      hl.history.append (sameHistory_recv d.1 d.packet)
    have hv4 : ∀ target, .resolved x.destination (some target) ∈
        requestEvents w.env (w.trace ++ [.udpRecv d.1 d.packet]) w.relay x → target.IsV4 := by
      intro target hm
      rw [relayUdpLoop_cons h] at hv
      exact hv.so_far x.destination target (by simp [hm])
    have hevs := requestEvents_same hl.same hrecv hv4
    have hrelay := requestRelay_same w.relay d.1 x hl.same hrecv
    rw [← hl.relay] at hevs hrelay
    obtain ⟨o, -, hfo⟩ := forwardOf_request w.env (w.trace ++ [.udpRecv d.1 d.packet])
      w.relay x d.packet
    refine ⟨_, _, _, _, h, h', rfl, rfl, ?_, ?_⟩
    · rw [hevs]
      exact (hfo _ stats' hst').trans (hfo _ stats hst).symm
    · refine ⟨hl.same, hrelay, ?_, ?_, requestRelay_targets hl.targets hv4⟩
      · show SameHistory (w.trace ++ ([.udpRecv d.1 d.packet] ++ (_ ++ stats)))
          (w'.trace ++ ([.udpRecv (mappedDatagram d).1 (mappedDatagram d).packet] ++ (_ ++ stats')))
        rw [hevs]
        refine hl.history.append ((sameHistory_recv d.1 d.packet).append ?_)
        refine SameHistory.append ?_ (sameHistory_stats hst hst')
        exact sameHistory_refl fun e he => (requestEvents_no_recv _ _ _ _ e he).1
      · intro client hcl
        rw [requestRelay_client] at hcl
        cases hcl
        exact hs

/-- A datagram that is no reply is handled by both runs, which stay in step. -/
theorem Lockstep.round (hp : peer.IsV4) (hs : d.1.IsV4) (hl : Lockstep w w')
    (hn : ∀ client, ¬ IsReplyTo w.relay d.1 client)
    (hv : Ipv4Targets (relayUdpLoop peer (d.input :: inputs) w)) :
    ∃ w₁ w₁' evs evs', relayReceived peer d.1 d.packet w = .ok () w₁ ∧
      relayReceived peer.toMapped (mappedDatagram d).1 (mappedDatagram d).packet w' = .ok () w₁' ∧
      w₁.trace = w.trace ++ evs ∧ w₁'.trace = w'.trace ++ evs' ∧
      forwardOf evs' = forwardOf evs ∧ Lockstep w₁ w₁' := by
  rcases relayReceived_cases peer d.1 d.packet w with ⟨hc, -⟩ | ⟨client, hr, -⟩ | ⟨hc, -, h⟩
  · exact hl.request hp hs hc hv
  · exact absurd hr (hn client)
  · rcases relayReceived_cases peer.toMapped (mappedDatagram d).1 (mappedDatagram d).packet w' with
      ⟨hc', -⟩ | ⟨client, hr', -⟩ | ⟨-, -, h'⟩
    · exact absurd ((fromClient_mapped hp hs hl).1 hc') hc
    · have hm := hr'.2.2
      rw [hl.relay] at hm
      exact absurd (hl.targets _ hm) (SocketAddr.toMapped_not_v4 d.1)
    · exact ⟨_, _, _, _, h, h', rfl, rfl, rfl, hl.dropped d⟩

/-- Requests alone are not what begins with a reply. -/
theorem canonical_ne_of_reply {fs gs : List Forwarded} (hreq : ∀ f ∈ fs, f.isRequest = true)
    {source client : SocketAddr} {packet : Bytes} {ok : Bool} :
    fs.map Forwarded.canonical ≠ (Forwarded.reply source client packet ok :: gs).map Forwarded.canonical := by
  intro he
  cases fs with
  | nil => cases he
  | cons f fs =>
    have hf := hreq f (.head _)
    cases f with
    | request target payload ok => cases (List.cons_eq_cons.1 he).1
    | reply source client packet ok => cases hf

/-- **What both runs forward is the same up to the first reply**, which only one of
them forwards. -/
theorem forwardsFrom_same_iff (hp : peer.IsV4) : ∀ (inputs : List UdpInput) (w w' : World),
    Ipv4Sources inputs → Lockstep w w' → Ipv4Targets (relayUdpLoop peer inputs w) →
    Ipv4Targets (relayUdpLoop peer.toMapped (inputs.map mappedInput) w') →
    ((forwardsFrom peer.toMapped (inputs.map mappedInput) w').map Forwarded.canonical =
        (forwardsFrom peer inputs w).map Forwarded.canonical ↔
      AtEach (fun w₁ d => ∀ client, ¬ IsReplyTo w₁.relay d.1 client) peer inputs w) := by
  intro inputs
  induction inputs with
  | nil =>
    intro w w' hsrc hl hv hv'
    refine iff_of_true ?_ atEach_nil
    simp [forwardsFrom, relayUdpLoop, forwards]
  | cons input inputs ih =>
    intro w w' hsrc hl hv hv'
    have hsrc' : Ipv4Sources inputs := fun source packet hm => hsrc source packet (.tail _ hm)
    by_cases hd : ∃ d : Datagram, input = d.input
    · obtain ⟨d, rfl⟩ := hd
      have hs : d.1.IsV4 := hsrc d.1 d.2 (.head _)
      by_cases hn : ∀ client, ¬ IsReplyTo w.relay d.1 client
      · obtain ⟨w₁, w₁', evs, evs', h, h', ht, ht', hf, hl₁⟩ := hl.round hp hs hn hv
        rw [List.map_cons, mappedInput_input] at hv' ⊢
        rw [relayUdpLoop_cons h] at hv
        rw [relayUdpLoop_cons h'] at hv'
        rw [forwardsFrom_cons h ht, forwardsFrom_cons h' ht', hf, List.map_append, List.map_append,
          List.append_cancel_left_eq, atEach_cons h, and_iff_right hn]
        exact ih w₁ w₁' hsrc' hl₁ hv hv'
      · obtain ⟨client, hr⟩ := Classical.not_forall_not.1 hn
        obtain ⟨ok, rest, hf⟩ := forwardsFrom_reply peer inputs hr
        have hreq := forwardsFrom_mapped peer.toMapped (d.input :: inputs) w'
          (by rw [hl.relay]; exact hl.targets) hv'
        rw [hf]
        exact iff_of_false (canonical_ne_of_reply hreq) fun hno => hno.head client hr
    · have hne : ∀ d : Datagram, input ≠ d.input := fun d he => hd ⟨d, he⟩
      rw [List.map_cons, forwardsFrom_end hne, forwardsFrom_end (mappedInput_ne hne)]
      exact iff_of_true rfl (atEach_end hne)

end

/-! ## The bypass decision -/

/-- Whoever is reported so is exempted by an entry of its own family. -/
theorem ipAuthenticate_iff {L : Libs} (hf : L.FamiliesApart) (allowlist : List IpNet) (ip : IpAddr) :
    ipAuthenticate L allowlist ip = true ↔
      ∃ net ∈ allowlist, (net.addr.IsV4 ↔ ip.IsV4) ∧ L.ipNetContains net ip = true := by
  unfold ipAuthenticate
  rw [List.any_eq_true]
  exact exists_congr fun net => and_congr_right fun _ => ⟨fun h => ⟨hf net ip h, h⟩, fun h => h.2⟩

/-- **The proxy treats an IPv4 peer the same in both representations exactly if the
allowlist exempts it in both or in none, and no target answers it.** An entry
exempts the addresses of its own family only, so it takes a second one for a peer
to be exempt on a dual-stack listener; and there a reply never comes from a target,
which is an IPv4 address. -/
theorem dual_stack_same_iff {L : Libs} (hf : L.FamiliesApart) (allowlist : List IpNet)
    {peer : SocketAddr} (hp : peer.IsV4) {w w' : World} (ho : SameOutside w.env w'.env)
    (ht : SameHistory w.trace w'.trace) (hs : Ipv4Sources w.env.udpInputs)
    (hv : Ipv4Targets (relayUdp peer w)) (hv' : Ipv4Targets (relayUdp peer.toMapped w')) :
    (ipAuthenticate L allowlist peer.toMapped.ip = ipAuthenticate L allowlist peer.ip ∧
      forwardedBy peer.toMapped w' = forwardedBy peer w) ↔
    ((∃ net ∈ allowlist, net.addr.IsV4 ∧ L.ipNetContains net peer.ip = true) ↔
      ∃ net ∈ allowlist, ¬ net.addr.IsV4 ∧ L.ipNetContains net peer.toMapped.ip = true) ∧
    NoReplies peer w := by
  have hip : peer.ip.IsV4 := by
    cases peer with
    | v4 ip port => trivial
    | v6 ip port flowinfo scopeId => cases hp
  have hip' : ¬ peer.toMapped.ip.IsV4 := by
    cases peer <;> exact id
  refine and_congr ?_ ?_
  · rw [Bool.eq_iff_iff, ipAuthenticate_iff hf, ipAuthenticate_iff hf]
    simp only [hip, hip', iff_true, iff_false]
    exact iff_comm
  · have hl : Lockstep (associated w) (associated w') :=
      ⟨ho, rfl, ht, fun client h => (by cases h), fun target h => (by cases h)⟩
    have hiff := forwardsFrom_same_iff hp w.env.udpInputs (associated w) (associated w') hs hl hv
    rw [← ho.inputs] at hiff
    exact hiff hv'

/-! ## An exchange -/

/-- The networks that exempt the client. -/
def loopbackNets : List IpNet := [⟨ipv4 127 0 0 0, 8⟩]

/-- The client asks the target, which answers. -/
def exchange : List UdpInput := [question.input, Datagram.input (targetAddr, [33])]

theorem calm_same (inputs : List UdpInput) :
    SameOutside (.calm inputs []) (.calm (inputs.map mappedInput) []) :=
  ⟨rfl, fun _ _ _ => rfl, fun _ _ _ _ _ _ => rfl⟩

/-- What is resolved for the client is its target, whoever it is reported as. -/
theorem asked_targets {source : SocketAddr} {packet : Bytes} {t : Trace}
    (h : t = [.udpRecv source packet, .resolved (.fromSocketAddr targetAddr) (some targetAddr),
      .udpSend targetAddr [63] true, .stat (.addUdpBytesOut 1)]) :
    ∀ d target, .resolved d (some target) ∈ t → target.IsV4 := by
  intro d target hm
  rw [h] at hm
  simp only [List.mem_cons, List.not_mem_nil, or_false, reduceCtorEq, false_or, Ev.resolved.injEq,
    Option.some.injEq] at hm
  rw [hm.2]
  trivial

/-- Where no target answers, the exemption alone decides. -/
theorem dual_stack_same_iff_asked :
    (ipAuthenticate plainLibs loopbackNets clientPeer.toMapped.ip =
        ipAuthenticate plainLibs loopbackNets clientPeer.ip ∧
      forwardedBy clientPeer.toMapped (.accepted (.calm [mappedInput question.input] []) []) =
        forwardedBy clientPeer (.accepted (.calm [question.input] []) [])) ↔
    ((∃ net ∈ loopbackNets, net.addr.IsV4 ∧ plainLibs.ipNetContains net clientPeer.ip = true) ↔
      ∃ net ∈ loopbackNets, ¬ net.addr.IsV4 ∧
        plainLibs.ipNetContains net clientPeer.toMapped.ip = true) ∧
    NoReplies clientPeer (.accepted (.calm [question.input] []) []) := by
  refine dual_stack_same_iff plainLibs_familiesApart _ (show clientPeer.IsV4 from trivial)
    (calm_same [question.input]) rfl ?_ (asked_targets rfl) (asked_targets rfl)
  intro source packet hm
  cases List.mem_singleton.1 hm
  trivial

/-- The answer reaches the client on one of the listeners, and so does the exemption. -/
theorem dual_stack_answer_dropped :
    (ipAuthenticate plainLibs loopbackNets clientPeer.ip = true ∧
      ipAuthenticate plainLibs loopbackNets clientPeer.toMapped.ip = false) ∧
    SameOutside (.calm exchange []) (.calm (exchange.map mappedInput) []) ∧
    forwardedBy clientPeer (.accepted (.calm exchange []) []) =
      [.request targetAddr [63] true, .reply targetAddr clientAddr [33] true] ∧
    forwardedBy clientPeer.toMapped (.accepted (.calm (exchange.map mappedInput) []) []) =
      [.request targetAddr [63] true] :=
  ⟨by decide, calm_same exchange, rfl, rfl⟩

end TinySocks.L4.UdpAssociation
