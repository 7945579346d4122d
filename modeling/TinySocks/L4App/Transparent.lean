import TinySocks.L4App.Forward
import TinySocks.L4App.Server

/-!
# Byte-transparent tunnels

Where no write and no copy fails (`Faultless`), each relay path moves exactly
the bytes it should, however the client's bytes were split into reads:
`Tunnels up out` is what a run does to the two ends, `tunnels_transparent` the
result for whole connections.
-/
namespace TinySocks.L4

open TinySocks.Core TinySocks.L1 TinySocks.L2 TinySocks.L3

/-- An upstream connection was opened. -/
def Opened (t : Trace) : Prop := ∃ target, Ev.connect target true ∈ t

/-- It came to the copy loop. -/
def Relayed (t : Trace) : Prop := ∃ up down ok, Ev.copied up down ok ∈ t

/-- If it came to the copy loop between `w` and `w'`, the upstream received
exactly `up` and the client exactly `out`; and it did, if an upstream was opened. -/
def Tunnels (up out : Bytes) (w w' : World) : Prop :=
  ∃ evs, w'.trace = w.trace ++ evs ∧
    (Relayed evs → upReceived evs = up ∧ clientReceived evs = out) ∧
    (OutboundReady w.env → Opened evs → Relayed evs)

theorem clientReceived_protocol {evs : Trace} (h : ∀ e ∈ evs, e.isProtocol = true) :
    clientReceived evs = written evs := by
  induction evs with
  | nil => rfl
  | cons e evs ih =>
    have he := h e List.mem_cons_self
    have htail := ih fun e' hm => h e' (List.mem_cons_of_mem _ hm)
    rw [← List.singleton_append, clientReceived_append, written_append, htail]
    cases e <;> first | rfl | cases he

theorem not_opened {evs : Trace} (h : ∀ e ∈ evs, (!isTunnel e) = true) : ¬ Opened evs := by
  intro hx
  obtain ⟨target, hm⟩ := hx
  cases h _ hm

theorem not_relayed {evs : Trace} (h : ∀ e ∈ evs, (!isTunnel e) = true) : ¬ Relayed evs := by
  intro hx
  obtain ⟨up, down, ok, hm⟩ := hx
  cases h _ hm

theorem tunnels_of_apart {up out : Bytes} {w w' : World} (h : Apart w w') : Tunnels up out w w' := by
  obtain ⟨-, evs, ht, hev⟩ := h
  exact ⟨evs, ht, fun hr => absurd hr (not_relayed hev), fun _ ho => absurd ho (not_opened hev)⟩

/-- What the client was told before belongs to what it received. -/
theorem Advance.tunnels {c reply up out : Bytes} {w w' w'' : World} (h : Advance c reply w w')
    (h' : Tunnels up out w' w'') : Tunnels up (reply ++ out) w w'' := by
  obtain ⟨he, -, evs, ht, hev, hw, -⟩ := h
  obtain ⟨evs', ht', hrun, hopen⟩ := h'
  have hapart : ∀ e ∈ evs, (!isTunnel e) = true := fun e hm => isProtocol_apart (hev e hm)
  refine ⟨evs ++ evs', by rw [ht', ht, List.append_assoc], ?_, ?_⟩
  · intro hx
    obtain ⟨u, d, ok, hm⟩ := hx
    rcases List.mem_append.1 hm with hm | hm
    · exact absurd ⟨u, d, ok, hm⟩ (not_relayed hapart)
    · obtain ⟨hup, hout⟩ := hrun ⟨u, d, ok, hm⟩
      rw [upReceived_append, clientReceived_append, hup, hout, clientReceived_protocol hev, hw,
        Http.upReceived_apart hapart]
      exact ⟨rfl, rfl⟩
  · intro hready hx
    obtain ⟨target, hm⟩ := hx
    rcases List.mem_append.1 hm with hm | hm
    · exact absurd ⟨target, hm⟩ (not_opened hapart)
    · obtain ⟨u, d, ok, hm⟩ := hopen (he.symm ▸ hready) ⟨target, hm⟩
      exact ⟨u, d, ok, List.mem_append_right _ hm⟩

/-! ## Without failing -/

/-- Between `w` and `w'` the upstream received `up` and the client `out`. -/
def Moved (up out : Bytes) (w w' : World) : Prop :=
  w'.env = w.env ∧ ∃ evs, w'.trace = w.trace ++ evs ∧ upReceived evs = up ∧ clientReceived evs = out

theorem Moved.trans {up up' out out' : Bytes} {w w' w'' : World} (h : Moved up out w w')
    (h' : Moved up' out' w' w'') : Moved (up ++ up') (out ++ out') w w'' := by
  obtain ⟨he, evs, ht, hu, ho⟩ := h
  obtain ⟨he', evs', ht', hu', ho'⟩ := h'
  refine ⟨he'.trans he, evs ++ evs', by rw [ht', ht, List.append_assoc], ?_, ?_⟩
  · rw [upReceived_append, hu, hu']
  · rw [clientReceived_append, ho, ho']

theorem moved_event {e : Ev} {up out : Bytes} (hu : upReceived [e] = up) (ho : clientReceived [e] = out)
    (w : World) : Moved up out w { w with trace := w.trace ++ [e] } := ⟨rfl, [e], rfl, hu, ho⟩

/-- Without faults, `m` succeeds, moves `up` and `out`, and reads nothing. -/
def Passes (down : Bytes) (m : M Unit) (up out : Bytes) : Prop :=
  ∀ w, Faultless w.env down → ∃ w', m w = .ok () w' ∧ Moved up out w w' ∧ w'.stream = w.stream

/-- The same, and it came to the copy loop. -/
def MovedAll (up out : Bytes) (w w' : World) : Prop :=
  ∃ evs, w'.trace = w.trace ++ evs ∧ upReceived evs = up ∧ clientReceived evs = out ∧ Relayed evs

/-- Without faults, `m` succeeds and moves everything the client has still to send. -/
def Relays (down : Bytes) (m : M Unit) (up out : Bytes) : Prop :=
  ∀ w, Faultless w.env down → ∃ w', m w = .ok () w' ∧ MovedAll (up ++ w.stream.unread) (out ++ down) w w'

theorem Moved.all {up up' out out' : Bytes} {w w' w'' : World} (h : Moved up out w w')
    (h' : MovedAll up' out' w' w'') : MovedAll (up ++ up') (out ++ out') w w'' := by
  obtain ⟨-, evs, ht, hu, ho⟩ := h
  obtain ⟨evs', ht', hu', ho', u, d, ok, hm⟩ := h'
  refine ⟨evs ++ evs', by rw [ht', ht, List.append_assoc], ?_, ?_, u, d, ok, List.mem_append_right _ hm⟩
  · rw [upReceived_append, hu, hu']
  · rw [clientReceived_append, ho, ho']

section
variable {down up up' out out' : Bytes} {m n : M Unit}

theorem Passes.seq (hm : Passes down m up out) (hn : Passes down n up' out') :
    Passes down (m >>= fun _ => n) (up ++ up') (out ++ out') := by
  intro w hf
  obtain ⟨w₁, h₁, hm₁, hs₁⟩ := hm w hf
  obtain ⟨w₂, h₂, hm₂, hs₂⟩ := hn w₁ (hm₁.1 ▸ hf)
  exact ⟨w₂, (bind_of_ok h₁).trans h₂, hm₁.trans hm₂, hs₂.trans hs₁⟩

theorem Passes.relays (hm : Passes down m up out) (hn : Relays down n up' out') :
    Relays down (m >>= fun _ => n) (up ++ up') (out ++ out') := by
  intro w hf
  obtain ⟨w₁, h₁, hm₁, hs₁⟩ := hm w hf
  obtain ⟨w₂, h₂, hm₂⟩ := hn w₁ (hm₁.1 ▸ hf)
  refine ⟨w₂, (bind_of_ok h₁).trans h₂, ?_⟩
  rw [hs₁] at hm₂
  simpa using hm₁.all hm₂

theorem passes_pure : Passes down (pure ()) [] [] :=
  fun w _ => ⟨w, rfl, ⟨rfl, [], by simp, rfl, rfl⟩, rfl⟩

theorem passes_stat (op : StatOp) : Passes down (stat op) [] [] :=
  fun w _ => ⟨_, rfl, moved_event (e := .stat op) rfl rfl w, rfl⟩

theorem passes_write (b : Bytes) (action : Str) : Passes down (writeAllWithTimeout b action) [] b :=
  fun w hf => ⟨_, writeAllWithTimeout_eq hf b action,
    moved_event (e := .write b) rfl (by simp [clientReceived]) w, rfl⟩

theorem passes_upWrite (b : Bytes) (action : Str) : Passes down (upWriteAllWithTimeout b action) b [] :=
  fun w hf => ⟨_, upWriteAllWithTimeout_eq hf b action,
    moved_event (e := .upWrite b) (by simp [upReceived]) rfl w, rfl⟩

theorem passes_upFlush (action : Str) : Passes down (upFlushWithTimeout action) [] [] :=
  fun w hf => ⟨w, upFlushWithTimeout_eq hf action, ⟨rfl, [], by simp, rfl, rfl⟩, rfl⟩

/-- The copy loop and its count, at the end of every relay. -/
theorem relays_copy (message text : Str) :
    Relays down (reported message .incRelayFailures text copyBidirectional >>= fun r =>
      stat (.addTcpBytes r.1 r.2)) [] [] := by
  intro w hf
  refine ⟨_, (bind_of_ok (reported_ok.2 (copyBidirectional_eq hf))).trans rfl,
    [.copied w.stream.unread down true, .stat (.addTcpBytes w.stream.unread.length down.length)],
    ?_, ?_, ?_, w.stream.unread, down, true, List.mem_cons_self⟩
  · simp
  · simp [upReceived]
  · simp [clientReceived]

end

/-! ## The three relay paths -/

section
variable {w : World} {down : Bytes}

/-- A handler that opens its upstream: what it moves from there on is what the
run moves, unless the opened connection cannot be used; if the upstream
refuses, the run is over. -/
theorem tunnels_connect {message text target : Str} {up out : Bytes} {k : Unit → M Unit} {v : World}
    (hw : v = { w with trace := w.trace ++ [.connect target true] })
    (hk : MovedAll up out v (finalState (k () v)) ∨
      ¬ OutboundReady w.env ∧ Apart v (finalState (k () v))) :
    Tunnels up out w
      (finalState ((reported message .incConnectFailures text (tcpConnect target) >>= k) w)) := by
  cases hc : w.env.connect w.trace target with
  | none =>
    rw [bind_of_ok (reported_ok.2 (tcpConnect_eq hc)), ← hw]
    rcases hk with ⟨evs, ht, hup, hout, u, d, ok, hm⟩ | ⟨hready, -, evs, ht, hev⟩
    · refine ⟨.connect target true :: evs, by rw [ht, hw]; simp, fun _ => ?_,
        fun _ _ => ⟨u, d, ok, List.mem_cons_of_mem _ hm⟩⟩
      rw [← List.singleton_append, upReceived_append, clientReceived_append, hup, hout]
      exact ⟨rfl, rfl⟩
    · refine ⟨.connect target true :: evs, by rw [ht, hw]; simp, ?_, fun h => absurd h hready⟩
      intro hx
      obtain ⟨u, d, ok, hm⟩ := hx
      rcases List.mem_cons.1 hm with hm | hm
      · cases hm
      · exact absurd ⟨u, d, ok, hm⟩ (not_relayed hev)
  | some err =>
    rw [bind_eq_error.2 (.inl (reported_error (tcpConnect_error hc)))]
    refine ⟨[.connect target false, .stat .incConnectFailures, .stat (.recordError (text ++ err))],
      by simp, ?_, ?_⟩
    · intro hx
      obtain ⟨u, d, ok, hm⟩ := hx
      simp at hm
    · intro _ hx
      obtain ⟨target', hm⟩ := hx
      simp at hm

theorem tunnels_relays (hf : Faultless w.env down) {message text target : Str} {up out : Bytes}
    {n : M Unit} (hn : Relays down n up out) :
    Tunnels (up ++ w.stream.unread) (out ++ down) w (finalState
      ((reported message .incConnectFailures text (tcpConnect target) >>= fun _ => n) w)) := by
  obtain ⟨w', h, hm⟩ := hn { w with trace := w.trace ++ [.connect target true] } hf
  exact tunnels_connect rfl (.inl (by rw [h]; exact hm))

/-- The bytes behind the SOCKS request go up, the reply and `down` to the client. -/
theorem socks_tunnels (hf : Faultless w.env down) (addr : Address) (peer : SocketAddr) :
    ∃ bound, Tunnels w.stream.unread
      ([SOCKS_VERSION, 0x00, 0x00] ++ (Address.fromSocketAddr bound).wire ++ down) w
      (finalState (Handler.handleConnect addr peer w)) := by
  let w₁ : World := { w with trace := w.trace ++ [.connect addr.toTargetString true] }
  cases hn : w₁.env.outboundSetNodelay w₁.trace with
  | some message =>
    refine ⟨peer, tunnels_connect (v := w₁) rfl (.inr ⟨fun h => ?_, ?_⟩)⟩
    · rw [h.setNodelay] at hn
      cases hn
    · rw [bind_eq_error.2 (.inl (context_error message (failing_error hn)))]
      exact apart_frame.refl w₁
  | none =>
    have h₁ : context "Failed to disable Nagle on outbound stream" (failing Env.outboundSetNodelay) w₁ =
        .ok () w₁ := context_ok.2 (failing_eq hn)
    cases hb : w₁.env.outboundLocalAddr w₁.trace with
    | error message =>
      refine ⟨peer, tunnels_connect (v := w₁) rfl (.inr ⟨fun h => ?_, ?_⟩)⟩
      · obtain ⟨a, ha⟩ := h.localAddr w₁.trace
        rw [ha] at hb
        cases hb
      · rw [bind_of_ok h₁, bind_of_ok (ask_apply _ w₁), hb]
        exact apart_frame.refl w₁
    | ok bound =>
      have hreply : Passes down (sendReply 0x00 (.fromSocketAddr bound)) []
          ([SOCKS_VERSION, 0x00, 0x00] ++ (Address.fromSocketAddr bound).wire) := by
        rw [sendReply_eq _ (fromSocketAddr_encodable bound)]
        exact passes_write _ _
      obtain ⟨w', h, hm⟩ := (hreply.relays (relays_copy "Failed to proxy traffic" ("SOCKS TCP relay " ++
        addr.toTargetString ++ " failed from " ++ peer.toStr ++ ": "))) w₁ hf
      have h₂ : liftResult (w₁.env.outboundLocalAddr w₁.trace) w₁ = .ok bound w₁ := by
        rw [hb]
        rfl
      refine ⟨bound, tunnels_connect (v := w₁) rfl (.inl ?_)⟩
      rw [bind_of_ok h₁, bind_of_ok (ask_apply _ w₁), bind_of_ok h₂]
      simp only [List.append_nil] at hm
      obtain ⟨evs, hevs, hu, ho, hrel⟩ := hm
      exact ⟨evs, (congrArg (fun r => (finalState r).trace) h).trans hevs, hu, ho, hrel⟩

theorem passes_preWrite (bodyStart : Bytes) : Passes down (Http.preWrite bodyStart) bodyStart [] := by
  unfold Http.preWrite
  split
  · simpa using (passes_upWrite bodyStart "HTTP CONNECT upstream pre-write").seq
      (passes_stat (.addTcpBytes bodyStart.length 0))
  · rename_i h
    rw [Decidable.not_not.1 h]
    exact passes_pure

theorem passes_writeBody (bodyStart : Bytes) : Passes down (Http.writeBody bodyStart) bodyStart [] := by
  unfold Http.writeBody
  split
  · exact passes_upWrite _ _
  · rename_i h
    rw [Decidable.not_not.1 h]
    exact passes_pure

variable {L : Libs} {req : HttpRequest} {peer : SocketAddr}

/-- The bytes behind the head go up, the 200 line and `down` to the client. -/
theorem connect_tunnels (hf : Faultless w.env down) :
    Tunnels (req.bodyStart ++ w.stream.unread) (Utf8.encode Http.connectionEstablished ++ down) w
      (finalState (Http.handleConnect L req peer w)) := by
  unfold Http.handleConnect
  cases ht : parseConnectTarget L req.target with
  | error message => exact tunnels_of_apart (apart_frame.refl w)
  | ok t =>
    have hr : Relays down (do
        writeAllWithTimeout (Utf8.encode Http.connectionEstablished) "HTTP CONNECT response write"
        Http.preWrite req.bodyStart
        Http.relay "CONNECT" (formatTargetEndpoint t.1 t.2) peer) _ _ :=
      (passes_write _ _).relays ((passes_preWrite _).relays (relays_copy _ _))
    simp only [List.append_nil, List.nil_append] at hr
    exact tunnels_relays hf hr

/-- The rewritten head and the bytes behind the client's head go up, `down` to the client. -/
theorem forward_tunnels (hf : Faultless w.env down) {via host path : Str} {port : UInt16} :
    Tunnels (Utf8.encode (Http.forwardHead req host port path via).print ++ req.bodyStart ++ w.stream.unread)
      down w (finalState (Http.forwardTo req peer via host port path w)) := by
  have hr : Relays down (do
      upWriteAllWithTimeout (Utf8.encode (Http.forwardHead req host port path via).print)
        "HTTP upstream request write"
      Http.writeBody req.bodyStart
      upFlushWithTimeout "HTTP upstream flush"
      stat (.addTcpBytes
        ((Utf8.encode (Http.forwardHead req host port path via).print).length + req.bodyStart.length) 0)
      Http.relay "forward" (formatTargetEndpoint host port) peer) _ _ :=
    (passes_upWrite _ _).relays ((passes_writeBody _).relays ((passes_upFlush _).relays
      ((passes_stat _).relays (relays_copy _ _))))
  simp only [List.append_nil] at hr
  exact tunnels_relays hf hr

end

/-! ## Whole connections -/

section
variable {L : Libs} {bypassAuth : Bool} {auth : AuthConfig} {inp down : Bytes} {t : Trace}

/-- SOCKS5 CONNECT: what is behind the request goes up; the negotiation, one
success reply and `down` to the client. -/
def SocksRelay (bypassAuth : Bool) (auth : AuthConfig) (inp down : Bytes) (t : Trace) : Prop :=
  ∃ addr wire rest bound, inp = wire ++ rest ∧ SocksPrefix bypassAuth auth (.connect addr) wire ∧
    upReceived t = rest ∧ clientReceived t = socksReply bypassAuth ++
      ([SOCKS_VERSION, 0x00, 0x00] ++ (Address.fromSocketAddr bound).wire) ++ down

/-- HTTP CONNECT: what is behind the head goes up; the 200 line and `down` to
the client. -/
def ConnectRelay (L : Libs) (inp down : Bytes) (t : Trace) : Prop :=
  ∃ req headerEnd, ClientHead L inp req headerEnd ∧ eqIgnoreAsciiCase req.method "CONNECT" = true ∧
    upReceived t = inp.drop headerEnd ∧
    clientReceived t = Utf8.encode Http.connectionEstablished ++ down

/-- HTTP forwarding: the rewritten head and what is behind the client's go up,
`down` to the client. -/
def ForwardRelay (L : Libs) (via : Str) (inp down : Bytes) (t : Trace) : Prop :=
  ∃ req headerEnd host port path, ClientHead L inp req headerEnd ∧
    eqIgnoreAsciiCase req.method "CONNECT" = false ∧ Http.target L req = .ok (host, port, path) ∧
    upReceived t = Utf8.encode (Http.forwardHead req host port path via).print ++ inp.drop headerEnd ∧
    clientReceived t = down

/-- What holds of a connection's trace `t`: it is as `P` says if it came to the
copy loop, and it came to it if an upstream was opened. -/
def Outcome (P : Trace → Prop) (env : Env) (t : Trace) : Prop :=
  (Relayed t → P t) ∧ (OutboundReady env → Opened t → Relayed t)

variable {P : Trace → Prop} {env : Env} {w : World}

theorem outcome_of_apart (h : Apart (.accepted env inp) w) : Outcome P env w.trace := by
  obtain ⟨-, evs, ht, hev⟩ := h
  rw [show w.trace = evs from ht]
  exact ⟨fun hr => absurd hr (not_relayed hev), fun _ ho => absurd ho (not_opened hev)⟩

theorem Tunnels.outcome {up out : Bytes} (h : Tunnels up out (.accepted env inp) w)
    (hP : upReceived w.trace = up → clientReceived w.trace = out → P w.trace) :
    Outcome P env w.trace := by
  obtain ⟨evs, ht, hrun, hopen⟩ := h
  have he : w.trace = evs := ht
  rw [he] at hP ⊢
  exact ⟨fun hr => hP (hrun hr).1 (hrun hr).2, hopen⟩

/-- The HTTP side of a connection. -/
theorem http_outcome (hs : L.HeadStable) (bypassAuth : Bool) (auth : AuthConfig) (statsEnabled : Bool)
    (listener : HttpListener) (peer : SocketAddr) (hf : Faultless env down)
    (ha : Advance [] [] (.accepted env inp) w) :
    Outcome (fun t => ConnectRelay L inp down t ∨ ForwardRelay L listener.via inp down t) env
      (finalState (Http.handleHttpProxy L bypassAuth auth statsEnabled listener peer w)).trace := by
  unfold Http.handleHttpProxy
  cases hr : readHttpRequest L w with
  | error e w' =>
    have hq := keeps_readHttpRequest L w
    rw [hr] at hq
    rw [bind_eq_error.2 (.inl hr)]
    exact outcome_of_apart (apart_frame.trans (Advance.apart ha) (apart_of_aside (aside_of_quiet hq)))
  | ok req w' =>
    rw [bind_of_ok hr]
    obtain ⟨buf, n, parsed, ha', hread⟩ := readHttpRequest_ok hr
    have hall := ha.trans ha'
    have hf' : Faultless w'.env down := hall.env ▸ hf
    have hinp : inp = buf ++ w'.stream.unread := hall.unread
    obtain ⟨hhead, hbody⟩ := hread.stream hs w'.stream.unread
    rw [← hinp] at hhead hbody
    rcases Http.serveRequest_cases (L := L) bypassAuth auth statsEnabled listener peer req w' with
      h | ⟨-, h⟩
    · exact outcome_of_apart (apart_frame.trans (Advance.apart hall) (apart_of_aside h))
    rw [h]
    cases hm : eqIgnoreAsciiCase req.method "CONNECT" with
    | true =>
      refine (Advance.tunnels hall (connect_tunnels hf')).outcome fun hup hout => .inl ?_
      exact ⟨req, n, hhead, hm, by rw [hup, hbody], hout⟩
    | false =>
      cases ht : Http.target L req with
      | error message =>
        simp only [Bool.false_eq_true, if_false]
        rw [Http.handleForward_error ht]
        exact outcome_of_apart (Advance.apart hall)
      | ok r =>
        obtain ⟨host, port, path⟩ := r
        simp only [Bool.false_eq_true, if_false]
        rw [Http.handleForward_ok ht]
        refine (Advance.tunnels hall (forward_tunnels hf')).outcome fun hup hout => .inr ?_
        exact ⟨req, n, host, port, path, hhead, hm, ht, by rw [hup, hbody, List.append_assoc], hout⟩

/-- The SOCKS5 side of a connection. -/
theorem socks_outcome (hct : L.CtEqExact) {peer : SocketAddr} (hf : Faultless env down)
    (ha : Advance [] [] (.accepted env inp) w) :
    Outcome (SocksRelay bypassAuth auth inp down) env (finalState
      ((socksCommand L bypassAuth auth peer >>= fun cmd => runCommand cmd peer) w)).trace := by
  cases hs : socksCommand L bypassAuth auth peer w with
  | error e w' =>
    have hq := keeps_socksCommand L bypassAuth auth peer w
    rw [hs] at hq
    rw [bind_eq_error.2 (.inl hs)]
    exact outcome_of_apart (apart_frame.trans (Advance.apart ha) (apart_of_aside (aside_of_quiet hq)))
  | ok cmd w' =>
    rw [bind_of_ok hs]
    obtain ⟨wire, ha', hpre⟩ := socksCommand_ok hct hs
    have hall := ha.trans ha'
    have hf' : Faultless w'.env down := hall.env ▸ hf
    cases cmd with
    | connect addr =>
      obtain ⟨bound, htun⟩ := socks_tunnels hf' addr peer
      refine (Advance.tunnels hall htun).outcome fun hup hout => ?_
      exact ⟨addr, wire, w'.stream.unread, bound, hall.unread, hpre, hup, hout.trans (by simp)⟩
    | udpAssociate addr =>
      refine outcome_of_apart (apart_frame.trans (Advance.apart hall) (apart_of_aside ?_))
      refine Keeps.bind aside_frame (keeps_ask aside_frame _) (fun _ => ?_) w'
      exact Keeps.bind aside_frame (keeps_liftResult aside_frame _) fun _ =>
        Handler.keeps_handleUdpAssociate _ _

/-- **Tunnels are byte-transparent**: a connection that comes to its copy loop
is one of the three relay paths, and it comes to it once its upstream is opened. -/
theorem tunnels_transparent (hct : L.CtEqExact) (hs : L.HeadStable) (auth : AuthConfig)
    (statsEnabled : Bool) (listener : HttpListener) (peer : SocketAddr) (hf : Faultless env down)
    (inp : Bytes)
    (ht : t = (finalState (serveConnection L auth statsEnabled listener peer (.accepted env inp))).trace) :
    (Relayed t → SocksRelay (ipAuthenticate L auth.bypassIps peer.ip) auth inp down t ∨
      ConnectRelay L inp down t ∨ ForwardRelay L listener.via inp down t) ∧
    (OutboundReady env → Opened t → Relayed t) := by
  subst ht
  change Outcome (fun t => SocksRelay (ipAuthenticate L auth.bypassIps peer.ip) auth inp down t ∨
    ConnectRelay L inp down t ∨ ForwardRelay L listener.via inp down t) env _
  unfold serveConnection
  rcases classify_cases (w := .accepted env inp) rfl with ⟨w, hc, ha⟩ | ⟨e, w, hc, hq⟩
  · rw [bind_of_ok hc]
    match protocolOf (World.accepted env inp).stream.unread with
    | none => exact outcome_of_apart (Advance.apart ha)
    | some .socks5 =>
      obtain ⟨hrel, hopen⟩ := socks_outcome hct hf ha
      exact ⟨fun hr => .inl (hrel hr), hopen⟩
    | some .http =>
      obtain ⟨hrel, hopen⟩ := http_outcome hs _ auth statsEnabled listener peer hf ha
      exact ⟨fun hr => .inr (hrel hr), hopen⟩
  · rw [bind_eq_error.2 (.inl hc)]
    exact outcome_of_apart (apart_of_aside (aside_of_quiet hq))

/-- An exempt client's `CONNECT`, with its first bytes right behind the head. -/
theorem tunnels_transparent_connect :
    let auth : AuthConfig := ⟨none, none, [⟨.v4 ⟨[10, 0, 0, 0], rfl⟩, 8⟩]⟩
    let inp := Utf8.encode "CONNECT h:443 HTTP/1.1\r\n\r\nhello"
    let down := Utf8.encode "world"
    let t := (finalState (serveConnection plainLibs auth true ⟨1080, "v".toList⟩
      (.new (.v4 ⟨[10, 0, 0, 1], rfl⟩) 5000) (.accepted (.calm [] down) inp))).trace
    SocksRelay true auth inp down t ∨ ConnectRelay plainLibs inp down t ∨
      ForwardRelay plainLibs "v" inp down t := by
  intro auth inp down t
  have hrel : Relayed t := (tunnels_transparent plainLibs_ctEqExact plainLibs_headStable auth true _ _
    (calm_faultless [] down) inp rfl).2 (calm_outboundReady [] down) ⟨"h:443".toList, by decide⟩
  exact (tunnels_transparent plainLibs_ctEqExact plainLibs_headStable auth true _ _
    (calm_faultless [] down) inp rfl).1 hrel

end

end TinySocks.L4
