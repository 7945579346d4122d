import TinySocks.L4App.Transparent

/-!
# What a connection delivers upstream

The tunnels of `Transparent` fail nowhere. Here every operation may fail, and the copy
loop may stop anywhere. `Puts b m` says what a program sends or fails to send, `Delivers`
that the client's further bytes follow it; both compose along `>>=`.

* `deliveries_in_order`: at every moment, one upstream at most was tried, the one the
  client named, and it received a beginning of the bytes it should.
-/
namespace TinySocks.L4

open TinySocks.Core TinySocks.L1 TinySocks.L2 TinySocks.L3

/-- `copy_bidirectional`: what it moves up are the client's next bytes, in order. -/
def CopiesInOrder (env : Env) : Prop := ∀ t rest, (env.copy t rest).up <+: rest

/-- No other upstream was tried. -/
def Only (endpoint : Str) (t : Trace) : Prop := ∀ target ok, .connect target ok ∈ t → target = endpoint

theorem only_apart {endpoint : Str} {t : Trace} (h : ∀ e ∈ t, (!isTunnel e) = true) : Only endpoint t := by
  intro target ok hm
  cases h _ hm

theorem Only.append {endpoint : Str} {s t : Trace} (hs : Only endpoint s) (ht : Only endpoint t) :
    Only endpoint (s ++ t) := by
  intro target ok hm
  rcases List.mem_append.1 hm with hm | hm
  · exact hs target ok hm
  · exact ht target ok hm

/-- Between `w` and `w'`, this upstream received a beginning of `b`. -/
def Carries (endpoint : Str) (b : Bytes) (w w' : World) : Prop :=
  ∃ evs, w'.trace = w.trace ++ evs ∧ upReceived evs <+: b ∧ Only endpoint evs

/-- It received all of `b`, and nothing was read meanwhile. -/
def Carried (endpoint : Str) (b : Bytes) (w w' : World) : Prop :=
  w'.env = w.env ∧ w'.stream = w.stream ∧
    ∃ evs, w'.trace = w.trace ++ evs ∧ upReceived evs = b ∧ Only endpoint evs

/-- `m` sends `b`, or fails on the way. -/
def Puts {α : Type} (endpoint : Str) (b : Bytes) (m : M α) : Prop := ∀ w,
  (∃ a w', m w = .ok a w' ∧ Carried endpoint b w w') ∨ ∃ e w', m w = .error e w' ∧ Carries endpoint b w w'

/-- `m` sends a beginning of `b` and of what the client has still to send. -/
def Delivers (endpoint : Str) (b : Bytes) (m : M Unit) : Prop := ∀ w, CopiesInOrder w.env →
  Carries endpoint (b ++ w.stream.unread) w (finalState (m w))

section
variable {α : Type} {endpoint : Str} {b c : Bytes} {w w' w'' : World}

theorem Carried.carries (h : Carried endpoint b w w') (h' : Carries endpoint c w' w'') :
    Carries endpoint (b ++ c) w w'' := by
  obtain ⟨-, -, evs, ht, hb, ho⟩ := h
  obtain ⟨evs', ht', hc, ho'⟩ := h'
  refine ⟨evs ++ evs', by rw [ht', ht, List.append_assoc], ?_, ho.append ho'⟩
  rw [upReceived_append, hb]
  exact (List.prefix_append_right_inj b).2 hc

theorem Carries.mono (h : Carries endpoint b w w') (hbc : b <+: c) : Carries endpoint c w w' := by
  obtain ⟨evs, ht, hb, ho⟩ := h
  exact ⟨evs, ht, hb.trans hbc, ho⟩

theorem carried_events (evs : Trace) (hb : upReceived evs = b) (ho : Only endpoint evs) (w : World) :
    Carried endpoint b w { w with trace := w.trace ++ evs } := ⟨rfl, rfl, evs, rfl, hb, ho⟩

theorem carries_events (evs : Trace) (hb : upReceived evs <+: b) (ho : Only endpoint evs) (w : World) :
    Carries endpoint b w { w with trace := w.trace ++ evs } := ⟨evs, rfl, hb, ho⟩

/-! ## Programs -/

theorem Puts.delivers {m : M α} {k : α → M Unit} (hm : Puts endpoint b m)
    (hk : ∀ a, Delivers endpoint c (k a)) : Delivers endpoint (b ++ c) (m >>= k) := by
  intro w hw
  rcases hm w with ⟨a, w', h, hc⟩ | ⟨e, w', h, hc⟩
  · have hk' := hk a w' (hc.1 ▸ hw)
    rw [hc.2.1] at hk'
    rw [bind_of_ok h, List.append_assoc]
    exact hc.carries hk'
  · rw [bind_eq_error.2 (.inl h)]
    exact hc.mono (by simp)

theorem Carried.trans (h : Carried endpoint b w w') (h' : Carried endpoint c w' w'') :
    Carried endpoint (b ++ c) w w'' := by
  obtain ⟨he, hs, evs, ht, hb, ho⟩ := h
  obtain ⟨he', hs', evs', ht', hc, ho'⟩ := h'
  refine ⟨he'.trans he, hs'.trans hs, evs ++ evs', by rw [ht', ht, List.append_assoc], ?_, ho.append ho'⟩
  rw [upReceived_append, hb, hc]

theorem Puts.seq {m : M α} {k : α → M Unit} (hm : Puts endpoint b m) (hk : ∀ a, Puts endpoint c (k a)) :
    Puts endpoint (b ++ c) (m >>= k) := by
  intro w
  rcases hm w with ⟨a, w', h, hc⟩ | ⟨e, w', h, hc⟩
  · rw [bind_of_ok h]
    rcases hk a w' with ⟨a', w'', h', hc'⟩ | ⟨e, w'', h', hc'⟩
    · exact .inl ⟨a', w'', h', hc.trans hc'⟩
    · exact .inr ⟨e, w'', h', hc.carries hc'⟩
  · exact .inr ⟨e, w', bind_eq_error.2 (.inl h), hc.mono (List.prefix_append b c)⟩

theorem puts_pure (a : α) : Puts endpoint [] (pure a : M α) :=
  fun w => .inl ⟨a, w, rfl, rfl, rfl, [], by simp, rfl, only_apart (by simp)⟩

theorem puts_stat (op : StatOp) : Puts endpoint [] (stat op) :=
  fun w => .inl ⟨(), _, rfl, carried_events [.stat op] rfl (only_apart (by simp [isTunnel])) w⟩

theorem puts_connect (message text endpoint : Str) :
    Puts endpoint [] (reported message .incConnectFailures text (tcpConnect endpoint)) := by
  intro w
  cases hc : w.env.connect w.trace endpoint with
  | none =>
    refine .inl ⟨(), _, reported_ok.2 (tcpConnect_eq hc), ?_⟩
    exact carried_events [.connect endpoint true] rfl (by simp [Only]) w
  | some err =>
    refine .inr ⟨_, _, reported_error (tcpConnect_error hc), ?_⟩
    refine ⟨_, List.append_assoc _ _ _, ?_, ?_⟩
    · simp [upReceived]
    · simp [Only]

theorem puts_upWrite (b : Bytes) (action : Str) : Puts endpoint b (upWriteAllWithTimeout b action) := by
  intro w
  have hw : upWriteAllWithTimeout b action w =
      EStateM.adaptExcept (Fault.toStop action) (upWriteAll b) w := rfl
  rw [hw]
  unfold EStateM.adaptExcept upWriteAll
  rw [writeAllBy_apply]
  cases w.env.upWriteFault w.trace b with
  | none =>
    exact .inl ⟨(), _, rfl, carried_events [.upWrite b] (by simp [upReceived])
      (by simp [Only]) w⟩
  | some p =>
    refine .inr ⟨_, _, rfl, carries_events [.upWrite (b.take p.1)] ?_ (by simp [Only]) w⟩
    simpa [upReceived] using List.take_prefix p.1 b

theorem puts_upFlush (action : Str) : Puts endpoint [] (upFlushWithTimeout action) := by
  intro w
  have hw : upFlushWithTimeout action w = EStateM.adaptExcept (Fault.toStop action) upFlush w := rfl
  rw [hw]
  unfold EStateM.adaptExcept upFlush
  rw [bind_apply, ask_apply]
  cases w.env.upFlushFault w.trace with
  | none => exact .inl ⟨(), w, rfl, rfl, rfl, [], by simp, rfl, by simp [Only]⟩
  | some f => exact .inr ⟨_, w, rfl, [], by simp, List.nil_prefix, by simp [Only]⟩

theorem puts_writeBody (bodyStart : Bytes) : Puts endpoint bodyStart (Http.writeBody bodyStart) := by
  unfold Http.writeBody
  split
  · exact puts_upWrite _ _
  · rename_i h
    rw [Decidable.not_not.1 h]
    exact puts_pure ()

/-- The copy loop and its count, at the end of every relay. -/
theorem delivers_copy (message text : Str) :
    Delivers endpoint [] (reported message .incRelayFailures text copyBidirectional >>= fun r =>
      stat (.addTcpBytes r.1 r.2)) := by
  intro w hw
  have hup := hw w.trace w.stream.unread
  cases he : (w.env.copy w.trace w.stream.unread).error with
  | none =>
    have hc : copyBidirectional w = .ok ((w.env.copy w.trace w.stream.unread).up.length,
        (w.env.copy w.trace w.stream.unread).down.length) { w with
          stream := .new (w.stream.unread.drop (w.env.copy w.trace w.stream.unread).up.length) []
          trace := w.trace ++ [.copied (w.env.copy w.trace w.stream.unread).up
            (w.env.copy w.trace w.stream.unread).down true] } := by
      simp [copyBidirectional, he]
    rw [bind_of_ok (reported_ok.2 hc)]
    refine ⟨_, List.append_assoc _ _ _, ?_, by simp [Only]⟩
    simpa [upReceived] using hup
  | some err =>
    have hc : copyBidirectional w = .error (.failed err) { w with
        stream := .new (w.stream.unread.drop (w.env.copy w.trace w.stream.unread).up.length) []
        trace := w.trace ++ [.copied (w.env.copy w.trace w.stream.unread).up
          (w.env.copy w.trace w.stream.unread).down false] } := by
      simp [copyBidirectional, he]
    rw [bind_eq_error.2 (.inl (reported_error hc))]
    refine ⟨_, List.append_assoc _ _ _, ?_, by simp [Only]⟩
    simpa [upReceived] using hup

theorem puts_write (b : Bytes) (action : Str) : Puts endpoint [] (writeAllWithTimeout b action) := by
  intro w
  have hw : writeAllWithTimeout b action w = EStateM.adaptExcept (Fault.toStop action) (writeAll b) w := rfl
  rw [hw]
  unfold EStateM.adaptExcept writeAll
  rw [writeAllBy_apply]
  cases w.env.writeFault w.trace b with
  | none => exact .inl ⟨(), _, rfl, carried_events [.write b] rfl (by simp [Only]) w⟩
  | some p =>
    exact .inr ⟨_, _, rfl, carries_events [.write (b.take p.1)] List.nil_prefix (by simp [Only]) w⟩

theorem puts_sendReply (rep : UInt8) (bound : SocketAddr) :
    Puts endpoint [] (sendReply rep (.fromSocketAddr bound)) := by
  rw [sendReply_eq _ (fromSocketAddr_encodable bound)]
  exact puts_write _ _

theorem puts_preWrite (bodyStart : Bytes) : Puts endpoint bodyStart (Http.preWrite bodyStart) := by
  unfold Http.preWrite
  split
  · simpa using (puts_upWrite bodyStart "HTTP CONNECT upstream pre-write").seq
      fun _ => puts_stat (.addTcpBytes bodyStart.length 0)
  · rename_i h
    rw [Decidable.not_not.1 h]
    exact puts_pure ()

/-- What does nothing, but may fail. -/
theorem puts_still {m : M α} (h : ∀ w, (∃ a, m w = .ok a w) ∨ ∃ e, m w = .error e w) : Puts endpoint [] m := by
  intro w
  rcases h w with ⟨a, h⟩ | ⟨e, h⟩
  · exact .inl ⟨a, w, h, rfl, rfl, [], by simp, rfl, by simp [Only]⟩
  · exact .inr ⟨e, w, h, [], by simp, List.nil_prefix, by simp [Only]⟩

theorem puts_setNodelay (message : Str) : Puts endpoint [] (context message (failing Env.outboundSetNodelay)) := by
  refine puts_still fun w => ?_
  cases hn : w.env.outboundSetNodelay w.trace with
  | none => exact .inl ⟨(), context_ok.2 (failing_eq hn)⟩
  | some text => exact .inr ⟨_, context_error text (failing_error hn)⟩

theorem puts_liftResult (x : Except Str α) : Puts endpoint [] (liftResult x) := by
  refine puts_still fun w => ?_
  cases x with
  | ok a => exact .inl ⟨a, rfl⟩
  | error message => exact .inr ⟨_, rfl⟩

theorem delivers_socks (addr : Address) (peer : SocketAddr) :
    Delivers addr.toTargetString [] (Handler.handleConnect addr peer) := by
  unfold Handler.handleConnect
  refine (puts_connect "SocksError::ConnectionFailed" _ _).delivers fun _ => ?_
  refine (puts_setNodelay _).delivers fun _ => ?_
  refine (puts_still fun w => .inl ⟨_, ask_apply _ w⟩).delivers fun localAddr => ?_
  refine (puts_liftResult localAddr).delivers fun bound => ?_
  exact (puts_sendReply 0x00 bound).delivers fun _ => delivers_copy _ _

theorem delivers_connect {L : Libs} {req : HttpRequest} {host : Str} {port : UInt16}
    (ht : parseConnectTarget L req.target = .ok (host, port)) (peer : SocketAddr) :
    Delivers (formatTargetEndpoint host port) req.bodyStart (Http.handleConnect L req peer) := by
  unfold Http.handleConnect
  rw [ht]
  have h := (puts_connect "HttpError::ConnectFailed" ("HTTP CONNECT " ++ formatTargetEndpoint host port ++
      " failed from " ++ peer.toStr ++ ": ") (formatTargetEndpoint host port)).delivers fun _ =>
    (puts_write (Utf8.encode Http.connectionEstablished) "HTTP CONNECT response write").delivers fun _ =>
    (puts_preWrite req.bodyStart).delivers fun _ => delivers_copy "HttpError::RelayFailed"
      ("HTTP CONNECT relay " ++ formatTargetEndpoint host port ++ " failed from " ++ peer.toStr ++ ": ")
  simp only [List.nil_append, List.append_nil] at h
  exact h

theorem delivers_forwardTo (req : HttpRequest) (peer : SocketAddr) (via host : Str) (port : UInt16)
    (path : Str) : Delivers (formatTargetEndpoint host port)
      (Utf8.encode (Http.forwardHead req host port path via).print ++ req.bodyStart)
      (Http.forwardTo req peer via host port path) := by
  unfold Http.forwardTo
  have h := (puts_connect "HttpError::ConnectFailed" ("HTTP forward connect " ++
      formatTargetEndpoint host port ++ " failed from " ++ peer.toStr ++ ": ")
      (formatTargetEndpoint host port)).delivers fun _ =>
    (puts_upWrite (Utf8.encode (Http.forwardHead req host port path via).print)
      "HTTP upstream request write").delivers fun _ =>
    (puts_writeBody req.bodyStart).delivers fun _ => (puts_upFlush "HTTP upstream flush").delivers fun _ =>
    (puts_stat (.addTcpBytes ((Utf8.encode (Http.forwardHead req host port path via).print).length +
      req.bodyStart.length) 0)).delivers fun _ =>
    delivers_copy "HttpError::RelayFailed"
      ("HTTP forward relay " ++ formatTargetEndpoint host port ++ " failed from " ++ peer.toStr ++ ": ")
  simp only [List.nil_append, List.append_nil] at h
  exact h

end

/-! ## Connections -/

/-- The connection tried this upstream only, which received a beginning of `b`. -/
def SentTo (endpoint : Str) (b : Bytes) (t : Trace) : Prop := upReceived t <+: b ∧ Only endpoint t

/-- What a connection sends upstream, by what its client sends. -/
inductive Sends (L : Libs) (bypassAuth : Bool) (auth : AuthConfig) (via : Str) (inp : Bytes) (t : Trace) :
    Prop where
  | nothing (h : ∀ e ∈ t, isTunnel e = false)
  | socks {addr : Address} {wire rest : Bytes} (hinp : inp = wire ++ rest)
      (hpre : SocksPrefix bypassAuth auth (.connect addr) wire) (h : SentTo addr.toTargetString rest t)
  | connect {req : HttpRequest} {headerEnd : Nat} {host : Str} {port : UInt16}
      (hreq : ClientHead L inp req headerEnd) (hm : eqIgnoreAsciiCase req.method "CONNECT" = true)
      (ht : parseConnectTarget L req.target = .ok (host, port))
      (h : SentTo (formatTargetEndpoint host port) (inp.drop headerEnd) t)
  | forward {req : HttpRequest} {headerEnd : Nat} {host path : Str} {port : UInt16}
      (hreq : ClientHead L inp req headerEnd) (hm : eqIgnoreAsciiCase req.method "CONNECT" = false)
      (ht : Http.target L req = .ok (host, port, path))
      (h : SentTo (formatTargetEndpoint host port)
        (Utf8.encode (Http.forwardHead req host port path via).print ++ inp.drop headerEnd) t)

section
variable {L : Libs} {bypassAuth : Bool} {auth : AuthConfig} {via : Str} {env : Env} {inp : Bytes} {w w' : World}

theorem sends_of_apart (h : Apart (.accepted env inp) w) : Sends L bypassAuth auth via inp w.trace := by
  obtain ⟨-, evs, ht, hev⟩ := h
  refine .nothing fun e he => ?_
  rw [show w.trace = evs from ht] at he
  simpa using hev e he

/-- What went before a delivery tried no upstream. -/
theorem Carries.sentTo {endpoint : Str} {b c out : Bytes} (h : Carries endpoint b w w')
    (ha : Advance c out (.accepted env inp) w) : SentTo endpoint b w'.trace := by
  obtain ⟨-, evs, ht, hev⟩ := Advance.apart ha
  obtain ⟨evs', ht', hb, ho⟩ := h
  have htrace : w'.trace = evs ++ evs' := by
    rw [ht', ht]
    rfl
  rw [htrace]
  refine ⟨?_, (only_apart hev).append ho⟩
  rw [upReceived_append, Http.upReceived_apart hev]
  exact hb

theorem http_sends (hs : L.HeadStable) (auth' : AuthConfig) (statsEnabled : Bool)
    (listener : HttpListener) (peer : SocketAddr) (hcopy : CopiesInOrder env)
    (ha : Advance [] [] (.accepted env inp) w) : Sends L bypassAuth auth listener.via inp
      (finalState (Http.handleHttpProxy L bypassAuth auth' statsEnabled listener peer w)).trace := by
  unfold Http.handleHttpProxy
  cases hr : readHttpRequest L w with
  | error e w' =>
    have hq := keeps_readHttpRequest L w
    rw [hr] at hq
    rw [bind_eq_error.2 (.inl hr)]
    exact sends_of_apart (apart_frame.trans (Advance.apart ha) (apart_of_aside (aside_of_quiet hq)))
  | ok req w' =>
    rw [bind_of_ok hr]
    obtain ⟨buf, n, parsed, ha', hread⟩ := readHttpRequest_ok hr
    have hall := ha.trans ha'
    have hcopy' : CopiesInOrder w'.env := hall.env ▸ hcopy
    have hinp : inp = buf ++ w'.stream.unread := hall.unread
    obtain ⟨hhead, hbody⟩ := hread.stream hs w'.stream.unread
    rw [← hinp] at hhead hbody
    rcases Http.serveRequest_cases (L := L) bypassAuth auth' statsEnabled listener peer req w' with
      h | ⟨-, h⟩
    · exact sends_of_apart (apart_frame.trans (Advance.apart hall) (apart_of_aside h))
    rw [h]
    cases hm : eqIgnoreAsciiCase req.method "CONNECT" with
    | true =>
      simp only [if_true]
      cases ht : parseConnectTarget L req.target with
      | error message =>
        unfold Http.handleConnect
        rw [ht]
        exact sends_of_apart (Advance.apart hall)
      | ok r =>
        have hsent := (delivers_connect ht peer w' hcopy').sentTo hall
        rw [← hbody] at hsent
        exact .connect hhead hm ht hsent
    | false =>
      simp only [Bool.false_eq_true, if_false]
      cases ht : Http.target L req with
      | error message =>
        rw [Http.handleForward_error ht]
        exact sends_of_apart (Advance.apart hall)
      | ok r =>
        rw [Http.handleForward_ok ht]
        have hsent := (delivers_forwardTo req peer listener.via r.1 r.2.1 r.2.2 w' hcopy').sentTo hall
        rw [List.append_assoc, ← hbody] at hsent
        exact .forward hhead hm ht hsent

theorem socks_sends (hct : L.CtEqExact) (peer : SocketAddr) (hcopy : CopiesInOrder env)
    (ha : Advance [] [] (.accepted env inp) w) : Sends L bypassAuth auth via inp (finalState
      ((socksCommand L bypassAuth auth peer >>= fun cmd => runCommand cmd peer) w)).trace := by
  cases hs : socksCommand L bypassAuth auth peer w with
  | error e w' =>
    have hq := keeps_socksCommand L bypassAuth auth peer w
    rw [hs] at hq
    rw [bind_eq_error.2 (.inl hs)]
    exact sends_of_apart (apart_frame.trans (Advance.apart ha) (apart_of_aside (aside_of_quiet hq)))
  | ok cmd w' =>
    rw [bind_of_ok hs]
    obtain ⟨wire, ha', hpre⟩ := socksCommand_ok hct hs
    have hall := ha.trans ha'
    cases cmd with
    | connect addr =>
      exact .socks hall.unread hpre ((delivers_socks addr peer w' (hall.env ▸ hcopy)).sentTo hall)
    | udpAssociate addr =>
      refine sends_of_apart (apart_frame.trans (Advance.apart hall) (apart_of_aside ?_))
      refine Keeps.bind aside_frame (keeps_ask aside_frame _) (fun _ => ?_) w'
      exact Keeps.bind aside_frame (keeps_liftResult aside_frame _) fun _ =>
        Handler.keeps_handleUdpAssociate _ _

theorem connection_sends (hct : L.CtEqExact) (hs : L.HeadStable) (auth : AuthConfig) (statsEnabled : Bool)
    (listener : HttpListener) (peer : SocketAddr) (hcopy : CopiesInOrder env) (inp : Bytes) :
    Sends L (ipAuthenticate L auth.bypassIps peer.ip) auth listener.via inp
      (finalState (serveConnection L auth statsEnabled listener peer (.accepted env inp))).trace := by
  unfold serveConnection
  rcases classify_cases (w := .accepted env inp) rfl with ⟨w, hc, ha⟩ | ⟨e, w, hc, hq⟩
  · rw [bind_of_ok hc]
    match protocolOf (World.accepted env inp).stream.unread with
    | none => exact sends_of_apart (Advance.apart ha)
    | some .socks5 => exact socks_sends hct peer hcopy ha
    | some .http => exact http_sends hs auth statsEnabled listener peer hcopy ha
  · rw [bind_eq_error.2 (.inl hc)]
    exact sends_of_apart (apart_of_aside (aside_of_quiet hq))

theorem SentTo.earlier {endpoint : Str} {b : Bytes} {t t' : Trace} (h : SentTo endpoint b t')
    (ht : t <+: t') : SentTo endpoint b t := by
  obtain ⟨hb, ho⟩ := h
  obtain ⟨rest, rfl⟩ := ht
  rw [upReceived_append] at hb
  exact ⟨(List.prefix_append _ _).trans hb, fun target ok hm => ho target ok (List.mem_append_left _ hm)⟩

theorem Sends.earlier {t t' : Trace} (h : Sends L bypassAuth auth via inp t') (ht : t <+: t') :
    Sends L bypassAuth auth via inp t := by
  cases h with
  | nothing h => exact .nothing fun e he => h e (ht.subset he)
  | socks hinp hpre h => exact .socks hinp hpre (h.earlier ht)
  | connect hreq hm htgt h => exact .connect hreq hm htgt (h.earlier ht)
  | forward hreq hm htgt h => exact .forward hreq hm htgt (h.earlier ht)

/-- **Nothing is lost, repeated or reordered on the way up**: whatever fails, and at every
moment, a connection tried one upstream at most, the one its client named, and that
received a beginning of the client's bytes behind the SOCKS5 request or the CONNECT head,
or of the forwarded head and the bytes behind the client's own. -/
theorem deliveries_in_order (hct : L.CtEqExact) (hs : L.HeadStable) (auth : AuthConfig)
    (statsEnabled : Bool) (listener : HttpListener) (peer : SocketAddr) (hcopy : CopiesInOrder env)
    (inp : Bytes) {t : Trace} (ht : t <+:
      (finalState (serveConnection L auth statsEnabled listener peer (.accepted env inp))).trace) :
    Sends L (ipAuthenticate L auth.bypassIps peer.ip) auth listener.via inp t :=
  (connection_sends hct hs auth statsEnabled listener peer hcopy inp).earlier ht

/-- The copy loop of this environment fails halfway. -/
def brokenCopy : Env :=
  { Env.calm [] [] with copy := fun _ rest => { up := rest.take 2, down := [], error := some "reset".toList } }

theorem copiesInOrder_brokenCopy : CopiesInOrder brokenCopy := fun _ rest => List.take_prefix 2 rest

theorem deliveries_in_order_broken :
    let auth : AuthConfig := ⟨none, none, [⟨.v4 ⟨[10, 0, 0, 0], rfl⟩, 8⟩]⟩
    let inp := Utf8.encode "CONNECT h:443 HTTP/1.1\r\n\r\n" ++ Utf8.encode "hello"
    let t := (finalState (serveConnection plainLibs auth true ⟨1080, "v".toList⟩
      (.new (.v4 ⟨[10, 0, 0, 1], rfl⟩) 5000) (.accepted brokenCopy inp))).trace
    Sends plainLibs true auth "v" inp t := by
  intro auth inp t
  exact deliveries_in_order plainLibs_ctEqExact plainLibs_headStable auth true ⟨1080, "v".toList⟩
    (.new (.v4 ⟨[10, 0, 0, 1], rfl⟩) 5000) copiesInOrder_brokenCopy inp (List.prefix_refl t)

end

end TinySocks.L4
