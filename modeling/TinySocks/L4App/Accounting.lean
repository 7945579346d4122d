import TinySocks.L4App.Forward
import TinySocks.L4App.UdpAccounting

/-!
# Traffic counters against delivered traffic

A TCP relay counts what it wrote itself behind the write, and what the copy
loop moved behind the whole loop. A failure in between leaves bytes that were
delivered and never counted. The UDP relay counts a request behind the send
and a reply in front of it (src/handler.rs:149,216), so a reply that cannot
be sent is counted all the same.

`Balanced w w'` says that the TCP counters grew between `w` and `w'` by what
was delivered in between. Every step but these few keeps it; `balanced_bind`
takes a handler apart at them.

* `counters_exact_iff`: for each relay path, exactly when its counters are right.
* `reset_tunnel_uncounted`: a run whose counters are wrong.
-/
namespace TinySocks.L4

open TinySocks.Core TinySocks.L1 TinySocks.L2 TinySocks.L3

/-- What the copy loop moved to the client. -/
def copiedDown (t : Trace) : Bytes := t.flatMap fun
  | .copied _ down _ => down
  | _ => []

/-- The counters of a run are what it delivered: the bytes the upstream received,
and those the copy loop moved to the client. -/
def Books {α : Type} (m : M α) (w : World) : Prop :=
  ∃ evs, (finalState (m w)).trace = w.trace ++ evs ∧
    counted StatOp.tcpUp evs = (upReceived evs).length ∧
    counted StatOp.tcpDown evs = (copiedDown evs).length

/-- Between the two states the counters grew by what was delivered. -/
structure Balanced (w w' : World) : Prop where
  up : counted StatOp.tcpUp w'.trace + (upReceived w.trace).length =
    counted StatOp.tcpUp w.trace + (upReceived w'.trace).length
  down : counted StatOp.tcpDown w'.trace + (copiedDown w.trace).length =
    counted StatOp.tcpDown w.trace + (copiedDown w'.trace).length

theorem balanced_frame : Frame Balanced where
  refl w := ⟨rfl, rfl⟩
  trans := by
    intro w w' w'' h hx
    obtain ⟨hu, hd⟩ := h
    obtain ⟨hu', hd'⟩ := hx
    exact ⟨by omega, by omega⟩

theorem Balanced.symm {w w' : World} (h : Balanced w w') : Balanced w' w :=
  ⟨by have := h.up; omega, by have := h.down; omega⟩

@[simp] theorem copiedDown_append (s t : Trace) : copiedDown (s ++ t) = copiedDown s ++ copiedDown t := by
  simp [copiedDown]

/-- The balance of a stretch of the trace. -/
theorem balanced_append {w w' : World} (evs : Trace) (h : w'.trace = w.trace ++ evs) : Balanced w w' ↔
    counted StatOp.tcpUp evs = (upReceived evs).length ∧
      counted StatOp.tcpDown evs = (copiedDown evs).length := by
  constructor
  · intro hx
    obtain ⟨hu, hd⟩ := hx
    rw [h] at hu hd
    simp only [counted_append, upReceived_append, copiedDown_append, List.length_append] at hu hd
    exact ⟨by omega, by omega⟩
  · intro hx
    obtain ⟨hu, hd⟩ := hx
    refine ⟨?_, ?_⟩
    · rw [h, counted_append, upReceived_append, List.length_append]
      omega
    · rw [h, counted_append, copiedDown_append, List.length_append]
      omega

theorem books_iff {α : Type} {m : M α} (hm : Keeps Extends m) (w : World) :
    Books m w ↔ Balanced w (finalState (m w)) := by
  obtain ⟨-, evs, ht, -⟩ := hm w
  rw [balanced_append _ ht]
  constructor
  · intro hx
    obtain ⟨evs', ht', h⟩ := hx
    obtain rfl := List.append_cancel_left (ht.symm.trans ht')
    exact h
  · exact fun h => ⟨evs, ht, h⟩

/-! ## Steps that keep the balance -/

/-- A step in balance is followed by a run in balance, or fails. -/
theorem balanced_bind {α β : Type} {x : M α} {k : α → M β} (hx : Keeps Balanced x) {w : World} :
    Balanced w (finalState ((x >>= k) w)) ↔
      ∀ a w₁, x w = .ok a w₁ → Balanced w₁ (finalState (k a w₁)) := by
  have h := hx w
  rw [bind_apply]
  cases hw : x w with
  | error e w₁ =>
    rw [hw] at h
    exact ⟨fun _ a w' he => (by cases he), fun _ => h⟩
  | ok a w₁ =>
    rw [hw] at h
    constructor
    · intro hb a' w' he
      cases he
      exact balanced_frame.trans h.symm hb
    · exact fun hb => balanced_frame.trans h (hb a w₁ rfl)

/-- The event neither moves nor counts TCP bytes. -/
def Ev.isNeutral : Ev → Bool
  | .upWrite _ | .copied _ _ _ | .stat (.addTcpBytes _ _) => false
  | _ => true

theorem balanced_of_emits {w w' : World} (h : Emits Ev.isNeutral w w') : Balanced w w' := by
  obtain ⟨-, evs, ht, hev⟩ := h
  refine (balanced_append _ ht).2 ?_
  clear ht
  induction evs with
  | nil => exact ⟨rfl, rfl⟩
  | cons e evs ih =>
    obtain ⟨he, hevs⟩ := List.forall_mem_cons.1 hev
    obtain ⟨hu, hd⟩ := ih hevs
    have hone : counted StatOp.tcpUp [e] = 0 ∧ counted StatOp.tcpDown [e] = 0 ∧
        upReceived [e] = [] ∧ copiedDown [e] = [] := by
      cases e with
      | stat op => cases op <;> first | exact ⟨rfl, rfl, rfl, rfl⟩ | cases he
      | _ => first | exact ⟨rfl, rfl, rfl, rfl⟩ | cases he
    obtain ⟨h₁, h₂, h₃, h₄⟩ := hone
    rw [← List.singleton_append, counted_append, counted_append, upReceived_append, copiedDown_append,
      h₁, h₂, h₃, h₄, hu, hd]
    exact ⟨Nat.zero_add _, Nat.zero_add _⟩

theorem keeps_balanced_connect (message text target : Str) :
    Keeps Balanced (reported message .incConnectFailures text (tcpConnect target)) := by
  refine Keeps.mono (keeps_emits_reported ?_ rfl (fun _ => rfl) _ _) balanced_of_emits
  refine Keeps.bind (emits_frame _) (keeps_ask (emits_frame _) _) fun o => ?_
  cases o with
  | none => exact keeps_emit rfl
  | some text => exact Keeps.bind (emits_frame _) (keeps_emit rfl) fun _ => keeps_bail (emits_frame _) text

theorem keeps_balanced_write (b : Bytes) (action : Str) :
    Keeps Balanced (writeAllWithTimeout b action) :=
  Keeps.withTimeout (keeps_writeAllBy (fun w b => balanced_of_emits (emits_emit (e := .write b) rfl w)) _ b) action

/-! ## The copy loop -/

/-- The copy loop that starts here fails, if at all, before it moved a byte. -/
def CopyClean (w : World) : Prop :=
  (w.env.copy w.trace w.stream.unread).error = none ∨
    (w.env.copy w.trace w.stream.unread).up = [] ∧ (w.env.copy w.trace w.stream.unread).down = []

/-- Every relay ends in the copy loop and its count. -/
theorem balanced_copy (message text : Str) (w : World) :
    Balanced w (finalState ((reported message .incRelayFailures text copyBidirectional >>= fun r =>
      stat (.addTcpBytes r.1 r.2)) w)) ↔ CopyClean w := by
  unfold CopyClean
  cases he : (w.env.copy w.trace w.stream.unread).error with
  | none =>
    have hc : copyBidirectional w = .ok ((w.env.copy w.trace w.stream.unread).up.length,
        (w.env.copy w.trace w.stream.unread).down.length) { w with
          stream := .new (w.stream.unread.drop (w.env.copy w.trace w.stream.unread).up.length) []
          trace := w.trace ++ [.copied (w.env.copy w.trace w.stream.unread).up
            (w.env.copy w.trace w.stream.unread).down true] } := by
      unfold copyBidirectional
      simp [he]
    rw [bind_of_ok (reported_ok.2 hc)]
    refine iff_of_true ((balanced_append [.copied _ _ true, .stat (.addTcpBytes _ _)]
      (List.append_assoc _ _ _)).2 ?_) (.inl rfl)
    simp [StatOp.tcpUp, StatOp.tcpDown, upReceived, copiedDown, counted, statOps]
  | some err =>
    have hc : copyBidirectional w = .error (.failed err) { w with
        stream := .new (w.stream.unread.drop (w.env.copy w.trace w.stream.unread).up.length) []
        trace := w.trace ++ [.copied (w.env.copy w.trace w.stream.unread).up
          (w.env.copy w.trace w.stream.unread).down false] } := by
      unfold copyBidirectional
      simp [he]
    rw [bind_eq_error.2 (.inl (reported_error hc)), finalState_error]
    rw [balanced_append [.copied _ _ false, .stat .incRelayFailures,
      .stat (.recordError (text ++ err))] (List.append_assoc _ _ _)]
    simp [StatOp.tcpUp, StatOp.tcpDown, upReceived, copiedDown, counted, statOps,
      @eq_comm _ 0]

/-! ## Writes to the upstream -/

/-- A write of `b` that starts here fails, if at all, before it put a byte out. -/
def WriteClean (w : World) (b : Bytes) : Prop :=
  ∀ n f, w.env.upWriteFault w.trace b = some (n, f) → b.take n = []

/-- What a write leaves on the trace, and when it succeeds. -/
theorem upWrite_cases (b : Bytes) (action : Str) (w : World) :
    (w.env.upWriteFault w.trace b = none ∧ upWriteAllWithTimeout b action w =
      .ok () { w with trace := w.trace ++ [.upWrite b] }) ∨
    ∃ n f e, w.env.upWriteFault w.trace b = some (n, f) ∧ upWriteAllWithTimeout b action w =
      .error e { w with trace := w.trace ++ [.upWrite (b.take n)] } := by
  unfold upWriteAllWithTimeout withTimeout EStateM.adaptExcept upWriteAll
  rw [writeAllBy_apply]
  cases w.env.upWriteFault w.trace b with
  | none => exact .inl ⟨rfl, rfl⟩
  | some p => exact .inr ⟨p.1, p.2, _, rfl, rfl⟩

theorem upFlush_cases (action : Str) (w : World) :
    upFlushWithTimeout action w = .ok () w ∨ ∃ e, upFlushWithTimeout action w = .error e w := by
  cases h : w.env.upFlushFault w.trace with
  | none =>
    refine .inl (withTimeout_ok.2 ?_)
    unfold upFlush
    rw [bind_apply, ask_apply, h]
    rfl
  | some f =>
    refine .inr ⟨f.toStop action, ?_⟩
    unfold upFlushWithTimeout withTimeout EStateM.adaptExcept upFlush
    rw [bind_apply, ask_apply, h]
    rfl

/-- Bytes that went out and were not counted. -/
theorem not_balanced {w w' : World} {evs : Trace} (ht : w'.trace = w.trace ++ evs)
    (hc : counted StatOp.tcpUp evs = 0) (hu : upReceived evs ≠ []) : ¬ Balanced w w' := by
  rw [balanced_append _ ht, hc]
  intro hx
  obtain ⟨h, -⟩ := hx
  exact hu (List.length_eq_zero_iff.1 h.symm)

theorem balanced_upWrite {w : World} {b : Bytes} :
    Balanced w { w with trace := w.trace ++ [.upWrite b] } ↔ b = [] := by
  rw [balanced_append _ rfl]
  simp [counted, statOps, upReceived, copiedDown, @eq_comm _ 0]

/-! ## The paths -/

/-- A SOCKS CONNECT up to its copy loop.
mirrors src/handler.rs:33-46 -/
def socksOpened (addr : Address) (peer : SocketAddr) : M Unit := do
  let target := addr.toTargetString
  reported "SocksError::ConnectionFailed" .incConnectFailures
    ("SOCKS connect " ++ target ++ " failed from " ++ peer.toStr ++ ": ") <| tcpConnect target
  context "Failed to disable Nagle on outbound stream" <| failing Env.outboundSetNodelay
  let localAddr ← liftResult (← ask Env.outboundLocalAddr)
  sendReply 0x00 (Address.fromSocketAddr localAddr)

/-- An HTTP CONNECT up to what it sends upstream.
mirrors src/http.rs:305-322 -/
def connectOpened (L : Libs) (req : HttpRequest) (peer : SocketAddr) : M Str := do
  let (host, port) ← liftResult (parseConnectTarget L req.target)
  let target := formatTargetEndpoint host port
  reported "HttpError::ConnectFailed" .incConnectFailures
    ("HTTP CONNECT " ++ target ++ " failed from " ++ peer.toStr ++ ": ") <| tcpConnect target
  writeAllWithTimeout (Utf8.encode Http.connectionEstablished) "HTTP CONNECT response write"
  pure target

/-- A forwarded request up to what it sends upstream.
mirrors src/http.rs:356-370 -/
def forwardOpened (L : Libs) (req : HttpRequest) (peer : SocketAddr) : M (Str × UInt16 × Str) := do
  let (host, port, path) ← liftResult (splitTarget L req.target (getHeader req.headers "host") 80)
  let target := formatTargetEndpoint host port
  reported "HttpError::ConnectFailed" .incConnectFailures
    ("HTTP forward connect " ++ target ++ " failed from " ++ peer.toStr ++ ": ") <| tcpConnect target
  pure (host, port, path)

/-- The write of what arrived behind the head, and then the copy loop. -/
def ConnectClean (bodyStart : Bytes) (w : World) : Prop :=
  (bodyStart ≠ [] → WriteClean w bodyStart) ∧
    ∀ w', Http.preWrite bodyStart w = .ok () w' → CopyClean w'

/-- Once the head went out, nothing may fail until it is counted. -/
def ForwardClean (head bodyStart : Bytes) (w : World) : Prop :=
  WriteClean w head ∧ ∀ w', upWriteAllWithTimeout head "HTTP upstream request write" w = .ok () w' →
    ∃ w'', Http.writeBody bodyStart w' = .ok () w'' ∧
      upFlushWithTimeout "HTTP upstream flush" w'' = .ok () w'' ∧
      CopyClean { w'' with
        trace := w''.trace ++ [.stat (.addTcpBytes (head.length + bodyStart.length) 0)] }

section
variable {L : Libs} {req : HttpRequest} {addr : Address} {peer : SocketAddr} {w : World}

theorem keeps_balanced_socksOpened : Keeps Balanced (socksOpened addr peer) := by
  refine Keeps.bind balanced_frame (keeps_balanced_connect _ _ _) fun _ => ?_
  refine Keeps.bind balanced_frame (Keeps.context (keeps_failing balanced_frame _) _) fun _ => ?_
  refine Keeps.bind balanced_frame (keeps_ask balanced_frame _) fun _ => ?_
  refine Keeps.bind balanced_frame (keeps_liftResult balanced_frame _) fun _ => ?_
  rw [sendReply_eq _ (fromSocketAddr_encodable _)]
  exact keeps_balanced_write _ _

theorem keeps_balanced_connectOpened : Keeps Balanced (connectOpened L req peer) := by
  refine Keeps.bind balanced_frame (keeps_liftResult balanced_frame _) fun r => ?_
  refine Keeps.bind balanced_frame (keeps_balanced_connect _ _ _) fun _ => ?_
  exact Keeps.bind balanced_frame (keeps_balanced_write _ _) fun _ => Keeps.pure balanced_frame _

theorem keeps_balanced_forwardOpened : Keeps Balanced (forwardOpened L req peer) := by
  refine Keeps.bind balanced_frame (keeps_liftResult balanced_frame _) fun r => ?_
  exact Keeps.bind balanced_frame (keeps_balanced_connect _ _ _) fun _ => Keeps.pure balanced_frame _

theorem books_socks : Books (Handler.handleConnect addr peer) w ↔
    ∀ w₁, socksOpened addr peer w = .ok () w₁ → CopyClean w₁ := by
  have hsplit : Handler.handleConnect addr peer = socksOpened addr peer >>= fun _ =>
      reported "Failed to proxy traffic" .incRelayFailures
        ("SOCKS TCP relay " ++ addr.toTargetString ++ " failed from " ++ peer.toStr ++ ": ")
        copyBidirectional >>= fun r => stat (.addTcpBytes r.1 r.2) := by
    simp only [Handler.handleConnect, socksOpened, bind_assoc]
  rw [books_iff (Handler.keeps_handleConnect addr peer), hsplit, balanced_bind keeps_balanced_socksOpened]
  simp only [balanced_copy]
  exact ⟨fun h => h (), fun h _ => h⟩

/-- What is written in front of the tunnel is counted at once. -/
theorem balanced_preWrite {bodyStart : Bytes} {k : Unit → M Unit} :
    Balanced w (finalState ((Http.preWrite bodyStart >>= k) w)) ↔
      (bodyStart ≠ [] → WriteClean w bodyStart) ∧
        ∀ w', Http.preWrite bodyStart w = .ok () w' → Balanced w' (finalState (k () w')) := by
  unfold Http.preWrite
  by_cases hb : bodyStart = []
  · simp only [hb, ne_eq, not_true_eq_false, if_false, false_implies, true_and]
    refine (balanced_bind (Keeps.pure balanced_frame ())).trans ?_
    exact ⟨fun h w' he => h () w' he, fun h _ => h⟩
  simp only [ne_eq, hb, not_false_eq_true, if_true, forall_const]
  rcases upWrite_cases bodyStart "HTTP CONNECT upstream pre-write" w with ⟨hf, h⟩ | ⟨n, f, e, hf, h⟩
  · have hok : (do
        upWriteAllWithTimeout bodyStart "HTTP CONNECT upstream pre-write"
        stat (.addTcpBytes bodyStart.length 0) : M Unit) w = .ok () { w with
          trace := w.trace ++ [.upWrite bodyStart] ++ [.stat (.addTcpBytes bodyStart.length 0)] } :=
      bind_of_ok h
    have hbal : Balanced w { w with
        trace := w.trace ++ [.upWrite bodyStart] ++ [.stat (.addTcpBytes bodyStart.length 0)] } := by
      refine (balanced_append _ (List.append_assoc _ _ _)).2 ?_
      simp [counted, statOps, StatOp.tcpUp, StatOp.tcpDown, upReceived, copiedDown]
    have hwc : WriteClean w bodyStart := fun n f h => by rw [hf] at h; cases h
    rw [bind_of_ok hok, hok]
    constructor
    · intro h
      refine ⟨hwc, fun w' he => ?_⟩
      cases he
      exact balanced_frame.trans hbal.symm h
    · exact fun h => balanced_frame.trans hbal (h.2 _ rfl)
  · have herr : (do
        upWriteAllWithTimeout bodyStart "HTTP CONNECT upstream pre-write"
        stat (.addTcpBytes bodyStart.length 0) : M Unit) w = .error e { w with
          trace := w.trace ++ [.upWrite (bodyStart.take n)] } := bind_eq_error.2 (.inl h)
    rw [bind_apply, herr]
    simp only [finalState_error, balanced_upWrite]
    constructor
    · intro h
      refine ⟨fun n' f' hf' => ?_, fun w' he => by cases he⟩
      cases hf.symm.trans hf'
      exact h
    · exact fun h => h.1 n f hf

theorem books_connect : Books (Http.handleConnect L req peer) w ↔
    ∀ target w₁, connectOpened L req peer w = .ok target w₁ → ConnectClean req.bodyStart w₁ := by
  have hsplit : Http.handleConnect L req peer = connectOpened L req peer >>= fun target =>
      Http.preWrite req.bodyStart >>= fun _ => Http.relay "CONNECT" target peer := by
    simp only [Http.handleConnect, connectOpened, bind_assoc, pure_bind]
  rw [books_iff (Http.keeps_handleConnect req peer), hsplit, balanced_bind keeps_balanced_connectOpened]
  simp only [balanced_preWrite, Http.relay, balanced_copy, ConnectClean]

/-- What the body leaves on the trace: its bytes, or a part of them. -/
theorem writeBody_cases (bodyStart : Bytes) (w : World) :
    (∃ evs, Http.writeBody bodyStart w = .ok () { w with trace := w.trace ++ evs } ∧
      counted StatOp.tcpUp evs = 0 ∧ counted StatOp.tcpDown evs = 0 ∧ upReceived evs = bodyStart ∧
      copiedDown evs = []) ∨
    ∃ e b, Http.writeBody bodyStart w = .error e { w with trace := w.trace ++ [.upWrite b] } := by
  unfold Http.writeBody
  by_cases hb : bodyStart = []
  · rw [if_neg (Decidable.not_not.2 hb)]
    refine .inl ⟨[], ?_, rfl, rfl, hb.symm, rfl⟩
    rw [List.append_nil]
    rfl
  · rw [if_pos hb]
    rcases upWrite_cases bodyStart "HTTP upstream body write" w with ⟨-, h⟩ | ⟨n, f, e, -, h⟩
    · exact .inl ⟨[.upWrite bodyStart], h, rfl, rfl, by simp [upReceived], rfl⟩
    · exact .inr ⟨e, _, h⟩

/-- A head that went out, and whatever else, before anything was counted. -/
theorem not_balanced_head {head : Bytes} (hne : head ≠ []) {w' : World} {evs : Trace}
    (ht : w'.trace = w.trace ++ [.upWrite head] ++ evs) (hc : counted StatOp.tcpUp evs = 0) :
    ¬ Balanced w w' := by
  rw [List.append_assoc] at ht
  refine not_balanced ht ?_ ?_
  · rw [counted_append, hc]
    rfl
  · rw [upReceived_append, Http.upReceived_upWrite]
    exact List.append_ne_nil_of_left_ne_nil hne _

/-- Head and body are counted together once they went out. -/
theorem balanced_counted (w' : World) {head bodyStart : Bytes} {evs : Trace}
    (ht : w'.trace = w.trace ++ [.upWrite head] ++ evs) (hu : counted StatOp.tcpUp evs = 0)
    (hd : counted StatOp.tcpDown evs = 0) (hb : upReceived evs = bodyStart) (hc : copiedDown evs = []) :
    Balanced w { w' with
      trace := w'.trace ++ [.stat (.addTcpBytes (head.length + bodyStart.length) 0)] } := by
  refine (balanced_append ([.upWrite head] ++ evs ++
    [.stat (.addTcpBytes (head.length + bodyStart.length) 0)]) (by simp [ht])).2 ?_
  rw [counted_append, counted_append, counted_append, counted_append, upReceived_append,
    upReceived_append, copiedDown_append, copiedDown_append, hu, hd, hb, hc, Http.upReceived_upWrite]
  simp [counted, statOps, StatOp.tcpUp, StatOp.tcpDown, upReceived, copiedDown]

/-- Behind the head, everything has to succeed up to the call that counts. -/
theorem balanced_behindHead {head bodyStart : Bytes} (hne : head ≠ []) {k : Unit → M Unit} {w₁ : World}
    (ht₁ : w₁.trace = w.trace ++ [.upWrite head]) :
    Balanced w (finalState ((do
      Http.writeBody bodyStart
      upFlushWithTimeout "HTTP upstream flush"
      stat (.addTcpBytes (head.length + bodyStart.length) 0)
      k () : M Unit) w₁)) ↔
    ∃ w'', Http.writeBody bodyStart w₁ = .ok () w'' ∧
      upFlushWithTimeout "HTTP upstream flush" w'' = .ok () w'' ∧
      Balanced { w'' with trace := w''.trace ++ [.stat (.addTcpBytes (head.length + bodyStart.length) 0)] }
        (finalState (k () { w'' with
          trace := w''.trace ++ [.stat (.addTcpBytes (head.length + bodyStart.length) 0)] })) := by
  rcases writeBody_cases bodyStart w₁ with ⟨evs, h₂, hu, hd, hb, hc⟩ | ⟨e, b, h₂⟩
  · have ht₂ : w₁.trace ++ evs = w.trace ++ [.upWrite head] ++ evs := by rw [ht₁]
    rw [bind_of_ok h₂]
    rcases upFlush_cases "HTTP upstream flush" { w₁ with trace := w₁.trace ++ evs } with hfl | ⟨e, hfl⟩
    · have hbal := balanced_counted { w₁ with trace := w₁.trace ++ evs } ht₂ hu hd hb hc
      rw [bind_of_ok hfl]
      constructor
      · exact fun h => ⟨_, h₂, hfl, balanced_frame.trans hbal.symm h⟩
      · intro hx
        obtain ⟨w₃, h₃, -, h⟩ := hx
        cases h₂.symm.trans h₃
        exact balanced_frame.trans hbal h
    · rw [bind_eq_error.2 (.inl hfl)]
      refine iff_of_false (not_balanced_head hne ht₂ hu) ?_
      intro hx
      obtain ⟨w₃, h₃, hfl', -⟩ := hx
      cases h₂.symm.trans h₃
      cases hfl.symm.trans hfl'
  · rw [bind_eq_error.2 (.inl h₂)]
    have ht₂ : w₁.trace ++ [.upWrite b] = w.trace ++ [.upWrite head] ++ [.upWrite b] := by rw [ht₁]
    refine iff_of_false (not_balanced_head hne ht₂ rfl) ?_
    intro hx
    obtain ⟨w₃, h₃, -⟩ := hx
    cases h₂.symm.trans h₃

/-- Nothing that goes out in a forwarded request is counted before all of it went out. -/
theorem balanced_forward {head bodyStart : Bytes} (hne : head ≠ []) {k : Unit → M Unit} :
    Balanced w (finalState ((do
      upWriteAllWithTimeout head "HTTP upstream request write"
      Http.writeBody bodyStart
      upFlushWithTimeout "HTTP upstream flush"
      stat (.addTcpBytes (head.length + bodyStart.length) 0)
      k () : M Unit) w)) ↔
    WriteClean w head ∧ ∀ w', upWriteAllWithTimeout head "HTTP upstream request write" w = .ok () w' →
      ∃ w'', Http.writeBody bodyStart w' = .ok () w'' ∧
        upFlushWithTimeout "HTTP upstream flush" w'' = .ok () w'' ∧
        Balanced { w'' with trace := w''.trace ++ [.stat (.addTcpBytes (head.length + bodyStart.length) 0)] }
          (finalState (k () { w'' with
            trace := w''.trace ++ [.stat (.addTcpBytes (head.length + bodyStart.length) 0)] })) := by
  rcases upWrite_cases head "HTTP upstream request write" w with ⟨hf, h⟩ | ⟨n, f, e, hf, h⟩
  · have hwc : WriteClean w head := fun n f h => by rw [hf] at h; cases h
    rw [bind_of_ok h, h, balanced_behindHead hne (w := w) rfl]
    constructor
    · intro hb
      refine ⟨hwc, fun w' he => ?_⟩
      cases he
      exact hb
    · exact fun hb => hb.2 _ rfl
  · rw [bind_eq_error.2 (.inl h), finalState_error, balanced_upWrite, h]
    constructor
    · intro hn
      refine ⟨fun n' f' hf' => ?_, fun w' he => by cases he⟩
      cases hf.symm.trans hf'
      exact hn
    · exact fun hc => hc.1 n f hf

theorem books_forward {via : Str} : Books (Http.handleForward L req peer via) w ↔
    ∀ host port path w₁, forwardOpened L req peer w = .ok (host, port, path) w₁ →
      ForwardClean (Utf8.encode (Http.forwardHead req host port path via).print) req.bodyStart w₁ := by
  have hsplit : Http.handleForward L req peer via = forwardOpened L req peer >>= fun r => (do
      upWriteAllWithTimeout (Utf8.encode (Http.forwardHead req r.1 r.2.1 r.2.2 via).print)
        "HTTP upstream request write"
      Http.writeBody req.bodyStart
      upFlushWithTimeout "HTTP upstream flush"
      stat (.addTcpBytes ((Utf8.encode (Http.forwardHead req r.1 r.2.1 r.2.2 via).print).length +
        req.bodyStart.length) 0)
      Http.relay "forward" (formatTargetEndpoint r.1 r.2.1) peer) := by
    simp only [Http.handleForward, Http.forwardTo, forwardOpened, bind_assoc, pure_bind]
  rw [books_iff (Http.keeps_handleForward req peer via), hsplit, balanced_bind keeps_balanced_forwardOpened]
  simp only [Prod.forall]
  refine forall_congr' fun host => forall_congr' fun port => forall_congr' fun path =>
    forall_congr' fun w₁ => imp_congr_right fun _ => ?_
  rw [balanced_forward (Http.print_ne_nil _)
    (k := fun _ => Http.relay "forward" (formatTargetEndpoint host port) peer)]
  simp only [Http.relay, balanced_copy, ForwardClean]

end

/-- **When the traffic counters are what was delivered.** In every run of a relay,
wherever it is cut short, the bytes counted are the bytes delivered if and only if:

* on the TCP paths, no write, flush or copy on the upstream connection fails when it,
  or a write that is not counted yet, has put out bytes;
* in a UDP association, every reply with a payload can be sent to the client. What is
  sent to targets is counted exactly in any case. -/
theorem counters_exact_iff (L : Libs) (peer : SocketAddr) (w : World) :
    (∀ addr, Books (Handler.handleConnect addr peer) w ↔
      ∀ w₁, socksOpened addr peer w = .ok () w₁ → CopyClean w₁) ∧
    (∀ req, Books (Http.handleConnect L req peer) w ↔
      ∀ target w₁, connectOpened L req peer w = .ok target w₁ → ConnectClean req.bodyStart w₁) ∧
    (∀ req via, Books (Http.handleForward L req peer via) w ↔
      ∀ host port path w₁, forwardOpened L req peer w = .ok (host, port, path) w₁ →
        ForwardClean (Utf8.encode (Http.forwardHead req host port path via).print) req.bodyStart w₁) ∧
    ∃ evs, (finalState (Handler.relayUdp peer w)).trace = w.trace ++ evs ∧
      counted StatOp.udpOut evs = UdpAssociation.sentToTargets evs ∧
      (counted StatOp.udpIn evs = UdpAssociation.sentToClient evs ↔
        UdpAssociation.RepliesPass peer w.env.udpInputs (UdpAssociation.associated w)) :=
  ⟨fun _ => books_socks, fun _ => books_connect, fun _ _ => books_forward,
    UdpAssociation.relayUdp_books peer w⟩

/-! ## Runs with wrong counters -/

/-- An upstream that resets the connection after five bytes. -/
def resetEnv : Env := { Env.calm [] [] with
  copy := fun _ _ => { up := [1, 2, 3, 4, 5], down := [], error := some "Connection reset by peer" } }

/-- A tunnel that is reset leaves the bytes it delivered uncounted. -/
theorem reset_tunnel_uncounted :
    ¬ Books (Handler.handleConnect (.v4 ⟨[10, 0, 0, 7], rfl⟩ 80)
      (.new (.v4 ⟨[127, 0, 0, 1], rfl⟩) 50000)) (.accepted resetEnv [1, 2, 3, 4, 5]) := by
  rw [books_socks]
  intro h
  obtain ⟨w₁, hw, hclean⟩ : ∃ w₁, socksOpened (.v4 ⟨[10, 0, 0, 7], rfl⟩ 80)
      (.new (.v4 ⟨[127, 0, 0, 1], rfl⟩) 50000) (.accepted resetEnv [1, 2, 3, 4, 5]) = .ok () w₁ ∧
      w₁.env = resetEnv := ⟨_, rfl, rfl⟩
  have hc := h w₁ hw
  unfold CopyClean at hc
  rw [hclean] at hc
  rcases hc with hc | ⟨hc, -⟩ <;> cases hc

end TinySocks.L4
