import TinySocks.L2Stream.Advance

/-!
# The upstream side of a connection

Opening the upstream connection, writing to it and the copy loop, as every
relay path uses them. `Extends` is the frame of all handlers: the trace grows,
and no connection is counted; `Aside` is the frame of the handlers that do
without an upstream. Without faults (`Faultless`) each operation has one
outcome, given by its `_eq` lemma.
-/
namespace TinySocks.L4

open TinySocks.Core TinySocks.L1 TinySocks.L2

/-- `Context::context`: the error displays `message` instead of its own text. -/
def context {α : Type} (message : Str) (m : M α) : M α :=
  EStateM.adaptExcept (fun
    | .failed _ => .failed message
    | e => e) m

/-- `inspect_err` and `context` as the handlers use them: a failure is reported,
with its own text behind `text`, and displays `message` from there on. -/
def reported {α : Type} (message : Str) (op : StatOp) (text : Str) (m : M α) : M α :=
  context message <| inspectErr m fun err => reportFailure op (text ++ err)

/-- An operation of the operating system with an error text of its own. -/
def failing (f : Env → Trace → Option Str) : M Unit := do
  match ← ask f with
  | none => pure ()
  | some message => bail message

/-- `TcpStream::connect` -/
def tcpConnect (target : Str) : M Unit := do
  match ← ask fun env t => env.connect t target with
  | none => emit (.connect target true)
  | some message => do
    emit (.connect target false)
    bail message

/-- `copy_bidirectional_with_sizes`: the bytes moved up and down. -/
def copyBidirectional : M (Nat × Nat) := fun w =>
  let r := w.env.copy w.trace w.stream.unread
  let w' := { w with
    stream := .new (w.stream.unread.drop r.up.length) []
    trace := w.trace ++ [.copied r.up r.down r.error.isNone] }
  match r.error with
  | none => .ok (r.up.length, r.down.length) w'
  | some message => .error (.failed message) w'

/-! ## The frames of the handlers -/

theorem keeps_emit {p : Ev → Bool} {e : Ev} (he : p e = true) :
    Keeps (Emits p) (emit e : M Unit) := emits_emit he

/-- Whatever a handler does, its trace grows, and it counts no connection. -/
abbrev Extends : World → World → Prop := Emits Ev.isHandlers

theorem extends_frame : Frame Extends := emits_frame _

theorem extends_of_quiet {w w' : World} (h : Quiet w w') : Extends w w' := h.emits

theorem keeps_quiet {α : Type} {m : M α} (h : Keeps Quiet m) : Keeps Extends m :=
  Keeps.mono h extends_of_quiet

/-- What happens on an upstream connection. -/
def isTunnel : Ev → Bool
  | .connect _ _ | .upWrite _ | .copied _ _ _ => true
  | _ => false

/-- The connection does without an upstream. -/
abbrev Apart : World → World → Prop := Emits fun e => !isTunnel e

theorem apart_frame : Frame Apart := emits_frame _

theorem isProtocol_apart {e : Ev} (h : e.isProtocol = true) : (!isTunnel e) = true := by
  cases e <;> first | rfl | cases h

theorem Advance.apart {c out : Bytes} {w w' : World} (h : Advance c out w w') : Apart w w' :=
  h.emits fun _ => isProtocol_apart

/-- So does this handler. -/
abbrev Aside : World → World → Prop := Emits fun e => e.isHandlers && !isTunnel e

theorem aside_frame : Frame Aside := emits_frame _

theorem apart_of_aside {w w' : World} (h : Aside w w') : Apart w w' :=
  h.mono fun _ he => (Bool.and_eq_true_iff.1 he).2

theorem aside_of_quiet {w w' : World} (h : Quiet w w') : Aside w w' := by
  obtain ⟨⟨c, out, ha⟩, -, evs, ht, hev⟩ := h
  obtain ⟨he, -, evs', ht', hev', -⟩ := ha
  obtain rfl : evs = evs' := List.append_cancel_left (ht.symm.trans ht')
  refine ⟨he, evs, ht, fun e hm => ?_⟩
  exact Bool.and_eq_true_iff.2 ⟨hev e hm, isProtocol_apart (hev' e hm)⟩

theorem keeps_aside_quiet {α : Type} {m : M α} (h : Keeps Quiet m) : Keeps Aside m :=
  Keeps.mono h aside_of_quiet

theorem keeps_aside {α : Type} {m : M α} (h : Keeps Aside m) : Keeps Extends m :=
  Keeps.mono h fun h => h.mono fun _ he => (Bool.and_eq_true_iff.1 he).1

theorem Keeps.context {R : World → World → Prop} {α : Type} {m : M α} (h : Keeps R m) (message : Str) :
    Keeps R (context message m) := by
  intro w
  have hw := h w
  unfold TinySocks.L4.context EStateM.adaptExcept
  cases hm : m w <;> rw [hm] at hw <;> exact hw

theorem Keeps.reported {R : World → World → Prop} (hR : Frame R) (hQ : ∀ {w w'}, Quiet w w' → R w w')
    {α : Type} {m : M α} (h : Keeps R m) {op : StatOp} (hop : op.isHandlers = true)
    (message text : Str) : Keeps R (reported message op text m) :=
  Keeps.context (Keeps.inspectErr hR h fun _ => Keeps.mono (keeps_reportFailure hop _) hQ) message

theorem keeps_emits_reported {p : Ev → Bool} {α : Type} {m : M α} (hm : Keeps (Emits p) m) {op : StatOp}
    (hop : p (.stat op) = true) (hrec : ∀ text, p (.stat (.recordError text)) = true)
    (message text : Str) : Keeps (Emits p) (reported message op text m) :=
  Keeps.context (Keeps.inspectErr (emits_frame p) hm fun _ =>
    Keeps.bind (emits_frame p) (keeps_emit hop) fun _ => keeps_emit (hrec _)) message

theorem keeps_failing {R : World → World → Prop} (hR : Frame R) (f : Env → Trace → Option Str) :
    Keeps R (failing f) := by
  refine Keeps.bind hR (keeps_ask hR f) fun o => ?_
  cases o with
  | none => exact Keeps.pure hR _
  | some message => exact keeps_bail hR message

theorem keeps_tcpConnect (target : Str) : Keeps Extends (tcpConnect target) := by
  refine Keeps.bind extends_frame (keeps_ask extends_frame _) fun o => ?_
  cases o with
  | none => exact keeps_emit rfl
  | some message =>
    exact Keeps.bind extends_frame (keeps_emit rfl) fun _ => keeps_bail extends_frame message

theorem keeps_connect (message text target : Str) :
    Keeps Extends (reported message .incConnectFailures text (tcpConnect target)) :=
  Keeps.reported extends_frame extends_of_quiet (keeps_tcpConnect target) rfl _ _

theorem keeps_copyBidirectional : Keeps Extends copyBidirectional := by
  intro w
  unfold copyBidirectional
  simp only
  split
  · exact ⟨rfl, [.copied _ _ _], rfl, by simp [Ev.isHandlers]⟩
  · exact ⟨rfl, [.copied _ _ _], rfl, by simp [Ev.isHandlers]⟩

theorem keeps_upWriteAllWithTimeout (b : Bytes) (action : Str) :
    Keeps Extends (upWriteAllWithTimeout b action) :=
  Keeps.withTimeout (keeps_writeAllBy (fun w b => emits_emit (e := .upWrite b) rfl w) _ b) action

theorem keeps_upFlushWithTimeout (action : Str) : Keeps Extends (upFlushWithTimeout action) := by
  refine Keeps.withTimeout (Keeps.bind extends_frame (keeps_ask extends_frame _) fun o => ?_) action
  cases o with
  | none => exact Keeps.pure extends_frame _
  | some f => exact Keeps.throw extends_frame f

/-! ## Without faults -/

/-- No write fails, and the copy loop moves everything the client has still to
send up, and all of `down` back. -/
structure Faultless (env : Env) (down : Bytes) : Prop where
  write : ∀ t b, env.writeFault t b = none
  upWrite : ∀ t b, env.upWriteFault t b = none
  upFlush : ∀ t, env.upFlushFault t = none
  copy : ∀ t rest, env.copy t rest = { up := rest, down, error := none }

theorem calm_faultless (inputs : List UdpInput) (down : Bytes) :
    Faultless (Env.calm inputs down) down :=
  ⟨fun _ _ => rfl, fun _ _ => rfl, fun _ => rfl, fun _ _ => rfl⟩

/-- An upstream connection that was opened can be used. -/
structure OutboundReady (env : Env) : Prop where
  setNodelay : ∀ t, env.outboundSetNodelay t = none
  localAddr : ∀ t, ∃ a, env.outboundLocalAddr t = .ok a

theorem calm_outboundReady (inputs : List UdpInput) (down : Bytes) :
    OutboundReady (Env.calm inputs down) := ⟨fun _ => rfl, fun _ => ⟨_, rfl⟩⟩

section
variable {w : World} {down : Bytes}

theorem context_ok {α : Type} {message : Str} {m : M α} {w w' : World} {a : α} :
    context message m w = .ok a w' ↔ m w = .ok a w' := by
  unfold context EStateM.adaptExcept
  cases m w with
  | ok b v => exact Iff.rfl
  | error e v =>
    constructor <;> intro h <;> cases h

theorem context_error {α : Type} {message : Str} (text : Str) {m : M α} {w w' : World}
    (h : m w = .error (.failed text) w') : context message m w = .error (.failed message) w' := by
  unfold context EStateM.adaptExcept
  rw [h]

theorem reported_ok {α : Type} {message text : Str} {op : StatOp} {m : M α} {w w' : World} {a : α} :
    reported message op text m w = .ok a w' ↔ m w = .ok a w' := context_ok.trans inspectErr_ok

theorem reported_error {α : Type} {message text err : Str} {op : StatOp} {m : M α} {w w' : World}
    (h : m w = .error (.failed err) w') : reported message op text m w = .error (.failed message)
      { w' with trace := w'.trace ++ [.stat op, .stat (.recordError (text ++ err))] } := by
  refine context_error err ?_
  rw [inspectErr_apply, h]
  exact bind_eq_error.2 (.inr ⟨(), _, reportFailure_apply _ _ _, rfl⟩)

theorem failing_eq {f : Env → Trace → Option Str} (h : f w.env w.trace = none) :
    failing f w = .ok () w := by
  unfold failing
  rw [bind_apply, ask_apply, h]
  rfl

theorem failing_error {f : Env → Trace → Option Str} {message : Str}
    (h : f w.env w.trace = some message) : failing f w = .error (.failed message) w := by
  unfold failing
  rw [bind_apply, ask_apply, h]
  rfl

theorem failing_ok {f : Env → Trace → Option Str} {a : Unit} {w' : World} (h : failing f w = .ok a w') :
    w' = w := by
  cases hf : f w.env w.trace with
  | none =>
    rw [failing_eq hf] at h
    cases h
    rfl
  | some message =>
    rw [failing_error hf] at h
    cases h

theorem tcpConnect_eq {target : Str} (h : w.env.connect w.trace target = none) :
    tcpConnect target w = .ok () { w with trace := w.trace ++ [.connect target true] } := by
  unfold tcpConnect
  rw [bind_apply, ask_apply, h]
  rfl

theorem tcpConnect_error {target message : Str} (h : w.env.connect w.trace target = some message) :
    tcpConnect target w =
      .error (.failed message) { w with trace := w.trace ++ [.connect target false] } := by
  unfold tcpConnect
  rw [bind_apply, ask_apply, h]
  rfl

theorem copyBidirectional_eq (h : Faultless w.env down) :
    copyBidirectional w = .ok (w.stream.unread.length, down.length) { w with
      stream := .new [] []
      trace := w.trace ++ [.copied w.stream.unread down true] } := by
  unfold copyBidirectional
  simp [h.copy]

theorem upWriteAllWithTimeout_eq (h : Faultless w.env down) (b : Bytes) (action : Str) :
    upWriteAllWithTimeout b action w = .ok () { w with trace := w.trace ++ [.upWrite b] } := by
  refine withTimeout_ok.2 ?_
  unfold upWriteAll
  rw [writeAllBy_apply, h.upWrite]

theorem writeAllWithTimeout_eq (h : Faultless w.env down) (b : Bytes) (action : Str) :
    writeAllWithTimeout b action w = .ok () { w with trace := w.trace ++ [.write b] } := by
  refine withTimeout_ok.2 ?_
  unfold writeAll
  rw [writeAllBy_apply, h.write]

theorem upFlushWithTimeout_eq (h : Faultless w.env down) (action : Str) :
    upFlushWithTimeout action w = .ok () w := by
  refine withTimeout_ok.2 ?_
  unfold upFlush
  rw [bind_apply, ask_apply, h.upFlush]
  rfl

end

end TinySocks.L4
