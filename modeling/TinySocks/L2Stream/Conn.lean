import TinySocks.Core.Effect
import TinySocks.L1Encoding.Address
import TinySocks.L2Stream.Stats

/-!
# One connection and its environment

A connection handler runs against an `Env`: how the client's bytes are split
into reads, which operations fail and how, what the resolver and the UDP
socket deliver. Every answer may depend on the whole history, so a theorem
for every `Env` covers every behaviour of the outside world.

The `World` is what a run changes: the client stream (`PrefixedStream`), the
locals of the UDP relay, and the trace of everything the handler did. It is
kept when the handler fails, so a property of the trace is a property of every
exit. Timeouts (`io_timeout.rs`) are faults of the operation they bound.
-/
namespace TinySocks.L2

open TinySocks.Core TinySocks.L1

/-! ## Events -/

/-- What a handler did, one entry for each effect. -/
inductive Ev where
  /-- a read on the client's socket returned these bytes (none: end of stream) -/
  | read (b : Bytes)
  /-- these bytes went out on the client's socket -/
  | write (b : Bytes)
  | connect (target : Str) (ok : Bool)
  /-- these bytes went out on the upstream connection -/
  | upWrite (b : Bytes)
  /-- the copy loop moved these bytes to the upstream and to the client -/
  | copied (up down : Bytes) (ok : Bool)
  | udpBind (ip : IpAddr) (ok : Bool)
  | udpRecv (source : SocketAddr) (packet : Bytes)
  | udpRecvFailed
  /-- what `resolve_socket_addr` answered -/
  | resolved (destination : Address) (target : Option SocketAddr)
  | udpSend (target : SocketAddr) (packet : Bytes) (ok : Bool)
  | renderHtml
  | stat (op : StatOp)
  deriving DecidableEq, Repr

abbrev Trace := List Ev

/-- The bytes the client's socket delivered. -/
def received (t : Trace) : Bytes := t.flatMap fun
  | .read b => b
  | _ => []

/-- The bytes the handler itself wrote to the client. -/
def written (t : Trace) : Bytes := t.flatMap fun
  | .write b => b
  | _ => []

/-- Everything the upstream connection received. -/
def upReceived (t : Trace) : Bytes := t.flatMap fun
  | .upWrite b => b
  | .copied up _ _ => up
  | _ => []

/-- Everything the client received. -/
def clientReceived (t : Trace) : Bytes := t.flatMap fun
  | .write b => b
  | .copied _ down _ => down
  | _ => []

/-- The calls on the statistics handle, in order. -/
def statOps (t : Trace) : List StatOp := t.filterMap fun
  | .stat op => some op
  | _ => none

/-- What the calls of a run add to one of the traffic counters, in total. -/
def counted (f : StatOp → Nat) (t : Trace) : Nat := (statOps t).foldr (fun op n => f op + n) 0

@[simp] theorem statOps_append (s t : Trace) : statOps (s ++ t) = statOps s ++ statOps t := by
  simp [statOps]

@[simp] theorem counted_nil (f : StatOp → Nat) : counted f [] = 0 := rfl

@[simp] theorem counted_append (f : StatOp → Nat) (s t : Trace) :
    counted f (s ++ t) = counted f s + counted f t := by
  unfold counted
  rw [statOps_append, List.foldr_append]
  induction statOps s with
  | nil => exact (Nat.zero_add _).symm
  | cons op ops ih => rw [List.foldr_cons, ih, List.foldr_cons, Nat.add_assoc]

@[simp] theorem counted_stat (f : StatOp → Nat) (op : StatOp) (t : Trace) :
    counted f (.stat op :: t) = f op + counted f t := by
  simp [counted, statOps]

@[simp] theorem received_append (s t : Trace) : received (s ++ t) = received s ++ received t := by
  simp [received]

@[simp] theorem written_append (s t : Trace) : written (s ++ t) = written s ++ written t := by
  simp [written]

@[simp] theorem upReceived_append (s t : Trace) :
    upReceived (s ++ t) = upReceived s ++ upReceived t := by
  simp [upReceived]

@[simp] theorem clientReceived_append (s t : Trace) :
    clientReceived (s ++ t) = clientReceived s ++ clientReceived t := by
  simp [clientReceived]

/-! ## The environment -/

/-- Why an operation failed: an error of the operating system, or its timeout. -/
inductive Fault where
  | io (message : Str)
  | elapsed
  deriving DecidableEq, Repr

/-- Why a handler stopped early: an error, with the text it displays, an
access out of range, or nothing more to do for what has arrived so far. -/
inductive Stop where
  | failed (message : Str)
  | panicked
  | waiting
  deriving DecidableEq, Repr

/-- What `copy_bidirectional_with_sizes` moved before it ended. -/
structure CopyResult where
  up : Bytes
  down : Bytes
  error : Option Str

/-- What wakes the UDP relay. -/
inductive UdpInput where
  /-- the control connection is readable -/
  | control
  | datagram (source : SocketAddr) (packet : Bytes)
  | recvError (message : Str)
  deriving DecidableEq, Repr

structure Env where
  setNodelay : Trace → Option Str
  localAddr : Trace → Except Str SocketAddr
  readFault : Trace → Option Fault
  /-- how many bytes the next read takes, of those it may take -/
  readLen : Trace → Nat
  /-- a write that fails after this many bytes -/
  writeFault : Trace → Bytes → Option (Nat × Fault)
  connect : Trace → Str → Option Str
  outboundSetNodelay : Trace → Option Str
  outboundLocalAddr : Trace → Except Str SocketAddr
  upWriteFault : Trace → Bytes → Option (Nat × Fault)
  upFlushFault : Trace → Option Fault
  copy : Trace → Bytes → CopyResult
  udpBind : Trace → IpAddr → Option Str
  udpLocalAddr : Trace → Except Str SocketAddr
  udpInputs : List UdpInput
  lookupHost : Trace → Str → UInt16 → Except Str (List SocketAddr)
  udpSend : Trace → SocketAddr → Bytes → Option Str
  renderHtml : Trace → Str

/-- An environment in which nothing fails: reads return what is there, the
copy loop moves all of it, and the upstream answers `down`. -/
def Env.calm (inputs : List UdpInput) (down : Bytes) : Env where
  setNodelay _ := none
  localAddr _ := .ok (.new (.v4 ⟨[127, 0, 0, 1], rfl⟩) 1080)
  readFault _ := none
  readLen _ := 65536
  writeFault _ _ := none
  connect _ _ := none
  outboundSetNodelay _ := none
  outboundLocalAddr _ := .ok (.new (.v4 ⟨[127, 0, 0, 1], rfl⟩) 40000)
  upWriteFault _ _ := none
  upFlushFault _ := none
  copy _ rest := { up := rest, down, error := none }
  udpBind _ _ := none
  udpLocalAddr _ := .ok (.new (.v4 ⟨[127, 0, 0, 1], rfl⟩) 40001)
  udpInputs := inputs
  lookupHost _ _ _ := .ok []
  udpSend _ _ _ := none
  renderHtml _ := []

/-! ## The world -/

/-- mirrors src/protocol.rs:358-362; `stream` is what the socket has still to
deliver. -/
structure PrefixedStream where
  pre : Bytes
  cursor : Nat
  stream : Bytes
  cursor_le : cursor ≤ pre.length

namespace PrefixedStream

/-- mirrors src/protocol.rs:366-372 -/
def new (stream pre : Bytes) : PrefixedStream := ⟨pre, 0, stream, Nat.zero_le _⟩

/-- The part of the prefix that was not read yet. -/
def pending (s : PrefixedStream) : Bytes := s.pre.drop s.cursor

/-- Everything a reader can still get. -/
def unread (s : PrefixedStream) : Bytes := s.pending ++ s.stream

@[simp] theorem new_pending (stream pre : Bytes) : (new stream pre).pending = pre := rfl

@[simp] theorem new_stream (stream pre : Bytes) : (new stream pre).stream = stream := rfl

/-- The first branch of `poll_read`: bytes from the prefix, as many as fit.
mirrors src/protocol.rs:387-393 -/
def takePrefix (s : PrefixedStream) (cap : Nat) : Bytes × PrefixedStream :=
  let available := s.pre.drop s.cursor
  let toCopy := min available.length cap
  (available.take toCopy, { s with
    cursor := s.cursor + toCopy
    cursor_le := by
      have h := s.cursor_le
      simp only [toCopy, available, List.length_drop]
      omega })

/-- The other branch: `n` bytes from the socket. -/
def takeStream (s : PrefixedStream) (n : Nat) : Bytes × PrefixedStream :=
  (s.stream.take n, { s with stream := s.stream.drop n })

end PrefixedStream

/-- The locals of `relay_udp`; they live here so that every exit shows them.
mirrors src/handler.rs:98-99 -/
structure Relay where
  clientUdpAddr : Option SocketAddr := none
  relayedTargets : List SocketAddr := []
  deriving DecidableEq, Repr

structure World where
  env : Env
  stream : PrefixedStream
  relay : Relay := {}
  trace : Trace := []

/-- A freshly accepted connection. -/
def World.accepted (env : Env) (inp : Bytes) : World := { env, stream := .new inp [] }

@[simp] theorem World.accepted_unread (env : Env) (inp : Bytes) :
    (accepted env inp).stream.unread = inp := rfl

abbrev M := EStateM Stop World

abbrev IoM := EStateM Fault World

/-! ## Effects -/

section
variable {ε : Type}

def emit (e : Ev) : EStateM ε World Unit := fun w => .ok () { w with trace := w.trace ++ [e] }

def stat (op : StatOp) : EStateM ε World Unit := emit (.stat op)

/-- Ask the environment, without an effect of its own. -/
def ask {α : Type} (f : Env → Trace → α) : EStateM ε World α := fun w => .ok (f w.env w.trace) w

end

def bail {α : Type} (message : Str) : M α := throw (.failed message)

/-- The calls a handler makes when an operation failed: one counter, and the
recent errors. -/
def reportFailure (op : StatOp) (message : Str) : M Unit := do
  stat op
  stat (.recordError message)

/-- The value of a computation on its own, `?` on its error. -/
def liftResult {α : Type} : Except Str α → M α
  | .ok a => pure a
  | .error message => bail message

/-- The same for one that may also leave its slices. -/
def liftAbort {α : Type} : Except (Abort Str) α → M α
  | .ok a => pure a
  | .error (.fail message) => bail message
  | .error .panic => throw .panicked

/-- One `read` into a buffer of `cap` bytes.
mirrors src/protocol.rs:380-397 -/
def read (cap : Nat) : IoM Bytes := fun w =>
  if w.stream.cursor < w.stream.pre.length ∧ 0 < cap then
    let (b, s) := w.stream.takePrefix cap
    .ok b { w with stream := s }
  else
    match w.env.readFault w.trace with
    | some f => .error f w
    | none =>
      let n := min (max 1 (w.env.readLen w.trace)) (min cap w.stream.stream.length)
      let (b, s) := w.stream.takeStream n
      .ok b { w with stream := s, trace := w.trace ++ [.read b] }

def earlyEof : Fault := .io "early eof"

/-- `read_exact`: read until `need` bytes are there; each round reads at least
one, so `need` rounds are enough. -/
def readExactGo : Nat → Nat → IoM Bytes
  | _, 0 => pure []
  | 0, _ + 1 => throw earlyEof
  | fuel + 1, need + 1 => do
    let b ← read (need + 1)
    if b = [] then throw earlyEof
    else do
      let rest ← readExactGo fuel (need + 1 - b.length)
      pure (b ++ rest)

def readExact (n : Nat) : IoM (Octets n) := do
  let b ← readExactGo n n
  pure (Octets.fill n b)

/-- A write that succeeds puts out all of `b`, one that fails a part of it. -/
def writeAllBy (fault : Env → Trace → Bytes → Option (Nat × Fault)) (ev : Bytes → Ev) (b : Bytes) :
    IoM Unit := do
  match ← ask fun env t => fault env t b with
  | none => emit (ev b)
  | some (n, f) => do
    emit (ev (b.take n))
    throw f

def writeAll (b : Bytes) : IoM Unit := writeAllBy Env.writeFault .write b

def upWriteAll (b : Bytes) : IoM Unit := writeAllBy Env.upWriteFault .upWrite b

def upFlush : IoM Unit := do
  match ← ask Env.upFlushFault with
  | none => pure ()
  | some f => throw f

/-! ## `io_timeout.rs` -/

/-- mirrors src/io_timeout.rs:13-15 -/
def timeoutMessage (action : Str) : Str := action ++ " timed out after 180s"

def Fault.toStop (action : Str) : Fault → Stop
  | .io message => .failed message
  | .elapsed => .failed (timeoutMessage action)

/-- The bound every wrapper of the module puts on its operation. -/
def withTimeout {α : Type} (action : Str) (m : IoM α) : M α := EStateM.adaptExcept (Fault.toStop action) m

/-- The operation on its own, where nothing bounds it. -/
def withoutTimeout {α : Type} (m : IoM α) : M α := withTimeout [] m

/-- mirrors src/io_timeout.rs:18-26 -/
def readWithTimeout (cap : Nat) (action : Str) : M Bytes := withTimeout action (read cap)

/-- mirrors src/io_timeout.rs:29-37 -/
def readExactWithTimeout (n : Nat) (action : Str) : M (Octets n) := withTimeout action (readExact n)

/-- mirrors src/io_timeout.rs:40-48 -/
def writeAllWithTimeout (b : Bytes) (action : Str) : M Unit := withTimeout action (writeAll b)

/-- `write_all_with_timeout` on the upstream connection. -/
def upWriteAllWithTimeout (b : Bytes) (action : Str) : M Unit := withTimeout action (upWriteAll b)

/-- mirrors src/io_timeout.rs:51-59 -/
def upFlushWithTimeout (action : Str) : M Unit := withTimeout action upFlush

/-! ## Errors on the way out -/

/-- `inspect_err`: look at an error's text and pass it on. -/
def inspectErr {α : Type} (m : M α) (look : Str → M Unit) : M α :=
  tryCatch m fun e =>
    match e with
    | .failed message => do
      look message
      throw e
    | e => throw e

end TinySocks.L2
