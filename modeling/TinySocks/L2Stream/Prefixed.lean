import TinySocks.Core.Reader
import TinySocks.L2Stream.Conn

/-!
# The prefixed stream, poll by poll (`protocol.rs`)

`server.rs` takes the first byte off a connection to see which protocol it
speaks, and puts it back in front with a `PrefixedStream`. The stream is a reader
over any reader for its socket, which may deliver chunks of any size, have
nothing yet, fail, or end.

* `prefixed_reads_concatenation`: what is read is the prefix and then what the
  socket delivers, and the end comes after both.
* `read_eq_pollRead`: a read of a connection's run is such a poll.
-/
namespace TinySocks.L2

open TinySocks.Core TinySocks.L1

/-- Over any socket.
mirrors src/protocol.rs:358-362 -/
structure Prefixed (σ : Type) where
  pre : Bytes
  cursor : Nat
  stream : σ
  cursor_le : cursor ≤ pre.length

namespace Prefixed

variable {ε σ : Type}

theorem begin_le (pre : Bytes) : 0 ≤ pre.length := Nat.zero_le _

/-- mirrors src/protocol.rs:366-372 -/
def new (stream : σ) (pre : Bytes) : Prefixed σ := ⟨pre, 0, stream, begin_le pre⟩

/-- What is copied is taken from what is left. -/
theorem copied_le (s : Prefixed σ) (cap : Nat) :
    s.cursor + min (s.pre.drop s.cursor).length cap ≤ s.pre.length := by
  have h := s.cursor_le
  rw [List.length_drop]
  omega

/-- mirrors src/protocol.rs:382-396 -/
def pollRead (R : Reader ε σ) (s : Prefixed σ) (cap : Nat) : Polled ε × Prefixed σ :=
  if s.cursor < s.pre.length ∧ 0 < cap then
    let available := s.pre.drop s.cursor
    let toCopy := min available.length cap
    (.ready (available.take toCopy), { s with
      cursor := s.cursor + toCopy
      cursor_le := copied_le s cap })
  else
    let (answer, stream) := R.poll s.stream cap
    (answer, { s with stream })

/-- The part of the prefix that was not read yet. -/
def pending (s : Prefixed σ) : Bytes := s.pre.drop s.cursor

theorem pending_eq_nil {s : Prefixed σ} : s.pending = [] ↔ ¬ s.cursor < s.pre.length := by
  rw [pending, List.drop_eq_nil_iff, Nat.not_lt]

/-- The two branches of a poll: some of the prefix, or what the socket has. -/
theorem pollRead_cases (R : Reader ε σ) (s : Prefixed σ) (cap : Nat) :
    (∃ b s', pollRead R s cap = (.ready b, s') ∧ s.pending = b ++ s'.pending ∧ b ≠ [] ∧
      b.length ≤ cap ∧ s'.pre = s.pre ∧ s'.stream = s.stream) ∨
    ((s.pending = [] ∨ cap = 0) ∧
      pollRead R s cap = ((R.poll s.stream cap).1, { s with stream := (R.poll s.stream cap).2 })) := by
  by_cases h : s.cursor < s.pre.length ∧ 0 < cap
  · have hpos : 0 < min (s.pre.drop s.cursor).length cap := by
      rw [List.length_drop]
      omega
    refine .inl ⟨_, _, if_pos h, ?_, ?_, ?_, rfl, rfl⟩
    · unfold pending
      rw [← List.drop_drop]
      exact (List.take_append_drop _ _).symm
    · intro hnil
      have hlen := congrArg List.length hnil
      rw [List.length_take, List.length_nil] at hlen
      omega
    · rw [List.length_take]
      omega
  · refine .inr ⟨?_, if_neg h⟩
    rw [pending_eq_nil]
    omega

/-- The stream is a reader again. -/
def reader (R : Reader ε σ) : Reader ε (Prefixed σ) where
  poll := pollRead R
  fits s cap := by
    rcases pollRead_cases R s cap with ⟨b, s', h, -, -, hle, -⟩ | ⟨-, h⟩
    · rw [h]
      exact hle
    · rw [h]
      exact R.fits _ _

end Prefixed

/-- What was read and what is left of the prefix is the prefix and what the socket
delivered, which is nothing until the prefix was read. -/
structure ReadsOn {ε σ : Type} (front : Bytes) (calls : List (PollCall ε))
    (s : Prefixed (List (PollCall ε) × σ)) : Prop where
  pre : s.pre = front
  whole : delivered calls ++ s.pending = front ++ delivered s.stream.1
  inOrder : s.pending ≠ [] → delivered s.stream.1 = []

section
variable {ε σ : Type} {R : Reader ε σ} {front : Bytes} {calls : List (PollCall ε)}
  {s : Prefixed (List (PollCall ε) × σ)}

/-- Every poll keeps this. -/
theorem ReadsOn.step (h : ReadsOn front calls s) (cap : Nat) :
    ReadsOn front (calls ++ [⟨cap, (Prefixed.pollRead R.recorded s cap).1⟩])
      (Prefixed.pollRead R.recorded s cap).2 := by
  rcases Prefixed.pollRead_cases R.recorded s cap with ⟨b, s', hp, hpend, hne, -, hpre, hs⟩ | ⟨hroom, hp⟩
  · have hnone : delivered s.stream.1 = [] := h.inOrder (by rw [hpend]; simp [hne])
    rw [hp]
    refine ⟨hpre.trans h.pre, ?_, fun _ => hs ▸ hnone⟩
    rw [delivered_append, delivered_single, List.append_assoc, hs, ← h.whole, hpend]
    rfl
  · rw [hp]
    have hlog : delivered (R.recorded.poll s.stream cap).2.1 =
        delivered s.stream.1 ++ (R.recorded.poll s.stream cap).1.bytes := by
      rw [Reader.recorded_calls, delivered_append, delivered_single]
    rcases hroom with hnil | rfl
    · refine ⟨h.pre, ?_, fun hne => absurd hnil hne⟩
      have hw := h.whole
      rw [hnil, List.append_nil] at hw
      show _ ++ s.pending = front ++ delivered (R.recorded.poll s.stream cap).2.1
      rw [hnil, List.append_nil, delivered_append, delivered_single, hw, hlog, List.append_assoc]
    · have hno := R.recorded.bytes_of_no_room s.stream
      rw [hno, List.append_nil] at hlog
      refine ⟨h.pre, ?_, fun hne => hlog.trans (h.inOrder hne)⟩
      rw [delivered_append, delivered_single, hno, List.append_nil, hlog]
      exact h.whole

end

/-- **The stream reads as its prefix followed by its socket.** After any polls, with
any room in the buffers, and with whatever the socket answers:

* what was delivered is an initial segment of the prefix and what the socket
  delivered, and what is missing is what is left of the prefix;
* the next poll takes bytes of the socket only if all of this was delivered;
* the next poll reports the end only if all of this was delivered and the socket
  has just ended. -/
theorem prefixed_reads_concatenation {ε σ : Type} (R : Reader ε σ) (pre : Bytes) (socket : σ)
    (caps : List Nat) (cap : Nat) :
    let r := (Prefixed.reader R.recorded).polls (.new ([], socket) pre) caps
    let next := (Prefixed.reader R.recorded).poll r.2 cap
    (delivered r.1 <+: pre ++ delivered r.2.stream.1 ∧
      delivered r.1 ++ pre.drop r.2.cursor = pre ++ delivered r.2.stream.1) ∧
    r.2.cursor ≤ pre.length ∧
    (delivered next.2.stream.1 ≠ delivered r.2.stream.1 →
      0 < cap ∧ r.2.cursor = pre.length ∧ delivered r.1 = pre ++ delivered r.2.stream.1) ∧
    (next.1 = .ready [] → 0 < cap →
      r.2.cursor = pre.length ∧ delivered r.1 = pre ++ delivered r.2.stream.1 ∧
        next.2.stream.1 = r.2.stream.1 ++ [⟨cap, .ready []⟩]) := by
  have hinit : ReadsOn pre [] (Prefixed.new (([] : List (PollCall ε)), socket) pre) :=
    ⟨rfl, by simp [Prefixed.pending, Prefixed.new, delivered], fun _ => rfl⟩
  have hr := Reader.polls_keeps (R := Prefixed.reader R.recorded) (I := ReadsOn pre)
    (fun calls s cap h => h.step cap) caps hinit
  rw [List.nil_append] at hr
  simp only
  generalize (Prefixed.reader R.recorded).polls (.new ([], socket) pre) caps = r at hr ⊢
  obtain ⟨calls, s⟩ := r
  obtain rfl := hr.pre
  have hall : s.pending = [] → s.cursor = s.pre.length ∧ delivered calls = s.pre ++ delivered s.stream.1 := by
    intro hnil
    refine ⟨Nat.le_antisymm s.cursor_le (Nat.not_lt.1 (Prefixed.pending_eq_nil.1 hnil)), ?_⟩
    rw [← hr.whole, hnil, List.append_nil]
  refine ⟨⟨⟨_, hr.whole⟩, hr.whole⟩, s.cursor_le, ?_, ?_⟩
  · intro htaken
    show 0 < cap ∧ _
    rcases Prefixed.pollRead_cases R.recorded s cap with ⟨b, s', hp, -, -, -, -, hs⟩ | ⟨hroom, hp⟩
    · refine absurd ?_ htaken
      show delivered (Prefixed.pollRead R.recorded s cap).2.stream.1 = _
      rw [hp, hs]
    · have hcap : 0 < cap := by
        refine Nat.pos_of_ne_zero ?_
        intro he
        subst he
        refine htaken ?_
        show delivered (Prefixed.pollRead R.recorded s 0).2.stream.1 = _
        rw [hp, Reader.recorded_calls, delivered_append, delivered_single, R.recorded.bytes_of_no_room,
          List.append_nil]
      exact ⟨hcap, hall (hroom.resolve_right (Nat.pos_iff_ne_zero.1 hcap))⟩
  · intro hend hcap
    rcases Prefixed.pollRead_cases R.recorded s cap with ⟨b, s', hp, -, hne, -⟩ | ⟨hroom, hp⟩
    · have hb : (Prefixed.pollRead R.recorded s cap).1 = .ready [] := hend
      rw [hp] at hb
      cases hb
      exact absurd rfl hne
    · obtain ⟨hc, hd⟩ := hall (hroom.resolve_right (Nat.pos_iff_ne_zero.1 hcap))
      have hb : (Prefixed.pollRead R.recorded s cap).1 = .ready [] := hend
      refine ⟨hc, hd, ?_⟩
      show (Prefixed.pollRead R.recorded s cap).2.stream.1 = _
      rw [hp] at hb ⊢
      rw [Reader.recorded_calls, hb]

/-! ## The reads of a run -/

def socketPoll (env : Env) (s : Trace × Bytes) (cap : Nat) : Polled Fault × (Trace × Bytes) :=
  match env.readFault s.1 with
  | some f => (.failed f, s)
  | none =>
    let n := min (max 1 (env.readLen s.1)) (min cap s.2.length)
    (.ready (s.2.take n), s.1 ++ [.read (s.2.take n)], s.2.drop n)

/-- The socket of a connection's run; a poll waits until there is something. -/
def socket (env : Env) : Reader Fault (Trace × Bytes) where
  poll := socketPoll env
  fits s cap := by
    unfold socketPoll
    cases env.readFault s.1 with
    | some f => exact Nat.zero_le _
    | none =>
      show (s.2.take _).length ≤ cap
      rw [List.length_take]
      omega

def World.prefixed (w : World) : Prefixed (Trace × Bytes) :=
  ⟨w.stream.pre, w.stream.cursor, (w.trace, w.stream.stream), w.stream.cursor_le⟩

/-- The world in which the stream is where `s` is. -/
def World.at (w : World) (s : Prefixed (Trace × Bytes)) : World :=
  { w with stream := ⟨s.pre, s.cursor, s.stream.2, s.cursor_le⟩, trace := s.stream.1 }

/-- A read in a run is one poll of the stream. -/
theorem read_eq_pollRead (cap : Nat) (w : World) :
    (∃ b s, Prefixed.pollRead (socket w.env) w.prefixed cap = (.ready b, s) ∧ read cap w = .ok b (w.at s)) ∨
      ∃ f s, Prefixed.pollRead (socket w.env) w.prefixed cap = (.failed f, s) ∧
        read cap w = .error f (w.at s) := by
  by_cases h : w.stream.cursor < w.stream.pre.length ∧ 0 < cap
  · exact .inl ⟨_, _, if_pos h, if_pos h⟩
  · have hp : Prefixed.pollRead (socket w.env) w.prefixed cap =
        ((socketPoll w.env (w.trace, w.stream.stream) cap).1,
          { w.prefixed with stream := (socketPoll w.env (w.trace, w.stream.stream) cap).2 }) := if_neg h
    have hr : read cap w = _ := if_neg h
    rw [hp, hr]
    unfold socketPoll
    simp only
    cases w.env.readFault w.trace with
    | some f => exact .inr ⟨f, _, rfl, rfl⟩
    | none => exact .inl ⟨_, _, rfl, rfl⟩

end TinySocks.L2
