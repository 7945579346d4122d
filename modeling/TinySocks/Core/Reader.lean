import TinySocks.Core.Bytes

/-!
# Readers that are polled

A reader is asked for bytes with the room left in a buffer. It puts some there,
has none yet, or fails; none for a buffer with room is its end. `Reader.recorded`
is a reader that keeps what it was asked and what it answered, so that a theorem
about whoever reads from it can speak of this.
-/
namespace TinySocks.Core

/-- What comes of a poll, with the bytes that were put into the buffer. -/
inductive Polled (ε : Type) where
  | pending
  | failed (e : ε)
  | ready (b : Bytes)
  deriving DecidableEq, Repr

def Polled.bytes {ε : Type} : Polled ε → Bytes
  | .ready b => b
  | _ => []

/-- The room in the buffer, and what came of it. -/
structure PollCall (ε : Type) where
  cap : Nat
  answer : Polled ε
  deriving DecidableEq, Repr

/-- A reader never puts more into a buffer than fits. -/
structure Reader (ε σ : Type) where
  poll : σ → Nat → Polled ε × σ
  fits : ∀ s cap, (poll s cap).1.bytes.length ≤ cap

/-- What was read, all in all. -/
def delivered {ε : Type} (calls : List (PollCall ε)) : Bytes := calls.flatMap fun call => call.answer.bytes

@[simp] theorem delivered_append {ε : Type} (l r : List (PollCall ε)) :
    delivered (l ++ r) = delivered l ++ delivered r := by
  simp [delivered]

@[simp] theorem delivered_single {ε : Type} (call : PollCall ε) : delivered [call] = call.answer.bytes :=
  List.flatMap_singleton _ _

namespace Reader

variable {ε σ : Type}

/-- One poll after the other, with the room there is for each. -/
def polls (R : Reader ε σ) : σ → List Nat → List (PollCall ε) × σ
  | s, [] => ([], s)
  | s, cap :: caps =>
    let (answer, s) := R.poll s cap
    let (calls, s) := R.polls s caps
    (⟨cap, answer⟩ :: calls, s)

/-- What holds at first and is kept by every poll holds after any number of them. -/
theorem polls_keeps {R : Reader ε σ} {I : List (PollCall ε) → σ → Prop}
    (hstep : ∀ calls s cap, I calls s → I (calls ++ [⟨cap, (R.poll s cap).1⟩]) (R.poll s cap).2) :
    ∀ (caps : List Nat) {calls : List (PollCall ε)} {s : σ}, I calls s →
      I (calls ++ (R.polls s caps).1) (R.polls s caps).2 := by
  intro caps
  induction caps with
  | nil =>
    intro calls s h
    rw [polls, List.append_nil]
    exact h
  | cons cap caps ih =>
    intro calls s h
    have := ih (hstep calls s cap h)
    rw [List.append_assoc] at this
    exact this

/-- The reader that keeps its calls. -/
def recorded (R : Reader ε σ) : Reader ε (List (PollCall ε) × σ) where
  poll s cap :=
    let (answer, t) := R.poll s.2 cap
    (answer, s.1 ++ [⟨cap, answer⟩], t)
  fits s cap := R.fits s.2 cap

theorem recorded_calls (R : Reader ε σ) (s : List (PollCall ε) × σ) (cap : Nat) :
    (R.recorded.poll s cap).2.1 = s.1 ++ [⟨cap, (R.recorded.poll s cap).1⟩] := rfl

/-- A poll without room delivers nothing. -/
theorem bytes_of_no_room (R : Reader ε σ) (s : σ) : (R.poll s 0).1.bytes = [] :=
  List.length_eq_zero_iff.1 (Nat.le_zero.1 (R.fits s 0))

end Reader

end TinySocks.Core
