/-!
# Watch channels

A channel that holds one value and tells its receiver that there was a newer one, not
how many there were: every send makes a new version, and the receiver remembers which
one it saw last. So a value sent is found by a receiver that looks only later
(`Waiting.send`, `Pending.changed`), and found once (`changed_current`).
-/
namespace TinySocks.Core

/-- `seen` is the version the receiver saw last, and nothing once it is gone. -/
structure Watch (A : Type) where
  value : A
  version : Nat := 0
  seen : Option Nat := some 0
  deriving DecidableEq, Repr

namespace Watch

variable {A : Type} {w w' : Watch A} {a : A}

/-- What nobody can receive is not stored. -/
def send (w : Watch A) (a : A) : Watch A :=
  match w.seen with
  | some _ => { w with value := a, version := w.version + 1 }
  | none => w

/-- What the receiver waits for: nothing, as long as it has seen the last version. -/
def changed (w : Watch A) : Option (Watch A) :=
  match w.seen with
  | some v => if v = w.version then none else some { w with seen := some w.version }
  | none => none

/-- The receiver is dropped. -/
def close (w : Watch A) : Watch A := { w with seen := none }

/-- There is a receiver. -/
def Waiting (w : Watch A) : Prop := ∃ v, w.seen = some v ∧ v ≤ w.version

/-- There is a receiver, and a version it has not seen. -/
def Pending (w : Watch A) : Prop := ∃ v, w.seen = some v ∧ v < w.version

/-- No version that the receiver has not seen. -/
def Current (w : Watch A) : Prop := ∀ v, w.seen = some v → v = w.version

theorem Pending.waiting (h : w.Pending) : w.Waiting := by
  obtain ⟨v, hv, hlt⟩ := h
  exact ⟨v, hv, Nat.le_of_lt hlt⟩

/-- Whatever was sent before, and whether or not it was seen. -/
theorem Waiting.send (h : w.Waiting) (a : A) : (w.send a).Pending := by
  obtain ⟨v, hv, hle⟩ := h
  refine ⟨v, ?_, ?_⟩
  · simp [Watch.send, hv]
  · simp only [Watch.send, hv]
    omega

theorem Pending.changed (h : w.Pending) : ∃ w', w.changed = some w' := by
  obtain ⟨v, hv, hlt⟩ := h
  have hne : v ≠ w.version := by omega
  exact ⟨{ w with seen := some w.version }, by simp [Watch.changed, hv, hne]⟩

theorem Current.changed (h : w.Current) : w.changed = none := by
  unfold Watch.changed
  cases hseen : w.seen with
  | none => rfl
  | some v => simp [h v hseen]

theorem current_close (w : Watch A) : w.close.Current := nofun

end Watch
end TinySocks.Core
