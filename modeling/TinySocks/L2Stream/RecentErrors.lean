import TinySocks.L2Stream.StatsPage

/-!
# The recent errors (`stats.rs`)

Behaviour (stats.rs:280-299, 379-392): a full buffer gives up its oldest message
before it takes a new one, and a long message is cut at the byte where its 241st
character starts.

Spec: the buffer is a function of the messages so far, and the cut one of a
message's characters (`shownMessage`).

* `recordError_eq`: the cut is between two characters, and the state that of `StatsPage`.
* `recent_errors_exact`: the buffer has the last hundred messages, the page the same
  the other way round.
-/
namespace TinySocks.L2

open TinySocks.Core

/-- The handle: nothing, or what all tasks share.
mirrors src/stats.rs:16-17 -/
abbrev Stats := Option StatsInner

/-- With the byte position the text is cut at.
mirrors src/stats.rs:379-392 -/
def truncateAtIndex (message : Str) : Except (Abort Str) Str :=
  if (Utf8.encode message).length ≤ MAX_ERROR_MESSAGE_CHARS then .ok message
  else
    match (Utf8.charIndices message)[MAX_ERROR_MESSAGE_CHARS]? with
    | some (i, _) => do
      let cut ← Utf8.sliceTo message i
      pure (cut ++ "...")
    | none => .ok message

/-- mirrors src/stats.rs:280-299 -/
def Stats.recordError (self : Stats) (unixSeconds : UInt64) (message : Str) : Except (Abort Str) Stats :=
  match self with
  | none => .ok none
  | some inner => do
    let message ← truncateAtIndex (normalizeErrorMessage message)
    let errors := inner.recentErrors
    let errors := if errors.length = MAX_RECENT_ERRORS then errors.tail else errors
    pure (some { inner with recentErrors := errors ++ [{ unixSeconds, message }] })

/-- The calls of all tasks, in the order in which they got hold of the buffer. -/
def Stats.recordErrors (self : Stats) (calls : List (UInt64 × Str)) : Except (Abort Str) Stats :=
  calls.foldlM (fun stats call => stats.recordError call.1 call.2) self

/-- What is shown of a message: its words, with one space between them, and no
more than the first 240 characters. -/
def shownMessage (message : Str) : Str :=
  let line := List.intercalate " " (splitWhitespace message)
  if 240 < line.length then line.take 240 ++ "..." else line

/-! ## The cut -/

theorem truncateErrorMessage_eq (message : Str) : truncateErrorMessage message =
    if MAX_ERROR_MESSAGE_CHARS < message.length then message.take MAX_ERROR_MESSAGE_CHARS ++ "..."
    else message := by
  unfold truncateErrorMessage
  split
  · -- no more bytes means no more characters
    rename_i hle
    rw [if_neg (Nat.not_lt.2 (Nat.le_trans (Utf8.length_le_encode message) hle))]
  · rfl

theorem truncateAtIndex_eq (message : Str) :
    truncateAtIndex message = .ok (truncateErrorMessage message) := by
  unfold truncateAtIndex truncateErrorMessage
  split
  · rfl
  rw [Utf8.charIndices_getElem?]
  split
  · rename_i hi
    obtain ⟨c, hc, he⟩ := Option.map_eq_some_iff.1 hi
    obtain ⟨hlt, -⟩ := List.getElem?_eq_some_iff.1 hc
    cases he
    rw [Utf8.sliceTo_take, if_pos hlt]
    rfl
  · rename_i hi
    rw [if_neg (Nat.not_lt.2 (List.getElem?_eq_none_iff.1 (Option.map_eq_none_iff.1 hi)))]

/-- One call never leaves the text, and stores what `StatsPage` says. -/
theorem recordError_eq (inner : StatsInner) (unixSeconds : UInt64) (message : Str) :
    Stats.recordError (some inner) unixSeconds message =
      .ok (some (inner.recordError unixSeconds message)) := by
  unfold Stats.recordError
  rw [truncateAtIndex_eq]
  rfl

/-! ## A run -/

def recordCall (call : UInt64 × Str) : UInt64 × StatOp := (call.1, .recordError call.2)

theorem recordErrors_eq (inner : StatsInner) (calls : List (UInt64 × Str)) :
    Stats.recordErrors (some inner) calls = .ok (some (inner.calls (calls.map recordCall))) := by
  induction calls generalizing inner with
  | nil => rfl
  | cons call calls ih =>
    unfold Stats.recordErrors at *
    rw [List.foldlM_cons, recordError_eq]
    exact ih _

theorem recentError_eq (unixSeconds : UInt64) (message : Str) :
    recentError unixSeconds message = ⟨unixSeconds, shownMessage message⟩ := by
  unfold recentError shownMessage normalizeErrorMessage
  rw [truncateErrorMessage_eq]
  rfl

/-- **The buffer has exactly the last hundred messages**, oldest first, and the page
lists them newest first. -/
theorem recent_errors_exact (counters : Counters) (calls : List (UInt64 × Str)) :
    ∃ inner, Stats.recordErrors (some { counters }) calls = .ok (some inner) ∧
      inner.recentErrors.length = min calls.length 100 ∧
      inner.recentErrors =
        (calls.drop (calls.length - 100)).map (fun call => ⟨call.1, shownMessage call.2⟩) ∧
      renderRecentErrors inner.recentErrors =
        if calls = [] then "<tr><td class=\"empty-value\">No recent errors</td></tr>".toList
        else (calls.drop (calls.length - 100)).reverse.flatMap fun call =>
          errorRow call.1 (escapeHtml (shownMessage call.2)) := by
  have hstored : (calls.map recordCall).filterMap stored =
      calls.map fun call => ⟨call.1, shownMessage call.2⟩ := by
    rw [List.filterMap_map, ← List.filterMap_eq_map]
    refine List.filterMap_congr fun call _ => ?_
    exact congrArg some (recentError_eq call.1 call.2)
  have hrun : (StatsInner.calls { counters } (calls.map recordCall)).recentErrors =
      (calls.drop (calls.length - 100)).map fun call => ⟨call.1, shownMessage call.2⟩ := by
    rw [recentErrors_run (Nat.zero_le _), hstored, List.nil_append, List.rtake, List.length_map,
      List.map_drop]
    rfl
  refine ⟨_, recordErrors_eq _ _, ?_, hrun, ?_⟩
  · rw [hrun, List.length_map, List.length_drop]
    omega
  · rw [hrun]
    rw [renderRecentErrors_rows]
    have hnil : calls.drop (calls.length - 100) = [] ↔ calls = [] := by
      rw [List.drop_eq_nil_iff, ← List.length_eq_zero_iff]
      omega
    simp only [List.map_eq_nil_iff, hnil, ← List.map_reverse, List.flatMap_map]

end TinySocks.L2
