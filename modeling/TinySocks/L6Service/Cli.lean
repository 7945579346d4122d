import TinySocks.Core.CommandLine
import TinySocks.L3Protocol.Config

/-!
# The command line (`cli.rs`)

`Cli.spec` is what the attributes of `Cli` declare, `Cli.ofMatches` what the
derived code makes of a parsed line where no `PROXY_` variable is set: defaults,
numbers, and the allowlist split at its commas. The short forms of the options
are left to the parser; nothing writes them.
-/
namespace TinySocks.L6

open TinySocks.Core TinySocks.L1 TinySocks.L3

def DEFAULT_BIND : Str := "127.0.0.1:1080"

def DEFAULT_MAX_CONNECTIONS : Nat := 1024

/-- mirrors src/cli.rs:86-92 -/
inductive Command where
  | install
  | uninstall
  | winsvc
  deriving DecidableEq, Repr

def Command.ofName (name : Str) : Option Command :=
  if name = "install".toList then some .install
  else if name = "uninstall".toList then some .uninstall
  else if name = "winsvc".toList then some .winsvc
  else none

/-- mirrors src/cli.rs:15-69 -/
structure Cli where
  bind : Str
  maxConnections : Nat
  disableStats : Bool
  username : Option Str
  password : Option Str
  bypassIps : List Str
  command : Option Command
  deriving DecidableEq, Repr

namespace Cli

def spec : CommandLine.Spec where
  commands := ["install", "uninstall", "winsvc"]
  flags := ["disable-stats"]
  options := ["max-connections", "username", "password", "bypass-ip"]
  commands_plain := by decide
  named := by decide
  apart := by decide

/-- The number of connections; `usize` has 64 bits. -/
def readMaxConnections : Option Str → Option Nat
  | none => some DEFAULT_MAX_CONNECTIONS
  | some value => parseUnsigned UInt64.size value

/-- The values of an option that splits them. -/
def readBypassIps : Option Str → List Str
  | none => []
  | some value => value.splitOn ','

def ofMatches (m : CommandLine.Matches) : Option Cli :=
  (readMaxConnections (m.value "max-connections")).map fun maxConnections => {
    bind := m.positional.getD DEFAULT_BIND
    maxConnections
    disableStats := m.flag "disable-stats"
    username := m.value "username"
    password := m.value "password"
    bypassIps := readBypassIps (m.value "bypass-ip")
    command := m.command.bind Command.ofName }

/-- `Cli::try_parse_from`, of the words behind the program's name -/
def tryParseFrom (parse : CommandLine.Parser) (args : List Str) : Option Cli :=
  (parse args).bind ofMatches

/-- mirrors src/cli.rs:73-83 -/
def runtimeOptions (self : Cli) : RuntimeOptions where
  bind := self.bind
  maxConnections := self.maxConnections
  disableStats := self.disableStats
  username := self.username
  password := self.password
  bypassIps := self.bypassIps

/-- Where nothing stands behind the escape, the bind address does not look like an option. -/
theorem bind_plain {parse : CommandLine.Parser} (hp : CommandLine.Lawful spec parse) {args : List Str}
    (he : CommandLine.ESCAPE ∉ args) {cli : Cli} (h : tryParseFrom parse args = some cli) :
    ¬ CommandLine.OptionLike cli.bind := by
  obtain ⟨m, hm, h⟩ := Option.bind_eq_some_iff.1 h
  obtain ⟨n, -, rfl⟩ := Option.map_eq_some_iff.1 h
  show ¬ CommandLine.OptionLike (m.positional.getD DEFAULT_BIND)
  cases hpos : m.positional with
  | none => decide
  | some v => exact hp.positional_plain args m he hm v (CommandLine.Matches.mem_of_positional hpos)

end Cli

/-! ## What an installed service is told -/

section
variable (L : Libs)

/-- The arguments of a service; the two kinds of it differ in the credentials. -/
def serviceArgs (options : RuntimeOptions) (credentials : List Str) : Except Str (List Str) := do
  let _ ← Config.fromRuntimeOptions L options
  let args := [options.bind, "--max-connections".toList, decimal options.maxConnections]
  let args := args ++ credentials
  let args := args ++
    if options.bypassIps.isEmpty then [] else ["--bypass-ip".toList, joinWith "," options.bypassIps]
  let args := args ++ if options.disableStats then ["--disable-stats".toList] else []
  pure args

end

section
variable {L : Libs} {options : RuntimeOptions} {credentials args : List Str}

theorem serviceArgs_ok (h : serviceArgs L options credentials = .ok args) :
    args = [options.bind, "--max-connections".toList, decimal options.maxConnections] ++ credentials ++
        (if options.bypassIps.isEmpty then [] else ["--bypass-ip".toList, joinWith "," options.bypassIps]) ++
        (if options.disableStats then ["--disable-stats".toList] else []) ∧
      ∃ cfg, Config.fromRuntimeOptions L options = .ok cfg := by
  obtain ⟨cfg, hc, h⟩ := except_bind_eq_ok.1 h
  cases h
  exact ⟨rfl, cfg, hc⟩

theorem not_mem_intercalate {c : Char} {sep : Str} (hs : c ∉ sep) : ∀ {parts : List Str},
    (∀ p ∈ parts, c ∉ p) → c ∉ sep.intercalate parts := by
  intro parts
  induction parts with
  | nil => exact fun _ h => nomatch h
  | cons p parts ih =>
    intro h
    obtain ⟨hp, hparts⟩ := List.forall_mem_cons.1 h
    cases parts with
    | nil => simpa using hp
    | cons q parts =>
      rw [List.intercalate_cons_cons]
      simp [hp, hs, ih hparts]

/-- An entry of the allowlist is a text of addresses, networks and blanks. -/
theorem bypassIps_text (hL : L.IpNetText) {cfg : Config}
    (h : Config.fromRuntimeOptions L options = .ok cfg) : ∀ entry ∈ options.bypassIps, entry ≠ [] ∧
      ∀ c, isWhitespace c = false → ¬ AddressChar c → c ≠ '/' → c ∉ entry := by
  obtain ⟨nets, hn, -, -⟩ := fromRuntimeOptions_iff.1 h
  intro entry he
  obtain ⟨net, hnet⟩ := parseAllowlistEntries_ok hn entry he
  obtain ⟨hne, hchars⟩ := allowlistEntry_text hL hnet
  refine ⟨hne, fun c hb ha hs hm => ?_⟩
  rcases hchars c hm with hw | hw | hw
  · rw [hb] at hw
    cases hw
  · exact ha hw
  · exact hs hw

theorem joined_ne_nil (hL : L.IpNetText) {cfg : Config}
    (h : Config.fromRuntimeOptions L options = .ok cfg) (hb : options.bypassIps ≠ []) :
    joinWith "," options.bypassIps ≠ [] := by
  have htext := bypassIps_text hL h
  unfold joinWith
  cases he : options.bypassIps with
  | nil => exact absurd he hb
  | cons entry entries =>
    have hne := (htext entry (by rw [he]; exact .head _)).1
    cases entries with
    | nil => simpa using hne
    | cons entry' entries =>
      rw [List.intercalate_cons_cons]
      simp [hne]

/-- Joined, they are one with commas. -/
theorem joined_text (hL : L.IpNetText) {cfg : Config}
    (h : Config.fromRuntimeOptions L options = .ok cfg) {c : Char} (hb : isWhitespace c = false)
    (ha : ¬ AddressChar c) (hs : c ≠ '/') (hc : c ≠ ',') : c ∉ joinWith "," options.bypassIps := by
  refine not_mem_intercalate (fun hm => hc (List.mem_singleton.1 hm)) fun entry he => ?_
  exact (bypassIps_text hL h entry he).2 c hb ha hs

end

/-- mirrors src/service/mod.rs:87-96 -/
def sampleOptions : RuntimeOptions where
  bind := "0.0.0.0:1080"
  maxConnections := 2048
  disableStats := false
  username := some "admin"
  password := some "secret"
  bypassIps := ["127.0.0.0/8", "::1/128"]

end TinySocks.L6
