import TinySocks.Core.Systemd
import TinySocks.L6Service.Cli

/-!
# The unit of a systemd service (`service/linux.rs`)

`build_unit` puts the command line of the service into one line of its unit, each
argument quoted by `quote_arg`. systemd finds the words again (`words_quoted`), but
then resolves the references in them, and `quote_arg` leaves `%` and `$` alone.

* `exec_start_iff`: systemd runs the binary with the intended arguments exactly if
  there is no reference in the bind address.
-/
namespace TinySocks.L6

open TinySocks.Core TinySocks.Core.Systemd TinySocks.L1 TinySocks.L3

def SERVICE_DESCRIPTION : Str := "TinySocks SOCKS5/HTTP proxy service"

def LINUX_SERVICE_NAME : Str := "tinysocks"

def DEFAULT_LINUX_BIN_DIR : Str := "/usr/local/bin"

def DEFAULT_LINUX_CONFIG_DIR : Str := "/etc/tinysocks"

def SYSTEMD_UNIT_DIR : Str := "/etc/systemd/system"

/-- mirrors src/service/linux.rs:18-20 -/
def installedBinPath (serviceName : Str) : Str := DEFAULT_LINUX_BIN_DIR ++ "/" ++ serviceName

/-- mirrors src/service/linux.rs:23-25 -/
def envFilePath (serviceName : Str) : Str := DEFAULT_LINUX_CONFIG_DIR ++ "/" ++ serviceName ++ ".env"

/-- mirrors src/service/linux.rs:28-30 -/
def unitPath (serviceName : Str) : Str := SYSTEMD_UNIT_DIR ++ "/" ++ serviceName ++ ".service"

/-- The argument may stand without quotes. -/
def needsNoQuotes (c : Char) : Bool := c.isAlphanum || "-_./:@=,".toList.contains c

def escapeArgChar (c : Char) : Str :=
  match c with
  | '\\' => ['\\', '\\']
  | '"' => ['\\', '"']
  | '\n' => ['\\', 'n']
  | '\t' => ['\\', 't']
  | c => [c]

/-- mirrors src/service/linux.rs:33-52 -/
def quoteArg (arg : Str) : Str :=
  if arg.all needsNoQuotes then arg else '"' :: (arg.flatMap escapeArgChar ++ "\"")

section
variable (L : Libs)

/-- mirrors src/service/linux.rs:78-94 -/
def linuxServiceArgs (options : RuntimeOptions) : Except Str (List Str) := serviceArgs L options []

/-- mirrors src/service/linux.rs:97-139 -/
def buildUnit (installedBin : Str) (envFile : Option Str) (options : RuntimeOptions) : Except Str Str :=
  if options.username.isSome && envFile.isNone then
    .error "credentialed Linux services require a private EnvironmentFile"
  else do
    let args ← linuxServiceArgs L options
    let command := quoteArg installedBin :: args.map quoteArg
    let execStart := joinWith " " command
    let environmentFile := match envFile with
      | some path => "EnvironmentFile=" ++ quoteArg path ++ "\n"
      | none => []
    pure (
      ("[Unit]\n" ++
        ("Description=" ++ SERVICE_DESCRIPTION ++ "\n") ++
        "Wants=network-online.target\n" ++
        "After=network-online.target\n" ++
        "\n" ++
        "[Service]\n" ++
        "Type=simple\n" ++
        "User=nobody\n") ++
      environmentFile ++
      ("ExecStart=" ++ execStart ++ "\n") ++
      ("Restart=on-failure\n" ++
        "RestartSec=5s\n" ++
        "\n" ++
        "[Install]\n" ++
        "WantedBy=multi-user.target\n"))

end

/-- The lines of a unit. -/
def unitLines (envFile : Option Str) (execStart : Str) : List Str :=
  ["[Unit]".toList, "Description=" ++ SERVICE_DESCRIPTION, "Wants=network-online.target".toList,
    "After=network-online.target".toList, [], "[Service]".toList, "Type=simple".toList,
    "User=nobody".toList] ++
  (envFile.toList.map fun path => "EnvironmentFile=" ++ quoteArg path) ++
  ["ExecStart=" ++ execStart, "Restart=on-failure".toList, "RestartSec=5s".toList, [], "[Install]".toList,
    "WantedBy=multi-user.target".toList]

/-! ## Quoting -/

theorem needsNoQuotes_plain {c : Char} (h : needsNoQuotes c = true) :
    isSeparator c = false ∧ c ≠ '"' ∧ c ≠ '\n' ∧ c ≠ '%' ∧ c ≠ '$' := by
  refine ⟨?_, ?_, ?_, ?_, ?_⟩
  · cases hb : isSeparator c with
    | false => rfl
    | true =>
      simp only [isSeparator, Bool.or_eq_true, beq_iff_eq] at hb
      rcases hb with ((rfl | rfl) | rfl) | rfl <;> revert h <;> decide
  all_goals
    intro he
    subst he
    revert h
    decide

theorem escapedAs_escapeArgChar (c : Char) : EscapedAs c (escapeArgChar c) := by
  unfold escapeArgChar
  split
  · exact .inr ⟨'\\', rfl, rfl⟩
  · exact .inr ⟨'"', rfl, rfl⟩
  · exact .inr ⟨'n', rfl, rfl⟩
  · exact .inr ⟨'t', rfl, rfl⟩
  · rename_i hb hq _ _
    exact .inl ⟨rfl, hq, hb⟩

/-- An argument that is not empty is read as it was. -/
theorem written_quoteArg {arg : Str} (h : arg ≠ []) : Written (quoteArg arg) arg := by
  unfold quoteArg
  split
  · rename_i hall
    refine .bare h fun c hc => ?_
    obtain ⟨hb, hq, -⟩ := needsNoQuotes_plain (List.all_eq_true.1 hall c hc)
    exact ⟨hb, hq⟩
  · exact .quoted fun c _ => escapedAs_escapeArgChar c

theorem newline_not_mem_quoteArg (arg : Str) : '\n' ∉ quoteArg arg := by
  unfold quoteArg
  split
  · rename_i hall
    intro hm
    exact (needsNoQuotes_plain (List.all_eq_true.1 hall _ hm)).2.2.1 rfl
  · intro hm
    rcases List.mem_cons.1 hm with he | hm
    · cases he
    rcases List.mem_append.1 hm with hm | hm
    · obtain ⟨c, -, hc⟩ := List.mem_flatMap.1 hm
      unfold escapeArgChar at hc
      split at hc
      · revert hc
        decide
      · revert hc
        decide
      · revert hc
        decide
      · revert hc
        decide
      · rename_i hn _
        exact hn (List.mem_singleton.1 hc).symm
    · revert hm
      decide

section
variable {L : Libs} {options : RuntimeOptions} {installedBin unit : Str} {envFile : Option Str}

/-- A unit is its lines, and its command line the quoted arguments. -/
theorem buildUnit_ok (h : buildUnit L installedBin envFile options = .ok unit) :
    ∃ args, linuxServiceArgs L options = .ok args ∧ 
      unit = unlines (unitLines envFile (joinWith " " ((installedBin :: args).map quoteArg))) := by
  unfold buildUnit at h
  split at h
  · cases h
  obtain ⟨args, ha, h⟩ := except_bind_eq_ok.1 h
  refine ⟨args, ha, ?_⟩
  cases h
  unfold unitLines unlines
  rw [List.flatMap_append, List.flatMap_append, List.append_assoc]
  refine congr (congrArg _ (congr (congrArg _ ?_) ?_)) ?_
  · rfl
  · cases envFile with
    | none => rfl
    | some path => simp
  · rfl

theorem newline_not_mem_execStart (args : List Str) : '\n' ∉ joinWith " " (args.map quoteArg) := by
  refine not_mem_intercalate (by decide) fun p hp => ?_
  obtain ⟨arg, -, rfl⟩ := List.mem_map.1 hp
  exact newline_not_mem_quoteArg arg

/-- No argument, and no path, reaches into another line. -/
theorem lines_unit (envFile : Option Str) (args : List Str) :
    lines (unlines (unitLines envFile (joinWith " " (args.map quoteArg)))) =
      unitLines envFile (joinWith " " (args.map quoteArg)) ++ [[]] := by
  have hfixed : ∀ l ∈ ["[Unit]".toList, "Description=" ++ SERVICE_DESCRIPTION,
      "Wants=network-online.target".toList, "After=network-online.target".toList, [],
      "[Service]".toList, "Type=simple".toList, "User=nobody".toList], '\n' ∉ l := by decide
  have hrest : ∀ l ∈ ["Restart=on-failure".toList, "RestartSec=5s".toList, [], "[Install]".toList,
      "WantedBy=multi-user.target".toList], '\n' ∉ l := by decide
  refine lines_unlines ?_
  unfold unitLines
  refine List.forall_mem_append.2 ⟨List.forall_mem_append.2 ⟨hfixed, ?_⟩, ?_⟩
  · intro l hl
    obtain ⟨path, -, rfl⟩ := List.mem_map.1 hl
    exact List.not_mem_append (by decide) (newline_not_mem_quoteArg path)
  · exact List.forall_mem_cons.2 ⟨List.not_mem_append (by decide) (newline_not_mem_execStart args), hrest⟩

/-- One of the lines is the command line. -/
theorem settings_execStart (envFile : Option Str) (execStart : Str) :
    settings "ExecStart" (unitLines envFile execStart ++ [[]]) = [execStart] := by
  cases envFile <;> rfl

/-- What the service is told besides its bind address has no references. -/
theorem args_verbatim (hL : L.IpNetText) {args : List Str} (h : linuxServiceArgs L options = .ok args) :
    ∃ rest, args = options.bind :: rest ∧ options.bind ≠ [] ∧
      ∀ arg ∈ rest, arg ≠ [] ∧ '%' ∉ arg ∧ '$' ∉ arg := by
  obtain ⟨rfl, cfg, hc⟩ := serviceArgs_ok h
  refine ⟨_, rfl, ?_, ?_⟩
  · obtain ⟨nets, -, rfl, hv⟩ := fromRuntimeOptions_iff.1 hc
    exact (validate_ok.1 hv).1
  have hnum : ∀ c, c.isDigit = false → c ∉ decimal options.maxConnections := by
    intro c hc hm
    rw [isDigit_decimal hm] at hc
    cases hc
  refine List.forall_mem_cons.2 ⟨by decide, List.forall_mem_cons.2
    ⟨⟨Nat.toDigits_ne_nil, hnum _ (by decide), hnum _ (by decide)⟩, ?_⟩⟩
  refine List.forall_mem_append.2 ⟨?_, ?_⟩
  · show ∀ arg ∈ (if options.bypassIps.isEmpty then [] else _), _
    split
    · exact fun _ h => nomatch h
    · rename_i hb
      refine List.forall_mem_cons.2 ⟨by decide, List.forall_mem_cons.2 ⟨⟨?_, ?_, ?_⟩, fun _ h => nomatch h⟩⟩
      · exact joined_ne_nil hL hc fun he => hb (by rw [he]; rfl)
      all_goals exact joined_text hL hc (by decide) (by decide) (by decide) (by decide)
  · split
    · exact List.forall_mem_cons.2 ⟨by decide, fun _ h => nomatch h⟩
    · exact fun _ h => nomatch h

/-- systemd finds the words of a command line again. -/
theorem words_quoted {args : List Str} (h : ∀ arg ∈ args, arg ≠ []) :
    words (joinWith " " (args.map quoteArg)) = some args :=
  words_intercalate fun arg ha => written_quoteArg (h arg ha)

/-- **systemd runs the installed binary with exactly the intended arguments if, and
only if, there is no reference in the bind address.** The unit has its command line
on one line, whatever is in it, and the words of that line are the path and the
arguments; then `%` and `$`, which were not doubled, are resolved in each of them.
Nothing but the bind address can have any. -/
theorem exec_start_iff (hL : L.IpNetText) (hne : installedBin ≠ [])
    (hpath : ∀ c ∈ installedBin, needsNoQuotes c = true)
    (h : buildUnit L installedBin envFile options = .ok unit) (known : Char → Bool) :
    (∃ line args, linuxServiceArgs L options = .ok args ∧
      lines unit = unitLines envFile line ++ [[]] ∧ settings "ExecStart" (lines unit) = [line] ∧
      ∀ host : Host, host.known = known → host.commandLine line = some (installedBin :: args)) ↔
    Verbatim known options.bind := by
  obtain ⟨args, ha, rfl⟩ := buildUnit_ok h
  obtain ⟨rest, rfl, hbind, hrest⟩ := args_verbatim hL ha
  have hwords := @words_quoted (installedBin :: options.bind :: rest)
    (List.forall_mem_cons.2 ⟨hne, List.forall_mem_cons.2 ⟨hbind, fun arg hm => (hrest arg hm).1⟩⟩)
  have hcommand : ∀ host : Host, host.commandLine (joinWith " "
      ((installedBin :: options.bind :: rest).map quoteArg)) =
        some ((installedBin :: options.bind :: rest).map host.resolve) := by
    intro host
    unfold Host.commandLine
    rw [hwords]
    rfl
  rw [lines_unit, settings_execStart]
  constructor
  · intro hx
    obtain ⟨line, args, ha', -, hline, hall⟩ := hx
    cases ha.symm.trans ha'
    cases hline
    have hsame := (hcommand (emptyHost known)).symm.trans (hall (emptyHost known) rfl)
    injection Option.some.inj hsame with _ hargs
    exact verbatim_of_resolve (List.cons.inj hargs).1
  · intro hv
    refine ⟨_, _, ha, rfl, rfl, ?_⟩
    intro host he
    subst he
    have hbin : Verbatim host.known installedBin := by
      refine verbatim_of_not_mem (fun hm => ?_) fun hm => ?_
      · exact (needsNoQuotes_plain (hpath _ hm)).2.2.2.1 rfl
      · exact (needsNoQuotes_plain (hpath _ hm)).2.2.2.2 rfl
    have hresolve : ∀ arg ∈ installedBin :: options.bind :: rest, host.resolve arg = id arg :=
      List.forall_mem_cons.2 ⟨resolve_of_verbatim hbin, List.forall_mem_cons.2
        ⟨resolve_of_verbatim hv, fun arg hm =>
          resolve_of_verbatim (verbatim_of_not_mem (hrest arg hm).2.1 (hrest arg hm).2.2)⟩⟩
    rw [hcommand host, List.map_congr_left hresolve, List.map_id]

end

/-! ## Two units -/

theorem installedBinPath_plain : ∀ c ∈ installedBinPath LINUX_SERVICE_NAME, needsNoQuotes c = true :=
  forall_mem_of_all (by decide)

theorem exec_start_iff_sample : ∃ unit, buildUnit plainLibs (installedBinPath LINUX_SERVICE_NAME)
      (some (envFilePath LINUX_SERVICE_NAME)) sampleOptions = .ok unit ∧
    ((∃ line args, linuxServiceArgs plainLibs sampleOptions = .ok args ∧
      lines unit = unitLines (some (envFilePath LINUX_SERVICE_NAME)) line ++ [[]] ∧
      settings "ExecStart" (lines unit) = [line] ∧ ∀ host : Host, host.known = Char.isAlpha →
        host.commandLine line = some (installedBinPath LINUX_SERVICE_NAME :: args)) ↔
    Verbatim Char.isAlpha sampleOptions.bind) :=
  ⟨_, rfl, exec_start_iff plainLibs_ipNetText (by decide) installedBinPath_plain rfl Char.isAlpha⟩

/-- A link-local address on an interface. -/
def scopedOptions : RuntimeOptions := { sampleOptions with bind := "[fe80::1%wlan0]:1080" }

/-- `%w` is the version of the operating system. -/
def versionedHost : Host where
  known c := c == 'w'
  specifier _ := "12"
  environment _ := none

/-- What is written for it. -/
def scopedLine : Str :=
  "/usr/local/bin/tinysocks \"[fe80::1%wlan0]:1080\" --max-connections 2048 --bypass-ip 127.0.0.0/8,::1/128"

/-- The service is told another address than was given at the installation. -/
theorem exec_start_scoped_bind : linuxServiceArgs plainLibs scopedOptions = .ok ["[fe80::1%wlan0]:1080",
      "--max-connections", "2048", "--bypass-ip", "127.0.0.0/8,::1/128"] ∧
    (∃ unit, buildUnit plainLibs (installedBinPath LINUX_SERVICE_NAME)
      (some (envFilePath LINUX_SERVICE_NAME)) scopedOptions = .ok unit ∧
      settings "ExecStart" (lines unit) = [scopedLine]) ∧
    versionedHost.commandLine scopedLine = some (["/usr/local/bin/tinysocks", "[fe80::112lan0]:1080",
      "--max-connections", "2048", "--bypass-ip", "127.0.0.0/8,::1/128"] : List Str) := by
  have ha : linuxServiceArgs plainLibs scopedOptions = .ok ["[fe80::1%wlan0]:1080",
    "--max-connections", "2048", "--bypass-ip", "127.0.0.0/8,::1/128"] := rfl
  obtain ⟨unit, hu⟩ : ∃ unit, buildUnit plainLibs (installedBinPath LINUX_SERVICE_NAME)
      (some (envFilePath LINUX_SERVICE_NAME)) scopedOptions = .ok unit := ⟨_, rfl⟩
  obtain ⟨args, ha', rfl⟩ := buildUnit_ok hu
  cases ha.symm.trans ha'
  refine ⟨ha, ⟨_, hu, ?_⟩, by decide +kernel⟩
  rw [lines_unit, settings_execStart]
  exact congrArg (List.cons · []) (by decide +kernel)

end TinySocks.L6
