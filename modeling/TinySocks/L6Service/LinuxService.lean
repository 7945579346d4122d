import TinySocks.L6Service.Lifecycle
import TinySocks.L6Service.WindowsService

/-!
# From an installation to the running service

What `install` writes is read by systemd, which starts the binary, whose command line
and environment are read by `Cli`. `linux_service_starts` follows the options all the
way: through `quote_arg`, `quote_env_value` and two files, the rules of systemd for
each, and the attributes of `Cli`, to the configuration the service runs with.
-/
namespace TinySocks.L6

open TinySocks.Core TinySocks.Core.Systemd TinySocks.Core.Files TinySocks.Core.CommandLine TinySocks.L1 TinySocks.L3

/-! ## The command line and the environment -/

namespace Cli

/-- A flag, or its variable if it is not on the command line. -/
def readFlag : Bool → Option Str → Option Bool
  | true, _ => some true
  | false, none => some false
  | false, some value =>
    if value = "true".toList then some true else if value = "false".toList then some false else none

/-- An argument that is not on the command line takes the value of its variable.
mirrors src/cli.rs:15-69 -/
def ofMatchesIn (environment : Str → Option Str) (m : Matches) : Option Cli := do
  let maxConnections ← readMaxConnections
    ((m.value "max-connections").or (environment "PROXY_MAX_CONNECTIONS"))
  let disableStats ← readFlag (m.flag "disable-stats") (environment "PROXY_DISABLE_STATS")
  pure {
    bind := (m.positional.or (environment "PROXY_BIND")).getD DEFAULT_BIND
    maxConnections
    disableStats
    username := (m.value "username").or (environment "PROXY_USERNAME")
    password := (m.value "password").or (environment "PROXY_PASSWORD")
    bypassIps := readBypassIps ((m.value "bypass-ip").or (environment "PROXY_BYPASS_IP"))
    command := m.command.bind Command.ofName }

/-- The variables that are read. -/
def environmentNames : List Str :=
  ["PROXY_BIND", "PROXY_MAX_CONNECTIONS", "PROXY_DISABLE_STATS", "PROXY_USERNAME", "PROXY_PASSWORD",
    "PROXY_BYPASS_IP"]

/-- `Cli::parse`, of the words behind the program's name
mirrors src/main.rs:11-12 -/
def parseIn (environment : Str → Option Str) (parse : Parser) (args : List Str) : Option Cli :=
  (parse args).bind (ofMatchesIn environment)

theorem ofMatchesIn_congr {environment environment' : Str → Option Str}
    (h : ∀ name ∈ environmentNames, environment name = environment' name) (m : Matches) :
    ofMatchesIn environment m = ofMatchesIn environment' m := by
  unfold environmentNames at h
  unfold ofMatchesIn
  simp only [List.forall_mem_cons] at h
  obtain ⟨hbind, hmax, hstats, hu, hp, hbypass, -⟩ := h
  rw [hbind, hmax, hstats, hu, hp, hbypass]

/-- Where no variable is set, only the line counts. -/
theorem ofMatchesIn_none (m : Matches) : ofMatchesIn (fun _ => none) m = ofMatches m := by
  unfold ofMatchesIn ofMatches
  simp only [Option.or_none]
  cases readMaxConnections (m.value "max-connections") with
  | none => rfl
  | some n => cases m.flag "disable-stats" <;> rfl

end Cli

/-- A word that is taken for the name of a subcommand. -/
def NamesCommand (spec : Spec) (w : Str) : Prop := w ∈ spec.commands ∨ w = "help".toList

/-- A parser that also reads lines without a subcommand. -/
structure ReadsAlone (spec : Spec) (parse : Parser) : Prop where
  reads : ∀ (v : Str) (items : List Item), ¬ NamesCommand spec v → (∀ i ∈ .positional v :: items, i.Fits spec) →
    ((Item.positional v :: items).map Item.name).Nodup →
    parse (v :: items.flatMap Item.words) = some { items := .positional v :: items }

theorem parse_readsAlone (spec : Spec) : ReadsAlone spec (parse spec) where
  reads := by
    intro v items hv hfit hnd
    rw [parse, if_neg fun hc => hv (.inl hc)]
    exact go_items hfit hnd

/-! ## What systemd does -/

/-- What a unit is started with: its command line, and the variables the unit sets. -/
structure Launch where
  command : List Str
  environment : List (Str × Str)
  deriving DecidableEq, Repr

/-- What a started unit finds in its environment, behind which are the manager's variables. -/
def Launch.finds (service : Launch) (manager : Str → Option Str) (name : Str) : Option Str :=
  (service.environment.lookup name).or (manager name)

/-- The variables of a service come before those of the manager. -/
def withVariables (host : Host) (environment : List (Str × Str)) : Host :=
  { host with environment := fun name => (environment.lookup name).or (host.environment name) }

/-- The variables of the environment file a unit asks for, if it does. -/
def unitEnvironment (host : Host) (fs : FileSystem) (unit : List Str) : Option (List (Str × Str)) :=
  match settings "EnvironmentFile" unit with
  | [] => some []
  | [file] => (fs ((specifiers host.known).expand host.specifierValue file)).bind fun f =>
    environmentFile f.content
  | _ => none

/-- The words of its command line, where these variables are set. -/
def unitCommand (host : Host) (environment : List (Str × Str)) (unit : List Str) : Option (List Str) :=
  match settings "ExecStart" unit with
  | [line] => (withVariables host environment).commandLine line
  | _ => none

/-- What systemd makes of the unit at a path. -/
def launch (host : Host) (fs : FileSystem) (path : Str) : Option Launch := do
  let unit ← fs path
  let environment ← unitEnvironment host fs (lines unit.content)
  let command ← unitCommand host environment (lines unit.content)
  pure { command, environment }

/-! ## What a service is started with -/

section
variable {L : Libs} {options : RuntimeOptions}

/-- What a service is told on its command line, behind the bind address. -/
def linuxItems (options : RuntimeOptions) : List Item :=
  [.option "max-connections" (decimal options.maxConnections)] ++
    (if options.bypassIps.isEmpty then [] else [.option "bypass-ip" (joinWith "," options.bypassIps)]) ++
    if options.disableStats then [.flag "disable-stats"] else []

/-- It is what a Windows service is told, without the credentials. -/
theorem linuxItems_eq (options : RuntimeOptions) : .positional options.bind :: linuxItems options =
    serviceItems { options with username := none, password := none } := rfl

theorem linuxServiceArgs_items {args : List Str} (h : linuxServiceArgs L options = .ok args) :
    args = options.bind :: (linuxItems options).flatMap Item.words := by
  obtain ⟨rfl, -⟩ := serviceArgs_ok h
  unfold linuxItems
  cases options.bypassIps.isEmpty <;> cases options.disableStats <;> rfl

/-- The variables a service finds in its environment file. -/
def credentialVariables (options : RuntimeOptions) : List (Str × Str) :=
  match options.username, options.password with
  | some username, some password => [("PROXY_USERNAME", username), ("PROXY_PASSWORD", password)]
  | _, _ => []

theorem buildEnvFile_reads {envFile : Option Str} (h : buildEnvFile options = .ok envFile) :
    envFile.elim (some []) environmentFile = some (credentialVariables options) := by
  cases envFile with
  | none =>
    have hnone := buildEnvFile_isSome h
    unfold credentialVariables
    cases hu : options.username with
    | none => rfl
    | some username =>
      cases hp : options.password with
      | none => rfl
      | some password =>
        rw [hu, hp] at hnone
        cases hnone
  | some text =>
    obtain ⟨username, password, hu, hp, hlu, hlp, rfl⟩ := buildEnvFile_some h
    unfold credentialVariables
    rw [hu, hp]
    exact environmentFile_envLines hlu hlp

theorem plain_verbatim {known : Char → Bool} {path : Str} (h : ∀ c ∈ path, needsNoQuotes c = true) :
    Verbatim known path := by
  refine verbatim_of_not_mem (fun hm => ?_) fun hm => ?_
  · exact (needsNoQuotes_plain (h _ hm)).2.2.2.1 rfl
  · exact (needsNoQuotes_plain (h _ hm)).2.2.2.2 rfl

theorem envPath_plain : ∀ c ∈ envPath, needsNoQuotes c = true := forall_mem_of_all (by decide)

/-- systemd finds the environment file where it was written. -/
theorem environmentFile_found (host : Host) :
    (specifiers host.known).expand host.specifierValue (quoteArg envPath) = envPath := by
  have hquoted : quoteArg envPath = envPath := if_pos (List.all_eq_true.2 envPath_plain)
  rw [hquoted]
  exact References.expand_of_free (plain_verbatim envPath_plain).1

/-- The words of the command line are resolved to themselves. -/
theorem commandLine_args (hL : L.IpNetText) {args : List Str} (h : linuxServiceArgs L options = .ok args)
    {host : Host} (hbind : Verbatim host.known options.bind) :
    host.commandLine (joinWith " " ((binPath :: args).map quoteArg)) = some (binPath :: args) := by
  obtain ⟨rest, rfl, hne, hrest⟩ := args_verbatim hL h
  have hwords : ∀ arg ∈ binPath :: options.bind :: rest, arg ≠ [] :=
    List.forall_mem_cons.2 ⟨by decide, List.forall_mem_cons.2 ⟨hne, fun arg hm => (hrest arg hm).1⟩⟩
  have hresolve : ∀ arg ∈ binPath :: options.bind :: rest, host.resolve arg = id arg :=
    List.forall_mem_cons.2 ⟨resolve_of_verbatim (plain_verbatim installedBinPath_plain),
      List.forall_mem_cons.2 ⟨resolve_of_verbatim hbind, fun arg hm =>
        resolve_of_verbatim (verbatim_of_not_mem (hrest arg hm).2.1 (hrest arg hm).2.2)⟩⟩
  unfold Host.commandLine
  rw [words_quoted hwords, Option.map_some, List.map_congr_left hresolve, List.map_id]

/-- systemd starts the binary with the options on its command line, and the credentials
in its environment. -/
theorem launch_installed (hL : L.IpNetText) {outside : Outside} {fs fs' : FileSystem} {exe : Str}
    {program : File} {envFile : Option Str} {unit : Str}
    (h : Installs L options outside fs fs' exe program envFile unit) {host : Host}
    (hbind : Verbatim host.known options.bind) :
    launch host fs' servicePath = some {
      command := binPath :: options.bind :: (linuxItems options).flatMap Item.words
      environment := credentialVariables options } := by
  obtain ⟨args, hargs, hunit⟩ := buildUnit_ok h.built
  have hread := buildEnvFile_reads h.credentials
  have hfs : fs' servicePath = some
      { content := unit, mode := (fs servicePath).elim CREATED File.mode } := by
    rw [h.files, FileSystem.set_self]
  have hcommand := @commandLine_args L options hL args hargs
    (withVariables host (credentialVariables options)) hbind
  have henv : unitEnvironment host fs' (lines unit) = some (credentialVariables options) := by
    unfold unitEnvironment
    rw [hunit, lines_unit, settings_environmentFile, ← hread]
    cases he : envFile with
    | none => rfl
    | some text =>
      have hfile : fs' envPath = some { content := text, mode := 0o600 } := by
        rw [h.files, he, FileSystem.set_other paths_apart.2.1.symm, withEnvFile, FileSystem.set_self]
      simp only [Option.map_some, Option.toList_some, List.map_cons, List.map_nil, environmentFile_found, hfile]
      rfl
  have hexec : unitCommand host (credentialVariables options) (lines unit) = some (binPath :: args) := by
    unfold unitCommand
    rw [hunit, lines_unit, settings_execStart]
    exact hcommand
  unfold launch
  simp only [hfs, Option.bind_eq_bind, Option.bind_some, henv, hexec, linuxServiceArgs_items hargs]
  rfl

/-! ## What the service makes of it -/

/-- What a parser that found the items makes of them. -/
theorem linux_matches {m : Matches} (hm : m = { items := .positional options.bind :: linuxItems options }) :
    m.command = none ∧ m.positional = some options.bind ∧
      m.value "max-connections" = some (decimal options.maxConnections) ∧
      m.flag "disable-stats" = options.disableStats ∧
      m.value "bypass-ip" =
        (if options.bypassIps.isEmpty then none else some (joinWith "," options.bypassIps)) ∧
      m.value "username" = none ∧ m.value "password" = none := by
  subst hm
  unfold linuxItems
  cases options.bypassIps.isEmpty <;> cases options.disableStats <;>
    exact ⟨rfl, rfl, rfl, rfl, rfl, rfl, rfl⟩

/-- The variables of the service. -/
def serviceVariables (options : RuntimeOptions) (name : Str) : Option Str :=
  (credentialVariables options).lookup name

theorem serviceVariables_eq (options : RuntimeOptions) :
    (serviceVariables options "PROXY_USERNAME", serviceVariables options "PROXY_PASSWORD") =
      (match options.username, options.password with
        | some username, some password => (some username, some password)
        | _, _ => (none, none)) ∧
    ∀ name : Str, name ≠ "PROXY_USERNAME".toList → name ≠ "PROXY_PASSWORD".toList →
      serviceVariables options name = none := by
  unfold serviceVariables credentialVariables
  cases options.username with
  | none => exact ⟨rfl, fun _ _ _ => rfl⟩
  | some username =>
    cases options.password with
    | none => exact ⟨rfl, fun _ _ _ => rfl⟩
    | some password =>
      refine ⟨rfl, fun name hu hp => ?_⟩
      rw [List.lookup_cons, beq_eq_false_iff_ne.2 hu, List.lookup_cons, beq_eq_false_iff_ne.2 hp]
      rfl

theorem linux_starts (hL : L.IpNetText) {cfg : Config} (h : Config.fromRuntimeOptions L options = .ok cfg)
    {m : Matches} (hm : m = { items := .positional options.bind :: linuxItems options }) :
    ∃ cli, Cli.ofMatchesIn (serviceVariables options) m = some cli ∧ cli.command = none ∧
      Config.fromRuntimeOptions L cli.runtimeOptions = Config.fromRuntimeOptions L options := by
  obtain ⟨hcmd, hpos, hmax, hstats, hbypass, hu, hp⟩ := linux_matches hm
  obtain ⟨hcred, hother⟩ := serviceVariables_eq options
  obtain ⟨hfu, hfp⟩ := told_credentials h hcred
  obtain ⟨nets, -, rfl, hv⟩ := fromRuntimeOptions_iff.1 h
  obtain ⟨-, -, hle, -⟩ := validate_ok.1 hv
  have hlt : options.maxConnections < UInt64.size := Nat.lt_of_le_of_lt hle (by decide)
  have hvars : ∀ v : Option Str, v.or (serviceVariables options "PROXY_MAX_CONNECTIONS") = v ∧
      v.or (serviceVariables options "PROXY_BIND") = v ∧
      v.or (serviceVariables options "PROXY_BYPASS_IP") = v := by
    intro v
    rw [hother _ (by decide) (by decide), hother _ (by decide) (by decide),
      hother _ (by decide) (by decide), Option.or_none]
    exact ⟨rfl, rfl, rfl⟩
  have hflag : Cli.readFlag (m.flag "disable-stats") (serviceVariables options "PROXY_DISABLE_STATS") =
      some options.disableStats := by
    rw [hstats, hother _ (by decide) (by decide)]
    cases options.disableStats <;> rfl
  refine ⟨{
    bind := options.bind
    maxConnections := options.maxConnections
    disableStats := options.disableStats
    username := serviceVariables options "PROXY_USERNAME"
    password := serviceVariables options "PROXY_PASSWORD"
    bypassIps := options.bypassIps
    command := none }, ?_, rfl, fromRuntimeOptions_congr rfl fun nets => ?_⟩
  · unfold Cli.ofMatchesIn
    rw [(hvars _).1, (hvars _).2.1, (hvars _).2.2, hmax, Cli.readMaxConnections, parseUnsigned_decimal hlt,
      hflag, hpos, hbypass, readBypassIps_joined hL h, hu, hp, hcmd]
    rfl
  · unfold RuntimeOptions.config Cli.runtimeOptions
    simp only [hfu, hfp]

/-- The manager sets none of the variables the program reads. -/
def LeavesAlone (manager : Str → Option Str) : Prop := ∀ name ∈ Cli.environmentNames, manager name = none

/-- **An installed service runs with the options it was installed with.** Where the
installation succeeded, systemd finds the unit and its environment file, starts the
installed binary, and what the binary makes of its command line and its environment is
the configuration of the options, credentials included; provided that the bind address
has no reference in it that systemd would resolve, does not look like an option, and is
not the name of a subcommand, and that the manager itself sets no variable of the program. -/
theorem linux_service_starts (hL : L.IpNetText) {parse : Parser} (hp : ReadsAlone Cli.spec parse)
    {outside : Outside} {fs : FileSystem} {d' : Disk}
    (h : install L options (Disk.start outside fs) = .ok () d') (host : Host)
    (hbind : Verbatim host.known options.bind) (hplain : ¬ OptionLike options.bind)
    (hname : ¬ NamesCommand Cli.spec options.bind) :
    ∃ service cli cfg, launch host d'.fs servicePath = some service ∧
      service.command.head? = some binPath ∧ (d'.fs binPath).isSome = true ∧
      (∀ manager, LeavesAlone manager →
        Cli.parseIn (service.finds manager) parse service.command.tail = some cli) ∧
      cli.command = none ∧ Config.fromRuntimeOptions L options = .ok cfg ∧
      Config.fromRuntimeOptions L cli.runtimeOptions = .ok cfg := by
  obtain ⟨exe, program, envFile, unit, hinst⟩ := installs_of_ok h
  obtain ⟨args, hargs, -⟩ := buildUnit_ok hinst.built
  obtain ⟨-, cfg, hcfg⟩ := serviceArgs_ok hargs
  obtain ⟨cli, hcli, hcmd, hsame⟩ := linux_starts hL hcfg rfl
  have hjoined := joined_not_optionLike hL hcfg
  have hfit : ∀ i ∈ .positional options.bind :: linuxItems options, i.Fits Cli.spec := by
    rw [linuxItems_eq]
    exact forall_serviceItems hplain ⟨by decide, decimal_not_optionLike _⟩ (fun _ _ hu => nomatch hu)
      ⟨by decide, hjoined⟩ (List.mem_singleton.2 rfl)
  have hnodup : ((Item.positional options.bind :: linuxItems options).map Item.name).Nodup := by
    rw [linuxItems_eq]
    exact serviceItems_nodup
  refine ⟨_, cli, cfg, launch_installed hL hinst hbind, rfl, ?_, fun manager hmanager => ?_, hcmd, hcfg,
    hsame.trans hcfg⟩
  · rw [hinst.files, FileSystem.set_other paths_apart.1.symm]
    cases envFile with
    | none =>
      rw [withEnvFile, FileSystem.set_self]
      rfl
    | some text =>
      rw [withEnvFile, FileSystem.set_other paths_apart.2.2, FileSystem.set_self]
      rfl
  · unfold Cli.parseIn
    rw [List.tail_cons, hp.reads options.bind (linuxItems options) hname hfit hnodup, Option.bind_some,
      ← hcli]
    refine Cli.ofMatchesIn_congr (fun name hm => ?_) _
    unfold Launch.finds
    rw [hmanager name hm, Option.or_none]
    rfl

end

/-- The variables of a manager. -/
def managerVariables (name : Str) : Option Str :=
  if name = "PATH".toList then some "/usr/local/bin:/usr/bin".toList
  else if name = "LANG".toList then some "C.UTF-8".toList
  else none

theorem managerVariables_leavesAlone : LeavesAlone managerVariables := by
  unfold LeavesAlone
  decide

/-- A fresh system, and the options of the example. -/
theorem linux_service_starts_sample : ∃ service cli cfg,
    launch versionedHost (installed plainLibs sampleOptions (.calm "/root/tinysocks") freshSystem).fs
      servicePath = some service ∧ service.command.head? = some binPath ∧
    ((installed plainLibs sampleOptions (.calm "/root/tinysocks") freshSystem).fs binPath).isSome = true ∧
    Cli.parseIn (service.finds managerVariables) (parse Cli.spec) service.command.tail = some cli ∧
    cli.command = none ∧ Config.fromRuntimeOptions plainLibs sampleOptions = .ok cfg ∧
    Config.fromRuntimeOptions plainLibs cli.runtimeOptions = .ok cfg := by
  have hverbatim : Verbatim versionedHost.known sampleOptions.bind :=
    verbatim_of_not_mem (by decide) (by decide)
  have hname : ¬ NamesCommand Cli.spec sampleOptions.bind := by
    rintro (hm | hm) <;> revert hm <;> decide
  obtain ⟨service, cli, cfg, hlaunch, hcommand, hbinary, hparse, hrest⟩ :=
    @linux_service_starts plainLibs sampleOptions plainLibs_ipNetText _ (parse_readsAlone Cli.spec)
      (.calm "/root/tinysocks") freshSystem _ rfl versionedHost hverbatim (by decide) hname
  exact ⟨service, cli, cfg, hlaunch, hcommand, hbinary, hparse _ managerVariables_leavesAlone, hrest⟩

end TinySocks.L6
