import TinySocks.L6Service.Cli

/-!
# The arguments of a Windows service (`service/mod.rs`)

A service is started with the command line `windows_service_args` writes. Its
words are those of `serviceItems`, and a parser finds these again, unless a value
looks like an option: each is written as a word of its own.

* `windows_service_starts_iff`: the service starts with its options exactly if
  neither the bind address nor the credentials look like options.
-/
namespace TinySocks.L6

open TinySocks.Core TinySocks.Core.CommandLine TinySocks.L1 TinySocks.L3

section
variable (L : Libs)

/-- mirrors src/service/mod.rs:48-72 -/
def runtimeArgs (options : RuntimeOptions) : Except Str (List Str) :=
  serviceArgs L options <| match options.username, options.password with
    | some username, some password => ["--username".toList, username, "--password".toList, password]
    | _, _ => []

/-- mirrors src/service/mod.rs:76-80 -/
def windowsServiceArgs (options : RuntimeOptions) : Except Str (List Str) := do
  let args ← runtimeArgs L options
  pure ("winsvc".toList :: args)

end

/-- What a service is told, item by item. -/
def serviceItems (options : RuntimeOptions) : List Item :=
  [.positional options.bind, .option "max-connections" (decimal options.maxConnections)] ++
    (match options.username, options.password with
      | some username, some password => [.option "username" username, .option "password" password]
      | _, _ => []) ++
    (if options.bypassIps.isEmpty then [] else [.option "bypass-ip" (joinWith "," options.bypassIps)]) ++
    if options.disableStats then [.flag "disable-stats"] else []

/-- No value among the items looks like an option. -/
def PlainOptions (options : RuntimeOptions) : Prop :=
  ¬ OptionLike options.bind ∧ ∀ username password, options.username = some username →
    options.password = some password → ¬ OptionLike username ∧ ¬ OptionLike password

section
variable {L : Libs} {options : RuntimeOptions} {args : List Str}

theorem windowsServiceArgs_eq (h : windowsServiceArgs L options = .ok args) :
    args = "winsvc".toList :: (serviceItems options).flatMap Item.words ∧
      ∃ cfg, Config.fromRuntimeOptions L options = .ok cfg := by
  obtain ⟨words, hw, h⟩ := except_bind_eq_ok.1 h
  obtain ⟨rfl, cfg, hc⟩ := serviceArgs_ok hw
  cases h
  refine ⟨congrArg (List.cons _) ?_, cfg, hc⟩
  unfold serviceItems
  rw [List.flatMap_append, List.flatMap_append, List.flatMap_append]
  refine congr (congrArg _ (congr (congrArg _ (congr (congrArg _ rfl) ?_)) ?_)) ?_
  · cases options.username with
    | none => rfl
    | some username =>
      cases options.password with
      | none => rfl
      | some password => rfl
  · cases options.bypassIps.isEmpty with
    | false => rfl
    | true => rfl
  · cases options.disableStats with
    | false => rfl
    | true => rfl

/-- No item is there twice. -/
theorem serviceItems_nodup : ((serviceItems options).map Item.name).Nodup := by
  have hall : ([none, some "max-connections".toList] ++
      [some "username".toList, some "password".toList] ++
      [some "bypass-ip".toList] ++ [some "disable-stats".toList]).Nodup := by decide
  refine hall.sublist ?_
  unfold serviceItems
  rw [List.map_append, List.map_append, List.map_append]
  refine List.Sublist.append (List.Sublist.append (List.Sublist.append (.refl _) ?_) ?_) ?_
  · cases options.username with
    | none => exact List.nil_sublist _
    | some username =>
      cases options.password with
      | none => exact List.nil_sublist _
      | some password => exact .refl _
  · cases options.bypassIps.isEmpty with
    | false => exact .refl _
    | true => exact List.nil_sublist _
  · cases options.disableStats with
    | false => exact List.nil_sublist _
    | true => exact .refl _

/-- What holds of each item that may be there. -/
theorem forall_serviceItems {P : Item → Prop} (hbind : P (.positional options.bind))
    (hmax : P (.option "max-connections" (decimal options.maxConnections)))
    (hcred : ∀ username password, options.username = some username → options.password = some password →
      P (.option "username" username) ∧ P (.option "password" password))
    (hbypass : P (.option "bypass-ip" (joinWith "," options.bypassIps)))
    (hstats : P (.flag "disable-stats")) : ∀ i ∈ serviceItems options, P i := by
  have hnone : ∀ i ∈ ([] : List Item), P i := fun i hi => nomatch hi
  have hone : ∀ {i : Item}, P i → ∀ j ∈ [i], P j := fun h => List.forall_mem_cons.2 ⟨h, hnone⟩
  unfold serviceItems
  refine List.forall_mem_append.2 ⟨List.forall_mem_append.2 ⟨List.forall_mem_append.2 ⟨?_, ?_⟩, ?_⟩, ?_⟩
  · exact List.forall_mem_cons.2 ⟨hbind, hone hmax⟩
  · cases hu : options.username with
    | none => exact hnone
    | some username =>
      cases hp : options.password with
      | none => exact hnone
      | some password =>
        obtain ⟨hcu, hcp⟩ := hcred username password hu hp
        exact List.forall_mem_cons.2 ⟨hcu, hone hcp⟩
  · split
    · exact hnone
    · exact hone hbypass
  · split
    · exact hone hstats
    · exact hnone

theorem decimal_not_optionLike (n : Nat) : ¬ OptionLike (decimal n) := by
  intro hx
  obtain ⟨h, -⟩ := hx
  cases isDigit_decimal (List.mem_of_mem_head? h)

theorem joined_not_optionLike (hL : L.IpNetText) {cfg : Config}
    (h : Config.fromRuntimeOptions L options = .ok cfg) :
    ¬ OptionLike (joinWith "," options.bypassIps) := by
  intro hx
  obtain ⟨hd, -⟩ := hx
  exact joined_text hL h (by decide) (by decide) (by decide) (by decide) (List.mem_of_mem_head? hd)

/-- The items a parser finds again. -/
theorem serviceItems_fit (hL : L.IpNetText) {cfg : Config}
    (h : Config.fromRuntimeOptions L options = .ok cfg) (hplain : PlainOptions options) :
    ∀ i ∈ serviceItems options, i.Fits Cli.spec := by
  obtain ⟨hbind, hcred⟩ := hplain
  refine forall_serviceItems hbind ⟨by decide, decimal_not_optionLike _⟩ ?_
    ⟨by decide, joined_not_optionLike hL h⟩ (List.mem_singleton.2 rfl)
  intro username password hu hp
  obtain ⟨hplainu, hplainp⟩ := hcred username password hu hp
  exact ⟨⟨by decide, hplainu⟩, ⟨by decide, hplainp⟩⟩

/-- What a parser that found the items makes of them. -/
theorem launched_matches {m : Matches}
    (hm : m = { command := some "winsvc".toList, items := serviceItems options }) :
    m.command = some "winsvc".toList ∧ m.positional = some options.bind ∧
      m.value "max-connections" = some (decimal options.maxConnections) ∧
      m.flag "disable-stats" = options.disableStats ∧
      m.value "bypass-ip" =
        (if options.bypassIps.isEmpty then none else some (joinWith "," options.bypassIps)) ∧
      (m.value "username", m.value "password") = (match options.username, options.password with
        | some username, some password => (some username, some password)
        | _, _ => (none, none)) := by
  subst hm
  unfold serviceItems
  cases options.username <;> cases options.password <;> cases options.bypassIps.isEmpty <;>
    cases options.disableStats <;> exact ⟨rfl, rfl, rfl, rfl, rfl, rfl⟩

/-- The entries were joined at commas, and are split there. -/
theorem readBypassIps_joined (hL : L.IpNetText) {cfg : Config}
    (h : Config.fromRuntimeOptions L options = .ok cfg) :
    Cli.readBypassIps (if options.bypassIps.isEmpty then none else some (joinWith "," options.bypassIps)) =
      options.bypassIps := by
  cases hb : options.bypassIps with
  | nil => rfl
  | cons entry entries =>
    rw [← hb, if_neg (by simp [hb])]
    refine List.splitOn_intercalate ',' (fun e he => ?_) (by simp [hb])
    exact (bypassIps_text hL h e he).2 ',' (by decide) (by decide) (by decide)

/-- Credentials that are not told to the service are none. -/
theorem told_credentials {cfg : Config} (h : Config.fromRuntimeOptions L options = .ok cfg)
    {username password : Option Str}
    (hc : (username, password) = match options.username, options.password with
      | some username, some password => (some username, some password)
      | _, _ => (none, none)) :
    username.filter (fun value => !value.isEmpty) = options.username.filter (fun value => !value.isEmpty) ∧
      password.filter (fun value => !value.isEmpty) =
        options.password.filter (fun value => !value.isEmpty) := by
  obtain ⟨hv, hu, hp⟩ := fromRuntimeOptions_ok h
  obtain ⟨-, -, -, -, htogether⟩ := validate_ok.1 hv
  rw [hu, hp] at htogether
  cases hou : options.username with
  | none =>
    rw [hou] at hc htogether
    cases hc
    refine ⟨rfl, (Option.not_isSome_iff_eq_none.1 fun hs => ?_).symm⟩
    rw [hs] at htogether
    cases htogether
  | some u =>
    cases hop : options.password with
    | none =>
      rw [hou, hop] at hc htogether
      cases hc
      refine ⟨(Option.not_isSome_iff_eq_none.1 fun hs => ?_).symm, rfl⟩
      rw [hs] at htogether
      cases htogether
    | some p =>
      rw [hou, hop] at hc
      cases hc
      exact ⟨rfl, rfl⟩

theorem launched_starts (hL : L.IpNetText) {cfg : Config}
    (h : Config.fromRuntimeOptions L options = .ok cfg) {m : Matches}
    (hm : m = { command := some "winsvc".toList, items := serviceItems options }) :
    ∃ cli, Cli.ofMatches m = some cli ∧ cli.command = some .winsvc ∧
      Config.fromRuntimeOptions L cli.runtimeOptions = Config.fromRuntimeOptions L options := by
  obtain ⟨hcmd, hpos, hmax, hstats, hbypass, hcred⟩ := launched_matches hm
  obtain ⟨nets, -, rfl, hv⟩ := fromRuntimeOptions_iff.1 h
  obtain ⟨hu, hp⟩ := told_credentials h hcred
  obtain ⟨-, -, hle, -⟩ := validate_ok.1 hv
  have hlt : options.maxConnections < UInt64.size := Nat.lt_of_le_of_lt hle (by decide)
  refine ⟨{
    bind := m.positional.getD DEFAULT_BIND
    maxConnections := options.maxConnections
    disableStats := m.flag "disable-stats"
    username := m.value "username"
    password := m.value "password"
    bypassIps := Cli.readBypassIps (m.value "bypass-ip")
    command := m.command.bind Command.ofName }, ?_, ?_, fromRuntimeOptions_congr ?_ fun nets => ?_⟩
  · unfold Cli.ofMatches
    rw [hmax, Cli.readMaxConnections, parseUnsigned_decimal hlt]
    rfl
  · rw [hcmd]
    rfl
  · show Cli.readBypassIps (m.value "bypass-ip") = options.bypassIps
    rw [hbypass, readBypassIps_joined hL h]
  · unfold RuntimeOptions.config Cli.runtimeOptions
    simp only [hu, hp, hpos, hstats, Option.getD_some]

/-- The escape stands among the arguments only as a value. -/
theorem escape_not_mem (hL : L.IpNetText) {cfg : Config}
    (h : Config.fromRuntimeOptions L options = .ok cfg) (hbind : options.bind ≠ ESCAPE)
    (hcred : ∀ username password, options.username = some username → options.password = some password →
      ¬ OptionLike username ∧ ¬ OptionLike password) :
    ESCAPE ∉ "winsvc".toList :: (serviceItems options).flatMap Item.words := by
  have hopt : ∀ {n v : Str}, n ≠ [] → ¬ OptionLike v → ESCAPE ∉ (Item.option n v).words := by
    intro n v hn hv hm
    rcases List.mem_cons.1 hm with he | hm
    · exact long_ne_escape hn he.symm
    · exact hv (List.mem_singleton.1 hm ▸ optionLike_escape)
  have hitems := forall_serviceItems (P := fun i => ESCAPE ∉ i.words)
    (fun hm => hbind (List.mem_singleton.1 hm).symm) (hopt (by decide) (decimal_not_optionLike _))
    (fun username password hu hp => ⟨hopt (by decide) (hcred username password hu hp).1,
      hopt (by decide) (hcred username password hu hp).2⟩)
    (hopt (by decide) (joined_not_optionLike hL h))
    (fun hm => long_ne_escape (by decide) (List.mem_singleton.1 hm).symm)
  intro hm
  rcases List.mem_cons.1 hm with he | hm
  · cases he
  · obtain ⟨i, hi, hw⟩ := List.mem_flatMap.1 hm
    exact hitems i hi hw

/-- What the arguments begin with. -/
theorem serviceItems_words (options : RuntimeOptions) : ∃ rest, (serviceItems options).flatMap Item.words =
    options.bind :: long "max-connections" :: decimal options.maxConnections :: rest :=
  ⟨_, rfl⟩

theorem serviceItems_credentials {username password : Str} (hu : options.username = some username)
    (hp : options.password = some password) : ∃ rest, (serviceItems options).flatMap Item.words =
      [options.bind, long "max-connections", decimal options.maxConnections] ++
        long "username" :: username :: long "password" :: password :: rest := by
  unfold serviceItems
  rw [hu, hp]
  exact ⟨_, rfl⟩

/-- A line that can be parsed has no credentials that look like options. -/
theorem credentials_plain {parse : Parser} (hp : Lawful Cli.spec parse) (hbind : options.bind ≠ ESCAPE)
    {m : Matches} (h : parse ("winsvc".toList :: (serviceItems options).flatMap Item.words) = some m) :
    ∀ username password, options.username = some username → options.password = some password →
      ¬ OptionLike username ∧ ¬ OptionLike password := by
  intro username password hu hpw
  obtain ⟨rest, hrest⟩ := serviceItems_credentials hu hpw
  rw [hrest] at h
  have hnum : decimal options.maxConnections ≠ ESCAPE :=
    fun he => decimal_not_optionLike options.maxConnections (he ▸ optionLike_escape)
  have hpre : ESCAPE ∉ ["winsvc".toList, options.bind, long "max-connections",
      decimal options.maxConnections] := by
    simp only [List.mem_cons, List.not_mem_nil, or_false, not_or]
    exact ⟨by decide, hbind.symm, by decide, hnum.symm⟩
  have hplainu : ¬ OptionLike username := by
    intro hv
    cases h.symm.trans (hp.option_like _ _ username _ hpre (by decide) hv)
  refine ⟨hplainu, fun hv => ?_⟩
  have hpre' : ESCAPE ∉ ["winsvc".toList, options.bind, long "max-connections",
      decimal options.maxConnections] ++ [long "username", username] := by
    refine List.not_mem_append hpre ?_
    simp only [List.mem_cons, List.not_mem_nil, or_false, not_or]
    exact ⟨by decide, fun he => hplainu (he ▸ optionLike_escape)⟩
  have hnone := hp.option_like _ "password" password rest hpre' (by decide) hv
  rw [List.append_assoc] at hnone
  cases h.symm.trans hnone

/-- **A Windows service starts with the options it was installed with exactly if its
bind address and its credentials do not look like options.** Each is written as a
word of its own, and nothing accepts a value that begins with a hyphen: as a
credential it is an error, as the bind address it is an error or leaves the default. -/
theorem windows_service_starts_iff (hL : L.IpNetText) {parse : Parser} (hp : Lawful Cli.spec parse)
    (h : windowsServiceArgs L options = .ok args) :
    (∃ cli, Cli.tryParseFrom parse args = some cli ∧ cli.command = some .winsvc ∧
      Config.fromRuntimeOptions L cli.runtimeOptions = Config.fromRuntimeOptions L options) ↔
    PlainOptions options := by
  obtain ⟨rfl, cfg, hcfg⟩ := windowsServiceArgs_eq h
  constructor
  · intro hx
    obtain ⟨cli, hcli, -, hsame⟩ := hx
    obtain ⟨m, hm, -⟩ := Option.bind_eq_some_iff.1 hcli
    have hbind : options.bind ≠ ESCAPE := by
      intro he
      obtain ⟨rest, hrest⟩ := serviceItems_words options
      rw [hrest, he] at hm
      cases hm.symm.trans (hp.escaped ["winsvc".toList] _ _ rest (by decide))
    have hcred := credentials_plain hp hbind hm
    refine ⟨?_, hcred⟩
    have hplain := Cli.bind_plain hp (escape_not_mem hL hcfg hbind hcred) hcli
    rw [hcfg] at hsame
    obtain ⟨nets, -, heq, -⟩ := fromRuntimeOptions_iff.1 hsame
    obtain ⟨nets', -, rfl, -⟩ := fromRuntimeOptions_iff.1 hcfg
    rwa [show cli.bind = options.bind from (congrArg (fun cfg => cfg.server.bind) heq).symm] at hplain
  · intro hplain
    have hread := hp.reads "winsvc" (by decide) (serviceItems options) (serviceItems_fit hL hcfg hplain)
      serviceItems_nodup
    obtain ⟨cli, hcli, hcmd, hsame⟩ := launched_starts hL hcfg rfl
    refine ⟨cli, ?_, hcmd, hsame⟩
    unfold Cli.tryParseFrom
    rw [hread]
    exact hcli

end

/-! ## Two installations -/

/-- mirrors src/service/mod.rs:98-118 -/
theorem sampleOptions_args : windowsServiceArgs plainLibs sampleOptions = .ok ["winsvc", "0.0.0.0:1080",
    "--max-connections", "2048", "--username", "admin", "--password", "secret", "--bypass-ip",
    "127.0.0.0/8,::1/128"] := by
  rfl

theorem windows_service_starts_iff_sample :
    (∃ cli, Cli.tryParseFrom (parse Cli.spec) ["winsvc", "0.0.0.0:1080", "--max-connections", "2048",
        "--username", "admin", "--password", "secret", "--bypass-ip", "127.0.0.0/8,::1/128"] = some cli ∧
      cli.command = some .winsvc ∧ Config.fromRuntimeOptions plainLibs cli.runtimeOptions =
        Config.fromRuntimeOptions plainLibs sampleOptions) ↔ PlainOptions sampleOptions :=
  windows_service_starts_iff plainLibs_ipNetText (parse_lawful Cli.spec) sampleOptions_args

/-- A password that may be given at the installation, behind an equals sign. -/
def hyphenOptions : RuntimeOptions := { sampleOptions with password := some "-secret" }

/-- The installation succeeds, and the service does not start. -/
theorem windows_service_hyphen_password : windowsServiceArgs plainLibs hyphenOptions = .ok ["winsvc",
      "0.0.0.0:1080", "--max-connections", "2048", "--username", "admin", "--password", "-secret",
      "--bypass-ip", "127.0.0.0/8,::1/128"] ∧
    ∀ parse, Lawful Cli.spec parse → Cli.tryParseFrom parse ["winsvc", "0.0.0.0:1080",
      "--max-connections", "2048", "--username", "admin", "--password", "-secret", "--bypass-ip",
      "127.0.0.0/8,::1/128"] = none := by
  refine ⟨rfl, fun parse hp => ?_⟩
  have hnone := hp.option_like
    ["winsvc", "0.0.0.0:1080", "--max-connections", "2048", "--username", "admin"] "password" "-secret"
    ["--bypass-ip", "127.0.0.0/8,::1/128"] (by decide) (by decide) (by decide)
  unfold Cli.tryParseFrom
  exact congrArg (Option.bind · Cli.ofMatches) hnone

end TinySocks.L6
