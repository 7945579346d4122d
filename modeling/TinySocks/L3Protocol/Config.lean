import TinySocks.Core.Effect
import TinySocks.L1Encoding.Libs

/-!
# Configuration (`config.rs`)

`Config.fromRuntimeOptions` filters empty credentials, parses the allowlist
and validates (`fromRuntimeOptions_ok`, `validate_ok`).
-/
namespace TinySocks.L3

open TinySocks.Core TinySocks.L1

def MAX_CONNECTIONS_LIMIT : Nat := 1000000

/-- mirrors src/config.rs:11-16 -/
structure ServerConfig where
  bind : Str
  maxConnections : Nat
  disableStats : Bool
  deriving DecidableEq, Repr

/-- mirrors src/config.rs:18-23 -/
structure AuthConfig where
  username : Option Str
  password : Option Str
  bypassIps : List IpNet
  deriving DecidableEq, Repr

/-- mirrors src/config.rs:25-29 -/
structure Config where
  server : ServerConfig
  auth : AuthConfig
  deriving DecidableEq, Repr

/-- mirrors src/config.rs:31-39 -/
structure RuntimeOptions where
  bind : Str
  maxConnections : Nat
  disableStats : Bool
  username : Option Str
  password : Option Str
  bypassIps : List Str
  deriving DecidableEq, Repr

/-- mirrors src/config.rs:67-84 -/
def Config.validate (self : Config) : Except Str Unit :=
  if self.server.bind = [] then .error "bind address cannot be empty"
  else if self.server.maxConnections = 0 then .error "--max-connections must be greater than 0"
  else if self.server.maxConnections > MAX_CONNECTIONS_LIMIT then
    .error ("--max-connections must be less than or equal to " ++ decimal MAX_CONNECTIONS_LIMIT)
  else
    let hasCredentials := self.auth.username.isSome && self.auth.password.isSome
    if !hasCredentials && self.auth.bypassIps.isEmpty then
      .error "provide --username and --password, or configure --bypass-ip"
    else if self.auth.username.isSome != self.auth.password.isSome then
      .error "--username and --password must be provided together"
    else .ok ()

section
variable (L : Libs)

/-- mirrors src/config.rs:99-119 -/
def parseAllowlistEntry (entry : Str) : Option IpNet :=
  match L.parseIpNet entry with
  | some net => some net
  | none =>
    match parseIpAddr entry with
    | some addr =>
      let pre := match addr with
        | .v4 _ => 32
        | .v6 _ => 128
      L.ipNetNew addr pre
    | none => none

/-- mirrors src/config.rs:87-97 -/
def parseAllowlistEntries (entries : List Str) : Except Str (List IpNet) :=
  entries.mapM fun entry =>
    let entry := trim entry
    match parseAllowlistEntry L entry with
    | some net => .ok net
    | none => .error ("invalid bypass IP: " ++ entry)

/-- mirrors src/config.rs:43-64 -/
def Config.fromRuntimeOptions (options : RuntimeOptions) : Except Str Config := do
  let username := options.username.filter fun value => !value.isEmpty
  let password := options.password.filter fun value => !value.isEmpty
  let bypassIps ← parseAllowlistEntries L options.bypassIps
  let cfg : Config := {
    server := {
      bind := options.bind
      maxConnections := options.maxConnections
      disableStats := options.disableStats }
    auth := { username, password, bypassIps } }
  cfg.validate
  pure cfg

end

/-- What `validate` checks. -/
theorem validate_ok {cfg : Config} : cfg.validate = .ok () ↔
    cfg.server.bind ≠ [] ∧ 0 < cfg.server.maxConnections ∧
      cfg.server.maxConnections ≤ MAX_CONNECTIONS_LIMIT ∧
      (cfg.auth.username.isSome = true ∨ cfg.auth.bypassIps ≠ []) ∧
      cfg.auth.username.isSome = cfg.auth.password.isSome := by
  unfold Config.validate
  split
  · simp_all
  split
  · simp_all
  split
  · rename_i hl
    constructor
    · intro h
      cases h
    · intro hx
      obtain ⟨-, -, hle, -⟩ := hx
      exact absurd hle (Nat.not_le.2 hl)
  rename_i hb h0 hl
  have hp : 0 < cfg.server.maxConnections := by omega
  have hm : cfg.server.maxConnections ≤ MAX_CONNECTIONS_LIMIT := by omega
  cases cfg.auth.username <;> cases cfg.auth.password <;> cases cfg.auth.bypassIps <;>
    simp [hb, hp, hm]

/-- `validate` does not look into the credentials. -/
theorem validate_congr {cfg cfg' : Config} (hs : cfg.server = cfg'.server)
    (hb : cfg.auth.bypassIps = cfg'.auth.bypassIps)
    (hu : cfg.auth.username.isSome = cfg'.auth.username.isSome)
    (hp : cfg.auth.password.isSome = cfg'.auth.password.isSome) : cfg.validate = cfg'.validate := by
  unfold Config.validate
  rw [hs, hb, hu, hp]

section
variable {L : Libs} {options : RuntimeOptions} {cfg : Config}

/-- What is built from options, once the allowlist is parsed. -/
def RuntimeOptions.config (options : RuntimeOptions) (bypassIps : List IpNet) : Config where
  server := {
    bind := options.bind
    maxConnections := options.maxConnections
    disableStats := options.disableStats }
  auth := {
    username := options.username.filter fun value => !value.isEmpty
    password := options.password.filter fun value => !value.isEmpty
    bypassIps }

theorem fromRuntimeOptions_eq : Config.fromRuntimeOptions L options =
    (parseAllowlistEntries L options.bypassIps >>= fun nets =>
      (options.config nets).validate >>= fun _ => .ok (options.config nets)) := rfl

theorem fromRuntimeOptions_iff : Config.fromRuntimeOptions L options = .ok cfg ↔
    ∃ nets, parseAllowlistEntries L options.bypassIps = .ok nets ∧ cfg = options.config nets ∧
      cfg.validate = .ok () := by
  rw [fromRuntimeOptions_eq]
  cases parseAllowlistEntries L options.bypassIps with
  | error e => exact ⟨nofun, fun ⟨nets, h, _⟩ => nomatch h⟩
  | ok nets =>
    rw [ok_bind]
    cases hv : (options.config nets).validate with
    | error e =>
      refine ⟨nofun, ?_⟩
      intro hx
      obtain ⟨nets', hn, rfl, hv'⟩ := hx
      cases hn
      cases hv.symm.trans hv'
    | ok u =>
      constructor
      · intro h
        cases h
        exact ⟨nets, rfl, rfl, hv⟩
      · intro hx
        obtain ⟨nets', hn, rfl, -⟩ := hx
        cases hn
        rfl

/-- Options with the same contents make the same configuration. -/
theorem fromRuntimeOptions_congr {options' : RuntimeOptions} (hb : options.bypassIps = options'.bypassIps)
    (hc : ∀ nets, options.config nets = options'.config nets) :
    Config.fromRuntimeOptions L options = Config.fromRuntimeOptions L options' := by
  rw [fromRuntimeOptions_eq, fromRuntimeOptions_eq, hb]
  refine congrArg (parseAllowlistEntries L options'.bypassIps >>= ·) (funext fun nets => ?_)
  rw [hc]

/-- What a configuration built from options is: the options, checked, with
credentials as far as they are not empty. -/
theorem fromRuntimeOptions_ok (h : Config.fromRuntimeOptions L options = .ok cfg) :
    cfg.validate = .ok () ∧
      cfg.auth.username = options.username.filter (fun value => !value.isEmpty) ∧
      cfg.auth.password = options.password.filter (fun value => !value.isEmpty) := by
  obtain ⟨nets, -, rfl, hv⟩ := fromRuntimeOptions_iff.1 h
  exact ⟨hv, rfl, rfl⟩

theorem parseAllowlistEntries_ok {entries : List Str} : ∀ {nets : List IpNet},
    parseAllowlistEntries L entries = .ok nets →
    ∀ entry ∈ entries, ∃ net, parseAllowlistEntry L (trim entry) = some net := by
  unfold parseAllowlistEntries
  induction entries with
  | nil => exact fun _ _ hm => nomatch hm
  | cons e entries ih =>
    intro nets h
    rw [List.mapM_cons] at h
    obtain ⟨net, he, h⟩ := except_bind_eq_ok.1 h
    obtain ⟨rest, hr, -⟩ := except_bind_eq_ok.1 h
    refine List.forall_mem_cons.2 ⟨?_, ih hr⟩
    cases hp : parseAllowlistEntry L (trim e) with
    | some net' => exact ⟨net', rfl⟩
    | none =>
      dsimp only at he
      rw [hp] at he
      cases he

/-- An entry of the allowlist is an address or a network, in blanks. -/
theorem allowlistEntry_text (hL : L.IpNetText) {entry : Str} {net : IpNet}
    (h : parseAllowlistEntry L (trim entry) = some net) :
    entry ≠ [] ∧ ∀ c ∈ entry, isWhitespace c = true ∨ AddressChar c ∨ c = '/' := by
  have htrim : trim entry ≠ [] ∧ ∀ c ∈ trim entry, AddressChar c ∨ c = '/' := by
    unfold parseAllowlistEntry at h
    split at h
    · obtain ⟨hslash, hchars⟩ := hL _ _ ‹_›
      exact ⟨List.ne_nil_of_mem hslash, hchars⟩
    split at h
    · rename_i addr haddr
      refine ⟨fun he => ?_, fun c hc => .inl (parseIpAddr_chars haddr c hc)⟩
      rw [he] at haddr
      cases haddr
    · cases h
  obtain ⟨a, b, he, ha, hb⟩ := exists_trim entry
  refine ⟨fun hn => htrim.1 (by rw [hn]; rfl), ?_⟩
  rw [he]
  exact List.forall_mem_append.2 ⟨fun c hc => .inl (ha c hc),
    List.forall_mem_append.2 ⟨fun c hc => .inr (htrim.2 c hc), fun c hc => .inl (hb c hc)⟩⟩

end

end TinySocks.L3
