import TinySocks.L3Protocol.Auth

/-!
# Logging in through both protocols

Which credentials `(u, p)`, as bytes, each protocol accepts when the client
sends them the standard way. HTTP joins them with a colon, so it cannot tell a
colon of the user name from the separator (`httpAccepts_iff`); SOCKS has one
length byte for each, and the comparison is made after a lenient decoding that
maps every malformed sequence to U+FFFD (`socksAccepts_iff`). Both accept
exactly the configured pair when none of this comes into play, and only then
(`exactCredentials_iff`).
-/
namespace TinySocks.L3

open TinySocks.Core TinySocks.L1 TinySocks.L2

/-- The header value for a pair of credentials. -/
def basicValue (u p : Bytes) : Str :=
  "Basic " ++ Utf8.ofAscii (Base64.encode (u ++ 0x3A :: p))

def HttpAccepts (L : Libs) (auth : AuthConfig) (u p : Bytes) : Prop :=
  httpBasicAuthorized L (some (basicValue u p)) auth = .ok true

/-- There is a message with the raw fields `u` and `p`, and it gets through
however its bytes arrive. -/
def SocksAccepts (L : Libs) (auth : AuthConfig) (u p : Bytes) : Prop :=
  ∃ cu cp, IsField cu u ∧ IsField cp p ∧
    ∀ w, w.env.ClientReliable → w.stream.unread = 0x01 :: (cu ++ cp) →
      ∃ w', basicAuthenticate L auth w = .ok () w'

/-- Both protocols accept exactly the configured pair. -/
def ExactCredentials (L : Libs) (auth : AuthConfig) (user pass : Str) : Prop :=
  ∀ u p : Bytes,
    (HttpAccepts L auth u p ↔ u = Utf8.encode user ∧ p = Utf8.encode pass) ∧
      (SocksAccepts L auth u p ↔ u = Utf8.encode user ∧ p = Utf8.encode pass)

section
variable {L : Libs} {auth : AuthConfig}

/-! ## HTTP -/

theorem encode_basicValue (u p : Bytes) :
    Utf8.encode (basicValue u p) = BASIC ++ 0x20 :: ([] ++ Base64.encode (u ++ 0x3A :: p)) := by
  have ha : ∀ c ∈ Base64.encode (u ++ 0x3A :: p), c < 0x80 := by
    intro c hc
    have := UInt8.le_iff_toNat_le.1 (Base64.encode_visible hc).2
    rw [UInt8.lt_iff_toNat_lt]
    exact Nat.lt_of_le_of_lt this (by decide)
  unfold basicValue
  rw [Utf8.encode_append, Utf8.encode_ofAscii ha]
  rfl

/-- HTTP accepts what reads the same once joined, if the user has no colon. -/
theorem httpAccepts_iff (hct : L.CtEqExact) (hb : L.Base64Exact) {user pass : Str}
    (hu : auth.username = some user) (hp : auth.password = some pass) (u p : Bytes) :
    HttpAccepts L auth u p ↔ 0x3A ∉ Utf8.encode user ∧
      u ++ 0x3A :: p = Utf8.encode user ++ 0x3A :: Utf8.encode pass := by
  have hhead : ∀ b ∈ (Base64.encode (u ++ 0x3A :: p)).head?, isBlank b = false := by
    intro b hm
    have hv := Base64.encode_visible (List.mem_of_mem_head? hm)
    have h1 := UInt8.le_iff_toNat_le.1 hv.1
    unfold isBlank
    rw [Bool.or_eq_false_iff, beq_eq_false_iff_ne, beq_eq_false_iff_ne]
    constructor
    · intro he
      subst he
      exact absurd h1 (by decide)
    · intro he
      subst he
      exact absurd h1 (by decide)
  obtain ⟨b, hok, hiff⟩ := httpBasicAuthorized_cases hct auth (basicValue u p)
  unfold HttpAccepts
  rw [hok, Except.ok.injEq, hiff,
    basicHeader_parts rfl (by simp) hhead (encode_basicValue u p), hb]
  constructor
  · intro h
    obtain ⟨-, -, user', pass', hu', hp', hc, hd⟩ := h
    rw [hu] at hu'
    rw [hp] at hp'
    cases hu'
    cases hp'
    exact ⟨hc, Option.some.inj hd⟩
  · intro h
    obtain ⟨hc, hd⟩ := h
    exact ⟨rfl, rfl, user, pass, hu, hp, hc, by rw [hd]⟩

/-- HTTP is exact if and only if neither part has a colon. -/
theorem http_exact_iff (hct : L.CtEqExact) (hb : L.Base64Exact) {user pass : Str}
    (hu : auth.username = some user) (hp : auth.password = some pass) :
    (∀ u p, HttpAccepts L auth u p ↔ u = Utf8.encode user ∧ p = Utf8.encode pass) ↔
      0x3A ∉ Utf8.encode user ∧ 0x3A ∉ Utf8.encode pass := by
  simp only [httpAccepts_iff hct hb hu hp]
  constructor
  · intro h
    have hcu : 0x3A ∉ Utf8.encode user := ((h _ _).2 ⟨rfl, rfl⟩).1
    refine ⟨hcu, fun hcp => ?_⟩
    -- move the separator to the colon of the password
    obtain ⟨a, b, hab⟩ := List.append_of_mem hcp
    have := ((h (Utf8.encode user ++ 0x3A :: a) b).1 ⟨hcu, by rw [hab]; simp⟩).1
    simp at this
  · intro hx u p
    obtain ⟨hcu, hcp⟩ := hx
    constructor
    · intro hx
      obtain ⟨-, he⟩ := hx
      have hu' : 0x3A ∉ u := by
        intro hm
        have hc := congrArg (List.count 0x3A) he
        have h1 := List.count_pos_iff.2 hm
        simp only [List.count_append, List.count_cons_self, List.count_eq_zero.2 hcu,
          List.count_eq_zero.2 hcp] at hc
        omega
      exact append_sep_inj hu' hcu he
    · intro hx
      obtain ⟨rfl, rfl⟩ := hx
      exact ⟨hcu, rfl⟩

/-! ## SOCKS -/

theorem IsField.append_inj {c c' b b' r r' : Bytes} (h : IsField c b) (h' : IsField c' b')
    (he : c ++ r = c' ++ r') : b = b' ∧ r = r' := by
  obtain ⟨n, hn, rfl⟩ := h
  obtain ⟨n', hn', rfl⟩ := h'
  obtain ⟨rfl, htail⟩ := List.cons_eq_cons.1 he
  exact List.append_inj htail (hn.trans hn'.symm)

theorem isField_of_length {b : Bytes} (h : b.length ≤ 255) : IsField (UInt8.ofNat b.length :: b) b := by
  refine ⟨_, ?_, rfl⟩
  rw [UInt8.toNat_ofNat']
  omega

theorem IsField.length {c b : Bytes} (h : IsField c b) : b.length ≤ 255 := by
  obtain ⟨n, hn, -⟩ := h
  have := n.toNat_lt
  omega

/-- SOCKS accepts what fits its length bytes and decodes to the configured pair. -/
theorem socksAccepts_iff (hct : L.CtEqExact) (u p : Bytes) :
    SocksAccepts L auth u p ↔ u.length ≤ 255 ∧ p.length ≤ 255 ∧
      auth.username = some (Utf8.decodeLossy u) ∧ auth.password = some (Utf8.decodeLossy p) := by
  constructor
  · intro hx
    obtain ⟨cu, cp, hu, hp, h⟩ := hx
    refine ⟨hu.length, hp.length, ?_⟩
    obtain ⟨w', hok⟩ := h (World.accepted (Env.calm [] []) (0x01 :: (cu ++ cp)))
      (calm_clientReliable _ _) rfl
    obtain ⟨c, ha, cu', u', cp', p', hu', hp', rfl, heu, hep⟩ := basicAuthenticate_ok hct hok
    have he : 0x01 :: (cu ++ cp) = 0x01 :: (cu' ++ cp') ++ w'.stream.unread := ha.unread
    rw [List.cons_append, List.append_assoc] at he
    obtain ⟨rfl, he⟩ := hu.append_inj hu' (List.cons_eq_cons.1 he).2
    obtain ⟨rfl, -⟩ := hp.append_inj hp' (by simpa using he : cp ++ [] = cp' ++ w'.stream.unread)
    exact ⟨heu, hep⟩
  · intro hx
    obtain ⟨hlu, hlp, heu, hep⟩ := hx
    refine ⟨_, _, isField_of_length hlu, isField_of_length hlp, fun w he hw => ?_⟩
    have hm : LoginMessage auth (0x01 :: (UInt8.ofNat u.length :: u ++ (UInt8.ofNat p.length :: p))) :=
      ⟨_, u, _, p, isField_of_length hlu, isField_of_length hlp, rfl, heu, hep⟩
    obtain ⟨w', h, -⟩ := reads_basicAuthenticate hct hm w [] he (by rw [hw, List.append_nil])
    exact ⟨w', h⟩

/-- SOCKS is exact if and only if both parts fit and contain no U+FFFD. -/
theorem socks_exact_iff (hct : L.CtEqExact) {user pass : Str} (hu : auth.username = some user)
    (hp : auth.password = some pass) :
    (∀ u p, SocksAccepts L auth u p ↔ u = Utf8.encode user ∧ p = Utf8.encode pass) ↔
      (Utf8.encode user).length ≤ 255 ∧ (Utf8.encode pass).length ≤ 255 ∧
        Utf8.replacement ∉ user ∧ Utf8.replacement ∉ pass := by
  simp only [socksAccepts_iff hct, hu, hp, Option.some.injEq]
  constructor
  · intro h
    obtain ⟨hlu, hlp, -, -⟩ := (h _ _).2 ⟨rfl, rfl⟩
    refine ⟨hlu, hlp, fun hr => ?_, fun hr => ?_⟩
    · obtain ⟨b, hlt, hb⟩ := Utf8.exists_malformed hr
      have he := ((h b (Utf8.encode pass)).1
        ⟨by omega, hlp, hb.symm, (Utf8.decodeLossy_encode pass).symm⟩).1
      rw [he] at hlt
      omega
    · obtain ⟨b, hlt, hb⟩ := Utf8.exists_malformed hr
      have he := ((h (Utf8.encode user) b).1
        ⟨hlu, by omega, (Utf8.decodeLossy_encode user).symm, hb.symm⟩).2
      rw [he] at hlt
      omega
  · intro hx u p
    obtain ⟨hlu, hlp, hru, hrp⟩ := hx
    rw [Utf8.decodeLossy_eq_iff hru, Utf8.decodeLossy_eq_iff hrp]
    constructor
    · exact fun h => h.2.2
    · intro hx
      obtain ⟨rfl, rfl⟩ := hx
      exact ⟨hlu, hlp, rfl, rfl⟩

/-- **Both protocols accept exactly the configured credentials if and only if**
neither part has a colon, more than 255 bytes, or the replacement character. -/
theorem exactCredentials_iff (hct : L.CtEqExact) (hb : L.Base64Exact) (options : RuntimeOptions)
    (cfg : Config) (_hcfg : Config.fromRuntimeOptions L options = .ok cfg) (user pass : Str)
    (hu : cfg.auth.username = some user) (hp : cfg.auth.password = some pass) :
    ExactCredentials L cfg.auth user pass ↔
      (0x3A ∉ Utf8.encode user ∧ 0x3A ∉ Utf8.encode pass) ∧
        (Utf8.encode user).length ≤ 255 ∧ (Utf8.encode pass).length ≤ 255 ∧
          Utf8.replacement ∉ user ∧ Utf8.replacement ∉ pass := by
  rw [← http_exact_iff hct hb hu hp, ← socks_exact_iff hct hu hp]
  constructor
  · exact fun h => ⟨fun u p => (h u p).1, fun u p => (h u p).2⟩
  · exact fun h u p => ⟨h.1 u p, h.2 u p⟩

end

def loginOptions (user pass : Str) : RuntimeOptions where
  bind := "127.0.0.1:1080"
  maxConnections := 1024
  disableStats := false
  username := some user
  password := some pass
  bypassIps := []

def loginConfig (user pass : Str) : Config where
  server := { bind := "127.0.0.1:1080", maxConnections := 1024, disableStats := false }
  auth := { username := some user, password := some pass, bypassIps := [] }

theorem exactCredentials_iff_admin :
    ExactCredentials plainLibs (loginConfig "admin" "change-me").auth "admin" "change-me" :=
  (exactCredentials_iff plainLibs_ctEqExact plainLibs_base64Exact (loginOptions "admin" "change-me")
    (loginConfig "admin" "change-me") rfl "admin" "change-me" rfl rfl).2 (by decide)

/-- A user name with a colon is accepted by the configuration and can log in,
but through SOCKS only. -/
theorem colon_user_refused_by_http :
    (SocksAccepts plainLibs (loginConfig "a:b" "secret").auth (Utf8.encode "a:b")
        (Utf8.encode "secret") ∧
      ¬ HttpAccepts plainLibs (loginConfig "a:b" "secret").auth (Utf8.encode "a:b")
        (Utf8.encode "secret")) ∧
    ¬ ∀ (L : Libs), L.CtEqExact → L.Base64Exact → ∀ (options : RuntimeOptions) (cfg : Config),
      Config.fromRuntimeOptions L options = .ok cfg → ∀ user pass, cfg.auth.username = some user →
        cfg.auth.password = some pass → ExactCredentials L cfg.auth user pass := by
  have hhttp : ¬ HttpAccepts plainLibs (loginConfig "a:b" "secret").auth (Utf8.encode "a:b")
      (Utf8.encode "secret") := by
    rw [httpAccepts_iff plainLibs_ctEqExact plainLibs_base64Exact rfl rfl]
    exact fun h => absurd h.1 (by decide)
  refine ⟨⟨(socksAccepts_iff plainLibs_ctEqExact _ _).2 (by decide), hhttp⟩, fun h => hhttp ?_⟩
  exact ((h plainLibs plainLibs_ctEqExact plainLibs_base64Exact (loginOptions "a:b" "secret")
    (loginConfig "a:b" "secret") rfl "a:b" "secret" rfl rfl _ _).1).2 ⟨rfl, rfl⟩

end TinySocks.L3
