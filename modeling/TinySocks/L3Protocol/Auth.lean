import TinySocks.L2Stream.Advance
import TinySocks.L3Protocol.Config

/-!
# Authentication (`auth.rs`)

`basicAuthenticate` runs the username/password exchange on a connection,
`httpBasicAuthorized` checks a header value. The exchange succeeds exactly on
a `LoginMessage` (`basicAuthenticate_ok`, `reads_basicAuthenticate`); the
header check never leaves its slices and succeeds exactly on a `BasicHeader`
(`httpBasicAuthorized_cases`), that is, on well-formed and matching values
(`http_basic_authorized_iff`).
-/
namespace TinySocks.L3

open TinySocks.Core TinySocks.L1 TinySocks.L2

section
variable (L : Libs)

/-- mirrors src/auth.rs:115-117 -/
def credentialsMatch (user pass providedUser providedPass : Bytes) : Bool :=
  L.ctEq user providedUser && L.ctEq pass providedPass

/-- mirrors src/auth.rs:95-107 -/
def readString : M Str := do
  let len ← readExactWithTimeout 1 "SOCKS auth string length read"
  let buf ← readExactWithTimeout (len.only).toNat "SOCKS auth string body read"
  pure (Utf8.decodeLossy buf.1)

/-- mirrors src/auth.rs:33-49 -/
def replyToLogin (auth : AuthConfig) (username password : Str) : M Unit :=
  match auth.username, auth.password with
  | some expectedUser, some expectedPass =>
    if credentialsMatch L (Utf8.encode expectedUser) (Utf8.encode expectedPass)
        (Utf8.encode username) (Utf8.encode password) then
      writeAllWithTimeout [0x01, 0x00] "SOCKS auth success reply write"
    else do
      writeAllWithTimeout [0x01, 0x01] "SOCKS auth failure reply write"
      bail "SocksError::AuthFailed"
  | _, _ => bail "SocksError::AuthUnavailable"

/-- mirrors src/auth.rs:20-50 -/
def basicAuthenticate (auth : AuthConfig) : M Unit := do
  let ver ← readExactWithTimeout 1 "SOCKS auth version read"
  if ver.only ≠ 0x01 then bail "SocksError::InvalidProtocol"
  else do
    let username ← readString
    let password ← readString
    replyToLogin L auth username password

/-- `u8::eq_ignore_ascii_case` over two slices. -/
def eqIgnoreAsciiCaseBytes (a b : Bytes) : Bool :=
  a.map (fun x => if 0x41 ≤ x ∧ x ≤ 0x5A then x + 0x20 else x) ==
    b.map (fun x => if 0x41 ≤ x ∧ x ≤ 0x5A then x + 0x20 else x)

/-- The decoded credentials, split at the first colon.
mirrors src/auth.rs:79-92 -/
def decodedAuthorized (auth : AuthConfig) (decoded : Bytes) : Except (Abort Str) Bool :=
  match decoded.findIdx? (· == 0x3A) with
  | none => pure false
  | some colonPos => do
    let userPart ← slice decoded 0 colonPos
    let rest ← sliceFrom decoded colonPos
    let passPart ← sliceFrom rest 1
    match auth.username, auth.password with
    | some expectedUser, some expectedPass =>
      pure (credentialsMatch L (Utf8.encode expectedUser) (Utf8.encode expectedPass) userPart passPart)
    | _, _ => pure false

def BASIC : Bytes := Utf8.encode "Basic"

/-- What is behind the scheme, its space and more blanks.
mirrors src/auth.rs:70-73 -/
def encodedPart (bytes : Bytes) : Except (Abort Str) Bytes := do
  let tail ← sliceFrom bytes 6
  match tail.findIdx? fun b => !isBlank b with
  | some start => sliceFrom bytes (6 + start)
  | none => pure []

/-- mirrors src/auth.rs:54-93 -/
def httpBasicAuthorized (authHeader : Option Str) (auth : AuthConfig) : Except (Abort Str) Bool :=
  match authHeader with
  | none => pure false
  | some value => do
    let bytes := Utf8.encode value
    if bytes.length < 6 then pure false
    else if !eqIgnoreAsciiCaseBytes (← slice bytes 0 5) BASIC ||
        (← getByte bytes 5) != 0x20 then pure false
    else do
      let encoded ← encodedPart bytes
      match L.base64Decode encoded with
      | none => pure false
      | some decoded => decodedAuthorized L auth decoded

/-- mirrors src/auth.rs:110-112 -/
def ipAuthenticate (allowlist : List IpNet) (ip : IpAddr) : Bool :=
  allowlist.any fun net => L.ipNetContains net ip

end

/-! ## The SOCKS exchange -/

/-- A length-prefixed field. -/
def IsField (c b : Bytes) : Prop := ∃ len : UInt8, b.length = len.toNat ∧ c = len :: b

/-- What the client sends to log in: version 1 and two length-prefixed fields
that are, decoded leniently, the configured credentials. -/
def LoginMessage (auth : AuthConfig) (c : Bytes) : Prop :=
  ∃ cu u cp p, IsField cu u ∧ IsField cp p ∧ c = 0x01 :: (cu ++ cp) ∧
    auth.username = some (Utf8.decodeLossy u) ∧ auth.password = some (Utf8.decodeLossy p)

theorem readString_ok {w w' : World} {s : Str} (h : readString w = .ok s w') :
    ∃ c b, Advance c [] w w' ∧ IsField c b ∧ s = Utf8.decodeLossy b := by
  obtain ⟨len, w₁, h₁, h⟩ := bind_eq_ok.1 h
  obtain ⟨buf, w₂, h₂, h⟩ := bind_eq_ok.1 h
  cases h
  refine ⟨_, _, (readExactWithTimeout_ok h₁).trans (readExactWithTimeout_ok h₂), ?_, rfl⟩
  exact ⟨len.only, buf.2, by rw [len.one]; rfl⟩

theorem reads_readString {c b : Bytes} (h : IsField c b) :
    Reads readString c [] (Utf8.decodeLossy b) := by
  obtain ⟨len, hl, rfl⟩ := h
  have h2 : Reads (do
      let buf ← readExactWithTimeout len.toNat "SOCKS auth string body read"
      pure (Utf8.decodeLossy buf.1)) b [] (Utf8.decodeLossy b) :=
    (reads_readExactWithTimeout ⟨b, hl⟩ _).seq (Reads.pure _) (List.append_nil b) rfl
  exact (reads_readExactWithTimeout ⟨[len], rfl⟩ _).seq h2 rfl rfl

theorem keeps_readString : Keeps Quiet readString :=
  Keeps.bind quiet_frame (keeps_readExactWithTimeout _ _) fun _ =>
    Keeps.bind quiet_frame (keeps_readExactWithTimeout _ _) fun _ => Keeps.pure quiet_frame _

theorem credentialsMatch_iff {L : Libs} (hct : L.CtEqExact) {u p : Str} {u' p' : Bytes} :
    credentialsMatch L (Utf8.encode u) (Utf8.encode p) u' p' = true ↔
      Utf8.encode u = u' ∧ Utf8.encode p = p' := by
  unfold credentialsMatch
  rw [Bool.and_eq_true, hct, hct]

theorem replyToLogin_ok {L : Libs} (hct : L.CtEqExact) {auth : AuthConfig} {u p : Str}
    {w w' : World} (h : replyToLogin L auth u p w = .ok () w') :
    Advance [] [0x01, 0x00] w w' ∧ auth.username = some u ∧ auth.password = some p := by
  unfold replyToLogin at h
  cases hu : auth.username with
  | none =>
    rw [hu] at h
    cases h
  | some eu =>
    cases hp : auth.password with
    | none =>
      rw [hu, hp] at h
      cases h
    | some ep =>
      simp only [hu, hp] at h
      split at h
      · rename_i hm
        obtain ⟨hmu, hmp⟩ := (credentialsMatch_iff hct).1 hm
        rw [Utf8.encode_injective hmu, Utf8.encode_injective hmp]
        exact ⟨writeAllWithTimeout_ok h, rfl, rfl⟩
      · obtain ⟨_, _, _, h⟩ := bind_eq_ok.1 h
        cases h

theorem reads_replyToLogin {L : Libs} (hct : L.CtEqExact) {auth : AuthConfig} {u p : Str}
    (hu : auth.username = some u) (hp : auth.password = some p) :
    Reads (replyToLogin L auth u p) [] [0x01, 0x00] () := by
  unfold replyToLogin
  simp only [hu, hp]
  rw [if_pos ((credentialsMatch_iff hct).2 ⟨rfl, rfl⟩)]
  exact reads_writeAllWithTimeout _ _

theorem keeps_replyToLogin (L : Libs) (auth : AuthConfig) (u p : Str) :
    Keeps Quiet (replyToLogin L auth u p) := by
  unfold replyToLogin
  split
  · refine Keeps.ite (keeps_writeAllWithTimeout _ _) ?_
    exact Keeps.bind quiet_frame (keeps_writeAllWithTimeout _ _) fun _ => keeps_bail quiet_frame _
  · exact keeps_bail quiet_frame _

/-- Who gets past the exchange sent a login message, and was told so. -/
theorem basicAuthenticate_ok {L : Libs} (hct : L.CtEqExact) {auth : AuthConfig} {w w' : World}
    (h : basicAuthenticate L auth w = .ok () w') :
    ∃ c, Advance c [0x01, 0x00] w w' ∧ LoginMessage auth c := by
  obtain ⟨ver, w₁, h₁, h⟩ := bind_eq_ok.1 h
  have ha₁ := readExactWithTimeout_ok h₁
  split at h
  · cases h
  rename_i hver
  obtain ⟨username, w₂, h₂, h⟩ := bind_eq_ok.1 h
  obtain ⟨password, w₃, h₃, h⟩ := bind_eq_ok.1 h
  obtain ⟨cu, u, ha₂, hu, rfl⟩ := readString_ok h₂
  obtain ⟨cp, p, ha₃, hp, rfl⟩ := readString_ok h₃
  obtain ⟨ha₄, heu, hep⟩ := replyToLogin_ok hct h
  refine ⟨_, ((ha₁.trans ha₂).trans ha₃).trans ha₄, cu, u, cp, p, hu, hp, ?_, heu, hep⟩
  rw [ver.one, Decidable.not_not.1 hver]
  simp

theorem reads_basicAuthenticate {L : Libs} (hct : L.CtEqExact) {auth : AuthConfig} {c : Bytes}
    (h : LoginMessage auth c) : Reads (basicAuthenticate L auth) c [0x01, 0x00] () := by
  obtain ⟨cu, u, cp, p, hu, hp, rfl, heu, hep⟩ := h
  have h2 : Reads (do
      let password ← readString
      replyToLogin L auth (Utf8.decodeLossy u) password) cp [0x01, 0x00] () :=
    (reads_readString hp).seq (reads_replyToLogin hct heu hep) (List.append_nil cp) rfl
  have h1 : Reads (do
      let username ← readString
      let password ← readString
      replyToLogin L auth username password) (cu ++ cp) [0x01, 0x00] () :=
    (reads_readString hu).seq h2 rfl rfl
  exact (reads_readExactWithTimeout ⟨[0x01], rfl⟩ _).seq h1 rfl rfl

theorem keeps_basicAuthenticate (L : Libs) (auth : AuthConfig) :
    Keeps Quiet (basicAuthenticate L auth) := by
  refine Keeps.bind quiet_frame (keeps_readExactWithTimeout _ _) fun _ => ?_
  refine Keeps.ite (keeps_bail quiet_frame _) ?_
  refine Keeps.bind quiet_frame keeps_readString fun _ => ?_
  exact Keeps.bind quiet_frame keeps_readString fun _ => keeps_replyToLogin L auth _ _

/-! ## The header check -/

/-- `Basic`, a space, more blanks, and the encoded credentials. -/
def BasicHeader (L : Libs) (auth : AuthConfig) (value : Str) : Prop :=
  ∃ basic blanks e u p, eqIgnoreAsciiCaseBytes basic BASIC = true ∧
    (∀ b ∈ blanks, isBlank b = true) ∧ (∀ b ∈ e.head?, isBlank b = false) ∧
    Utf8.encode value = basic ++ 0x20 :: (blanks ++ e) ∧
    auth.username = some u ∧ auth.password = some p ∧ 0x3A ∉ Utf8.encode u ∧
    L.base64Decode e = some (Utf8.encode u ++ 0x3A :: Utf8.encode p)

theorem decodedAuthorized_cases {L : Libs} (hct : L.CtEqExact) (auth : AuthConfig) (d : Bytes) :
    ∃ b, decodedAuthorized L auth d = .ok b ∧ (b = true ↔ ∃ u p, auth.username = some u ∧
      auth.password = some p ∧ 0x3A ∉ Utf8.encode u ∧ d = Utf8.encode u ++ 0x3A :: Utf8.encode p) := by
  unfold decodedAuthorized
  rcases findIdx?_cases (· == (0x3A : UInt8)) d with ⟨hn, hd⟩ | ⟨l, x, r, rfl, hl, hx, hi⟩
  · rw [hn]
    refine ⟨false, rfl, by simp, ?_⟩
    intro h
    obtain ⟨u, p, -, -, -, rfl⟩ := h
    simpa using hd 0x3A (by simp)
  · obtain rfl : x = 0x3A := by simpa using hx
    have h1 : (slice (l ++ 0x3A :: r) 0 l.length : Except (Abort Str) Bytes) = .ok l :=
      slice_append (a := []) rfl (by simp)
    have h2 : (sliceFrom (l ++ 0x3A :: r) l.length : Except (Abort Str) Bytes) = .ok (0x3A :: r) :=
      sliceFrom_append rfl
    have h3 : (sliceFrom (0x3A :: r) 1 : Except (Abort Str) Bytes) = .ok r :=
      sliceFrom_append (a := [0x3A]) rfl
    simp only [hi, h1, h2, h3, ok_bind]
    cases hu : auth.username with
    | none => exact ⟨false, rfl, by simp⟩
    | some u =>
      cases hp : auth.password with
      | none => exact ⟨false, rfl, by simp⟩
      | some p =>
        refine ⟨_, rfl, ?_⟩
        rw [credentialsMatch_iff hct]
        constructor
        · intro h
          obtain ⟨rfl, rfl⟩ := h
          exact ⟨u, p, rfl, rfl, fun hm => by simpa using hl _ hm, rfl⟩
        · intro h
          obtain ⟨u', p', hu', hp', hc, he⟩ := h
          cases hu'
          cases hp'
          obtain ⟨rfl, rfl⟩ := append_sep_inj (fun hm => by simpa using hl _ hm) hc he
          exact ⟨rfl, rfl⟩

/-- Behind the blanks starts what is decoded. -/
theorem encodedPart_eq (pre : Bytes) {blanks e : Bytes} (hpre : pre.length = 6)
    (hb : ∀ b ∈ blanks, isBlank b = true) (he : ∀ b ∈ e.head?, isBlank b = false) :
    encodedPart (pre ++ (blanks ++ e)) = .ok e := by
  have hbn : blanks.findIdx? (fun b => !isBlank b) = none := by
    rw [List.findIdx?_eq_none_iff]
    simpa using hb
  unfold encodedPart
  rw [sliceFrom_append hpre, ok_bind, List.findIdx?_append, hbn]
  cases e with
  | nil => rfl
  | cons b e =>
    have hbf : isBlank b = false := he b rfl
    simp only [List.findIdx?_cons, hbf]
    rw [← List.append_assoc]
    exact sliceFrom_append (by simp [hpre])

/-- The check of a value, taken apart. -/
theorem httpBasicAuthorized_parts {L : Libs} {auth : AuthConfig} {value : Str} {basic blanks e : Bytes}
    {x : UInt8} (hl : basic.length = 5) (hb : ∀ b ∈ blanks, isBlank b = true)
    (he : ∀ b ∈ e.head?, isBlank b = false) (hv : Utf8.encode value = basic ++ x :: (blanks ++ e)) :
    httpBasicAuthorized L (some value) auth =
      if !eqIgnoreAsciiCaseBytes basic BASIC || x != 0x20 then .ok false
      else match L.base64Decode e with
        | none => .ok false
        | some decoded => decodedAuthorized L auth decoded := by
  have h1 : (slice (basic ++ x :: (blanks ++ e)) 0 5 : Except (Abort Str) Bytes) = .ok basic :=
    slice_append (a := []) rfl (by omega)
  have h2 : (getByte (basic ++ x :: (blanks ++ e)) 5 : Except (Abort Str) UInt8) = .ok x :=
    getByte_append hl
  have h3 := encodedPart_eq (basic ++ [x]) (by simp [hl]) hb he
  simp only [List.append_assoc, List.singleton_append] at h3
  have hlen : ¬ (basic ++ x :: (blanks ++ e)).length < 6 := by
    simp [hl]
    omega
  unfold httpBasicAuthorized
  simp only [hv, if_neg hlen, h1, h2, h3, ok_bind]
  rfl

theorem eqIgnoreAsciiCaseBytes_length {a b : Bytes} (h : eqIgnoreAsciiCaseBytes a b = true) :
    a.length = b.length := by
  unfold eqIgnoreAsciiCaseBytes at h
  simpa using congrArg List.length (beq_iff_eq.1 h)

/-- What makes a value a `BasicHeader`, given its parts. -/
theorem basicHeader_parts {L : Libs} {auth : AuthConfig} {value : Str} {basic blanks e : Bytes}
    {x : UInt8} (hl : basic.length = 5) (hb : ∀ b ∈ blanks, isBlank b = true)
    (he : ∀ b ∈ e.head?, isBlank b = false) (hv : Utf8.encode value = basic ++ x :: (blanks ++ e)) :
    BasicHeader L auth value ↔ eqIgnoreAsciiCaseBytes basic BASIC = true ∧ x = 0x20 ∧
      ∃ u p, auth.username = some u ∧ auth.password = some p ∧ 0x3A ∉ Utf8.encode u ∧
        L.base64Decode e = some (Utf8.encode u ++ 0x3A :: Utf8.encode p) := by
  constructor
  · intro h
    obtain ⟨basic', blanks', e', u, p, hbasic', hb', he', hv', hu, hp, hc, hd⟩ := h
    have hl' : basic'.length = 5 := eqIgnoreAsciiCaseBytes_length hbasic'
    rw [hv] at hv'
    obtain ⟨rfl, htail⟩ := List.append_inj hv' (hl.trans hl'.symm)
    obtain ⟨rfl, hrest⟩ := List.cons_eq_cons.1 htail
    obtain ⟨rfl, rfl⟩ := span_inj hb hb' he he' hrest
    exact ⟨hbasic', rfl, u, p, hu, hp, hc, hd⟩
  · intro h
    obtain ⟨hbasic, rfl, u, p, hu, hp, hc, hd⟩ := h
    exact ⟨basic, blanks, e, u, p, hbasic, hb, he, hv, hu, hp, hc, hd⟩

theorem basicHeader_length {L : Libs} {auth : AuthConfig} {value : Str}
    (h : BasicHeader L auth value) : 6 ≤ (Utf8.encode value).length := by
  obtain ⟨basic, blanks, e, u, p, hbasic, -, -, hv, -⟩ := h
  have hl : basic.length = 5 := eqIgnoreAsciiCaseBytes_length hbasic
  rw [hv, List.length_append, List.length_cons]
  omega

/-- **The header check accepts exactly well-formed, matching values**, and
never leaves its slices. -/
theorem httpBasicAuthorized_cases {L : Libs} (hct : L.CtEqExact) (auth : AuthConfig) (value : Str) :
    ∃ b, httpBasicAuthorized L (some value) auth = .ok b ∧ (b = true ↔ BasicHeader L auth value) := by
  by_cases hlen : (Utf8.encode value).length < 6
  · refine ⟨false, if_pos hlen, by simp, fun h => ?_⟩
    have := basicHeader_length h
    omega
  obtain ⟨blanks, e, hv, hb, he⟩ := exists_span isBlank ((Utf8.encode value).drop 6)
  have hl : ((Utf8.encode value).take 5).length = 5 := by
    rw [List.length_take]
    omega
  replace hv : Utf8.encode value =
      (Utf8.encode value).take 5 ++ (Utf8.encode value)[5] :: (blanks ++ e) := by
    rw [← hv, List.getElem_cons_drop, List.take_append_drop]
  generalize (Utf8.encode value).take 5 = basic, (Utf8.encode value)[5] = x at hl hv
  rw [httpBasicAuthorized_parts hl hb he hv, basicHeader_parts hl hb he hv]
  by_cases hbasic : eqIgnoreAsciiCaseBytes basic BASIC = true ∧ x = 0x20
  · obtain ⟨hbasic, rfl⟩ := hbasic
    rw [if_neg (by simp [hbasic])]
    cases hd : L.base64Decode e with
    | none => exact ⟨false, rfl, by simp⟩
    | some decoded =>
      obtain ⟨b, hb, hiff⟩ := decodedAuthorized_cases hct auth decoded
      exact ⟨b, hb, by simp [hiff, hbasic]⟩
  · refine ⟨false, if_pos ?_, by simp, fun h => absurd ⟨h.1, h.2.1⟩ hbasic⟩
    rw [Bool.or_eq_true, bne_iff_ne, Bool.not_eq_true']
    rcases Decidable.not_and_iff_or_not.1 hbasic with h | h
    · exact .inl (Bool.eq_false_iff.2 h)
    · exact .inr h

/-- A colon of a text is a colon byte of it. -/
theorem colon_mem_encode {s : Str} : 0x3A ∈ Utf8.encode s ↔ ':' ∈ s := by
  constructor
  · intro h
    obtain ⟨c, hc, hn⟩ := Utf8.mem_encode h (by decide)
    obtain rfl : c = ':' := Char.toNat_inj.1 hn
    exact hc
  · exact fun h => List.mem_flatMap.2 ⟨':', h, by decide⟩

/-- **A header is authorized exactly if it is well formed and matches**: credentials
are configured, with no colon in the user name, and the value is `Basic` in any
letter case, a space, more blanks, and what decodes to the two with a colon
between them. The check ends with a verdict on every header. -/
theorem http_basic_authorized_iff {L : Libs} (hct : L.CtEqExact) (auth : AuthConfig)
    (authHeader : Option Str) :
    ∃ b, httpBasicAuthorized L authHeader auth = .ok b ∧
      (b = true ↔ ∃ value user pass, authHeader = some value ∧
        auth.username = some user ∧ auth.password = some pass ∧ ':' ∉ user ∧
        ∃ basic blanks e, eqIgnoreAsciiCaseBytes basic (Utf8.encode "Basic") = true ∧
          (∀ b ∈ blanks, b = 0x20 ∨ b = 0x09) ∧ (∀ b ∈ e.head?, b ≠ 0x20 ∧ b ≠ 0x09) ∧
          Utf8.encode value = basic ++ 0x20 :: (blanks ++ e) ∧
          L.base64Decode e = some (Utf8.encode user ++ 0x3A :: Utf8.encode pass)) := by
  have hblank : ∀ b : UInt8, isBlank b = true ↔ b = 0x20 ∨ b = 0x09 := by
    simp [isBlank]
  have hplain : ∀ b : UInt8, isBlank b = false ↔ b ≠ 0x20 ∧ b ≠ 0x09 := by
    simp [isBlank]
  cases authHeader with
  | none =>
    refine ⟨false, rfl, by simp, ?_⟩
    intro hx
    obtain ⟨value, user, pass, h, -⟩ := hx
    cases h
  | some value =>
    obtain ⟨b, hok, hiff⟩ := httpBasicAuthorized_cases hct auth value
    refine ⟨b, hok, hiff.trans ?_⟩
    unfold BasicHeader
    simp only [hblank, hplain, colon_mem_encode]
    constructor
    · intro hx
      obtain ⟨basic, blanks, e, user, pass, hbasic, hb, he, hv, hu, hp, hc, hd⟩ := hx
      exact ⟨value, user, pass, rfl, hu, hp, hc, basic, blanks, e, hbasic, hb, he, hv, hd⟩
    · intro hx
      obtain ⟨value', user, pass, hval, hu, hp, hc, basic, blanks, e, hbasic, hb, he, hv, hd⟩ := hx
      cases hval
      exact ⟨basic, blanks, e, user, pass, hbasic, hb, he, hv, hu, hp, hc, hd⟩

/-- The check of a value in mixed case, with two more blanks. -/
theorem http_basic_authorized_iff_blanks :
    let auth : AuthConfig := ⟨some "u".toList, some "p:".toList, []⟩
    ∃ b, httpBasicAuthorized plainLibs (some "bAsIc  \tdTpwOg==".toList) auth = .ok b ∧
      (b = true ↔ ∃ value user pass, some "bAsIc  \tdTpwOg==".toList = some value ∧
        auth.username = some user ∧ auth.password = some pass ∧ ':' ∉ user ∧
        ∃ basic blanks e, eqIgnoreAsciiCaseBytes basic (Utf8.encode "Basic") = true ∧
          (∀ b ∈ blanks, b = 0x20 ∨ b = 0x09) ∧ (∀ b ∈ e.head?, b ≠ 0x20 ∧ b ≠ 0x09) ∧
          Utf8.encode value = basic ++ 0x20 :: (blanks ++ e) ∧
          plainLibs.base64Decode e = some (Utf8.encode user ++ 0x3A :: Utf8.encode pass)) :=
  http_basic_authorized_iff plainLibs_ctEqExact _ _

end TinySocks.L3
