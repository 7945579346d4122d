import TinySocks.L2Stream.Advance
import TinySocks.L3Protocol.HttpHeaders
import TinySocks.L1Encoding.Libs

/-!
# Reading an HTTP request and its target (`http.rs`)

`readHttpRequest` collects bytes until `httparse` finds a head in them, and
keeps what it read beyond the head in `bodyStart`. When it returns, the bytes
it consumed are the buffer it parsed (`readHttpRequest_ok`), and the head in
it is the head of everything the client sends (`ReadHead.stream`).
-/
namespace TinySocks.L3

open TinySocks.Core TinySocks.L1 TinySocks.L2

def MAX_HEADER_SIZE : Nat := 64 * 1024

/-- mirrors src/http.rs:25-28 -/
structure HttpListener where
  port : UInt16
  via : Str
  deriving DecidableEq, Repr

/-- `hashOne` is the listener's own `RandomState`.
mirrors src/http.rs:31-37 -/
def HttpListener.new (hashOne : UInt16 → UInt64) (port : UInt16) : HttpListener where
  port := port
  via := "tinysocks-" ++ hex16 (hashOne port)

/-- mirrors src/http.rs:40-46 -/
structure HttpRequest where
  method : Str
  target : Str
  version : Str
  headers : Headers
  bodyStart : Bytes
  deriving DecidableEq, Repr

/-! ## Targets -/

section
variable (L : Libs)

/-- mirrors src/http.rs:521-526 -/
def normalizeHost (host : Str) : Str :=
  match host with
  | '[' :: value => if value.getLast? = some ']' then value.dropLast else host
  | _ => host

/-- mirrors src/http.rs:511-518 -/
def authorityHostPort (authority : Authority) (defaultPort : UInt16) : Except Str (Str × UInt16) :=
  let host := normalizeHost authority.host
  if host = [] then .error "HttpError::MissingHost"
  else .ok (host, authority.portU16.getD defaultPort)

/-- mirrors src/http.rs:453-458 -/
def parseConnectTarget (target : Str) : Except Str (Str × UInt16) :=
  match L.parseAuthority target with
  | some authority => authorityHostPort authority 443
  | none => .error "HttpError::BadConnectTarget"

/-- mirrors src/http.rs:529-535 -/
def normalizePathAndQuery (pathAndQuery : Option Str) : Str :=
  match pathAndQuery with
  | none | some [] => "/"
  | some ('?' :: value) => '/' :: '?' :: value
  | some value => value

/-- A prefix that matches is ASCII, so that its bytes are its characters.
mirrors src/http.rs:502-509 -/
def isAbsoluteHttpTarget (target : Str) : Bool :=
  eqIgnoreAsciiCase (target.take 7) "http://" || eqIgnoreAsciiCase (target.take 8) "https://"

/-- mirrors src/http.rs:482-499 -/
def parseAbsoluteTarget (target : Str) : Except Str (Str × UInt16 × Str) := do
  let uri ← match L.parseUri target with
    | some uri => .ok uri
    | none => .error "HttpError::BadRequestTarget".toList
  let defaultPort ← match uri.schemeStr with
    | some scheme =>
      if eqIgnoreAsciiCase scheme "http" then .ok 80
      else if eqIgnoreAsciiCase scheme "https" then .error "HttpError::HttpsNotSupported".toList
      else .error "HttpError::UnsupportedScheme".toList
    | none => .error "HttpError::UnsupportedScheme".toList
  let authority ← match uri.authority with
    | some authority => .ok authority
    | none => .error "HttpError::MissingHost".toList
  let (host, port) ← authorityHostPort authority defaultPort
  let path := normalizePathAndQuery uri.pathAndQuery
  .ok (host, port, path)

/-- mirrors src/http.rs:461-479 -/
def splitTarget (target : Str) (hostHeader : Option Str) (defaultPort : UInt16) :
    Except Str (Str × UInt16 × Str) :=
  if isAbsoluteHttpTarget target then parseAbsoluteTarget L target
  else
    match hostHeader with
    | none => .error "HttpError::MissingHost"
    | some hostHeader =>
      match L.parseAuthority hostHeader with
      | none => .error "HttpError::BadHost"
      | some authority => do
        let (host, port) ← authorityHostPort authority defaultPort
        let path := if target = [] then "/".toList else target
        .ok (host, port, path)

/-- mirrors src/http.rs:538-540 -/
def formatTargetEndpoint (host : Str) (port : UInt16) : Str :=
  bracketIpv6 host ++ ":" ++ decimal port.toNat

/-- mirrors src/http.rs:543-550 -/
def formatHostHeader (host : Str) (port defaultPort : UInt16) : Str :=
  let host := bracketIpv6 host
  if port = defaultPort then host else host ++ ":" ++ decimal port.toNat

/-! ## The statistics page -/

/-- mirrors src/http.rs:240-243 -/
def hostHeaderPort (host : Str) : Option UInt16 :=
  (L.parseAuthority (trim host)).map fun a => a.portU16.getD 80

/-- mirrors src/http.rs:235-237 -/
def hostTargetsListenerPort (host : Str) (listenerPort : UInt16) : Bool :=
  match hostHeaderPort L host with
  | some port => port == listenerPort
  | none => false

/-- mirrors src/http.rs:212-232 -/
def isStatsRequest (req : HttpRequest) (listenerPort : UInt16) : Bool :=
  if !eqIgnoreAsciiCase req.method "GET" then false
  else if isAbsoluteHttpTarget req.target then false
  else
    let path := req.target.takeWhile (· ≠ '?')
    if path ≠ "/stats".toList then false
    else
      match getHeader req.headers "host" with
      | none => false
      | some host => hostTargetsListenerPort L host listenerPort

/-! ## Reading a request -/

/-- The name and the value of a header, trimmed.
mirrors src/http.rs:124-129 -/
def textHeader (h : Str × Bytes) : Except (Abort Str) (Str × Str) :=
  match Utf8.decode h.2 with
  | some value => .ok (trim h.1, trim value)
  | none => .error (.fail "HttpError::InvalidHeaderUtf8")

/-- mirrors src/http.rs:116-120 -/
def versionName : Option Nat → Except (Abort Str) Str
  | some 1 => .ok "HTTP/1.1"
  | some 0 => .ok "HTTP/1.0"
  | _ => .error (.fail "HttpError::BadRequest")

/-- The request in a buffer with a complete head.
mirrors src/http.rs:108-141 -/
def requestOf (parsed : ParsedHead) (buf : Bytes) (headerEnd : Nat) :
    Except (Abort Str) HttpRequest := do
  let method ← match parsed.method with
    | some method => .ok method
    | none => .error (.fail "HttpError::BadRequest".toList)
  let target ← match parsed.path with
    | some target => .ok target
    | none => .error (.fail "HttpError::BadRequest".toList)
  let version ← versionName parsed.version
  let headers ← parsed.headers.mapM textHeader
  match validateMessageFraming headers with
  | .error message => .error (.fail message)
  | .ok () => do
    let bodyStart ← sliceFrom buf headerEnd
    .ok { method, target, version, headers, bodyStart }

/-- The loop; `buf` is what was read so far. Every round adds a byte to it, so
that `MAX_HEADER_SIZE + 1` rounds are enough (`readHttpRequestGo_fuel`).
mirrors src/http.rs:95-150 -/
def readHttpRequestGo : Nat → Bytes → M HttpRequest
  | 0, _ => bail "HttpError::HeaderTooLarge"
  | fuel + 1, buf => do
    let chunk ← readWithTimeout 1024 "HTTP request header read"
    if chunk = [] then bail "HttpError::UnexpectedEof"
    else
      let buf := buf ++ chunk
      if buf.length > MAX_HEADER_SIZE then bail "HttpError::HeaderTooLarge"
      else
        match L.httparse buf with
        | .complete headerEnd parsed => liftAbort (requestOf parsed buf headerEnd)
        | .more => readHttpRequestGo fuel buf
        | .tooManyHeaders => bail "HttpError::TooManyHeaders"
        | .bad => bail "HttpError::BadRequest"

def readHttpRequest : M HttpRequest := readHttpRequestGo L (MAX_HEADER_SIZE + 1) []

end

/-! ## What targets are split into -/

/-- An absolute target in one decision after the other. -/
theorem parseAbsoluteTarget_eq (L : Libs) (target : Str) : parseAbsoluteTarget L target =
    match L.parseUri target with
    | none => .error "HttpError::BadRequestTarget"
    | some uri =>
      match uri.schemeStr with
      | none => .error "HttpError::UnsupportedScheme"
      | some scheme =>
        if eqIgnoreAsciiCase scheme "http" then
          match uri.authority with
          | none => .error "HttpError::MissingHost"
          | some authority => (authorityHostPort authority 80).map fun r =>
            (r.1, r.2, normalizePathAndQuery uri.pathAndQuery)
        else if eqIgnoreAsciiCase scheme "https" then .error "HttpError::HttpsNotSupported"
        else .error "HttpError::UnsupportedScheme" := by
  unfold parseAbsoluteTarget
  cases L.parseUri target with
  | none => rfl
  | some uri =>
    obtain ⟨schemeStr, authority, pathAndQuery⟩ := uri
    cases schemeStr with
    | none => rfl
    | some scheme =>
      simp only [ok_bind]
      split
      · cases authority with
        | none => rfl
        | some authority =>
          simp only
          cases authorityHostPort authority 80 with
          | error message => rfl
          | ok r => rfl
      · split
        · rfl
        · rfl

theorem normalizeHost_mem {host : Str} {c : Char} (hc : c ∈ normalizeHost host) : c ∈ host := by
  unfold normalizeHost at hc
  split at hc
  · split at hc
    · exact .tail _ (List.dropLast_subset _ hc)
    · exact hc
  · exact hc

theorem authorityHostPort_ok {authority : Authority} {defaultPort port : UInt16} {host : Str}
    (h : authorityHostPort authority defaultPort = .ok (host, port)) :
    host = normalizeHost authority.host ∧ port = authority.portU16.getD defaultPort := by
  unfold authorityHostPort at h
  simp only at h
  split at h
  · cases h
  · cases h
    exact ⟨rfl, rfl⟩

theorem parseAbsoluteTarget_ok {L : Libs} {target host path : Str} {port : UInt16}
    (h : parseAbsoluteTarget L target = .ok (host, port, path)) :
    ∃ uri scheme authority, L.parseUri target = some uri ∧ uri.schemeStr = some scheme ∧
      eqIgnoreAsciiCase scheme "http" = true ∧ uri.authority = some authority ∧
      authorityHostPort authority 80 = .ok (host, port) ∧
      path = normalizePathAndQuery uri.pathAndQuery := by
  rw [parseAbsoluteTarget_eq] at h
  cases hu : L.parseUri target with
  | none =>
    rw [hu] at h
    cases h
  | some uri =>
    rw [hu] at h
    obtain ⟨schemeStr, authority, pathAndQuery⟩ := uri
    cases schemeStr with
    | none => cases h
    | some scheme =>
      simp only at h
      split at h
      · rename_i hs
        cases authority with
        | none => cases h
        | some authority =>
          simp only at h
          cases ha : authorityHostPort authority 80 with
          | error message =>
            rw [ha] at h
            cases h
          | ok r =>
            rw [ha] at h
            cases h
            exact ⟨_, scheme, authority, rfl, rfl, hs, rfl, ha, rfl⟩
      · split at h
        · cases h
        · cases h

/-- A target names its own host, or leaves it to the `Host` header. -/
theorem splitTarget_ok {L : Libs} {target host path : Str} {hostHeader : Option Str}
    {defaultPort port : UInt16} (h : splitTarget L target hostHeader defaultPort = .ok (host, port, path)) :
    (isAbsoluteHttpTarget target = true ∧ parseAbsoluteTarget L target = .ok (host, port, path)) ∨
    (isAbsoluteHttpTarget target = false ∧ ∃ value authority, hostHeader = some value ∧
      L.parseAuthority value = some authority ∧
      authorityHostPort authority defaultPort = .ok (host, port) ∧
      path = if target = [] then "/".toList else target) := by
  unfold splitTarget at h
  split at h
  · rename_i habs
    exact .inl ⟨habs, h⟩
  · rename_i habs
    cases hostHeader with
    | none => cases h
    | some value =>
      simp only at h
      cases ha : L.parseAuthority value with
      | none =>
        rw [ha] at h
        cases h
      | some authority =>
        rw [ha] at h
        obtain ⟨⟨host', port'⟩, hok, h⟩ := except_bind_eq_ok.1 h
        cases h
        exact .inr ⟨Bool.eq_false_iff.2 habs, value, authority, rfl, ha, hok, rfl⟩

/-! ## What a request was read from -/

theorem liftAbort_ok {α : Type} {r : Except (Abort Str) α} {w w' : World} {a : α}
    (h : liftAbort r w = .ok a w') : r = .ok a ∧ w' = w := by
  unfold liftAbort at h
  split at h
  · cases h
    exact ⟨rfl, rfl⟩
  · cases h
  · cases h

theorem keeps_liftAbort {R : World → World → Prop} (hR : Frame R) {α : Type}
    (r : Except (Abort Str) α) : Keeps R (liftAbort r) := by
  unfold liftAbort
  split
  · exact Keeps.pure hR _
  · exact keeps_bail hR _
  · exact Keeps.throw hR _

/-- Where the parts of a request come from. -/
theorem requestOf_ok {parsed : ParsedHead} {buf : Bytes} {n : Nat} {req : HttpRequest} :
    requestOf parsed buf n = .ok req ↔ parsed.method = some req.method ∧ parsed.path = some req.target ∧
      versionName parsed.version = .ok req.version ∧
      parsed.headers.mapM textHeader = .ok req.headers ∧
      validateMessageFraming req.headers = .ok () ∧ n ≤ buf.length ∧ req.bodyStart = buf.drop n := by
  obtain ⟨method, target, version, headers, bodyStart⟩ := req
  unfold requestOf
  cases hm : parsed.method with
  | none => simp [bind, Except.bind]
  | some m =>
    cases ht : parsed.path with
    | none => simp [bind, Except.bind]
    | some t =>
      simp only [ok_bind, except_bind_eq_ok]
      constructor
      · intro hx
        obtain ⟨v, hv, hs, hhs, h⟩ := hx
        split at h
        · cases h
        · rename_i hval
          obtain ⟨b, hb, h⟩ := except_bind_eq_ok.1 h
          cases h
          unfold sliceFrom at hb
          split at hb
          · rename_i hle
            cases hb
            exact ⟨rfl, rfl, hv, hhs, hval, hle, rfl⟩
          · cases hb
      · intro hx
        obtain ⟨he₁, he₂, hv, hhs, hval, hle, rfl⟩ := hx
        cases he₁
        cases he₂
        refine ⟨version, hv, headers, hhs, ?_⟩
        simp only [hval, sliceFrom_eq hle, ok_bind]

/-- `buf` was parsed as `req`. -/
structure ReadHead (L : Libs) (buf : Bytes) (req : HttpRequest) (headerEnd : Nat)
    (parsed : ParsedHead) : Prop where
  complete : L.httparse buf = .complete headerEnd parsed
  request : requestOf parsed buf headerEnd = .ok req
  size : buf.length ≤ MAX_HEADER_SIZE

/-- `req` is the request at the head of `inp`, which ends at `headerEnd`. -/
def ClientHead (L : Libs) (inp : Bytes) (req : HttpRequest) (headerEnd : Nat) : Prop :=
  ∃ parsed, L.httparse inp = .complete headerEnd parsed ∧
    requestOf parsed inp headerEnd = .ok { req with bodyStart := inp.drop headerEnd }

/-- The head that was read is the head of all the client sends, and the body
starts behind it. -/
theorem ReadHead.stream {L : Libs} (hs : L.HeadStable) {buf : Bytes} {req : HttpRequest} {n : Nat}
    {parsed : ParsedHead} (h : ReadHead L buf req n parsed) (rest : Bytes) :
    ClientHead L (buf ++ rest) req n ∧ (buf ++ rest).drop n = req.bodyStart ++ rest := by
  obtain ⟨hm, ht, hv, hh, hf, hle, hb⟩ := requestOf_ok.1 h.request
  refine ⟨⟨parsed, hs.append h.complete rest, requestOf_ok.2 ⟨hm, ht, hv, hh, hf, ?_, rfl⟩⟩, ?_⟩
  · rw [List.length_append]
    omega
  · rw [hb, List.drop_append_of_le_length hle]

theorem readHttpRequestGo_ok {L : Libs} : ∀ (fuel : Nat) {buf : Bytes} {w w' : World}
    {req : HttpRequest}, readHttpRequestGo L fuel buf w = .ok req w' →
      ∃ c n parsed, Advance c [] w w' ∧ ReadHead L (buf ++ c) req n parsed := by
  intro fuel
  induction fuel with
  | zero => intro buf w w' req h; cases h
  | succ fuel ih =>
    intro buf w w' req h
    obtain ⟨chunk, w₁, h₁, h⟩ := bind_eq_ok.1 h
    obtain ⟨ha, -, -⟩ := readWithTimeout_ok h₁
    split at h
    · cases h
    simp only at h
    split at h
    · cases h
    rename_i hsize
    cases hp : L.httparse (buf ++ chunk) with
    | complete n parsed =>
      rw [hp] at h
      obtain ⟨hreq, rfl⟩ := liftAbort_ok h
      exact ⟨chunk, n, parsed, ha, hp, hreq, Nat.le_of_not_lt hsize⟩
    | more =>
      rw [hp] at h
      obtain ⟨c, n, parsed, ha', hr⟩ := ih h
      rw [List.append_assoc] at hr
      exact ⟨chunk ++ c, n, parsed, ha.trans ha', hr⟩
    | tooManyHeaders =>
      rw [hp] at h
      cases h
    | bad =>
      rw [hp] at h
      cases h

/-- Exactly the bytes of the parsed buffer were consumed. -/
theorem readHttpRequest_ok {L : Libs} {w w' : World} {req : HttpRequest}
    (h : readHttpRequest L w = .ok req w') :
    ∃ buf n parsed, Advance buf [] w w' ∧ ReadHead L buf req n parsed :=
  readHttpRequestGo_ok _ h

theorem keeps_readHttpRequestGo (L : Libs) : ∀ fuel buf, Keeps Quiet (readHttpRequestGo L fuel buf) := by
  intro fuel
  induction fuel with
  | zero => exact fun buf => keeps_bail quiet_frame _
  | succ fuel ih =>
    intro buf
    refine Keeps.bind quiet_frame (keeps_readWithTimeout _ _) fun chunk => ?_
    refine Keeps.ite (keeps_bail quiet_frame _) (Keeps.ite (keeps_bail quiet_frame _) ?_)
    cases L.httparse (buf ++ chunk) with
    | complete n parsed => exact keeps_liftAbort quiet_frame _
    | more => exact ih _
    | tooManyHeaders => exact keeps_bail quiet_frame _
    | bad => exact keeps_bail quiet_frame _

theorem keeps_readHttpRequest (L : Libs) : Keeps Quiet (readHttpRequest L) :=
  keeps_readHttpRequestGo L _ _

/-- More rounds than there is room for bytes change nothing. -/
theorem readHttpRequestGo_fuel (L : Libs) : ∀ (fuel : Nat) {buf : Bytes} (w : World),
    buf.length ≤ MAX_HEADER_SIZE → MAX_HEADER_SIZE < buf.length + fuel →
      readHttpRequestGo L (fuel + 1) buf w = readHttpRequestGo L fuel buf w := by
  intro fuel
  induction fuel with
  | zero =>
    intro buf w hle hlt
    omega
  | succ fuel ih =>
    intro buf w hle hlt
    rw [readHttpRequestGo, readHttpRequestGo, bind_apply, bind_apply]
    cases readWithTimeout 1024 "HTTP request header read" w with
    | error e w₁ => rfl
    | ok chunk w₁ =>
      simp only
      split
      · rfl
      rename_i hne
      split
      · rfl
      rename_i hsize
      have hpos := List.length_pos_iff.2 hne
      cases L.httparse (buf ++ chunk) with
      | more =>
        refine ih w₁ (Nat.le_of_not_lt hsize) ?_
        rw [List.length_append]
        omega
      | _ => rfl

end TinySocks.L3
