import TinySocks.L4App.Transparent

/-!
# Proxy credentials and the upstream

Erasing the values of the `Proxy-Authorization` headers says what two
connections have in common that differ in nothing else. The rewritten head of
the first request depends on what is left only (`SameRequest.forwardHead`); what is
behind it goes up as it came. So the upstream receives the same exactly if the
requests after the first are the same (`upstream_same_iff`), and
`second_request_leaks` shows a password on its way there.
-/
namespace TinySocks.L4

open TinySocks.Core TinySocks.L1 TinySocks.L2 TinySocks.L3

/-! ## Erasing -/

def isCredentials (name : Str) : Bool := eqIgnoreAsciiCase name "proxy-authorization"

def eraseHeader (h : Str × Str) : Str × Str := if isCredentials h.1 then (h.1, []) else h

def eraseField (f : Http1.Field) : Http1.Field :=
  if isCredentials (Utf8.ofAscii f.name) then { f with value := [] } else f

def eraseHead (h : Http1.Head) : Http1.Head := { h with fields := h.fields.map eraseField }

def erase (m : Http1.Message) : Http1.Message := { m with head := eraseHead m.head }

theorem eraseHeader_name (h : Str × Str) : (eraseHeader h).1 = h.1 := by
  unfold eraseHeader
  split <;> rfl

/-- A filter by name that takes no credentials does not see their values. -/
theorem filter_erase {p : Str → Bool} (hp : ∀ name, isCredentials name = true → p name = false)
    (headers : Headers) :
    (headers.map eraseHeader).filter (fun h => p h.1) = headers.filter fun h => p h.1 := by
  induction headers with
  | nil => rfl
  | cons h headers ih =>
    rw [List.map_cons, List.filter_cons, List.filter_cons, eraseHeader_name, ih]
    cases hc : isCredentials h.1 with
    | true => rw [hp _ hc]; rfl
    | false => rw [show eraseHeader h = h from if_neg (by rw [hc]; exact Bool.false_ne_true)]

theorem isCredentials_other {name other : Str}
    (ho : eqIgnoreAsciiCase "proxy-authorization".toList other = false) (h : isCredentials name = true) :
    eqIgnoreAsciiCase name other = false := (eqIgnoreAsciiCase_congr h).trans ho

theorem getHeader_erase {name : Str}
    (hn : eqIgnoreAsciiCase "proxy-authorization".toList name = false) (headers : Headers) :
    getHeader (headers.map eraseHeader) name = getHeader headers name := by
  have hf : (headers.map eraseHeader).filter (isNamed name) = headers.filter (isNamed name) :=
    filter_erase (p := fun n => eqIgnoreAsciiCase n name) (fun _ => isCredentials_other hn) headers
  unfold getHeader
  rw [← List.head?_filter, ← List.head?_filter, hf]

theorem connectionHeaderNames_erase (headers : Headers) :
    connectionHeaderNames (headers.map eraseHeader) = connectionHeaderNames headers := by
  have hf : (headers.map eraseHeader).filter (isNamed "connection") =
      headers.filter (isNamed "connection") :=
    filter_erase (p := fun n => eqIgnoreAsciiCase n "connection")
      (fun _ => isCredentials_other (by decide)) headers
  unfold connectionHeaderNames
  rw [hf]

/-- The filter drops every `Proxy-Authorization` header, and looks at none. -/
theorem forwardedHeaders_erase (headers : Headers) (hostHeader version via : Str) :
    forwardedHeaders (headers.map eraseHeader) hostHeader version via =
      forwardedHeaders headers hostHeader version via := by
  unfold forwardedHeaders
  simp only [connectionHeaderNames_erase]
  rw [filter_erase (p := fun n => !shouldDropForwardHeader n (connectionHeaderNames headers))]
  intro name hc
  have hd : eqIgnoreAsciiCase name "proxy-authorization" = true := hc
  unfold shouldDropForwardHeader
  rw [hd]
  rfl

/-! ## Requests that differ in credentials only -/

structure SameRequest (r s : HttpRequest) : Prop where
  method : r.method = s.method
  target : r.target = s.target
  version : r.version = s.version
  headers : r.headers.map eraseHeader = s.headers.map eraseHeader

theorem SameRequest.goesTo {r s : HttpRequest} (h : SameRequest r s) (L : Libs) :
    Http.target L r = Http.target L s := by
  unfold Http.target
  rw [← getHeader_erase (by decide) r.headers, ← getHeader_erase (by decide) s.headers, h.target,
    h.headers]

/-- The rewritten head shows nothing of the credentials. -/
theorem SameRequest.forwardHead {r s : HttpRequest} (h : SameRequest r s) (host : Str) (port : UInt16)
    (path via : Str) : Http.forwardHead r host port path via = Http.forwardHead s host port path via := by
  unfold Http.forwardHead
  rw [← forwardedHeaders_erase r.headers, ← forwardedHeaders_erase s.headers, h.method, h.version,
    h.headers]

/-! ## Heads that differ in credentials only -/

theorem eraseField_name (f : Http1.Field) : (eraseField f).name = f.name := by
  unfold eraseField
  split <;> rfl

theorem name_of_erase {f g : Http1.Field} (h : eraseField f = eraseField g) : f.name = g.name := by
  rw [← eraseField_name f, ← eraseField_name g, h]

theorem eq_of_erase {f g : Http1.Field} (h : eraseField f = eraseField g) (hv : f.value = g.value) :
    f = g := by
  have hn := name_of_erase h
  unfold eraseField at h
  rw [hn] at h
  split at h
  · injection h with _ hl _ ht
    cases f
    cases g
    simp_all
  · exact h

theorem fields_of_erase : ∀ {fs gs : List Http1.Field}, fs.map eraseField = gs.map eraseField →
    (fs.map fun f => (f.name, f.value)) = gs.map (fun f => (f.name, f.value)) → fs = gs := by
  intro fs
  induction fs with
  | nil =>
    intro gs h _
    exact (List.map_eq_nil_iff.1 h.symm).symm
  | cons f fs ih =>
    intro gs h hv
    cases gs with
    | nil => cases h
    | cons g gs =>
      rw [List.map_cons, List.map_cons] at h hv
      obtain ⟨hhead, htail⟩ := List.cons_eq_cons.1 h
      obtain ⟨hvhead, hvtail⟩ := List.cons_eq_cons.1 hv
      rw [eq_of_erase hhead (Prod.mk.inj hvhead).2, ih htail hvtail]

theorem head_of_erase {h k : Http1.Head} (he : eraseHead h = eraseHead k)
    (hv : (h.fields.map fun f => (f.name, f.value)) = k.fields.map fun f => (f.name, f.value)) : h = k := by
  injection he with hm ht hn hf
  have hfs := fields_of_erase hf hv
  cases h
  cases k
  simp_all

theorem textHeader_erase {f g : Http1.Field} (h : eraseField f = eraseField g) {hd kd : Str × Str}
    (hf : textHeader (Utf8.ofAscii f.name, f.value) = .ok hd)
    (hg : textHeader (Utf8.ofAscii g.name, g.value) = .ok kd) : eraseHeader hd = eraseHeader kd := by
  have hn := name_of_erase h
  cases hc : isCredentials (Utf8.ofAscii f.name) with
  | true =>
    have ht : trim (Utf8.ofAscii f.name) = Utf8.ofAscii f.name :=
      trim_spelling hc (forall_mem_of_all (by decide))
    have hname : ∀ {e : Http1.Field} {p : Str × Str}, e.name = f.name →
        textHeader (Utf8.ofAscii e.name, e.value) = .ok p → eraseHeader p = (Utf8.ofAscii f.name, []) := by
      intro e p he hp
      unfold textHeader at hp
      split at hp
      · cases hp
        simp only [he, ht, eraseHeader, hc, if_true]
      · cases hp
    rw [hname rfl hf, hname hn.symm hg]
  | false =>
    have hid : ∀ {e : Http1.Field}, e.name = f.name → eraseField e = e := by
      intro e he
      unfold eraseField
      rw [he, hc]
      rfl
    rw [hid rfl, hid hn.symm] at h
    subst h
    rw [hf] at hg
    cases hg
    rfl

theorem textHeaders_erase : ∀ {fs gs : List Http1.Field} {hs ks : Headers},
    fs.map eraseField = gs.map eraseField →
    (fs.map fun f => (Utf8.ofAscii f.name, f.value)).mapM textHeader = .ok hs →
    (gs.map fun f => (Utf8.ofAscii f.name, f.value)).mapM textHeader = .ok ks →
    hs.map eraseHeader = ks.map eraseHeader := by
  intro fs
  induction fs with
  | nil =>
    intro gs hs ks h hf hg
    rw [List.map_nil, eq_comm, List.map_eq_nil_iff] at h
    subst h
    rw [hf] at hg
    cases hg
    rfl
  | cons f fs ih =>
    intro gs hs ks h hf hg
    cases gs with
    | nil => cases h
    | cons g gs =>
      rw [List.map_cons, List.map_cons] at h
      obtain ⟨hhead, htail⟩ := List.cons_eq_cons.1 h
      rw [List.map_cons, List.mapM_cons] at hf hg
      obtain ⟨hd, hhd, hf⟩ := except_bind_eq_ok.1 hf
      obtain ⟨hs', hhs, hf⟩ := except_bind_eq_ok.1 hf
      obtain ⟨kd, hkd, hg⟩ := except_bind_eq_ok.1 hg
      obtain ⟨ks', hks, hg⟩ := except_bind_eq_ok.1 hg
      cases hf
      cases hg
      rw [List.map_cons, List.map_cons, textHeader_erase hhead hhd hkd, ih htail hhs hks]

/-- The headers the proxy reads in a head. -/
def readHeaders (h : Http1.Head) : Except (Abort Str) Headers :=
  (h.fields.map fun f => (Utf8.ofAscii f.name, f.value)).mapM textHeader

/-- What a written head is read as. -/
theorem clientHead_print {L : Libs} (hr : L.ReadsHeads) {h : Http1.Head} (hw : h.WellFormed)
    (hl : h.fields.length ≤ MAX_HEADERS) {rest : Bytes} {req : HttpRequest} {n : Nat}
    (hc : ClientHead L (h.print ++ rest) req n) :
    (h.print ++ rest).drop n = rest ∧ req.method = Utf8.ofAscii h.method ∧
      req.target = Utf8.ofAscii h.target ∧
      versionName (some (if h.minor = 0x31 then 1 else 0)) = .ok req.version ∧
      readHeaders h = .ok req.headers := by
  obtain ⟨parsed, hp, hreq⟩ := hc
  rw [hr h hw hl rest] at hp
  cases hp
  obtain ⟨hm, ht, hv, hh, -⟩ := requestOf_ok.1 hreq
  exact ⟨List.drop_left, (Option.some.inj hm).symm, (Option.some.inj ht).symm, hv, hh⟩

theorem sameRequest {L : Libs} (hr : L.ReadsHeads) {h k : Http1.Head} (hw : h.WellFormed)
    (hl : h.fields.length ≤ MAX_HEADERS) (kw : k.WellFormed) (kl : k.fields.length ≤ MAX_HEADERS)
    (he : eraseHead h = eraseHead k) {rest rest' : Bytes} {r s : HttpRequest} {n n' : Nat}
    (hc : ClientHead L (h.print ++ rest) r n) (kc : ClientHead L (k.print ++ rest') s n') :
    SameRequest r s := by
  obtain ⟨-, hm, ht, hv, hh⟩ := clientHead_print hr hw hl hc
  obtain ⟨-, km, kt, kv, kh⟩ := clientHead_print hr kw kl kc
  injection he with em et ev ef
  rw [ev, kv] at hv
  exact ⟨by rw [hm, km, em], by rw [ht, kt, et], (Except.ok.inj hv).symm, textHeaders_erase ef hh kh⟩

/-! ## Connections -/

/-- A well-formed request that is not a CONNECT; its body is as long as it says. -/
structure IsRequest (m : Http1.Message) : Prop where
  head : m.head.WellFormed
  fields : m.head.fields.length ≤ MAX_HEADERS
  method : eqIgnoreAsciiCase (Utf8.ofAscii m.head.method) "CONNECT" = false
  body : ∃ headers contentLength, readHeaders m.head = .ok headers ∧
    scanFraming none false headers = .ok (contentLength, false) ∧
    m.body.length = (contentLength.getD 0).toNat

/-- Connections that differ in nothing but credentials differ on the wire if
they differ at all. -/
theorem stream_inj : ∀ {ms ns : List Http1.Message}, (∀ m ∈ ms, IsRequest m) → (∀ n ∈ ns, IsRequest n) →
    ms.map erase = ns.map erase → Http1.stream ms = Http1.stream ns → ms = ns := by
  intro ms
  induction ms with
  | nil =>
    intro ns _ _ he _
    exact (List.map_eq_nil_iff.1 he.symm).symm
  | cons m ms ih =>
    intro ns hm hn he hw
    cases ns with
    | nil => cases he
    | cons n ns =>
      rw [List.map_cons, List.map_cons] at he
      obtain ⟨hhead, htail⟩ := List.cons_eq_cons.1 he
      rw [Http1.stream_cons, Http1.stream_cons] at hw
      have hfields := Http1.print_inj (hm m (.head _)).head (hn n (.head _)).head hw
      injection hhead with he hbody
      have hh : m.head = n.head := head_of_erase he hfields
      rw [hh, hbody] at hw
      have htl := ih (fun x hx => hm x (.tail _ hx)) (fun x hx => hn x (.tail _ hx)) htail
        (List.append_cancel_left (List.append_cancel_left hw))
      have hmn : m = n := by
        cases m
        cases n
        cases hh
        cases hbody
        rfl
      rw [hmn, htl]

/-- A connection that carries requests and is relayed forwards the first, and
sends what is behind its head as it came. -/
theorem relayed_forwards {L : Libs} (hr : L.ReadsHeads) (hs : L.HeadStable) (hop : Http.Hop)
    {env : Env} {down : Bytes} (hf : Faultless env down) {m : Http1.Message}
    {ms : List Http1.Message} (hm : IsRequest m) {t : Trace}
    (ht : t = (finalState (hop.serve L (.accepted env (Http1.stream (m :: ms))))).trace)
    (hrel : Relayed t) : ∃ req headerEnd host port path,
      ClientHead L (m.head.print ++ (m.body ++ Http1.stream ms)) req headerEnd ∧
      Http.target L req = .ok (host, port, path) ∧ upReceived t =
        Utf8.encode (Http.forwardHead req host port path hop.listener.via).print ++
          (m.body ++ Http1.stream ms) := by
  subst ht
  rw [Http1.stream_cons] at hrel ⊢
  rcases (http_outcome hs hop.bypassAuth hop.auth hop.statsEnabled hop.listener hop.peer hf
      (.refl _)).1 hrel with
    ⟨req, n, hc, hconnect, -⟩ | ⟨req, n, host, port, path, hc, -, htgt, hup, -⟩
  · obtain ⟨-, hmethod, -⟩ := clientHead_print hr hm.head hm.fields hc
    rw [hmethod, hm.method] at hconnect
    cases hconnect
  · obtain ⟨hdrop, -⟩ := clientHead_print hr hm.head hm.fields hc
    rw [hdrop] at hup
    exact ⟨req, n, host, port, path, hc, htgt, hup⟩

/-- **What the upstream receives of two connections that differ in credentials
only is the same exactly if they agree behind their first requests.** -/
theorem upstream_same_iff {L : Libs} (hr : L.ReadsHeads) (hs : L.HeadStable) (hop : Http.Hop)
    {env env' : Env} {down down' : Bytes} (hf : Faultless env down) (hf' : Faultless env' down')
    {m n : Http1.Message} {ms ns : List Http1.Message} (hm : ∀ x ∈ m :: ms, IsRequest x)
    (hn : ∀ x ∈ n :: ns, IsRequest x) (he : (m :: ms).map erase = (n :: ns).map erase) {t t' : Trace}
    (ht : t = (finalState (hop.serve L (.accepted env (Http1.stream (m :: ms))))).trace)
    (ht' : t' = (finalState (hop.serve L (.accepted env' (Http1.stream (n :: ns))))).trace)
    (hrel : Relayed t) (hrel' : Relayed t') : upReceived t = upReceived t' ↔ ms = ns := by
  obtain ⟨r, k, host, port, path, hc, htgt, hup⟩ := relayed_forwards hr hs hop hf (hm m (.head _)) ht hrel
  obtain ⟨r', k', host', port', path', hc', htgt', hup'⟩ :=
    relayed_forwards hr hs hop hf' (hn n (.head _)) ht' hrel'
  rw [List.map_cons, List.map_cons] at he
  obtain ⟨hhead, htail⟩ := List.cons_eq_cons.1 he
  injection hhead with hhead hbody
  have hsame := sameRequest hr (hm m (.head _)).head (hm m (.head _)).fields (hn n (.head _)).head
    (hn n (.head _)).fields hhead hc hc'
  rw [hsame.goesTo L, htgt'] at htgt
  cases htgt
  rw [hup, hup', hsame.forwardHead, hbody]
  constructor
  · intro h
    exact stream_inj (fun x hx => hm x (.tail _ hx)) (fun x hx => hn x (.tail _ hx)) htail
      (List.append_cancel_left (List.append_cancel_left h))
  · intro h
    rw [h]

/-! ## A password on its way -/

/-- The credentials of a request are accepted. -/
def Accepted (L : Libs) (auth : AuthConfig) (m : Http1.Message) : Prop :=
  ∃ headers, readHeaders m.head = .ok headers ∧
    httpBasicAuthorized L (getHeader headers "proxy-authorization") auth = .ok true

def adminHop : Http.Hop := { Http.openHop with
  bypassAuth := false
  auth := { username := some "admin".toList, password := some "pw".toList, bypassIps := [] } }

/-- `GET http://h/` with these credentials. -/
def get (value : Bytes) : Http1.Message where
  head := {
    method := Utf8.encode "GET"
    target := Utf8.encode "http://h/"
    minor := 0x31
    fields := [{ name := Utf8.encode "Proxy-Authorization", lead := [0x20], value, trail := [] }] }
  body := []

/-- Two spellings of what `adminHop` accepts. -/
def basic : Bytes := Utf8.encode "Basic YWRtaW46cHc="

def basicLower : Bytes := Utf8.encode "basic YWRtaW46cHc="

theorem isRequest_get {value : Bytes} {text : Str} (hv : value.all Http1.isFieldByte = true)
    (hf : value.head?.all (fun b => !isBlank b) = true)
    (hl : value.getLast?.all (fun b => !isBlank b) = true)
    (hd : Utf8.decode value = some text) : IsRequest (get value) := by
  have hread : readHeaders (get value).head = .ok [("Proxy-Authorization".toList, trim text)] := by
    show [(Utf8.ofAscii (Utf8.encode "Proxy-Authorization"), value)].mapM textHeader = _
    rw [List.mapM_cons]
    unfold textHeader
    rw [hd]
    rfl
  have hname : Http1.Word Http1.DELIMITERS (Utf8.encode "Proxy-Authorization") :=
    ⟨by decide, forall_mem_of_all (by decide)⟩
  have hblank : ∀ b ∈ ([0x20] : Bytes), isBlank b = true := forall_mem_of_all (by decide)
  have hmethod : Http1.Word Http1.DELIMITERS (Utf8.encode "GET") :=
    ⟨by decide, forall_mem_of_all (by decide)⟩
  have htarget : Http1.Word Http1.NOT_IN_URI (Utf8.encode "http://h/") :=
    ⟨by decide, forall_mem_of_all (by decide)⟩
  have hfield : ∀ f ∈ (get value).head.fields, f.WellFormed := by
    intro f hm
    obtain rfl := List.mem_singleton.1 hm
    have hend : ∀ {o : Option UInt8}, o.all (fun b => !isBlank b) = true → ∀ b ∈ o, isBlank b = false :=
      fun ho b hb => by simpa using (Option.all_eq_true _ _).1 ho b hb
    exact ⟨hname, hblank, fun _ hb => absurd hb List.not_mem_nil, List.all_eq_true.1 hv, hend hf, hend hl⟩
  exact ⟨⟨hmethod, htarget, .inr rfl, hfield⟩, Nat.le_of_ble_eq_true rfl, rfl, _, none, hread, rfl, rfl⟩

theorem isRequest_basic : IsRequest (get basic) :=
  isRequest_get (by decide) (by decide) (by decide) rfl

theorem isRequest_basicLower : IsRequest (get basicLower) :=
  isRequest_get (by decide) (by decide) (by decide) rfl

def traceOf (ms : List Http1.Message) : Trace :=
  (finalState (adminHop.serve plainLibs (.accepted (.calm [] []) (Http1.stream ms)))).trace

theorem erase_basic : erase (get basic) = erase (get basicLower) := by decide +kernel

theorem upstream_same_iff_get :
    upReceived (traceOf [get basic, get basic]) = upReceived (traceOf [get basicLower, get basic]) := by
  have hreq : ∀ {value}, IsRequest (get value) → ∀ x ∈ [get value, get basic], IsRequest x := by
    intro value hv x hx
    simp only [List.mem_cons, List.not_mem_nil, or_false] at hx
    rcases hx with rfl | rfl
    · exact hv
    · exact isRequest_basic
  have he : [get basic, get basic].map erase = [get basicLower, get basic].map erase :=
    congrArg (· :: [erase (get basic)]) erase_basic
  have hrel : Relayed (traceOf [get basic, get basic]) := ⟨[], [], true, by decide +kernel⟩
  have hrel' : Relayed (traceOf [get basicLower, get basic]) := ⟨[], [], true, by decide +kernel⟩
  exact (upstream_same_iff plainLibs_readsHeads plainLibs_headStable adminHop (calm_faultless [] [])
    (calm_faultless [] []) (hreq isRequest_basic) (hreq isRequest_basicLower) he rfl rfl hrel hrel').2 rfl

/-- The same connection, but for how its second request spells its credentials:
the upstream sees the difference, and the password. -/
theorem second_request_leaks :
    (IsRequest (get basic) ∧ Accepted plainLibs adminHop.auth (get basic)) ∧
      (IsRequest (get basicLower) ∧ Accepted plainLibs adminHop.auth (get basicLower)) ∧
      [get basic, get basic].map erase = [get basic, get basicLower].map erase ∧
      Relayed (traceOf [get basic, get basic]) ∧ Relayed (traceOf [get basic, get basicLower]) ∧
      upReceived (traceOf [get basic, get basic]) ≠ upReceived (traceOf [get basic, get basicLower]) ∧
      basic <:+: upReceived (traceOf [get basic, get basic]) := by
  refine ⟨⟨isRequest_basic, _, rfl, rfl⟩, ⟨isRequest_basicLower, _, rfl, rfl⟩, ?_,
    ⟨[], [], true, by decide +kernel⟩, ⟨[], [], true, by decide +kernel⟩, by decide +kernel,
    by decide +kernel⟩
  exact congrArg (fun m => [erase (get basic), m]) erase_basic

end TinySocks.L4
