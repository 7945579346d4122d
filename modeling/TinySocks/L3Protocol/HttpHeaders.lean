import TinySocks.L1Encoding.Address

/-!
# HTTP header lists (`http.rs`)

The functions that decide over a request's headers: the framing check, the
`Via` check, and the filter a forwarded request goes through. Names are
compared without regard to case (`isNamed`), values are comma-separated lists.

* `forwardedHeaders_framing`: exactly the framing headers that no `Connection`
  header lists survive the filter.
* `hasProxyVia_own`, `hasProxyVia_kept`: a listener recognises what it sent out, and
  what it recognised before, in what the next listener sends out.
-/
namespace TinySocks.L3

open TinySocks.Core TinySocks.L1

/-- Names and values, as texts. -/
abbrev Headers := List (Str × Str)

/-- `name.eq_ignore_ascii_case(..)` -/
def isNamed (name : Str) (h : Str × Str) : Bool := eqIgnoreAsciiCase h.1 name

/-! ## Framing -/

/-- The elements of one `Content-Length` value, against the length found before.
mirrors src/http.rs:163-179 -/
def checkLengthParts : Option UInt64 → List Str → Except Str (Option UInt64)
  | contentLength, [] => .ok contentLength
  | contentLength, part :: parts =>
    let trimmed := trim part
    if trimmed = [] then .error "HttpError::BadContentLength"
    else
      match parseU64 trimmed with
      | none => .error "HttpError::BadContentLength"
      | some parsed =>
        match contentLength with
        | some prev =>
          if prev ≠ parsed then .error "HttpError::AmbiguousContentLength"
          else checkLengthParts contentLength parts
        | none => checkLengthParts (some parsed) parts

def isChunkedItem (item : Str) : Bool := eqIgnoreAsciiCase (trim item) "chunked"

/-- mirrors src/http.rs:161-187 -/
def scanFraming : Option UInt64 → Bool → Headers → Except Str (Option UInt64 × Bool)
  | contentLength, chunked, [] => .ok (contentLength, chunked)
  | contentLength, chunked, (name, value) :: headers =>
    if eqIgnoreAsciiCase name "content-length" then do
      let contentLength ← checkLengthParts contentLength (value.splitOn ',')
      scanFraming contentLength chunked headers
    else if eqIgnoreAsciiCase name "transfer-encoding" && (value.splitOn ',').any isChunkedItem then
      scanFraming contentLength true headers
    else scanFraming contentLength chunked headers

/-- mirrors src/http.rs:153-193 -/
def validateMessageFraming (headers : Headers) : Except Str Unit := do
  let (contentLength, hasChunkedTransferEncoding) ← scanFraming none false headers
  if hasChunkedTransferEncoding && contentLength.isSome then
    .error "HttpError::ConflictingLengthHeaders"
  else .ok ()

/-! ## Lookup -/

/-- mirrors src/http.rs:196-201 -/
def getHeader (headers : Headers) (name : Str) : Option Str := (headers.find? (isNamed name)).map (·.2)

/-- mirrors src/http.rs:203-209 -/
def hasProxyVia (headers : Headers) (via : Str) : Bool :=
  ((headers.filter (isNamed "via")).flatMap fun h => h.2.splitOn ',').any fun hop =>
    (splitWhitespace hop)[1]? == some via

/-! ## The filter -/

/-- mirrors src/http.rs:426-435 -/
def connectionHeaderNames (headers : Headers) : List Str :=
  ((headers.filter (isNamed "connection")).flatMap fun h => h.2.splitOn ',').map trim
    |>.filter (fun name => !name.isEmpty)
    |>.map toAsciiLowercase

/-- mirrors src/http.rs:438-450 -/
def shouldDropForwardHeader (name : Str) (connectionHeaders : List Str) : Bool :=
  eqIgnoreAsciiCase name "proxy-authorization"
    || eqIgnoreAsciiCase name "proxy-connection"
    || eqIgnoreAsciiCase name "host"
    || eqIgnoreAsciiCase name "connection"
    || eqIgnoreAsciiCase name "keep-alive"
    || eqIgnoreAsciiCase name "te"
    || eqIgnoreAsciiCase name "trailer"
    || eqIgnoreAsciiCase name "upgrade"
    || connectionHeaders.any fun header => eqIgnoreAsciiCase header name

/-- The headers a forwarded request carries: what the filter leaves, and the
proxy's own `Host` and `Via`.
mirrors src/http.rs:377-394 -/
def forwardedHeaders (headers : Headers) (hostHeader version via : Str) : Headers :=
  let connectionHeaders := connectionHeaderNames headers
  headers.filter (fun h => !shouldDropForwardHeader h.1 connectionHeaders) ++
    [("Host".toList, hostHeader), ("Via".toList, version ++ " " ++ via)]

/-- mirrors src/http.rs:381-384 -/
def headerLine (h : Str × Str) : Str := h.1 ++ ": " ++ h.2 ++ "\r\n"

/-! ## Framing survives, unless it is listed -/

def isFraming (h : Str × Str) : Bool := isNamed "content-length" h || isNamed "transfer-encoding" h

theorem isFraming_iff {h : Str × Str} : isFraming h = true ↔
    toAsciiLowercase h.1 = "content-length".toList ∨ toAsciiLowercase h.1 = "transfer-encoding".toList := by
  unfold isFraming isNamed
  rw [Bool.or_eq_true, eqIgnoreAsciiCase_iff, eqIgnoreAsciiCase_iff]
  rfl

/-- The declared length depends on the framing headers only. -/
theorem scanFraming_filter (headers : Headers) : ∀ {contentLength : Option UInt64} {chunked : Bool},
    scanFraming contentLength chunked headers =
      scanFraming contentLength chunked (headers.filter isFraming) := by
  induction headers with
  | nil => exact rfl
  | cons h headers ih =>
    intro contentLength chunked
    obtain ⟨name, value⟩ := h
    cases hf : isFraming (name, value) with
    | true =>
      rw [List.filter_cons_of_pos hf]
      unfold scanFraming
      simp only [ih]
    | false =>
      obtain ⟨hc, ht⟩ := Bool.or_eq_false_iff.1 hf
      have hc' : eqIgnoreAsciiCase name "content-length" = false := hc
      have ht' : eqIgnoreAsciiCase name "transfer-encoding" = false := ht
      rw [List.filter_cons_of_neg (by simp [hf])]
      rw [scanFraming, hc', ht']
      exact ih

/-- None of the fixed names is a framing header; only the list can drop one. -/
theorem shouldDrop_framing {h : Str × Str} (hf : isFraming h = true) (connectionHeaders : List Str) :
    shouldDropForwardHeader h.1 connectionHeaders =
      connectionHeaders.any fun header => eqIgnoreAsciiCase header h.1 := by
  unfold shouldDropForwardHeader
  rcases isFraming_iff.1 hf with hn | hn
  · simp only [eqIgnoreAsciiCase, hn]
    rfl
  · simp only [eqIgnoreAsciiCase, hn]
    rfl

theorem filter_filter_eq_iff {α : Type} {p q : α → Bool} {l : List α} :
    (l.filter q).filter p = l.filter p ↔ ∀ x ∈ l, p x = true → q x = true := by
  rw [List.filter_filter]
  constructor
  · intro h x hx hp
    have hm : x ∈ l.filter p := List.mem_filter.2 ⟨hx, hp⟩
    rw [← h] at hm
    have := (List.mem_filter.1 hm).2
    simp only [Bool.and_eq_true] at this
    exact this.2
  · intro h
    apply List.filter_congr
    intro x hx
    cases hp : p x with
    | false => rfl
    | true => simp [h x hx hp]

/-- **Exactly the framing headers no `Connection` header lists survive.** -/
theorem forwardedHeaders_framing (headers : Headers) (hostHeader version via : Str) :
    (forwardedHeaders headers hostHeader version via).filter isFraming = headers.filter isFraming ↔
      ∀ h ∈ headers, isFraming h = true →
        ∀ listed ∈ connectionHeaderNames headers, eqIgnoreAsciiCase listed h.1 = false := by
  have htail : ([("Host".toList, hostHeader), ("Via".toList, version ++ " " ++ via)] : Headers).filter
      isFraming = [] := rfl
  unfold forwardedHeaders
  rw [List.filter_append, htail, List.append_nil, filter_filter_eq_iff]
  constructor
  · intro h x hx hf
    have := h x hx hf
    rw [shouldDrop_framing hf] at this
    simpa using this
  · intro h x hx hf
    rw [shouldDrop_framing hf]
    simpa using h x hx hf

/-! ## The `Via` trail -/

theorem hasProxyVia_iff {headers : Headers} {via : Str} : hasProxyVia headers via = true ↔
    ∃ h ∈ headers, isNamed "via" h = true ∧
      ∃ hop ∈ h.2.splitOn ',', (splitWhitespace hop)[1]? = some via := by
  simp only [hasProxyVia, List.any_eq_true, List.mem_flatMap, List.mem_filter, beq_iff_eq]
  constructor
  · intro hx
    obtain ⟨hop, ⟨h, ⟨hm, hn⟩, hh⟩, hv⟩ := hx
    exact ⟨h, hm, hn, hop, hh, hv⟩
  · intro hx
    obtain ⟨h, hm, hn, hop, hh, hv⟩ := hx
    exact ⟨hop, ⟨h, ⟨hm, hn⟩, hh⟩, hv⟩

/-- A word of a hop: not empty, and nothing in it ends a word or a list element. -/
structure Token (s : Str) : Prop where
  ne : s ≠ []
  noSpace : ∀ c ∈ s, isWhitespace c = false
  noComma : ',' ∉ s

/-- A listener recognises itself in what it sends out. -/
theorem hasProxyVia_own {headers : Headers} {hostHeader version via : Str} (hver : Token version)
    (hvia : Token via) : hasProxyVia (forwardedHeaders headers hostHeader version via) via = true := by
  rw [hasProxyVia_iff]
  refine ⟨("Via".toList, version ++ " " ++ via), ?_, rfl, version ++ " " ++ via, ?_, ?_⟩
  · simp [forwardedHeaders]
  · have hc : ',' ∉ version ++ " " ++ via := by
      simp [hver.noComma, hvia.noComma]
    unfold List.splitOn
    rw [List.splitOnP_eq_singleton (by
      intro c hm
      rw [beq_eq_false_iff_ne]
      intro he
      subst he
      exact hc hm)]
    exact List.mem_singleton.2 rfl
  · have := splitWhitespace_two hver.noSpace hver.ne hvia.noSpace hvia.ne
    simp only [String.reduceToList, List.append_assoc, List.cons_append, List.nil_append]
    rw [this]
    rfl

theorem shouldDrop_connection {h : Str × Str} (hc : isNamed "connection" h = true)
    (connectionHeaders : List Str) : shouldDropForwardHeader h.1 connectionHeaders = true := by
  have hl : toAsciiLowercase h.1 = "connection".toList := eqIgnoreAsciiCase_iff.1 hc
  unfold shouldDropForwardHeader
  simp only [eqIgnoreAsciiCase, hl]
  rfl

/-- Nothing a forwarded request carries is a `Connection` header. -/
theorem connectionHeaderNames_forwardedHeaders (headers : Headers) (hostHeader version via : Str) :
    connectionHeaderNames (forwardedHeaders headers hostHeader version via) = [] := by
  have hnone : (forwardedHeaders headers hostHeader version via).filter (isNamed "connection") = [] := by
    rw [List.filter_eq_nil_iff]
    intro h hm hc
    rcases List.mem_append.1 hm with hm | hm
    · have hd := (List.mem_filter.1 hm).2
      rw [shouldDrop_connection hc] at hd
      cases hd
    · simp only [List.mem_cons, List.not_mem_nil, or_false] at hm
      rcases hm with rfl | rfl
      · cases hc
      · cases hc
  unfold connectionHeaderNames
  rw [hnone]
  rfl

/-- The trail is kept, if no `Connection` header can have it dropped. -/
theorem hasProxyVia_kept {headers : Headers} {v : Str} (h : hasProxyVia headers v = true)
    (hc : connectionHeaderNames headers = []) (hostHeader version via : Str) :
    hasProxyVia (forwardedHeaders headers hostHeader version via) v = true := by
  rw [hasProxyVia_iff] at h ⊢
  obtain ⟨hd, hm, hn, hop, hh, hv⟩ := h
  refine ⟨hd, List.mem_append_left _ (List.mem_filter.2 ⟨hm, ?_⟩), hn, hop, hh, hv⟩
  have hl : toAsciiLowercase hd.1 = "via".toList := eqIgnoreAsciiCase_iff.1 hn
  rw [hc]
  unfold shouldDropForwardHeader
  simp only [eqIgnoreAsciiCase, hl]
  rfl

end TinySocks.L3
