import TinySocks.Core.HeaderBlock
import TinySocks.L4App.Loop

/-!
# The header block that is sent on (`http.rs`)

`handleForward` writes its header block as text, piece by piece. `forwarded` is
the block it is meant to be: the client's method and version, the path, the
headers that are not `isRemoved`, and the proxy's own `Host` and `Via`.

* `forwarded_block_read_back`: a recipient that takes any line end reads
  just that block, and reads it to its last byte; nothing the client
  sends can end a line early or add one.

What `httparse` promises of a request is `WellRead`, what the `http` crate
promises of hosts and paths `Libs.TargetsClean`.
-/
namespace TinySocks.L1

open TinySocks.Core

/-- `http`: hosts have no white space in them, and a path is a part of its target. -/
structure Libs.TargetsClean (L : Libs) : Prop where
  host : ∀ {s a}, L.parseAuthority s = some a → ∀ c ∈ a.host, isWhitespace c = false
  uriHost : ∀ {s uri a}, L.parseUri s = some uri → uri.authority = some a →
    ∀ c ∈ a.host, isWhitespace c = false
  path : ∀ {s uri p}, L.parseUri s = some uri → uri.pathAndQuery = some p → ∀ c ∈ p, c ∈ s ∨ c = '/'

theorem plainAuthority_host {s : Str} {a : Authority} (h : plainAuthority s = some a) :
    ∀ c ∈ a.host, isWhitespace c = false := by
  unfold plainAuthority at h
  split at h
  rename_i host rest hsplit
  split at h
  · cases h
  rename_i hs
  have hhost : a.host = host := by
    split at h
    · cases h
      rfl
    · split at h <;> (cases h; rfl)
    · cases h
  have hmem : ∀ c ∈ host, c ∈ s ∨ c = ']' := by
    intro c hc
    split at hsplit
    · obtain ⟨rfl, -⟩ := Prod.mk.inj hsplit
      rcases List.mem_append.1 hc with hc | hc
      · exact .inl ((List.takeWhile_prefix _).subset hc)
      · exact .inr (List.mem_singleton.1 hc)
    · obtain ⟨rfl, -⟩ := Prod.mk.inj hsplit
      exact .inl ((List.takeWhile_prefix _).subset hc)
  intro c hc
  rw [hhost] at hc
  rcases hmem c hc with hc | rfl
  · simp only [not_or, List.any_eq_true, decide_eq_true_eq, not_exists, not_and, Bool.not_eq_true] at hs
    exact (hs.2 c hc).2
  · rfl

theorem plainLibs_targetsClean : plainLibs.TargetsClean where
  host h := plainAuthority_host h
  uriHost := by
    intro s uri a h ha
    have h : plainUri s = some uri := h
    unfold plainUri at h
    split at h
    · obtain ⟨authority, hp, rfl⟩ := Option.map_eq_some_iff.1 h
      cases ha
      exact plainAuthority_host hp
    · cases h
  path := by
    intro s uri p h hp c hc
    have h : plainUri s = some uri := h
    unfold plainUri at h
    split at h
    · rename_i rest hs
      obtain ⟨authority, -, rfl⟩ := Option.map_eq_some_iff.1 h
      simp only at hp
      split at hp
      · cases hp
      · cases hp
        have hm : c ∈ s.dropWhile (· ≠ ':') := by
          rw [hs]
          exact .tail _ (.tail _ (.tail _ ((List.dropWhile_suffix _).subset hc)))
        exact .inl ((List.dropWhile_suffix _).subset hm)
    · cases h

end TinySocks.L1

namespace TinySocks.L4.Http

open TinySocks.Core TinySocks.L1 TinySocks.L2 TinySocks.L3

/-! ## The intended block -/

/-- The names that are always removed. -/
def HOP_BY_HOP : List Str :=
  ["proxy-authorization", "proxy-connection", "host", "connection", "keep-alive", "te", "trailer", "upgrade"]

/-- The name is an element of a `Connection` header. -/
def isListed (headers : Headers) (name : Str) : Bool :=
  headers.any fun h => isNamed "connection" h && (h.2.splitOn ',').any fun item =>
    eqIgnoreAsciiCase (trim item) name

def isRemoved (headers : Headers) (name : Str) : Bool :=
  HOP_BY_HOP.any (eqIgnoreAsciiCase name) || isListed headers name

/-- Where the connection went, without the port of `http`. -/
def hostAndPort (host : Str) (port : UInt16) : Str :=
  bracketIpv6 host ++ if port = 80 then [] else ':' :: decimal port.toNat

def encodeHeader (h : Str × Str) : Bytes × Bytes := (Utf8.encode h.1, Utf8.encode h.2)

def forwarded (req : HttpRequest) (host : Str) (port : UInt16) (path via : Str) : Http1.Block where
  method := Utf8.encode req.method
  target := Utf8.encode path
  minor := if req.version = "HTTP/1.1".toList then 0x31 else 0x30
  fields := (req.headers.filter (fun h => !isRemoved req.headers h.1) ++
    [("Host".toList, hostAndPort host port), ("Via".toList, req.version ++ " " ++ via)]).map encodeHeader

/-- What `httparse` promises of a request, once its values are trimmed. -/
structure WellRead (req : HttpRequest) : Prop where
  method : Http1.IsToken (Utf8.encode req.method)
  target : ∀ b ∈ Utf8.encode req.target, Http1.isTargetByte b = true
  version : req.version = "HTTP/1.0".toList ∨ req.version = "HTTP/1.1".toList
  names : ∀ h ∈ req.headers, Http1.IsToken (Utf8.encode h.1)
  values : ∀ h ∈ req.headers, trim h.2 = h.2 ∧ '\r' ∉ h.2 ∧ '\n' ∉ h.2

/-! ## The filter removes what is meant to go -/

theorem isListed_eq {headers : Headers} {name : Str} (hne : name ≠ []) :
    isListed headers name =
      (connectionHeaderNames headers).any fun header => eqIgnoreAsciiCase header name := by
  rw [Bool.eq_iff_iff]
  simp only [isListed, connectionHeaderNames, List.any_eq_true, Bool.and_eq_true, List.mem_map,
    List.mem_filter, List.mem_flatMap]
  constructor
  · intro hx
    obtain ⟨h, hm, hn, item, hi, he⟩ := hx
    refine ⟨_, ⟨_, ⟨⟨item, ⟨h, ⟨hm, hn⟩, hi⟩, rfl⟩, ?_⟩, rfl⟩, ?_⟩
    · cases ht : trim item with
      | nil =>
        rw [ht] at he
        exact absurd (List.map_eq_nil_iff.1 (eqIgnoreAsciiCase_iff.1 he).symm) hne
      | cons c s => rfl
    · rw [eqIgnoreAsciiCase_iff, toAsciiLowercase_idem]
      exact eqIgnoreAsciiCase_iff.1 he
  · intro hx
    obtain ⟨_, ⟨_, ⟨⟨item, ⟨h, ⟨hm, hn⟩, hi⟩, rfl⟩, -⟩, rfl⟩, he⟩ := hx
    refine ⟨h, hm, hn, item, hi, ?_⟩
    rw [eqIgnoreAsciiCase_iff, toAsciiLowercase_idem] at he
    exact eqIgnoreAsciiCase_iff.2 he

theorem isRemoved_eq {headers : Headers} {name : Str} (hne : name ≠ []) :
    isRemoved headers name = shouldDropForwardHeader name (connectionHeaderNames headers) := by
  unfold isRemoved shouldDropForwardHeader
  rw [isListed_eq hne]
  simp only [HOP_BY_HOP, List.any_cons, List.any_nil, Bool.or_false, Bool.or_assoc]

/-! ## What is written, in bytes -/

/-- A value that stays within its line, and has no blanks around it. -/
structure Line (v : Str) : Prop where
  first : ∀ c ∈ v.head?, isWhitespace c = false
  last : ∀ c ∈ v.getLast?, isWhitespace c = false
  cr : '\r' ∉ v
  lf : '\n' ∉ v

def fieldOf (h : Str × Str) : Http1.Field where
  name := Utf8.encode h.1
  lead := [Http1.SP]
  value := Utf8.encode h.2
  trail := []

theorem isBlank_iff {b : UInt8} : isBlank b = true ↔ b = 0x20 ∨ b = 0x09 := by simp [isBlank]

/-- The bytes a recipient takes off a value are white space. -/
theorem isWhitespace_of_blank {c : Char} {b : UInt8} (hb : isBlank b = true) (h : c.toNat = b.toNat) :
    isWhitespace c = true := by
  unfold isWhitespace
  rcases isBlank_iff.1 hb with rfl | rfl
  · rw [h]
    rfl
  · rw [h]
    rfl

theorem lt_of_isBlank {b : UInt8} (hb : isBlank b = true) : b < 0x80 := by
  rcases isBlank_iff.1 hb with rfl | rfl
  · decide
  · decide

theorem fieldOf_sound {h : Str × Str} (hn : Http1.IsToken (Utf8.encode h.1)) (hv : Line h.2) :
    (fieldOf h).Sound where
  name := hn
  lead := by simp [fieldOf, Http1.SP, isBlank]
  trail := by simp [fieldOf]
  value := ⟨Utf8.not_mem_encode hv.cr (by decide), Utf8.not_mem_encode hv.lf (by decide)⟩
  first := by
    intro b hb
    cases hblank : isBlank b with
    | false => rfl
    | true =>
      obtain ⟨c, hc, he⟩ := Utf8.head?_encode hb (lt_of_isBlank hblank)
      rw [← isWhitespace_of_blank hblank he, hv.first c hc]
  last := by
    intro b hb
    cases hblank : isBlank b with
    | false => rfl
    | true =>
      obtain ⟨c, hc, he⟩ := Utf8.getLast?_encode hb (lt_of_isBlank hblank)
      rw [← isWhitespace_of_blank hblank he, hv.last c hc]

theorem line_of_trimmed {v : Str} (ht : trim v = v) (hcr : '\r' ∉ v) (hlf : '\n' ∉ v) : Line v where
  first := by
    have := (trim_ends v).1
    rwa [ht] at this
  last := by
    have := (trim_ends v).2
    rwa [ht] at this
  cr := hcr
  lf := hlf

/-- A word is a line. -/
theorem line_of_word {v : Str} (h : ∀ c ∈ v, isWhitespace c = false) : Line v := by
  refine line_of_trimmed (trim_eq_self h) (fun hm => ?_) fun hm => ?_
  · cases h _ hm
  · cases h _ hm

theorem not_mem_words {v w : Str} (hv : Token v) (hw : Token w) {c : Char} (hc : isWhitespace c = true)
    (hsp : c ≠ ' ') : c ∉ v ++ " " ++ w := by
  intro hm
  rcases List.mem_append.1 hm with hm | hm
  · rcases List.mem_append.1 hm with hm | hm
    · rw [hv.noSpace _ hm] at hc
      cases hc
    · exact hsp (List.mem_singleton.1 hm)
  · rw [hw.noSpace _ hm] at hc
    cases hc

/-- So are two words with one space between them. -/
theorem line_of_words {v w : Str} (hv : Token v) (hw : Token w) : Line (v ++ " " ++ w) where
  first := by
    intro c hc
    obtain ⟨d, s, rfl⟩ := List.exists_cons_of_ne_nil hv.ne
    obtain rfl : d = c := Option.some.inj hc
    exact hv.noSpace d (.head _)
  last := by
    intro c hc
    refine hw.noSpace c (List.mem_of_mem_getLast? ?_)
    obtain ⟨d, s, rfl⟩ := List.exists_cons_of_ne_nil hw.ne
    rw [List.getLast?_append, List.getLast?_cons, Option.some_or] at hc
    rwa [List.getLast?_cons]
  cr := not_mem_words hv hw rfl (by decide)
  lf := not_mem_words hv hw rfl (by decide)

theorem isWhitespace_decimal {n : Nat} {c : Char} (hc : c ∈ decimal n) : isWhitespace c = false := by
  have hd := isDigit_decimal hc
  simp only [Char.isDigit, Bool.and_eq_true, decide_eq_true_eq] at hd
  have h1 : 48 ≤ c.toNat := UInt32.le_iff_toNat_le.1 hd.1
  have h2 : c.toNat ≤ 57 := UInt32.le_iff_toNat_le.1 hd.2
  cases hw : isWhitespace c with
  | false => rfl
  | true =>
    simp only [isWhitespace, Bool.or_eq_true, Bool.and_eq_true, decide_eq_true_eq, beq_iff_eq] at hw
    omega

theorem line_hostAndPort {host : Str} (h : ∀ c ∈ host, isWhitespace c = false) (port : UInt16) :
    Line (hostAndPort host port) := by
  refine line_of_word fun c hc => ?_
  rcases List.mem_append.1 hc with hc | hc
  · unfold bracketIpv6 at hc
    split at hc
    · rcases List.mem_append.1 hc with hc | hc
      · rcases List.mem_append.1 hc with hc | hc
        · obtain rfl := List.mem_singleton.1 hc
          rfl
        · exact h c hc
      · obtain rfl := List.mem_singleton.1 hc
        rfl
    · exact h c hc
  · split at hc
    · cases hc
    · rcases List.mem_cons.1 hc with rfl | hc
      · rfl
      · exact isWhitespace_decimal hc

/-- The head as bytes. -/
def headBytes (req : HttpRequest) (host : Str) (port : UInt16) (path via : Str) : Http1.Head where
  method := Utf8.encode req.method
  target := Utf8.encode path
  minor := if req.version = "HTTP/1.1".toList then 0x31 else 0x30
  fields := (forwardHead req host port path via).headers.map fieldOf

theorem encode_headerLine (h : Str × Str) :
    Utf8.encode (headerLine h) = Http1.crlf (fieldOf h).line := by
  have hsep : Utf8.encode ": " = [Http1.COLON, Http1.SP] := by decide
  have hend : Utf8.encode "\r\n" = [Http1.CR, Http1.LF] := by decide
  unfold headerLine Http1.crlf Http1.Field.line
  simp only [Utf8.encode_append, hsep, hend, fieldOf, List.append_nil, List.append_assoc,
    List.cons_append, List.nil_append]

theorem encode_headerLines (headers : Headers) : Utf8.encode (headers.flatMap headerLine) =
    ((headers.map fieldOf).map Http1.Field.line).flatMap Http1.crlf := by
  induction headers with
  | nil => rfl
  | cons h headers ih =>
    rw [List.flatMap_cons, Utf8.encode_append, ih, encode_headerLine]
    rfl

theorem encode_version {version : Str} (h : version = "HTTP/1.0".toList ∨ version = "HTTP/1.1".toList) :
    Utf8.encode version = Http1.versionText (if version = "HTTP/1.1".toList then 0x31 else 0x30) := by
  rcases h with rfl | rfl
  · decide
  · decide

theorem encode_forwardHead {req : HttpRequest} (h : WellRead req) (host : Str) (port : UInt16)
    (path via : Str) : Utf8.encode (forwardHead req host port path via).print =
      (headBytes req host port path via).print := by
  have hsp : Utf8.encode " " = [Http1.SP] := by decide
  have hend : Utf8.encode "\r\n" = [Http1.CR, Http1.LF] := by decide
  have hline : Utf8.encode (forwardHead req host port path via).line =
      Http1.crlf (headBytes req host port path via).startLine := by
    unfold forwardHead Http1.crlf Http1.Head.startLine
    simp only [Utf8.encode_append, hsp, hend, encode_version h.version, headBytes, List.append_assoc,
      List.cons_append, List.nil_append]
  unfold RequestHead.print Http1.Head.print Http1.Head.lines
  rw [Utf8.encode_append, Utf8.encode_append, hline, hend, encode_headerLines, List.flatMap_cons]
  rfl

/-! ## What a target is split into -/

/-- A character of the path comes from the target, or was put in front of it. -/
theorem normalizePathAndQuery_mem (pathAndQuery : Option Str) :
    normalizePathAndQuery pathAndQuery ≠ [] ∧ ∀ c ∈ normalizePathAndQuery pathAndQuery,
      c = '/' ∨ ∃ p, pathAndQuery = some p ∧ c ∈ p := by
  unfold normalizePathAndQuery
  split
  · exact ⟨by decide, fun c hc => .inl (List.mem_singleton.1 hc)⟩
  · exact ⟨by decide, fun c hc => .inl (List.mem_singleton.1 hc)⟩
  · refine ⟨by simp, fun c hc => ?_⟩
    rcases List.mem_cons.1 hc with rfl | hc
    · exact .inl rfl
    · exact .inr ⟨_, rfl, hc⟩
  · rename_i value hne _
    exact ⟨hne, fun c hc => .inr ⟨_, rfl, hc⟩⟩

variable {L : Libs}

/-- What a target is split into has no white space in its host, and a path. -/
theorem splitTarget_clean (hL : L.TargetsClean) {target host path : Str} {hostHeader : Option Str}
    {port : UInt16} (h : splitTarget L target hostHeader 80 = .ok (host, port, path)) :
    (∀ c ∈ host, isWhitespace c = false) ∧ path ≠ [] ∧ ∀ c ∈ path, c ∈ target ∨ c = '/' := by
  rcases splitTarget_ok h with ⟨-, habs⟩ | ⟨-, value, authority, -, ha, hok, rfl⟩
  · obtain ⟨uri, scheme, authority, hu, -, -, ha, hok, rfl⟩ := parseAbsoluteTarget_ok habs
    obtain ⟨rfl, -⟩ := authorityHostPort_ok hok
    obtain ⟨hne, hmem⟩ := normalizePathAndQuery_mem uri.pathAndQuery
    refine ⟨fun c hc => hL.uriHost hu ha c (normalizeHost_mem hc), hne, fun c hc => ?_⟩
    rcases hmem c hc with rfl | ⟨p, hp, hc⟩
    · exact .inr rfl
    · exact hL.path hu hp c hc
  · obtain ⟨rfl, -⟩ := authorityHostPort_ok hok
    refine ⟨fun c hc => hL.host ha c (normalizeHost_mem hc), ?_, fun c hc => ?_⟩
    · split
      · decide
      · assumption
    · split at hc
      · exact .inr (List.mem_singleton.1 hc)
      · exact .inl hc

/-! ## The block -/

theorem token_of_version {version : Str} (h : version = "HTTP/1.0".toList ∨ version = "HTTP/1.1".toList) :
    Token version := by
  rcases h with rfl | rfl
  · exact ⟨by decide, forall_mem_of_all (by decide), by decide⟩
  · exact ⟨by decide, forall_mem_of_all (by decide), by decide⟩

theorem isToken_host : Http1.IsToken (Utf8.encode "Host") :=
  ⟨by decide, forall_mem_of_all (by decide)⟩

theorem isToken_via : Http1.IsToken (Utf8.encode "Via") :=
  ⟨by decide, forall_mem_of_all (by decide)⟩

theorem formatHostHeader_eq (host : Str) (port : UInt16) :
    formatHostHeader host port 80 = hostAndPort host port := by
  unfold formatHostHeader hostAndPort
  simp only
  split
  · rw [List.append_nil]
  · rw [List.append_assoc]
    rfl

theorem headBytes_sound (hL : L.TargetsClean) {req : HttpRequest} (h : WellRead req)
    {listener : HttpListener} (hl : IsListener listener) {host path : Str} {port : UInt16}
    (ht : target L req = .ok (host, port, path)) :
    (headBytes req host port path listener.via).Sound := by
  obtain ⟨hhost, hne, hpath⟩ := splitTarget_clean hL ht
  refine ⟨h.method, ⟨?_, fun b hb => ?_⟩, ?_, fun f hf => ?_⟩
  · exact fun he => hne (Utf8.encode_eq_nil.1 he)
  · obtain ⟨c, hc, hb⟩ := List.mem_flatMap.1 hb
    rcases hpath c hc with hc | rfl
    · exact h.target b (List.mem_flatMap.2 ⟨c, hc, hb⟩)
    · obtain rfl := List.mem_singleton.1 hb
      rfl
  · unfold headBytes
    simp only
    split
    · exact .inr rfl
    · exact .inl rfl
  · obtain ⟨hd, hm, rfl⟩ := List.mem_map.1 hf
    rcases List.mem_append.1 hm with hm | hm
    · have hm := (List.mem_filter.1 hm).1
      obtain ⟨htrim, hcr, hlf⟩ := h.values hd hm
      exact fieldOf_sound (h.names hd hm) (line_of_trimmed htrim hcr hlf)
    · simp only [List.mem_cons, List.not_mem_nil, or_false] at hm
      rcases hm with rfl | rfl
      · refine fieldOf_sound isToken_host ?_
        show Line (formatHostHeader host port 80)
        rw [formatHostHeader_eq]
        exact line_hostAndPort hhost port
      · exact fieldOf_sound isToken_via (line_of_words (token_of_version h.version) (token_via hl))

theorem headBytes_fields {req : HttpRequest} (h : WellRead req) (host : Str) (port : UInt16)
    (path via : Str) :
    (headBytes req host port path via).fields.map (fun f => (f.name, f.value)) =
      (forwarded req host port path via).fields := by
  have hfilter : req.headers.filter
      (fun h => !shouldDropForwardHeader h.1 (connectionHeaderNames req.headers)) =
      req.headers.filter fun h => !isRemoved req.headers h.1 := by
    refine List.filter_congr fun hd hm => ?_
    rw [isRemoved_eq]
    intro he
    exact (h.names hd hm).1 (by rw [he]; rfl)
  unfold headBytes forwarded forwardHead forwardedHeaders
  simp only [List.map_map, hfilter, formatHostHeader_eq]
  rfl

/-- The block that is written reads back as the intended one. -/
theorem readBlock_forwardHead (hL : L.TargetsClean) {req : HttpRequest} (h : WellRead req)
    {listener : HttpListener} (hl : IsListener listener) {host path : Str} {port : UInt16}
    (ht : target L req = .ok (host, port, path)) :
    Http1.readBlock (Utf8.encode (forwardHead req host port path listener.via).print) =
      some (forwarded req host port path listener.via, []) := by
  have hr := Http1.readBlock_print (headBytes_sound hL h hl ht) []
  rw [List.append_nil, headBytes_fields h] at hr
  rw [encode_forwardHead h, hr]
  rfl

/-- **What is forwarded is the intended block, and nothing else**: where the target of the
request is named, the upstream that is connected to is that of the block's `Host`, and if it
is reached and the write does not fail, what it receives first is the whole block, which
ends where it is meant to; nothing is sent to any upstream otherwise, but the part of the
block that was written. -/
theorem forwarded_block_read_back (hL : L.TargetsClean) {req : HttpRequest} (h : WellRead req)
    {listener : HttpListener} (hl : IsListener listener) (peer : SocketAddr) {w : World} {evs : Trace}
    (ht : (finalState (handleForward L req peer listener.via w)).trace = w.trace ++ evs) :
    (∃ message, target L req = .error message ∧ upReceived evs = []) ∨
    ∃ host port path block, target L req = .ok (host, port, path) ∧
      HeadArrives w.env w.trace (bracketIpv6 host ++ ":" ++ decimal port.toNat) block evs ∧
      Http1.readBlock block = some (forwarded req host port path listener.via, []) := by
  cases htgt : target L req with
  | error message =>
    rw [handleForward_error htgt] at ht
    have hnil : evs = [] := by simpa using ht
    rw [hnil]
    exact .inl ⟨message, rfl, rfl⟩
  | ok r =>
    obtain ⟨host, port, path⟩ := r
    rw [handleForward_ok htgt] at ht
    obtain ⟨evs', ht', harrives⟩ := forwardTo_headArrives req peer listener.via host port path w
    rw [ht] at ht'
    obtain rfl := List.append_cancel_left ht'
    exact .inr ⟨host, port, path, _, rfl, harrives, readBlock_forwardHead hL h hl htgt⟩

/-- A header that the client has removed, and one that is sent on. -/
def listedHeaders : Headers :=
  [("Connection".toList, "close, x-a".toList), ("X-A".toList, "1".toList), ("Accept".toList, "*/*".toList)]

/-- What is sent of it is the whole block, and the body. -/
theorem forwarded_block_read_back_post :
    let w := World.accepted (.calm [] []) []
    let evs := (finalState (handleForward plainLibs (postRequest listedHeaders) openHop.peer (pair true).via
      w)).trace
    upReceived evs = Utf8.encode
      "POST / HTTP/1.1\r\nAccept: */*\r\nHost: h\r\nVia: HTTP/1.1 tinysocks-0000000000000002\r\n\r\nabc" ∧
    ((∃ message, target plainLibs (postRequest listedHeaders) = .error message ∧ upReceived evs = []) ∨
    ∃ host port path block,
      target plainLibs (postRequest listedHeaders) = .ok (host, port, path) ∧
      HeadArrives w.env w.trace (bracketIpv6 host ++ ":" ++ decimal port.toNat) block evs ∧
      Http1.readBlock block =
        some (forwarded (postRequest listedHeaders) host port path (pair true).via, [])) := by
  have h : WellRead (postRequest listedHeaders) := {
    method := ⟨by decide, forall_mem_of_all (by decide)⟩
    target := forall_mem_of_all (by decide)
    version := .inr rfl
    names := forall_mem_of_all (by decide)
    values := forall_mem_of_all (by decide +kernel) }
  have hl : IsListener (pair true) := ⟨_, _, rfl⟩
  intro w evs
  refine ⟨by decide +kernel, ?_⟩
  exact forwarded_block_read_back plainLibs_targetsClean h hl openHop.peer (w := w) rfl

end TinySocks.L4.Http
