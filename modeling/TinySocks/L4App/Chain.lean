import Mathlib.Data.List.Induction
import TinySocks.L3Protocol.Target
import TinySocks.L4App.Delivery
import TinySocks.L4App.ForwardedBlock

/-!
# Proxies in a row

A request travels through a chain of proxies (`chain`): each gets some of the bytes the
one before it sent, reads a request off them and sends it on. Each may fail anywhere.

The first one rewrites the request (`carried`): the path, the headers that are kept, its
`Host` and its `Via`. The others read back just what was sent (`reread`), find the same
host, port and path in it (`target_again`), keep every header and add their own `Via`.

* `chain_transparent`: what arrives behind any number of proxies is a beginning of the
  request as the first proxy rewrote it, with one `Via` for each of them, and of the
  client's body; and all of them tried the one upstream the client named.
-/
namespace TinySocks.L1

open TinySocks.Core

/-- What a proxy relies on where another one reads what it sent. `httparse`: of a block
that every recipient reads, it reads the same, if it takes it. `http`: the path of a URI
with an authority starts with a slash, or with its query. -/
structure Libs.Rereads (L : Libs) : Prop extends L.HeadStable, L.TargetsClean, L.AuthorityExact where
  head : ∀ {h : Http1.Head}, h.Sound → ∀ {rest n parsed}, L.httparse (h.print ++ rest) = .complete n parsed →
    n = h.print.length ∧ parsed.method.map Utf8.encode = some h.method ∧
      parsed.path.map Utf8.encode = some h.target ∧
      parsed.version = some (if h.minor = 0x31 then 1 else 0) ∧
      parsed.headers.map (fun f => (Utf8.encode f.1, f.2)) = h.fields.map fun f => (f.name, f.value)
  rooted : ∀ {s uri p}, L.parseUri s = some uri → uri.authority.isSome = true → uri.pathAndQuery = some p →
    ∀ c ∈ p.head?, c = '/' ∨ c = '?'

/-! ## An instance -/

/-- Authorities are split exactly, and have no white space in them. -/
def strictLibs : Libs :=
  { plainLibs with parseAuthority := fun s => if s.any isWhitespace then none else exactAuthority s }

theorem splitHost_mem {s : Str} {c : Char} (hc : c ∈ (splitHost s).1) : c ∈ s ∨ c = ']' := by
  unfold splitHost at hc
  split at hc
  · rcases List.mem_append.1 hc with hc | hc
    · exact .inl ((List.takeWhile_prefix _).subset hc)
    · exact .inr (List.mem_singleton.1 hc)
  · exact .inl ((List.takeWhile_prefix _).subset hc)

theorem exactAuthority_host {s : Str} {a : Authority} (h : exactAuthority s = some a) :
    ∀ c ∈ a.host, c ∈ s ∨ c = ']' := by
  have hhost : a.host = (splitHost (s.reverse.takeWhile (· ≠ '@')).reverse).1 := by
    unfold exactAuthority at h
    simp only at h
    split at h
    · cases h
    · split at h
      · cases h
        rfl
      · cases h
        rfl
      · cases h
  intro c hc
  rw [hhost] at hc
  rcases splitHost_mem hc with hc | hc
  · exact .inl (List.mem_reverse.1 ((List.takeWhile_prefix _).subset (List.mem_reverse.1 hc)))
  · exact .inr hc

theorem strictLibs_authority {s : Str} {a : Authority} (h : strictLibs.parseAuthority s = some a) :
    exactAuthority s = some a ∧ ∀ c ∈ s, isWhitespace c = false := by
  have h : (if s.any isWhitespace then none else exactAuthority s) = some a := h
  split at h
  · cases h
  · rename_i hs
    refine ⟨h, fun c hc => ?_⟩
    rw [List.any_eq_true] at hs
    exact Bool.eq_false_iff.2 fun hw => hs ⟨c, hc, hw⟩

theorem plainUri_rooted {s : Str} {uri : Uri} {p : Str} (h : plainUri s = some uri)
    (hp : uri.pathAndQuery = some p) : ∀ c ∈ p.head?, c = '/' ∨ c = '?' := by
  unfold plainUri at h
  split at h
  · rename_i rest _
    obtain ⟨authority, -, rfl⟩ := Option.map_eq_some_iff.1 h
    simp only at hp
    split at hp
    · cases hp
    · cases hp
      intro c hc
      have hnot := List.head?_dropWhile_not (fun c => decide (c ≠ '/' ∧ c ≠ '?')) rest
      rw [hc] at hnot
      simp only [decide_eq_false_iff_not, not_and] at hnot
      by_cases hs : c = '/'
      · exact .inl hs
      · exact .inr (Decidable.not_not.1 (hnot hs))
  · cases h

theorem strictLibs_rereads : strictLibs.Rereads where
  le := plainLibs_headStable.le
  append := plainLibs_headStable.append
  take := plainLibs_headStable.take
  host := by
    intro s a h c hc
    obtain ⟨ha, hs⟩ := strictLibs_authority h
    rcases exactAuthority_host ha c hc with hc | rfl
    · exact hs c hc
    · rfl
  uriHost := plainLibs_targetsClean.uriHost
  path := plainLibs_targetsClean.path
  parts h := exactLibs_authorityExact.parts (strictLibs_authority h).1
  head := by
    intro h hs rest n parsed hp
    have hp : plainHttparse (h.print ++ rest) = .complete n parsed := hp
    have hascii : ∀ {b : Bytes}, b.all Http1.isVisible = true → ∀ c ∈ b, c < 0x80 := by
      intro b hb c hc
      have hv := List.all_eq_true.1 hb c hc
      simp only [Http1.isVisible, Bool.and_eq_true, decide_eq_true_eq] at hv
      exact UInt8.lt_of_le_of_lt hv.2 (by decide)
    unfold plainHttparse at hp
    split at hp
    · rename_i n' method target minor fields hparse
      split at hp
      · cases hp
      · cases hp
        obtain ⟨rfl, rfl, rfl, rfl, rfl, hvisible⟩ := Http1.parse_sound hs hparse
        refine ⟨rfl, ?_, ?_, rfl, ?_⟩
        · rw [Option.map_some, Utf8.encode_ofAscii (hascii hs.method.visible)]
        · rw [Option.map_some, Utf8.encode_ofAscii (hascii hvisible)]
        · rw [List.map_map, List.map_map]
          refine List.map_congr_left fun f hf => ?_
          simp only [Function.comp_apply, Utf8.encode_ofAscii (hascii (hs.fields f hf).name.visible)]
    · cases hp
    · cases hp
  rooted h _ hp := plainUri_rooted h hp

end TinySocks.L1

namespace TinySocks.L3

open TinySocks.Core TinySocks.L1

/-! ## Hosts and paths that stay as they are -/

/-- A host that is told from its port without further marks, or an IPv6 address. -/
def Nameable (host : Str) : Prop := (∀ c ∈ host, c ≠ '@' ∧ c ≠ ':' ∧ c ≠ '[') ∨ (parseIpv6 host).isSome = true

theorem parseIpv6_chars {s : Str} (h : (parseIpv6 s).isSome = true) : ∀ c ∈ s, AddressChar c := by
  obtain ⟨ip, hip⟩ := Option.isSome_iff_exists.1 h
  have haddr : (parseIpAddr s).isSome = true := by
    unfold parseIpAddr
    split
    · rfl
    · rw [hip]
      rfl
  obtain ⟨addr, haddr⟩ := Option.isSome_iff_exists.1 haddr
  exact parseIpAddr_chars haddr

/-- A `Host` value as the text of an authority. -/
theorem exists_authorityText {host : Str} (h : Nameable host) (port : UInt16) : ∃ t : AuthorityText,
    t.text = formatHostHeader host port 80 ∧ normalizeHost t.host = host ∧
      (t.port.bind parseU16).getD 80 = port := by
  have hform : '@' ∉ bracketIpv6 host ∧ ((':' ∉ bracketIpv6 host ∧ (bracketIpv6 host).head? ≠ some '[') ∨
      ∃ literal, bracketIpv6 host = '[' :: (literal ++ "]".toList) ∧ ']' ∉ literal) ∧
      normalizeHost (bracketIpv6 host) = host := by
    cases h6 : (parseIpv6 host).isSome with
    | true =>
      have hc := parseIpv6_chars h6
      have hb : bracketIpv6 host = '[' :: (host ++ "]".toList) := by
        unfold bracketIpv6
        rw [if_pos h6]
        rfl
      have hno : ∀ d, ¬ AddressChar d → d ∉ host := fun d hd hm => hd (hc d hm)
      rw [hb]
      refine ⟨?_, .inr ⟨host, rfl, hno _ (by decide)⟩, ?_⟩
      · simp [hno '@' (by decide)]
      · simp [normalizeHost]
    | false =>
      have hc := h.resolve_right (by simp [h6])
      have hb : bracketIpv6 host = host := by
        unfold bracketIpv6
        rw [if_neg (by simp [h6])]
      rw [hb]
      have hhead : host.head? ≠ some '[' := fun he => (hc _ (List.mem_of_mem_head? he)).2.2 rfl
      refine ⟨fun hm => (hc _ hm).1 rfl, .inl ⟨fun hm => (hc _ hm).2.1 rfl, hhead⟩, ?_⟩
      unfold normalizeHost
      split
      · exact absurd rfl hhead
      · rfl
  refine ⟨{
    userinfo := none
    host := bracketIpv6 host
    port := if port = 80 then none else some (decimal port.toNat)
    hostForm := ⟨hform.1, hform.2.1⟩
    portForm := ?_ }, ?_, hform.2.2, ?_⟩
  · intro p hp
    split at hp
    · cases hp
    · cases hp
      refine ⟨fun hm => ?_, fun hm => ?_⟩
      · exact absurd (isDigit_decimal hm) (by decide)
      · exact absurd (isDigit_decimal hm) (by decide)
  · unfold AuthorityText.text AuthorityText.before AuthorityText.after formatHostHeader
    by_cases hp : port = 80
    · simp [hp]
    · simp [hp]
  · by_cases hp : port = 80
    · simp [hp]
    · simp only [if_neg hp, Option.bind_some]
      unfold parseU16
      rw [parseUnsigned_decimal port.toNat_lt]
      simp

variable {L : Libs}

/-- A path the proxy found is not taken for an absolute target. -/
theorem splitTarget_path (hL : L.Rereads) {target host path : Str} {hostHeader : Option Str} {port : UInt16}
    (h : splitTarget L target hostHeader 80 = .ok (host, port, path)) :
    isAbsoluteHttpTarget path = false := by
  have hslash : ∀ {s : Str}, s.head? = some '/' → isAbsoluteHttpTarget s = false := by
    intro s hs
    cases s with
    | nil => cases hs
    | cons c s =>
      cases hs
      rfl
  rcases splitTarget_ok h with ⟨-, habs⟩ | ⟨hrel, value, authority, -, ha, hok, rfl⟩
  · obtain ⟨uri, scheme, authority, hu, -, -, ha, hok, rfl⟩ := parseAbsoluteTarget_ok habs
    refine hslash ?_
    have hauthority : uri.authority.isSome = true := by rw [ha]; rfl
    unfold normalizePathAndQuery
    split
    · rfl
    · rfl
    · rfl
    · rename_i value hne hq heq
      cases value with
      | nil => exact absurd rfl hne
      | cons c value =>
        rcases hL.rooted hu hauthority heq c rfl with rfl | rfl
        · rfl
        · exact absurd rfl (hq value)
  · split
    · rfl
    · exact hrel

/-- **The `Host` that is sent on names the same target**: with it, the path leads where
the request led. -/
theorem splitTarget_again (hL : L.Rereads) {host path : Str} {port : UInt16} (hn : Nameable host)
    (hpath : isAbsoluteHttpTarget path = false) (hne : path ≠ []) {r : Str × UInt16 × Str}
    (h : splitTarget L path (some (formatHostHeader host port 80)) 80 = .ok r) : r = (host, port, path) := by
  obtain ⟨host', port', path'⟩ := r
  rcases splitTarget_ok h with ⟨habs, -⟩ | ⟨-, value, authority, hv, ha, hok, rfl⟩
  · rw [hpath] at habs
    cases habs
  · cases hv
    obtain ⟨t, ht, hhost, hport⟩ := exists_authorityText hn port
    rw [← ht] at ha
    obtain ⟨hh, hp⟩ := hL.parts ha
    obtain ⟨rfl, rfl⟩ := authorityHostPort_ok hok
    rw [hh, hp, hhost, hport, if_neg hne]

end TinySocks.L3

namespace TinySocks.L4.Http

open TinySocks.Core TinySocks.L1 TinySocks.L2 TinySocks.L3

/-! ## Reading what a proxy sent -/

/-- A request without what arrived behind its head. -/
def bare (req : HttpRequest) : HttpRequest := { req with bodyStart := [] }

/-- The head of a request as it is sent. -/
def text (req : HttpRequest) : Bytes := Utf8.encode (RequestHead.print {
  line := req.method ++ " " ++ req.target ++ " " ++ req.version ++ "\r\n"
  headers := req.headers })

/-- A stream has one request at its head. -/
theorem ClientHead.unique {L : Libs} {inp : Bytes} {req req' : HttpRequest} {n n' : Nat}
    (h : ClientHead L inp req n) (h' : ClientHead L inp req' n') : n = n' ∧ bare req = bare req' := by
  obtain ⟨parsed, hp, hreq⟩ := h
  obtain ⟨parsed', hp', hreq'⟩ := h'
  rw [hp] at hp'
  cases hp'
  rw [hreq] at hreq'
  have he := congrArg bare (Except.ok.inj hreq')
  exact ⟨rfl, he⟩

theorem token_noSpace {s : Str} (h : Http1.IsToken (Utf8.encode s)) : ∀ c ∈ s, isWhitespace c = false := by
  intro c hc
  obtain ⟨b, bs, hb⟩ := List.exists_cons_of_ne_nil (Utf8.encodeChar_ne_nil c)
  have hmem : b ∈ String.utf8EncodeChar c := by simp [hb]
  have htoken := h.2 b (List.mem_flatMap.2 ⟨c, hc, hmem⟩)
  have hvisible : Http1.isVisible b = true := (Bool.and_eq_true_iff.1 htoken).1
  simp only [Http1.isVisible, Bool.and_eq_true, decide_eq_true_eq] at hvisible
  have h1 : 0x21 ≤ b.toNat := UInt8.le_iff_toNat_le.1 hvisible.1
  have h2 : b.toNat ≤ 0x7E := UInt8.le_iff_toNat_le.1 hvisible.2
  have he := Utf8.mem_encodeChar hmem (UInt8.lt_iff_toNat_lt.2 (by simpa using Nat.lt_of_le_of_lt h2 (by decide)))
  cases hw : isWhitespace c with
  | false => rfl
  | true =>
    simp only [isWhitespace, Bool.or_eq_true, Bool.and_eq_true, decide_eq_true_eq, beq_iff_eq] at hw
    omega

/-- Header fields as `httparse` reports them are read as they were written. -/
theorem mapM_textHeader {headers : Headers} (hn : ∀ h ∈ headers, Http1.IsToken (Utf8.encode h.1))
    (hv : ∀ h ∈ headers, trim h.2 = h.2) :
    (headers.map fun h => (h.1, Utf8.encode h.2)).mapM textHeader = .ok headers := by
  induction headers with
  | nil => rfl
  | cons h headers ih =>
    have hname : trim h.1 = h.1 := trim_eq_self (token_noSpace (hn h (.head _)))
    have hfield : textHeader (h.1, Utf8.encode h.2) = .ok h := by
      unfold textHeader
      rw [Utf8.decode_encode]
      simp only [hname, hv h (.head _)]
    rw [List.map_cons, List.mapM_cons, hfield, ih (fun g hg => hn g (.tail _ hg)) fun g hg => hv g (.tail _ hg)]
    rfl

theorem trim_line {v : Str} (h : Line v) : trim v = v := by
  have hstart : ∀ {s : Str}, (∀ c ∈ s.head?, isWhitespace c = false) → trimStart s = s := by
    intro s hs
    cases s with
    | nil => rfl
    | cons c s => exact List.dropWhile_cons_of_neg (by simp [hs c rfl])
  unfold trim
  rw [hstart h.first, hstart (by simpa using h.last), List.reverse_reverse]

/-- The head of a request as bytes. -/
def bytesOf (req : HttpRequest) : Http1.Head where
  method := Utf8.encode req.method
  target := Utf8.encode req.target
  minor := if req.version = "HTTP/1.1".toList then 0x31 else 0x30
  fields := req.headers.map fieldOf

variable {L : Libs} {req : HttpRequest}

theorem text_eq (hw : WellRead req) : text req = (bytesOf req).print := by
  have hsp : Utf8.encode " " = [Http1.SP] := by decide
  have hend : Utf8.encode "\r\n" = [Http1.CR, Http1.LF] := by decide
  unfold text RequestHead.print Http1.Head.print Http1.Head.lines Http1.Head.startLine bytesOf
  simp only [Utf8.encode_append, hsp, hend, encode_headerLines, encode_version hw.version, Http1.crlf,
    List.flatMap_cons, List.append_assoc, List.cons_append, List.nil_append]

theorem bytesOf_sound (hw : WellRead req) (hne : req.target ≠ []) : (bytesOf req).Sound where
  method := hw.method
  target := ⟨fun he => hne (Utf8.encode_eq_nil.1 he), hw.target⟩
  minor := by
    unfold bytesOf
    simp only
    split
    · exact .inr rfl
    · exact .inl rfl
  fields := by
    intro f hf
    obtain ⟨h, hm, rfl⟩ := List.mem_map.1 hf
    obtain ⟨htrim, hcr, hlf⟩ := hw.values h hm
    exact fieldOf_sound (hw.names h hm) (line_of_trimmed htrim hcr hlf)

/-- **The next proxy reads just what was sent**, however much of it arrives, and finds the
body where it starts. -/
theorem reread (hL : L.Rereads) (hw : WellRead req) (hne : req.target ≠ []) {arrived body : Bytes}
    {req' : HttpRequest} {n : Nat} (harrived : arrived <+: text req ++ body)
    (hreq : ClientHead L arrived req' n) : bare req' = bare req ∧ arrived.drop n <+: body := by
  rw [text_eq hw] at harrived
  obtain ⟨parsed, hp, hok⟩ := hreq
  obtain ⟨rest, hrest⟩ := harrived
  have hp' := hL.append hp rest
  rw [hrest] at hp'
  obtain ⟨hn, hm, htgt, hv, hh⟩ := hL.head (bytesOf_sound hw hne) hp'
  obtain ⟨hm', htgt', hv', hh', -, hle, -⟩ := requestOf_ok.1 hok
  rw [hm', Option.map_some] at hm
  rw [htgt', Option.map_some] at htgt
  have hmethod : req'.method = req.method := Utf8.encode_injective (Option.some.inj hm)
  have htarget : req'.target = req.target := Utf8.encode_injective (Option.some.inj htgt)
  have hversion : req'.version = req.version := by
    rw [hv] at hv'
    rcases hw.version with h | h
    · rw [bytesOf, h] at hv'
      exact (Except.ok.inj hv').symm.trans h.symm
    · rw [bytesOf, h] at hv'
      exact (Except.ok.inj hv').symm.trans h.symm
  have hheaders : req'.headers = req.headers := by
    have hparsed : parsed.headers = req.headers.map fun h => (h.1, Utf8.encode h.2) := by
      have hinj : ∀ f g : Str × Bytes, (Utf8.encode f.1, f.2) = (Utf8.encode g.1, g.2) → f = g := by
        intro f g hfg
        obtain ⟨h₁, h₂⟩ := Prod.mk.inj hfg
        exact Prod.ext (Utf8.encode_injective h₁) h₂
      refine (List.map_inj_right hinj).1 (hh.trans ?_)
      simp only [bytesOf, List.map_map]
      rfl
    rw [hparsed, mapM_textHeader hw.names fun h hm => (hw.values h hm).1] at hh'
    exact (Except.ok.inj hh').symm
  refine ⟨?_, ?_⟩
  · unfold bare
    rw [hmethod, htarget, hversion, hheaders]
  · have hdrop := congrArg (List.drop n) hrest
    rw [hn, List.drop_left, ← hn, List.drop_append_of_le_length hle] at hdrop
    exact ⟨rest, hdrop⟩

/-! ## Many proxies -/

/-- The client's headers that are sent on. -/
def kept (req : HttpRequest) : Headers :=
  req.headers.filter fun h => !shouldDropForwardHeader h.1 (connectionHeaderNames req.headers)

def viaHeader (version via : Str) : Str × Str := ("Via".toList, version ++ " " ++ via)

/-- The request behind the proxies `vias` and then `via`. -/
def carried (req : HttpRequest) (host : Str) (port : UInt16) (path : Str) (vias : List Str) (via : Str) :
    HttpRequest where
  method := req.method
  target := path
  version := req.version
  headers := kept req ++ vias.map (viaHeader req.version) ++
    [("Host".toList, formatHostHeader host port 80), viaHeader req.version via]
  bodyStart := []

variable {host path : Str} {port : UInt16} {vias : List Str} {via : Str}

theorem forwardHead_first (req : HttpRequest) (host : Str) (port : UInt16) (path via : Str) :
    Utf8.encode (forwardHead req host port path via).print = text (carried req host port path [] via) := by
  unfold text carried forwardHead forwardedHeaders kept
  simp only [List.map_nil, List.append_nil]
  rfl

theorem shouldDrop_mono {name : Str} {names : List Str} (h : shouldDropForwardHeader name [] = true) :
    shouldDropForwardHeader name names = true := by
  unfold shouldDropForwardHeader at h ⊢
  simp only [List.any_nil, Bool.or_false] at h
  rw [h, Bool.true_or]

/-- A carried request has no `Connection` header. -/
theorem connectionHeaderNames_carried : connectionHeaderNames (carried req host port path vias via).headers = [] := by
  have hnone : (carried req host port path vias via).headers.filter (isNamed "connection") = [] := by
    rw [List.filter_eq_nil_iff]
    intro h hm hc
    rcases List.mem_append.1 hm with hm | hm
    · rcases List.mem_append.1 hm with hm | hm
      · have hd := (List.mem_filter.1 hm).2
        rw [shouldDrop_connection hc] at hd
        cases hd
      · obtain ⟨v, -, rfl⟩ := List.mem_map.1 hm
        cases hc
    · simp only [List.mem_cons, List.not_mem_nil, or_false] at hm
      rcases hm with rfl | rfl
      · cases hc
      · cases hc
  unfold connectionHeaderNames
  rw [hnone]
  rfl

/-- **Every further proxy adds its `Via`, and changes nothing else.** -/
theorem forwardHead_next (req : HttpRequest) (host : Str) (port : UInt16) (path : Str) (vias : List Str)
    (via via' : Str) :
    Utf8.encode (forwardHead (carried req host port path vias via) host port path via').print =
      text (carried req host port path (vias ++ [via]) via') := by
  have hkept : (kept req).filter (fun h => !shouldDropForwardHeader h.1 []) = kept req := by
    refine List.filter_eq_self.2 fun h hm => ?_
    have hd := (List.mem_filter.1 hm).2
    cases hs : shouldDropForwardHeader h.1 [] with
    | false => rfl
    | true =>
      rw [shouldDrop_mono hs] at hd
      cases hd
  have hvias : (vias.map (viaHeader req.version)).filter (fun h => !shouldDropForwardHeader h.1 []) =
      vias.map (viaHeader req.version) := by
    refine List.filter_eq_self.2 fun h hm => ?_
    obtain ⟨v, -, rfl⟩ := List.mem_map.1 hm
    rfl
  have hlast : [("Host".toList, formatHostHeader host port 80), viaHeader req.version via].filter
      (fun h => !shouldDropForwardHeader h.1 []) = [viaHeader req.version via] := rfl
  have hheaders : forwardedHeaders (carried req host port path vias via).headers
      (formatHostHeader host port 80) req.version via' =
      (carried req host port path (vias ++ [via]) via').headers := by
    unfold forwardedHeaders
    simp only [connectionHeaderNames_carried]
    unfold carried
    simp only [List.filter_append, hkept, hvias, hlast, List.map_append, List.map_cons, List.map_nil,
      List.append_assoc]
    simp only [viaHeader, List.append_assoc]
  unfold text forwardHead
  rw [show (carried req host port path vias via).version = req.version from rfl, hheaders]
  rfl

/-- A carried request names its host. -/
theorem getHeader_carried : getHeader (carried req host port path vias via).headers "host" =
    some (formatHostHeader host port 80) := by
  have hkept : (kept req).find? (isNamed "host") = none := by
    refine List.find?_eq_none.2 fun h hm hn => ?_
    have hd := (List.mem_filter.1 hm).2
    have hl : toAsciiLowercase h.1 = "host".toList := eqIgnoreAsciiCase_iff.1 hn
    unfold shouldDropForwardHeader at hd
    simp only [eqIgnoreAsciiCase, hl] at hd
    cases hd
  have hvias : (vias.map (viaHeader req.version)).find? (isNamed "host") = none := by
    refine List.find?_eq_none.2 fun h hm hn => ?_
    obtain ⟨v, -, rfl⟩ := List.mem_map.1 hm
    cases hn
  unfold getHeader carried
  simp only [List.find?_append, hkept, hvias, Option.none_or]
  rfl

/-- What the first proxy sends can be read again, and so can what the others send. -/
theorem wellRead_carried (hL : L.TargetsClean) (hw : WellRead req) (ht : target L req = .ok (host, port, path))
    (hvias : ∀ v ∈ vias, Token v) (hvia : Token via) : WellRead (carried req host port path vias via) := by
  obtain ⟨hhost, -, hpath⟩ := splitTarget_clean hL ht
  have hline : Line (formatHostHeader host port 80) := by
    rw [formatHostHeader_eq]
    exact line_hostAndPort hhost port
  have hhop : ∀ {v : Str}, Token v → Line (req.version ++ " " ++ v) :=
    fun hv => line_of_words (token_of_version hw.version) hv
  have hheaders : ∀ h ∈ (carried req host port path vias via).headers,
      Http1.IsToken (Utf8.encode h.1) ∧ trim h.2 = h.2 ∧ '\r' ∉ h.2 ∧ '\n' ∉ h.2 := by
    intro h hm
    rcases List.mem_append.1 hm with hm | hm
    · rcases List.mem_append.1 hm with hm | hm
      · have hm := (List.mem_filter.1 hm).1
        exact ⟨hw.names h hm, hw.values h hm⟩
      · obtain ⟨v, hv, rfl⟩ := List.mem_map.1 hm
        have hl := hhop (hvias v hv)
        exact ⟨isToken_via, trim_line hl, hl.cr, hl.lf⟩
    · simp only [List.mem_cons, List.not_mem_nil, or_false] at hm
      rcases hm with rfl | rfl
      · exact ⟨isToken_host, trim_line hline, hline.cr, hline.lf⟩
      · have hl := hhop hvia
        exact ⟨isToken_via, trim_line hl, hl.cr, hl.lf⟩
  refine ⟨hw.method, fun b hb => ?_, hw.version, fun h hm => (hheaders h hm).1, fun h hm => (hheaders h hm).2⟩
  obtain ⟨c, hc, hb⟩ := List.mem_flatMap.1 hb
  rcases hpath c hc with hc | rfl
  · exact hw.target b (List.mem_flatMap.2 ⟨c, hc, hb⟩)
  · obtain rfl := List.mem_singleton.1 hb
    rfl

/-- A further proxy, if it finds a target in it, finds the first one's. -/
theorem target_carried (hL : L.Rereads) (ht : target L req = .ok (host, port, path)) (hn : Nameable host)
    {r : Str × UInt16 × Str} (h : target L (carried req host port path vias via) = .ok r) :
    r = (host, port, path) := by
  obtain ⟨-, hne, -⟩ := splitTarget_clean hL.toTargetsClean ht
  unfold target at h
  rw [getHeader_carried] at h
  exact splitTarget_again hL hn (splitTarget_path hL ht) hne h

/-! ## The chain -/

section
variable {ι : Type} {listeners : ι → HttpListener}

/-- Proxies in a row. A step is a connection, at one of the listeners, of a client that
sends the bytes so far; some of what it sends upstream arrives at the next. -/
def chain (L : Libs) (listeners : ι → HttpListener) : LTS Bytes (ι × Trace) where
  init _ := True
  step inp passage out := ∃ auth statsEnabled peer env, CopiesInOrder env ∧
    passage.2 = (finalState (serveConnection L auth statsEnabled (listeners passage.1) peer
      (.accepted env inp))).trace ∧ out <+: upReceived passage.2

/-- The listeners' marks. -/
def marks (listeners : ι → HttpListener) (passages : List (ι × Trace)) : List Str :=
  passages.map fun p => (listeners p.1).via

theorem token_marks (hnew : ∀ i, IsListener (listeners i)) (passages : List (ι × Trace)) :
    ∀ v ∈ marks listeners passages, Token v := by
  intro v hv
  obtain ⟨p, -, rfl⟩ := List.mem_map.1 hv
  exact token_via (hnew p.1)

/-- A connection that sent nothing upstream. -/
theorem untouched {t : Trace} (h : ∀ e ∈ t, isTunnel e = false) (endpoint : Str) :
    upReceived t = [] ∧ Only endpoint t := by
  have h' : ∀ e ∈ t, (!isTunnel e) = true := fun e he => by rw [h e he]; rfl
  exact ⟨upReceived_apart h', only_apart h'⟩

/-- A SOCKS5 client does not send a request. -/
theorem not_socks {bypassAuth : Bool} {auth : AuthConfig} {cmd : Command} {wire rest : Bytes}
    (hpre : SocksPrefix bypassAuth auth cmd wire) : (wire ++ rest).head? = some SOCKS_VERSION := by
  obtain ⟨greeting, loginMessage, request, ⟨cm, methods, -, -, rfl⟩, -, -, rfl⟩ := hpre
  rfl

/-- One connection: what it is asked to forward it forwards, as far as it gets. -/
theorem passage_forwards (hct : L.CtEqExact) (hs : L.HeadStable) {inp out : Bytes} {p : ι × Trace}
    (hstep : (chain L listeners).step inp p out) (hhttp : inp.head? ≠ some SOCKS_VERSION)
    (hreq : ∀ req' n, ClientHead L inp req' n → eqIgnoreAsciiCase req'.method "CONNECT" = false) :
    (out = [] ∧ ∀ endpoint, Only endpoint p.2) ∨ ∃ req' n host port path, ClientHead L inp req' n ∧
      target L req' = .ok (host, port, path) ∧ Only (formatTargetEndpoint host port) p.2 ∧
      out <+: Utf8.encode (forwardHead req' host port path (listeners p.1).via).print ++ inp.drop n := by
  obtain ⟨auth, statsEnabled, peer, env, hcopy, ht, hout⟩ := hstep
  have hsends := connection_sends hct hs auth statsEnabled (listeners p.1) peer hcopy inp
  rw [← ht] at hsends
  cases hsends with
  | nothing h =>
    refine .inl ⟨?_, fun endpoint => (untouched h endpoint).2⟩
    rw [(untouched h []).1] at hout
    exact List.prefix_nil.1 hout
  | socks hinp hpre h => exact absurd (hinp ▸ not_socks hpre) hhttp
  | connect hhead hm htgt h =>
    rw [hreq _ _ hhead] at hm
    cases hm
  | forward hhead hm htgt h => exact .inr ⟨_, _, _, _, _, hhead, htgt, h.2, hout.trans h.1⟩

/-- What stands behind the head plays no part in where a request goes, and as what. -/
theorem same_of_bare {req' : HttpRequest} (h : bare req' = bare req) :
    req'.method = req.method ∧ target L req' = target L req ∧
      ∀ host port path via, forwardHead req' host port path via = forwardHead req host port path via := by
  have hm : (bare req').method = (bare req).method := by rw [h]
  have ht : target L (bare req') = target L (bare req) := by rw [h]
  have hf : ∀ host port path via, forwardHead (bare req') host port path via =
      forwardHead (bare req) host port path via := by simp [h]
  exact ⟨hm, ht, hf⟩

/-- No beginning of a request is taken for SOCKS5. -/
theorem text_not_socks (hw : WellRead req) {arrived body : Bytes} (h : arrived <+: text req ++ body) :
    arrived.head? ≠ some SOCKS_VERSION := by
  obtain ⟨rest, hrest⟩ := h
  obtain ⟨b, bs, hb⟩ := List.exists_cons_of_ne_nil hw.method.1
  have hmem : b ∈ Utf8.encode req.method := by simp [hb]
  have hne := Http1.isTokenByte_ne (c := SOCKS_VERSION) (hw.method.2 b hmem) (by decide)
  have htext : (text req).head? = some b := by
    unfold text RequestHead.print
    simp only [Utf8.encode_append, List.append_assoc]
    rw [List.head?_append, hb]
    rfl
  cases arrived with
  | nil => simp
  | cons c cs =>
    have hhead := congrArg List.head? hrest
    rw [List.head?_append, List.head?_append, htext] at hhead
    intro hc
    simp only [List.head?_cons, Option.some_or] at hhead hc
    exact hne (Option.some.inj (hhead.symm.trans hc))

/-- What holds behind every proxy of the chain. -/
structure Arrives (listeners : ι → HttpListener) (req : HttpRequest) (host : Str) (port : UInt16) (path : Str)
    (body : Bytes) (passed : List (ι × Trace)) (last : ι × Trace) (out : Bytes) : Prop where
  bytes : out <+: text (carried req host port path (marks listeners passed) (listeners last.1).via) ++ body
  /-- no other upstream was tried -/
  endpoint : ∀ p ∈ passed ++ [last], Only (formatTargetEndpoint host port) p.2

variable {inp out : Bytes} {n : Nat}

/-- The first proxy. -/
theorem arrives_first (hct : L.CtEqExact) (hs : L.HeadStable) {p : ι × Trace}
    (hstep : (chain L listeners).step inp p out) (hhttp : inp.head? ≠ some SOCKS_VERSION)
    (hreq : ClientHead L inp req n) (hm : eqIgnoreAsciiCase req.method "CONNECT" = false)
    (ht : target L req = .ok (host, port, path)) :
    Arrives listeners req host port path (inp.drop n) [] p out := by
  have hmethod : ∀ req' n', ClientHead L inp req' n' → eqIgnoreAsciiCase req'.method "CONNECT" = false := by
    intro req' n' h
    rw [(same_of_bare (L := L) (ClientHead.unique h hreq).2).1]
    exact hm
  rcases passage_forwards hct hs hstep hhttp hmethod with ⟨rfl, ho⟩ | ⟨req', n', host', port', path', h, ht', ho, hout⟩
  · exact ⟨List.nil_prefix, by simpa using ho _⟩
  · obtain ⟨rfl, hbare⟩ := ClientHead.unique h hreq
    obtain ⟨-, htarget, hhead⟩ := same_of_bare (L := L) hbare
    rw [htarget, ht] at ht'
    cases ht'
    rw [hhead, forwardHead_first] at hout
    exact ⟨hout, by simpa using ho⟩

/-- The others. -/
theorem arrives_next (hct : L.CtEqExact) (hL : L.Rereads) (hnew : ∀ i, IsListener (listeners i))
    (hw : WellRead req) (hm : eqIgnoreAsciiCase req.method "CONNECT" = false)
    (ht : target L req = .ok (host, port, path)) (hn : Nameable host) {body mid : Bytes}
    {passed : List (ι × Trace)} {last p : ι × Trace}
    (h : Arrives listeners req host port path body passed last mid)
    (hstep : (chain L listeners).step mid p out) :
    Arrives listeners req host port path body (passed ++ [last]) p out := by
  obtain ⟨hbytes, hends⟩ := h
  have hwell := wellRead_carried hL.toTargetsClean hw ht (token_marks hnew passed) (token_via (hnew last.1))
  obtain ⟨-, hne, -⟩ := splitTarget_clean hL.toTargetsClean ht
  have hmethod : ∀ req' n', ClientHead L mid req' n' → eqIgnoreAsciiCase req'.method "CONNECT" = false := by
    intro req' n' h
    rw [(same_of_bare (L := L) (reread hL hwell hne hbytes h).1).1]
    exact hm
  have hends' : Only (formatTargetEndpoint host port) p.2 →
      ∀ q ∈ passed ++ [last] ++ [p], Only (formatTargetEndpoint host port) q.2 := by
    intro ho q hq
    rcases List.mem_append.1 hq with hq | hq
    · exact hends q hq
    · rw [List.mem_singleton.1 hq]
      exact ho
  rcases passage_forwards hct hL.toHeadStable hstep (text_not_socks hwell hbytes) hmethod with
    ⟨rfl, ho⟩ | ⟨req', n', host', port', path', h, ht', ho, hout⟩
  · exact ⟨List.nil_prefix, hends' (ho _)⟩
  · obtain ⟨hbare, hbody⟩ := reread hL hwell hne hbytes h
    obtain ⟨-, htarget, hhead⟩ := same_of_bare (L := L) hbare
    rw [htarget] at ht'
    cases target_carried hL ht hn ht'
    rw [hhead, forwardHead_next] at hout
    have hmarks : marks listeners (passed ++ [last]) = marks listeners passed ++ [(listeners last.1).via] := by
      simp [marks]
    refine ⟨?_, hends' ho⟩
    rw [hmarks]
    exact hout.trans ((List.prefix_append_right_inj _).2 hbody)

/-- **A chain of proxies is one proxy.** However many proxies a request passes, and
whatever fails on the way, what arrives behind the last is a beginning of the request as
the first one rewrites it, with one `Via` line for each, and of the client's body, byte for
byte; and every one of them tries the upstream the client named, and no other. -/
theorem chain_transparent (hct : L.CtEqExact) (hL : L.Rereads) (hnew : ∀ i, IsListener (listeners i))
    (hhttp : inp.head? ≠ some SOCKS_VERSION) (hreq : ClientHead L inp req n) (hw : WellRead req)
    (hm : eqIgnoreAsciiCase req.method "CONNECT" = false) (ht : target L req = .ok (host, port, path))
    (hn : Nameable host) {passed : List (ι × Trace)} {last : ι × Trace}
    (hrun : (chain L listeners).Run inp (passed ++ [last]) out) :
    Arrives listeners req host port path (inp.drop n) passed last out := by
  induction passed using List.reverseRecOn generalizing last out with
  | nil =>
    cases hrun with
    | cons hstep hrest =>
      cases hrest
      exact arrives_first hct hL.toHeadStable hstep hhttp hreq hm ht
  | append_singleton passed q ih =>
    obtain ⟨mid, hmid, hlast⟩ := hrun.split
    cases hlast with
    | cons hstep hrest =>
      cases hrest
      exact arrives_next hct hL hnew hw hm ht hn (ih hmid) hstep

end

/-- A client behind two proxies. -/
def chainClient : Bytes := Utf8.encode "GET http://h/x HTTP/1.1\r\nConnection: x-a\r\nX-A: 1\r\n\r\nabc"

def chainRequest : HttpRequest where
  method := "GET"
  target := "http://h/x"
  version := "HTTP/1.1"
  headers := [("Connection".toList, "x-a".toList), ("X-A".toList, "1".toList)]
  bodyStart := Utf8.encode "abc"

/-- The connection at one of the two, of a client that sends these bytes. -/
def chainTrace (second : Bool) (inp : Bytes) : Trace :=
  (finalState (serveConnection strictLibs openHop.auth false (pair second) openHop.peer
    (.accepted (.calm [] []) inp))).trace

theorem step_chainTrace (second : Bool) (inp : Bytes) : (chain strictLibs pair).step inp
    (second, chainTrace second inp) (upReceived (chainTrace second inp)) :=
  ⟨openHop.auth, false, openHop.peer, .calm [] [], fun _ rest => List.prefix_refl rest, rfl,
    List.prefix_refl _⟩

theorem run_pair (inp : Bytes) : (chain strictLibs pair).Run inp
    ([(false, chainTrace false inp)] ++ [(true, chainTrace true (upReceived (chainTrace false inp)))])
    (upReceived (chainTrace true (upReceived (chainTrace false inp)))) :=
  .cons (step_chainTrace false inp) (.cons (step_chainTrace true _) (.nil _))

theorem chain_transparent_pair : ∃ first second out,
    (chain strictLibs pair).Run chainClient ([(false, first)] ++ [(true, second)]) out ∧ out ≠ [] ∧
    Arrives pair chainRequest "h" 80 "/x" (chainClient.drop 52) [(false, first)] (true, second) out := by
  have hreq : ClientHead strictLibs chainClient chainRequest 52 := ⟨_, rfl, rfl⟩
  have hw : WellRead chainRequest := {
    method := ⟨by decide, forall_mem_of_all (by decide)⟩
    target := forall_mem_of_all (by decide)
    version := .inr rfl
    names := forall_mem_of_all (by decide)
    values := forall_mem_of_all (by decide +kernel) }
  refine ⟨_, _, _, run_pair chainClient, by decide +kernel, ?_⟩
  exact chain_transparent (fun _ _ => beq_iff_eq) strictLibs_rereads (fun _ => ⟨_, _, rfl⟩) (by decide)
    hreq hw rfl rfl (.inl (forall_mem_of_all (by decide))) (run_pair chainClient)

end TinySocks.L4.Http
