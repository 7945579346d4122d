import TinySocks.Core.HttpResponse
import TinySocks.L4App.ForwardedBlock
import TinySocks.L4App.Session

/-!
# What a client hears

Everything a client gets on its connection is one utterance of the proxy's own, or the
beginning of one, and behind it, if it opens a relay, what comes from the other side. The
utterances are messages of their protocols: a client that reads as these say finds each of
them complete, and what is behind it untouched, and takes nothing less for it.

* `Http.Answer.read_back`, `readGrant_bytes`: the utterances are understood.
* `client_hears`: what is said is what there is to say to the command or the request; there
  is nothing else to hear, whatever fails and at every moment, and all of it where nothing does.
-/
namespace TinySocks.L4

open TinySocks.Core TinySocks.L1 TinySocks.L2 TinySocks.L3

/-! ## Answers over HTTP -/

namespace Http

inductive Answer where
  | loopDetected
  | statsAuthRequired
  | proxyAuthRequired
  | statsPage (body : Str)
  | connectionEstablished
  deriving DecidableEq, Repr

namespace Answer

/-- Its text.
mirrors src/http.rs:59-64,252-295,318-320 -/
def text : Answer → Str
  | loopDetected => Http.loopDetected
  | statsAuthRequired => crlf "HTTP/1.1 401 Unauthorized" ++
      crlf "WWW-Authenticate: Basic realm=\"tinysocks stats\"" ++ crlf "Content-Length: 0" ++
      crlf "Connection: close" ++ crlf []
  | proxyAuthRequired => crlf "HTTP/1.1 407 Proxy Authentication Required" ++
      crlf "Proxy-Authenticate: Basic realm=\"proxy\"" ++ crlf "Content-Length: 0" ++
      crlf "Connection: close" ++ crlf []
  | statsPage body => crlf "HTTP/1.1 200 OK" ++ crlf "Content-Type: text/html; charset=utf-8" ++
      crlf "Cache-Control: no-store" ++
      crlf ("Content-Length: " ++ decimal (Utf8.encode body).length) ++
      crlf "Connection: close" ++ crlf [] ++ body
  | connectionEstablished => Http.connectionEstablished

/-- It answers a request for a tunnel, and opens one. -/
def opensTunnel : Answer → Bool
  | connectionEstablished => true
  | _ => false

/-- What it is meant to say. -/
def status : Answer → Nat
  | loopDetected => 508
  | statsAuthRequired => 401
  | proxyAuthRequired => 407
  | statsPage _ | connectionEstablished => 200

def reason : Answer → Str
  | loopDetected => "Loop Detected"
  | statsAuthRequired => "Unauthorized"
  | proxyAuthRequired => "Proxy Authentication Required"
  | statsPage _ => "OK"
  | connectionEstablished => "Connection Established"

def headers : Answer → Headers
  | loopDetected => [("Content-Length", "0"), ("Connection", "close")]
  | statsAuthRequired =>
    [("WWW-Authenticate", "Basic realm=\"tinysocks stats\""), ("Content-Length", "0"), ("Connection", "close")]
  | proxyAuthRequired =>
    [("Proxy-Authenticate", "Basic realm=\"proxy\""), ("Content-Length", "0"), ("Connection", "close")]
  | statsPage body =>
    [("Content-Type", "text/html; charset=utf-8"), ("Cache-Control", "no-store"),
      ("Content-Length", decimal (Utf8.encode body).length), ("Connection", "close")]
  | connectionEstablished => []

def body : Answer → Str
  | statsPage body => body
  | _ => []

def response (a : Answer) : Http1.Response where
  minor := 0x31
  status := a.status
  reason := Utf8.encode a.reason
  fields := a.headers.map fun h => (Utf8.encode h.1, Utf8.encode h.2)
  body := Utf8.encode a.body

def statusLine (a : Answer) : Str := "HTTP/1.1 " ++ decimal a.status ++ " " ++ a.reason

/-- The text, by its parts. -/
theorem text_eq (a : Answer) :
    a.text = crlf a.statusLine ++ (a.headers.flatMap headerLine ++ ("\r\n".toList ++ a.body)) := by
  cases a with
  | statsPage page =>
    have hline : crlf "HTTP/1.1 200 OK" = crlf (statusLine (statsPage page)) :=
      congrArg crlf (show "HTTP/1.1 200 OK".toList = "HTTP/1.1 " ++ decimal 200 ++ " " ++ "OK" from rfl)
    have htype : crlf "Content-Type: text/html; charset=utf-8" =
        headerLine ("Content-Type", "text/html; charset=utf-8") := rfl
    have hcache : crlf "Cache-Control: no-store" = headerLine ("Cache-Control", "no-store") := rfl
    have hlength : ∀ n : Str, crlf ("Content-Length: " ++ n) = headerLine ("Content-Length", n) := by
      intro n
      rw [crlf, headerLine]
      rfl
    have hclose : crlf "Connection: close" = headerLine ("Connection", "close") := rfl
    rw [text, hline, htype, hcache, hlength, hclose]
    simp [headers, body, crlf]
  | _ => rfl

theorem encode_statusLine (a : Answer) : Utf8.encode a.statusLine = a.response.statusLine := by
  cases a with
  | statsPage page =>
    show Utf8.encode ("HTTP/1.1 " ++ decimal 200 ++ " " ++ "OK") = Http1.versionText 0x31 ++
      Http1.SP :: (Http1.statusText 200 ++ Http1.SP :: Utf8.encode "OK")
    decide
  | _ => decide

theorem encode_text (a : Answer) : Utf8.encode a.text = a.response.print := by
  have hend : Utf8.encode "\r\n" = [Http1.CR, Http1.LF] := by decide
  have hlines : a.response.lines = a.response.statusLine :: (a.headers.map fieldOf).map Http1.Field.line := by
    unfold Http1.Response.lines
    simp only [response, List.map_map]
    rfl
  rw [text_eq, Utf8.encode_append, Utf8.encode_append, Utf8.encode_append, encode_headerLines, crlf,
    Utf8.encode_append, hend, encode_statusLine, Http1.Response.print, Http1.Response.head, hlines,
    List.flatMap_cons, Http1.crlf]
  simp [response]

/-- A header of these answers: a token, and a trimmed value on one line. -/
def isPlain (h : Str × Str) : Bool :=
  !(Utf8.encode h.1).isEmpty && (Utf8.encode h.1).all Http1.isTokenByte && trim h.2 == h.2 &&
    !h.2.contains '\r' && !h.2.contains '\n'

theorem fieldOf_plain {h : Str × Str} (hp : isPlain h = true) : (fieldOf h).Sound := by
  simp only [isPlain, Bool.and_eq_true, Bool.not_eq_true', List.isEmpty_eq_false_iff, beq_iff_eq,
    List.contains_eq_mem, decide_eq_false_iff_not] at hp
  obtain ⟨⟨⟨⟨hne, hall⟩, htrim⟩, hcr⟩, hlf⟩ := hp
  exact fieldOf_sound ⟨hne, List.all_eq_true.1 hall⟩ (line_of_trimmed htrim hcr hlf)

theorem headers_sound (a : Answer) : ∀ h ∈ a.headers, (fieldOf h).Sound := by
  have hall : ∀ {hs : Headers}, hs.all isPlain = true → ∀ h ∈ hs, (fieldOf h).Sound := fun hp h hh =>
    fieldOf_plain (List.all_eq_true.1 hp h hh)
  cases a with
  | statsPage page =>
    have hname : Http1.IsToken (Utf8.encode "Content-Length") :=
      ⟨by decide, forall_mem_of_all (by decide)⟩
    have hlength : (fieldOf ("Content-Length", decimal (Utf8.encode page).length)).Sound :=
      fieldOf_sound hname (line_of_word fun _ => isWhitespace_decimal)
    refine List.forall_mem_cons.2 ⟨fieldOf_plain (by decide), List.forall_mem_cons.2
      ⟨fieldOf_plain (by decide), List.forall_mem_cons.2 ⟨hlength, hall (by decide)⟩⟩⟩
  | _ => exact hall (by decide)

theorem sound (a : Answer) : a.response.Sound a.opensTunnel where
  minor := .inr rfl
  status := by
    cases a with
    | statsPage page => exact show 200 < 1000 by decide
    | _ => decide
  reason := by
    cases a with
    | statsPage page => exact show Http1.CR ∉ Utf8.encode "OK" ∧ Http1.LF ∉ Utf8.encode "OK" by decide
    | _ => decide
  fields f hf := by
    obtain ⟨h, hh, rfl⟩ := List.mem_map.1 hf
    exact headers_sound a h hh
  framed := by
    cases a with
    | statsPage page => rfl
    | _ => decide

/-- **An answer is one response**: it says what it is meant to, up to its last byte,
whatever follows it, and less of it says nothing. -/
theorem read_back (a : Answer) (rest : Bytes) :
    Http1.readResponse a.opensTunnel (Utf8.encode a.text ++ rest) = some (a.response, rest) ∧
      ∀ k < (Utf8.encode a.text).length,
        Http1.readResponse a.opensTunnel ((Utf8.encode a.text).take k) = none := by
  rw [encode_text]
  exact ⟨Http1.readResponse_print a.sound rest, fun k hk => Http1.readResponse_take a.sound hk⟩

end Answer
end Http

/-! ## Utterances -/

/-- What the proxy may have to say to a client. -/
inductive Utterance where
  | silence
  | noMethod
  | loginRefused
  /-- the client may ask, and nothing is granted -/
  | admitted (bypassAuth : Bool)
  | granted (bypassAuth : Bool) (bound : SocketAddr)
  | answer (a : Http.Answer)
  /-- nothing: the request is sent on -/
  | forwarded

namespace Utterance

def bytes : Utterance → Bytes
  | silence | forwarded => []
  | noMethod => [SOCKS_VERSION, 0xFF]
  | loginRefused => [SOCKS_VERSION, AuthMethod.usernamePassword.asByte, 0x01, 0x01]
  | admitted bypassAuth => socksReply bypassAuth
  | granted bypassAuth bound =>
    socksReply bypassAuth ++ ([SOCKS_VERSION, 0x00, 0x00] ++ (Address.fromSocketAddr bound).wire)
  | answer a => Utf8.encode a.text

/-- Behind it comes what the other side sends. -/
def opens : Utterance → Bool
  | granted _ _ | forwarded => true
  | answer a => a.opensTunnel
  | silence | noMethod | loginRefused | admitted _ => false

/-- What may be all there is to say, when nothing is granted or answered. -/
def Early (bypassAuth : Bool) (protocol : ProxyProtocol) : Utterance → Prop
  | silence => True
  | noMethod => protocol = .socks5
  | loginRefused => protocol = .socks5 ∧ bypassAuth = false
  | admitted b => protocol = .socks5 ∧ b = bypassAuth
  | granted _ _ | answer _ | forwarded => False

end Utterance

/-- `bound` is the address of the socket that was just opened for `cmd`. -/
def BoundTo (env : Env) (pre : Trace) (bound : SocketAddr) : Command → Prop
  | .connect addr => (∃ mid, pre = mid ++ [.connect addr.toTargetString true]) ∧
    env.outboundLocalAddr pre = .ok bound
  | .udpAssociate _ => (∃ mid ip, pre = mid ++ [.udpBind ip true]) ∧ env.udpLocalAddr pre = .ok bound

/-- What there is to say to a request. `page` is the statistics page. -/
def Http.replyTo (L : Libs) (bypassAuth : Bool) (auth : AuthConfig) (statsEnabled : Bool)
    (listener : HttpListener) (req : HttpRequest) (page : Str) : Utterance :=
  if hasProxyVia req.headers listener.via then .answer .loopDetected
  else if statsEnabled && isStatsRequest L req listener.port then
    match if bypassAuth then .ok true else statsAuthorized L req auth with
    | .ok true => .answer (.statsPage page)
    | .ok false => .answer .statsAuthRequired
    | .error _ => .silence
  else
    match if bypassAuth then .ok true
      else httpBasicAuthorized L (getHeader req.headers "proxy-authorization") auth with
    | .ok true =>
      if eqIgnoreAsciiCase req.method "CONNECT" then .answer .connectionEstablished else .forwarded
    | .ok false => .answer .proxyAuthRequired
    | .error _ => .silence

section
variable (L : Libs) (auth : AuthConfig) (statsEnabled : Bool) (listener : HttpListener)
  (peer : SocketAddr) (env : Env) (inp : Bytes)

/-- The connection reads this request, and is then in the state `w`. -/
def Http.Requests (req : HttpRequest) (w : World) : Prop :=
  ∃ w₁, classify (.accepted env inp) = .ok (some .http) w₁ ∧ readHttpRequest L w₁ = .ok req w

/-- What a connection has to say, whose trace is `t` in the end. -/
def Utterance.Due (t : Trace) (u : Utterance) : ProxyProtocol → Prop
  | .socks5 => ∃ cmd w pre bound,
    Dispatches L (ipAuthenticate L auth.bypassIps peer.ip) auth peer (.accepted env inp) cmd w ∧
      w.trace <+: pre ∧ pre <+: t ∧ BoundTo env pre bound cmd ∧
      u = .granted (ipAuthenticate L auth.bypassIps peer.ip) bound
  | .http => ∃ req w, Http.Requests L env inp req w ∧ u = Http.replyTo L
      (ipAuthenticate L auth.bypassIps peer.ip) auth statsEnabled listener req (env.renderHtml w.trace)

end

/-- A SOCKS5 client that waits for its command to be granted: the address it is told,
and what is behind the reply. -/
def readGrant (bypassAuth : Bool) (b : Bytes) : Option (Address × Bytes) :=
  let expected := socksReply bypassAuth ++ [SOCKS_VERSION, 0x00, 0x00]
  if expected.isPrefixOf b then
    match parseAddressBytes (b.drop expected.length) with
    | .ok (address, n) => some (address, (b.drop expected.length).drop n)
    | .error _ => none
  else none

/-- An address that is cut is none. -/
theorem parseAddressBytes_take {a : Address} (h : a.Readable) {k : Nat} (hk : k < a.wire.length) :
    parseAddressBytes (a.wire.take k) = .error invalidUdpPacket := by
  rcases parseAddressBytes_cases (a.wire.take k) with he | ⟨a', rest, ha', hw, -⟩
  · exact he
  · have hall : a.wire = a'.wire ++ (rest ++ a.wire.drop k) := by
      rw [← List.append_assoc, ← hw, List.take_append_drop]
    have hread := parseAddressBytes_wire h []
    rw [List.append_nil, hall, parseAddressBytes_wire ha'] at hread
    injection hread with hread
    obtain ⟨rfl, -⟩ := Prod.mk.inj hread
    have hlen := congrArg List.length hw
    rw [List.length_append, List.length_take] at hlen
    omega

theorem fromSocketAddr_readable (addr : SocketAddr) : (Address.fromSocketAddr addr).Readable := by
  cases addr <;> trivial

/-- **A grant is understood**, whatever follows it, and less of it is not. -/
theorem readGrant_bytes (bypassAuth : Bool) (bound : SocketAddr) (rest : Bytes) :
    readGrant bypassAuth ((Utterance.granted bypassAuth bound).bytes ++ rest) =
        some (.fromSocketAddr bound, rest) ∧
      ∀ k < (Utterance.granted bypassAuth bound).bytes.length,
        readGrant bypassAuth ((Utterance.granted bypassAuth bound).bytes.take k) = none := by
  have hwire := fromSocketAddr_readable bound
  have hbytes : (Utterance.granted bypassAuth bound).bytes =
      (socksReply bypassAuth ++ [SOCKS_VERSION, 0x00, 0x00]) ++ (Address.fromSocketAddr bound).wire := by
    simp [Utterance.bytes]
  rw [hbytes]
  refine ⟨?_, fun k hk => ?_⟩
  · unfold readGrant
    simp only [List.append_assoc _ _ rest]
    rw [if_pos (List.isPrefixOf_iff_prefix.2 (List.prefix_append _ _)), List.drop_left,
      parseAddressBytes_wire hwire]
    simp only
    rw [← wire_length, List.drop_left]
  · unfold readGrant
    simp only
    split
    · rename_i hp
      have hle := (List.isPrefixOf_iff_prefix.1 hp).length_le
      rw [List.length_take] at hle
      rw [List.length_append] at hk
      rw [List.take_append, List.take_of_length_le (by omega), List.drop_left,
        parseAddressBytes_take hwire (by omega)]
    · rfl

/-- What a client that waits for it makes of an utterance. -/
def Utterance.Understood : Utterance → Prop
  | silence | noMethod | loginRefused | admitted _ | forwarded => True
  | u@(granted bypassAuth bound) => ∀ rest,
    readGrant bypassAuth (u.bytes ++ rest) = some (.fromSocketAddr bound, rest) ∧
      ∀ k < u.bytes.length, readGrant bypassAuth (u.bytes.take k) = none
  | u@(answer a) => ∀ rest,
    Http1.readResponse a.opensTunnel (u.bytes ++ rest) = some (a.response, rest) ∧
      ∀ k < u.bytes.length, Http1.readResponse a.opensTunnel (u.bytes.take k) = none

theorem Utterance.understood : ∀ u : Utterance, u.Understood
  | silence | noMethod | loginRefused | admitted _ | forwarded => trivial
  | granted bypassAuth bound => readGrant_bytes bypassAuth bound
  | answer a => a.read_back

/-! ## Hearing -/

/-- What a client has heard: some of the proxy's own, and then what was copied. -/
inductive Hearing where
  | own (b : Bytes)
  | relayed (b down : Bytes)

def Ev.isHeard : Ev → Bool
  | .write _ | .copied _ _ _ => true
  | _ => false

namespace Hearing

/-- What an event leads to. Nothing is said behind what was copied. -/
inductive Moves : Hearing → Ev → Hearing → Prop where
  | told (b c : Bytes) : Moves (own b) (.write c) (own (b ++ c))
  | copied (b up down : Bytes) (ok : Bool) : Moves (own b) (.copied up down ok) (relayed b down)
  | unheard (p : Hearing) {e : Ev} (he : Ev.isHeard e = false) : Moves p e p

def heard : Hearing → Bytes
  | own b => b
  | relayed b down => b ++ down

/-- What was said is a beginning of such an utterance; if something was copied, it is all
of one that opens a relay. -/
def Begins (said : Utterance → Prop) : Hearing → Prop
  | own b => ∃ u, said u ∧ b <+: u.bytes
  | relayed b _ => ∃ u, said u ∧ u.opens = true ∧ b = u.bytes

/-- It is all of this one. -/
def Says (u : Utterance) : Hearing → Prop
  | own b => b = u.bytes
  | relayed b _ => u.opens = true ∧ b = u.bytes

end Hearing

def hearing : LTS Hearing Ev where
  init p := p = .own []
  step := Hearing.Moves

section
variable {p q : Hearing} {e : Ev} {t : Trace}

theorem Hearing.Moves.heard_eq (h : p.Moves e q) : q.heard = p.heard ++ clientReceived [e] := by
  cases h with
  | told b c => simp [heard, clientReceived]
  | copied b up down ok => simp [heard, clientReceived]
  | unheard p he =>
    have hnone : clientReceived [e] = [] := by
      cases e <;> first | rfl | cases he
    rw [hnone, List.append_nil]

theorem heard_of_run (h : hearing.Run p t q) : q.heard = p.heard ++ clientReceived t := by
  induction h with
  | nil p => simp [clientReceived]
  | @cons p r q e t first rest ih =>
    rw [ih, first.heard_eq, List.append_assoc, ← clientReceived_append]
    rfl

/-- Where something was copied, it is in the trace. -/
theorem copied_of_run (h : hearing.Run p t q) : ∀ {b down : Bytes}, q = .relayed b down →
    p = .relayed b down ∨ ∃ up ok, .copied up down ok ∈ t := by
  induction h with
  | nil p => exact fun hq => .inl hq
  | @cons p r q e t first rest ih =>
    intro b down hq
    rcases ih hq with hr | ⟨up, ok, hm⟩
    · subst hr
      cases first with
      | copied b up down ok => exact .inr ⟨up, ok, .head _⟩
      | unheard => exact .inl rfl
    · exact .inr ⟨up, ok, .tail _ hm⟩

theorem Hearing.Says.begins {said : Utterance → Prop} {u : Utterance} (hu : said u) :
    p.Says u → p.Begins said := by
  cases p with
  | own b => exact fun h => ⟨u, hu, h ▸ List.prefix_refl b⟩
  | relayed b down => exact fun h => ⟨u, hu, h⟩

theorem Hearing.Begins.mono {said said' : Utterance → Prop} (h : ∀ u, said u → said' u) :
    p.Begins said → p.Begins said' := by
  cases p with
  | own b => exact fun ⟨u, hu, hb⟩ => ⟨u, h u hu, hb⟩
  | relayed b down => exact fun ⟨u, hu, hb⟩ => ⟨u, h u hu, hb⟩

/-- What was a beginning was one before. -/
theorem Hearing.Moves.begins {said : Utterance → Prop} (h : p.Moves e q) :
    q.Begins said → p.Begins said := by
  cases h with
  | told b c => exact fun ⟨u, hu, hb⟩ => ⟨u, hu, (List.prefix_append b c).trans hb⟩
  | copied b up down ok => exact fun ⟨u, hu, _, hb⟩ => ⟨u, hu, hb ▸ List.prefix_refl b⟩
  | unheard => exact id

theorem begins_of_run {said : Utterance → Prop} (h : hearing.Run p t q) :
    q.Begins said → p.Begins said := by
  induction h with
  | nil p => exact id
  | cons first rest ih => exact fun hq => first.begins (ih hq)

end

/-! ## Programs -/

/-- Nothing is heard. -/
abbrev Silent : World → World → Prop := Emits fun e => !Ev.isHeard e

theorem silent_frame : Frame Silent := emits_frame _

/-- All the program says is a beginning of an utterance, whether it returns or fails. -/
abbrev Tells {α : Type} (said : Utterance → Prop) (p : Hearing) (m : M α) (ok : α → Hearing → Prop) :
    Prop := Obeys hearing World.trace p m ok fun _ q => q.Begins said

section
variable {α β : Type} {said : Utterance → Prop} {p : Hearing} {b : Bytes} {ok : α → Hearing → Prop}

theorem obeys_silent {ε : Type} {m : EStateM ε World α} (h : Keeps Silent m) (p : Hearing) :
    Obeys hearing World.trace p m (fun _ q => q = p) fun _ q => q = p :=
  Obeys.stays (fun _ he => .unheard p (by simpa using he)) fun w => (h w).2

theorem tells_silent {m : M α} (h : Keeps Silent m) (hp : p.Begins said) :
    Tells said p m fun _ q => q = p :=
  (obeys_silent h p).mono (fun _ _ => id) fun _ _ hq => hq ▸ hp

/-- What is written is a beginning, and so is every part of it. -/
theorem tells_write {c : Bytes} {u : Utterance} (hu : said u) (hb : b ++ c <+: u.bytes) (action : Str) :
    Tells said (.own b) (writeAllWithTimeout c action) fun _ q => q = .own (b ++ c) := by
  refine Obeys.adapt ?_ fun _ q (hq : q.Begins said) => hq
  intro w
  unfold writeAll
  rw [writeAllBy_apply]
  cases w.env.writeFault w.trace c with
  | none => exact ⟨[.write c], _, rfl, .cons (.told b c) (.nil _), rfl⟩
  | some f =>
    have hcut : b ++ c.take f.1 <+: u.bytes :=
      ((List.prefix_append_right_inj b).2 (List.take_prefix f.1 c)).trans hb
    exact ⟨[.write (c.take f.1)], _, rfl, .cons (.told b _) (.nil _), u, hu, hcut⟩

theorem tells_inspectErr {m : M α} {look : Str → M Unit} (hm : Tells said p m ok)
    (hlook : ∀ message, Keeps Silent (look message)) : Tells said p (inspectErr m look) ok := by
  refine Obeys.catch hm fun e q hq => ?_
  cases e with
  | failed message =>
    refine Obeys.bind (tells_silent (hlook message) hq) fun _ r hr => Obeys.throw ?_
    rw [hr]
    exact hq
  | panicked => exact Obeys.throw hq
  | waiting => exact Obeys.throw hq

theorem silent_reportFailure (op : StatOp) (message : Str) : Keeps Silent (reportFailure op message) :=
  Keeps.bind silent_frame (keeps_emit rfl) fun _ => keeps_emit rfl

theorem tells_reported {m : M α} (hm : Tells said p m ok) (message text : Str) (op : StatOp) :
    Tells said p (reported message op text m) ok :=
  Obeys.adapt (tells_inspectErr hm fun _ => silent_reportFailure op _) fun _ _ => id

/-- The copy loop, behind all of an utterance that opens a relay. -/
theorem tells_copy {u : Utterance} (ho : u.opens = true) (message text : Str) :
    Tells (Eq u) (.own u.bytes)
      (reported message .incRelayFailures text copyBidirectional >>= fun r => stat (.addTcpBytes r.1 r.2))
      fun _ q => q.Says u := by
  have hend : ∀ down, (Hearing.relayed u.bytes down).Says u := fun down => ⟨ho, rfl⟩
  have hcopy : Tells (Eq u) (.own u.bytes) copyBidirectional fun _ q => q.Says u := by
    intro w
    rcases copyBidirectional_cases w with ⟨up, down, w', h, ht⟩ | ⟨up, down, err, w', h, ht⟩
    · rw [h]
      exact ⟨_, _, ht, .cons (.copied u.bytes up down true) (.nil _), hend down⟩
    · rw [h]
      exact ⟨_, _, ht, .cons (.copied u.bytes up down false) (.nil _), (hend down).begins rfl⟩
  refine Obeys.bind (tells_reported hcopy message text _) fun r q hq => ?_
  exact (tells_silent (keeps_emit rfl) (hq.begins rfl)).mono (fun _ _ h => h ▸ hq) fun _ _ => id

/-- A program that says nothing, and one behind it. -/
theorem tells_after {m : M α} {k : α → M β} {ok : β → Hearing → Prop} (h : Keeps Silent m)
    (hp : p.Begins said) (hk : ∀ a, Tells said p (k a) ok) :
    Tells said p (m >>= k) ok := Obeys.after (tells_silent h hp) hk

end

/-! ### What is said in the end -/

/-- A program that returns has said what was due, and one that fails a beginning of that, or
of something said early. -/
def Concludes (early : Utterance → Prop) (due : Trace → Utterance → Prop)
    (r : EStateM.Result Stop World Unit) (q : Hearing) : Prop :=
  match r with
  | .ok _ w => ∃ u, due w.trace u ∧ q.Says u
  | .error _ w => q.Begins fun u => due w.trace u ∨ early u

section
variable {early : Utterance → Prop} {due : Trace → Utterance → Prop} {w : World} {p q : Hearing}
  {m : M Unit}

theorem concludes_early {e : Stop} (h : q.Begins early) : Concludes early due (.error e w) q :=
  h.mono fun _ => .inr

theorem Concludes.mono {due' : Trace → Utterance → Prop} (h : ∀ t u, due t u → due' t u)
    {r : EStateM.Result Stop World Unit} : Concludes early due r q → Concludes early due' r q := by
  cases r with
  | ok a w => exact fun ⟨u, hu, hq⟩ => ⟨u, h _ u hu, hq⟩
  | error e w => exact fun hq => Hearing.Begins.mono (fun u hu => Or.imp (h _ u) id hu) hq

theorem Concludes.begins {r : EStateM.Result Stop World Unit} :
    Concludes early due r q → q.Begins fun u => due (finalState r).trace u ∨ early u := by
  cases r with
  | ok a w => exact fun ⟨u, hu, hq⟩ => hq.begins (.inl hu)
  | error e w => exact id

/-- From here on there is one thing to say. -/
theorem concludes_of_tells {u : Utterance} (h : Tells (Eq u) p m fun _ q => q.Says u)
    (hdue : ∀ t, w.trace <+: t → due t u) :
    ObeysAt hearing World.trace w p m (Concludes early due) := by
  refine h.obeysAt (fun _ w' q _ hpre hq => ⟨u, hdue _ hpre, hq⟩) fun e w' q _ hpre hq => ?_
  refine hq.mono fun v hv => .inl ?_
  exact hv ▸ hdue _ hpre

end

/-! ### Relays -/

/-- The relay of an association goes through these, from its socket on. -/
def Phase.isRelay : Phase → Bool
  | relaying | resolved _ | unresolved | sent _ | unsent | missed | replying | broken | failing
  | closed => true
  | _ => false

theorem Phase.Moves.unheard {p q : Phase} {e : Ev} (h : p.Moves e q) (hp : p.isRelay = true) :
    q.isRelay = true ∧ Ev.isHeard e = false := by
  cases h with
  | control hw | received hw | resolve hw | unresolve hw | replyCounted hw | fallDeaf hw => exact ⟨rfl, rfl⟩
  | _ => first | exact ⟨rfl, rfl⟩ | cases hp

theorem unheard_of_run {p q : Phase} {t : Trace} (h : session.Run p t q) (hp : p.isRelay = true) :
    ∀ e ∈ t, Ev.isHeard e = false := by
  induction h with
  | nil p => exact fun _ he => nomatch he
  | cons first rest ih =>
    obtain ⟨hq, he⟩ := first.unheard hp
    exact List.forall_mem_cons.2 ⟨he, ih hq⟩

/-- The client of an association hears nothing on its connection any more. -/
theorem silent_relayUdpLoop (peer : SocketAddr) (inputs : List UdpInput) :
    Keeps Silent (Handler.relayUdpLoop peer inputs) := by
  intro w
  obtain ⟨evs, q, ht, hrun, -⟩ := plays_relayUdpLoop peer inputs (p := .relaying) rfl w
  obtain ⟨henv, -⟩ := Handler.keeps_relayUdpLoop peer inputs w
  exact ⟨henv, evs, ht, fun e he => by simp [unheard_of_run hrun rfl e he]⟩

theorem silent_connect (message text target : Str) :
    Keeps Silent (reported message .incConnectFailures text (tcpConnect target)) := by
  refine keeps_emits_reported ?_ rfl (fun _ => rfl) _ _
  refine Keeps.bind silent_frame (keeps_ask silent_frame _) fun o => ?_
  cases o with
  | none => exact keeps_emit rfl
  | some err => exact Keeps.bind silent_frame (keeps_emit rfl) fun _ => keeps_bail silent_frame err

theorem silent_upWrite (b : Bytes) (action : Str) : Keeps Silent (upWriteAllWithTimeout b action) :=
  Keeps.withTimeout (keeps_writeAllBy (fun w b => emits_emit (e := .upWrite b) rfl w) _ b) action

theorem silent_udpBind (message : Str) (ip : IpAddr) : Keeps Silent (context message (Handler.udpBind ip)) := by
  refine Keeps.context (Keeps.bind silent_frame (keeps_ask silent_frame _) fun o => ?_) _
  cases o with
  | none => exact keeps_emit rfl
  | some err => exact Keeps.bind silent_frame (keeps_emit rfl) fun _ => keeps_bail silent_frame err

/-! ### SOCKS5 -/

section
variable {L : Libs} {bypassAuth : Bool}

/-- What a SOCKS5 client may be told before anything is granted. -/
abbrev SocksEarly (bypassAuth : Bool) : Utterance → Prop := Utterance.Early bypassAuth .socks5

theorem begins_admitted {b : Bytes} (h : b <+: socksReply bypassAuth) :
    (Hearing.own b).Begins (SocksEarly bypassAuth) := ⟨.admitted bypassAuth, ⟨rfl, rfl⟩, h⟩

/-- A write on the way to a grant. -/
theorem tells_admitting {b c : Bytes} (h : b ++ c <+: socksReply bypassAuth) (action : Str) :
    Tells (SocksEarly bypassAuth) (.own b) (writeAllWithTimeout c action) fun _ q => q = .own (b ++ c) :=
  tells_write (u := .admitted bypassAuth) ⟨rfl, rfl⟩ h action

/-- A refusal ends the connection. -/
theorem tells_refused {b c : Bytes} {u : Utterance} (hu : SocksEarly bypassAuth u)
    (hb : b ++ c = u.bytes) (action message : Str) {ok : Unit → Hearing → Prop} :
    Tells (SocksEarly bypassAuth) (.own b) (do writeAllWithTimeout c action; bail message) ok :=
  Obeys.after (tells_write hu (hb ▸ List.prefix_refl _) action) fun _ =>
    Obeys.throw ⟨u, hu, hb ▸ List.prefix_refl _⟩

theorem tells_handshake : Tells (SocksEarly bypassAuth) (.own []) (handshake (methodFor bypassAuth))
    fun _ q => q = .own [SOCKS_VERSION, (methodFor bypassAuth).asByte] := by
  have hsilence : (Hearing.own []).Begins (SocksEarly bypassAuth) := begins_admitted List.nil_prefix
  refine tells_after (emits_readExactWithTimeout (fun _ => rfl) _ _) hsilence fun buf => ?_
  refine Obeys.ite (Obeys.throw hsilence) ?_
  refine tells_after (emits_readExactWithTimeout (fun _ => rfl) _ _) hsilence fun methods => ?_
  refine Obeys.ite (tells_refused (u := .noMethod) rfl rfl _ _) ?_
  exact tells_admitting (List.prefix_append _ _) _

theorem tells_login (auth : AuthConfig) (peer : SocketAddr) :
    Tells (SocksEarly bypassAuth) (.own [SOCKS_VERSION, (methodFor bypassAuth).asByte])
      (login L bypassAuth auth peer) fun _ q => q = .own (socksReply bypassAuth) := by
  have hselected : (Hearing.own [SOCKS_VERSION, (methodFor bypassAuth).asByte]).Begins
      (SocksEarly bypassAuth) := begins_admitted (List.prefix_append _ _)
  cases bypassAuth with
  | true => exact Obeys.pure rfl
  | false =>
    refine tells_inspectErr ?_ fun _ => silent_reportFailure _ _
    refine tells_after (emits_readExactWithTimeout (fun _ => rfl) _ _) hselected fun ver => ?_
    refine Obeys.ite (Obeys.throw hselected) ?_
    refine tells_after (emits_readString fun _ => rfl) hselected fun username => ?_
    refine tells_after (emits_readString fun _ => rfl) hselected fun password => ?_
    unfold replyToLogin
    split
    · refine Obeys.ite (tells_admitting (List.prefix_refl _) _) ?_
      exact tells_refused (u := .loginRefused) ⟨rfl, rfl⟩ rfl _ _
    · exact Obeys.throw hselected

theorem tells_socksCommand (auth : AuthConfig) (peer : SocketAddr) :
    Tells (SocksEarly bypassAuth) (.own []) (socksCommand L bypassAuth auth peer)
      fun _ q => q = .own (socksReply bypassAuth) := by
  refine Obeys.after (tells_inspectErr tells_handshake fun message => ?_) fun _ => ?_
  · exact Keeps.ite (Keeps.pure silent_frame _) (silent_reportFailure _ _)
  refine Obeys.after (tells_login auth peer) fun _ => ?_
  exact tells_after (emits_readRequest fun _ => rfl) (begins_admitted (List.prefix_refl _)) fun req =>
    Obeys.pure rfl

/-- The client is told, with the address of the socket that serves it. -/
theorem tells_sendReply (bound : SocketAddr) :
    Tells (Eq (.granted bypassAuth bound)) (.own (socksReply bypassAuth))
      (sendReply 0x00 (.fromSocketAddr bound))
      fun _ q => q = .own (Utterance.granted bypassAuth bound).bytes := by
  rw [sendReply_eq _ (fromSocketAddr_encodable bound)]
  exact tells_write (u := .granted bypassAuth bound) rfl (List.prefix_refl _) _

theorem silent_liftResult {α : Type} (r : Except Str α) : Keeps Silent (liftResult r) :=
  keeps_liftResult silent_frame r

/-- What there is to say to a client that asked for `cmd`. -/
def Grants (bypassAuth : Bool) (cmd : Command) (env : Env) (w : World) (t : Trace) (u : Utterance) : Prop :=
  ∃ pre bound, w.trace <+: pre ∧ pre <+: t ∧ BoundTo env pre bound cmd ∧ u = .granted bypassAuth bound

theorem connected {target : Str} {w w' : World} {a : Unit} (h : tcpConnect target w = .ok a w') :
    w' = { w with trace := w.trace ++ [.connect target true] } := by
  cases hc : w.env.connect w.trace target with
  | none =>
    rw [tcpConnect_eq hc] at h
    cases h
    rfl
  | some err =>
    rw [tcpConnect_error hc] at h
    cases h

theorem udpBound {ip : IpAddr} {w w' : World} {a : Unit} (h : Handler.udpBind ip w = .ok a w') :
    w' = { w with trace := w.trace ++ [.udpBind ip true] } := by
  unfold Handler.udpBind at h
  rw [bind_apply, ask_apply] at h
  cases hb : w.env.udpBind w.trace ip with
  | none =>
    rw [hb] at h
    cases h
    rfl
  | some err =>
    rw [hb] at h
    cases h

/-- A step on the way to a grant that says nothing. -/
theorem granting {α : Type} {x : M α} {k : α → M Unit} {w : World} {due : Trace → Utterance → Prop}
    (hx : Keeps Silent x) (hk : ∀ a w', x w = .ok a w' → ObeysAt hearing World.trace w'
      (.own (socksReply bypassAuth)) (k a) (Concludes (SocksEarly bypassAuth) due)) :
    ObeysAt hearing World.trace w (.own (socksReply bypassAuth)) (x >>= k)
      (Concludes (SocksEarly bypassAuth) due) :=
  (tells_silent hx (begins_admitted (List.prefix_refl _))).bindAt
    (fun a w' _ h hq => hq ▸ hk a w' h) fun _ _ _ _ hq => concludes_early hq

theorem tells_handleConnect (addr : Address) (peer : SocketAddr) (w : World) :
    ObeysAt hearing World.trace w (.own (socksReply bypassAuth)) (Handler.handleConnect addr peer)
      (Concludes (SocksEarly bypassAuth) (Grants bypassAuth (.connect addr) w.env w)) := by
  refine granting (silent_connect _ _ _) fun _ w₁ hconnect => ?_
  refine granting (Keeps.context (keeps_failing silent_frame _) _) fun _ w₂ hnodelay => ?_
  refine granting (keeps_ask silent_frame _) fun localAddr w₃ hask => ?_
  refine granting (silent_liftResult _) fun bound w₄ hbound => ?_
  obtain rfl := connected (reported_ok.1 hconnect)
  obtain rfl := failing_ok (context_ok.1 hnodelay)
  cases hask
  obtain ⟨haddr, rfl⟩ := liftResult_ok hbound
  refine concludes_of_tells (u := .granted bypassAuth bound) ?_ fun t hpre =>
    ⟨_, bound, List.prefix_append _ _, hpre, ⟨⟨_, rfl⟩, haddr⟩, rfl⟩
  exact Obeys.after (tells_sendReply bound) fun _ => tells_copy rfl _ _

theorem tells_handleUdpAssociate (addr : Address) (peer : SocketAddr) (ip : IpAddr) (w : World) :
    ObeysAt hearing World.trace w (.own (socksReply bypassAuth)) (Handler.handleUdpAssociate peer ip)
      (Concludes (SocksEarly bypassAuth) (Grants bypassAuth (.udpAssociate addr) w.env w)) := by
  refine granting (keeps_emit rfl) fun _ w₁ hcount => ?_
  refine granting (silent_udpBind _ ip) fun _ w₂ hbind => ?_
  refine granting (keeps_ask silent_frame _) fun localAddr w₃ hask => ?_
  refine granting (silent_liftResult _) fun bound w₄ hbound => ?_
  cases hcount
  obtain rfl := udpBound (context_ok.1 hbind)
  cases hask
  obtain ⟨haddr, rfl⟩ := liftResult_ok hbound
  have hpre : w.trace <+: (w.trace ++ [.stat .incUdpAssociateSessions]) ++ [.udpBind ip true] := by
    rw [List.append_assoc]
    exact List.prefix_append _ _
  refine concludes_of_tells (u := .granted bypassAuth bound) ?_ fun t ht =>
    ⟨_, bound, hpre, ht, ⟨⟨_, ip, rfl⟩, haddr⟩, rfl⟩
  refine Obeys.after (tells_sendReply bound) fun _ => ?_
  have hsaid : (Hearing.own (Utterance.granted bypassAuth bound).bytes).Says (.granted bypassAuth bound) := rfl
  refine (tells_silent ?_ (hsaid.begins rfl)).mono (fun _ _ hq => hq ▸ hsaid) fun _ _ => id
  refine Keeps.bind silent_frame (fun _ => ⟨rfl, [], by simp [Handler.setRelay], by simp⟩) fun _ => ?_
  exact Keeps.bind silent_frame (keeps_ask silent_frame _) fun inputs => silent_relayUdpLoop peer inputs

theorem tells_runCommand (cmd : Command) (peer : SocketAddr) (w : World) :
    ObeysAt hearing World.trace w (.own (socksReply bypassAuth)) (runCommand cmd peer)
      (Concludes (SocksEarly bypassAuth) fun t u => Grants bypassAuth cmd w.env w t u ∧
        ∀ addr, cmd = .udpAssociate addr → ∃ a, w.env.localAddr w.trace = .ok a) := by
  cases cmd with
  | connect addr => exact (tells_handleConnect addr peer w).mono fun _ _ => .mono fun _ _ h => ⟨h, nofun⟩
  | udpAssociate addr =>
    refine granting (keeps_ask silent_frame _) fun localAddr w₁ hask => ?_
    refine granting (silent_liftResult _) fun a w₂ ha => ?_
    cases hask
    obtain ⟨haddr, rfl⟩ := liftResult_ok ha
    exact (tells_handleUdpAssociate addr peer a.ip w₂).mono fun _ _ => .mono fun _ _ h =>
      ⟨h, fun _ _ => ⟨a, haddr⟩⟩

/-- The talk of a SOCKS5 client: the command it gave, and what there is to say to it. -/
theorem tells_socks (auth : AuthConfig) (peer : SocketAddr) (w : World) :
    ObeysAt hearing World.trace w (.own [])
      (socksCommand L bypassAuth auth peer >>= fun cmd => runCommand cmd peer)
      (Concludes (SocksEarly bypassAuth) fun t u => ∃ cmd w', socksCommand L bypassAuth auth peer w = .ok cmd w' ∧
        (∀ addr, cmd = .udpAssociate addr → ∃ a, w'.env.localAddr w'.trace = .ok a) ∧
        Grants bypassAuth cmd w.env w' t u) := by
  refine (tells_socksCommand auth peer).bindAt (fun cmd w' _ hcmd hq => ?_) fun _ _ _ _ hq =>
    concludes_early hq
  have henv : w'.env = w.env := by
    obtain ⟨⟨c, out, hadvance⟩, -⟩ := keeps_socksCommand L bypassAuth auth peer w
    rw [hcmd] at hadvance
    exact hadvance.env
  subst hq
  refine (tells_runCommand cmd peer w').mono fun _ _ => .mono fun t u hu => ?_
  exact ⟨cmd, w', hcmd, hu.2, henv ▸ hu.1⟩

end

/-! ### HTTP -/

namespace Http

section
variable {L : Libs} {bypassAuth statsEnabled : Bool} {u : Utterance}

theorem begins_nothing (u : Utterance) : (Hearing.own []).Begins (Eq u) := ⟨u, rfl, List.nil_prefix⟩

/-- An answer, and nothing behind it. -/
theorem tells_answer (a : Answer) (action : Str) :
    Tells (Eq (.answer a)) (.own []) (writeAllWithTimeout (Utf8.encode a.text) action)
      fun _ q => q = .own (Utterance.answer a).bytes :=
  tells_write (u := .answer a) rfl (List.prefix_refl _) action

theorem tells_last (a : Answer) (action : Str) :
    Tells (Eq (.answer a)) (.own []) (writeAllWithTimeout (Utf8.encode a.text) action)
      fun _ q => q.Says (.answer a) :=
  (tells_answer a action).mono (fun _ _ hq => hq ▸ rfl) fun _ _ => id

theorem tells_handleConnect (req : HttpRequest) (peer : SocketAddr) :
    Tells (Eq (.answer .connectionEstablished)) (.own []) (handleConnect L req peer)
      fun _ q => q.Says (.answer .connectionEstablished) := by
  have hnothing := begins_nothing (.answer .connectionEstablished)
  have hestablished : (Hearing.own (Utterance.answer .connectionEstablished).bytes).Says
      (.answer .connectionEstablished) := rfl
  refine tells_after (silent_liftResult _) hnothing fun r => ?_
  refine tells_after (silent_connect _ _ _) hnothing fun _ => ?_
  refine Obeys.after (tells_answer .connectionEstablished _) fun _ => ?_
  refine tells_after (Keeps.ite ?_ (Keeps.pure silent_frame _)) (hestablished.begins rfl) fun _ => ?_
  · exact Keeps.bind silent_frame (silent_upWrite _ _) fun _ => keeps_emit rfl
  exact tells_copy rfl _ _

theorem tells_handleForward (req : HttpRequest) (peer : SocketAddr) (via : Str) :
    Tells (Eq .forwarded) (.own []) (handleForward L req peer via) fun _ q => q.Says .forwarded := by
  have hnothing := begins_nothing .forwarded
  refine tells_after (silent_liftResult _) hnothing fun r => ?_
  refine tells_after (silent_connect _ _ _) hnothing fun _ => ?_
  refine tells_after (silent_upWrite _ _) hnothing fun _ => ?_
  refine tells_after (Keeps.ite (silent_upWrite _ _) (Keeps.pure silent_frame _)) hnothing fun _ => ?_
  refine tells_after (Keeps.withTimeout ?_ _) hnothing fun _ => ?_
  · refine Keeps.bind silent_frame (keeps_ask silent_frame _) fun o => ?_
    cases o with
    | none => exact Keeps.pure silent_frame _
    | some f => exact Keeps.throw silent_frame _
  refine tells_after (keeps_emit rfl) hnothing fun _ => ?_
  exact tells_copy (u := .forwarded) rfl _ _

/-- An answer behind a report. -/
theorem tells_refusal (a : Answer) (text action : Str) : Tells (Eq (.answer a)) (.own [])
    (do reportFailure .incAuthFailures text; writeAllWithTimeout (Utf8.encode a.text) action)
    fun _ q => q.Says (.answer a) :=
  tells_after (silent_reportFailure _ _) (begins_nothing _) fun _ => tells_last a action

/-- The page is the one of this moment. -/
theorem tells_serveStatsPage (w : World) {early : Utterance → Prop} (hsilence : early .silence) :
    ObeysAt hearing World.trace w (.own []) serveStatsPage (Concludes early fun _ u =>
      u = .answer (.statsPage (w.env.renderHtml w.trace))) := by
  have hnothing : (Hearing.own []).Begins early := ⟨.silence, hsilence, List.nil_prefix⟩
  refine (tells_silent (keeps_ask silent_frame _) hnothing).bindAt (fun page w' _ hask hq => ?_)
    fun _ _ _ _ hq => concludes_early hq
  cases hask
  subst hq
  refine concludes_of_tells (u := .answer (.statsPage (w.env.renderHtml w.trace))) ?_ fun _ _ => rfl
  exact tells_after (keeps_emit rfl) (begins_nothing _) fun _ => tells_last (.statsPage _) _

/-- The check of a request, and what there is to say to its verdict. -/
theorem tells_allowed {check : Except (Abort Str) Bool} {k : Bool → M Unit} {w : World}
    {early : Utterance → Prop} {due : Trace → Utterance → Prop} (hsilence : early .silence)
    (hk : ∀ authorized, (if bypassAuth then .ok true else check) = .ok authorized →
      ObeysAt hearing World.trace w (.own []) (k authorized) (Concludes early due)) :
    ObeysAt hearing World.trace w (.own []) (allowed bypassAuth check >>= k) (Concludes early due) := by
  have hallowed : allowed bypassAuth check = liftAbort (if bypassAuth then .ok true else check) := by
    cases bypassAuth <;> rfl
  rw [hallowed]
  have hnothing : (Hearing.own []).Begins early := ⟨.silence, hsilence, List.nil_prefix⟩
  refine (tells_silent (keeps_liftAbort silent_frame _) hnothing).bindAt
    (fun authorized w' _ h hq => ?_) fun _ _ _ _ hq => concludes_early hq
  obtain ⟨hverdict, rfl⟩ := liftAbort_ok h
  exact hq ▸ hk authorized hverdict

theorem tells_serveRequest (auth : AuthConfig) (listener : HttpListener) (peer : SocketAddr)
    (req : HttpRequest) (w : World) {early : Utterance → Prop} (hsilence : early .silence) :
    ObeysAt hearing World.trace w (.own []) (serveRequest L bypassAuth auth statsEnabled listener peer req)
      (Concludes early fun _ u =>
        u = replyTo L bypassAuth auth statsEnabled listener req (w.env.renderHtml w.trace)) := by
  unfold serveRequest replyTo
  split
  · exact concludes_of_tells (tells_last .loopDetected _) fun _ _ => rfl
  split
  · refine tells_allowed hsilence fun authorized hverdict => ?_
    rw [hverdict]
    cases authorized with
    | true => exact tells_serveStatsPage w hsilence
    | false => exact concludes_of_tells (tells_refusal .statsAuthRequired _ _) fun _ _ => rfl
  · refine tells_allowed hsilence fun authorized hverdict => ?_
    rw [hverdict]
    cases authorized with
    | true =>
      simp only [if_true]
      split
      · exact concludes_of_tells (tells_handleConnect req peer) fun _ _ => rfl
      · exact concludes_of_tells (tells_handleForward req peer _) fun _ _ => rfl
    | false => exact concludes_of_tells (tells_refusal .proxyAuthRequired _ _) fun _ _ => rfl

theorem tells_handleHttpProxy (auth : AuthConfig) (listener : HttpListener) (peer : SocketAddr)
    (w : World) :
    ObeysAt hearing World.trace w (.own [])
      (handleHttpProxy L bypassAuth auth statsEnabled listener peer)
      (Concludes (Utterance.Early bypassAuth .http) fun _ u => ∃ req w',
        readHttpRequest L w = .ok req w' ∧
          u = replyTo L bypassAuth auth statsEnabled listener req (w.env.renderHtml w'.trace)) := by
  have hnothing : (Hearing.own []).Begins (Utterance.Early bypassAuth .http) :=
    ⟨.silence, trivial, List.nil_prefix⟩
  have hread : Keeps L4.Silent (readHttpRequest L) := emits_readHttpRequestGo (fun _ => rfl) L _ _
  refine (tells_silent hread hnothing).bindAt (fun req w' _ hreq hq => ?_) fun _ _ _ _ hq =>
    concludes_early hq
  have henv : w'.env = w.env := by
    have := (hread w).1
    rwa [hreq] at this
  subst hq
  refine (tells_serveRequest auth listener peer req w' trivial).mono fun _ _ => .mono fun _ u hu => ?_
  exact ⟨req, w', hreq, henv ▸ hu⟩

end
end Http

/-! ## Connections -/

theorem silent_classify : Keeps Silent classify := by
  refine Keeps.bind silent_frame (keeps_failing silent_frame _) fun _ => ?_
  refine Keeps.bind silent_frame (emits_readWithTimeout (fun _ => rfl) _ _) fun first => ?_
  cases first with
  | nil => exact Keeps.pure silent_frame _
  | cons byte rest =>
    have hreplay : Keeps Silent (replay (byte :: rest)) := fun _ => ⟨rfl, [], by simp [replay], by simp⟩
    refine Keeps.ite ?_ ?_
    · refine Keeps.bind silent_frame (keeps_emit rfl) fun _ => ?_
      exact Keeps.bind silent_frame hreplay fun _ => Keeps.pure silent_frame _
    · refine Keeps.bind silent_frame (keeps_emit rfl) fun _ => ?_
      exact Keeps.bind silent_frame hreplay fun _ => Keeps.pure silent_frame _

/-- A moment of a connection: its client has heard a beginning of `u`, or all of it and what
was copied for it since. -/
inductive Hears (u : Utterance) (t : Trace) : Prop where
  | said (h : clientReceived t <+: u.bytes)
  | relayed {up down : Bytes} {ok : Bool} (ho : u.opens = true) (hc : .copied up down ok ∈ t)
      (h : clientReceived t = u.bytes ++ down)

theorem hears_of_run {said : Utterance → Prop} {t rest : Trace} {q : Hearing}
    (h : hearing.Run (.own []) (t ++ rest) q) (hq : q.Begins said) : ∃ u, said u ∧ Hears u t := by
  obtain ⟨r, hfirst, hlast⟩ := h.split
  have hheard := heard_of_run hfirst
  rw [Hearing.heard, List.nil_append] at hheard
  cases r with
  | own b =>
    obtain ⟨u, hu, hb⟩ := begins_of_run hlast hq
    exact ⟨u, hu, .said (hheard ▸ hb)⟩
  | relayed b down =>
    obtain ⟨u, hu, ho, hb⟩ := begins_of_run hlast hq
    obtain ⟨up, ok, hc⟩ := (copied_of_run hfirst rfl).resolve_left nofun
    exact ⟨u, hu, .relayed ho hc (hheard.symm.trans (congrArg (· ++ down) hb))⟩

/-- Who was told all of it has heard all of it. -/
theorem heard_all {u : Utterance} {t : Trace} {q : Hearing} (h : hearing.Run (.own []) t q)
    (hq : q.Says u) : Hears u t ∧ u.bytes <+: clientReceived t := by
  have hheard := heard_of_run h
  rw [Hearing.heard, List.nil_append] at hheard
  cases q with
  | own b =>
    have hall : clientReceived t = u.bytes := hheard.symm.trans hq
    exact ⟨.said (hall ▸ List.prefix_refl _), hall ▸ List.prefix_refl _⟩
  | relayed b down =>
    obtain ⟨ho, hb⟩ := hq
    have hall : clientReceived t = u.bytes ++ down := hheard.symm.trans (congrArg (· ++ down) hb)
    obtain ⟨up, ok, hc⟩ := (copied_of_run h rfl).resolve_left nofun
    exact ⟨.relayed ho hc hall, hall ▸ List.prefix_append _ _⟩

section
variable (L : Libs) (auth : AuthConfig) (statsEnabled : Bool) (listener : HttpListener)
  (peer : SocketAddr) (env : Env) (inp : Bytes)

/-- All of a connection. -/
theorem tells_serveConnection : ObeysAt hearing World.trace (.accepted env inp) (.own [])
    (serveConnection L auth statsEnabled listener peer) fun r q =>
      (protocolOf inp = none → q = .own []) ∧ ∀ protocol, protocolOf inp = some protocol →
        Concludes (Utterance.Early (ipAuthenticate L auth.bypassIps peer.ip) protocol)
          (fun t u => Utterance.Due L auth statsEnabled listener peer env inp t u protocol) r q := by
  refine (obeys_silent silent_classify (.own [])).bindAt (fun found w _ hc hq => ?_)
    fun _ _ _ _ hq => ⟨fun _ => hq, fun protocol _ => ?_⟩
  · obtain ⟨hadvance, rfl⟩ := classify_ok rfl hc
    rw [World.accepted_unread] at hc ⊢
    have henv : w.env = env := hadvance.env
    subst hq
    cases hp : protocolOf inp with
    | none => exact ⟨[], .own [], (List.append_nil _).symm, .nil _, fun _ => rfl, nofun⟩
    | some protocol =>
      rw [hp] at hc
      cases protocol with
      | socks5 =>
        refine (tells_socks auth peer w).mono fun r q h => ⟨nofun, fun protocol hprotocol => ?_⟩
        cases hprotocol
        refine Concludes.mono (fun t u hu => ?_) h
        obtain ⟨cmd, w', hcmd, hl, pre, bound, hpre, ht, hbound, rfl⟩ := hu
        exact ⟨cmd, w', pre, bound, ⟨⟨w, hc, hcmd⟩, hl⟩, hpre, ht, henv ▸ hbound, rfl⟩
      | http =>
        refine (Http.tells_handleHttpProxy auth listener peer w).mono fun r q h =>
          ⟨nofun, fun protocol hprotocol => ?_⟩
        cases hprotocol
        refine Concludes.mono (fun t u hu => ?_) h
        obtain ⟨req, w', hreq, hu⟩ := hu
        exact ⟨req, w', ⟨w, hc, hreq⟩, henv ▸ hu⟩
  · subst hq
    exact concludes_early ⟨.silence, trivial, List.nil_prefix⟩

/-- What the client of a connection hears that comes to `r`. -/
structure ClientHears (r : EStateM.Result Stop World Unit) : Prop where
  nothing : protocolOf inp = none → clientReceived (finalState r).trace = []
  /-- at every moment -/
  always : ∀ {protocol t}, protocolOf inp = some protocol → t <+: (finalState r).trace →
    ∃ u, (Utterance.Due L auth statsEnabled listener peer env inp (finalState r).trace u protocol ∨
      u.Early (ipAuthenticate L auth.bypassIps peer.ip) protocol) ∧ Hears u t ∧ u.Understood
  /-- and if nothing failed, it hears all there is to say -/
  all : ∀ {protocol w}, protocolOf inp = some protocol → r = .ok () w →
    ∃ u, Utterance.Due L auth statsEnabled listener peer env inp w.trace u protocol ∧
      Hears u w.trace ∧ u.bytes <+: clientReceived w.trace

/-- **What a client hears.** Whatever it sends, whatever fails and at every moment: it has
heard a beginning of what there is to say to its command or its request, or of a refusal, or
all of it, if it opens a relay, and behind it just what was copied. If it reads as its
protocol says, it understands the utterance, whatever follows, and nothing less of it. And
where nothing fails it hears all there is to say. -/
theorem client_hears : ClientHears L auth statsEnabled listener peer env inp
    (serveConnection L auth statsEnabled listener peer (.accepted env inp)) := by
  obtain ⟨evs, q, ht, hrun, hnone, hsome⟩ :=
    tells_serveConnection L auth statsEnabled listener peer env inp
  have htrace : (finalState (serveConnection L auth statsEnabled listener peer
      (.accepted env inp))).trace = evs := ht
  refine ⟨fun hp => ?_, fun {protocol t} hp hpre => ?_, fun {protocol w} hp hr => ?_⟩
  · have hall := heard_of_run hrun
    rw [hnone hp] at hall
    rw [htrace]
    exact hall.symm
  · obtain ⟨rest, hrest⟩ := hpre
    rw [htrace] at hrest ⊢
    rw [← hrest] at hrun
    obtain ⟨u, hu, hears⟩ := hears_of_run hrun ((hsome protocol hp).begins)
    rw [htrace] at hu
    exact ⟨u, hu, hears, u.understood⟩
  · have hconcludes := hsome protocol hp
    rw [hr] at hconcludes htrace
    obtain ⟨u, hu, hq⟩ := hconcludes
    have hsplit : w.trace = evs := htrace
    obtain ⟨hears, hall⟩ := heard_all hrun hq
    exact ⟨u, hu, hsplit ▸ hears, hsplit ▸ hall⟩

end

/-- A client that does not log in. -/
theorem client_hears_challenged :
    let auth : AuthConfig := ⟨some "admin".toList, some "pw".toList, []⟩
    let listener : HttpListener := ⟨1080, "v".toList⟩
    let peer : SocketAddr := .new (.v4 ⟨[10, 0, 0, 1], rfl⟩) 5000
    let inp : Bytes := Utf8.encode "GET http://h/ HTTP/1.1\r\n\r\n"
    ∃ u w, serveConnection plainLibs auth true listener peer (.accepted (Env.calm [] []) inp) = .ok () w ∧
      clientReceived w.trace = Utf8.encode Http.Answer.proxyAuthRequired.text ∧
      Utterance.Due plainLibs auth true listener peer (Env.calm [] []) inp w.trace u .http ∧
      Hears u w.trace ∧ u.bytes <+: clientReceived w.trace := by
  intro auth listener peer inp
  have hr : ∃ w, serveConnection plainLibs auth true listener peer (.accepted (Env.calm [] []) inp) =
      .ok () w ∧ clientReceived w.trace = Utf8.encode Http.Answer.proxyAuthRequired.text :=
    ⟨_, rfl, by decide +kernel⟩
  obtain ⟨w, hr, ht⟩ := hr
  obtain ⟨u, hu, hears⟩ := (client_hears plainLibs auth true listener peer (Env.calm [] []) inp).all rfl hr
  exact ⟨u, w, hr, ht, hu, hears⟩

end TinySocks.L4
