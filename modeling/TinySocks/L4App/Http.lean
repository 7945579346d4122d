import TinySocks.L3Protocol.Auth
import TinySocks.L3Protocol.HttpRequest
import TinySocks.L4App.Tunnel

/-!
# The HTTP proxy (`http.rs`)

`handleHttpProxy` reads one request and answers it: a loop, the statistics
page, a missing authorization, a CONNECT tunnel, or a forwarded request.
Once it has read the request, what it does depends on the request only
(`serveRequest`).
-/
namespace TinySocks.L4.Http

open TinySocks.Core TinySocks.L1 TinySocks.L2 TinySocks.L3

section
variable (L : Libs)

/-- mirrors src/http.rs:246-249 -/
def statsAuthorized (req : HttpRequest) (auth : AuthConfig) : Except (Abort Str) Bool := do
  if ← httpBasicAuthorized L (getHeader req.headers "authorization") auth then pure true
  else httpBasicAuthorized L (getHeader req.headers "proxy-authorization") auth

def crlf (line : Str) : Str := line ++ "\r\n"

/-- mirrors src/http.rs:59-64 -/
def loopDetected : Str :=
  crlf "HTTP/1.1 508 Loop Detected" ++ crlf "Content-Length: 0" ++ crlf "Connection: close" ++ crlf []

/-- mirrors src/http.rs:252-264 -/
def sendStatsAuthRequired : M Unit :=
  writeAllWithTimeout (Utf8.encode (crlf "HTTP/1.1 401 Unauthorized" ++
    crlf "WWW-Authenticate: Basic realm=\"tinysocks stats\"" ++ crlf "Content-Length: 0" ++
    crlf "Connection: close" ++ crlf [])) "HTTP stats 401 response write"

/-- mirrors src/http.rs:267-280 -/
def serveStatsPage : M Unit := do
  let body ← ask Env.renderHtml
  emit .renderHtml
  let response := crlf "HTTP/1.1 200 OK" ++ crlf "Content-Type: text/html; charset=utf-8" ++
    crlf "Cache-Control: no-store" ++
    crlf ("Content-Length: " ++ decimal (Utf8.encode body).length) ++
    crlf "Connection: close" ++ crlf [] ++ body
  writeAllWithTimeout (Utf8.encode response) "HTTP stats page write"

/-- mirrors src/http.rs:283-295 -/
def sendProxyAuthRequired : M Unit :=
  writeAllWithTimeout (Utf8.encode (crlf "HTTP/1.1 407 Proxy Authentication Required" ++
    crlf "Proxy-Authenticate: Basic realm=\"proxy\"" ++ crlf "Content-Length: 0" ++
    crlf "Connection: close" ++ crlf [])) "HTTP 407 response write"

def connectionEstablished : Str := crlf "HTTP/1.1 200 Connection Established" ++ crlf []

/-- The copy loop and its statistics, the end of both kinds of relay.
mirrors src/http.rs:333-344,411-422 -/
def relay (kind target : Str) (peer : SocketAddr) : M Unit := do
  let (up, down) ← reported "HttpError::RelayFailed" .incRelayFailures
    ("HTTP " ++ kind ++ " relay " ++ target ++ " failed from " ++ peer.toStr ++ ": ") copyBidirectional
  stat (.addTcpBytes up down)

/-- What arrived behind the head of a CONNECT request.
mirrors src/http.rs:323-331 -/
def preWrite (bodyStart : Bytes) : M Unit :=
  if bodyStart ≠ [] then do
    upWriteAllWithTimeout bodyStart "HTTP CONNECT upstream pre-write"
    stat (.addTcpBytes bodyStart.length 0)
  else pure ()

/-- mirrors src/http.rs:298-345 -/
def handleConnect (req : HttpRequest) (peer : SocketAddr) : M Unit := do
  let (host, port) ← liftResult (parseConnectTarget L req.target)
  let target := formatTargetEndpoint host port
  reported "HttpError::ConnectFailed" .incConnectFailures
    ("HTTP CONNECT " ++ target ++ " failed from " ++ peer.toStr ++ ": ") <| tcpConnect target
  writeAllWithTimeout (Utf8.encode connectionEstablished) "HTTP CONNECT response write"
  preWrite req.bodyStart
  relay "CONNECT" target peer

/-- The head of a request as it is sent on: its first line and its header lines. -/
structure RequestHead where
  line : Str
  headers : Headers
  deriving DecidableEq, Repr

/-- mirrors src/http.rs:372,381-384,395 -/
def RequestHead.print (head : RequestHead) : Str := head.line ++ head.headers.flatMap headerLine ++ "\r\n"

/-- mirrors src/http.rs:372-395 -/
def forwardHead (req : HttpRequest) (host : Str) (port : UInt16) (path via : Str) : RequestHead where
  line := req.method ++ " " ++ path ++ " " ++ req.version ++ "\r\n"
  headers := forwardedHeaders req.headers (formatHostHeader host port 80) req.version via

/-- What arrived behind the head of a forwarded request.
mirrors src/http.rs:405-407 -/
def writeBody (bodyStart : Bytes) : M Unit :=
  if bodyStart ≠ [] then upWriteAllWithTimeout bodyStart "HTTP upstream body write" else pure ()

/-- mirrors src/http.rs:360-423 -/
def forwardTo (req : HttpRequest) (peer : SocketAddr) (via host : Str) (port : UInt16) (path : Str) :
    M Unit := do
  let target := formatTargetEndpoint host port
  reported "HttpError::ConnectFailed" .incConnectFailures
    ("HTTP forward connect " ++ target ++ " failed from " ++ peer.toStr ++ ": ") <| tcpConnect target
  let request := Utf8.encode (forwardHead req host port path via).print
  upWriteAllWithTimeout request "HTTP upstream request write"
  writeBody req.bodyStart
  upFlushWithTimeout "HTTP upstream flush"
  stat (.addTcpBytes (request.length + req.bodyStart.length) 0)
  relay "forward" target peer

/-- mirrors src/http.rs:348-423 -/
def handleForward (req : HttpRequest) (peer : SocketAddr) (via : Str) : M Unit := do
  let hostHeader := getHeader req.headers "host"
  let (host, port, path) ← liftResult (splitTarget L req.target hostHeader 80)
  forwardTo req peer via host port path

/-- Whether the client may go on: it is exempt, or passes the check. -/
def allowed (bypassAuth : Bool) (check : Except (Abort Str) Bool) : M Bool :=
  if bypassAuth then pure true else liftAbort check

/-- What follows the reading of the request.
mirrors src/http.rs:58-91 -/
def serveRequest (bypassAuth : Bool) (auth : AuthConfig) (statsEnabled : Bool)
    (listener : HttpListener) (peer : SocketAddr) (req : HttpRequest) : M Unit := do
  if hasProxyVia req.headers listener.via then
    writeAllWithTimeout (Utf8.encode loopDetected) "HTTP loop response write"
  else if statsEnabled && isStatsRequest L req listener.port then do
    let authorized ← allowed bypassAuth (statsAuthorized L req auth)
    if authorized then serveStatsPage
    else do
      reportFailure .incAuthFailures ("stats page authentication failed from " ++ peer.toStr)
      sendStatsAuthRequired
  else do
    let authorized ← allowed bypassAuth
      (httpBasicAuthorized L (getHeader req.headers "proxy-authorization") auth)
    if authorized then
      if eqIgnoreAsciiCase req.method "CONNECT" then handleConnect L req peer
      else handleForward L req peer listener.via
    else do
      reportFailure .incAuthFailures ("HTTP proxy authentication failed from " ++ peer.toStr)
      sendProxyAuthRequired

/-- mirrors src/http.rs:49-92 -/
def handleHttpProxy (bypassAuth : Bool) (auth : AuthConfig) (statsEnabled : Bool)
    (listener : HttpListener) (peer : SocketAddr) : M Unit := do
  let req ← readHttpRequest L
  serveRequest L bypassAuth auth statsEnabled listener peer req

end

/-! ## Frames -/

section
variable {L : Libs}

theorem keeps_allowed {R : World → World → Prop} (hR : Frame R) (bypassAuth : Bool)
    (check : Except (Abort Str) Bool) : Keeps R (allowed bypassAuth check) :=
  Keeps.ite (Keeps.pure hR _) (keeps_liftAbort hR _)

theorem keeps_serveStatsPage : Keeps Aside serveStatsPage := by
  refine Keeps.bind aside_frame (keeps_ask aside_frame _) fun body => ?_
  refine Keeps.bind aside_frame (keeps_emit rfl) fun _ => ?_
  exact keeps_aside_quiet (keeps_writeAllWithTimeout _ _)

theorem keeps_relay (kind target : Str) (peer : SocketAddr) : Keeps Extends (relay kind target peer) := by
  refine Keeps.bind extends_frame ?_ fun r => keeps_quiet (keeps_stat rfl)
  exact Keeps.reported extends_frame extends_of_quiet keeps_copyBidirectional rfl _ _

theorem keeps_preWrite (bodyStart : Bytes) : Keeps Extends (preWrite bodyStart) :=
  Keeps.ite (Keeps.bind extends_frame (keeps_upWriteAllWithTimeout _ _) fun _ =>
    keeps_quiet (keeps_stat rfl)) (Keeps.pure extends_frame _)

theorem keeps_writeBody (bodyStart : Bytes) : Keeps Extends (writeBody bodyStart) :=
  Keeps.ite (keeps_upWriteAllWithTimeout _ _) (Keeps.pure extends_frame _)

theorem keeps_handleConnect (req : HttpRequest) (peer : SocketAddr) :
    Keeps Extends (handleConnect L req peer) := by
  refine Keeps.bind extends_frame (keeps_liftResult extends_frame _) fun r => ?_
  refine Keeps.bind extends_frame (keeps_connect _ _ _) fun _ => ?_
  refine Keeps.bind extends_frame (keeps_quiet (keeps_writeAllWithTimeout _ _)) fun _ => ?_
  exact Keeps.bind extends_frame (keeps_preWrite _) fun _ => keeps_relay _ _ _

theorem keeps_forwardTo (req : HttpRequest) (peer : SocketAddr) (via host : Str) (port : UInt16)
    (path : Str) : Keeps Extends (forwardTo req peer via host port path) := by
  refine Keeps.bind extends_frame (keeps_connect _ _ _) fun _ => ?_
  refine Keeps.bind extends_frame (keeps_upWriteAllWithTimeout _ _) fun _ => ?_
  refine Keeps.bind extends_frame (keeps_writeBody _) fun _ => ?_
  refine Keeps.bind extends_frame (keeps_upFlushWithTimeout _) fun _ => ?_
  exact Keeps.bind extends_frame (keeps_quiet (keeps_stat rfl)) fun _ => keeps_relay _ _ _

theorem keeps_handleForward (req : HttpRequest) (peer : SocketAddr) (via : Str) :
    Keeps Extends (handleForward L req peer via) :=
  Keeps.bind extends_frame (keeps_liftResult extends_frame _) fun _ => keeps_forwardTo _ _ _ _ _ _

/-- The request is answered by the proxy itself. -/
theorem keeps_refusal (text : Str) {m : M Unit} (h : Keeps Quiet m) :
    Keeps Quiet (do reportFailure .incAuthFailures text; m) :=
  Keeps.bind quiet_frame (keeps_reportFailure rfl _) fun _ => h

theorem keeps_serveRequest (bypassAuth : Bool) (auth : AuthConfig) (statsEnabled : Bool)
    (listener : HttpListener) (peer : SocketAddr) (req : HttpRequest) :
    Keeps Extends (serveRequest L bypassAuth auth statsEnabled listener peer req) := by
  refine Keeps.ite (keeps_quiet (keeps_writeAllWithTimeout _ _)) (Keeps.ite ?_ ?_)
  · refine Keeps.bind extends_frame (keeps_allowed extends_frame _ _) fun authorized => ?_
    refine Keeps.ite (keeps_aside keeps_serveStatsPage) (keeps_quiet (keeps_refusal _ ?_))
    exact keeps_writeAllWithTimeout _ _
  · refine Keeps.bind extends_frame (keeps_allowed extends_frame _ _) fun authorized => ?_
    refine Keeps.ite (Keeps.ite (keeps_handleConnect _ _) (keeps_handleForward _ _ _))
      (keeps_quiet (keeps_refusal _ ?_))
    exact keeps_writeAllWithTimeout _ _

theorem keeps_handleHttpProxy (bypassAuth : Bool) (auth : AuthConfig) (statsEnabled : Bool)
    (listener : HttpListener) (peer : SocketAddr) :
    Keeps Extends (handleHttpProxy L bypassAuth auth statsEnabled listener peer) :=
  Keeps.bind extends_frame (keeps_quiet (keeps_readHttpRequest L)) fun req =>
    keeps_serveRequest _ _ _ _ _ req

/-- The check of a client does not touch the connection. -/
theorem allowed_cases (bypassAuth : Bool) (check : Except (Abort Str) Bool) (w : World) :
    (∃ b, allowed bypassAuth check w = .ok b w) ∨ ∃ e, allowed bypassAuth check w = .error e w := by
  cases bypassAuth with
  | true => exact .inl ⟨true, rfl⟩
  | false =>
    match check with
    | .ok b => exact .inl ⟨b, rfl⟩
    | .error (.fail message) => exact .inr ⟨_, rfl⟩
    | .error .panic => exact .inr ⟨_, rfl⟩

/-- A request is answered by the proxy itself, or, where it does not carry the
listener's `Via`, handed to a relay. -/
theorem serveRequest_cases (bypassAuth : Bool) (auth : AuthConfig) (statsEnabled : Bool)
    (listener : HttpListener) (peer : SocketAddr) (req : HttpRequest) (w : World) :
    Aside w (finalState (serveRequest L bypassAuth auth statsEnabled listener peer req w)) ∨
      hasProxyVia req.headers listener.via = false ∧
        serveRequest L bypassAuth auth statsEnabled listener peer req w =
          (if eqIgnoreAsciiCase req.method "CONNECT" then handleConnect L req peer
            else handleForward L req peer listener.via) w := by
  unfold serveRequest
  split
  · exact .inl (keeps_aside_quiet (keeps_writeAllWithTimeout _ _) w)
  rename_i hvia
  split
  · refine .inl (Keeps.bind aside_frame (keeps_allowed aside_frame _ _) (fun authorized => ?_) w)
    refine Keeps.ite keeps_serveStatsPage (keeps_aside_quiet (keeps_refusal _ ?_))
    exact keeps_writeAllWithTimeout _ _
  · rcases allowed_cases bypassAuth
      (httpBasicAuthorized L (getHeader req.headers "proxy-authorization") auth) w with
      ⟨b, hb⟩ | ⟨e, hb⟩
    · rw [bind_of_ok hb]
      cases b with
      | false => exact .inl (keeps_aside_quiet (keeps_refusal _ (keeps_writeAllWithTimeout _ _)) w)
      | true => exact .inr ⟨Bool.eq_false_iff.2 hvia, rfl⟩
    · refine .inl ?_
      rw [bind_apply, hb]
      exact aside_frame.refl w

end

end TinySocks.L4.Http
