import TinySocks.L4App.Handler
import TinySocks.L4App.Http

/-!
# Connection dispatch (`server.rs`)

The body of the task `ProxyServer::run` spawns for a connection: the first
byte chooses the protocol and is replayed, then the SOCKS5 front end or the
HTTP proxy takes over (`serveConnection`).

* `classify_cases`: whatever the first read does, nothing is consumed.
* `socks_front_end_exact`: the SOCKS5 front end dispatches exactly what its
  grammar (`SocksPrefix`) says, and has consumed exactly that.
-/
namespace TinySocks.L4

open TinySocks.Core TinySocks.L1 TinySocks.L2 TinySocks.L3

/-- mirrors src/server.rs:34-37 -/
inductive ProxyProtocol where
  | socks5
  | http
  deriving DecidableEq, Repr

/-- `PrefixedStream::new(stream, first[..read].to_vec())` -/
def replay (first : Bytes) : M Unit := fun w => .ok () { w with stream := .new w.stream.stream first }

/-- mirrors src/server.rs:126-133 -/
def dispatchOn (first : Bytes) : M (Option ProxyProtocol) :=
  match first with
  | [] => pure none
  | byte :: _ =>
    if byte = SOCKS_VERSION then do
      stat .incSocks5Connections
      replay first
      pure (some .socks5)
    else do
      stat .incHttpConnections
      replay first
      pure (some .http)

/-- mirrors src/server.rs:113-133 -/
def classify : M (Option ProxyProtocol) := do
  failing Env.setNodelay
  let first ← readWithTimeout 1 "initial protocol read"
  dispatchOn first

/-- mirrors src/server.rs:137-141 -/
def methodFor (bypassAuth : Bool) : AuthMethod := if bypassAuth then .noAuth else .usernamePassword

/-- mirrors src/server.rs:143-151 -/
def negotiate (bypassAuth : Bool) (peer : SocketAddr) : M Unit :=
  inspectErr (handshake (methodFor bypassAuth)) fun err =>
    if bypassAuth then pure ()
    else reportFailure .incAuthFailures
      ("SOCKS authentication negotiation failed from " ++ peer.toStr ++ ": " ++ err)

/-- mirrors src/server.rs:174-187 -/
def runCommand (cmd : Command) (peer : SocketAddr) : M Unit :=
  match cmd with
  | .connect addr => Handler.handleConnect addr peer
  | .udpAssociate _ => do
    let localAddr ← liftResult (← ask Env.localAddr)
    Handler.handleUdpAssociate peer localAddr.ip

section
variable (L : Libs)

/-- mirrors src/server.rs:153-161 -/
def login (bypassAuth : Bool) (auth : AuthConfig) (peer : SocketAddr) : M Unit :=
  if bypassAuth then pure ()
  else inspectErr (basicAuthenticate L auth) fun err =>
    reportFailure .incAuthFailures ("SOCKS authentication failed from " ++ peer.toStr ++ ": " ++ err)

/-- mirrors src/server.rs:143-162 -/
def socksCommand (bypassAuth : Bool) (auth : AuthConfig) (peer : SocketAddr) : M Command := do
  negotiate bypassAuth peer
  login L bypassAuth auth peer
  let req ← readRequest
  pure req.cmd

/-- mirrors src/server.rs:110-204 -/
def serveConnection (auth : AuthConfig) (statsEnabled : Bool) (listener : HttpListener)
    (peer : SocketAddr) : M Unit := do
  let bypassAuth := ipAuthenticate L auth.bypassIps peer.ip
  match ← classify with
  | none => pure ()
  | some .socks5 => do
    let cmd ← socksCommand L bypassAuth auth peer
    runCommand cmd peer
  | some .http => Http.handleHttpProxy L bypassAuth auth statsEnabled listener peer

end

/-! ## The first byte -/

/-- The protocol of what a client sends. -/
def protocolOf : Bytes → Option ProxyProtocol
  | [] => none
  | byte :: _ => if byte = SOCKS_VERSION then some .socks5 else some .http

/-- Bytes that were read and are replayed are not consumed. -/
theorem advance_replay {first : Bytes} {w w' : World} (h : Advance first [] w w')
    (hp : w'.stream.pending = []) :
    Advance [] [] w { w' with stream := .new w'.stream.stream first } := by
  obtain ⟨he, hr, evs, ht, hev, hw, hpend, hs⟩ := h
  refine ⟨he, hr, evs, ht, hev, hw, ?_, hs⟩
  rw [hpend, hp, List.append_nil]
  rfl

theorem dispatchOn_spec {first : Bytes} {w w' : World} (h : Advance first [] w w')
    (hp : w'.stream.pending = []) : ∃ w'', dispatchOn first w' = .ok (protocolOf first) w'' ∧
      Advance [] [] w w'' := by
  cases first with
  | nil => exact ⟨w', rfl, h⟩
  | cons byte rest =>
    have hst : ∀ op, Advance (byte :: rest) [] w { w' with trace := w'.trace ++ [.stat op] } := by
      intro op
      simpa using h.trans (advance_stat op w')
    unfold dispatchOn protocolOf
    simp only
    split
    · exact ⟨_, rfl, advance_replay (hst .incSocks5Connections) hp⟩
    · exact ⟨_, rfl, advance_replay (hst .incHttpConnections) hp⟩

/-- The dispatch ends before its read, in it, or is what it makes of the first byte. -/
theorem classify_steps (w : World) :
    (∃ e, classify w = .error e w) ∨
    (∃ e w', readWithTimeout 1 "initial protocol read" w = .error e w' ∧ classify w = .error e w') ∨
    ∃ first w', readWithTimeout 1 "initial protocol read" w = .ok first w' ∧
      classify w = dispatchOn first w' := by
  unfold classify
  cases hn : w.env.setNodelay w.trace with
  | some message => exact .inl ⟨_, bind_eq_error.2 (.inl (failing_error hn))⟩
  | none =>
    rw [bind_of_ok (failing_eq hn)]
    cases hr : readWithTimeout 1 "initial protocol read" w with
    | error e w' => exact .inr (.inl ⟨e, w', rfl, bind_eq_error.2 (.inl hr)⟩)
    | ok first w' => exact .inr (.inr ⟨first, w', rfl, bind_of_ok hr⟩)

/-- Whatever the first read does, nothing is consumed, and the protocol is the
one of what the client sends. -/
theorem classify_cases {w : World} (hp : w.stream.pending = []) :
    (∃ w', classify w = .ok (protocolOf w.stream.unread) w' ∧ Advance [] [] w w') ∨
      (∃ e w', classify w = .error e w' ∧ Quiet w w') := by
  rcases classify_steps w with ⟨e, hc⟩ | ⟨e, w', hr, hc⟩ | ⟨first, w₁, hr, hc⟩
  · exact .inr ⟨e, w, hc, quiet_frame.refl w⟩
  · have hq := keeps_readWithTimeout 1 "initial protocol read" w
    rw [hr] at hq
    exact .inr ⟨e, w', hc, hq⟩
  · obtain ⟨ha, hl, hnil⟩ := readWithTimeout_ok hr
    obtain ⟨w₂, hd, ha₂⟩ := dispatchOn_spec ha (read_pending (withTimeout_ok.1 hr) hp)
    have hof : protocolOf w.stream.unread = protocolOf first := by
      match first, hl with
      | [], _ => rw [hnil rfl Nat.one_pos]
      | [b], _ => rw [ha.unread]; rfl
    exact .inl ⟨w₂, by rw [hc, hd, hof], ha₂⟩

theorem classify_ok {w w' : World} {r : Option ProxyProtocol} (hp : w.stream.pending = [])
    (h : classify w = .ok r w') : Advance [] [] w w' ∧ r = protocolOf w.stream.unread := by
  rcases classify_cases hp with ⟨w₁, hc, ha⟩ | ⟨e, w₁, hc, -⟩
  · rw [hc] at h
    cases h
    exact ⟨ha, rfl⟩
  · rw [hc] at h
    cases h

theorem classify_total {w : World} (he : w.env.ClientReliable) (hp : w.stream.pending = []) :
    ∃ w', classify w = .ok (protocolOf w.stream.unread) w' ∧ Advance [] [] w w' := by
  rcases classify_cases hp with h | ⟨e, w', h, -⟩
  · exact h
  · unfold classify at h
    rw [bind_of_ok (failing_eq (he.setNodelay _))] at h
    obtain ⟨first, w₁, hr⟩ := readWithTimeout_total 1 "initial protocol read" he
    obtain ⟨w₂, hd, -⟩ := dispatchOn_spec (readWithTimeout_ok hr).1
      (read_pending (withTimeout_ok.1 hr) hp)
    rw [bind_of_ok hr, hd] at h
    cases h

/-! ## The SOCKS5 front end -/

/-- What a client sends ahead of the tunnel: a greeting, a login unless it is
exempt, and the request. -/
def SocksPrefix (bypassAuth : Bool) (auth : AuthConfig) (cmd : Command) (wire : Bytes) : Prop :=
  ∃ greeting loginMessage request, Greeting (methodFor bypassAuth) greeting ∧
    (if bypassAuth then loginMessage = [] else LoginMessage auth loginMessage) ∧
    RequestMessage cmd request ∧ wire = greeting ++ loginMessage ++ request

def loginReply (bypassAuth : Bool) : Bytes := if bypassAuth then [] else [0x01, 0x00]

/-- What it was answered by then. -/
def socksReply (bypassAuth : Bool) : Bytes :=
  [SOCKS_VERSION, (methodFor bypassAuth).asByte] ++ loginReply bypassAuth

section
variable {L : Libs} {auth : AuthConfig} {bypassAuth : Bool} {peer : SocketAddr} {cmd : Command}

theorem login_ok (hct : L.CtEqExact) {w w' : World} (h : login L bypassAuth auth peer w = .ok () w') :
    ∃ c, Advance c (loginReply bypassAuth) w w' ∧
      if bypassAuth then c = [] else LoginMessage auth c := by
  cases bypassAuth with
  | true =>
    cases h
    exact ⟨[], .refl w, rfl⟩
  | false => exact basicAuthenticate_ok hct (inspectErr_ok.1 h)

theorem reads_login (hct : L.CtEqExact) {c : Bytes}
    (h : if bypassAuth then c = [] else LoginMessage auth c) :
    Reads (login L bypassAuth auth peer) c (loginReply bypassAuth) () := by
  cases bypassAuth with
  | true =>
    cases h
    exact Reads.pure ()
  | false => exact (reads_basicAuthenticate hct h).inspectErr _

/-- What the front end accepted was its grammar, and nothing behind it. -/
theorem socksCommand_ok (hct : L.CtEqExact) {w w' : World}
    (h : socksCommand L bypassAuth auth peer w = .ok cmd w') :
    ∃ wire, Advance wire (socksReply bypassAuth) w w' ∧ SocksPrefix bypassAuth auth cmd wire := by
  obtain ⟨_, w₁, h₁, h⟩ := bind_eq_ok.1 h
  obtain ⟨_, w₂, h₂, h⟩ := bind_eq_ok.1 h
  obtain ⟨req, w₃, h₃, h⟩ := bind_eq_ok.1 h
  cases h
  obtain ⟨g, ha₁, hg⟩ := handshake_ok (inspectErr_ok.1 h₁)
  obtain ⟨l, ha₂, hl⟩ := login_ok hct h₂
  obtain ⟨r, ha₃, hr⟩ := readRequest_ok h₃
  refine ⟨_, ?_, g, l, r, hg, hl, hr, rfl⟩
  simpa [socksReply] using (ha₁.trans ha₂).trans ha₃

theorem reads_socksCommand (hct : L.CtEqExact) {wire : Bytes}
    (h : SocksPrefix bypassAuth auth cmd wire) :
    Reads (socksCommand L bypassAuth auth peer) wire (socksReply bypassAuth) cmd := by
  obtain ⟨g, l, r, hg, hl, hr, rfl⟩ := h
  have hreq : Reads (readRequest >>= fun req => pure req.cmd) r [] cmd :=
    (reads_readRequest hr).seq (Reads.pure cmd) (List.append_nil r) rfl
  have hlog : Reads (do
      login L bypassAuth auth peer
      let req ← readRequest
      pure req.cmd) (l ++ r) (loginReply bypassAuth) cmd :=
    (reads_login hct hl).seq hreq rfl (List.append_nil _)
  exact ((reads_handshake hg).inspectErr _).seq hlog (List.append_assoc g l r).symm rfl

theorem keeps_negotiate (bypassAuth : Bool) (peer : SocketAddr) :
    Keeps Quiet (negotiate bypassAuth peer) :=
  Keeps.inspectErr quiet_frame (keeps_handshake _) fun _ =>
    Keeps.ite (Keeps.pure quiet_frame _) (keeps_reportFailure rfl _)

theorem keeps_login (L : Libs) (bypassAuth : Bool) (auth : AuthConfig) (peer : SocketAddr) :
    Keeps Quiet (login L bypassAuth auth peer) :=
  Keeps.ite (Keeps.pure quiet_frame _)
    (Keeps.inspectErr quiet_frame (keeps_basicAuthenticate L auth) fun _ => keeps_reportFailure rfl _)

theorem keeps_socksCommand (L : Libs) (bypassAuth : Bool) (auth : AuthConfig) (peer : SocketAddr) :
    Keeps Quiet (socksCommand L bypassAuth auth peer) := by
  refine Keeps.bind quiet_frame (keeps_negotiate _ _) fun _ => ?_
  refine Keeps.bind quiet_frame (keeps_login _ _ _ _) fun _ => ?_
  exact Keeps.bind quiet_frame keeps_readRequest fun _ => Keeps.pure quiet_frame _

end

theorem SocksPrefix.protocol {auth : AuthConfig} {bypassAuth : Bool} {cmd : Command} {wire rest : Bytes}
    (h : SocksPrefix bypassAuth auth cmd wire) : protocolOf (wire ++ rest) = some .socks5 := by
  obtain ⟨g, l, r, ⟨cm, methods, -, -, rfl⟩, -, -, rfl⟩ := h
  rfl

/-- A connection comes to the handler of `cmd`, in the state `w'`. -/
structure Dispatches (L : Libs) (bypassAuth : Bool) (auth : AuthConfig) (peer : SocketAddr)
    (w : World) (cmd : Command) (w' : World) : Prop where
  front : ∃ w₁, classify w = .ok (some .socks5) w₁ ∧ socksCommand L bypassAuth auth peer w₁ = .ok cmd w'
  /-- only UDP ASSOCIATE asks for it -/
  localAddr : ∀ addr, cmd = .udpAssociate addr → ∃ a, w'.env.localAddr w'.trace = .ok a

/-- The connection is the handler of this command, from `w'` on. -/
def HandledBy (peer : SocketAddr) (w' : World) (r : EStateM.Result Stop World Unit) : Command → Prop
  | .connect addr => r = Handler.handleConnect addr peer w'
  | .udpAssociate _ => ∃ a, w'.env.localAddr w'.trace = .ok a ∧ r = Handler.handleUdpAssociate peer a.ip w'

theorem Dispatches.serveConnection {L : Libs} {auth : AuthConfig} {statsEnabled : Bool}
    {listener : HttpListener} {peer : SocketAddr} {w w' : World} {cmd : Command}
    (h : Dispatches L (ipAuthenticate L auth.bypassIps peer.ip) auth peer w cmd w') :
    HandledBy peer w' (serveConnection L auth statsEnabled listener peer w) cmd := by
  obtain ⟨⟨w₁, hc, hs⟩, hl⟩ := h
  have hrun : TinySocks.L4.serveConnection L auth statsEnabled listener peer w =
      runCommand cmd peer w' := by
    unfold TinySocks.L4.serveConnection
    rw [bind_of_ok hc]
    exact bind_of_ok hs
  cases cmd with
  | connect addr => exact hrun
  | udpAssociate addr =>
    obtain ⟨a, ha⟩ := hl addr rfl
    refine ⟨a, ha, hrun.trans ?_⟩
    show (ask Env.localAddr >>= fun r => liftResult r >>= fun a =>
      Handler.handleUdpAssociate peer a.ip : M Unit) w' = _
    rw [bind_apply, ask_apply, ha]
    rfl

/-- What comes to a handler was accepted by the grammar; all of it was read, and no more. -/
theorem Dispatches.sound {L : Libs} (hct : L.CtEqExact) {auth : AuthConfig} {bypassAuth : Bool}
    {peer : SocketAddr} {env : Env} {inp : Bytes} {cmd : Command} {w' : World}
    (h : Dispatches L bypassAuth auth peer (.accepted env inp) cmd w') :
    ∃ wire, inp = wire ++ w'.stream.unread ∧ SocksPrefix bypassAuth auth cmd wire ∧
      written w'.trace = socksReply bypassAuth := by
  obtain ⟨w₁, hc, hs⟩ := h.front
  obtain ⟨hcl, -⟩ := classify_ok rfl hc
  obtain ⟨wire, ha, hp⟩ := socksCommand_ok hct hs
  have hall := hcl.trans ha
  exact ⟨wire, hall.unread, hp, hall.written⟩

/-- What the grammar accepts comes to its handler, with the rest still unread. -/
theorem SocksPrefix.dispatches {L : Libs} (hct : L.CtEqExact) {auth : AuthConfig} {bypassAuth : Bool}
    {peer : SocketAddr} {env : Env} (he : env.ClientReliable) {cmd : Command} {wire : Bytes}
    (hp : SocksPrefix bypassAuth auth cmd wire) (rest : Bytes) :
    ∃ w', w'.stream.unread = rest ∧
      Dispatches L bypassAuth auth peer (.accepted env (wire ++ rest)) cmd w' := by
  obtain ⟨w₁, hc, ha⟩ := classify_total (w := .accepted env (wire ++ rest)) he rfl
  obtain ⟨w', hs, ha'⟩ := reads_socksCommand hct hp w₁ rest (ha.env ▸ he) ha.unread.symm
  have hu : wire ++ rest = wire ++ w'.stream.unread := (ha.trans ha').unread
  refine ⟨w', (List.append_cancel_left hu).symm, ⟨w₁, ?_, hs⟩,
    fun _ _ => (ha'.env.trans ha.env).symm ▸ he.localAddr _⟩
  rw [hc, World.accepted_unread, hp.protocol]

/-- **The SOCKS5 front end accepts exactly its grammar and never over-reads**, and the
rest of the connection is then the handler of the command it read. -/
theorem socks_front_end_exact {L : Libs} (hct : L.CtEqExact) (auth : AuthConfig) (bypassAuth : Bool)
    (peer : SocketAddr) (env : Env) (inp : Bytes) (cmd : Command) :
    (env.ClientReliable → ((∃ w', Dispatches L bypassAuth auth peer (.accepted env inp) cmd w') ↔
      ∃ wire rest, inp = wire ++ rest ∧ SocksPrefix bypassAuth auth cmd wire)) ∧
    ∀ w', Dispatches L bypassAuth auth peer (.accepted env inp) cmd w' →
      (∃ wire rest, inp = wire ++ rest ∧ SocksPrefix bypassAuth auth cmd wire ∧
        w'.stream.unread = rest ∧ written w'.trace = socksReply bypassAuth) ∧
      (bypassAuth = ipAuthenticate L auth.bypassIps peer.ip → ∀ statsEnabled listener,
        HandledBy peer w' (serveConnection L auth statsEnabled listener peer (.accepted env inp)) cmd) := by
  refine ⟨fun he => ⟨?_, ?_⟩, fun w' hd => ⟨?_, ?_⟩⟩
  · intro h
    obtain ⟨w', hd⟩ := h
    obtain ⟨wire, hinp, hp, -⟩ := hd.sound hct
    exact ⟨wire, _, hinp, hp⟩
  · intro h
    obtain ⟨wire, rest, rfl, hp⟩ := h
    obtain ⟨w', -, hd⟩ := hp.dispatches hct he rest
    exact ⟨w', hd⟩
  · obtain ⟨wire, hinp, hp, hwritten⟩ := hd.sound hct
    exact ⟨wire, w'.stream.unread, hinp, hp, rfl, hwritten⟩
  · intro heq statsEnabled listener
    subst heq
    exact hd.serveConnection

theorem socks_front_end_exact_admin :
    let auth : AuthConfig :=
      { username := some "admin".toList, password := some "pw".toList, bypassIps := [] }
    let peer : SocketAddr := .new (.v4 ⟨[10, 0, 0, 1], rfl⟩) 5000
    let listener : HttpListener := .new (fun _ => 0) 1080
    let w : World := .accepted (Env.calm [] []) [5, 1, 2, 1, 5, 97, 100, 109, 105, 110, 2, 112, 119,
      5, 1, 0, 1, 10, 0, 0, 7, 0, 80, 71, 69, 84]
    let addr : Address := .v4 ⟨[10, 0, 0, 7], rfl⟩ 80
    ∃ w', Dispatches plainLibs false auth peer w (.connect addr) w' ∧
      serveConnection plainLibs auth true listener peer w = Handler.handleConnect addr peer w' := by
  intro auth peer listener w addr
  have hlogin : SocksPrefix false auth (.connect addr)
      [5, 1, 2, 1, 5, 97, 100, 109, 105, 110, 2, 112, 119, 5, 1, 0, 1, 10, 0, 0, 7, 0, 80] := by
    refine ⟨[5, 1, 2], [1, 5, 97, 100, 109, 105, 110, 2, 112, 119], [5, 1, 0, 1, 10, 0, 0, 7, 0, 80],
      ?_, ?_, ⟨trivial, rfl⟩, rfl⟩
    · exact ⟨[1, 2], [2], ⟨1, rfl, rfl⟩, List.mem_singleton.2 rfl, rfl⟩
    · exact ⟨[5, 97, 100, 109, 105, 110], [97, 100, 109, 105, 110], [2, 112, 119], [112, 119],
        ⟨5, rfl, rfl⟩, ⟨2, rfl, rfl⟩, rfl, rfl, rfl⟩
  obtain ⟨hexact, hhandled⟩ := socks_front_end_exact plainLibs_ctEqExact auth false peer
    (Env.calm [] []) _ (.connect addr)
  obtain ⟨w', hd⟩ := (hexact (calm_clientReliable _ _)).2 ⟨_, [71, 69, 84], rfl, hlogin⟩
  exact ⟨w', hd, (hhandled w' hd).2 rfl true listener⟩

end TinySocks.L4
