import TinySocks.L3Protocol.Login
import TinySocks.L4App.Gate

/-!
# Clients the allowlist exempts

Behaviour (server.rs:135-161): an exempt SOCKS5 client is asked for the method
"no authentication", any other one for username/password, and a client that
does not offer the method asked for is turned away. On HTTP an exempt client is
not asked for anything, and served whatever it presents.

Spec: being exempt does not make a session fail that valid credentials would
have made succeed. The README has clients configured with a user name and a
password; `--bypass-ip` exempts them from authentication.

* `exempt_served_iff`: a SOCKS5 client that is served with its credentials is
  served when exempt exactly if it offers "no authentication" as well. Every HTTP
  run that serves its client is the same run when the client is exempt.
* `exempt_client_turned_away`: a client that offers username/password only.
-/
namespace TinySocks.L4

open TinySocks.Core TinySocks.L1 TinySocks.L2 TinySocks.L3

/-! ## Clients -/

/-- A SOCKS5 client: the methods it offers, its message in case it is to log in,
and what it sends once it is let in. -/
structure SocksClient where
  methods : Bytes
  loginMessage : Bytes
  request : Bytes
  fits : methods.length ≤ 255
  /-- of the form of the exchange: a version and two length-prefixed fields -/
  framed : ∃ ver cu u cp p, IsField cu u ∧ IsField cp p ∧ loginMessage = ver :: (cu ++ cp)

def SocksClient.greeting (c : SocksClient) : Bytes :=
  SOCKS_VERSION :: UInt8.ofNat c.methods.length :: c.methods

/-- What the client sends to a server that selects `method`: "no
authentication" leaves nothing to answer. -/
def SocksClient.sends (c : SocksClient) (method : AuthMethod) : Bytes :=
  c.greeting ++ (match method with
    | .noAuth => []
    | .usernamePassword => c.loginMessage) ++ c.request

/-- The client comes to the handler of `cmd`, with `rest` behind its request. -/
def ServesSocks (L : Libs) (auth : AuthConfig) (peer : SocketAddr) (env : Env) (c : SocksClient)
    (cmd : Command) (rest : Bytes) : Prop :=
  ∃ w', w'.stream.unread = rest ∧
    Dispatches L (ipAuthenticate L auth.bypassIps peer.ip) auth peer
      (.accepted env (c.sends (methodFor (ipAuthenticate L auth.bypassIps peer.ip)))) cmd w'

/-- The run got the client a service. -/
def Serving (r : EStateM.Result Stop World Unit) : Prop := ∃ e ∈ (finalState r).trace, isService e = true

/-- The same users, and these networks exempt. -/
def exempting (auth : AuthConfig) (nets : List IpNet) : AuthConfig := { auth with bypassIps := nets }

/-! ## SOCKS5 -/

theorem greeting_iff {c : SocksClient} {method : AuthMethod} :
    Greeting method c.greeting ↔ method.asByte ∈ c.methods := by
  have hf := isField_of_length c.fits
  constructor
  · intro hx
    obtain ⟨cm, methods, hm, hmem, he⟩ := hx
    have he' := (List.cons.inj he).2
    rw [← List.append_nil (_ :: c.methods), ← List.append_nil cm] at he'
    rw [(hf.append_inj hm he').1]
    exact hmem
  · exact fun h => ⟨_, _, hf, h, rfl⟩

/-- The greeting a server accepts is the client's. -/
theorem greeting_unique {c : SocksClient} {method : AuthMethod} {g r r' : Bytes} (h : Greeting method g)
    (he : g ++ r = c.greeting ++ r') : method.asByte ∈ c.methods ∧ r = r' := by
  obtain ⟨cm, methods, hm, hmem, rfl⟩ := h
  obtain ⟨rfl, hr⟩ := hm.append_inj (isField_of_length c.fits) (List.cons.inj he).2
  exact ⟨hmem, hr⟩

/-- So is the login message. -/
theorem login_unique {auth : AuthConfig} {c : SocksClient} {l r r' : Bytes} (h : LoginMessage auth l)
    (he : l ++ r = c.loginMessage ++ r') : LoginMessage auth c.loginMessage ∧ r = r' := by
  obtain ⟨ver, cu', u', cp', p', hu', hp', hl⟩ := c.framed
  obtain ⟨cu, u, cp, p, hu, hp, rfl, hname, hpass⟩ := h
  rw [hl, List.cons_append, List.cons_append, List.append_assoc, List.append_assoc] at he
  obtain ⟨rfl, he₁⟩ := List.cons.inj he
  obtain ⟨rfl, he₂⟩ := hu.append_inj hu' he₁
  obtain ⟨rfl, rfl⟩ := hp.append_inj hp' he₂
  exact ⟨⟨cu', u, cp', p, hu', hp', hl, hname, hpass⟩, rfl⟩

section
variable {L : Libs} {auth : AuthConfig} {peer : SocketAddr} {env : Env} {cmd : Command} {rest : Bytes}

/-- What the front end accepts is its grammar. -/
theorem dispatches_iff (hct : L.CtEqExact) (bypassAuth : Bool) (he : env.ClientReliable) (inp : Bytes) :
    (∃ w', w'.stream.unread = rest ∧ Dispatches L bypassAuth auth peer (.accepted env inp) cmd w') ↔
      ∃ wire, inp = wire ++ rest ∧ SocksPrefix bypassAuth auth cmd wire := by
  constructor
  · intro h
    obtain ⟨w', rfl, hd⟩ := h
    obtain ⟨wire, hinp, hp, -⟩ := hd.sound hct
    exact ⟨wire, hinp, hp⟩
  · intro h
    obtain ⟨wire, rfl, hp⟩ := h
    exact hp.dispatches hct he rest

/-- A client that has to log in is served if it offers to, does, and asks for `cmd`. -/
theorem serves_login_iff (hct : L.CtEqExact) (hout : ipAuthenticate L auth.bypassIps peer.ip = false)
    (he : env.ClientReliable) (c : SocksClient) : ServesSocks L auth peer env c cmd rest ↔
      SOCKS_AUTH_USER ∈ c.methods ∧ LoginMessage auth c.loginMessage ∧
        ∃ request, RequestMessage cmd request ∧ c.request = request ++ rest := by
  unfold ServesSocks
  rw [hout, dispatches_iff hct false he]
  constructor
  · intro h
    obtain ⟨wire, hw, g, l, r, hg, hl, hr, rfl⟩ := h
    simp only [SocksClient.sends, List.append_assoc] at hw
    obtain ⟨hmem, hw⟩ := greeting_unique hg hw.symm
    obtain ⟨hlog, hw⟩ := login_unique hl hw
    exact ⟨hmem, hlog, r, hr, hw.symm⟩
  · intro h
    obtain ⟨hmem, hl, r, hr, hreq⟩ := h
    refine ⟨c.greeting ++ c.loginMessage ++ r, ?_, c.greeting, c.loginMessage, r, ?_, hl, hr, rfl⟩
    · rw [List.append_assoc _ r, ← hreq]
      rfl
    · exact greeting_iff.2 hmem

/-- An exempt client is served if it offers "no authentication" and asks for `cmd`. -/
theorem serves_exempt_iff (hct : L.CtEqExact) (hin : ipAuthenticate L auth.bypassIps peer.ip = true)
    (he : env.ClientReliable) (c : SocksClient) : ServesSocks L auth peer env c cmd rest ↔
      SOCKS_NO_AUTH ∈ c.methods ∧ ∃ request, RequestMessage cmd request ∧ c.request = request ++ rest := by
  unfold ServesSocks
  rw [hin, dispatches_iff hct true he]
  constructor
  · intro h
    obtain ⟨wire, hw, g, l, r, hg, hl, hr, rfl⟩ := h
    obtain rfl : l = [] := hl
    simp only [SocksClient.sends, List.append_assoc, List.nil_append] at hw
    obtain ⟨hmem, hw⟩ := greeting_unique hg hw.symm
    exact ⟨hmem, r, hr, hw.symm⟩
  · intro h
    obtain ⟨hmem, r, hr, hreq⟩ := h
    refine ⟨c.greeting ++ [] ++ r, ?_, c.greeting, [], r, ?_, rfl, hr, rfl⟩
    · rw [List.append_assoc _ r, ← hreq]
      rfl
    · exact greeting_iff.2 hmem

end

/-! ## HTTP -/

section
variable {L : Libs} {auth : AuthConfig} {nets : List IpNet} {peer : SocketAddr} {statsEnabled : Bool}
  {listener : HttpListener}

/-- A client that passes the check goes on like one that need not; another is
turned away, or the run is over. -/
theorem allowed_exempt {check check' : Except (Abort Str) Bool} {k : Bool → M Unit} {w : World}
    (hk : Keeps Quiet (k false)) :
    (Http.allowed true check' >>= k) w = (Http.allowed false check >>= k) w ∨
      Quiet w (finalState ((Http.allowed false check >>= k) w)) := by
  match check with
  | .ok true => exact .inl rfl
  | .ok false => exact .inr (hk w)
  | .error (.fail message) => exact .inr (quiet_frame.refl w)
  | .error .panic => exact .inr (quiet_frame.refl w)

theorem serveRequest_exempt (nets : List IpNet) (req : HttpRequest) (w : World) :
    Http.serveRequest L true (exempting auth nets) statsEnabled listener peer req w =
        Http.serveRequest L false auth statsEnabled listener peer req w ∨
      Quiet w (finalState (Http.serveRequest L false auth statsEnabled listener peer req w)) := by
  unfold Http.serveRequest
  split
  · exact .inl rfl
  split
  · exact allowed_exempt (Http.keeps_refusal _ (keeps_writeAllWithTimeout _ _))
  · exact allowed_exempt (Http.keeps_refusal _ (keeps_writeAllWithTimeout _ _))

theorem not_serving_of_advance {env : Env} {inp c out : Bytes} {r : EStateM.Result Stop World Unit}
    (h : Advance c out (.accepted env inp) (finalState r)) : ¬ Serving r := by
  obtain ⟨-, -, evs, ht, hev, -⟩ := h
  intro hx
  obtain ⟨e, he, hs⟩ := hx
  have htrace : (finalState r).trace = evs := ht
  rw [htrace] at he
  rw [isProtocol_not_service (hev e he)] at hs
  cases hs

/-- An HTTP run that serves its client is the same run when the client is exempt. -/
theorem http_exempt (hout : ipAuthenticate L auth.bypassIps peer.ip = false)
    (hin : ipAuthenticate L nets peer.ip = true) {env : Env} {inp : Bytes}
    (hp : protocolOf inp = some .http)
    (hs : Serving (serveConnection L auth statsEnabled listener peer (.accepted env inp))) :
    serveConnection L (exempting auth nets) statsEnabled listener peer (.accepted env inp) =
      serveConnection L auth statsEnabled listener peer (.accepted env inp) := by
  have hin' : ipAuthenticate L (exempting auth nets).bypassIps peer.ip = true := hin
  unfold serveConnection at hs ⊢
  rw [hout] at hs ⊢
  rw [hin']
  rcases classify_cases (w := .accepted env inp) rfl with ⟨w, hc, ha⟩ | ⟨e, w, hc, hq⟩
  · rw [World.accepted_unread, hp] at hc
    simp only [bind_of_ok hc] at hs ⊢
    unfold Http.handleHttpProxy at hs ⊢
    have hq := keeps_readHttpRequest L w
    cases hr : readHttpRequest L w with
    | error e w' =>
      rw [bind_apply, bind_apply, hr]
    | ok req w' =>
      rw [hr] at hq
      rw [bind_of_ok hr] at hs ⊢
      rw [bind_of_ok hr]
      rcases serveRequest_exempt nets req w' with h | h
      · exact h
      · obtain ⟨_, _, ha₁⟩ := hq.advance
        obtain ⟨_, _, ha₂⟩ := h.advance
        exact absurd hs (not_serving_of_advance ((ha.trans ha₁).trans ha₂))
  · rw [bind_apply, bind_apply, hc]

end

/-! ## Exempt clients -/

section
variable {L : Libs}

/-- **Who is served with credentials is served when exempt, exactly if** it is an HTTP client
or offers "no authentication". -/
theorem exempt_served_iff (hct : L.CtEqExact) {auth : AuthConfig} {nets : List IpNet} {peer : SocketAddr}
    (hout : ipAuthenticate L auth.bypassIps peer.ip = false)
    (hin : ipAuthenticate L nets peer.ip = true) {env : Env} (he : env.ClientReliable) :
    (∀ (c : SocksClient) cmd rest, ServesSocks L auth peer env c cmd rest →
      (ServesSocks L (exempting auth nets) peer env c cmd rest ↔ SOCKS_NO_AUTH ∈ c.methods)) ∧
    ∀ statsEnabled listener inp, protocolOf inp = some .http →
      Serving (serveConnection L auth statsEnabled listener peer (.accepted env inp)) →
        serveConnection L (exempting auth nets) statsEnabled listener peer (.accepted env inp) =
          serveConnection L auth statsEnabled listener peer (.accepted env inp) := by
  refine ⟨fun c cmd rest hs => ?_, fun _ _ _ hp hs => http_exempt hout hin hp hs⟩
  obtain ⟨-, -, hr⟩ := (serves_login_iff hct hout he c).1 hs
  have hin' : ipAuthenticate L (exempting auth nets).bypassIps peer.ip = true := hin
  rw [serves_exempt_iff hct hin' he]
  exact and_iff_left hr

/-- A server with one user, and an address. -/
def adminAuth : AuthConfig := ⟨some "admin".toList, some "pw".toList, []⟩

def nearNets : List IpNet := [⟨ipv4 10 0 0 0, 8⟩]

def nearPeer : SocketAddr := .new (ipv4 10 0 0 1) 5000

/-- A client with the user's credentials that asks for 10.0.0.7:80. -/
def adminClient (methods : Bytes) (h : methods.length ≤ 255) : SocksClient where
  methods := methods
  loginMessage := [1, 5, 97, 100, 109, 105, 110, 2, 112, 119]
  request := [5, 1, 0, 1, 10, 0, 0, 7, 0, 80]
  fits := h
  framed := ⟨1, [5, 97, 100, 109, 105, 110], [97, 100, 109, 105, 110], [2, 112, 119], [112, 119],
    ⟨5, rfl, rfl⟩, ⟨2, rfl, rfl⟩, rfl⟩

def nearCommand : Command := .connect (.v4 ⟨[10, 0, 0, 7], rfl⟩ 80)

theorem adminClient_served {methods : Bytes} (h : methods.length ≤ 255) (hm : SOCKS_AUTH_USER ∈ methods) :
    ServesSocks plainLibs adminAuth nearPeer (.calm [] []) (adminClient methods h) nearCommand [] := by
  refine (serves_login_iff plainLibs_ctEqExact rfl (calm_clientReliable [] []) _).2 ⟨hm, ?_, ?_⟩
  · exact ⟨[5, 97, 100, 109, 105, 110], [97, 100, 109, 105, 110], [2, 112, 119], [112, 119],
      ⟨5, rfl, rfl⟩, ⟨2, rfl, rfl⟩, rfl, by decide, by decide⟩
  · exact ⟨_, ⟨trivial, rfl⟩, rfl⟩

theorem exempt_served_iff_both :
    ServesSocks plainLibs (exempting adminAuth nearNets) nearPeer (.calm [] [])
      (adminClient [0, 2] (by decide)) nearCommand [] :=
  ((exempt_served_iff plainLibs_ctEqExact (by decide) (by decide) (calm_clientReliable [] [])).1 _ _ _
    (adminClient_served _ (by decide))).2 (by decide)

/-- **A client that offers username/password only is served unless it is exempt.** -/
theorem exempt_client_turned_away :
    let c := adminClient [SOCKS_AUTH_USER] (by decide)
    ServesSocks plainLibs adminAuth nearPeer (.calm [] []) c nearCommand [] ∧
      ¬ ServesSocks plainLibs (exempting adminAuth nearNets) nearPeer (.calm [] []) c nearCommand [] := by
  refine ⟨adminClient_served _ (by decide), fun h => ?_⟩
  have hin : ipAuthenticate plainLibs (exempting adminAuth nearNets).bypassIps nearPeer.ip = true := by
    decide
  have := ((serves_exempt_iff plainLibs_ctEqExact hin (calm_clientReliable [] []) _).1 h).1
  revert this
  decide

end

end TinySocks.L4
