import TinySocks.L4App.Server

/-!
# The authentication gate

A service is what an unauthenticated client must not get: an upstream
connection, a UDP relay socket, the statistics page. `Gated P` says of a run
that every service in it came when `P` held of what had happened before; it
is a frame relation, so it is proved step by step. `authentication_gate` is the
result for whole connections.
-/
namespace TinySocks.L4

open TinySocks.Core TinySocks.L1 TinySocks.L2 TinySocks.L3

def isService : Ev → Bool
  | .connect _ _ | .udpBind _ _ | .renderHtml => true
  | _ => false

/-! ## Gated runs -/

/-- Every service between `w` and `w'` was preceded by what `P` asks for it. -/
def Gated (P : Trace → Ev → Prop) (w w' : World) : Prop :=
  ∃ evs, w'.trace = w.trace ++ evs ∧
    ∀ pre e post, evs = pre ++ e :: post → isService e = true → P (w.trace ++ pre) e

section
variable {P : Trace → Ev → Prop}

theorem gated_frame (P : Trace → Ev → Prop) : Frame (Gated P) where
  refl w := ⟨[], by simp, by simp⟩
  trans := by
    intro w w' w'' hx hp
    obtain ⟨evs, ht, hg⟩ := hx
    obtain ⟨evs', ht', hg'⟩ := hp
    refine ⟨evs ++ evs', by rw [ht', ht, List.append_assoc], ?_⟩
    intro pre e post h he
    rcases List.append_eq_append_iff.1 h with ⟨mid, rfl, hmid⟩ | ⟨mid, rfl, hmid⟩
    · have := hg' mid e post hmid he
      rwa [ht, List.append_assoc] at this
    · cases mid with
      | nil =>
        have := hg' [] e post hmid.symm he
        rw [ht] at this
        simpa using this
      | cons e' mid =>
        obtain ⟨rfl, -⟩ := List.cons_eq_cons.1 hmid
        exact hg pre e mid rfl he

theorem isProtocol_not_service {e : Ev} (h : e.isProtocol = true) : isService e = false := by
  cases e <;> first | rfl | cases h

/-- Protocol steps are no service. -/
theorem gated_of_advance {c out : Bytes} {w w' : World} (h : Advance c out w w') : Gated P w w' := by
  obtain ⟨-, -, evs, ht, hev, -⟩ := h
  refine ⟨evs, ht, ?_⟩
  intro pre e post heq he
  subst heq
  rw [isProtocol_not_service (hev e (by simp))] at he
  cases he

theorem gated_of_quiet {w w' : World} (h : Quiet w w') : Gated P w w' := by
  obtain ⟨⟨c, out, ha⟩, -⟩ := h
  exact gated_of_advance ha

/-- Once the gate is passed for every service, anything may follow. -/
theorem gated_of_extends {w w' : World} (h : Extends w w')
    (hP : ∀ evs e, isService e = true → P (w.trace ++ evs) e) : Gated P w w' := by
  obtain ⟨-, evs, ht, -⟩ := h
  exact ⟨evs, ht, fun pre e _ _ he => hP pre e he⟩

theorem gated_emit {w : World} {e : Ev} (hP : P w.trace e) :
    Gated P w { w with trace := w.trace ++ [e] } := by
  refine ⟨[e], rfl, ?_⟩
  intro pre e' post h _
  obtain ⟨rfl, rfl, -⟩ : pre = [] ∧ e = e' ∧ post = [] := by
    cases pre with
    | nil => simpa using h
    | cons _ pre => simp at h
  simpa using hP

end

/-! ## Credentials -/

section
variable {L : Libs} {auth : AuthConfig}

/-- The client negotiated the password method and logged in. -/
def SocksLogin (auth : AuthConfig) (t : Trace) : Prop :=
  ∃ greeting message, Greeting .usernamePassword greeting ∧ LoginMessage auth message ∧
    greeting ++ message <+: received t ∧ [0x05, 0x02, 0x01, 0x00] <+: written t

/-- The header of this name is accepted. -/
def Authorizes (L : Libs) (auth : AuthConfig) (req : HttpRequest) (name : Str) : Prop :=
  httpBasicAuthorized L (getHeader req.headers name) auth = .ok true

/-- The client sent a request with accepted credentials; `Authorization` is
looked at for the statistics page only. -/
def HttpLogin (L : Libs) (auth : AuthConfig) (t : Trace) (e : Ev) : Prop :=
  ∃ buf req headerEnd parsed, buf <+: received t ∧ ReadHead L buf req headerEnd parsed ∧
    (Authorizes L auth req "proxy-authorization" ∨
      e = .renderHtml ∧ Authorizes L auth req "authorization")

/-- What the gate asks for before a service. -/
def Presented (L : Libs) (auth : AuthConfig) (t : Trace) (e : Ev) : Prop :=
  SocksLogin auth t ∨ HttpLogin L auth t e

theorem SocksLogin.mono {t : Trace} (h : SocksLogin auth t) (evs : Trace) :
    SocksLogin auth (t ++ evs) := by
  obtain ⟨g, m, hg, hm, hr, hw⟩ := h
  refine ⟨g, m, hg, hm, ?_, ?_⟩
  · rw [received_append]
    exact hr.trans (List.prefix_append _ _)
  · rw [written_append]
    exact hw.trans (List.prefix_append _ _)

theorem HttpLogin.mono {t : Trace} {e : Ev} (h : HttpLogin L auth t e) (evs : Trace) :
    HttpLogin L auth (t ++ evs) e := by
  obtain ⟨buf, req, n, parsed, hr, hh, ha⟩ := h
  refine ⟨buf, req, n, parsed, ?_, hh, ha⟩
  rw [received_append]
  exact hr.trans (List.prefix_append _ _)

/-- On a new connection, what was consumed was received. -/
theorem Advance.received {env : Env} {inp c out : Bytes} {w : World}
    (h : Advance c out (.accepted env inp) w) : c <+: received w.trace := by
  obtain ⟨-, -, evs, ht, -, -, hpend, -⟩ := h
  have ht' : w.trace = evs := ht
  have hp' : L2.received evs = c ++ w.stream.pending := hpend
  rw [ht', hp']
  exact List.prefix_append _ _

/-- The front end lets nobody through without a login. -/
theorem socksCommand_login (hct : L.CtEqExact) {peer : SocketAddr} {cmd : Command} {env : Env}
    {inp : Bytes} {w w' : World} (ha : Advance [] [] (.accepted env inp) w)
    (h : socksCommand L false auth peer w = .ok cmd w') : SocksLogin auth w'.trace := by
  obtain ⟨wire, ha', g, l, r, hg, hl, hr, rfl⟩ := socksCommand_ok hct h
  have hall := ha.trans ha'
  refine ⟨g, l, hg, hl, ?_, ?_⟩
  · exact (List.prefix_append (g ++ l) r).trans (Advance.received hall)
  · rw [hall.written]
    exact List.prefix_append _ _

theorem keeps_runCommand (cmd : Command) (peer : SocketAddr) : Keeps Extends (runCommand cmd peer) := by
  cases cmd with
  | connect addr => exact Handler.keeps_handleConnect _ _
  | udpAssociate addr =>
    refine Keeps.bind extends_frame (keeps_ask extends_frame _) fun _ => ?_
    exact Keeps.bind extends_frame (keeps_liftResult extends_frame _) fun _ =>
      keeps_aside (Handler.keeps_handleUdpAssociate _ _)

/-! ## The HTTP side -/

theorem allowed_ok {check : Except (Abort Str) Bool} {w w' : World} {b : Bool}
    (h : Http.allowed false check w = .ok b w') : check = .ok b ∧ w' = w := liftAbort_ok h

theorem statsAuthorized_true {req : HttpRequest} (h : Http.statsAuthorized L req auth = .ok true) :
    Authorizes L auth req "authorization" ∨ Authorizes L auth req "proxy-authorization" := by
  obtain ⟨b, hb, h⟩ := except_bind_eq_ok.1 h
  cases b with
  | true => exact .inl hb
  | false => exact .inr h

/-- Once a request is read, every service needs a header of it to be accepted. -/
theorem serveRequest_gated {statsEnabled : Bool} {listener : HttpListener} {peer : SocketAddr}
    {req : HttpRequest} {w : World} {buf : Bytes} {headerEnd : Nat} {parsed : ParsedHead}
    (hbuf : buf <+: received w.trace) (hread : ReadHead L buf req headerEnd parsed) :
    Gated (Presented L auth) w
      (finalState (Http.serveRequest L false auth statsEnabled listener peer req w)) := by
  have hG := gated_frame (Presented L auth)
  have hquiet : ∀ {m : M Unit}, Keeps Quiet m → ∀ w, Gated (Presented L auth) w (finalState (m w)) :=
    fun h w => gated_of_quiet (h w)
  unfold Http.serveRequest
  split
  · exact hquiet (keeps_writeAllWithTimeout _ _) w
  split
  · refine Frame.bind hG (gated_of_quiet (Http.keeps_allowed quiet_frame _ _ w)) ?_
    intro authorized w' hok
    obtain ⟨hcheck, rfl⟩ := allowed_ok hok
    cases authorized with
    | false => exact hquiet (Http.keeps_refusal _ (keeps_writeAllWithTimeout _ _)) w'
    | true =>
      have hpage : ∀ {t}, buf <+: received t → Presented L auth t .renderHtml := by
        intro t ht
        rcases statsAuthorized_true hcheck with ha | ha
        · exact .inr ⟨buf, req, headerEnd, parsed, ht, hread, .inr ⟨rfl, ha⟩⟩
        · exact .inr ⟨buf, req, headerEnd, parsed, ht, hread, .inl ha⟩
      refine Frame.bind hG (gated_of_quiet (keeps_ask quiet_frame _ w')) fun body w₁ h₁ => ?_
      cases h₁
      refine Frame.bind hG (gated_emit (hpage hbuf)) fun _ w₂ _ => ?_
      exact hquiet (keeps_writeAllWithTimeout _ _) w₂
  · refine Frame.bind hG (gated_of_quiet (Http.keeps_allowed quiet_frame _ _ w)) ?_
    intro authorized w' hok
    obtain ⟨hcheck, rfl⟩ := allowed_ok hok
    cases authorized with
    | false => exact hquiet (Http.keeps_refusal _ (keeps_writeAllWithTimeout _ _)) w'
    | true =>
      have hlogin : ∀ e, HttpLogin L auth w'.trace e := fun e =>
        ⟨buf, req, headerEnd, parsed, hbuf, hread, .inl hcheck⟩
      have hext : Keeps Extends (if eqIgnoreAsciiCase req.method "CONNECT" then
          Http.handleConnect L req peer else Http.handleForward L req peer listener.via) :=
        Keeps.ite (Http.keeps_handleConnect _ _) (Http.keeps_handleForward _ _ _)
      exact gated_of_extends (hext w') fun evs e _ => .inr ((hlogin e).mono evs)

/-! ## The gate -/

/-- Every service of a connection that is not exempt was preceded by a login. -/
theorem serveConnection_gated (hct : L.CtEqExact) (statsEnabled : Bool) (listener : HttpListener)
    {peer : SocketAddr} (hbypass : ipAuthenticate L auth.bypassIps peer.ip = false) (env : Env)
    (inp : Bytes) : Gated (Presented L auth) (.accepted env inp)
      (finalState (serveConnection L auth statsEnabled listener peer (.accepted env inp))) := by
  have hG := gated_frame (Presented L auth)
  unfold serveConnection
  rw [hbypass]
  refine Frame.bind hG ?_ fun r w₁ h₁ => ?_
  · rcases classify_cases (w := .accepted env inp) rfl with ⟨w', h, ha⟩ | ⟨e, w', h, hq⟩
    · rw [h]
      exact gated_of_advance ha
    · rw [h]
      exact gated_of_quiet hq
  obtain ⟨ha, -⟩ := classify_ok rfl h₁
  match r with
  | none => exact hG.refl w₁
  | some .socks5 =>
    refine Frame.bind hG (gated_of_quiet (keeps_socksCommand L _ _ _ w₁)) fun cmd w₂ h₂ => ?_
    have hlogin := socksCommand_login hct ha h₂
    exact gated_of_extends (keeps_runCommand cmd peer w₂) fun evs e _ => .inl (hlogin.mono evs)
  | some .http =>
    refine Frame.bind hG (gated_of_quiet (keeps_readHttpRequest L w₁)) fun req w₂ h₂ => ?_
    obtain ⟨buf, n, parsed, ha₂, hread⟩ := readHttpRequest_ok h₂
    exact serveRequest_gated (Advance.received (ha.trans ha₂)) hread

theorem ipAuthenticate_false {nets : List IpNet} {ip : IpAddr} :
    ipAuthenticate L nets ip = false ↔ ∀ net ∈ nets, L.ipNetContains net ip = false := by
  unfold ipAuthenticate
  rw [List.any_eq_false]
  simp

/-- Without a configured pair there is nothing to present. -/
theorem Presented.configured (hct : L.CtEqExact) {t : Trace} {e : Ev} (h : Presented L auth t e) :
    auth.username.isSome = true ∧ auth.password.isSome = true := by
  have hheader : ∀ {req name}, Authorizes L auth req name →
      auth.username.isSome = true ∧ auth.password.isSome = true := by
    intro req name ha
    unfold Authorizes at ha
    cases hv : getHeader req.headers name with
    | none =>
      rw [hv] at ha
      cases ha
    | some value =>
      obtain ⟨b, hb, hiff⟩ := httpBasicAuthorized_cases hct auth value
      rw [hv, hb] at ha
      cases ha
      obtain ⟨_, _, _, u, p, -, -, -, -, hu, hp, -⟩ := hiff.1 rfl
      rw [hu, hp]
      exact ⟨rfl, rfl⟩
  rcases h with ⟨g, m, -, ⟨cu, u, cp, p, -, -, -, hu, hp⟩, -⟩ | ⟨_, _, _, _, -, -, ha | ⟨-, ha⟩⟩
  · rw [hu, hp]
    exact ⟨rfl, rfl⟩
  · exact hheader ha
  · exact hheader ha

theorem filter_isSome {o : Option Str} :
    (o.filter fun value => !value.isEmpty).isSome = true ↔ ∃ v ∈ o, v ≠ [] := by
  cases o with
  | none => simp
  | some v => cases v <;> simp

/-- **The authentication gate.** A peer outside the allowlist gets no service
without a login on the same connection, and none at all where no credentials
are configured. -/
theorem authentication_gate (hct : L.CtEqExact) (options : RuntimeOptions) {cfg : Config}
    (hcfg : Config.fromRuntimeOptions L options = .ok cfg) (statsEnabled : Bool)
    (listener : HttpListener) {peer : SocketAddr}
    (hbypass : ∀ net ∈ cfg.auth.bypassIps, L.ipNetContains net peer.ip = false) (env : Env)
    (inp : Bytes) {t : Trace}
    (ht : t = (finalState (serveConnection L cfg.auth statsEnabled listener peer
      (.accepted env inp))).trace) :
    (∀ pre e post, t = pre ++ e :: post → isService e = true → Presented L cfg.auth pre e) ∧
    ((∀ u ∈ options.username, u = []) ∨ (∀ p ∈ options.password, p = []) →
      ∀ e ∈ t, isService e = false) := by
  obtain ⟨evs, hevs, hg⟩ := serveConnection_gated hct statsEnabled listener
    (ipAuthenticate_false.2 hbypass) env inp
  obtain rfl : t = evs := ht.trans hevs
  refine ⟨hg, fun hnone e he => ?_⟩
  obtain ⟨pre, post, hsplit⟩ := List.append_of_mem he
  cases hs : isService e with
  | false => rfl
  | true =>
    obtain ⟨hu, hp⟩ := (hg pre e post hsplit hs).configured hct
    obtain ⟨-, hun, hpn⟩ := fromRuntimeOptions_ok hcfg
    rcases hnone with hnone | hnone
    · rw [hun, filter_isSome] at hu
      obtain ⟨v, hv, hne⟩ := hu
      exact absurd (hnone v hv) hne
    · rw [hpn, filter_isSome] at hp
      obtain ⟨v, hv, hne⟩ := hp
      exact absurd (hnone v hv) hne

/-- A peer outside `10.0.0.0/8`, on a server that exempts that network. -/
theorem authentication_gate_admin :
    let auth : AuthConfig := ⟨some "admin".toList, some "pw".toList, [⟨.v4 ⟨[10, 0, 0, 0], rfl⟩, 8⟩]⟩
    let peer : SocketAddr := .new (.v4 ⟨[192, 168, 0, 1], rfl⟩) 5000
    let inp : Bytes := [5, 1, 2, 1, 5, 97, 100, 109, 105, 110, 2, 112, 119, 5, 1, 0, 1, 10, 0, 0, 7, 0, 80]
    ∀ pre e post, (finalState (serveConnection plainLibs auth true ⟨1080, "v".toList⟩ peer
      (.accepted (Env.calm [] []) inp))).trace = pre ++ e :: post → isService e = true →
        Presented plainLibs auth pre e := by
  intro auth peer inp
  have hcfg : Config.fromRuntimeOptions plainLibs
      { bind := "127.0.0.1:1080".toList, maxConnections := 16, disableStats := false,
        username := some "admin".toList, password := some "pw".toList,
        bypassIps := ["10.0.0.0/8".toList] } =
      .ok { server := ⟨"127.0.0.1:1080".toList, 16, false⟩, auth } := by rfl
  exact (authentication_gate plainLibs_ctEqExact _ hcfg true _ (by decide) _ _ rfl).1

end

end TinySocks.L4
