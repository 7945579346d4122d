import TinySocks.L4App.Http

/-!
# What a forwarding listener sends upstream

The upstream connection of a run receives nothing, or the head `forwardHead`
of a forwarded request and then the rest of the client's bytes, or what a
CONNECT tunnel carries (`serveRequest_sends`). `Forwards` is the second case.

* `framing_survives_iff`: the framing headers go upstream as they came exactly
  if no `Connection` header lists one of them; `listed_length_is_dropped` is a
  request that loses its `Content-Length` while its body is sent on.
-/
namespace TinySocks.L4.Http

open TinySocks.Core TinySocks.L1 TinySocks.L2 TinySocks.L3

/-! ## Silent steps -/

/-- The upstream received nothing in between. -/
def Silent (w w' : World) : Prop := ∃ evs, w'.trace = w.trace ++ evs ∧ upReceived evs = []

theorem Silent.refl (w : World) : Silent w w := ⟨[], by simp, rfl⟩

theorem upReceived_apart {evs : Trace} (h : ∀ e ∈ evs, (!isTunnel e) = true) : upReceived evs = [] := by
  unfold upReceived
  rw [List.flatMap_eq_nil_iff]
  intro e he
  have := h e he
  cases e <;> first | rfl | cases this

theorem silent_of_apart {w w' : World} (h : Apart w w') : Silent w w' := by
  obtain ⟨-, evs, ht, hev⟩ := h
  exact ⟨evs, ht, upReceived_apart hev⟩

theorem silent_of_quiet {w w' : World} (h : Quiet w w') : Silent w w' :=
  silent_of_apart (apart_of_aside (aside_of_quiet h))

/-! ## Heads on the upstream connection -/

/-- The upstream received `b`, or as much of it as was written, and then more. -/
def SendsFirst (b : Bytes) (w w' : World) : Prop :=
  ∃ evs, w'.trace = w.trace ++ evs ∧ (b <+: upReceived evs ∨ upReceived evs <+: b)

theorem upReceived_upWrite (b : Bytes) : upReceived [.upWrite b] = b := by simp [upReceived]

/-- What the upstream receives of a write, and of all behind it: the whole, and then more,
unless the write fails, and then nothing more than the part that was written. -/
def Gets (env : Env) (t : Trace) (b : Bytes) (evs : Trace) : Prop :=
  match env.upWriteFault t b with
  | none => b <+: upReceived evs
  | some (n, _) => upReceived evs = b.take n

theorem Gets.begins {env : Env} {t evs : Trace} {b : Bytes} (h : Gets env t b evs) :
    b <+: upReceived evs ∨ upReceived evs <+: b := by
  unfold Gets at h
  split at h
  · exact .inl h
  · rw [h]
    exact .inr (List.take_prefix _ _)

/-- A write comes first, and in full before anything behind it. -/
theorem gets_write {b : Bytes} {action : Str} {k : Unit → M Unit} {w : World} (hk : Keeps Extends (k ())) :
    ∃ evs, (finalState ((upWriteAllWithTimeout b action >>= k) w)).trace = w.trace ++ evs ∧
      Gets w.env w.trace b evs := by
  have hw : upWriteAllWithTimeout b action w =
      EStateM.adaptExcept (Fault.toStop action) (upWriteAll b) w := rfl
  rw [bind_apply, hw]
  unfold EStateM.adaptExcept upWriteAll Gets
  rw [writeAllBy_apply]
  cases w.env.upWriteFault w.trace b with
  | some p => exact ⟨[.upWrite (b.take p.1)], rfl, upReceived_upWrite _⟩
  | none =>
    obtain ⟨-, evs, ht, -⟩ := hk { w with trace := w.trace ++ [.upWrite b] }
    refine ⟨.upWrite b :: evs, ht.trans (List.append_assoc _ [_] _), ?_⟩
    rw [← List.singleton_append, upReceived_append, upReceived_upWrite]
    exact List.prefix_append _ _

/-- What the upstream receives of a head: nothing where it cannot be reached, and all of
it, in front of anything else, where it is reached and the write does not fail. -/
def HeadArrives (env : Env) (t : Trace) (endpoint : Str) (head : Bytes) (evs : Trace) : Prop :=
  match env.connect t endpoint with
  | some _ => upReceived evs = []
  | none => .connect endpoint true ∈ evs ∧ Gets env (t ++ [.connect endpoint true]) head evs

/-- Whatever goes wrong, a forwarding run that reached its target sends the
head before anything else. -/
theorem forwardTo_headArrives (req : HttpRequest) (peer : SocketAddr) (via host : Str) (port : UInt16)
    (path : Str) (w : World) :
    ∃ evs, (finalState (forwardTo req peer via host port path w)).trace = w.trace ++ evs ∧
      HeadArrives w.env w.trace (formatTargetEndpoint host port)
        (Utf8.encode (forwardHead req host port path via).print) evs := by
  unfold forwardTo HeadArrives
  cases hc : w.env.connect w.trace (formatTargetEndpoint host port) with
  | some err =>
    rw [bind_eq_error.2 (.inl (reported_error (tcpConnect_error hc)))]
    exact ⟨_, List.append_assoc _ _ _, rfl⟩
  | none =>
    rw [bind_of_ok (reported_ok.2 (tcpConnect_eq hc))]
    have hrest : Keeps Extends (do
        writeBody req.bodyStart
        upFlushWithTimeout "HTTP upstream flush"
        stat (.addTcpBytes ((Utf8.encode (forwardHead req host port path via).print).length +
          req.bodyStart.length) 0)
        relay "forward" (formatTargetEndpoint host port) peer) := by
      refine Keeps.bind extends_frame (keeps_writeBody _) fun _ => ?_
      refine Keeps.bind extends_frame (keeps_upFlushWithTimeout _) fun _ => ?_
      exact Keeps.bind extends_frame (keeps_quiet (keeps_stat rfl)) fun _ => keeps_relay _ _ _
    obtain ⟨evs, ht, hgets⟩ := @gets_write (Utf8.encode (forwardHead req host port path via).print)
      "HTTP upstream request write" (fun _ => _)
      { w with trace := w.trace ++ [.connect (formatTargetEndpoint host port) true] } hrest
    exact ⟨.connect (formatTargetEndpoint host port) true :: evs,
      ht.trans (List.append_assoc _ [_] _), .head _, hgets⟩

theorem forwardTo_sends (req : HttpRequest) (peer : SocketAddr) (via host : Str) (port : UInt16)
    (path : Str) (w : World) :
    Silent w (finalState (forwardTo req peer via host port path w)) ∨
      SendsFirst (Utf8.encode (forwardHead req host port path via).print) w
        (finalState (forwardTo req peer via host port path w)) := by
  obtain ⟨evs, ht, h⟩ := forwardTo_headArrives req peer via host port path w
  unfold HeadArrives at h
  split at h
  · exact .inl ⟨evs, ht, h⟩
  · exact .inr ⟨evs, ht, h.2.begins⟩

section
variable {L : Libs}

/-- Where a request is forwarded to, if anywhere. -/
def target (L : Libs) (req : HttpRequest) : Except Str (Str × UInt16 × Str) :=
  splitTarget L req.target (getHeader req.headers "host") 80

theorem handleForward_ok {req : HttpRequest} {host path : Str} {port : UInt16}
    (h : target L req = .ok (host, port, path)) (peer : SocketAddr) (via : Str) (w : World) :
    handleForward L req peer via w = forwardTo req peer via host port path w := by
  unfold handleForward
  simp only
  rw [show splitTarget L req.target (getHeader req.headers "host") 80 = .ok (host, port, path) from h]
  rfl

theorem handleForward_error {req : HttpRequest} {message : Str} (h : target L req = .error message)
    (peer : SocketAddr) (via : Str) (w : World) :
    handleForward L req peer via w = .error (.failed message) w := by
  refine bind_eq_error.2 (.inl ?_)
  rw [show splitTarget L req.target (getHeader req.headers "host") 80 = .error message from h]
  rfl

theorem handleForward_sends (req : HttpRequest) (peer : SocketAddr) (via : Str) (w : World) :
    Silent w (finalState (handleForward L req peer via w)) ∨
      ∃ host port path, target L req = .ok (host, port, path) ∧
        SendsFirst (Utf8.encode (forwardHead req host port path via).print) w
          (finalState (handleForward L req peer via w)) := by
  cases ht : target L req with
  | error message =>
    rw [handleForward_error ht]
    exact .inl (Silent.refl w)
  | ok r =>
    obtain ⟨host, port, path⟩ := r
    rw [handleForward_ok ht]
    rcases forwardTo_sends req peer via host port path w with hq | hf
    · exact .inl hq
    · exact .inr ⟨host, port, path, rfl, hf⟩

/-- A run that reaches the upstream did not meet its own `Via`, and either
tunnels or sends a forwarded head first. -/
theorem serveRequest_sends (bypassAuth : Bool) (auth : AuthConfig) (statsEnabled : Bool)
    (listener : HttpListener) (peer : SocketAddr) (req : HttpRequest) (w : World) :
    Silent w (finalState (serveRequest L bypassAuth auth statsEnabled listener peer req w)) ∨
      hasProxyVia req.headers listener.via = false ∧
        (eqIgnoreAsciiCase req.method "CONNECT" = false →
          ∃ host port path, target L req = .ok (host, port, path) ∧
            SendsFirst (Utf8.encode (forwardHead req host port path listener.via).print) w
              (finalState (serveRequest L bypassAuth auth statsEnabled listener peer req w))) := by
  rcases serveRequest_cases (L := L) bypassAuth auth statsEnabled listener peer req w with h | ⟨hvia, h⟩
  · exact .inl (silent_of_apart (apart_of_aside h))
  rw [h]
  split
  · rename_i hm
    exact .inr ⟨hvia, fun hn => absurd hm (by rw [hn]; exact Bool.false_ne_true)⟩
  · rcases handleForward_sends req peer listener.via w with hf | hf
    · exact .inl hf
    · exact .inr ⟨hvia, fun _ => hf⟩

/-! ## Forwarded requests -/

/-- What a listener handles a connection with. -/
structure Hop where
  bypassAuth : Bool
  auth : AuthConfig
  statsEnabled : Bool
  listener : HttpListener
  peer : SocketAddr

def Hop.serve (L : Libs) (hop : Hop) : M Unit :=
  handleHttpProxy L hop.bypassAuth hop.auth hop.statsEnabled hop.listener hop.peer

/-- On the connection `w`, the listener reads `req` and sends it on as `head`. -/
structure Forwards (L : Libs) (hop : Hop) (w : World) (req : HttpRequest) (head : RequestHead) : Prop where
  read : ∃ w', readHttpRequest L w = .ok req w'
  method : eqIgnoreAsciiCase req.method "CONNECT" = false
  target : ∃ host port path, target L req = .ok (host, port, path) ∧
    head = forwardHead req host port path hop.listener.via
  sent : ∃ evs, (finalState (hop.serve L w)).trace = w.trace ++ evs ∧
    Utf8.encode head.print <+: upReceived evs

/-- Once the request is read, the run is what it is answered with. -/
theorem Hop.serve_eq {hop : Hop} {w w' : World} {req : HttpRequest}
    (h : readHttpRequest L w = .ok req w') : hop.serve L w =
      serveRequest L hop.bypassAuth hop.auth hop.statsEnabled hop.listener hop.peer req w' :=
  bind_of_ok h

theorem print_ne_nil (head : RequestHead) : Utf8.encode head.print ≠ [] := by
  intro h
  have hp : head.print = [] := Utf8.encode_injective (h.trans rfl)
  simp [RequestHead.print] at hp

/-- **A request the upstream hears of** is a forwarded one, unless the head
could not be written in full. -/
theorem serve_forwards {hop : Hop} {w w' : World} {req : HttpRequest} {evs : Trace}
    (hr : readHttpRequest L w = .ok req w') (hm : eqIgnoreAsciiCase req.method "CONNECT" = false)
    (ht : (finalState (hop.serve L w)).trace = w.trace ++ evs) (hu : upReceived evs ≠ []) :
    hasProxyVia req.headers hop.listener.via = false ∧
      ∃ head, (∃ host port path, Http.target L req = .ok (host, port, path) ∧
        head = forwardHead req host port path hop.listener.via) ∧
        (Forwards L hop w req head ∨ upReceived evs <+: Utf8.encode head.print) := by
  have hq := silent_of_quiet (keeps_readHttpRequest L w)
  rw [hr] at hq
  obtain ⟨evs₁, ht₁, hu₁⟩ := hq
  have htrace : ∀ evs₂, (finalState (hop.serve L w)).trace = w'.trace ++ evs₂ → evs = evs₁ ++ evs₂ := by
    intro evs₂ h
    rw [ht, show w'.trace = w.trace ++ evs₁ from ht₁, List.append_assoc] at h
    exact List.append_cancel_left h
  have hs := serveRequest_sends (L := L) hop.bypassAuth hop.auth hop.statsEnabled hop.listener
    hop.peer req w'
  rw [← Hop.serve_eq hr] at hs
  rcases hs with ⟨evs₂, ht₂, hu₂⟩ | ⟨hvia, hs⟩
  · rw [htrace evs₂ ht₂, upReceived_append, hu₁, hu₂] at hu
    exact absurd rfl hu
  · obtain ⟨host, port, path, htgt, evs₂, ht₂, hb⟩ := hs hm
    have he : upReceived evs = upReceived evs₂ := by
      rw [htrace evs₂ ht₂, upReceived_append, hu₁]
      rfl
    refine ⟨hvia, _, ⟨host, port, path, htgt, rfl⟩, ?_⟩
    rcases hb with hb | hb
    · exact .inl ⟨⟨w', hr⟩, hm, ⟨host, port, path, htgt, rfl⟩, evs, ht, he ▸ hb⟩
    · exact .inr (he ▸ hb)

/-- What a listener forwards did not carry its `Via`. -/
theorem Forwards.noLoop {hop : Hop} {w : World} {req : HttpRequest} {head : RequestHead}
    (h : Forwards L hop w req head) : hasProxyVia req.headers hop.listener.via = false := by
  obtain ⟨⟨w', hr⟩, hm, -, evs, ht, hb⟩ := h
  refine (serve_forwards hr hm ht fun hu => ?_).1
  rw [hu] at hb
  exact print_ne_nil head (List.prefix_nil.1 hb)

/-! ## Framing -/

/-- The upstream derives the message length from what the client declared. -/
structure FramingSurvives (headers sent : Headers) : Prop where
  same : sent.filter isFraming = headers.filter isFraming
  length : scanFraming none false sent = scanFraming none false headers

/-- **The framing of a forwarded request survives exactly if no `Connection`
header lists a framing header it carries.** -/
theorem framing_survives_iff {hop : Hop} {w : World} {req : HttpRequest} {head : RequestHead}
    (h : Forwards L hop w req head) : FramingSurvives req.headers head.headers ↔
      ∀ header ∈ req.headers, isFraming header = true →
        ∀ listed ∈ connectionHeaderNames req.headers, eqIgnoreAsciiCase listed header.1 = false := by
  obtain ⟨host, port, path, -, rfl⟩ := h.target
  have hiff := forwardedHeaders_framing req.headers (formatHostHeader host port 80) req.version
    hop.listener.via
  rw [← hiff]
  constructor
  · exact fun hs => hs.same
  · intro hs
    refine ⟨hs, ?_⟩
    rw [scanFraming_filter, scanFraming_filter req.headers]
    exact congrArg _ hs

/-- A listener that exempts its peer. -/
def openHop : Hop where
  bypassAuth := true
  auth := { username := none, password := none, bypassIps := [⟨.v4 ⟨[10, 0, 0, 0], rfl⟩, 8⟩] }
  statsEnabled := true
  listener := { port := 1080, via := "tinysocks-0123456789abcdef" }
  peer := .new (.v4 ⟨[10, 0, 0, 1], rfl⟩) 5000

/-- A client that sends `POST http://h/`, these header lines and a body. -/
def postTo (lines : Str) : World :=
  .accepted (.calm [] []) (Utf8.encode ("POST http://h/ HTTP/1.1\r\n" ++ lines ++ "\r\nabc"))

/-- What is read from it. -/
def postRequest (headers : Headers) : HttpRequest where
  method := "POST"
  target := "http://h/"
  version := "HTTP/1.1"
  headers := headers
  bodyStart := Utf8.encode "abc"

def postHead (headers : Headers) : RequestHead :=
  forwardHead (postRequest headers) "h" 80 "/" openHop.listener.via

theorem framing_survives_iff_post :
    FramingSurvives [("Content-Length".toList, "3".toList)]
      (postHead [("Content-Length".toList, "3".toList)]).headers := by
  have h : Forwards plainLibs openHop (postTo "Content-Length: 3\r\n")
      (postRequest [("Content-Length".toList, "3".toList)])
      (postHead [("Content-Length".toList, "3".toList)]) :=
    ⟨⟨_, rfl⟩, rfl, ⟨_, _, _, rfl, rfl⟩, _, rfl, by decide⟩
  exact (framing_survives_iff h).2 (by decide)

/-- A client can have its `Content-Length` dropped, and its body sent all the same. -/
theorem listed_length_is_dropped :
    let headers : Headers :=
      [("Content-Length".toList, "3".toList), ("Connection".toList, "content-length".toList)]
    let w := postTo "Content-Length: 3\r\nConnection: content-length\r\n"
    Forwards plainLibs openHop w (postRequest headers) (postHead headers) ∧
      ¬ FramingSurvives headers (postHead headers).headers ∧
      upReceived (finalState (openHop.serve plainLibs w)).trace =
        Utf8.encode (postHead headers).print ++ Utf8.encode "abc" := by
  refine ⟨⟨⟨_, rfl⟩, rfl, ⟨_, _, _, rfl, rfl⟩, _, rfl, by decide⟩, fun h => ?_, by decide⟩
  exact absurd h.same (by decide)

end

end TinySocks.L4.Http
