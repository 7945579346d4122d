import TinySocks.Core.Lts
import TinySocks.L4App.Forward

/-!
# Forwarding loops

A request travels from listener to listener: each reads the headers the one
before it sent out, and forwards it (`journeys`). The `Via` header marks the
listeners it passed. The first one removes the `Connection` headers, so no
later one can be told to drop `Via`, and a listener does not forward what it
marked: no journey passes a listener twice (`no_forwarding_loop`).
-/
namespace TinySocks.L4.Http

open TinySocks.Core TinySocks.L1 TinySocks.L2 TinySocks.L3

section
variable {ι : Type}

/-- The journeys of a request: a step forwards it at one of the listeners, on
some connection that carries it there. -/
def journeys (L : Libs) (listeners : ι → HttpListener) : LTS Headers ι where
  init _ := True
  step headers i headers' := ∃ hop w req head, hop.listener = listeners i ∧
    Forwards L hop w req head ∧ req.headers = headers ∧ head.headers = headers'

/-- A listener as `HttpListener::new` makes it. -/
def IsListener (listener : HttpListener) : Prop := ∃ hashOne port, listener = .new hashOne port

theorem token_via {listener : HttpListener} (h : IsListener listener) : Token listener.via := by
  obtain ⟨hashOne, port, rfl⟩ := h
  have hchars : ∀ {s : Str}, (s.all fun c => decide (isWhitespace c = false ∧ c ≠ ',')) = true →
      ∀ c ∈ s, isWhitespace c = false ∧ c ≠ ',' := forall_mem_of_all
  have hall : ∀ c ∈ (HttpListener.new hashOne port).via, isWhitespace c = false ∧ c ≠ ',' := by
    intro c hc
    rcases List.mem_append.1 hc with hc | hc
    · exact hchars (by decide) c hc
    · exact hchars (by decide) c (mem_hex16 hc)
  exact ⟨by simp [HttpListener.new], fun c hc => (hall c hc).1, fun hc => (hall _ hc).2 rfl⟩

theorem token_version {L : Libs} {w w' : World} {req : HttpRequest}
    (h : readHttpRequest L w = .ok req w') : Token req.version := by
  obtain ⟨buf, n, parsed, -, hread⟩ := readHttpRequest_ok h
  obtain ⟨-, -, hv, -⟩ := requestOf_ok.1 hread.request
  unfold versionName at hv
  split at hv
  · rw [← Except.ok.inj hv]
    exact ⟨by decide, forall_mem_of_all (by decide), by decide⟩
  · rw [← Except.ok.inj hv]
    exact ⟨by decide, forall_mem_of_all (by decide), by decide⟩
  · cases hv

variable {L : Libs} {listeners : ι → HttpListener}

/-- `Via` marks the listeners a request passed. -/
theorem via_marking (hnew : ∀ i, IsListener (listeners i)) :
    (journeys L listeners).Marking (fun headers => connectionHeaderNames headers = [])
      (fun headers i => hasProxyVia headers (listeners i).via = true) where
  inv := by
    intro _ _ _ h
    obtain ⟨hop, w, req, head, -, hf, -, rfl⟩ := h
    obtain ⟨host, port, path, -, rfl⟩ := hf.target
    exact connectionHeaderNames_forwardedHeaders _ _ _ _
  marks := by
    intro _ i _ h
    obtain ⟨hop, w, req, head, hl, hf, -, rfl⟩ := h
    obtain ⟨host, port, path, -, rfl⟩ := hf.target
    obtain ⟨w', hr⟩ := hf.read
    rw [← hl]
    exact hasProxyVia_own (token_version hr) (hl ▸ token_via (hnew i))
  fresh := by
    intro _ i _ h
    obtain ⟨hop, w, req, head, hl, hf, rfl, -⟩ := h
    rw [← hl, hf.noLoop]
    exact Bool.false_ne_true
  keeps := by
    intro _ i _ hc h j hj
    obtain ⟨hop, w, req, head, -, hf, rfl, rfl⟩ := h
    obtain ⟨host, port, path, -, rfl⟩ := hf.target
    exact hasProxyVia_kept hj hc _ _ _

/-- A request that carries a listener's `Via` is answered with 508 there. -/
theorem serve_loop {hop : Hop} {w w' : World} {req : HttpRequest}
    (hr : readHttpRequest L w = .ok req w') (h : hasProxyVia req.headers hop.listener.via = true) :
    hop.serve L w = writeAllWithTimeout (Utf8.encode loopDetected) "HTTP loop response write" w' := by
  rw [Hop.serve_eq hr]
  unfold serveRequest
  rw [if_pos h]

/-- **No request passes a listener twice**: where it comes back to, it is
answered with 508. -/
theorem no_forwarding_loop (hnew : ∀ i, IsListener (listeners i)) {headers headers' : Headers}
    {passed : List ι} (hrun : (journeys L listeners).Run headers passed headers') :
    passed.Nodup ∧ ∀ i ∈ passed, ∀ hop w req w', hop.listener = listeners i →
      readHttpRequest L w = .ok req w' → req.headers = headers' →
        hop.serve L w = writeAllWithTimeout (Utf8.encode loopDetected) "HTTP loop response write" w' ∧
        ∀ head, ¬ Forwards L hop w req head := by
  obtain ⟨hnd, hmarked⟩ := (via_marking hnew).nodup hrun
  refine ⟨hnd, ?_⟩
  intro i hi hop w req w' hl hr he
  subst he
  have hvia := hmarked i hi
  rw [← hl] at hvia
  refine ⟨serve_loop hr hvia, fun head hf => ?_⟩
  rw [hf.noLoop] at hvia
  cases hvia

/-- Two listeners, told apart by their hashes. -/
def pair (second : Bool) : HttpListener := .new (fun _ => if second then 2 else 1) 1080

def pairHop (second : Bool) : Hop := { openHop with listener := pair second }

/-- The first listener's request, told to drop `Via`, and what the second reads of it. -/
def firstRequest : HttpRequest :=
  postRequest [("Via".toList, "1.1 x".toList), ("Connection".toList, "via".toList)]

def firstHead : RequestHead := forwardHead firstRequest "h" 80 "/" (pair false).via

def secondRequest : HttpRequest := { firstRequest with target := "/", headers := firstHead.headers }

theorem no_forwarding_loop_pair :
    ∃ headers, (journeys plainLibs pair).Run firstRequest.headers [false, true] headers ∧
      ∀ hop w req w', hop.listener = pair false → readHttpRequest plainLibs w = .ok req w' →
        req.headers = headers → ∀ head, ¬ Forwards plainLibs hop w req head := by
  have h₁ : Forwards plainLibs (pairHop false) (postTo "Via: 1.1 x\r\nConnection: via\r\n")
      firstRequest firstHead :=
    ⟨⟨_, rfl⟩, rfl, ⟨_, _, _, rfl, rfl⟩, _, rfl, by decide⟩
  have h₂ : Forwards plainLibs (pairHop true)
      (.accepted (.calm [] []) (Utf8.encode firstHead.print ++ Utf8.encode "abc")) secondRequest
      (forwardHead secondRequest "h" 80 "/" (pair true).via) :=
    ⟨⟨_, rfl⟩, rfl, ⟨_, _, _, rfl, rfl⟩, _, rfl, by decide⟩
  have hrun : (journeys plainLibs pair).Run firstRequest.headers [false, true]
      (forwardHead secondRequest "h" 80 "/" (pair true).via).headers :=
    .cons ⟨pairHop false, _, _, _, rfl, h₁, rfl, rfl⟩
      (.cons ⟨pairHop true, _, _, _, rfl, h₂, rfl, rfl⟩ (.nil _))
  refine ⟨_, hrun, fun hop w req w' hl hr hh => ?_⟩
  exact ((no_forwarding_loop (fun _ => ⟨_, _, rfl⟩) hrun).2 false (by decide) hop w req w' hl hr hh).2

end

end TinySocks.L4.Http
