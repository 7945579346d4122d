import TinySocks.L3Protocol.HttpRequest

/-!
# A request and the reads it arrives in (`http.rs`)

Behaviour (http.rs:95-150): each round reads up to 1024 bytes, and what was
collected is checked against `MAX_HEADER_SIZE` before it is parsed. The bytes
that arrived behind the end of the head count.

Spec: what is read is a function of the client's bytes; `MAX_HEADER_SIZE` bounds
the header block.

* `segmentation_irrelevant_iff`: all ways of splitting a client's bytes into
  reads have the same outcome exactly if no head of at most `MAX_HEADER_SIZE`
  bytes ends less than 1023 bytes below that bound in front of a body that
  crosses it.
* `late_head_refused`: such a head is accepted byte by byte, and refused as too
  large when its last byte arrives together with one byte of the body.
-/
namespace TinySocks.L3

open TinySocks.Core TinySocks.L1 TinySocks.L2

/-- Both runs failed, or read the same request and have the same bytes left behind its head. -/
def SameRequest : EStateM.Result Stop World HttpRequest → EStateM.Result Stop World HttpRequest → Prop
  | .ok r w, .ok r' w' => r.method = r'.method ∧ r.target = r'.target ∧ r.version = r'.version ∧
      r.headers = r'.headers ∧ r.bodyStart ++ w.stream.unread = r'.bodyStart ++ w'.stream.unread
  | .error _ _, .error _ _ => True
  | _, _ => False

/-- The client's bytes are `inp`, and they all arrive. -/
structure Delivers (inp : Bytes) (w : World) : Prop where
  reliable : w.env.ClientReliable
  unread : w.stream.unread = inp

/-- However the bytes are split into reads, the outcome is the same. -/
def SegmentationIrrelevant (L : Libs) (inp : Bytes) : Prop :=
  ∀ w w', Delivers inp w → Delivers inp w' → SameRequest (readHttpRequest L w) (readHttpRequest L w')

/-! ## What was read is the head of the stream -/

/-- The head that was read is the client's, and within the bound. -/
theorem clientHead_of_read {L : Libs} (hL : L.HeadStable) {inp : Bytes} {w w' : World} {req : HttpRequest}
    (hd : Delivers inp w) (h : readHttpRequest L w = .ok req w') :
    ∃ n, ClientHead L inp req n ∧ n ≤ MAX_HEADER_SIZE ∧ inp.drop n = req.bodyStart ++ w'.stream.unread := by
  obtain ⟨buf, n, parsed, ha, hr⟩ := readHttpRequest_ok h
  have hu : inp = buf ++ w'.stream.unread := by rw [← hd.unread, ha.unread]
  obtain ⟨hc, hrest⟩ := hr.stream hL w'.stream.unread
  rw [← hu] at hc hrest
  exact ⟨n, hc, Nat.le_trans (hL.le hr.complete) hr.size, hrest⟩

/-- A stream has one head. -/
theorem ClientHead.unique {L : Libs} {inp : Bytes} {req req' : HttpRequest} {n n' : Nat}
    (h : ClientHead L inp req n) (h' : ClientHead L inp req' n') :
    n = n' ∧ { req with bodyStart := inp.drop n } = { req' with bodyStart := inp.drop n' } := by
  obtain ⟨parsed, hp, hr⟩ := h
  obtain ⟨parsed', hp', hr'⟩ := h'
  rw [hp] at hp'
  obtain ⟨rfl, rfl⟩ := ParseStatus.complete.inj hp'
  rw [hr] at hr'
  exact ⟨rfl, Except.ok.inj hr'⟩

/-- Two runs that succeed read the same. -/
theorem sameRequest_of_ok {L : Libs} (hL : L.HeadStable) {inp : Bytes} {w w' v v' : World}
    {req req' : HttpRequest} (hd : Delivers inp w) (hd' : Delivers inp w')
    (h : readHttpRequest L w = .ok req v) (h' : readHttpRequest L w' = .ok req' v') :
    SameRequest (readHttpRequest L w) (readHttpRequest L w') := by
  obtain ⟨n, hc, -, hrest⟩ := clientHead_of_read hL hd h
  obtain ⟨n', hc', -, hrest'⟩ := clientHead_of_read hL hd' h'
  obtain ⟨rfl, he⟩ := hc.unique hc'
  obtain ⟨method, target, version, headers, bodyStart⟩ := req
  obtain ⟨method', target', version', headers', bodyStart'⟩ := req'
  simp only [HttpRequest.mk.injEq] at he
  obtain ⟨rfl, rfl, rfl, rfl, -⟩ := he
  rw [h, h']
  exact ⟨rfl, rfl, rfl, rfl, hrest.symm.trans hrest'⟩

/-! ## Runs that stay within the bound -/

/-- No read takes more than `size` bytes. -/
def ReadsAtMost (size : Nat) (w : World) : Prop :=
  1024 ≤ size ∨ w.stream.pending = [] ∧ ∀ t, max 1 (w.env.readLen t) ≤ size

theorem ReadsAtMost.read {size : Nat} {w w' : World} {b : Bytes} (h : ReadsAtMost size w)
    (hr : L2.read 1024 w = .ok b w') : b.length ≤ size ∧ ReadsAtMost size w' := by
  obtain ⟨ha, hlen, -⟩ := read_ok hr
  rcases h with h | ⟨hp, hs⟩
  · exact ⟨by omega, .inl h⟩
  · refine ⟨?_, .inr ⟨read_pending hr hp, fun t => ha.env ▸ hs t⟩⟩
    unfold L2.read at hr
    split at hr
    · rename_i hc
      have hne : w.stream.pending.length = 0 := by rw [hp]; rfl
      simp only [PrefixedStream.pending, List.length_drop] at hne
      omega
    · split at hr
      · cases hr
      · cases hr
        have := hs w.trace
        simp only [List.length_take]
        omega

/-- A head is read, if no round collects too much: each adds a piece of at most
`size` bytes to less than the head. -/
theorem readHttpRequestGo_reads {L : Libs} (hL : L.HeadLocal) {inp : Bytes} {req : HttpRequest} {n size : Nat}
    (hc : ClientHead L inp req n) (hroom : inp.length ≤ MAX_HEADER_SIZE ∨ n + size ≤ MAX_HEADER_SIZE + 1) :
    ∀ (fuel : Nat) {buf : Bytes} {w : World}, w.env.ClientReliable → ReadsAtMost size w →
      buf ++ w.stream.unread = inp → buf.length < n → n < buf.length + fuel →
        ∃ req' w', readHttpRequestGo L fuel buf w = .ok req' w' := by
  obtain ⟨parsed, hp, hreq⟩ := hc
  intro fuel
  induction fuel with
  | zero =>
    intro buf w _ _ _ hlt hfuel
    omega
  | succ fuel ih =>
    intro buf w he hs hu hlt hfuel
    obtain ⟨chunk, w₁, h₁⟩ := readWithTimeout_total 1024 "HTTP request header read" he
    obtain ⟨ha, -, hempty⟩ := readWithTimeout_ok h₁
    obtain ⟨hsize, hs₁⟩ := hs.read (withTimeout_ok.1 h₁)
    have hle := hL.le hp
    have hu₁ : (buf ++ chunk) ++ w₁.stream.unread = inp := by rw [← hu, ha.unread, List.append_assoc]
    have hne : chunk ≠ [] := by
      intro h0
      have hlen := congrArg List.length hu
      rw [hempty h0 (by omega), List.append_nil] at hlen
      omega
    have hlen := congrArg List.length hu₁
    have hpos := List.length_pos_iff.2 hne
    rw [List.length_append, List.length_append] at hlen
    have hbound : ¬ (buf ++ chunk).length > MAX_HEADER_SIZE := by
      rw [List.length_append]
      omega
    unfold readHttpRequestGo
    rw [bind_of_ok h₁, if_neg hne, if_neg hbound]
    by_cases hn : (buf ++ chunk).length < n
    · have hmore : L.httparse (buf ++ chunk) = .more := by
        have := hL.take hp _ hn
        rwa [← hu₁, List.take_left] at this
      rw [hmore]
      refine ih (ha.env ▸ he) hs₁ hu₁ hn ?_
      rw [List.length_append]
      omega
    · have hfull : L.httparse (buf ++ chunk) = .complete n parsed := by
        have hb := hL.append (hL.block hp) ((buf ++ chunk).drop n)
        have htake : inp.take n = (buf ++ chunk).take n := by
          rw [← hu₁, List.take_append_of_le_length (by omega)]
        rwa [htake, List.take_append_drop] at hb
      rw [hfull]
      obtain ⟨hm, ht, hv, hh, hf, -, -⟩ := requestOf_ok.1 hreq
      have hr : requestOf parsed (buf ++ chunk) n =
          .ok { req with bodyStart := (buf ++ chunk).drop n } :=
        requestOf_ok.2 ⟨hm, ht, hv, hh, hf, by omega, rfl⟩
      simp only [hr]
      exact ⟨_, _, rfl⟩

theorem head_pos {L : Libs} (hL : L.HeadLocal) {b : Bytes} {n : Nat} {parsed : ParsedHead}
    (h : L.httparse b = .complete n parsed) : 0 < n := by
  have hb := hL.block h
  rcases Nat.eq_zero_or_pos n with rfl | hn
  · rw [List.take_zero, hL.empty] at hb
    cases hb
  · exact hn

theorem readHttpRequest_reads {L : Libs} (hL : L.HeadLocal) {inp : Bytes} {req : HttpRequest} {n size : Nat}
    (hc : ClientHead L inp req n) (hroom : inp.length ≤ MAX_HEADER_SIZE ∨ n + size ≤ MAX_HEADER_SIZE + 1)
    (hn : n ≤ MAX_HEADER_SIZE) {w : World} (hd : Delivers inp w) (hs : ReadsAtMost size w) :
    ∃ req' w', readHttpRequest L w = .ok req' w' := by
  obtain ⟨parsed, hp, -⟩ := id hc
  refine readHttpRequestGo_reads hL hc hroom _ hd.reliable hs (by simpa using hd.unread) ?_ ?_
  · exact head_pos hL hp
  · simp only [List.length_nil]
    omega

/-! ## A run that crosses the bound -/

/-- Bytes arrive one by one until the last of the first `n`, which comes with those behind it. -/
def lateEnv (n : Nat) : Env :=
  { Env.calm [] [] with readLen := fun t => if (received t).length + 1 < n then 1 else 1024 }

/-- All bytes arrive one by one. -/
def byteEnv : Env := { Env.calm [] [] with readLen := fun _ => 1 }

theorem delivers_late (n : Nat) (inp : Bytes) : Delivers inp (.accepted (lateEnv n) inp) :=
  ⟨⟨fun _ => rfl, fun _ => ⟨_, rfl⟩, fun _ => rfl, fun _ _ => rfl⟩, rfl⟩

theorem delivers_byte (inp : Bytes) : Delivers inp (.accepted byteEnv inp) :=
  ⟨⟨fun _ => rfl, fun _ => ⟨_, rfl⟩, fun _ => rfl, fun _ _ => rfl⟩, rfl⟩

theorem readsAtMost_byte (inp : Bytes) : ReadsAtMost 1 (.accepted byteEnv inp) :=
  .inr ⟨rfl, fun _ => Nat.le_refl 1⟩

/-- A read without a prefix in front. -/
theorem read_socket (cap : Nat) {w : World} (hp : w.stream.pre = []) (he : w.env.readFault w.trace = none) :
    let m := min (max 1 (w.env.readLen w.trace)) (min cap w.stream.stream.length)
    L2.read cap w = .ok (w.stream.stream.take m) { w with
      stream := { w.stream with stream := w.stream.stream.drop m }
      trace := w.trace ++ [.read (w.stream.stream.take m)] } := by
  unfold L2.read
  rw [if_neg (by rw [hp]; simp), he]
  rfl

theorem late_fails {L : Libs} {inp : Bytes} {n : Nat} (hmore : ∀ k, k < n → L.httparse (inp.take k) = .more)
    (hn : n ≤ MAX_HEADER_SIZE) (hcross : MAX_HEADER_SIZE < n + 1023) (hlong : MAX_HEADER_SIZE < inp.length) :
    ∀ (fuel : Nat) {buf : Bytes} {w : World}, w.env = lateEnv n → w.stream.pre = [] →
      (received w.trace).length = buf.length → buf ++ w.stream.stream = inp → buf.length < n →
        ∃ e w', readHttpRequestGo L fuel buf w = .error e w' := by
  intro fuel
  induction fuel with
  | zero => exact fun _ _ _ _ _ => ⟨_, _, rfl⟩
  | succ fuel ih =>
    intro buf w he hp hr hu hlt
    have hread := read_socket 1024 hp (by rw [he]; rfl)
    simp only at hread
    have hlen := congrArg List.length hu
    rw [List.length_append] at hlen
    have hl : w.env.readLen w.trace = if buf.length + 1 < n then 1 else 1024 := by
      rw [he, ← hr]
      rfl
    generalize hm : min (max 1 (w.env.readLen w.trace)) (min 1024 w.stream.stream.length) = m at hread
    have hne : w.stream.stream.take m ≠ [] := by
      rw [← List.length_pos_iff, List.length_take]
      omega
    have hbuf : (buf ++ w.stream.stream.take m).length = buf.length + m := by
      rw [List.length_append, List.length_take]
      omega
    have h₁ : readWithTimeout 1024 "HTTP request header read" w = _ := withTimeout_ok.2 hread
    unfold readHttpRequestGo
    rw [bind_of_ok h₁, if_neg hne, hbuf]
    by_cases hlast : buf.length + 1 < n
    · rw [if_pos hlast] at hl
      obtain rfl : m = 1 := by omega
      have htake : buf ++ w.stream.stream.take 1 = inp.take (buf.length + 1) := by
        rw [← hu, List.take_length_add_append]
      rw [if_neg (by omega), htake, hmore _ hlast, ← htake]
      refine ih he hp ?_ ?_ ?_
      · simp only [received_append, List.length_append, hr]
        simp [received]
      · simp only [List.append_assoc, List.take_append_drop]
        exact hu
      · rw [hbuf]
        exact hlast
    · rw [if_neg hlast] at hl
      rw [if_pos (by omega)]
      exact ⟨_, _, rfl⟩

/-- A head that ends near the bound, in front of a body that crosses it, is read
byte by byte, and refused if its end arrives with the body. -/
theorem segmentation_matters {L : Libs} (hL : L.HeadLocal) {inp : Bytes} {req : HttpRequest} {n : Nat}
    (hc : ClientHead L inp req n) (hn : n ≤ MAX_HEADER_SIZE) (hcross : MAX_HEADER_SIZE < n + 1023)
    (hlong : MAX_HEADER_SIZE < inp.length) : ¬ SegmentationIrrelevant L inp := by
  obtain ⟨parsed, hp, -⟩ := id hc
  obtain ⟨req', v, hok⟩ :=
    readHttpRequest_reads hL hc (.inr (by omega)) hn (delivers_byte inp) (readsAtMost_byte inp)
  obtain ⟨e, v', herr⟩ : ∃ e v', readHttpRequest L (.accepted (lateEnv n) inp) = .error e v' :=
    late_fails (hL.take hp) hn hcross hlong _ rfl rfl rfl rfl (head_pos hL hp)
  intro h
  have := h _ _ (delivers_byte inp) (delivers_late n inp)
  rw [hok, herr] at this
  exact this

/-! ## The exact condition -/

/-- **The reads a request arrives in do not matter exactly if** a head within the
bound has room for the rest of its last read, or all the client sends is within the bound. -/
theorem segmentation_irrelevant_iff {L : Libs} (hL : L.HeadLocal) (inp : Bytes) :
    SegmentationIrrelevant L inp ↔ ∀ req n, ClientHead L inp req n → n ≤ MAX_HEADER_SIZE →
      n + 1023 ≤ MAX_HEADER_SIZE ∨ inp.length ≤ MAX_HEADER_SIZE := by
  constructor
  · intro h req n hc hn
    rcases Nat.lt_or_ge MAX_HEADER_SIZE (n + 1023) with hcross | hcross
    · rcases Nat.lt_or_ge MAX_HEADER_SIZE inp.length with hlong | hlong
      · exact absurd h (segmentation_matters hL hc hn hcross hlong)
      · exact .inr hlong
    · exact .inl hcross
  · intro h w w' hd hd'
    -- where one way of splitting succeeds, every way does
    have hall : ∀ {w w' v req}, Delivers inp w → Delivers inp w' → readHttpRequest L w = .ok req v →
        ∃ req' v', readHttpRequest L w' = .ok req' v' := by
      intro w w' v req hd hd' hok
      obtain ⟨n, hc, hn, -⟩ := clientHead_of_read hL.toHeadStable hd hok
      refine readHttpRequest_reads hL hc ?_ hn hd' (.inl (Nat.le_refl _))
      have := h req n hc hn
      omega
    cases hr : readHttpRequest L w with
    | ok req v =>
      obtain ⟨req', v', hr'⟩ := hall hd hd' hr
      have := sameRequest_of_ok hL.toHeadStable hd hd' hr hr'
      rwa [hr] at this
    | error e v =>
      cases hr' : readHttpRequest L w' with
      | error e' v' => exact trivial
      | ok req' v' =>
        obtain ⟨req, v₁, hr₁⟩ := hall hd' hd hr'
        rw [hr] at hr₁
        cases hr₁

theorem segmentation_irrelevant_iff_short :
    SegmentationIrrelevant plainLibs (Utf8.encode "GET / HTTP/1.1\r\n\r\nabc") :=
  (segmentation_irrelevant_iff plainLibs_headLocal _).2 fun _ _ _ _ => .inr (by decide)

/-- A request for a target of `k + 1` characters, without headers. -/
def longTarget (k : Nat) : Http1.Head where
  method := [0x47, 0x45, 0x54]
  target := 0x2F :: List.replicate k 0x61
  minor := 0x31
  fields := []

theorem longTarget_length (k : Nat) : (longTarget k).print.length = k + 18 := by
  simp [longTarget, Http1.Head.print, Http1.Head.lines, Http1.Head.startLine, Http1.crlf,
    Http1.versionText]

theorem longTarget_wellFormed (k : Nat) : (longTarget k).WellFormed where
  method := ⟨by simp [longTarget], by simp only [longTarget]; exact forall_mem_of_all (by decide)⟩
  target := by
    refine ⟨by simp [longTarget], fun c hc => ?_⟩
    have : c = 0x2F ∨ c = 0x61 := by
      rcases List.mem_cons.1 hc with rfl | hc
      · exact .inl rfl
      · exact .inr (List.eq_of_mem_replicate hc)
    rcases this with rfl | rfl
    · decide
    · decide
  minor := .inr rfl
  fields := by simp [longTarget]

theorem clientHead_longTarget (k : Nat) (rest : Bytes) :
    ∃ req, ClientHead plainLibs ((longTarget k).print ++ rest) req (k + 18) := by
  have hp := plainLibs_readsHeads _ (longTarget_wellFormed k) (Nat.zero_le _) rest
  rw [longTarget_length] at hp
  refine ⟨⟨Utf8.ofAscii (longTarget k).method, Utf8.ofAscii (longTarget k).target, "HTTP/1.1", [], []⟩,
    _, hp, requestOf_ok.2 ⟨rfl, rfl, rfl, rfl, rfl, ?_, rfl⟩⟩
  rw [List.length_append, longTarget_length]
  exact Nat.le_add_right _ _

/-- **A head of just `MAX_HEADER_SIZE` bytes is refused if a byte of the body
arrives with its end**, and read if not. -/
theorem late_head_refused : ¬ SegmentationIrrelevant plainLibs ((longTarget 65518).print ++ [0x61]) := by
  obtain ⟨req, hc⟩ := clientHead_longTarget 65518 [0x61]
  refine segmentation_matters plainLibs_headLocal hc (by decide) (by decide) ?_
  rw [List.length_append, longTarget_length]
  decide

end TinySocks.L3
