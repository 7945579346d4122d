import TinySocks.L2Stream.Conn

/-!
# What a protocol step does to a connection

`Advance c out w w'`: between `w` and `w'` the handler consumed exactly the
client bytes `c`, wrote exactly `out` to the client, and did nothing else but
update statistics. Advances compose (`Advance.trans`), so the bytes a sequence
of readers consumed are the concatenation of what each of them reports, for
every way the environment splits the stream.

`Quiet` forgets the bytes; it is the frame of every protocol step, whatever
its outcome. Behind it stands `Emits p`, the frame of whatever adds events of one
kind to the trace. `Env.ClientReliable` excludes faults on the client's side; under
it a reader succeeds as soon as its bytes are there (`Reads`).
-/
namespace TinySocks.L2

open TinySocks.Core TinySocks.L1

def Ev.isProtocol : Ev → Bool
  | .read _ | .write _ | .stat _ => true
  | _ => false

def Ev.isRead : Ev → Bool
  | .read _ => true
  | _ => false

structure Advance (c out : Bytes) (w w' : World) : Prop where
  env : w'.env = w.env
  relay : w'.relay = w.relay
  evs : ∃ evs, w'.trace = w.trace ++ evs ∧ (∀ e ∈ evs, e.isProtocol = true) ∧ written evs = out ∧
    w.stream.pending ++ received evs = c ++ w'.stream.pending ∧
    w.stream.stream = received evs ++ w'.stream.stream

theorem Advance.refl (w : World) : Advance [] [] w w :=
  ⟨rfl, rfl, [], by simp [written, received]⟩

theorem Advance.trans {c c' out out' : Bytes} {w w' w'' : World} (h : Advance c out w w')
    (h' : Advance c' out' w' w'') : Advance (c ++ c') (out ++ out') w w'' := by
  obtain ⟨he, hr, evs, ht, hp, hw, hpend, hs⟩ := h
  obtain ⟨he', hr', evs', ht', hp', hw', hpend', hs'⟩ := h'
  refine ⟨he'.trans he, hr'.trans hr, evs ++ evs', ?_, ?_, ?_, ?_, ?_⟩
  · rw [ht', ht, List.append_assoc]
  · intro e hm
    rcases List.mem_append.1 hm with hm | hm
    · exact hp e hm
    · exact hp' e hm
  · rw [written_append, hw, hw']
  · rw [received_append, ← List.append_assoc, hpend, List.append_assoc, hpend', List.append_assoc]
  · rw [hs, hs', received_append, List.append_assoc]

/-- What was consumed is what is no longer unread. -/
theorem Advance.unread {c out : Bytes} {w w' : World} (h : Advance c out w w') :
    w.stream.unread = c ++ w'.stream.unread := by
  obtain ⟨-, -, evs, -, -, -, hpend, hs⟩ := h
  unfold PrefixedStream.unread
  rw [hs, ← List.append_assoc, hpend, List.append_assoc]

/-- What was written before goes first. -/
theorem Advance.written {c out : Bytes} {w w' : World} (h : Advance c out w w') :
    written w'.trace = written w.trace ++ out := by
  obtain ⟨-, -, evs, ht, -, hw, -⟩ := h
  rw [ht, written_append, hw]

theorem advance_emit {e : Ev} (he : e.isProtocol = true) (hr : received [e] = []) (w : World) :
    Advance [] (written [e]) w { w with trace := w.trace ++ [e] } :=
  ⟨rfl, rfl, [e], rfl, by simpa using he, rfl, by simp [hr], by simp [hr]⟩

/-! ## Frames -/

/-- The trace grows, by events of this kind. -/
def Emits (p : Ev → Bool) (w w' : World) : Prop :=
  w'.env = w.env ∧ ∃ evs, w'.trace = w.trace ++ evs ∧ ∀ e ∈ evs, p e = true

theorem emits_frame (p : Ev → Bool) : Frame (Emits p) where
  refl w := ⟨rfl, [], by simp, by simp⟩
  trans := by
    intro w w' w'' h hx
    obtain ⟨he, evs, ht, hp⟩ := h
    obtain ⟨he', evs', ht', hp'⟩ := hx
    refine ⟨he'.trans he, evs ++ evs', by rw [ht', ht, List.append_assoc], fun e hm => ?_⟩
    rcases List.mem_append.1 hm with hm | hm
    · exact hp e hm
    · exact hp' e hm

theorem Emits.mono {p q : Ev → Bool} {w w' : World} (h : Emits p w w')
    (hpq : ∀ e, p e = true → q e = true) : Emits q w w' := by
  obtain ⟨he, evs, ht, hp⟩ := h
  exact ⟨he, evs, ht, fun e hm => hpq e (hp e hm)⟩

theorem emits_emit {p : Ev → Bool} {e : Ev} (he : p e = true) (w : World) :
    Emits p w { w with trace := w.trace ++ [e] } := ⟨rfl, [e], rfl, by simpa using he⟩

theorem Advance.emits {p : Ev → Bool} {c out : Bytes} {w w' : World}
    (hp : ∀ e, e.isProtocol = true → p e = true) (h : Advance c out w w') : Emits p w w' := by
  obtain ⟨he, -, evs, ht, hev, -⟩ := h
  exact ⟨he, evs, ht, fun e hm => hp e (hev e hm)⟩

/-- Everything but the counting of connections. -/
def Ev.isHandlers : Ev → Bool
  | .stat op => op.isHandlers
  | _ => true

/-- Nothing but protocol events happened, on the same connection. -/
structure Quiet (w w' : World) : Prop where
  advance : ∃ c out, Advance c out w w'
  emits : Emits Ev.isHandlers w w'

theorem quiet_frame : Frame Quiet where
  refl w := ⟨⟨[], [], .refl w⟩, (emits_frame _).refl w⟩
  trans := by
    intro _ _ _ hx hp
    obtain ⟨⟨_, _, h⟩, he⟩ := hx
    obtain ⟨⟨_, _, h'⟩, he'⟩ := hp
    exact ⟨⟨_, _, h.trans h'⟩, (emits_frame _).trans he he'⟩

theorem quiet_emit {e : Ev} (hp : e.isProtocol = true) (hr : received [e] = [])
    (he : e.isHandlers = true) (w : World) : Quiet w { w with trace := w.trace ++ [e] } :=
  ⟨⟨_, _, advance_emit hp hr w⟩, emits_emit he w⟩

/-! ## Wrappers -/

section Wrappers
variable {α : Type}

theorem withTimeout_ok {action : Str} {m : IoM α} {w w' : World} {a : α} :
    withTimeout action m w = .ok a w' ↔ m w = .ok a w' := by
  unfold withTimeout EStateM.adaptExcept
  cases m w with
  | ok b v =>
    constructor <;> intro h <;> cases h <;> rfl
  | error e v =>
    constructor <;> intro h <;> cases h

theorem Keeps.withTimeout {R : World → World → Prop} {m : IoM α} (h : Keeps R m) (action : Str) :
    Keeps R (withTimeout action m) := by
  intro w
  have hw := h w
  unfold TinySocks.L2.withTimeout EStateM.adaptExcept
  cases hm : m w <;> rw [hm] at hw <;> exact hw

theorem inspectErr_apply (m : M α) (look : Str → M Unit) (w : World) :
    inspectErr m look w = match m w with
      | .ok a w' => .ok a w'
      | .error (.failed message) w' => (look message >>= fun _ => throw (.failed message)) w'
      | .error e w' => .error e w' := by
  unfold inspectErr
  cases hm : m w with
  | ok a w' => exact tryCatch_of_ok hm
  | error e w' =>
    rw [tryCatch_of_error hm]
    cases e <;> rfl

theorem inspectErr_ok {m : M α} {look : Str → M Unit} {w w' : World} {a : α} :
    inspectErr m look w = .ok a w' ↔ m w = .ok a w' := by
  rw [inspectErr_apply]
  cases hm : m w with
  | ok b v => exact Iff.rfl
  | error e v =>
    cases e with
    | failed message =>
      simp only [reduceCtorEq, iff_false]
      intro h
      obtain ⟨_, _, _, h⟩ := bind_eq_ok.1 h
      cases h
    | panicked => simp
    | waiting => simp

theorem Keeps.inspectErr {R : World → World → Prop} (hR : Frame R) {m : M α} {look : Str → M Unit}
    (hm : Keeps R m) (hl : ∀ message, Keeps R (look message)) : Keeps R (inspectErr m look) := by
  intro w
  have hw := hm w
  rw [inspectErr_apply]
  cases h : m w with
  | ok a w' =>
    rw [h] at hw
    exact hw
  | error e w' =>
    rw [h] at hw
    cases e with
    | failed message =>
      exact hR.trans hw (Keeps.bind hR (hl message) (fun _ => Keeps.throw hR _) w')
    | panicked => exact hw
    | waiting => exact hw

end Wrappers

/-! ## Emitting -/

section
variable {ε : Type}

@[simp] theorem emit_apply (e : Ev) (w : World) :
    (emit e : EStateM ε World Unit) w = .ok () { w with trace := w.trace ++ [e] } := rfl

@[simp] theorem ask_apply {α : Type} (f : Env → Trace → α) (w : World) :
    (ask f : EStateM ε World α) w = .ok (f w.env w.trace) w := rfl

theorem advance_stat (op : StatOp) (w : World) :
    Advance [] [] w { w with trace := w.trace ++ [.stat op] } :=
  advance_emit (e := .stat op) rfl rfl w

theorem keeps_stat {op : StatOp} (hop : op.isHandlers = true) :
    Keeps Quiet (stat op : EStateM ε World Unit) := quiet_emit (e := .stat op) rfl rfl hop

theorem keeps_ask {R : World → World → Prop} (hR : Frame R) {α : Type} (f : Env → Trace → α) :
    Keeps R (ask f : EStateM ε World α) := fun w => hR.refl w

end

theorem reportFailure_apply (op : StatOp) (message : Str) (w : World) :
    reportFailure op message w = .ok ()
      { w with trace := w.trace ++ [.stat op, .stat (.recordError message)] } := by
  show EStateM.Result.ok () _ = _
  simp

theorem keeps_reportFailure {op : StatOp} (hop : op.isHandlers = true) (message : Str) :
    Keeps Quiet (reportFailure op message) :=
  Keeps.bind quiet_frame (keeps_stat hop) fun _ => keeps_stat rfl

theorem keeps_bail {R : World → World → Prop} (hR : Frame R) {α : Type} (message : Str) :
    Keeps R (bail message : M α) := fun w => hR.refl w

theorem liftResult_ok {α : Type} {r : Except Str α} {w w' : World} {a : α}
    (h : liftResult r w = .ok a w') : r = .ok a ∧ w' = w := by
  cases r with
  | ok b =>
    cases h
    exact ⟨rfl, rfl⟩
  | error message => cases h

theorem keeps_liftResult {R : World → World → Prop} (hR : Frame R) {α : Type} (r : Except Str α) :
    Keeps R (liftResult r) := by
  cases r with
  | ok a => exact Keeps.pure hR a
  | error message => exact keeps_bail hR message

@[simp] theorem bail_apply {α : Type} (message : Str) (w : World) :
    (bail message : M α) w = .error (.failed message) w := rfl

/-! ## Reading -/

theorem read_ok {cap : Nat} {w w' : World} {b : Bytes} (h : read cap w = .ok b w') :
    Advance b [] w w' ∧ b.length ≤ cap ∧ (b = [] → 0 < cap → w.stream.unread = []) := by
  unfold read at h
  split at h
  · rename_i hc
    cases h
    refine ⟨⟨rfl, rfl, [], by simp, by simp, rfl, ?_, rfl⟩, ?_, ?_⟩
    · simp only [received, List.flatMap_nil, List.append_nil, PrefixedStream.pending]
      rw [← List.drop_drop, List.take_append_drop]
    · simp only [List.length_take]
      omega
    · intro hb _
      have := congrArg List.length hb
      simp at this
      omega
  · rename_i hc
    split at h
    · cases h
    · cases h
      refine ⟨⟨rfl, rfl, [.read _], rfl, by simp [Ev.isProtocol], rfl, ?_, ?_⟩, ?_, ?_⟩
      · simp only [received, List.flatMap_cons, List.flatMap_nil, List.append_nil]
        by_cases hcap : 0 < cap
        · have hp : w.stream.pending = [] := by
            unfold PrefixedStream.pending
            rw [List.drop_eq_nil_iff]
            omega
          simp only [PrefixedStream.pending] at hp ⊢
          rw [hp, List.append_nil, List.nil_append]
        · have h0 : cap = 0 := by omega
          simp [h0, PrefixedStream.pending]
      · simp [received]
      · simp only [List.length_take]
        omega
      · intro hb hcap
        have := congrArg List.length hb
        simp only [List.length_take, List.length_nil] at this
        have hs : w.stream.stream = [] := by
          apply List.eq_nil_of_length_eq_zero
          omega
        have hp : w.stream.pending = [] := by
          unfold PrefixedStream.pending
          rw [List.drop_eq_nil_iff]
          omega
        simp [PrefixedStream.unread, hs, hp]

/-- A read does not bring the prefix back. -/
theorem read_pending {cap : Nat} {w w' : World} {b : Bytes} (h : read cap w = .ok b w')
    (hp : w.stream.pending = []) : w'.stream.pending = [] := by
  unfold read at h
  split at h
  · cases h
    simp only [PrefixedStream.pending, List.drop_eq_nil_iff] at hp ⊢
    omega
  · split at h
    · cases h
    · cases h
      exact hp

/-- A read leaves one event at most, on success and on failure. -/
theorem keeps_read_emits {p : Ev → Bool} (hp : ∀ b, p (.read b) = true) (cap : Nat) :
    Keeps (Emits p) (read cap) := by
  intro w
  unfold read
  split
  · exact ⟨rfl, [], by simp, by simp⟩
  · split
    · exact (emits_frame p).refl w
    · exact ⟨rfl, [.read _], rfl, by simpa using hp _⟩

theorem keeps_read (cap : Nat) : Keeps Quiet (read cap) := by
  intro w
  cases h : read cap w with
  | ok b w' =>
    have he := keeps_read_emits (p := Ev.isHandlers) (fun _ => rfl) cap w
    rw [h] at he
    exact ⟨⟨_, _, (read_ok h).1⟩, he⟩
  | error f w' =>
    unfold read at h
    split at h
    · cases h
    · split at h
      · cases h
        exact quiet_frame.refl w
      · cases h

theorem readExactGo_ok : ∀ (fuel need : Nat) {w w' : World} {b : Bytes},
    readExactGo fuel need w = .ok b w' → Advance b [] w w' ∧ b.length = need := by
  intro fuel
  induction fuel with
  | zero =>
    intro need w w' b h
    cases need with
    | zero =>
      cases h
      exact ⟨.refl w, rfl⟩
    | succ need => cases h
  | succ fuel ih =>
    intro need w w' b h
    cases need with
    | zero =>
      cases h
      exact ⟨.refl w, rfl⟩
    | succ need =>
      obtain ⟨b₁, w₁, h₁, h⟩ := bind_eq_ok.1 h
      obtain ⟨ha₁, hl₁, -⟩ := read_ok h₁
      split at h
      · cases h
      · obtain ⟨b₂, w₂, h₂, h⟩ := bind_eq_ok.1 h
        obtain ⟨ha₂, hl₂⟩ := ih _ h₂
        cases h
        refine ⟨ha₁.trans ha₂, ?_⟩
        rw [List.length_append]
        omega

theorem keeps_readExactGo : ∀ fuel need, Keeps Quiet (readExactGo fuel need) := by
  intro fuel
  induction fuel with
  | zero =>
    intro need
    cases need with
    | zero => exact Keeps.pure quiet_frame _
    | succ need => exact Keeps.throw quiet_frame _
  | succ fuel ih =>
    intro need
    cases need with
    | zero => exact Keeps.pure quiet_frame _
    | succ need =>
      refine Keeps.bind quiet_frame (keeps_read _) fun b => ?_
      refine Keeps.ite (Keeps.throw quiet_frame _) ?_
      exact Keeps.bind quiet_frame (ih _) fun _ => Keeps.pure quiet_frame _

theorem readWithTimeout_ok {cap : Nat} {action : Str} {w w' : World} {b : Bytes}
    (h : readWithTimeout cap action w = .ok b w') :
    Advance b [] w w' ∧ b.length ≤ cap ∧ (b = [] → 0 < cap → w.stream.unread = []) :=
  read_ok (withTimeout_ok.1 h)

theorem keeps_readWithTimeout (cap : Nat) (action : Str) :
    Keeps Quiet (readWithTimeout cap action) := Keeps.withTimeout (keeps_read cap) action

/-- Whoever reads an exact number of bytes consumes exactly these. -/
theorem readExactWithTimeout_ok {n : Nat} {action : Str} {w w' : World} {b : Octets n}
    (h : readExactWithTimeout n action w = .ok b w') : Advance b.1 [] w w' := by
  obtain ⟨b', w₁, h₁, h₂⟩ := bind_eq_ok.1 (withTimeout_ok.1 h)
  obtain ⟨ha, hl⟩ := readExactGo_ok _ _ h₁
  cases h₂
  rw [Octets.fill_eq hl]
  exact ha

theorem keeps_readExactWithTimeout (n : Nat) (action : Str) :
    Keeps Quiet (readExactWithTimeout n action) :=
  Keeps.withTimeout (Keeps.bind quiet_frame (keeps_readExactGo n n) fun _ => Keeps.pure quiet_frame _)
    action

/-! ## Writing -/

theorem writeAllBy_apply (fault : Env → Trace → Bytes → Option (Nat × Fault)) (ev : Bytes → Ev)
    (b : Bytes) (w : World) :
    writeAllBy fault ev b w = match fault w.env w.trace b with
      | none => .ok () { w with trace := w.trace ++ [ev b] }
      | some (n, f) => .error f { w with trace := w.trace ++ [ev (b.take n)] } := by
  unfold writeAllBy
  rw [bind_apply, ask_apply]
  show (match fault w.env w.trace b with
    | none => _
    | some (n, f) => _ : IoM Unit) w = _
  cases fault w.env w.trace b <;> rfl

theorem writeAllBy_ok {fault : Env → Trace → Bytes → Option (Nat × Fault)} {ev : Bytes → Ev}
    {b : Bytes} {w w' : World} (h : writeAllBy fault ev b w = .ok () w') :
    w' = { w with trace := w.trace ++ [ev b] } := by
  rw [writeAllBy_apply] at h
  cases hf : fault w.env w.trace b with
  | none =>
    rw [hf] at h
    cases h
    rfl
  | some p =>
    rw [hf] at h
    cases h

/-- A write leaves one event, on success and on failure. -/
theorem keeps_writeAllBy {R : World → World → Prop} {ev : Bytes → Ev}
    (hR : ∀ w b, R w { w with trace := w.trace ++ [ev b] })
    (fault : Env → Trace → Bytes → Option (Nat × Fault)) (b : Bytes) :
    Keeps R (writeAllBy fault ev b) := by
  intro w
  rw [writeAllBy_apply]
  cases fault w.env w.trace b with
  | none => exact hR w b
  | some p => exact hR w _

theorem writeAllWithTimeout_ok {b : Bytes} {action : Str} {w w' : World}
    (h : writeAllWithTimeout b action w = .ok () w') : Advance [] b w w' := by
  rw [writeAllBy_ok (withTimeout_ok.1 h)]
  simpa [written] using advance_emit (e := .write b) rfl rfl w

theorem keeps_writeAllWithTimeout (b : Bytes) (action : Str) :
    Keeps Quiet (writeAllWithTimeout b action) :=
  Keeps.withTimeout
    (keeps_writeAllBy (fun w b => quiet_emit (e := .write b) rfl rfl rfl w) _ b) action

/-! ## Without faults on the client's side -/

/-- The client's socket neither fails nor times out. -/
structure Env.ClientReliable (env : Env) : Prop where
  setNodelay : ∀ t, env.setNodelay t = none
  localAddr : ∀ t, ∃ a, env.localAddr t = .ok a
  read : ∀ t, env.readFault t = none
  write : ∀ t b, env.writeFault t b = none

theorem calm_clientReliable (inputs : List UdpInput) (down : Bytes) :
    (Env.calm inputs down).ClientReliable :=
  ⟨fun _ => rfl, fun _ => ⟨_, rfl⟩, fun _ => rfl, fun _ _ => rfl⟩

/-- `m` takes `c` off the client's bytes, writes `out` and returns `a`,
whatever follows `c` and however the bytes arrive. -/
def Reads {α : Type} (m : M α) (c out : Bytes) (a : α) : Prop :=
  ∀ w rest, w.env.ClientReliable → w.stream.unread = c ++ rest →
    ∃ w', m w = .ok a w' ∧ Advance c out w w'

theorem Reads.pure {α : Type} (a : α) : Reads (pure a) [] [] a :=
  fun w _ _ _ => ⟨w, rfl, .refl w⟩

theorem Reads.seq {α β : Type} {m : M α} {f : α → M β} {c c' d out out' o : Bytes} {a : α} {b : β}
    (hm : Reads m c out a) (hf : Reads (f a) c' out' b) (hc : c ++ c' = d) (ho : out ++ out' = o) :
    Reads (m >>= f) d o b := by
  subst hc ho
  intro w rest he hu
  rw [List.append_assoc] at hu
  obtain ⟨w₁, h₁, ha₁⟩ := hm w _ he hu
  have hu₁ : w₁.stream.unread = c' ++ rest := by
    rw [ha₁.unread] at hu
    exact List.append_cancel_left hu
  obtain ⟨w₂, h₂, ha₂⟩ := hf w₁ rest (ha₁.env ▸ he) hu₁
  exact ⟨w₂, bind_eq_ok.2 ⟨a, w₁, h₁, h₂⟩, ha₁.trans ha₂⟩

theorem Reads.inspectErr {α : Type} {m : M α} {c out : Bytes} {a : α} (h : Reads m c out a)
    (look : Str → M Unit) : Reads (inspectErr m look) c out a := by
  intro w rest he hu
  obtain ⟨w', hm, ha⟩ := h w rest he hu
  exact ⟨w', inspectErr_ok.2 hm, ha⟩

theorem read_total (cap : Nat) {w : World} (he : w.env.ClientReliable) :
    ∃ b w', read cap w = .ok b w' := by
  unfold read
  split
  · exact ⟨_, _, rfl⟩
  · rw [he.read]
    exact ⟨_, _, rfl⟩

theorem readExactGo_total : ∀ (fuel need : Nat) {w : World}, w.env.ClientReliable → need ≤ fuel →
    need ≤ w.stream.unread.length → ∃ b w', readExactGo fuel need w = .ok b w' := by
  intro fuel
  induction fuel with
  | zero =>
    intro need w he hf hn
    obtain rfl : need = 0 := by omega
    exact ⟨_, _, rfl⟩
  | succ fuel ih =>
    intro need w he hf hn
    cases need with
    | zero => exact ⟨_, _, rfl⟩
    | succ need =>
      obtain ⟨b, w₁, h₁⟩ := read_total (need + 1) he
      obtain ⟨ha, hl, hb⟩ := read_ok h₁
      have hne : b ≠ [] := by
        intro h0
        rw [hb h0 (by omega)] at hn
        simp at hn
      have hpos := List.length_pos_iff.2 hne
      have hu := congrArg List.length ha.unread
      rw [List.length_append] at hu
      obtain ⟨r, w₂, h₂⟩ := ih (need + 1 - b.length) (ha.env ▸ he) (by omega) (by omega)
      refine ⟨b ++ r, w₂, ?_⟩
      unfold readExactGo
      rw [bind_of_ok h₁, if_neg hne, bind_of_ok h₂]
      rfl

/-- Whoever reads an exact number of bytes gets them as soon as they are there. -/
theorem reads_readExactWithTimeout {n : Nat} (b : Octets n) (action : Str) :
    Reads (readExactWithTimeout n action) b.1 [] b := by
  intro w rest he hu
  have hn : n ≤ w.stream.unread.length := by
    rw [hu, List.length_append, b.2]
    omega
  obtain ⟨b', w', h⟩ := readExactGo_total n n he (Nat.le_refl n) hn
  have hr : readExactWithTimeout n action w = .ok (Octets.fill n b') w' :=
    withTimeout_ok.2 (bind_eq_ok.2 ⟨b', w', h, rfl⟩)
  have ha := readExactWithTimeout_ok hr
  have hb : (Octets.fill n b').1 = b.1 := by
    have h' := ha.unread
    rw [hu] at h'
    exact (List.append_inj_left h' (by rw [b.2, (Octets.fill n b').2])).symm
  rw [Subtype.ext hb] at hr ha
  exact ⟨w', hr, ha⟩

theorem reads_writeAllWithTimeout (b : Bytes) (action : Str) :
    Reads (writeAllWithTimeout b action) [] b () := by
  intro w rest he hu
  have h : writeAllWithTimeout b action w = .ok () { w with trace := w.trace ++ [.write b] } := by
    refine withTimeout_ok.2 ?_
    unfold writeAll
    rw [writeAllBy_apply, he.write]
  exact ⟨_, h, writeAllWithTimeout_ok h⟩

theorem readWithTimeout_total (cap : Nat) (action : Str) {w : World}
    (he : w.env.ClientReliable) : ∃ b w', readWithTimeout cap action w = .ok b w' := by
  obtain ⟨b, w', h⟩ := read_total cap he
  exact ⟨b, w', withTimeout_ok.2 h⟩

end TinySocks.L2
