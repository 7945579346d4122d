import Mathlib.Data.List.TakeWhile
import TinySocks.Core.Cost
import TinySocks.L4App.Gate

/-!
# What a client can make of the front end

Before a connection is served, its task reads what the client sends and answers it. How
much of both, and how often it waits for the client, is bounded, whatever the client
sends and however its bytes arrive.

* `tolls_socksCommand`, `tolls_readHttpRequest`: the two front ends.
* `front_end_bounded`: until it is served, that is all a client got.
-/
namespace TinySocks.L4

open TinySocks.Core TinySocks.L1 TinySocks.L2 TinySocks.L3

/-- What a client is made to give and to wait for, and what it gets. -/
structure Toll where
  /-- bytes read from it -/
  bytes : Nat
  /-- reads, whether or not they found one -/
  reads : Nat
  /-- bytes written to it -/
  written : Nat
  deriving DecidableEq, Repr

namespace Toll

instance : Zero Toll := ⟨⟨0, 0, 0⟩⟩

instance : Add Toll := ⟨fun a b => ⟨a.bytes + b.bytes, a.reads + b.reads, a.written + b.written⟩⟩

instance : LE Toll := ⟨fun a b => a.bytes ≤ b.bytes ∧ a.reads ≤ b.reads ∧ a.written ≤ b.written⟩

theorem le_def {a b : Toll} : a ≤ b ↔ a.bytes ≤ b.bytes ∧ a.reads ≤ b.reads ∧ a.written ≤ b.written :=
  Iff.rfl

theorem add_def (a b : Toll) :
    a + b = ⟨a.bytes + b.bytes, a.reads + b.reads, a.written + b.written⟩ := rfl

theorem zero_def : (0 : Toll) = ⟨0, 0, 0⟩ := rfl

instance : AddCommMonoid Toll where
  nsmul := nsmulRec
  add_assoc a b c := by
    simp only [add_def, Nat.add_assoc]
  zero_add a := by
    simp only [add_def, zero_def, Nat.zero_add]
  add_zero a := by
    simp only [add_def, zero_def, Nat.add_zero]
  add_comm a b := by
    simp only [add_def, Nat.add_comm]

instance : PartialOrder Toll where
  le_refl a := by
    simp only [le_def, Nat.le_refl, and_self]
  le_trans a b c hab hbc := by
    simp only [le_def] at *
    omega
  le_antisymm a b hab hba := by
    obtain ⟨bytes, reads, written⟩ := a
    obtain ⟨bytes', reads', written'⟩ := b
    simp only [le_def] at hab hba
    simp only [mk.injEq]
    omega

instance : IsOrderedAddMonoid Toll where
  add_le_add_left a b h c := by
    simp only [le_def, add_def] at *
    omega

instance : CanonicallyOrderedAdd Toll where
  exists_add_of_le {a b} h := by
    obtain ⟨bytes, reads, written⟩ := b
    simp only [le_def] at h
    refine ⟨⟨bytes - a.bytes, reads - a.reads, written - a.written⟩, ?_⟩
    simp only [add_def, mk.injEq]
    omega
  le_self_add a b := by
    simp only [le_def, add_def]
    omega
  le_add_self a b := by
    simp only [le_def, add_def]
    omega

end Toll

def Ev.toll : Ev → Toll
  | .read b => ⟨b.length, 1, 0⟩
  | .write b => ⟨0, 0, b.length⟩
  | _ => 0

/-- What a program costs its client before it serves it. -/
abbrev Tolls {ε α : Type} (w : World) (m : EStateM ε World α) (n : Toll) : Prop :=
  Spends World.trace Ev.toll isService w m n

/-! ## Reading -/

section
variable {w : World}

/-- A read takes bytes that are replayed, fails, or takes bytes from the socket. -/
theorem read_steps (cap : Nat) (w : World) :
    (∃ w', L2.read cap w = .ok (w.stream.pending.take cap) w' ∧ w'.trace = w.trace ∧
      w'.stream.pending = w.stream.pending.drop cap ∧ w.stream.pending ≠ []) ∨
    (∃ f, L2.read cap w = .error f w) ∨
    (∃ b w', L2.read cap w = .ok b w' ∧ w'.trace = w.trace ++ [.read b] ∧ b.length ≤ cap ∧
      w'.stream.pending = w.stream.pending ∧ (0 < cap → w.stream.pending = [])) := by
  have hpending : w.stream.pending.length = w.stream.pre.length - w.stream.cursor := by
    simp [PrefixedStream.pending]
  unfold L2.read
  split
  · refine .inl ⟨_, congrArg (EStateM.Result.ok · _) ?_, rfl, ?_, fun hnil => ?_⟩
    · simp only [PrefixedStream.pending]
      rw [List.take_eq_take_iff]
      omega
    · simp only [PrefixedStream.pending, List.drop_drop]
      rw [List.drop_eq_drop_iff]
      simp only [List.length_drop]
      omega
    · rw [hnil] at hpending
      simp only [List.length_nil] at hpending
      omega
  · cases hf : w.env.readFault w.trace with
    | some f => exact .inr (.inl ⟨f, rfl⟩)
    | none =>
      refine .inr (.inr ⟨_, _, rfl, rfl, ?_, rfl, fun hcap => ?_⟩)
      · simp only [List.length_take]
        omega
      · refine List.eq_nil_of_length_eq_zero ?_
        omega

theorem outlay_read (b : Bytes) : outlay Ev.toll isService [.read b] = ⟨b.length, 1, 0⟩ := rfl

/-- What is replayed need not be read again. -/
theorem readExactGo_tolls : ∀ fuel need (w : World), Tolls w (readExactGo fuel need)
    ⟨need - w.stream.pending.length, need - w.stream.pending.length, 0⟩ := by
  intro fuel
  induction fuel with
  | zero =>
    intro need w
    cases need with
    | zero => exact .pure _
    | succ need => exact .throw _
  | succ fuel ih =>
    intro need w
    cases need with
    | zero => exact .pure _
    | succ need =>
      have hrest : ∀ (b : Bytes) (w' : World), Tolls w' (if b = [] then throw earlyEof else do
          let rest ← readExactGo fuel (need + 1 - b.length)
          pure (b ++ rest)) (if b = [] then 0 else ⟨need + 1 - b.length - w'.stream.pending.length,
            need + 1 - b.length - w'.stream.pending.length, 0⟩) := by
        intro b w'
        split
        · exact .throw _
        · rw [← add_zero (Toll.mk _ _ _)]
          exact (ih _ w').bind fun _ _ _ => .pure _
      rcases read_steps (need + 1) w with ⟨w', hr, ht, hp, hne⟩ | ⟨f, hr⟩ | ⟨b, w', hr, ht, hb, hp, hnil⟩
      · have hread : outlay Ev.toll isService [] ≤ 0 := le_refl 0
        refine Spends.mono (Spends.after hr (by rw [ht, List.append_nil]) hread (hrest _ w')) ?_
        rw [if_neg (by simp [hne])]
        simp only [Toll.le_def, Toll.add_def, Toll.zero_def, hp, List.length_take, List.length_drop]
        omega
      · exact .bind_error hr
      · refine Spends.mono (Spends.after hr ht (le_of_eq (outlay_read b)) (hrest b w')) ?_
        have hpending : w.stream.pending.length = 0 := by rw [hnil (Nat.succ_pos need)]; rfl
        by_cases hb0 : b = []
        · rw [if_pos hb0]
          simp only [Toll.le_def, Toll.add_def, Toll.zero_def]
          omega
        · have hpositive := List.length_pos_iff.2 hb0
          rw [if_neg hb0]
          simp only [Toll.le_def, Toll.add_def, hp]
          omega

theorem readExactWithTimeout_tolls (n : Nat) (action : Str) (w : World) :
    Tolls w (readExactWithTimeout n action)
      ⟨n - w.stream.pending.length, n - w.stream.pending.length, 0⟩ := by
  refine Spends.adapt ?_ _
  unfold readExact
  rw [← add_zero (Toll.mk _ _ _)]
  exact (readExactGo_tolls n n w).bind fun _ _ _ => .pure _

theorem readExactWithTimeout_le (n : Nat) (action : Str) (w : World) :
    Tolls w (readExactWithTimeout n action) ⟨n, n, 0⟩ := by
  refine (readExactWithTimeout_tolls n action w).mono ?_
  simp only [Toll.le_def]
  omega

theorem writeAllWithTimeout_tolls (b : Bytes) (action : Str) (w : World) :
    Tolls w (writeAllWithTimeout b action) ⟨0, 0, b.length⟩ := by
  refine Spends.adapt ?_ _
  unfold writeAll
  rw [Spends, writeAllBy_apply]
  cases w.env.writeFault w.trace b with
  | none => exact ⟨[.write b], rfl, le_refl _⟩
  | some f =>
    refine ⟨[.write (b.take f.1)], rfl, ?_⟩
    show Toll.mk 0 0 (b.take f.1).length ≤ _
    simp [Toll.le_def]

/-! ## The SOCKS5 front end -/

variable {ε α β : Type} {m n k : Toll}

theorem tolls_bind {x : EStateM ε World α} {f : α → EStateM ε World β} (hx : Tolls w x n)
    (hf : ∀ a w', x w = .ok a w' → Tolls w' (f a) k) (h : n + k ≤ m) : Tolls w (x >>= f) m :=
  (hx.bind hf).mono h

/-- What follows is free. -/
theorem tolls_free {x : EStateM ε World α} {f : α → EStateM ε World β} (hx : Tolls w x n)
    (hf : ∀ a w', x w = .ok a w' → Tolls w' (f a) 0) : Tolls w (x >>= f) n :=
  tolls_bind hx hf (le_of_eq (add_zero n))

theorem tolls_bail (message : Str) : Tolls w (bail message : M α) n := .throw _

theorem tolls_stat (op : StatOp) : Tolls w (stat op : M Unit) 0 := ⟨[.stat op], rfl, le_refl _⟩

theorem tolls_reportFailure (op : StatOp) (message : Str) : Tolls w (reportFailure op message) 0 :=
  tolls_free (tolls_stat op) fun _ _ _ => tolls_stat _

theorem tolls_inspectErr {x : M α} {look : Str → M Unit} (hx : Tolls w x n)
    (hlook : ∀ message w', Tolls w' (look message) 0) : Tolls w (inspectErr x look) n := by
  have hcatch : Tolls w (inspectErr x look) (n + 0) := hx.catch fun e w' _ => by
    cases e with
    | failed message => exact tolls_free (hlook message w') fun _ _ _ => .throw _
    | panicked => exact .throw _
    | waiting => exact .throw _
  rwa [add_zero] at hcatch

theorem tolls_liftResult (r : Except Str α) : Tolls w (liftResult r) n := by
  cases r with
  | ok a => exact .pure a
  | error message => exact .throw _

/-- A greeting, one byte of which is replayed, and its answer. -/
theorem tolls_handshake (method : AuthMethod) (h : 1 ≤ w.stream.pending.length) :
    Tolls w (handshake method) ⟨256, 256, 2⟩ := by
  refine tolls_bind (m := ⟨256, 256, 2⟩) (k := ⟨255, 255, 2⟩) (readExactWithTimeout_tolls 2 _ w)
    (fun buf w₁ _ => ?_) ?_
  · split
    · exact tolls_bail _
    · have hlen : (buf.byte 1).toNat ≤ 255 := Nat.le_of_lt_succ (buf.byte 1).toNat_lt
      refine tolls_bind (k := ⟨0, 0, 2⟩) (readExactWithTimeout_le _ _ w₁) (fun methods w₂ _ => ?_) ?_
      · simp only
        split
        · exact tolls_free (writeAllWithTimeout_tolls _ _ w₂) fun _ _ _ => tolls_bail _
        · exact writeAllWithTimeout_tolls _ _ w₂
      · simp only [Toll.le_def, Toll.add_def]
        omega
  · simp only [Toll.le_def, Toll.add_def]
    omega

theorem tolls_readString : Tolls w readString ⟨256, 256, 0⟩ := by
  refine tolls_bind (k := ⟨255, 255, 0⟩) (readExactWithTimeout_le 1 _ w) (fun len w₁ _ => ?_)
    (by simp [Toll.add_def])
  have hlen : len.only.toNat ≤ 255 := Nat.le_of_lt_succ len.only.toNat_lt
  refine (tolls_free (readExactWithTimeout_le _ _ w₁) fun _ _ _ => .pure _).mono ?_
  simp only [Toll.le_def]
  omega

variable {L : Libs}

theorem tolls_replyToLogin (auth : AuthConfig) (username password : Str) :
    Tolls w (replyToLogin L auth username password) ⟨0, 0, 2⟩ := by
  unfold replyToLogin
  split
  · split
    · exact writeAllWithTimeout_tolls _ _ w
    · exact tolls_free (writeAllWithTimeout_tolls _ _ w) fun _ _ _ => tolls_bail _
  · exact tolls_bail _

theorem tolls_basicAuthenticate (auth : AuthConfig) :
    Tolls w (basicAuthenticate L auth) ⟨513, 513, 2⟩ := by
  refine tolls_bind (k := ⟨512, 512, 2⟩) (readExactWithTimeout_le 1 _ w) (fun ver w₁ _ => ?_) ?_
  · split
    · exact tolls_bail _
    · refine tolls_bind (k := ⟨256, 256, 2⟩) tolls_readString (fun username w₂ _ => ?_) ?_
      · refine tolls_bind tolls_readString (fun password w₃ _ => tolls_replyToLogin _ _ _) ?_
        simp [Toll.add_def]
      · simp [Toll.add_def]
  · simp [Toll.add_def]

theorem tolls_readPort : Tolls w readPort ⟨2, 2, 0⟩ :=
  tolls_free (readExactWithTimeout_le 2 _ w) fun _ _ _ => .pure _

theorem tolls_readAddress (atyp : UInt8) : Tolls w (readAddress atyp) ⟨258, 258, 0⟩ := by
  unfold readAddress
  split
  · refine tolls_bind (k := ⟨2, 2, 0⟩) (readExactWithTimeout_le 4 _ w) (fun ip w₁ _ => ?_) ?_
    · exact tolls_free tolls_readPort fun _ _ _ => .pure _
    · simp [Toll.le_def, Toll.add_def]
  · split
    · refine tolls_bind (k := ⟨257, 257, 0⟩) (readExactWithTimeout_le 1 _ w) (fun len w₁ _ => ?_) ?_
      · have hlen : len.only.toNat ≤ 255 := Nat.le_of_lt_succ len.only.toNat_lt
        split
        · exact tolls_bail _
        · refine tolls_bind (k := ⟨2, 2, 0⟩) (readExactWithTimeout_le _ _ w₁) (fun body w₂ _ => ?_) ?_
          · refine tolls_free tolls_readPort fun port w₃ _ => ?_
            split
            · exact .pure _
            · exact tolls_bail _
          · simp only [Toll.le_def, Toll.add_def]
            omega
      · simp [Toll.add_def]
    · split
      · refine tolls_bind (k := ⟨2, 2, 0⟩) (readExactWithTimeout_le 16 _ w) (fun ip w₁ _ => ?_) ?_
        · exact tolls_free tolls_readPort fun _ _ _ => .pure _
        · simp [Toll.le_def, Toll.add_def]
      · exact tolls_bail _

theorem tolls_readRequest : Tolls w readRequest ⟨262, 262, 0⟩ := by
  refine tolls_bind (k := ⟨258, 258, 0⟩) (readExactWithTimeout_le 4 _ w) (fun header w₁ _ => ?_) ?_
  · simp only
    split
    · exact tolls_bail _
    · split
      · exact tolls_bail _
      · refine tolls_free (tolls_readAddress _) fun address w₂ _ => ?_
        split
        · exact .pure _
        · split
          · exact .pure _
          · exact tolls_bail _
  · simp [Toll.add_def]

theorem tolls_negotiate (bypassAuth : Bool) (peer : SocketAddr) (h : 1 ≤ w.stream.pending.length) :
    Tolls w (negotiate bypassAuth peer) ⟨256, 256, 2⟩ := by
  refine tolls_inspectErr (tolls_handshake _ h) fun message w' => ?_
  split
  · exact .pure _
  · exact tolls_reportFailure _ _

theorem tolls_login (bypassAuth : Bool) (auth : AuthConfig) (peer : SocketAddr) :
    Tolls w (login L bypassAuth auth peer) ⟨513, 513, 2⟩ := by
  unfold login
  split
  · exact .pure _
  · exact tolls_inspectErr (tolls_basicAuthenticate auth) fun _ _ => tolls_reportFailure _ _

/-- All of the SOCKS5 front end, behind the first byte. -/
theorem tolls_socksCommand (bypassAuth : Bool) (auth : AuthConfig) (peer : SocketAddr)
    (h : 1 ≤ w.stream.pending.length) :
    Tolls w (socksCommand L bypassAuth auth peer) ⟨1031, 1031, 4⟩ := by
  refine tolls_bind (k := ⟨775, 775, 2⟩) (tolls_negotiate bypassAuth peer h) (fun _ w₁ _ => ?_) ?_
  · refine tolls_bind (k := ⟨262, 262, 0⟩) (tolls_login bypassAuth auth peer) (fun _ w₂ _ => ?_) ?_
    · exact tolls_free tolls_readRequest fun _ _ _ => .pure _
    · simp [Toll.add_def]
  · simp [Toll.add_def]

/-! ## The HTTP front end -/

theorem tolls_liftAbort (r : Except (Abort Str) α) : Tolls w (liftAbort r) n := by
  match r with
  | .ok a => exact .pure a
  | .error (.fail message) => exact .throw _
  | .error .panic => exact .throw _

theorem readWithTimeout_of_error {cap : Nat} {action : Str} {f : Fault}
    (h : L2.read cap w = .error f w) : readWithTimeout cap action w = .error (f.toStop action) w := by
  unfold readWithTimeout withTimeout EStateM.adaptExcept
  rw [h]

/-- What follows a read: the end, or the rest of the loop. -/
theorem tolls_behindRead {fuel : Nat} {buf : Bytes}
    (ih : ∀ buf (w : World), buf.length + w.stream.pending.length ≤ MAX_HEADER_SIZE →
      Tolls w (readHttpRequestGo L fuel buf)
        ⟨MAX_HEADER_SIZE + 1024 - (buf.length + w.stream.pending.length),
          MAX_HEADER_SIZE + 1 - (buf.length + w.stream.pending.length), 0⟩)
    (chunk : Bytes) (w : World) (n : Toll)
    (hroom : (buf ++ chunk).length ≤ MAX_HEADER_SIZE →
      (buf ++ chunk).length + w.stream.pending.length ≤ MAX_HEADER_SIZE)
    (hn : chunk ≠ [] → (buf ++ chunk).length ≤ MAX_HEADER_SIZE →
      ⟨MAX_HEADER_SIZE + 1024 - ((buf ++ chunk).length + w.stream.pending.length),
        MAX_HEADER_SIZE + 1 - ((buf ++ chunk).length + w.stream.pending.length), 0⟩ ≤ n) :
    Tolls w (if chunk = [] then bail "HttpError::UnexpectedEof"
      else if (buf ++ chunk).length > MAX_HEADER_SIZE then bail "HttpError::HeaderTooLarge"
      else match L.httparse (buf ++ chunk) with
        | .complete headerEnd parsed => liftAbort (requestOf parsed (buf ++ chunk) headerEnd)
        | .more => readHttpRequestGo L fuel (buf ++ chunk)
        | .tooManyHeaders => bail "HttpError::TooManyHeaders"
        | .bad => bail "HttpError::BadRequest") n := by
  split
  · exact tolls_bail _
  rename_i hne
  split
  · exact tolls_bail _
  rename_i hsize
  have hle := Nat.le_of_not_lt hsize
  cases L.httparse (buf ++ chunk) with
  | complete headerEnd parsed => exact tolls_liftAbort _
  | more => exact (ih _ w (hroom hle)).mono (hn hne hle)
  | tooManyHeaders => exact tolls_bail _
  | bad => exact tolls_bail _

/-- One more read may go beyond the limit, by what a buffer holds. -/
theorem tolls_readHttpRequestGo : ∀ fuel buf (w : World),
    buf.length + w.stream.pending.length ≤ MAX_HEADER_SIZE →
    Tolls w (readHttpRequestGo L fuel buf)
      ⟨MAX_HEADER_SIZE + 1024 - (buf.length + w.stream.pending.length),
        MAX_HEADER_SIZE + 1 - (buf.length + w.stream.pending.length), 0⟩ := by
  intro fuel
  induction fuel with
  | zero => exact fun buf w _ => tolls_bail _
  | succ fuel ih =>
    intro buf w hle
    have hread : ∀ {b w'}, L2.read 1024 w = .ok b w' →
        readWithTimeout 1024 "HTTP request header read" w = .ok b w' := withTimeout_ok.2
    rcases read_steps 1024 w with ⟨w', hr, ht, hp, hne⟩ | ⟨f, hr⟩ | ⟨b, w', hr, ht, hb, hp, hnil⟩
    · have hnone : outlay Ev.toll isService [] ≤ 0 := le_refl 0
      refine Spends.mono (Spends.after (hread hr) (by rw [ht, List.append_nil]) hnone
        (tolls_behindRead ih _ w' ⟨MAX_HEADER_SIZE + 1024 - (buf.length + w.stream.pending.length),
          MAX_HEADER_SIZE + 1 - (buf.length + w.stream.pending.length), 0⟩ ?_ ?_)) (by rw [zero_add])
      · intro _
        simp only [hp, List.length_append, List.length_take, List.length_drop]
        omega
      · intro _ _
        simp only [Toll.le_def, hp, List.length_append, List.length_take, List.length_drop]
        omega
    · exact .bind_error (readWithTimeout_of_error hr)
    · have hpending : w.stream.pending.length = 0 := by rw [hnil (by omega)]; rfl
      refine Spends.mono (Spends.after (hread hr) ht (le_of_eq (outlay_read b))
        (tolls_behindRead ih b w' ⟨MAX_HEADER_SIZE + 1024 - buf.length - b.length,
          MAX_HEADER_SIZE + 1 - buf.length - 1, 0⟩ ?_ ?_)) ?_
      · intro hsize
        rw [hp, hpending]
        exact hsize
      · intro hb0 _
        have hpositive := List.length_pos_iff.2 hb0
        simp only [Toll.le_def, hp, List.length_append]
        omega
      · simp only [Toll.le_def, Toll.add_def]
        omega

/-- The request behind a first byte that is replayed. -/
theorem tolls_readHttpRequest (h : w.stream.pending.length = 1) :
    Tolls w (readHttpRequest L) ⟨66559, 65536, 0⟩ := by
  refine (tolls_readHttpRequestGo _ [] w ?_).mono ?_
  · simp [h, MAX_HEADER_SIZE]
  · simp [h, MAX_HEADER_SIZE]

/-! ## What is answered, and what is served -/

theorem tolls_ask {f : Env → Trace → α} : Tolls w (ask f : M α) n := .quiet rfl

/-- Behind what makes it a service, a program may do what it likes. -/
theorem tolls_serves {x : M α} {f : α → M β} (hx : Commits World.trace Ev.toll isService w x n)
    (hf : ∀ a, Keeps Extends (f a)) : Tolls w (x >>= f) n := by
  refine (hx.bind fun a w' => ?_).spends
  obtain ⟨-, es, ht, -⟩ := hf a w'
  exact ⟨es, ht⟩

theorem commits_emit {e : Ev} (he : isService e = true) :
    Commits World.trace Ev.toll isService w (emit e : M Unit) 0 :=
  ⟨[e], rfl, by simp [outlay, he], e, List.mem_singleton.2 rfl, he⟩

theorem commits_context {x : M α} (hx : Commits World.trace Ev.toll isService w x n) (message : Str) :
    Commits World.trace Ev.toll isService w (context message x) n := hx.adapt _

theorem commits_inspectErr {x : M α} (hx : Commits World.trace Ev.toll isService w x n)
    {look : Str → M Unit} (hlook : ∀ message, Keeps Extends (look message)) :
    Commits World.trace Ev.toll isService w (inspectErr x look) n := by
  refine hx.catch fun e w' => ?_
  cases e with
  | failed message =>
    have hlogs : Keeps Extends (look message >>= fun _ => (throw (.failed message) : M α)) :=
      Keeps.bind extends_frame (hlook message) fun _ => Keeps.throw extends_frame _
    obtain ⟨-, es, ht, -⟩ := hlogs w'
    exact ⟨es, ht⟩
  | panicked => exact ⟨[], (List.append_nil _).symm⟩
  | waiting => exact ⟨[], (List.append_nil _).symm⟩

/-- To try is to serve, whether or not the destination is reached. -/
theorem commits_tcpConnect (target : Str) :
    Commits World.trace Ev.toll isService w (tcpConnect target) 0 := by
  unfold tcpConnect
  rw [Commits, bind_apply, ask_apply]
  cases w.env.connect w.trace target with
  | none => exact commits_emit rfl
  | some message => exact (commits_emit rfl).bind fun _ w' => ⟨[], by simp [bail, throw_apply]⟩

theorem commits_udpBind (ip : IpAddr) :
    Commits World.trace Ev.toll isService w (Handler.udpBind ip) 0 := by
  unfold Handler.udpBind
  rw [Commits, bind_apply, ask_apply]
  cases w.env.udpBind w.trace ip with
  | none => exact commits_emit rfl
  | some message => exact (commits_emit rfl).bind fun _ w' => ⟨[], by simp [bail, throw_apply]⟩

/-- Both front ends connect the same way. -/
theorem commits_connect (message text target : Str) : Commits World.trace Ev.toll isService w
    (reported message .incConnectFailures text (tcpConnect target)) 0 :=
  commits_context (commits_inspectErr (commits_tcpConnect target) fun _ =>
    keeps_quiet (keeps_reportFailure rfl _)) _

theorem tolls_handleConnect (addr : Address) (peer : SocketAddr) :
    Tolls w (Handler.handleConnect addr peer) 0 := by
  refine tolls_serves (commits_connect _ _ _) fun _ => ?_
  refine Keeps.bind extends_frame (Keeps.context (keeps_failing extends_frame _) _) fun _ => ?_
  refine Keeps.bind extends_frame (keeps_ask extends_frame _) fun _ => ?_
  refine Keeps.bind extends_frame (keeps_liftResult extends_frame _) fun _ => ?_
  refine Keeps.bind extends_frame (keeps_quiet (Handler.keeps_sendReply _ _)) fun _ => ?_
  refine Keeps.bind extends_frame ?_ fun _ => keeps_quiet (keeps_stat rfl)
  exact Keeps.reported extends_frame extends_of_quiet keeps_copyBidirectional rfl _ _

theorem tolls_handleUdpAssociate (peer : SocketAddr) (ip : IpAddr) :
    Tolls w (Handler.handleUdpAssociate peer ip) 0 := by
  refine tolls_free (tolls_stat _) fun _ w₁ _ => ?_
  refine tolls_serves (commits_context (commits_udpBind ip) _) fun _ => keeps_aside ?_
  refine Keeps.bind aside_frame (keeps_ask aside_frame _) fun _ => ?_
  refine Keeps.bind aside_frame (keeps_liftResult aside_frame _) fun _ => ?_
  refine Keeps.bind aside_frame (keeps_aside_quiet (Handler.keeps_sendReply _ _)) fun _ => ?_
  refine Keeps.bind aside_frame (Handler.keeps_setRelay _) fun _ => ?_
  exact Keeps.bind aside_frame (keeps_ask aside_frame _) fun _ => Handler.keeps_relayUdpLoop _ _

theorem tolls_runCommand (cmd : Command) (peer : SocketAddr) : Tolls w (runCommand cmd peer) 0 := by
  cases cmd with
  | connect addr => exact tolls_handleConnect addr peer
  | udpAssociate addr =>
    refine tolls_free tolls_ask fun r w₁ _ => ?_
    exact tolls_free (tolls_liftResult r) fun a w₂ _ => tolls_handleUdpAssociate peer a.ip

section Http
open TinySocks.L4.Http

theorem tolls_serveStatsPage : Tolls w serveStatsPage 0 := by
  refine tolls_free tolls_ask fun body w₁ _ => ?_
  exact tolls_serves (commits_emit rfl) fun _ => keeps_quiet (keeps_writeAllWithTimeout _ _)

theorem tolls_http_handleConnect (req : HttpRequest) (peer : SocketAddr) :
    Tolls w (Http.handleConnect L req peer) 0 := by
  refine tolls_free (tolls_liftResult _) fun r w₁ _ => ?_
  refine tolls_serves (commits_connect _ _ _) fun _ => ?_
  refine Keeps.bind extends_frame (keeps_quiet (keeps_writeAllWithTimeout _ _)) fun _ => ?_
  exact Keeps.bind extends_frame (keeps_preWrite _) fun _ => keeps_relay _ _ _

theorem tolls_handleForward (req : HttpRequest) (peer : SocketAddr) (via : Str) :
    Tolls w (handleForward L req peer via) 0 := by
  refine tolls_free (tolls_liftResult _) fun r w₁ _ => ?_
  refine tolls_serves (commits_connect _ _ _) fun _ => ?_
  refine Keeps.bind extends_frame (keeps_upWriteAllWithTimeout _ _) fun _ => ?_
  refine Keeps.bind extends_frame (keeps_writeBody _) fun _ => ?_
  refine Keeps.bind extends_frame (keeps_upFlushWithTimeout _) fun _ => ?_
  exact Keeps.bind extends_frame (keeps_quiet (keeps_stat rfl)) fun _ => keeps_relay _ _ _

theorem tolls_allowed (bypassAuth : Bool) (check : Except (Abort Str) Bool) :
    Tolls w (allowed bypassAuth check) 0 := by
  unfold allowed
  split
  · exact .pure _
  · exact tolls_liftAbort _

/-- The longest answer of the proxy's own is the one that asks for a login. -/
theorem tolls_answer {text : Str} (action : Str) (h : (Utf8.encode text).length ≤ 125) :
    Tolls w (writeAllWithTimeout (Utf8.encode text) action) ⟨0, 0, 125⟩ := by
  refine (writeAllWithTimeout_tolls _ _ w).mono ?_
  simp [Toll.le_def, h]

theorem tolls_serveRequest (bypassAuth : Bool) (auth : AuthConfig) (statsEnabled : Bool)
    (listener : HttpListener) (peer : SocketAddr) (req : HttpRequest) :
    Tolls w (serveRequest L bypassAuth auth statsEnabled listener peer req) ⟨0, 0, 125⟩ := by
  have hfree : (0 : Toll) ≤ ⟨0, 0, 125⟩ := zero_le
  have hzero : (0 : Toll) + ⟨0, 0, 125⟩ ≤ ⟨0, 0, 125⟩ := by rw [zero_add]
  unfold serveRequest
  split
  · exact tolls_answer _ (by decide)
  split
  · refine tolls_bind (tolls_allowed _ _) (fun authorized w₁ _ => ?_) hzero
    split
    · exact tolls_serveStatsPage.mono hfree
    · exact tolls_bind (tolls_reportFailure _ _) (fun _ _ _ => tolls_answer _ (by decide)) hzero
  · refine tolls_bind (tolls_allowed _ _) (fun authorized w₁ _ => ?_) hzero
    split
    · split
      · exact (tolls_http_handleConnect req peer).mono hfree
      · exact (tolls_handleForward req peer _).mono hfree
    · exact tolls_bind (tolls_reportFailure _ _) (fun _ _ _ => tolls_answer _ (by decide)) hzero

theorem tolls_handleHttpProxy (bypassAuth : Bool) (auth : AuthConfig) (statsEnabled : Bool)
    (listener : HttpListener) (peer : SocketAddr) (h : w.stream.pending.length = 1) :
    Tolls w (handleHttpProxy L bypassAuth auth statsEnabled listener peer) ⟨66559, 65536, 125⟩ :=
  tolls_bind (tolls_readHttpRequest h) (fun req w₁ _ => tolls_serveRequest _ _ _ _ _ req) (by
    simp [Toll.add_def])

end Http

/-! ## A connection -/

/-- The first byte is replayed. -/
theorem dispatchOn_replays {first : Bytes} (w : World) : ∃ es w',
    dispatchOn first w = .ok (protocolOf first) w' ∧ w'.trace = w.trace ++ es ∧
      outlay Ev.toll isService es ≤ 0 ∧ (first ≠ [] → w'.stream.pending = first) := by
  cases first with
  | nil => exact ⟨[], w, rfl, by simp, le_refl 0, fun h => absurd rfl h⟩
  | cons byte rest =>
    unfold dispatchOn protocolOf
    simp only
    split
    · exact ⟨[.stat .incSocks5Connections], _, rfl, rfl, le_refl 0, fun _ => rfl⟩
    · exact ⟨[.stat .incHttpConnections], _, rfl, rfl, le_refl 0, fun _ => rfl⟩

theorem tolls_classify (h : w.stream.pending = []) :
    Tolls w classify ⟨min 1 w.stream.unread.length, 1, 0⟩ := by
  rcases classify_steps w with ⟨e, hc⟩ | ⟨e, w', hr, hc⟩ | ⟨first, w₁, hr, hc⟩
  · exact .quiet (by rw [hc]; rfl)
  · rcases read_steps 1 w with ⟨w₁, hread, -⟩ | ⟨f, hread⟩ | ⟨b, w₁, hread, -⟩
    · cases (withTimeout_ok.2 hread).symm.trans hr
    · cases (readWithTimeout_of_error hread).symm.trans hr
      exact .quiet (by rw [hc]; rfl)
    · cases (withTimeout_ok.2 hread).symm.trans hr
  · obtain ⟨es, w₂, hd, ht, hes, -⟩ := @dispatchOn_replays first w₁
    rcases read_steps 1 w with ⟨w', hread, -, -, hne⟩ | ⟨f, hread⟩ | ⟨b, w', hread, ht₁, hb, -, -⟩
    · exact absurd h hne
    · cases (readWithTimeout_of_error hread).symm.trans hr
    · cases (withTimeout_ok.2 hread).symm.trans hr
      have hunread := congrArg List.length (readWithTimeout_ok hr).1.unread
      rw [List.length_append] at hunread
      refine ⟨[.read first] ++ es, ?_,
        (outlay_append_le _ _ _ _).trans ((add_le_add_right hes _).trans ?_)⟩
      · rw [hc, hd, ← List.append_assoc, ← ht₁]
        exact ht
      · rw [outlay_read, add_zero]
        simp only [Toll.le_def]
        omega

theorem classify_replays {w' : World} {protocol : ProxyProtocol}
    (h : classify w = .ok (some protocol) w') : w'.stream.pending.length = 1 := by
  rcases classify_steps w with ⟨e, hc⟩ | ⟨e, w₁, -, hc⟩ | ⟨first, w₁, hr, hc⟩
  · cases hc.symm.trans h
  · cases hc.symm.trans h
  · obtain ⟨es, w₂, hd, -, -, hreplayed⟩ := @dispatchOn_replays first w₁
    obtain ⟨-, hlen, -⟩ := readWithTimeout_ok hr
    have hsame := hd.symm.trans (hc.symm.trans h)
    cases first with
    | nil => cases hsame
    | cons byte rest =>
      obtain rfl : w₂ = w' := by
        injection hsame
      rw [hreplayed (List.cons_ne_nil _ _)]
      simp only [List.length_cons] at hlen ⊢
      omega

/-- What a client can make of its front end: the longest SOCKS5 exchange, or a head
one read too long, and the longest answer. -/
def allowance : Option ProxyProtocol → Toll
  | none => ⟨0, 1, 0⟩
  | some .socks5 => ⟨1032, 1032, 4⟩
  | some .http => ⟨66560, 65537, 125⟩

theorem tolls_serveConnection (auth : AuthConfig) (statsEnabled : Bool) (listener : HttpListener)
    (peer : SocketAddr) (h : w.stream.pending = []) :
    Tolls w (serveConnection L auth statsEnabled listener peer)
      (allowance (protocolOf w.stream.unread)) := by
  have hprotocol : ∀ {r w'}, classify w = .ok r w' → r = protocolOf w.stream.unread := fun hc =>
    (classify_ok h hc).2
  cases hp : protocolOf w.stream.unread with
  | none =>
    refine tolls_bind (k := 0) (tolls_classify h) (fun r w' hc => ?_) ?_
    · rw [hprotocol hc, hp]
      exact .pure ()
    · cases hu : w.stream.unread with
      | nil => exact le_refl _
      | cons byte rest =>
        rw [hu, protocolOf] at hp
        split at hp <;> cases hp
  | some protocol =>
    have hone : ∀ {k m : Toll}, (⟨1, 1, 0⟩ : Toll) + k ≤ m →
        ⟨min 1 w.stream.unread.length, 1, 0⟩ + k ≤ m := by
      intro k m hle
      simp only [Toll.le_def, Toll.add_def] at hle ⊢
      omega
    cases protocol with
    | socks5 =>
      refine tolls_bind (k := ⟨1031, 1031, 4⟩) (tolls_classify h) (fun r w' hc => ?_)
        (hone (le_refl _))
      have hr := (hprotocol hc).trans hp
      rw [hr] at hc ⊢
      have hpending := classify_replays hc
      exact tolls_free (tolls_socksCommand _ auth peer (by omega)) fun cmd _ _ =>
        tolls_runCommand cmd peer
    | http =>
      refine tolls_bind (k := ⟨66559, 65536, 125⟩) (tolls_classify h) (fun r w' hc => ?_)
        (hone (le_refl _))
      have hr := (hprotocol hc).trans hp
      rw [hr] at hc ⊢
      exact tolls_handleHttpProxy _ _ _ _ _ (classify_replays hc)

end

/-- The reads of a connection. -/
def reads (t : Trace) : Nat := t.countP fun
  | .read _ => true
  | _ => false

theorem outlay_free {t : Trace} (h : ∀ e ∈ t, isService e = false) :
    outlay Ev.toll isService t = ⟨(received t).length, reads t, (written t).length⟩ := by
  induction t with
  | nil => rfl
  | cons e t ih =>
    obtain ⟨he, ht⟩ := List.forall_mem_cons.1 h
    rw [outlay, he, ih ht]
    cases e <;> simp [Ev.toll, Toll.add_def, Toll.zero_def, received, written, reads, Nat.add_comm]

/-- The connection until it is served. -/
def beforeService (t : Trace) : Trace := t.takeWhile fun e => !isService e

/-- **Until a connection is served, its client is read from, waited for and written to
only so much, whatever it sends and however its bytes arrive.** -/
theorem front_end_bounded (L : Libs) (auth : AuthConfig) (statsEnabled : Bool) (listener : HttpListener)
    (peer : SocketAddr) (env : Env) (inp : Bytes) :
    let t := beforeService
      (finalState (serveConnection L auth statsEnabled listener peer (.accepted env inp))).trace
    let most := allowance (protocolOf inp)
    (received t).length ≤ most.bytes ∧ reads t ≤ most.reads ∧ (written t).length ≤ most.written := by
  intro t most
  obtain ⟨es, htrace, hle⟩ := tolls_serveConnection (L := L) auth statsEnabled listener peer
    (w := .accepted env inp) rfl
  have hunserved : ∀ e ∈ t, isService e = false := by
    intro e he
    simpa using List.mem_takeWhile_imp he
  have hspent : outlay Ev.toll isService t ≤ most := by
    show outlay Ev.toll isService (List.takeWhile _ _) ≤ most
    rw [outlay_takeWhile, htrace]
    exact hle
  rwa [outlay_free hunserved] at hspent

end TinySocks.L4
