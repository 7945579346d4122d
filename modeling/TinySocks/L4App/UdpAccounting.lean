import TinySocks.L4App.UdpLive

/-!
# UDP counters against delivered datagrams

`udp_bytes_out` counts a payload once it was sent to its target,
`udp_bytes_in` counts a reply before it is sent to the client. So the first is
always exact, and the second unless a reply with a payload could not be sent
(`relayUdp_books`).
-/
namespace TinySocks.L4.UdpAssociation

open TinySocks.Core TinySocks.L1 TinySocks.L2 TinySocks.L3 TinySocks.L4.Handler

/-- A datagram the relay handed to its socket, and whether it was sent. -/
inductive Forwarded where
  | request (target : SocketAddr) (payload : Bytes) (ok : Bool)
  | reply (source client : SocketAddr) (packet : Bytes) (ok : Bool)
  deriving DecidableEq, Repr

def Forwarded.toTarget : Forwarded → Bytes
  | .request _ payload true => payload
  | _ => []

def Forwarded.toClient : Forwarded → Bytes
  | .reply _ _ packet true => packet
  | _ => []

/-- What a round forwards: a payload right after a destination was resolved, or the
datagram it received right after that was counted. -/
def forwardOf : Trace → Option Forwarded
  | .udpRecv _ _ :: .resolved _ _ :: .udpSend target payload ok :: _ => some (.request target payload ok)
  | .udpRecv source packet :: .stat _ :: .udpSend client _ ok :: _ =>
    some (.reply source client packet ok)
  | _ => none

/-- What a run forwards, each where its round starts. -/
def forwards : Trace → List Forwarded
  | [] => []
  | e :: t => (forwardOf (e :: t)).toList ++ forwards t

/-- The payloads a run put out to targets, in bytes: each where its round starts. -/
def sentToTargets : Trace → Nat
  | [] => 0
  | e :: t => (toTarget (e :: t)).length + sentToTargets t

/-- The payloads a run put out to the client, in bytes. -/
def sentToClient : Trace → Nat
  | [] => 0
  | e :: t => (toClient (e :: t)).length + sentToClient t

theorem toTarget_toClient (t : Trace) : toTarget t = (forwardOf t).elim [] Forwarded.toTarget ∧
    toClient t = (forwardOf t).elim [] Forwarded.toClient := by
  match t with
  | [] => exact ⟨rfl, rfl⟩
  | [e] => cases e <;> exact ⟨rfl, rfl⟩
  | [e, e'] =>
    cases e <;> first
      | exact ⟨rfl, rfl⟩
      | (cases e' <;> exact ⟨rfl, rfl⟩)
  | e :: e' :: e'' :: t =>
    cases e <;> first
      | exact ⟨rfl, rfl⟩
      | (cases e' <;> first
          | exact ⟨rfl, rfl⟩
          | (cases e'' <;> first
              | exact ⟨rfl, rfl⟩
              | (rename_i ok; cases ok <;> exact ⟨rfl, rfl⟩)))

/-- What may follow a round: the next one, or the end of the association. -/
def Follows (t : Trace) : Prop :=
  (∃ source packet t', t = .udpRecv source packet :: t') ∨ ∀ e ∈ t, isEnd e = true

/-- Neither the received datagram nor a call on the statistics is a send. -/
def isRecv : Ev → Bool
  | .udpRecv _ _ => true
  | _ => false

theorem forwardOf_not_recv {e : Ev} (h : isRecv e = false) (t : Trace) : forwardOf (e :: t) = none := by
  cases e <;> first | rfl | cases h

theorem isStat_not_recv {e : Ev} (h : isStat e = true) : isRecv e = false := by
  cases e <;> first | rfl | cases h

/-- A resolved destination that nothing is sent to. -/
theorem forwardOf_resolved {t : Trace} (h : ∀ e ∈ t.head?, isSend e = false) (source : SocketAddr)
    (packet : Bytes) (d : Address) (o : Option SocketAddr) :
    forwardOf (.udpRecv source packet :: .resolved d o :: t) = none := by
  cases t with
  | nil => rfl
  | cons e t =>
    have he := h e rfl
    cases e <;> first | rfl | nomatch he

theorem Follows.head {t : Trace} (ht : Follows t) : ∀ e ∈ t.head?, isSend e = false := by
  intro e he
  rcases ht with ⟨s, p, t', rfl⟩ | ht
  · cases he
    rfl
  · have := ht e (List.mem_of_mem_head? he)
    cases e <;> first | rfl | nomatch this

/-- A datagram that was dropped. -/
theorem Follows.dropped {t : Trace} (ht : Follows t) (source : SocketAddr) (packet : Bytes) :
    forwardOf (.udpRecv source packet :: t) = none := by
  rcases ht with ⟨s, p, t', rfl⟩ | ht
  · rfl
  match t, ht with
  | [], _ => rfl
  | [e], ht => cases e <;> rfl
  | e :: e' :: t, ht =>
    have he' := ht e' (.tail _ (.head _))
    cases e <;> first
      | rfl
      | (cases e' <;> first | rfl | cases he')

section
variable {env : Env} {peer source : SocketAddr} {r r' : Relay} {packet : Bytes} {evs : Trace}

/-- A round is its datagram and what it caused, none of it a datagram. -/
theorem Round.received (h : Round env peer r source packet evs r') :
    ∃ caused, evs = .udpRecv source packet :: caused ∧ ∀ e ∈ caused, isRecv e = false := by
  cases h with
  | dropped hdrop => exact ⟨[], rfl, by simp⟩
  | unresolved hcl hp hs => exact ⟨_, rfl, by simpa [isRecv] using fun e he => isStat_not_recv (hs e he)⟩
  | full hcl hp => exact ⟨_, rfl, by simp [isRecv]⟩
  | relayed hcl hp hres hroom hs =>
    exact ⟨_, rfl, by simpa [isRecv] using fun e he => isStat_not_recv (hs e he)⟩
  | replied hcl hm hne hw hs =>
    exact ⟨_, rfl, by simpa [isRecv] using fun e he => isStat_not_recv (hs e he)⟩

/-- What follows a round is no part of it. -/
theorem Round.forwardOf (h : Round env peer r source packet evs r') {t : Trace} (ht : Follows t) :
    forwardOf (evs ++ t) = forwardOf evs := by
  cases h with
  | dropped hdrop => exact ht.dropped source packet
  | @unresolved d stats hcl hp hs =>
    have hstat : ∀ e ∈ stats.head?, isSend e = false := by
      intro e he
      have := hs e (List.mem_of_mem_head? he)
      cases e <;> first | rfl | nomatch this
    have hall : ∀ e ∈ (stats ++ t).head?, isSend e = false := by
      intro e he
      rw [List.head?_append] at he
      cases hh : stats.head? with
      | none => exact ht.head e (by simpa [hh] using he)
      | some e' => exact hstat e (by simpa [hh] using he)
    rw [List.cons_append, List.cons_append, forwardOf_resolved hall, forwardOf_resolved hstat]
  | @full d target hcl hp => exact forwardOf_resolved ht.head source packet d.destination (some target)
  | relayed hcl hp hres hroom hs => rfl
  | replied hcl hm hne hw hs => rfl

theorem forwards_skip {caused t : Trace} (h : ∀ e ∈ caused, isRecv e = false) :
    forwards (caused ++ t) = forwards t := by
  induction caused with
  | nil => rfl
  | cons e caused ih =>
    obtain ⟨he, hcaused⟩ := List.forall_mem_cons.1 h
    rw [List.cons_append, forwards, forwardOf_not_recv he, ih hcaused]
    rfl

/-- What a run forwards is what its first round does, and the rest. -/
theorem Round.forwards (h : Round env peer r source packet evs r') {t : Trace} (ht : Follows t) :
    forwards (evs ++ t) = (UdpAssociation.forwardOf evs).toList ++ UdpAssociation.forwards t := by
  obtain ⟨caused, rfl, hno⟩ := h.received
  have hf := h.forwardOf ht
  rw [List.cons_append] at hf ⊢
  rw [UdpAssociation.forwards, hf, forwards_skip hno]

theorem flatMap_toList (f : Option Forwarded) (g : Forwarded → Bytes) : f.toList.flatMap g = f.elim [] g := by
  cases f with
  | none => rfl
  | some f => exact List.append_nil (g f)

/-- What was sent is what was forwarded, one after the other. -/
theorem sent_eq (t : Trace) :
    sentToTargets t = ((forwards t).flatMap Forwarded.toTarget).length ∧
      sentToClient t = ((forwards t).flatMap Forwarded.toClient).length := by
  induction t with
  | nil => exact ⟨rfl, rfl⟩
  | cons e t ih =>
    obtain ⟨h₁, h₂⟩ := ih
    obtain ⟨ht, hc⟩ := toTarget_toClient (e :: t)
    rw [sentToTargets, sentToClient, UdpAssociation.forwards, h₁, h₂, ht, hc, List.flatMap_append,
      List.flatMap_append, flatMap_toList, flatMap_toList, List.length_append, List.length_append]
    exact ⟨rfl, rfl⟩

/-- The sends of a run are those of its first round and those of the rest. -/
theorem Round.sent (h : Round env peer r source packet evs r') {t : Trace} (ht : Follows t) :
    sentToTargets (evs ++ t) = (toTarget evs).length + sentToTargets t ∧
      sentToClient (evs ++ t) = (toClient evs).length + sentToClient t := by
  obtain ⟨hte, hce⟩ := toTarget_toClient evs
  obtain ⟨ha, hb⟩ := sent_eq (evs ++ t)
  obtain ⟨ha', hb'⟩ := sent_eq t
  rw [ha, hb, ha', hb', h.forwards ht, hte, hce, List.flatMap_append, List.flatMap_append, flatMap_toList,
    flatMap_toList, List.length_append, List.length_append]
  exact ⟨rfl, rfl⟩

theorem Round.starts (h : Round env peer r source packet evs r') (t : Trace) : Follows (evs ++ t) := by
  cases h <;> exact .inl ⟨source, packet, _, rfl⟩

end

/-- One datagram: requests are counted as they were sent; a reply is counted as well
if it has no payload or could not be sent. -/
theorem relayReceived_books (peer : SocketAddr) (d : Datagram) (w : World) :
    ∃ evs r', finalState (relayReceived peer d.1 d.packet w) =
        { w with relay := r', trace := w.trace ++ evs } ∧
      Round w.env peer w.relay d.1 d.packet evs r' ∧
      counted StatOp.udpOut evs = (toTarget evs).length ∧
      (toClient evs).length ≤ counted StatOp.udpIn evs ∧
      (counted StatOp.udpIn evs = (toClient evs).length ↔ ReplyPasses w d ∨ d.packet = []) := by
  rcases relayReceived_cases peer d.1 d.packet w with ⟨hc, h⟩ | ⟨client, hr, h⟩ | ⟨hc, hn, h⟩
  · obtain ⟨evs, r', hh, hround, hb⟩ := handleClientUdpPacket_round d.packet
      (w := { w with trace := w.trace ++ [.udpRecv d.1 d.packet] }) hc rfl
    refine ⟨_, r', ?_, hround, hb.out, Nat.le_of_eq hb.inn.symm, iff_of_true hb.inn ?_⟩
    · rw [h, hh]
      simp
    · exact .inl (relayReceived_ok_iff.1 ⟨_, h.trans hh⟩)
  · obtain ⟨wrapped, ok, stats, hw, hs, hout, hin, hsend, hf, hok⟩ :=
      replyToClient_cases client d.1 peer d.packet w
    have hround : Round w.env peer w.relay d.1 d.packet (.udpRecv d.1 d.packet ::
        .stat (.addUdpBytesIn d.packet.length) :: .udpSend client wrapped ok :: stats) w.relay :=
      .replied hr.1 hr.2.2 hr.2.1 hw hs
    have hpass : ok = true ↔ ReplyPasses w d := by
      rw [hok, ← h]
      exact relayReceived_ok_iff
    have hcount : ∀ f, counted f (.udpRecv d.1 d.packet :: .stat (.addUdpBytesIn d.packet.length) ::
        .udpSend client wrapped ok :: stats) = f (.addUdpBytesIn d.packet.length) + counted f stats :=
      fun _ => rfl
    refine ⟨_, _, by rw [h, hf], hround, ?_⟩
    rw [hcount, hcount, hout, hin, ← hpass]
    cases ok with
    | true => exact ⟨rfl, Nat.le_refl _, iff_of_true rfl (.inl rfl)⟩
    | false =>
      refine ⟨rfl, Nat.zero_le _, ?_⟩
      simp [StatOp.udpIn, toClient]
  · refine ⟨_, _, by rw [h]; rfl, .dropped fun h => absurd h hc, rfl, Nat.zero_le _, iff_of_true rfl ?_⟩
    exact .inl fun client wrapped hr => absurd hr (hn client)

/-- Every datagram that is handled has a property, in the state it arrives in. -/
def AtEach (P : World → Datagram → Prop) (peer : SocketAddr) (inputs : List UdpInput) (w : World) : Prop :=
  ∀ pre d rest, inputs = pre.map Datagram.input ++ Datagram.input d :: rest →
    ∀ w₁, GoesOn peer pre w w₁ → P w₁ d

theorem input_injective {d d' : Datagram} (h : d.input = d'.input) : d = d' := by
  injection h with h₁ h₂
  exact Prod.ext h₁ h₂

section
variable {P : World → Datagram → Prop} {peer : SocketAddr} {d : Datagram} {inputs : List UdpInput}
  {w w' : World}

theorem AtEach.head (hp : AtEach P peer (d.input :: inputs) w) : P w d :=
  hp [] d inputs rfl w goesOn_nil

theorem atEach_cons (h : relayReceived peer d.1 d.packet w = .ok () w') :
    AtEach P peer (d.input :: inputs) w ↔ P w d ∧ AtEach P peer inputs w' := by
  constructor
  · refine fun hp => ⟨hp.head, fun pre d' rest he w₁ hg => ?_⟩
    exact hp (d :: pre) d' rest (by rw [he]; rfl) w₁ ((goesOn_cons h).2 hg)
  · intro hx pre d' rest he w₁ hg
    obtain ⟨hd, hp⟩ := hx
    cases pre with
    | nil =>
      obtain rfl := input_injective (List.cons_eq_cons.1 he).1
      cases hg []
      exact hd
    | cons e pre =>
      obtain ⟨hd, rfl⟩ := List.cons_eq_cons.1 he
      obtain rfl := input_injective hd
      exact hp pre d' rest rfl w₁ ((goesOn_cons h).1 hg)

/-- A datagram that ends the association is the only one that matters. -/
theorem atEach_stopped {e : Stop} (h : relayReceived peer d.1 d.packet w = .error e w') :
    AtEach P peer (d.input :: inputs) w ↔ P w d := by
  refine ⟨AtEach.head, fun hd pre d' rest he w₁ hg => ?_⟩
  cases pre with
  | nil =>
    obtain rfl := input_injective (List.cons_eq_cons.1 he).1
    cases hg []
    exact hd
  | cons d'' pre =>
    obtain rfl := input_injective (List.cons_eq_cons.1 he).1
    refine absurd hg (not_goesOn ?_)
    rw [h]
    intro hx
    obtain ⟨w', hok⟩ := hx
    cases hok

/-- Where no datagram is next, none is handled. -/
theorem atEach_end {input : UdpInput} (h : ∀ d : Datagram, input ≠ d.input) :
    AtEach P peer (input :: inputs) w := by
  intro pre d rest he
  cases pre with
  | nil => exact absurd (List.cons_eq_cons.1 he).1 (h d)
  | cons e pre => exact absurd (List.cons_eq_cons.1 he).1 (h e)

theorem atEach_nil : AtEach P peer [] w := fun pre d rest he => by simp at he

end

/-- Every reply, in the state it arrives in, can be sent or has no payload. -/
def RepliesPass (peer : SocketAddr) (inputs : List UdpInput) (w : World) : Prop :=
  ∀ pre d rest, inputs = pre.map Datagram.input ++ Datagram.input d :: rest →
    ∀ w₁, GoesOn peer pre w w₁ → ReplyPasses w₁ d ∨ d.packet = []

theorem repliesPass_eq (peer : SocketAddr) (inputs : List UdpInput) (w : World) :
    RepliesPass peer inputs w = AtEach (fun w₁ d => ReplyPasses w₁ d ∨ d.packet = []) peer inputs w := rfl

theorem end_books {evs : Trace} (h : ∀ e ∈ evs, isEnd e = true) : Follows evs ∧
    counted StatOp.udpOut evs = sentToTargets evs ∧ counted StatOp.udpIn evs = sentToClient evs := by
  refine ⟨.inr h, ?_⟩
  induction evs with
  | nil => exact ⟨rfl, rfl⟩
  | cons e evs ih =>
    obtain ⟨he, hevs⟩ := List.forall_mem_cons.1 h
    obtain ⟨h₁, h₂⟩ := ih hevs
    rw [sentToTargets, sentToClient, ← h₁, ← h₂]
    cases e with
    | stat op => cases op <;> first | exact ⟨rfl, rfl⟩ | cases he
    | read b | udpRecvFailed => exact ⟨(Nat.zero_add _).symm, (Nat.zero_add _).symm⟩
    | _ => cases he

/-- The counters of the loop, over everything that wakes it. -/
theorem relayUdpLoop_books (peer : SocketAddr) : ∀ (inputs : List UdpInput) (w : World),
    ∃ evs, (finalState (relayUdpLoop peer inputs w)).trace = w.trace ++ evs ∧ Follows evs ∧
      counted StatOp.udpOut evs = sentToTargets evs ∧
      sentToClient evs ≤ counted StatOp.udpIn evs ∧
      (counted StatOp.udpIn evs = sentToClient evs ↔ RepliesPass peer inputs w) := by
  intro inputs
  induction inputs with
  | nil => exact fun w => ⟨[], by simp [relayUdpLoop], .inr (by simp), rfl, Nat.le_refl _,
      iff_of_true rfl atEach_nil⟩
  | cons input inputs ih =>
    intro w
    by_cases hd : ∃ d : Datagram, input = d.input
    · obtain ⟨d, rfl⟩ := hd
      obtain ⟨evs, r', hf, hround, hout, hle, hin⟩ := relayReceived_books peer d w
      have hstep : relayUdpLoop peer (d.input :: inputs) w =
          (relayReceived peer d.1 d.packet >>= fun _ => relayUdpLoop peer inputs) w := rfl
      rw [hstep, bind_apply]
      cases hr : relayReceived peer d.1 d.packet w with
      | error e w' =>
        rw [hr] at hf
        cases hf
        obtain ⟨ht, hc⟩ := hround.sent (t := []) (.inr (by simp))
        rw [List.append_nil] at ht hc
        refine ⟨evs, rfl, by simpa using hround.starts [], by rw [ht]; exact hout, by rw [hc]; exact hle, ?_⟩
        rw [hc, repliesPass_eq, atEach_stopped hr]
        exact hin
      | ok u w' =>
        rw [hr] at hf
        cases hf
        obtain ⟨evs', ht', hfol, hout', hle', hin'⟩ := ih { w with relay := r', trace := w.trace ++ evs }
        obtain ⟨ht, hc⟩ := hround.sent hfol
        refine ⟨evs ++ evs', by rw [ht', List.append_assoc], hround.starts _, ?_, ?_, ?_⟩
        · rw [counted_append, ht, hout, hout']
        · rw [counted_append, hc]
          omega
        · have hd : ReplyPasses w d ∨ d.packet = [] := .inl (relayReceived_ok_iff.1 ⟨_, hr⟩)
          have hpass := hin.2 hd
          rw [repliesPass_eq, atEach_cons hr, ← repliesPass_eq, ← hin', counted_append, hc,
            and_iff_right hd]
          omega
    · have hne : ∀ d : Datagram, input ≠ d.input := fun d he => hd ⟨d, he⟩
      obtain ⟨-, evs, ht, hev⟩ := emits_end peer (fun source packet => hne (source, packet)) inputs w
      obtain ⟨hfol, hout, hin⟩ := end_books hev
      exact ⟨evs, ht, hfol, hout, Nat.le_of_eq hin.symm,
        iff_of_true hin (atEach_end hne)⟩

/-- **The UDP counters**: what went out to targets is always counted exactly, what
went out to the client exactly if every reply with a payload could be sent. -/
theorem relayUdp_books (peer : SocketAddr) (w : World) :
    ∃ evs, (finalState (relayUdp peer w)).trace = w.trace ++ evs ∧
      counted StatOp.udpOut evs = sentToTargets evs ∧
      (counted StatOp.udpIn evs = sentToClient evs ↔ RepliesPass peer w.env.udpInputs (associated w)) := by
  obtain ⟨evs, ht, -, hout, -, hin⟩ := relayUdpLoop_books peer w.env.udpInputs (associated w)
  exact ⟨evs, by rw [relayUdp_eq]; exact ht, hout, hin⟩

end TinySocks.L4.UdpAssociation
