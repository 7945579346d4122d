import TinySocks.L4App.Gate
import TinySocks.L4App.Session

/-!
# What a session comes to

What holds of every run of `session` holds of every connection, by `serveConnection_obeys`.
Each phase owes something: a failure that was not counted, a count that was not recorded.
What it owes changes with every event by the weight of the event (`owes_next`), so the
counters of a session that ends are what happened in it.

* `failures_accounted`: every failure is counted once and recorded once.
* `one_service`: a connection gets one service at most, and nothing of it before the
  upstream or the socket is there and the client was told.
* `follows_session`: a connection is in a phase of the session at every moment, and has
  one thing left to account for at most.
-/
namespace TinySocks.L4

open TinySocks.Core TinySocks.L1 TinySocks.L2 TinySocks.L3

/-! ## Events -/

def isUnreached : Ev → Bool
  | .connect _ false => true
  | _ => false

/-- The copy loop failed, a datagram was not sent, or the relay's socket failed. -/
def isCutShort : Ev → Bool
  | .copied _ _ false | .udpSend _ _ false | .udpRecvFailed => true
  | _ => false

def isUnresolved : Ev → Bool
  | .resolved _ none => true
  | _ => false

def isRecord : Ev → Bool
  | .stat (.recordError _) => true
  | _ => false

def isCopied : Ev → Bool
  | .copied _ _ _ => true
  | _ => false

/-- The socket of a relay was tried. -/
def isBind : Ev → Bool
  | .udpBind _ _ => true
  | _ => false

/-! ## What a phase owes -/

namespace Phase

/-- Targets that were not reached, and not counted. -/
def uncounted : Phase → Int
  | unreached => 1
  | _ => 0

/-- Relays that were cut short, and not counted. -/
def uncut : Phase → Int
  | broken | unsent => 1
  | _ => 0

/-- What was counted, or not resolved, and not recorded. -/
def unrecorded : Phase → Int
  | refusing | failing | unresolved | missed => 1
  | _ => 0

/-- The client was refused. -/
def refusals : Phase → Int
  | refusing | refused => 1
  | _ => 0

/-- The client got its service, or was told that it cannot. -/
def services : Phase → Int
  | fresh | talking _ | refusing | refused | associating => 0
  | _ => 1

/-- An association was counted, and its socket not tried yet. -/
def unbound : Phase → Int
  | associating => 1
  | _ => 0

/-- The copy loop is over. -/
def copies : Phase → Int
  | moved _ _ | broken | failing | closed => 1
  | _ => 0

end Phase

/-- What an event changes of what is owed. -/
structure Owes (p : Phase) (e : Ev) (q : Phase) : Prop where
  uncounted : q.uncounted = p.uncounted + (tally isUnreached e - tally (· == .stat .incConnectFailures) e)
  uncut : q.uncut = p.uncut + (tally isCutShort e - tally (· == .stat .incRelayFailures) e)
  unrecorded : q.unrecorded = p.unrecorded + (tally isUnresolved e +
    (tally (· == .stat .incConnectFailures) e + (tally (· == .stat .incAuthFailures) e +
      (tally (· == .stat .incRelayFailures) e - tally isRecord e))))
  refusals : q.refusals = p.refusals + tally (· == .stat .incAuthFailures) e
  services : q.services = p.services + tally isService e
  copies : p.copies + tally isCopied e ≤ q.copies

theorem owes_of_waits {p q : Phase} (hp : p.waits = true) {e : Ev} (h : Owes .relaying e q) : Owes p e q := by
  cases p with
  | relaying => exact h
  | resolved target => exact ⟨h.1, h.2, h.3, h.4, h.5, h.6⟩
  | _ => cases hp

theorem Phase.Moves.owes {p q : Phase} {e : Ev} (h : p.Moves e q) : Owes p e q := by
  cases h with
  | control hp | received hp | resolve hp | unresolve hp | replyCounted hp =>
    exact owes_of_waits hp ⟨rfl, rfl, rfl, rfl, rfl, Int.le_refl _⟩
  | fallDeaf hp => exact owes_of_waits hp ⟨rfl, rfl, rfl, rfl, rfl, Int.zero_le_ofNat 1⟩
  | missCounted | page | unbound | replyFailed =>
    exact ⟨rfl, rfl, rfl, rfl, rfl, Int.zero_le_ofNat 1⟩
  | _ => exact ⟨rfl, rfl, rfl, rfl, rfl, Int.le_refl _⟩

theorem Phase.Moves.binds {p q : Phase} {e : Ev} (h : p.Moves e q) :
    q.unbound = p.unbound + (tally (· == .stat .incUdpAssociateSessions) e - tally isBind e) := by
  cases h with
  | control hp | received hp | resolve hp | unresolve hp | replyCounted hp | fallDeaf hp =>
    cases p <;> first | rfl | cases hp
  | _ => rfl

/-! ## Runs -/

section
variable {q : Phase} {t : Trace}

/-- What a session has done, in terms of the phase it is in. -/
theorem run_owes (h : session.Run .fresh t q) :
    q.uncounted = t.countP isUnreached - t.count (.stat .incConnectFailures) ∧
    q.uncut = t.countP isCutShort - t.count (.stat .incRelayFailures) ∧
    q.unrecorded = t.countP isUnresolved + t.count (.stat .incConnectFailures) +
      t.count (.stat .incAuthFailures) + t.count (.stat .incRelayFailures) - t.countP isRecord ∧
    q.refusals = t.count (.stat .incAuthFailures) ∧
    q.services = t.countP isService ∧ t.countP isCopied ≤ q.copies := by
  have h₁ := h.weigh fun h => (Phase.Moves.owes h).uncounted
  have h₂ := h.weigh fun h => (Phase.Moves.owes h).uncut
  have h₃ := h.weigh fun h => (Phase.Moves.owes h).unrecorded
  have h₄ := h.weigh fun h => (Phase.Moves.owes h).refusals
  have h₅ := h.weigh fun h => (Phase.Moves.owes h).services
  have h₆ := h.weigh_le fun h => (Phase.Moves.owes h).copies
  simp only [weigh_add, weigh_sub, weigh_tally] at h₁ h₂ h₃ h₄ h₅ h₆
  have h0 : Phase.fresh.uncounted = 0 ∧ Phase.fresh.uncut = 0 ∧ Phase.fresh.unrecorded = 0 ∧
      Phase.fresh.refusals = 0 ∧ Phase.fresh.services = 0 ∧ Phase.fresh.copies = 0 := by decide
  simp only [List.count]
  refine ⟨?_, ?_, ?_, ?_, ?_, ?_⟩ <;> omega

/-! ## How a phase is entered -/

theorem moves_reached {p : Phase} {e : Ev} {protocol : ProxyProtocol}
    (h : p.Moves e (.reached protocol)) : ∃ target, e = .connect target true := by
  cases h with
  | reach _ target => exact ⟨target, rfl⟩

/-- The client was told, or its request sent on. -/
theorem moves_opened {p : Phase} {e : Ev} {protocol : ProxyProtocol}
    (h : p.Moves e (.opened protocol)) : p = .opened protocol ∨
      p = .reached protocol ∧ ((∃ b, e = .write b) ∨ ∃ b, e = .upWrite b) := by
  cases h with
  | tell _ b => exact .inr ⟨rfl, .inl ⟨b, rfl⟩⟩
  | sendOn b => exact .inr ⟨rfl, .inr ⟨b, rfl⟩⟩
  | sendMore | sentCounted => exact .inl rfl

theorem moves_bound {p : Phase} {e : Ev} (h : p.Moves e .bound) : ∃ ip, e = .udpBind ip true := by
  cases h with
  | bind ip => exact ⟨ip, rfl⟩

/-- The relay works on datagrams. -/
def Phase.relays : Phase → Bool
  | relaying | unresolved | resolved _ | sent _ | unsent | missed | replying => true
  | _ => false

theorem relays_of_waits {p : Phase} (h : p.waits = true) : p.relays = true := by
  cases p <;> first | rfl | cases h

theorem moves_relays {p q : Phase} {e : Ev} (h : p.Moves e q) (hp : ¬ p.relays = true)
    (hq : q.relays = true) : p = .bound ∧ ∃ b, e = .write b := by
  cases h with
  | relayTold b => exact ⟨rfl, b, rfl⟩
  | control hw | received hw | resolve hw | unresolve hw | replyCounted hw | fallDeaf hw =>
    exact absurd (relays_of_waits hw) hp
  | _ => first | exact absurd rfl hp | cases hq

/-- Before a run is in one of these phases, the event that led there happened. -/
theorem run_enters {I : Phase → Prop} {K : Phase → Ev → Prop} (h : session.Run .fresh t q)
    (hfresh : ¬ I .fresh) (hq : I q) (hK : ∀ {p e q}, Phase.Moves p e q → ¬ I p → I q → K p e) :
    ∃ pre e post p, t = pre ++ e :: post ∧ session.Run .fresh pre p ∧ K p e := by
  obtain ⟨pre, e, post, p, r, rfl, hrun, hp, hstep, hr, -⟩ := h.crossing hfresh hq
  exact ⟨pre, e, post, p, rfl, hrun, hK hstep hp hr⟩

theorem run_reached {protocol : ProxyProtocol} (h : session.Run .fresh t (.reached protocol)) :
    ∃ target, .connect target true ∈ t := by
  obtain ⟨pre, e, post, p, rfl, -, target, rfl⟩ := run_enters (I := (· = .reached protocol))
    (K := fun _ e => ∃ target, e = .connect target true) h nofun rfl
    (by rintro p e _ hstep - rfl; exact moves_reached hstep)
  exact ⟨target, List.mem_append_right _ (.head _)⟩

/-- A tunnel is open: the target was reached, and then the client was told, or its
request sent on. -/
def Established (t : Trace) : Prop := ∃ pre mid post target e, t = pre ++ e :: post ∧
  mid ++ [.connect target true] <+: pre ∧ ((∃ b, e = .write b) ∨ ∃ b, e = .upWrite b)

theorem run_opened {protocol : ProxyProtocol} (h : session.Run .fresh t (.opened protocol)) :
    Established t := by
  obtain ⟨pre, e, post, p, rfl, hpre, hp, he⟩ := run_enters (I := (· = .opened protocol))
    (K := fun p e => p = .reached protocol ∧ ((∃ b, e = .write b) ∨ ∃ b, e = .upWrite b)) h nofun rfl
    (by rintro p e _ hstep hp rfl; exact (moves_opened hstep).resolve_left hp)
  obtain ⟨target, ht⟩ := run_reached (hp ▸ hpre)
  obtain ⟨mid, rest, hsplit⟩ := List.append_of_mem ht
  exact ⟨pre, mid, post, target, e, rfl, ⟨rest, by rw [hsplit]; simp⟩, he⟩

/-- An association is open: its socket is there, and the client was told. -/
def Associated (t : Trace) : Prop := ∃ pre post ip b, t = pre ++ .write b :: post ∧ .udpBind ip true ∈ pre

theorem run_relays (h : session.Run .fresh t q) (hq : q.relays = true) : Associated t := by
  obtain ⟨pre, e, post, p, rfl, hpre, rfl, b, rfl⟩ := run_enters (I := fun p => p.relays = true)
    (K := fun p e => p = .bound ∧ ∃ b, e = .write b) h nofun hq
    (fun hstep hp hq => moves_relays hstep hp hq)
  obtain ⟨pre', e', post', p', rfl, -, ip, rfl⟩ := run_enters (I := (· = .bound))
    (K := fun _ e => ∃ ip, e = .udpBind ip true) hpre nofun rfl
    (by rintro p e _ hstep - rfl; exact moves_bound hstep)
  exact ⟨_, post, ip, b, rfl, List.mem_append_right _ (.head _)⟩

/-- Where an event stands in a run, it is a step. -/
theorem run_at {pre post : Trace} {e : Ev} (h : session.Run .fresh (pre ++ e :: post) q) :
    ∃ p r, session.Run .fresh pre p ∧ p.Moves e r := by
  obtain ⟨p, hpre, hrest⟩ := h.split
  cases hrest with
  | cons hstep _ => exact ⟨p, _, hpre, hstep⟩

end

/-! ## Connections -/

section
variable (L : Libs) (auth : AuthConfig) (statsEnabled : Bool) (listener : HttpListener)
  (peer : SocketAddr) (env : Env) (inp : Bytes)

/-- All a connection did. -/
def connectionTrace : Trace :=
  (finalState (serveConnection L auth statsEnabled listener peer (.accepted env inp))).trace

theorem connectionTrace_run : ∃ q, q.quiescent = true ∧
    session.Run .fresh (connectionTrace L auth statsEnabled listener peer env inp) q := by
  obtain ⟨evs, q, ht, hrun, hq⟩ :=
    serveConnection_obeys L auth statsEnabled listener peer (.accepted env inp)
  refine ⟨q, ?_, ?_⟩
  · split at hq <;> exact hq
  · rw [connectionTrace, ht]
    exact hrun

/-- The counters of failures say what failed. -/
structure FailuresAccounted (t : Trace) : Prop where
  connects : t.count (.stat .incConnectFailures) = t.countP isUnreached
  relays : t.count (.stat .incRelayFailures) = t.countP isCutShort
  recorded : t.countP isRecord = t.countP isUnresolved + t.count (.stat .incConnectFailures) +
    t.count (.stat .incAuthFailures) + t.count (.stat .incRelayFailures)
  refusals : t.count (.stat .incAuthFailures) ≤ 1
  refused : t.count (.stat .incAuthFailures) = 1 → ∀ e ∈ t, isService e = false

/-- So are the associations. -/
theorem associations_counted {t : Trace} {q : Phase} (hrun : session.Run .fresh t q)
    (hq : q.quiescent = true) : t.count (.stat .incUdpAssociateSessions) = t.countP isBind := by
  have h := hrun.weigh fun h => Phase.Moves.binds h
  have hunbound : q.unbound = 0 := by cases q <;> first | rfl | cases hq
  have hfresh : Phase.fresh.unbound = 0 := rfl
  rw [weigh_sub, weigh_tally, weigh_tally] at h
  rw [List.count]
  omega

/-- A run that is over owes nothing. -/
theorem quiescent_owes {q : Phase} (hq : q.quiescent = true) : q.uncounted = 0 ∧ q.uncut = 0 ∧
    q.unrecorded = 0 ∧ (q.refusals = 0 ∨ q.refusals = 1 ∧ q.services = 0) := by
  cases q <;> first
    | exact ⟨rfl, rfl, rfl, .inl rfl⟩
    | exact ⟨rfl, rfl, rfl, .inr ⟨rfl, rfl⟩⟩
    | cases hq

theorem FailuresAccounted.of_run {t : Trace} {q : Phase} (hrun : session.Run .fresh t q)
    (hq : q.quiescent = true) : FailuresAccounted t := by
  obtain ⟨h₁, h₂, h₃, h₄, h₅, -⟩ := run_owes hrun
  obtain ⟨hu₁, hu₂, hu₃, hu₄⟩ := quiescent_owes hq
  refine ⟨by omega, by omega, by omega, by omega, fun hone => ?_⟩
  have hnone : t.countP isService = 0 := by omega
  exact fun e he => Bool.eq_false_iff.2 (List.countP_eq_zero.1 hnone e he)

/-- **Every failure is counted once and recorded once.** In every connection, however it
ends, the failed connects counted are the targets that were not reached, and the failed
relays the copy loops and the datagrams that failed, sent or received; one error is recorded
for each of these, for each refusal, and for each name that was not resolved. A client is
refused at most once, and gets no service then. -/
theorem failures_accounted :
    FailuresAccounted (connectionTrace L auth statsEnabled listener peer env inp) := by
  obtain ⟨q, hq, hrun⟩ := connectionTrace_run L auth statsEnabled listener peer env inp
  exact .of_run hrun hq

theorem Phase.at_most_one (q : Phase) : q.services ≤ 1 ∧ q.copies ≤ 1 := by
  unfold services copies
  constructor <;> split <;> decide

/-- Services come one at a time, and in order. -/
structure OneService (t : Trace) : Prop where
  services : t.countP isService ≤ 1
  copies : t.countP isCopied ≤ 1
  sent : ∀ {pre b post}, t = pre ++ .upWrite b :: post → ∃ target, .connect target true ∈ pre
  copied : ∀ {pre up down ok post}, t = pre ++ .copied up down ok :: post → Established pre
  datagrams : ∀ {pre target packet ok post}, t = pre ++ .udpSend target packet ok :: post → Associated pre

/-- **A connection gets one service at most, and in order.** No connection opens more than
one upstream connection, relay socket or page, or copies twice. Nothing is sent to an
upstream that was not reached; the copy loop starts once the client was told, or its
request sent on; no datagram leaves before there is a socket and the client was told. -/
theorem one_service : OneService (connectionTrace L auth statsEnabled listener peer env inp) := by
  obtain ⟨q, hq, hrun⟩ := connectionTrace_run L auth statsEnabled listener peer env inp
  obtain ⟨-, -, -, -, h₅, h₆⟩ := run_owes hrun
  have hle := Phase.at_most_one q
  refine ⟨by omega, by omega, fun ht => ?_, fun ht => ?_, fun ht => ?_⟩
  · obtain ⟨p, r, hpre, hstep⟩ := run_at (ht ▸ hrun)
    cases hstep with
    | sendOn => exact run_reached hpre
    | sendMore =>
      obtain ⟨a, mid, c, target, e, rfl, ⟨rest, rfl⟩, -⟩ := run_opened hpre
      exact ⟨target, by simp⟩
  · obtain ⟨p, r, hpre, hstep⟩ := run_at (ht ▸ hrun)
    cases hstep with
    | copied => exact run_opened hpre
    | cutShort => exact run_opened hpre
  · obtain ⟨p, r, hpre, hstep⟩ := run_at (ht ▸ hrun)
    cases hstep with
    | send | sendFailed | reply | replyFailed => exact run_relays hpre rfl

/-- Nothing is counted or recorded before there is a reason for it. -/
structure Lags (t : Trace) : Prop where
  connects : t.count (.stat .incConnectFailures) ≤ t.countP isUnreached
  relays : t.count (.stat .incRelayFailures) ≤ t.countP isCutShort
  records : t.countP isRecord ≤ t.countP isUnresolved + t.count (.stat .incConnectFailures) +
    t.count (.stat .incAuthFailures) + t.count (.stat .incRelayFailures)
  /-- so far one failure at most was not counted, or one reason not recorded -/
  one : (t.countP isUnreached - t.count (.stat .incConnectFailures)) +
    (t.countP isCutShort - t.count (.stat .incRelayFailures)) +
    (t.countP isUnresolved + t.count (.stat .incConnectFailures) +
      t.count (.stat .incAuthFailures) + t.count (.stat .incRelayFailures) - t.countP isRecord) ≤ 1

theorem Phase.lags (q : Phase) : 0 ≤ q.uncounted ∧ 0 ≤ q.uncut ∧ 0 ≤ q.unrecorded ∧
    q.uncounted + q.uncut + q.unrecorded ≤ 1 := by
  cases q <;> simp [uncounted, unrecorded, uncut]

theorem Lags.of_run {t : Trace} {q : Phase} (hrun : session.Run .fresh t q) : Lags t := by
  obtain ⟨h₁, h₂, h₃, -, -, -⟩ := run_owes hrun
  obtain ⟨hu, hc, hr, hone⟩ := q.lags
  exact ⟨by omega, by omega, by omega, by omega⟩

/-- **A connection follows the session, and accounts for one event at a time.** All it
does is a run of the session, which ends with nothing left to be accounted for; whatever
it has done at some moment is a run, too, and then one failure at most waits to be counted
or one error to be recorded, and never both. -/
theorem follows_session :
    (∃ q, q.quiescent = true ∧
      session.Run .fresh (connectionTrace L auth statsEnabled listener peer env inp) q) ∧
    ∀ t, t <+: connectionTrace L auth statsEnabled listener peer env inp →
      (∃ p, session.Run .fresh t p) ∧ Lags t := by
  obtain ⟨q, hq, hrun⟩ := connectionTrace_run L auth statsEnabled listener peer env inp
  refine ⟨⟨q, hq, hrun⟩, fun t ⟨rest, ht⟩ => ?_⟩
  obtain ⟨p, hp, -⟩ := (ht ▸ hrun : session.Run .fresh (t ++ rest) q).split
  exact ⟨⟨p, hp⟩, .of_run hp⟩

end

end TinySocks.L4
