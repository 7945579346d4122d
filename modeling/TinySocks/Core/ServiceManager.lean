import TinySocks.Core.Crash

/-!
# The service manager of Windows

The calls a program makes to install a service and to remove it are a parameter (`Calls`),
and what their documentation says of them are its laws (`Calls.Lawful`): any call may fail,
before or after it did something, and the program may be stopped behind it, so the machine
is kept in all its stages, as are its files. A service that is deleted is marked, and goes
once it has stopped and nobody has it open; until then its name is taken.

* `Performs.survives`, `Tells.survives`: what one call leaves, from its law alone.
* `Outcomes.calls_lawful`: a service manager of which one says what succeeds has the laws.
-/
namespace TinySocks.Core.Services

open Files

/-- The states of a service that is never paused. -/
inductive ServiceState where
  | stopped
  | startPending
  | running
  | stopPending
  deriving DecidableEq, Repr

structure ServiceInfo where
  executablePath : Str
  launchArguments : List Str
  deriving DecidableEq, Repr

structure Service where
  info : ServiceInfo
  description : Str := []
  state : ServiceState := .stopped
  /-- it is deleted -/
  marked : Bool := false
  deriving DecidableEq, Repr

/-- The files of a machine, and its services. -/
structure Machine where
  fs : FileSystem
  services : Str → Option Service

def Machine.set (m : Machine) (name : Str) (s : Option Service) : Machine :=
  { m with services := fun n => if n = name then s else m.services n }

/-- The machine, and all stages it was in before. -/
structure Host where
  files : Outside
  now : Machine
  past : List Machine

namespace Host

def start (files : Outside) (m : Machine) : Host := { files, now := m, past := [] }

def stages (h : Host) : List Machine := h.past ++ [h.now]

def become (h : Host) (m : Machine) : Host := { h with now := m, past := h.past ++ [h.now] }

/-- The stages of the files are stages of the machine. -/
def through (h : Host) (d : Disk) : Host :=
  { h with now := { h.now with fs := d.fs }, past := h.past ++ d.past.map fun fs => { h.now with fs } }

end Host

instance : Staged Host Machine := ⟨Host.now, Host.stages⟩

/-! ## Calls -/

section
variable {ε α : Type}

/-- An effect on files. -/
def onFiles (m : EStateM ε Disk α) : EStateM ε Host α := fun h =>
  match m (Disk.start h.files h.now.fs) with
  | .ok a d => .ok a (h.through d)
  | .error e d => .error e (h.through d)

/-- What becomes of opening a service. -/
inductive Opening where
  | opened
  | notFound
  | failed
  deriving DecidableEq, Repr

/-- The calls of `windows_service`. Each is told the error it gives. -/
structure Calls (ε : Type) where
  /-- `ServiceManager::local_computer` -/
  localComputer : ε → EStateM ε Host Unit
  /-- `ServiceManager::create_service` -/
  createService : Str → ServiceInfo → ε → EStateM ε Host Unit
  /-- `ServiceManager::open_service` -/
  openService : Str → EStateM ε Host Opening
  /-- `Service::query_status` -/
  queryStatus : Str → ε → EStateM ε Host ServiceState
  /-- `Service::set_description` -/
  setDescription : Str → Str → ε → EStateM ε Host Unit
  /-- `Service::start` -/
  startService : Str → ε → EStateM ε Host Unit
  /-- `Service::stop` -/
  stopService : Str → ε → EStateM ε Host Unit
  /-- `Service::delete` -/
  deleteService : Str → ε → EStateM ε Host Unit

/-- A deleted service may have gone meanwhile. -/
def settle (name : Str) (gone : Bool) : EStateM ε Host Unit := fun h =>
  match h.now.services name with
  | some s => if gone && s.marked then .ok () (h.become (h.now.set name none)) else .ok () h
  | none => .ok () h

/-! ## Their laws -/

/-- A call that changes the machine in one way, if it does. It may have when it fails. -/
structure Performs (R : Machine → Machine → Prop) (call : EStateM ε Host Unit) : Prop where
  stages : ∀ h, finalState (call h) = h ∨ ∃ m, R h.now m ∧ finalState (call h) = h.become m
  ok : ∀ {h h'}, call h = .ok () h' → ∃ m, R h.now m ∧ h' = h.become m

/-- A call that changes nothing. -/
structure Tells (R : Machine → α → Prop) (call : EStateM ε Host α) : Prop where
  stays : ∀ h, finalState (call h) = h
  ok : ∀ {h a h'}, call h = .ok a h' → R h.now a

/-- A service is there, and changes. -/
def OnService (name : Str) (R : Service → Service → Prop) (m m' : Machine) : Prop :=
  ∃ old new, m.services name = some old ∧ R old new ∧ m' = m.set name (some new)

/-- A service is created. -/
def Creates (name : Str) (info : ServiceInfo) (m m' : Machine) : Prop :=
  m.services name = none ∧ m' = m.set name (some { info })

/-- What is documented of the calls. A name that is taken cannot be taken again, a call on a
service needs one, and one that is not found is not there; nothing is known of what a query
tells. -/
structure Calls.Lawful (calls : Calls ε) : Prop where
  localComputer : ∀ e, Tells (fun _ _ => True) (calls.localComputer e)
  createService : ∀ name info e, Performs (Creates name info) (calls.createService name info e)
  openService : ∀ name,
    Tells (fun m opening => opening = .notFound → m.services name = none) (calls.openService name)
  queryStatus : ∀ name e, Tells (fun _ _ => True) (calls.queryStatus name e)
  setDescription : ∀ name text e,
    Performs (OnService name fun s s' => s' = { s with description := text })
      (calls.setDescription name text e)
  startService : ∀ name e,
    Performs (OnService name fun s s' => s' = { s with state := .startPending }) (calls.startService name e)
  stopService : ∀ name e,
    Performs (OnService name fun s s' => s' = { s with state := .stopPending }) (calls.stopService name e)
  deleteService : ∀ name e,
    Performs (OnService name fun s s' => s' = { s with marked := true }) (calls.deleteService name e)

/-- A service manager. -/
structure Manager (ε : Type) extends Calls ε where
  lawful : toCalls.Lawful

end

/-! ## What they leave -/

section
variable {m : Machine} {name n : Str} {s : Option Service}

@[simp] theorem Host.become_now {h : Host} : (h.become m).now = m := rfl

@[simp] theorem Machine.set_self : (m.set name s).services name = s := if_pos rfl

theorem Machine.set_other (h : n ≠ name) : (m.set name s).services n = m.services n := if_neg h

theorem Machine.set_set {t : Option Service} : (m.set name s).set name t = m.set name t := by
  unfold Machine.set
  simp only [Machine.mk.injEq, true_and]
  funext k
  split <;> rfl

end

/-! ### Calls that succeed -/

section
variable {ε α : Type} {h h' : Host} {e : ε}

theorem onFiles_ok {m : EStateM ε Disk α} {a : α} (hm : onFiles m h = .ok a h') :
    ∃ d, m (Disk.start h.files h.now.fs) = .ok a d ∧ h' = h.through d := by
  unfold onFiles at hm
  cases hd : m (Disk.start h.files h.now.fs) with
  | ok b d =>
    rw [hd] at hm
    cases hm
    exact ⟨d, rfl, rfl⟩
  | error e d =>
    rw [hd] at hm
    cases hm

theorem Tells.eq_ok {call : EStateM ε Host α} {R : Machine → α → Prop} {a : α} (hcall : Tells R call)
    (hm : call h = .ok a h') : R h.now a ∧ h' = h := by
  have hstays := hcall.stays h
  rw [hm] at hstays
  exact ⟨hcall.ok hm, hstays⟩

end

/-! ### Calls that may be stopped -/

section
variable {ε α : Type} {C P : Machine → Prop}

theorem Performs.survives {call : EStateM ε Host Unit} {R : Machine → Machine → Prop}
    (hcall : Performs R call) {Q : Machine → Prop} (hC : ∀ m, Q m → C m)
    (hQ : ∀ m m', P m → R m m' → Q m') : Survives C P call fun _ => Q := by
  intro h hP
  refine ⟨?_, fun a h' hm => ?_⟩
  · rcases hcall.stages h with hsame | ⟨m, hR, hm⟩
    · exact ⟨[], by rw [hsame, List.append_nil], nofun⟩
    · refine ⟨[m], by rw [hm]; rfl, List.forall_mem_singleton.2 ?_⟩
      exact hC m (hQ _ m hP hR)
  · obtain ⟨m, hR, rfl⟩ := hcall.ok hm
    exact hQ _ m hP hR

theorem Tells.survives {call : EStateM ε Host α} {R : Machine → α → Prop} (hcall : Tells R call)
    {Q : α → Machine → Prop} (hQ : ∀ m a, P m → R m a → Q a m) : Survives C P call Q :=
  .quiet hcall.stays fun h a _ hm hP => hQ h.now a hP (hcall.ok hm)

/-- The files change, and the services do not. -/
theorem survives_onFiles {m : EStateM ε Disk α} {Q : α → Machine → Prop}
    (h : ∀ services, Survives (fun fs => C { fs, services }) (fun fs => P { fs, services }) m
      fun a fs => Q a { fs, services }) : Survives C P (onFiles m) Q := by
  intro host hP
  obtain ⟨⟨new, hstages, hnew⟩, hok⟩ := h host.now.services (Disk.start host.files host.now.fs) hP
  have hthrough : ∀ d : Disk, d.states = [host.now.fs] ++ new →
      ∃ more, (host.through d).stages = host.stages ++ more ∧ ∀ s ∈ more, C s := by
    intro d hd
    refine ⟨new.map fun fs => { host.now with fs }, ?_, ?_⟩
    · have hmap := congrArg (List.map fun fs => ({ host.now with fs } : Machine)) hd
      simp only [Disk.states, List.map_append, List.map_cons, List.map_nil] at hmap
      unfold Host.stages Host.through
      rw [List.append_assoc, hmap, List.append_assoc]
    · intro s hs
      obtain ⟨fs, hfs, rfl⟩ := List.mem_map.1 hs
      exact hnew fs hfs
  unfold onFiles
  cases hm : m (Disk.start host.files host.now.fs) with
  | ok a d =>
    rw [hm] at hstages
    refine ⟨hthrough d hstages, fun b d' heq => ?_⟩
    cases heq
    exact hok a d hm
  | error e d =>
    rw [hm] at hstages
    exact ⟨hthrough d hstages, nofun⟩

theorem survives_settle {name : Str} {gone : Bool} {Q : Unit → Machine → Prop}
    (hsame : ∀ m, P m → Q () m)
    (hgone : ∀ m s, P m → m.services name = some s → s.marked = true →
      C (m.set name none) ∧ Q () (m.set name none)) :
    Survives C P (settle name gone : EStateM ε Host Unit) Q := by
  intro h hP
  unfold settle
  split
  · rename_i s hs
    split
    · rename_i hmarked
      obtain ⟨hC, hQ⟩ := hgone _ s hP hs (Bool.and_eq_true_iff.1 hmarked).2
      refine ⟨⟨[_], rfl, List.forall_mem_singleton.2 hC⟩, fun a d' heq => ?_⟩
      cases heq
      exact hQ
    · refine ⟨⟨[], (List.append_nil _).symm, nofun⟩, fun a d' heq => ?_⟩
      cases heq
      exact hsame _ hP
  · refine ⟨⟨[], (List.append_nil _).symm, nofun⟩, fun a d' heq => ?_⟩
    cases heq
    exact hsame _ hP

end

/-! ## A service manager -/

/-- What the calls of a program meet. -/
structure Outcomes where
  connect : Bool
  create : Bool
  describe : Bool
  start : Bool
  openable : Bool
  query : Bool
  stop : Bool
  delete : Bool
  deriving DecidableEq, Repr

/-- Nothing fails. -/
def Outcomes.calm : Outcomes where
  connect := true
  create := true
  describe := true
  start := true
  openable := true
  query := true
  stop := true
  delete := true

section
variable {ε : Type}

/-- A call that changes the machine, where it can be made. -/
def attempt (allowed : Bool) (change : Machine → Option Machine) (e : ε) : EStateM ε Host Unit := fun h =>
  match allowed, change h.now with
  | true, some m => .ok () (h.become m)
  | _, _ => .error e h

/-- The name may not be taken. -/
def newService (name : Str) (info : ServiceInfo) (m : Machine) : Option Machine :=
  if (m.services name).isNone then some (m.set name (some { info })) else none

/-- A call on a service. -/
def onService (name : Str) (change : Service → Option Service) (m : Machine) : Option Machine :=
  ((m.services name).bind change).map fun s => m.set name (some s)

/-- The calls, where each fails only if that is said, or its documentation has it fail. -/
def Outcomes.calls (outcomes : Outcomes) : Calls ε where
  localComputer e h := if outcomes.connect then .ok () h else .error e h
  createService name info := attempt outcomes.create (newService name info)
  openService name h := match h.now.services name with
    | none => .ok .notFound h
    | some _ => .ok (if outcomes.openable then .opened else .failed) h
  queryStatus name e h := match outcomes.query, h.now.services name with
    | true, some s => .ok s.state h
    | _, _ => .error e h
  setDescription name text := attempt outcomes.describe
    (onService name fun s => some { s with description := text })
  startService name := attempt outcomes.start (onService name fun s =>
    if s.state = .stopped ∧ s.marked = false then some { s with state := .startPending } else none)
  stopService name := attempt outcomes.stop (onService name fun s =>
    if s.state ≠ .stopped then some { s with state := .stopPending } else none)
  deleteService name := attempt outcomes.delete (onService name fun s =>
    if s.marked then none else some { s with marked := true })

theorem attempt_cases (allowed : Bool) (change : Machine → Option Machine) (e : ε) (h : Host) :
    attempt allowed change e h = .error e h ∨
      ∃ m, change h.now = some m ∧ attempt allowed change e h = .ok () (h.become m) := by
  unfold attempt
  cases allowed with
  | false => exact .inl rfl
  | true =>
    cases hm : change h.now with
    | none => exact .inl rfl
    | some m => exact .inr ⟨m, rfl, rfl⟩

theorem attempt_performs {allowed : Bool} {change : Machine → Option Machine} {R : Machine → Machine → Prop}
    (hR : ∀ m m', change m = some m' → R m m') (e : ε) : Performs R (attempt allowed change e) := by
  refine ⟨fun h => ?_, fun {h h'} hok => ?_⟩
  · rcases attempt_cases allowed change e h with he | ⟨m, hm, he⟩
    · exact .inl (by rw [he]; rfl)
    · exact .inr ⟨m, hR _ m hm, by rw [he]; rfl⟩
  · rcases attempt_cases allowed change e h with he | ⟨m, hm, he⟩
    · cases he.symm.trans hok
    · cases he.symm.trans hok
      exact ⟨m, hR _ m hm, rfl⟩

theorem onService_performs {allowed : Bool} {name : Str} {change : Service → Option Service}
    {R : Service → Service → Prop} (hR : ∀ s s', change s = some s' → R s s') (e : ε) :
    Performs (OnService name R) (attempt allowed (onService name change) e) := by
  refine attempt_performs (fun m m' hm => ?_) e
  obtain ⟨new, hnew, rfl⟩ := Option.map_eq_some_iff.1 hm
  obtain ⟨old, hold, hchange⟩ := Option.bind_eq_some_iff.1 hnew
  exact ⟨old, new, hold, hR old new hchange, rfl⟩

theorem Outcomes.calls_lawful (outcomes : Outcomes) : (outcomes.calls : Calls ε).Lawful where
  localComputer e := by
    refine ⟨fun h => ?_, fun _ => trivial⟩
    unfold Outcomes.calls
    dsimp only
    split <;> rfl
  createService name info e := by
    refine attempt_performs (fun m m' hm => ?_) e
    unfold newService at hm
    split at hm
    · rename_i hfree
      cases hm
      exact ⟨Option.isNone_iff_eq_none.1 hfree, rfl⟩
    · cases hm
  openService name := by
    refine ⟨fun h => ?_, fun {h a h'} hm hnone => ?_⟩
    · unfold Outcomes.calls
      dsimp only
      split <;> rfl
    · subst hnone
      unfold Outcomes.calls at hm
      dsimp only at hm
      cases hs : h.now.services name with
      | none => rfl
      | some s =>
        rw [hs] at hm
        cases ho : outcomes.openable <;> rw [ho] at hm <;> cases hm
  queryStatus name e := by
    refine ⟨fun h => ?_, fun _ => trivial⟩
    unfold Outcomes.calls
    dsimp only
    split <;> rfl
  setDescription name text e := onService_performs (fun s s' hs => (Option.some.inj hs).symm) e
  startService name e := by
    refine onService_performs (fun s s' hs => ?_) e
    split at hs
    · exact (Option.some.inj hs).symm
    · cases hs
  stopService name e := by
    refine onService_performs (fun s s' hs => ?_) e
    split at hs
    · exact (Option.some.inj hs).symm
    · cases hs
  deleteService name e := by
    refine onService_performs (fun s s' hs => ?_) e
    split at hs
    · cases hs
    · exact (Option.some.inj hs).symm

def Outcomes.manager (outcomes : Outcomes) : Manager ε := ⟨outcomes.calls, outcomes.calls_lawful⟩

/-- The service manager with which nothing fails. -/
def Manager.calm : Manager ε := Outcomes.calm.manager

end
end TinySocks.Core.Services
