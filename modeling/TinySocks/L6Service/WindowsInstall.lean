import TinySocks.Core.Lts
import TinySocks.Core.ServiceManager
import TinySocks.L6Service.Lifecycle
import TinySocks.L6Service.WindowsService

/-!
# Installing a Windows service, and removing it (`service/windows.rs`)

`install` copies the binary, and then has the service manager create the service, which
keeps the command line. `uninstall` stops the service and deletes it, waits for it to go,
and removes the binary. Either may fail at any effect or be killed between two of them. Of
the service manager no more is known than `Calls.Lawful` says.

* `registered_starts`: whatever was installed and removed, a service that is there and not
  deleted has its binary, and its command line starts it with the options of someone's
  installation.
* `install_registers`: the service comes after its binary, and one that is there stays as it is.
* `uninstall_clears`: the binary goes after its service, and nothing else does.
-/
namespace TinySocks.L6.Windows

open TinySocks.Core TinySocks.Core.Files TinySocks.Core.Services TinySocks.Core.CommandLine TinySocks.L1
  TinySocks.L3

def WINDOWS_SERVICE_NAME : Str := "TinySocks".toList

def DEFAULT_WINDOWS_APP_DIR_NAME : Str := "TinySocks".toList

/-- A path that is a drive has no separator behind it: `C:` -/
def isDrive : Str → Bool
  | [c, ':'] => c.isAlpha
  | _ => false

/-- `Path::join`, of a name -/
def join (base name : Str) : Str :=
  match base.getLast? with
  | some c => if c = '\\' ∨ c = '/' ∨ isDrive base = true then base ++ name else base ++ '\\' :: name
  | none => name

/-- mirrors src/service/windows.rs:21-26 -/
def installDir (programFiles : Option Str) : Str :=
  join (programFiles.getD "C:\\Program Files".toList) DEFAULT_WINDOWS_APP_DIR_NAME

/-- mirrors src/service/windows.rs:29-31 -/
def installedExePath (programFiles : Option Str) (serviceName : Str) : Str :=
  join (installDir programFiles) (serviceName ++ ".exe".toList)

abbrev exePath (programFiles : Option Str) : Str := installedExePath programFiles WINDOWS_SERVICE_NAME

/-- mirrors src/service/windows.rs:44-62 -/
def installProgram (programFiles : Option Str) : EStateM Str Disk Unit := do
  let exe ← currentExe "Failed to locate current executable".toList
  createDirAll (installDir programFiles) ("Failed to create install directory " ++ installDir programFiles)
  copyBinary exe (exePath programFiles)

/-- mirrors src/service/windows.rs:34-106 -/
def install (manager : Manager Str) (L : Libs) (programFiles : Option Str) (options : RuntimeOptions) :
    EStateM Str Host Unit := do
  onFiles (installProgram programFiles)
  manager.localComputer "Installing a service requires administrator privileges".toList
  let launchArguments ← ofExcept (windowsServiceArgs L options)
  manager.createService WINDOWS_SERVICE_NAME { executablePath := exePath programFiles, launchArguments }
    ("Failed to create Windows service '" ++ WINDOWS_SERVICE_NAME ++ "'")
  manager.setDescription WINDOWS_SERVICE_NAME SERVICE_DESCRIPTION
    "Failed to set Windows service description".toList
  manager.startService WINDOWS_SERVICE_NAME
    ("Failed to start Windows service '" ++ WINDOWS_SERVICE_NAME ++ "'")

/-- What becomes of removing a directory. -/
inductive DirRemoval where
  | done
  | notFound
  | notEmpty
  | failed
  deriving DecidableEq, Repr

/-- What an uninstallation meets. -/
structure Meets where
  /-- whether removing a file meets no error but that it is not there -/
  removable : Str → Bool
  removeDir : DirRemoval
  /-- the text of an error of the service manager -/
  failure : Str
  /-- whether the deleted service is gone, each time it is looked for -/
  looks : List Bool

/-- Nothing fails, and the service is gone at once. -/
def Meets.calm : Meets where
  removable _ := true
  removeDir := .done
  failure := []
  looks := [true]

section
variable (manager : Manager Str) (meets : Meets) (programFiles : Option Str)

/-- mirrors src/service/windows.rs:168-191 -/
def removeInstallFiles : EStateM Str Disk Unit := do
  removeIfThere meets.removable (exePath programFiles) ("Failed to remove " ++ exePath programFiles)
  match meets.removeDir with
  | .done | .notFound | .notEmpty => pure ()
  | .failed => throw ("Failed to remove " ++ installDir programFiles)

/-- mirrors src/service/windows.rs:146-164 -/
def awaitRemoval : List Bool → EStateM Str Host Unit
  -- it is still there after five seconds: it stays marked
  | [] => onFiles (removeInstallFiles meets programFiles)
  | gone :: looks => do
    settle WINDOWS_SERVICE_NAME gone
    match ← manager.openService WINDOWS_SERVICE_NAME with
    | .notFound => onFiles (removeInstallFiles meets programFiles)
    | .opened | .failed => awaitRemoval looks

/-- mirrors src/service/windows.rs:138-142 -/
def stopUnlessStopped : EStateM Str Host Unit := do
  match ← manager.queryStatus WINDOWS_SERVICE_NAME meets.failure with
  | .stopped => pure ()
  | _ => manager.stopService WINDOWS_SERVICE_NAME meets.failure

/-- mirrors src/service/windows.rs:109-165 -/
def uninstall : EStateM Str Host Unit := do
  manager.localComputer "Uninstalling a service requires administrator privileges".toList
  match ← manager.openService WINDOWS_SERVICE_NAME with
  | .opened => do
    stopUnlessStopped manager meets
    manager.deleteService WINDOWS_SERVICE_NAME meets.failure
    awaitRemoval manager meets programFiles meets.looks
  | .notFound => onFiles (removeInstallFiles meets programFiles)
  | .failed => throw meets.failure

end

/-- The machine after an installation that began with one, and all before. -/
def installed (L : Libs) (programFiles : Option Str) (options : RuntimeOptions) (files : Outside)
    (manager : Manager Str) (m : Machine) : Host :=
  finalState (install manager L programFiles options (Host.start files m))

def uninstalled (meets : Meets) (programFiles : Option Str) (files : Outside) (manager : Manager Str)
    (m : Machine) : Host :=
  finalState (uninstall manager meets programFiles (Host.start files m))

/-! ## Stages of an installation -/

/-- Nothing but the binary and the service differs. -/
structure Apart (programFiles : Option Str) (m m' : Machine) : Prop where
  files : ∀ path, path ≠ exePath programFiles → m'.fs path = m.fs path
  services : ∀ name, name ≠ WINDOWS_SERVICE_NAME → m'.services name = m.services name

/-- The service was created, with a binary that is a copy of a whole file, or there before. -/
structure Registered (programFiles : Option Str) (args : List Str) (m m' : Machine) : Prop where
  free : m.services WINDOWS_SERVICE_NAME = none
  binary : (m'.fs (exePath programFiles)).isSome = true ∧
    ∃ source, m'.fs (exePath programFiles) = m.fs source
  service : ∃ description state, m'.services WINDOWS_SERVICE_NAME = some {
    info := { executablePath := exePath programFiles, launchArguments := args }
    description, state, marked := false }

/-- How far an installation has come. -/
structure Installing (L : Libs) (programFiles : Option Str) (options : RuntimeOptions) (m m' : Machine) :
    Prop where
  apart : Apart programFiles m m'
  binary : (m.fs (exePath programFiles)).isSome = true → (m'.fs (exePath programFiles)).isSome = true
  service : m'.services WINDOWS_SERVICE_NAME = m.services WINDOWS_SERVICE_NAME ∨
    ∃ args, windowsServiceArgs L options = .ok args ∧ Registered programFiles args m m'

section
variable {manager : Manager Str} {L : Libs} {programFiles : Option Str} {options : RuntimeOptions}
  {m m' : Machine} {args : List Str}

theorem apart_refl (programFiles : Option Str) (m : Machine) : Apart programFiles m m :=
  ⟨fun _ _ => rfl, fun _ _ => rfl⟩

theorem Apart.set (h : Apart programFiles m m') (s : Option Service) :
    Apart programFiles m (m'.set WINDOWS_SERVICE_NAME s) := by
  refine ⟨h.files, fun name hn => ?_⟩
  rw [Machine.set_other hn]
  exact h.services name hn

theorem apart_files {fs : FileSystem} (h : ∀ path, path ≠ exePath programFiles → fs path = m.fs path) :
    Apart programFiles m { m with fs } := ⟨h, fun _ _ => rfl⟩

/-- The files while the binary is copied. -/
theorem survives_installProgram (fs : FileSystem) :
    Survives (fun fs' => ∃ f, fs' = fs.set (exePath programFiles) f) (· = fs) (installProgram programFiles)
      fun _ fs' => (fs' (exePath programFiles)).isSome = true ∧
        (∃ source, fs' (exePath programFiles) = fs source) ∧
        (∀ path, path ≠ exePath programFiles → fs' path = fs path) := by
  unfold installProgram
  refine (survives_currentExe (Q := fun _ fs' => fs' = fs) fun _ _ h => h).bind fun exe => ?_
  refine (survives_createDirAll (Q := fun _ fs' => fs' = fs) fun _ h => h).bind fun _ => ?_
  refine survives_copyBinary (fun fs' h hthere => ?_)
    (fun fs' f h n => ⟨{ f with content := f.content.take n }, by rw [h]⟩) fun fs' f h hf => ?_
  · subst h
    exact ⟨hthere, ⟨_, rfl⟩, fun _ _ => rfl⟩
  · subst h
    rw [FileSystem.set_self]
    exact ⟨rfl, ⟨exe, hf.symm⟩, fun path hp => FileSystem.set_other hp f⟩

/-- Before there is a service. -/
structure Copied (programFiles : Option Str) (m m' : Machine) : Prop where
  apart : Apart programFiles m m'
  binary : (m'.fs (exePath programFiles)).isSome = true ∧
    ∃ source, m'.fs (exePath programFiles) = m.fs source
  service : m'.services WINDOWS_SERVICE_NAME = m.services WINDOWS_SERVICE_NAME

theorem survives_copied : Survives (Installing L programFiles options m) (· = m)
    (onFiles (installProgram programFiles)) fun _ m' => Copied programFiles m m' := by
  refine survives_onFiles fun services d hd => ?_
  have hfs : d.fs = m.fs := congrArg Machine.fs hd
  have hservices : services = m.services := congrArg Machine.services hd
  subst hservices
  obtain ⟨⟨new, hstages, hnew⟩, hok⟩ := @survives_installProgram programFiles m.fs d hfs
  refine ⟨⟨new, hstages, fun fs hm => ?_⟩, fun a d' he => ?_⟩
  · obtain ⟨f, rfl⟩ := hnew fs hm
    refine ⟨apart_files fun path hp => FileSystem.set_other hp f, fun _ => ?_, .inl rfl⟩
    show ((m.fs.set _ f) _).isSome = true
    rw [FileSystem.set_self]
    rfl
  · obtain ⟨hthere, hsource, hother⟩ := hok a d' he
    exact ⟨apart_files hother, ⟨hthere, hsource⟩, rfl⟩

/-- A call that leaves what the service is. -/
theorem Registered.onService {R : Service → Service → Prop} {m'' : Machine}
    (h : Registered programFiles args m m')
    (hchange : ∀ s s', R s s' → s'.info = s.info ∧ s'.marked = s.marked)
    (hm : OnService WINDOWS_SERVICE_NAME R m' m'') : Registered programFiles args m m'' := by
  obtain ⟨old, new, hold, hnew, rfl⟩ := hm
  obtain ⟨description, state, hs⟩ := h.service
  obtain ⟨hinfo, hmarked⟩ := hchange old new hnew
  rw [hs] at hold
  cases hold
  refine ⟨h.free, h.binary, new.description, new.state, ?_⟩
  rw [Machine.set_self]
  cases new
  cases hinfo
  cases hmarked
  rfl

theorem Apart.onService {R : Service → Service → Prop} {m'' : Machine} (h : Apart programFiles m m')
    (hm : OnService WINDOWS_SERVICE_NAME R m' m'') : Apart programFiles m m'' := by
  obtain ⟨old, new, -, -, rfl⟩ := hm
  exact h.set _

/-- A service that was created is a stage of its installation. -/
theorem Registered.installing (h : Registered programFiles args m m') (hapart : Apart programFiles m m')
    (hargs : windowsServiceArgs L options = .ok args) : Installing L programFiles options m m' :=
  ⟨hapart, fun _ => h.binary.1, .inr ⟨args, hargs, h⟩⟩

section
variable (hargs : windowsServiceArgs L options = .ok args)
include hargs

theorem survives_createService {e : Str} : Survives (Installing L programFiles options m)
    (Copied programFiles m) (manager.createService WINDOWS_SERVICE_NAME
      { executablePath := exePath programFiles, launchArguments := args } e)
    fun _ m' => Apart programFiles m m' ∧ Registered programFiles args m m' := by
  refine (manager.lawful.createService _ _ e).survives (fun _ h => h.2.installing h.1 hargs)
    fun m' m'' h hm => ?_
  obtain ⟨hfree, rfl⟩ := hm
  refine ⟨h.apart.set _, h.service.symm.trans hfree, h.binary, [], .stopped, ?_⟩
  rw [Machine.set_self]

theorem survives_onService {call : EStateM Str Host Unit} {R : Service → Service → Prop}
    (hcall : Performs (OnService WINDOWS_SERVICE_NAME R) call)
    (hchange : ∀ s s', R s s' → s'.info = s.info ∧ s'.marked = s.marked) :
    Survives (Installing L programFiles options m)
      (fun m' => Apart programFiles m m' ∧ Registered programFiles args m m') call
      fun _ m' => Apart programFiles m m' ∧ Registered programFiles args m m' :=
  hcall.survives (fun _ h => h.2.installing h.1 hargs)
    fun _ _ h hm => ⟨h.1.onService hm, h.2.onService hchange hm⟩

end

theorem survives_install (m : Machine) : Survives (Installing L programFiles options m) (· = m)
    (install manager L programFiles options) fun _ m' => Apart programFiles m m' ∧
      ∃ args, windowsServiceArgs L options = .ok args ∧ Registered programFiles args m m' := by
  unfold install
  refine survives_copied.bind fun _ => ?_
  refine ((manager.lawful.localComputer _).survives fun _ _ h _ => h).bind fun _ => ?_
  cases hargs : windowsServiceArgs L options with
  | error e => exact Survives.bind (R := fun _ _ => False) .throw fun _ _ h => absurd h id
  | ok args =>
    rw [ofExcept_ok_bind]
    refine (survives_createService hargs).bind fun _ => ?_
    refine (survives_onService hargs (manager.lawful.setDescription ..) fun s s' hs => ?_).bind fun _ => ?_
    · subst hs
      exact ⟨rfl, rfl⟩
    refine (survives_onService hargs (manager.lawful.startService ..) fun s s' hs => ?_).imp (fun _ h => h)
      fun _ _ h => ⟨h.1, args, rfl, h.2⟩
    subst hs
    exact ⟨rfl, rfl⟩

end

/-! ## Stages of an uninstallation -/

/-- There is no service, or it is deleted. -/
def Deleted (m : Machine) : Prop := ∀ s, m.services WINDOWS_SERVICE_NAME = some s → s.marked = true

/-- A service that is there was there before, and is not what it is not. -/
structure Going (programFiles : Option Str) (m m' : Machine) : Prop where
  apart : Apart programFiles m m'
  service : ∀ s', m'.services WINDOWS_SERVICE_NAME = some s' →
    ∃ s, m.services WINDOWS_SERVICE_NAME = some s ∧ s'.info = s.info ∧ (s.marked = true → s'.marked = true)

/-- How far an uninstallation has come. -/
structure Uninstalling (programFiles : Option Str) (m m' : Machine) : Prop where
  going : Going programFiles m m'
  binary : m'.fs (exePath programFiles) = m.fs (exePath programFiles) ∨
    m'.fs (exePath programFiles) = none ∧ Deleted m'

/-- What an uninstallation that succeeded leaves. -/
structure Gone (programFiles : Option Str) (m m' : Machine) : Prop where
  going : Going programFiles m m'
  binary : m'.fs (exePath programFiles) = none
  deleted : Deleted m'

/-- The service goes, and the files are those before. -/
structure Stopping (programFiles : Option Str) (m m' : Machine) : Prop where
  going : Going programFiles m m'
  files : m'.fs = m.fs

section
variable {manager : Manager Str} {programFiles : Option Str} {meets : Meets} {m m' : Machine}

theorem Stopping.uninstalling (h : Stopping programFiles m m') : Uninstalling programFiles m m' :=
  ⟨h.going, .inl (by rw [h.files])⟩

theorem stopping_refl (programFiles : Option Str) (m : Machine) : Stopping programFiles m m :=
  ⟨⟨apart_refl programFiles m, fun s hs => ⟨s, hs, rfl, id⟩⟩, rfl⟩

theorem Stopping.onService {R : Service → Service → Prop} {m'' : Machine} (h : Stopping programFiles m m')
    (hchange : ∀ s s', R s s' → s'.info = s.info ∧ (s.marked = true → s'.marked = true))
    (hm : OnService WINDOWS_SERVICE_NAME R m' m'') : Stopping programFiles m m'' := by
  obtain ⟨old, new, hold, hnew, rfl⟩ := hm
  obtain ⟨s, hs, hinfo, hmarked⟩ := h.going.service old hold
  obtain ⟨hinfo', hmarked'⟩ := hchange old new hnew
  refine ⟨⟨h.going.apart.set _, fun s' hs' => ?_⟩, h.files⟩
  rw [Machine.set_self] at hs'
  cases hs'
  exact ⟨s, hs, hinfo'.trans hinfo, fun hm => hmarked' (hmarked hm)⟩

/-- The binary is removed where its service is deleted. -/
theorem survives_removeInstallFiles : Survives (Uninstalling programFiles m)
    (fun m' => Stopping programFiles m m' ∧ Deleted m') (onFiles (removeInstallFiles meets programFiles))
    fun _ => Gone programFiles m := by
  have hgone : ∀ m', Stopping programFiles m m' ∧ Deleted m' →
      Gone programFiles m { m' with fs := m'.fs.unset (exePath programFiles) } := by
    intro m' h
    refine ⟨⟨⟨fun path hp => ?_, h.1.going.apart.services⟩, h.1.going.service⟩, ?_, h.2⟩
    · show m'.fs.unset _ path = _
      rw [FileSystem.unset_other hp, h.1.files]
    · exact FileSystem.unset_self m'.fs _
  refine survives_onFiles fun services => ?_
  unfold removeInstallFiles
  refine (survives_removeIfThere (Q := fun fs => Gone programFiles m { fs, services })
    (fun fs h => ?_) fun fs h => hgone _ h).bind fun _ => ?_
  · have := hgone _ h
    exact ⟨this.going, .inr ⟨this.binary, this.deleted⟩⟩
  · split
    · exact .pure fun _ h => h
    · exact .pure fun _ h => h
    · exact .pure fun _ h => h
    · exact .throw

theorem survives_awaitRemoval (looks : List Bool) : Survives (Uninstalling programFiles m)
    (fun m' => Stopping programFiles m m' ∧ Deleted m') (awaitRemoval manager meets programFiles looks)
    fun _ => Gone programFiles m := by
  induction looks with
  | nil => exact survives_removeInstallFiles
  | cons gone looks ih =>
    refine (survives_settle (Q := fun _ m' => Stopping programFiles m m' ∧ Deleted m')
      (fun _ h => h) fun m' s h hs hmarked => ?_).bind fun _ => ?_
    · have hset : Stopping programFiles m (m'.set WINDOWS_SERVICE_NAME none) := by
        refine ⟨⟨h.1.going.apart.set _, fun s' hs' => ?_⟩, h.1.files⟩
        rw [Machine.set_self] at hs'
        cases hs'
      refine ⟨hset.uninstalling, hset, fun s' hs' => ?_⟩
      rw [Machine.set_self] at hs'
      cases hs'
    refine ((manager.lawful.openService _).survives fun _ _ h _ => h).bind fun opening => ?_
    cases opening with
    | notFound => exact survives_removeInstallFiles
    | opened => exact ih
    | failed => exact ih

theorem survives_stopUnlessStopped : Survives (Uninstalling programFiles m) (Stopping programFiles m)
    (stopUnlessStopped manager meets) fun _ => Stopping programFiles m := by
  unfold stopUnlessStopped
  refine ((manager.lawful.queryStatus _ _).survives fun _ _ h _ => h).bind fun state => ?_
  split
  · exact .pure fun _ h => h
  · refine (manager.lawful.stopService _ _).survives (fun _ h => h.uninstalling)
      fun _ _ h hm => h.onService (fun s s' hs => ?_) hm
    subst hs
    exact ⟨rfl, id⟩

theorem survives_deleteService {e : Str} : Survives (Uninstalling programFiles m) (Stopping programFiles m)
    (manager.deleteService WINDOWS_SERVICE_NAME e) fun _ m' => Stopping programFiles m m' ∧ Deleted m' := by
  refine (manager.lawful.deleteService _ e).survives (fun _ h => h.1.uninstalling)
    fun m' m'' h hm => ⟨h.onService (fun s s' hs => ?_) hm, ?_⟩
  · subst hs
    exact ⟨rfl, fun _ => rfl⟩
  · obtain ⟨old, new, -, rfl, rfl⟩ := hm
    intro s hs
    rw [Machine.set_self] at hs
    cases hs
    rfl

theorem survives_uninstall (m : Machine) : Survives (Uninstalling programFiles m) (· = m)
    (uninstall manager meets programFiles) fun _ => Gone programFiles m := by
  unfold uninstall
  refine ((manager.lawful.localComputer _).survives fun _ _ h _ => h).bind fun _ => ?_
  refine ((manager.lawful.openService _).survives (Q := fun opening m' => Stopping programFiles m m' ∧
    (opening = .notFound → Deleted m')) fun m' opening hm hnone => ?_).bind fun opening => ?_
  · subst hm
    refine ⟨stopping_refl programFiles m', fun ho s hs => ?_⟩
    rw [hnone ho] at hs
    cases hs
  cases opening with
  | opened =>
    refine (survives_stopUnlessStopped.imp (fun _ h => h.1) fun _ _ h => h).bind fun _ => ?_
    exact survives_deleteService.bind fun _ => survives_awaitRemoval meets.looks
  | notFound => exact survives_removeInstallFiles.imp (fun _ h => ⟨h.1, h.2 rfl⟩) fun _ _ h => h
  | failed => exact .throw

end

/-! ## A machine -/

/-- What may become of a machine. -/
inductive Change where
  /-- an installation, that may fail or be killed at any point -/
  | install (programFiles : Option Str) (options : RuntimeOptions) (files : Outside) (manager : Manager Str)
  | uninstall (programFiles : Option Str) (meets : Meets) (files : Outside) (manager : Manager Str)
  /-- the service starts or stops, or goes once it is deleted -/
  | service
  /-- someone else's doing -/
  | other

/-- A machine on which there is no such service at first. -/
def machine (L : Libs) : LTS Machine Change where
  init m := m.services WINDOWS_SERVICE_NAME = none
  step m change m' := match change with
    | .install programFiles options files manager =>
      m' ∈ (installed L programFiles options files manager m).stages
    | .uninstall programFiles meets files manager =>
      m' ∈ (uninstalled meets programFiles files manager m).stages
    | .service =>
      (∃ s state, m.services WINDOWS_SERVICE_NAME = some s ∧
        m' = m.set WINDOWS_SERVICE_NAME (some { s with state })) ∨
      Deleted m ∧ m' = m.set WINDOWS_SERVICE_NAME none
    | .other => m'.services WINDOWS_SERVICE_NAME = m.services WINDOWS_SERVICE_NAME ∧
      ∀ s, m.services WINDOWS_SERVICE_NAME = some s →
        m'.fs s.info.executablePath = m.fs s.info.executablePath

/-- The service is that of an installation, and has its binary unless it is deleted. -/
structure Sound (L : Libs) (seen : List Change) (m : Machine) : Prop where
  binary : ∀ s, m.services WINDOWS_SERVICE_NAME = some s → s.marked = false →
    (m.fs s.info.executablePath).isSome = true
  installed : ∀ s, m.services WINDOWS_SERVICE_NAME = some s → ∃ programFiles options files manager,
    .install programFiles options files manager ∈ seen ∧ s.info.executablePath = exePath programFiles ∧
      windowsServiceArgs L options = .ok s.info.launchArguments

section
variable {L : Libs} {programFiles : Option Str} {options : RuntimeOptions} {files : Outside}
  {manager : Manager Str} {meets : Meets} {m m' : Machine} {seen : List Change}

theorem installed_stages (h : m' ∈ (installed L programFiles options files manager m).stages) :
    Installing L programFiles options m m' :=
  (survives_install m).stages (d := Host.start files m) rfl
    (List.forall_mem_singleton.2 ⟨apart_refl programFiles m, id, .inl rfl⟩) m' h

theorem uninstalled_stages (h : m' ∈ (uninstalled meets programFiles files manager m).stages) :
    Uninstalling programFiles m m' :=
  (survives_uninstall m).stages (d := Host.start files m) rfl
    (List.forall_mem_singleton.2 (stopping_refl programFiles m).uninstalling) m' h

/-- What was seen is not forgotten. -/
theorem Sound.later (h : Sound L seen m) {s : Service} (hs : m.services WINDOWS_SERVICE_NAME = some s)
    (change : Change) : ∃ programFiles options files manager,
      .install programFiles options files manager ∈ seen ++ [change] ∧
        s.info.executablePath = exePath programFiles ∧
          windowsServiceArgs L options = .ok s.info.launchArguments := by
  obtain ⟨programFiles, options, files, manager, hmem, hpath, hargs⟩ := h.installed s hs
  exact ⟨programFiles, options, files, manager, List.mem_append_left _ hmem, hpath, hargs⟩

theorem Sound.install (h : Sound L seen m) (hm : Installing L programFiles options m m') :
    Sound L (seen ++ [.install programFiles options files manager]) m' := by
  rcases hm.service with hsame | ⟨args, hargs, hreg⟩
  -- the service is the one before, and an installation removes no binary
  · refine ⟨fun s hs hmarked => ?_, fun s hs => h.later (hsame ▸ hs) _⟩
    have hthere := h.binary s (hsame ▸ hs) hmarked
    by_cases hp : s.info.executablePath = exePath programFiles
    · rw [hp] at hthere ⊢
      exact hm.binary hthere
    · rw [hm.apart.files _ hp]
      exact hthere
  · obtain ⟨description, state, hservice⟩ := hreg.service
    refine ⟨fun s hs _ => ?_, fun s hs => ?_⟩
    · rw [hservice] at hs
      cases hs
      exact hreg.binary.1
    · rw [hservice] at hs
      cases hs
      exact ⟨programFiles, options, files, manager, by simp, rfl, hargs⟩

theorem Sound.uninstall (h : Sound L seen m) (hm : Uninstalling programFiles m m') :
    Sound L (seen ++ [.uninstall programFiles meets files manager]) m' := by
  refine ⟨fun s' hs' hmarked' => ?_, fun s' hs' => ?_⟩
  · obtain ⟨s, hs, hinfo, hmarked⟩ := hm.going.service s' hs'
    -- what is not deleted now was not deleted before, so its binary was there
    have hunmarked : s.marked = false := by
      cases hd : s.marked with
      | false => rfl
      | true => exact absurd (hmarked hd) (by simp [hmarked'])
    have hthere := h.binary s hs hunmarked
    rw [hinfo]
    by_cases hp : s.info.executablePath = exePath programFiles
    · rcases hm.binary with hsame | ⟨-, hdeleted⟩
      · rw [hp] at hthere ⊢
        rw [hsame]
        exact hthere
      -- the binary is removed only where the service is deleted
      · exact absurd (hdeleted s' hs') (by simp [hmarked'])
    · rw [hm.going.apart.files _ hp]
      exact hthere
  · obtain ⟨s, hs, hinfo, -⟩ := hm.going.service s' hs'
    rw [hinfo]
    exact h.later hs _

theorem Sound.step {change : Change} (h : Sound L seen m) (hstep : (machine L).step m change m') :
    Sound L (seen ++ [change]) m' := by
  cases change with
  | install programFiles options files manager => exact h.install (installed_stages hstep)
  | uninstall programFiles meets files manager => exact h.uninstall (uninstalled_stages hstep)
  | service =>
    rcases hstep with ⟨s, state, hs, rfl⟩ | ⟨-, rfl⟩
    · refine ⟨fun s' hs' hmarked => ?_, fun s' hs' => ?_⟩
      · rw [Machine.set_self] at hs'
        cases hs'
        exact h.binary s hs hmarked
      · rw [Machine.set_self] at hs'
        cases hs'
        exact h.later hs _
    · refine ⟨fun s' hs' _ => ?_, fun s' hs' => ?_⟩
      · rw [Machine.set_self] at hs'
        cases hs'
      · rw [Machine.set_self] at hs'
        cases hs'
  | other =>
    obtain ⟨hsame, hfile⟩ := hstep
    refine ⟨fun s hs hmarked => ?_, fun s hs => h.later (hsame ▸ hs) _⟩
    rw [hfile s (hsame ▸ hs)]
    exact h.binary s (hsame ▸ hs) hmarked

theorem Sound.run {changes : List Change} (hrun : (machine L).Run m changes m') :
    ∀ {seen}, Sound L seen m → Sound L (seen ++ changes) m' := by
  induction hrun with
  | nil m => exact fun h => by rwa [List.append_nil]
  | cons first rest ih =>
    intro seen h
    have := ih (h.step first)
    rwa [List.append_assoc] at this

end

/-- **A service that is there can be started.** However often it was installed and removed,
with whatever options, and wherever that failed or was killed: unless it is deleted, its
binary is there, and the command line it has is just the one of the accepted options of an
installation, which the binary reads as these, if none of their values looks like an option. -/
theorem registered_starts {L : Libs} (hL : L.IpNetText) {parse : Parser} (hp : Lawful Cli.spec parse)
    {m₀ m : Machine} {changes : List Change} (hinit : m₀.services WINDOWS_SERVICE_NAME = none)
    (hrun : (machine L).Run m₀ changes m) {s : Service} (hs : m.services WINDOWS_SERVICE_NAME = some s)
    (hmarked : s.marked = false) :
    (m.fs s.info.executablePath).isSome = true ∧ ∃ programFiles options files manager cfg,
      .install programFiles options files manager ∈ changes ∧
      s.info.executablePath = exePath programFiles ∧
      windowsServiceArgs L options = .ok s.info.launchArguments ∧
      Config.fromRuntimeOptions L options = .ok cfg ∧
      (PlainOptions options → ∃ cli, Cli.tryParseFrom parse s.info.launchArguments = some cli ∧
        cli.command = some .winsvc ∧ Config.fromRuntimeOptions L cli.runtimeOptions = .ok cfg) := by
  have hempty : Sound L [] m₀ := by
    refine ⟨fun s hs _ => ?_, fun s hs => ?_⟩
    · cases hinit.symm.trans hs
    · cases hinit.symm.trans hs
  have hsound := hempty.run hrun
  obtain ⟨programFiles, options, files, manager, hmem, hpath, hargs⟩ := hsound.installed s hs
  obtain ⟨hwords, cfg, hcfg⟩ := windowsServiceArgs_eq hargs
  refine ⟨hsound.binary s hs hmarked, programFiles, options, files, manager, cfg, hmem, hpath, hargs, hcfg,
    fun hplain => ?_⟩
  have hread := hp.reads "winsvc" (by decide) (serviceItems options) (serviceItems_fit hL hcfg hplain)
    serviceItems_nodup
  obtain ⟨cli, hcli, hcmd, hsame⟩ := launched_starts hL hcfg rfl
  refine ⟨cli, ?_, hcmd, hsame.trans hcfg⟩
  unfold Cli.tryParseFrom
  rw [hwords, hread]
  exact hcli

/-- A machine with a downloaded binary, and no services. -/
def freshMachine : Machine where
  fs p := if p = "C:\\tinysocks.exe".toList then some { content := "MZ".toList, mode := CREATED } else none
  services _ := none

theorem registered_starts_fresh : ∃ (m : Machine) (s : Service), m.services WINDOWS_SERVICE_NAME = some s ∧
    (m.fs s.info.executablePath).isSome = true ∧ ∃ programFiles options files manager cfg,
      .install programFiles options files manager ∈
        [Change.install none sampleOptions (.calm "C:\\tinysocks.exe") .calm] ∧
      s.info.executablePath = exePath programFiles ∧
      windowsServiceArgs plainLibs options = .ok s.info.launchArguments ∧
      Config.fromRuntimeOptions plainLibs options = .ok cfg ∧
      (PlainOptions options → ∃ cli, Cli.tryParseFrom (parse Cli.spec) s.info.launchArguments = some cli ∧
        cli.command = some .winsvc ∧ Config.fromRuntimeOptions plainLibs cli.runtimeOptions = .ok cfg) :=
  ⟨_, _, rfl, @registered_starts plainLibs plainLibs_ipNetText _ (parse_lawful Cli.spec) freshMachine
    (installed plainLibs none sampleOptions (.calm "C:\\tinysocks.exe") .calm freshMachine).now
    [.install none sampleOptions (.calm "C:\\tinysocks.exe") .calm] rfl
    (.cons (List.mem_append_right _ (.head _)) (.nil _)) _ rfl rfl⟩

/-! ## Installations -/

/-- What an installation that succeeded has made of a machine. -/
structure Installs (L : Libs) (programFiles : Option Str) (options : RuntimeOptions) (files : Outside)
    (m m' : Machine) (exe : Str) (program : File) (args : List Str) : Prop
    extends CopiesProgram (exePath programFiles) files m.fs exe program where
  built : windowsServiceArgs L options = .ok args
  free : m.services WINDOWS_SERVICE_NAME = none
  machine : m' = ({ m with fs := m.fs.set (exePath programFiles) program } : Machine).set WINDOWS_SERVICE_NAME
    (some { info := { executablePath := exePath programFiles, launchArguments := args }
            description := SERVICE_DESCRIPTION, state := .startPending })

section
variable {L : Libs} {programFiles : Option Str} {options : RuntimeOptions} {files : Outside}
  {manager : Manager Str} {m : Machine}

theorem installProgram_ok {d d' : Disk} (h : installProgram programFiles d = .ok () d') :
    ∃ exe program, CopiesProgram (exePath programFiles) d.outside d.fs exe program ∧
      d'.fs = d.fs.set (exePath programFiles) program := by
  obtain ⟨exe, d₁, hcur, h⟩ := bind_eq_ok.1 h
  obtain ⟨_, d₂, hdir, hcopy⟩ := bind_eq_ok.1 h
  obtain ⟨hexe, he₁⟩ := currentExe_ok hcur
  have he₂ := createDirAll_ok hdir
  subst he₂ he₁
  obtain ⟨program, hprogram, hfs, -⟩ := copyBinary_ok hcopy
  exact ⟨exe, program, ⟨hexe, hprogram⟩, hfs⟩

theorem installs_of_ok {h' : Host}
    (h : install manager L programFiles options (Host.start files m) = .ok () h') :
    ∃ exe program args, Installs L programFiles options files m h'.now exe program args := by
  obtain ⟨_, h₁, hfiles, h⟩ := bind_eq_ok.1 h
  obtain ⟨d, hd, rfl⟩ := onFiles_ok hfiles
  obtain ⟨exe, program, hcopies, hfs⟩ := installProgram_ok hd
  have hset : d.fs = m.fs.set (exePath programFiles) program := hfs
  obtain ⟨_, h₂, hconnect, h⟩ := bind_eq_ok.1 h
  obtain ⟨-, rfl⟩ := (manager.lawful.localComputer _).eq_ok hconnect
  cases hargs : windowsServiceArgs L options with
  | error e =>
    rw [hargs] at h
    cases h
  | ok args =>
    rw [hargs, ofExcept_ok_bind] at h
    obtain ⟨_, h₃, hcreate, h⟩ := bind_eq_ok.1 h
    obtain ⟨_, h₄, hdescribe, hstart⟩ := bind_eq_ok.1 h
    obtain ⟨m₃, ⟨hfree, rfl⟩, rfl⟩ := (manager.lawful.createService ..).ok hcreate
    obtain ⟨m₄, ⟨old, new, hold, rfl, rfl⟩, rfl⟩ := (manager.lawful.setDescription ..).ok hdescribe
    rw [Host.become_now, Machine.set_self] at hold
    cases hold
    obtain ⟨m₅, ⟨old, new, hold, rfl, rfl⟩, rfl⟩ := (manager.lawful.startService ..).ok hstart
    rw [Host.become_now, Machine.set_self] at hold
    cases hold
    refine ⟨exe, program, args, hcopies, hargs, hfree, ?_⟩
    simp only [Host.become_now, Machine.set_set]
    rw [← hset]
    rfl

end

/-- **An installation creates the service behind its binary, or not at all.** Wherever it is
stopped: a service of the name that was there before is as it was; one that was not is
there only with the whole binary, and the command line of the options; nothing else
differs. If it succeeds there was none, and the machine is just the one before, with the
program and the service, which starts. -/
theorem install_registers (L : Libs) (programFiles : Option Str) (options : RuntimeOptions)
    (files : Outside) (manager : Manager Str) (m : Machine) :
    (∀ m' ∈ (installed L programFiles options files manager m).stages,
      Installing L programFiles options m m') ∧
    ∀ h', install manager L programFiles options (Host.start files m) = .ok () h' →
      ∃ exe program args, Installs L programFiles options files m h'.now exe program args :=
  ⟨fun _ => installed_stages, fun _ => installs_of_ok⟩

theorem install_registers_fresh :
    (∀ m' ∈ (installed plainLibs none sampleOptions (.calm "C:\\tinysocks.exe") .calm freshMachine).stages,
      Installing plainLibs none sampleOptions freshMachine m') ∧
    ∃ h', install .calm plainLibs none sampleOptions
        (Host.start (.calm "C:\\tinysocks.exe") freshMachine) = .ok () h' ∧
      ∃ exe program args, Installs plainLibs none sampleOptions (.calm "C:\\tinysocks.exe")
        freshMachine h'.now exe program args := by
  obtain ⟨hstages, hok⟩ := install_registers plainLibs none sampleOptions (.calm "C:\\tinysocks.exe") .calm
    freshMachine
  exact ⟨hstages, _, rfl, hok _ rfl⟩

/-! ## Uninstallations -/

/-- Installing and uninstalling at one place, and the service itself, but nobody else. -/
def Change.own (programFiles : Option Str) : Change → Prop
  | .install pf _ _ _ => pf = programFiles
  | .uninstall pf _ _ _ => pf = programFiles
  | .service => True
  | .other => False

section
variable {L : Libs} {programFiles : Option Str} {m m' m'' : Machine} {change : Change}

theorem Apart.trans (h : Apart programFiles m m') (h' : Apart programFiles m' m'') :
    Apart programFiles m m'' :=
  ⟨fun path hp => (h'.files path hp).trans (h.files path hp),
    fun name hn => (h'.services name hn).trans (h.services name hn)⟩

theorem apart_step (hstep : (machine L).step m change m') (hown : change.own programFiles) :
    Apart programFiles m m' := by
  cases change with
  | install pf options files manager =>
    cases hown
    exact (installed_stages hstep).apart
  | uninstall pf meets files manager =>
    cases hown
    exact (uninstalled_stages hstep).going.apart
  | service =>
    rcases hstep with ⟨s, state, -, rfl⟩ | ⟨-, rfl⟩
    · exact (apart_refl programFiles m).set _
    · exact (apart_refl programFiles m).set _
  | other => exact absurd hown id

theorem apart_run {changes : List Change} (hrun : (machine L).Run m changes m') :
    (∀ change ∈ changes, change.own programFiles) → Apart programFiles m m' := by
  induction hrun with
  | nil m => exact fun _ => apart_refl programFiles m
  | cons first rest ih =>
    intro hown
    obtain ⟨hc, hrest⟩ := List.forall_mem_cons.1 hown
    exact (apart_step first hc).trans (ih hrest)

end

/-- **An uninstallation removes the binary behind its service.** Wherever it is stopped, the
binary is missing only once the service is gone or deleted, and nothing else differs. If it
succeeds, however often the service was installed and removed before and with however many
failures, the files are those of the beginning without the binary, and so are the services,
but for one that is deleted. -/
theorem uninstall_clears (L : Libs) (programFiles : Option Str) {m₀ m : Machine} {changes : List Change}
    (hrun : (machine L).Run m₀ changes m) (hown : ∀ change ∈ changes, change.own programFiles)
    (meets : Meets) (files : Outside) (manager : Manager Str) :
    (∀ m' ∈ (uninstalled meets programFiles files manager m).stages, Uninstalling programFiles m m') ∧
    ∀ h', uninstall manager meets programFiles (Host.start files m) = .ok () h' →
      Deleted h'.now ∧ h'.now.fs = m₀.fs.unset (exePath programFiles) ∧
        ∀ name, name ≠ WINDOWS_SERVICE_NAME → h'.now.services name = m₀.services name := by
  refine ⟨fun _ => uninstalled_stages, fun h' hok => ?_⟩
  have hgone := (survives_uninstall m (Host.start files m) rfl).2 () h' hok
  have hall := (apart_run hrun hown).trans hgone.going.apart
  refine ⟨hgone.deleted, ?_, hall.services⟩
  funext path
  by_cases hp : path = exePath programFiles
  · rw [hp, FileSystem.unset_self]
    exact hgone.binary
  · rw [FileSystem.unset_other hp]
    exact hall.files path hp

/-- A service that was installed, and runs. -/
theorem uninstall_clears_fresh : ∃ m, Deleted m = False ∧
    (∀ m' ∈ (uninstalled .calm none (.calm "C:\\tinysocks.exe") .calm m).stages, Uninstalling none m m') ∧
    ∃ h', uninstall .calm .calm none (Host.start (.calm "C:\\tinysocks.exe") m) = .ok () h' ∧
      Deleted h'.now ∧ h'.now.fs = freshMachine.fs.unset (exePath none) ∧
        ∀ name, name ≠ WINDOWS_SERVICE_NAME → h'.now.services name = freshMachine.services name := by
  obtain ⟨hstages, hok⟩ := @uninstall_clears plainLibs none freshMachine
    (installed plainLibs none sampleOptions (.calm "C:\\tinysocks.exe") .calm freshMachine).now
    [.install none sampleOptions (.calm "C:\\tinysocks.exe") .calm]
    (.cons (List.mem_append_right _ (.head _)) (.nil _)) (List.forall_mem_singleton.2 rfl) .calm
    (.calm "C:\\tinysocks.exe") .calm
  exact ⟨_, eq_false fun h => absurd (h _ rfl) Bool.false_ne_true, hstages, _, rfl, hok _ rfl⟩

end TinySocks.L6.Windows
