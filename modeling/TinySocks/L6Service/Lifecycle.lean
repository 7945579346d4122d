import TinySocks.Core.Crash
import TinySocks.Core.Lts
import TinySocks.L6Service.Install

/-!
# Installing and uninstalling, again and again (`service/linux.rs`)

`install` and `uninstall` may fail at any effect, be killed between two of them, and be
run again, with other options, on what that left. `machine` is the system of it: the
files of a machine, and what may become of them.

* `machine_sound`: a unit is never there without the binary it starts, nor without
  the environment file it asks for.
* `install_exact`: what the files are after an installation that succeeded.
* `uninstall_exact`: an uninstallation removes the unit first, and after one that
  succeeded all is as if nothing had ever been installed.
-/
namespace TinySocks.L6

open TinySocks.Core TinySocks.Core.Systemd TinySocks.Core.Files TinySocks.L1 TinySocks.L3

abbrev binPath : Str := installedBinPath LINUX_SERVICE_NAME

abbrev servicePath : Str := unitPath LINUX_SERVICE_NAME

/-- mirrors src/service/linux.rs:270-272 -/
def runSystemctlBestEffort (args : List Str) : EStateM Str Disk Unit := do
  let _ ← status ("systemctl".toList :: args)

/-- mirrors src/service/linux.rs:237-244, 248-255 and 257-263 -/
def removeIfThere (removable : Str → Bool) (path : Str) (e : Str) : EStateM Str Disk Unit := do
  match ← removeFile removable path with
  | .done | .notFound => pure ()
  | .failed => throw e

/-- mirrors src/service/linux.rs:228-267 -/
def uninstall (removable : Str → Bool) : EStateM Str Disk Unit := do
  runSystemctlBestEffort ["stop".toList, LINUX_SERVICE_NAME]
  runSystemctlBestEffort ["disable".toList, LINUX_SERVICE_NAME]
  removeIfThere removable servicePath ("Failed to remove systemd unit " ++ servicePath)
  runSystemctl ["daemon-reload".toList]
  removeIfThere removable binPath ("Failed to remove " ++ binPath)
  removeIfThere removable envPath ("Failed to remove " ++ envPath)

/-- The files after an uninstallation that began with some, and all before. -/
def uninstalled (removable : Str → Bool) (outside : Outside) (fs : FileSystem) : Disk :=
  finalState (uninstall removable (Disk.start outside fs))

/-- A file of the service. -/
def Owns (path : Str) : Prop := path = servicePath ∨ path = binPath ∨ path = envPath

/-- What may become of the files of a machine. -/
inductive Change where
  /-- an installation, that may fail or be killed at any point -/
  | install (options : RuntimeOptions) (outside : Outside)
  | uninstall (removable : Str → Bool) (outside : Outside)
  /-- someone else's doing -/
  | other

/-- The files of a machine on which there is no unit at first. -/
def machine (L : Libs) : LTS FileSystem Change where
  init fs := fs servicePath = none
  step fs change fs' := match change with
    | .install options outside => fs' ∈ (installed L options outside fs).states
    | .uninstall removable outside => fs' ∈ (uninstalled removable outside fs).states
    | .other => ∀ path, Owns path → fs' path = fs path

/-- The service can be started from its unit, if there is one. -/
structure Sound (fs : FileSystem) : Prop where
  binary : (fs servicePath).isSome = true → (fs binPath).isSome = true
  environment : ∀ unit, fs servicePath = some unit →
    settings "EnvironmentFile" (lines unit.content) ≠ [] → (fs envPath).isSome = true

/-! ## A unit that was cut short -/

theorem settings_cons (name l : Str) (ls : List Str) : settings name (l :: ls) ≠ [] ↔
    name ++ "=".toList <+: l ∨ settings name ls ≠ [] := by
  unfold settings
  rw [List.filterMap_cons]
  by_cases h : (name ++ "=".toList).isPrefixOf l = true
  · rw [if_pos h]
    exact iff_of_true (List.cons_ne_nil _ _) (.inl (List.isPrefixOf_iff_prefix.1 h))
  · rw [if_neg h]
    exact (or_iff_right fun hp => h (List.isPrefixOf_iff_prefix.2 hp)).symm

theorem settings_single (name l : Str) : settings name [l] ≠ [] ↔ name ++ "=".toList <+: l := by
  rw [settings_cons]
  exact or_iff_left fun h => h rfl

/-- The beginning of a text has no settings that the text has not. -/
theorem settings_take {name : Str} : ∀ {text : Str} {n : Nat},
    settings name (lines (text.take n)) ≠ [] → settings name (lines text) ≠ [] := by
  intro text
  induction hlen : text.length using Nat.strong_induction_on generalizing text with
  | _ len ih =>
    intro n h
    by_cases hnl : '\n' ∈ text
    · obtain ⟨l, rest, rfl, hl⟩ := List.eq_append_cons_of_mem hnl
      rw [lines_cons hl, settings_cons]
      by_cases hn : n ≤ l.length
      · rw [List.take_append_of_le_length hn,
          lines_single fun hm => hl (List.mem_of_mem_take hm), settings_single] at h
        exact .inl (h.trans (List.take_prefix n l))
      · obtain ⟨k, rfl⟩ : ∃ k, n = l.length + (k + 1) := ⟨n - l.length - 1, by omega⟩
        rw [List.take_length_add_append, List.take_succ_cons, lines_cons hl, settings_cons] at h
        refine h.imp_right (ih rest.length ?_ rfl)
        rw [← hlen, List.length_append, List.length_cons]
        omega
    · rw [lines_single fun hm => hnl (List.mem_of_mem_take hm), settings_single] at h
      rw [lines_single hnl, settings_single]
      exact h.trans (List.take_prefix n text)

/-- A unit asks for an environment file only if it was built with one. -/
theorem settings_environmentFile (envFile : Option Str) (execStart : Str) :
    settings "EnvironmentFile" (unitLines envFile execStart ++ [[]]) = envFile.toList.map quoteArg := by
  cases envFile <;> rfl

section
variable {L : Libs} {options : RuntimeOptions}

theorem environment_of_unit {installedBin unit : Str} {envFile : Option Str}
    (h : buildUnit L installedBin envFile options = .ok unit) {n : Nat}
    (hn : settings "EnvironmentFile" (lines (unit.take n)) ≠ []) : envFile.isSome = true := by
  obtain ⟨args, -, rfl⟩ := buildUnit_ok h
  have hall := settings_take hn
  rw [lines_unit, settings_environmentFile] at hall
  cases envFile with
  | none => exact absurd rfl hall
  | some path => rfl

/-! ## Every state is sound -/

theorem paths_apart : servicePath ≠ binPath ∧ servicePath ≠ envPath ∧ binPath ≠ envPath := by decide

/-- The binary and the environment file may come, and change, at any time. -/
theorem Sound.set {fs : FileSystem} (h : Sound fs) {path : Str} (hp : path ≠ servicePath) (f : File) :
    Sound (fs.set path f) := by
  have hthere : ∀ p, (fs p).isSome = true → (fs.set path f p).isSome = true := by
    intro p hs
    unfold FileSystem.set
    split
    · rfl
    · exact hs
  refine ⟨fun hs => hthere _ (h.binary ?_), fun unit hu hd => hthere _ (h.environment unit ?_ hd)⟩
  · rwa [FileSystem.set_other hp.symm] at hs
  · rwa [FileSystem.set_other hp.symm] at hu

/-- A binary that is copied is cut short at any moment, or was there all the time. -/
theorem survives_copyBinary {C P : FileSystem → Prop} {exe path : Str} {Q : Unit → FileSystem → Prop}
    (hsame : ∀ fs, P fs → (fs path).isSome = true → Q () fs)
    (hC : ∀ fs (f : File), P fs → ∀ n, C (fs.set path { content := f.content.take n, mode := f.mode }))
    (hQ : ∀ fs f, P fs → fs exe = some f → Q () (fs.set path f)) : Survives C P (copyBinary exe path) Q := by
  unfold copyBinary
  refine (survives_isSameFile (Q := fun same fs => P fs ∧ (same = true → (fs path).isSome = true))
    fun fs h => ⟨⟨h, nofun⟩, fun hs => ⟨h, fun _ => hs⟩⟩).bind fun same => ?_
  by_cases hs : same = true
  · rw [if_pos hs]
    exact .pure fun fs h => hsame fs h.1 (h.2 hs)
  · rw [if_neg hs]
    exact survives_copy (fun fs f h => hC fs f h.1) fun fs f h => hQ fs f h.1

theorem survives_installBinary : Survives Sound Sound (installBinary binPath) fun _ fs =>
    Sound fs ∧ (fs binPath).isSome = true := by
  have hset : ∀ (fs : FileSystem) f, Sound fs → Sound (fs.set binPath f) ∧
      (fs.set binPath f binPath).isSome = true :=
    fun fs f h => ⟨h.set paths_apart.1.symm f, by rw [FileSystem.set_self]; rfl⟩
  unfold installBinary
  refine (survives_currentExe fun _ _ h => h).bind fun exe => ?_
  refine (survives_createDirAll (Q := fun _ => Sound) fun _ h => h).bind fun _ => ?_
  refine (survives_copyBinary (Q := fun _ => Sound) (fun _ h _ => h) (fun fs f h _ => (hset fs _ h).1)
    fun fs f h _ => (hset fs f h).1).bind fun _ => ?_
  exact survives_setPermissions (fun fs f h _ => (hset fs _ h).1) fun fs f h _ => hset fs _ h

/-- Where the environment file is to be there, it is. -/
theorem survives_installEnvFile (envFile : Option Str) :
    Survives Sound (fun fs => Sound fs ∧ (fs binPath).isSome = true) (installEnvFile envPath envFile)
      fun _ fs => Sound fs ∧ (fs binPath).isSome = true ∧
        (envFile.isSome = true → (fs envPath).isSome = true) := by
  have hset : ∀ (fs : FileSystem) f, Sound fs ∧ (fs binPath).isSome = true →
      Sound (fs.set envPath f) ∧ (fs.set envPath f binPath).isSome = true := by
    intro fs f hx
    obtain ⟨h, hb⟩ := hx
    refine ⟨h.set paths_apart.2.1.symm f, ?_⟩
    rwa [FileSystem.set_other paths_apart.2.2]
  cases envFile with
  | none => exact .pure fun fs h => ⟨h.1, h.2, nofun⟩
  | some text =>
    unfold installEnvFile
    refine (survives_createDirAll (Q := fun _ fs => Sound fs ∧ (fs binPath).isSome = true)
      fun _ h => h).bind fun _ => ?_
    refine (survives_write (Q := fun _ fs => Sound fs ∧ (fs binPath).isSome = true)
      (fun fs h _ => (hset fs _ h).1) fun fs h => hset fs _ h).bind fun _ => ?_
    refine survives_setPermissions (fun fs f h _ => (hset fs _ h).1) fun fs f h _ => ?_
    exact ⟨(hset fs _ h).1, (hset fs _ h).2, fun _ => by rw [FileSystem.set_self]; rfl⟩

theorem survives_runSystemctl {C P : FileSystem → Prop} (args : List Str) :
    Survives C P (runSystemctl args) fun _ => P := by
  unfold runSystemctl
  refine (survives_status (Q := fun _ => P) fun _ _ h => h).bind fun exit => ?_
  cases exit with
  | success => exact .pure fun _ h => h
  | failure status => exact .throw
  | notRun => exact .throw

theorem survives_installUnit (unitEnvPath : Option Str) :
    Survives Sound (fun fs => Sound fs ∧ (fs binPath).isSome = true ∧
      (unitEnvPath.isSome = true → (fs envPath).isSome = true)) (installUnit L unitEnvPath options)
      fun _ => Sound := by
  unfold installUnit
  refine (Survives.ofExcept (Q := fun unit fs => ((fs binPath).isSome = true ∧
    (unitEnvPath.isSome = true → (fs envPath).isSome = true)) ∧
    ∀ n, settings "EnvironmentFile" (lines (unit.take n)) ≠ [] → unitEnvPath.isSome = true)
    fun unit hu fs h => ⟨h.2, fun n => environment_of_unit hu⟩).bind fun unit => ?_
  have hset : ∀ (fs : FileSystem) n mode, ((fs binPath).isSome = true ∧
      (unitEnvPath.isSome = true → (fs envPath).isSome = true)) ∧
      (∀ n, settings "EnvironmentFile" (lines (unit.take n)) ≠ [] → unitEnvPath.isSome = true) →
      Sound (fs.set servicePath { content := unit.take n, mode }) := by
    intro fs n mode hx
    obtain ⟨⟨hb, he⟩, hu⟩ := hx
    refine ⟨fun _ => ?_, fun f hf hd => ?_⟩
    · rwa [FileSystem.set_other paths_apart.1.symm]
    · rw [FileSystem.set_self] at hf
      cases hf
      rw [FileSystem.set_other paths_apart.2.1.symm]
      exact he (hu n hd)
  refine (survives_write (Q := fun _ => Sound) (fun fs h n => hset fs n _ h) fun fs h => ?_).bind fun _ => ?_
  · have := hset fs unit.length ((fs servicePath).elim CREATED File.mode) h
    rwa [List.take_length] at this
  refine (survives_runSystemctl _).bind fun _ => ?_
  exact (survives_runSystemctl _).bind fun _ => survives_runSystemctl _

theorem survives_install : Survives Sound Sound (install L options) fun _ => Sound := by
  unfold install installService
  refine (Survives.ofExcept (Q := fun _ => Sound) fun _ _ _ h => h).bind fun _ => ?_
  refine survives_installBinary.bind fun _ => ?_
  refine (Survives.ofExcept (Q := fun envFile fs => Sound fs ∧ (fs binPath).isSome = true)
    fun _ _ _ h => h).bind fun envFile => ?_
  refine (survives_installEnvFile envFile).bind fun _ => ?_
  refine (survives_installUnit _).imp (fun fs h => ?_) fun _ _ h => h
  rwa [Option.isSome_map]

end

/-! ## Uninstalling -/

section
variable {removable : Str → Bool} {C P : FileSystem → Prop}

theorem survives_removeIfThere {path e : Str} {Q : FileSystem → Prop} (hC : ∀ fs, P fs → C (fs.unset path))
    (hQ : ∀ fs, P fs → Q (fs.unset path)) :
    Survives C P (removeIfThere removable path e) fun _ => Q := by
  unfold removeIfThere
  refine Survives.bind (survives_removeFile
    (Q := fun r fs => r ≠ .failed → Q fs) hC (fun _ _ h => absurd rfl h) fun fs h r _ _ => hQ fs h) fun r => ?_
  cases r with
  | done => exact .pure fun _ h => h (by decide)
  | notFound => exact .pure fun _ h => h (by decide)
  | failed => exact .throw

theorem survives_bestEffort (args : List Str) : Survives C P (runSystemctlBestEffort args) fun _ => P := by
  unfold runSystemctlBestEffort
  exact (survives_status (Q := fun _ => P) fun _ _ h => h).bind fun _ => .pure fun _ h => h

/-- The files without those of the service, as they are removed one by one. -/
def without : Nat → FileSystem → FileSystem
  | 0, fs => fs
  | 1, fs => fs.unset servicePath
  | 2, fs => (fs.unset servicePath).unset binPath
  | _, fs => ((fs.unset servicePath).unset binPath).unset envPath

/-- The unit goes first, the environment file last. -/
theorem survives_uninstall (fs : FileSystem) :
    Survives (fun fs' => ∃ n, 0 < n ∧ fs' = without n fs) (· = fs) (uninstall removable)
      fun _ fs' => fs' = without 3 fs := by
  unfold uninstall
  refine (survives_bestEffort _).bind fun _ => (survives_bestEffort _).bind fun _ => ?_
  refine (survives_removeIfThere (Q := (· = without 1 fs)) ?_ ?_).bind fun _ => ?_
  · intro _ he
    subst he
    exact ⟨1, by decide, rfl⟩
  · intro _ he
    subst he
    rfl
  refine (survives_runSystemctl _).bind fun _ => ?_
  refine (survives_removeIfThere (Q := (· = without 2 fs)) ?_ ?_).bind fun _ => ?_
  · intro _ he
    subst he
    exact ⟨2, by decide, rfl⟩
  · intro _ he
    subst he
    rfl
  refine survives_removeIfThere ?_ ?_
  · intro _ he
    subst he
    exact ⟨3, by decide, rfl⟩
  · intro _ he
    subst he
    rfl

theorem without_service {n : Nat} (hn : 0 < n) (fs : FileSystem) : without n fs servicePath = none := by
  match n with
  | 1 => exact fs.unset_self servicePath
  | 2 => exact (FileSystem.unset_other paths_apart.1).trans (fs.unset_self servicePath)
  | n + 3 =>
    exact ((FileSystem.unset_other paths_apart.2.1).trans (FileSystem.unset_other paths_apart.1)).trans
      (fs.unset_self servicePath)

/-- Without a unit there is nothing to be started. -/
theorem sound_of_none {fs : FileSystem} (h : fs servicePath = none) : Sound fs := by
  refine ⟨fun hs => ?_, fun unit hu => ?_⟩
  · rw [h] at hs
    cases hs
  · rw [h] at hu
    cases hu

theorem uninstalled_states {outside : Outside} {fs fs' : FileSystem}
    (h : fs' ∈ (uninstalled removable outside fs).states) : ∃ n, fs' = without n fs := by
  obtain ⟨⟨new, he, hnew⟩, -⟩ := @survives_uninstall removable fs (Disk.start outside fs) rfl
  have hstates : (uninstalled removable outside fs).states = [fs] ++ new := he
  rw [hstates] at h
  rcases List.mem_append.1 h with h | h
  · exact ⟨0, List.mem_singleton.1 h⟩
  · obtain ⟨n, -, hn⟩ := hnew fs' h
    exact ⟨n, hn⟩

end

/-- **The invariant of a machine.** -/
theorem sound_inductive (L : Libs) : (machine L).Inductive Sound where
  init fs h := sound_of_none h
  step := by
    intro fs change fs' h hstep
    cases change with
    | install options outside =>
      exact survives_install.stages (d := Disk.start outside fs) h (List.forall_mem_singleton.2 h) fs' hstep
    | uninstall removable outside =>
      obtain ⟨n, rfl⟩ := uninstalled_states hstep
      cases n with
      | zero => exact h
      | succ n => exact sound_of_none (without_service (Nat.succ_pos n) fs)
    | other =>
      have hsame : ∀ path, Owns path → fs' path = fs path := hstep
      refine ⟨fun hs => ?_, fun unit hu hd => ?_⟩
      · rw [hsame _ (.inl rfl)] at hs
        rw [hsame _ (.inr (.inl rfl))]
        exact h.binary hs
      · rw [hsame _ (.inl rfl)] at hu
        rw [hsame _ (.inr (.inr rfl))]
        exact h.environment unit hu hd

/-- **A unit is never there without what it needs.** However often a service was
installed and uninstalled, with whatever options, and wherever that failed or was
killed: if there is a unit, there is the binary it starts, and if as much of it as
was written asks for the environment file, there is one. -/
theorem machine_sound (L : Libs) {fs : FileSystem} (h : (machine L).Reachable fs) : Sound fs :=
  (sound_inductive L).reachable fs h

/-- A fresh machine, after an installation. -/
theorem machine_sound_installed : ∃ fs, (machine plainLibs).Reachable fs ∧
    (fs servicePath).isSome = true ∧ Sound fs := by
  have hr : (machine plainLibs).Reachable
      (installed plainLibs sampleOptions (.calm "/root/tinysocks") freshSystem).fs :=
    ⟨freshSystem, [.install sampleOptions (.calm "/root/tinysocks")], rfl,
      .cons (List.mem_append_right _ (.head _)) (.nil _)⟩
  exact ⟨_, hr, rfl, machine_sound plainLibs hr⟩

/-! ## Installations that succeed -/

section
variable {L : Libs} {options : RuntimeOptions} {d d' : Disk}

/-- The file that `copy_binary` puts at a path: the one that is there, if the program runs
from it. -/
def programFile (path : Str) (outside : Outside) (fs : FileSystem) (exe : Str) : Option File :=
  if (fs path).isSome && outside.canonicalize exe == outside.canonicalize path then fs path else fs exe

/-- The program is found, and can be read. -/
structure CopiesProgram (path : Str) (outside : Outside) (fs : FileSystem) (exe : Str) (program : File) :
    Prop where
  located : outside.currentExe = some exe
  copied : programFile path outside fs exe = some program

theorem copyBinary_ok {exe path : Str} (h : copyBinary exe path d = .ok () d') :
    ∃ program, programFile path d.outside d.fs exe = some program ∧ d'.fs = d.fs.set path program ∧
      d'.outside = d.outside := by
  obtain ⟨same, d₁, hsame, hcopy⟩ := bind_eq_ok.1 h
  cases hsame
  split at hcopy
  · rename_i hs
    cases hcopy
    obtain ⟨f, hf⟩ := Option.isSome_iff_exists.1 (Bool.and_eq_true_iff.1 hs).1
    exact ⟨f, (if_pos hs).trans hf, (FileSystem.set_of_some hf).symm, rfl⟩
  · rename_i hs
    obtain ⟨program, hprogram, hfs, ho⟩ := copy_ok hcopy
    exact ⟨program, (if_neg hs).trans hprogram, hfs, ho⟩

/-- The files with an environment file, if there is to be one. -/
def withEnvFile (fs : FileSystem) : Option Str → FileSystem
  | none => fs
  | some text => fs.set envPath { content := text, mode := 0o600 }

theorem installBinary_installs (h : installBinary binPath d = .ok () d') : ∃ exe program,
    CopiesProgram binPath d.outside d.fs exe program ∧
      d'.fs = d.fs.set binPath { program with mode := 0o755 } ∧ d'.outside = d.outside := by
  obtain ⟨exe, d₁, hcur, h₁⟩ := bind_eq_ok.1 h
  obtain ⟨_, d₂, hdir, h₂⟩ := bind_eq_ok.1 h₁
  obtain ⟨_, d₃, hcopy, hperm⟩ := bind_eq_ok.1 h₂
  obtain ⟨hexe, he₁⟩ := currentExe_ok hcur
  have he₂ := createDirAll_ok hdir
  subst he₂ he₁
  obtain ⟨program, hprogram, hfs₃, ho₃⟩ := copyBinary_ok hcopy
  obtain ⟨f, hf, hfs, ho⟩ := setPermissions_ok hperm
  rw [hfs₃, FileSystem.set_self] at hf
  cases hf
  refine ⟨exe, program, ⟨hexe, hprogram⟩, ?_, ho.trans ho₃⟩
  rw [hfs, hfs₃, FileSystem.set_set]

theorem installEnvFile_installs {envFile : Option Str} (h : installEnvFile envPath envFile d = .ok () d') :
    d'.fs = withEnvFile d.fs envFile := by
  cases envFile with
  | none =>
    cases h
    rfl
  | some text =>
    obtain ⟨_, d₁, hdir, h₁⟩ := bind_eq_ok.1 h
    obtain ⟨_, d₂, hwrite, hperm⟩ := bind_eq_ok.1 h₁
    have he₁ := createDirAll_ok hdir
    subst he₁
    obtain ⟨hfs₂, -⟩ := write_ok hwrite
    obtain ⟨f, hf, hfs, -⟩ := setPermissions_ok hperm
    rw [hfs₂, FileSystem.set_self] at hf
    cases hf
    rw [hfs, hfs₂, FileSystem.set_set]
    rfl

/-- A command changes no file. -/
theorem runSystemctl_fs {args : List Str} (h : runSystemctl args d = .ok () d') : d'.fs = d.fs := by
  obtain ⟨exit, d₁, hs, h⟩ := bind_eq_ok.1 h
  cases hs
  cases he : d.outside.command ("systemctl".toList :: args) <;> rw [he] at h <;> cases h
  rfl

theorem installUnit_installs {unitEnvPath : Option Str}
    (h : installUnit L unitEnvPath options d = .ok () d') :
    ∃ unit, buildUnit L binPath unitEnvPath options = .ok unit ∧
      d'.fs = d.fs.set servicePath
        { content := unit, mode := (d.fs servicePath).elim CREATED File.mode } := by
  unfold installUnit at h
  obtain ⟨unit, d₁, hunit, h⟩ := bind_eq_ok.1 h
  obtain ⟨_, d₂, hwrite, h⟩ := bind_eq_ok.1 h
  obtain ⟨_, d₃, hreload, h⟩ := bind_eq_ok.1 h
  obtain ⟨_, d₄, henable, hstart⟩ := bind_eq_ok.1 h
  have hu : buildUnit L binPath unitEnvPath options = .ok unit ∧ d₁ = d := by
    cases hb : buildUnit L binPath unitEnvPath options with
    | error e =>
      rw [hb] at hunit
      cases hunit
    | ok unit' =>
      rw [hb] at hunit
      cases hunit
      exact ⟨rfl, rfl⟩
  obtain ⟨hbuilt, he⟩ := hu
  subst he
  refine ⟨unit, hbuilt, ?_⟩
  rw [runSystemctl_fs hstart, runSystemctl_fs henable, runSystemctl_fs hreload]
  exact (write_ok hwrite).1

/-- What an installation that succeeded has made of the files. -/
structure Installs (L : Libs) (options : RuntimeOptions) (outside : Outside) (fs fs' : FileSystem)
    (exe : Str) (program : File) (envFile : Option Str) (unit : Str) : Prop
    extends CopiesProgram binPath outside fs exe program where
  credentials : buildEnvFile options = .ok envFile
  built : buildUnit L binPath (envFile.map fun _ => envPath) options = .ok unit
  files : fs' = (withEnvFile (fs.set binPath { program with mode := 0o755 }) envFile).set servicePath
    { content := unit, mode := (fs servicePath).elim CREATED File.mode }

theorem installs_of_ok {outside : Outside} {fs : FileSystem}
    (h : install L options (Disk.start outside fs) = .ok () d') :
    ∃ exe program envFile unit, Installs L options outside fs d'.fs exe program envFile unit := by
  obtain ⟨_, d₁, haccepted, h₁⟩ := bind_eq_ok.1 h
  obtain ⟨_, d₂, hbin, h₂⟩ := bind_eq_ok.1 h₁
  obtain ⟨envFile, d₃, henv, h₃⟩ := bind_eq_ok.1 h₂
  obtain ⟨_, d₄, hwritten, hunit⟩ := bind_eq_ok.1 h₃
  have hd₁ : d₁ = Disk.start outside fs := by
    cases hc : (Config.fromRuntimeOptions L options).map fun _ => () with
    | error e =>
      rw [hc] at haccepted
      cases haccepted
    | ok a =>
      rw [hc] at haccepted
      cases haccepted
      rfl
  have hd₃ : buildEnvFile options = .ok envFile ∧ d₃ = d₂ := by
    cases hc : buildEnvFile options with
    | error e =>
      rw [hc] at henv
      cases henv
    | ok envFile' =>
      rw [hc] at henv
      cases henv
      exact ⟨rfl, rfl⟩
  obtain ⟨hbuilt, hd₃⟩ := hd₃
  subst hd₁ hd₃
  obtain ⟨exe, program, hcopies, hfs₂, -⟩ := installBinary_installs hbin
  have hfs₄ := installEnvFile_installs hwritten
  obtain ⟨unit, hu, hfs⟩ := installUnit_installs hunit
  refine ⟨exe, program, envFile, unit, hcopies, hbuilt, hu, ?_⟩
  have hservice : d₄.fs servicePath = fs servicePath := by
    rw [hfs₄, hfs₂]
    cases envFile with
    | none => exact FileSystem.set_other paths_apart.1 _
    | some text =>
      exact (FileSystem.set_other paths_apart.2.1 _).trans (FileSystem.set_other paths_apart.1 _)
  rw [hfs, hservice, hfs₄, hfs₂]
  rfl

end

/-- **An installation that succeeded** has left the program, executable, where its unit
starts it, the credentials in a private file the unit asks for, and the unit itself;
every other file is as it was. Where there are no credentials, an environment file that
was there before is still there. -/
theorem install_exact {L : Libs} {options : RuntimeOptions} {outside : Outside} {fs : FileSystem} {d' : Disk}
    (h : install L options (Disk.start outside fs) = .ok () d') :
    ∃ exe program envFile unit, Installs L options outside fs d'.fs exe program envFile unit ∧
      Sound d'.fs ∧ (envFile = none → d'.fs envPath = fs envPath) ∧
      ∀ path, ¬ Owns path → d'.fs path = fs path := by
  obtain ⟨exe, program, envFile, unit, hinst⟩ := installs_of_ok h
  have hother : ∀ path, path ≠ servicePath → path ≠ binPath → (envFile = none ∨ path ≠ envPath) →
      d'.fs path = fs path := by
    intro path hs hb he
    rw [hinst.files, FileSystem.set_other hs]
    cases envFile with
    | none => exact FileSystem.set_other hb _
    | some text =>
      exact (FileSystem.set_other (he.resolve_left nofun) _).trans (FileSystem.set_other hb _)
  refine ⟨exe, program, envFile, unit, hinst, ?_, fun he => ?_, fun path hp => ?_⟩
  · have hbin : (d'.fs binPath).isSome = true := by
      rw [hinst.files, FileSystem.set_other paths_apart.1.symm]
      cases envFile with
      | none =>
        rw [withEnvFile, FileSystem.set_self]
        rfl
      | some text =>
        rw [withEnvFile, FileSystem.set_other paths_apart.2.2, FileSystem.set_self]
        rfl
    refine ⟨fun _ => hbin, fun f hf hd => ?_⟩
    rw [hinst.files, FileSystem.set_self] at hf
    cases hf
    have hsome := environment_of_unit (n := unit.length) hinst.built (by rwa [List.take_length])
    rw [Option.isSome_map] at hsome
    obtain ⟨text, rfl⟩ := Option.isSome_iff_exists.1 hsome
    rw [hinst.files, FileSystem.set_other paths_apart.2.1.symm, withEnvFile, FileSystem.set_self]
    rfl
  · exact hother envPath paths_apart.2.1.symm paths_apart.2.2.symm (.inl he)
  · exact hother path (fun he => hp (.inl he)) (fun he => hp (.inr (.inl he)))
      (.inr fun he => hp (.inr (.inr he)))

theorem install_exact_fresh : ∃ d', install plainLibs sampleOptions
      (Disk.start (.calm "/root/tinysocks") freshSystem) = .ok () d' ∧
    ∃ exe program envFile unit, Installs plainLibs sampleOptions (.calm "/root/tinysocks") freshSystem
        d'.fs exe program envFile unit ∧
      Sound d'.fs ∧ (envFile = none → d'.fs envPath = freshSystem envPath) ∧
      ∀ path, ¬ Owns path → d'.fs path = freshSystem path :=
  ⟨_, rfl, install_exact rfl⟩

/-! ## Uninstallations that succeed -/

section
variable {removable : Str → Bool} {d : Disk}

/-- A removal goes on exactly if it meets no error but that there is no such file. -/
theorem removeIfThere_steps (removable : Str → Bool) (path e : Str) (d : Disk) :
    (removable path = true ∧ ∃ d', removeIfThere removable path e d = .ok () d' ∧ d'.outside = d.outside) ∨
      ¬ removable path = true ∧ ∃ e' d', removeIfThere removable path e d = .error e' d' := by
  unfold removeIfThere
  rw [bind_apply]
  unfold removeFile
  cases hr : removable path with
  | false => exact .inr ⟨Bool.false_ne_true, e, d, rfl⟩
  | true =>
    refine .inl ⟨rfl, ?_⟩
    cases hf : d.fs path with
    | none => exact ⟨d, rfl, rfl⟩
    | some f => exact ⟨_, rfl, rfl⟩

/-- What an uninstallation needs: no file meets another error than that it is not there. -/
structure Removable (removable : Str → Bool) (outside : Outside) : Prop where
  service : removable servicePath = true
  reload : outside.command ["systemctl".toList, "daemon-reload".toList] = .success
  bin : removable binPath = true
  env : removable envPath = true

/-- Where a step that may stop a program does not, what follows decides. -/
theorem bind_ok_iff {x y : EStateM Str Disk Unit} {p q : Prop} (hx : (p ∧ ∃ d', x d = .ok () d' ∧
      d'.outside = d.outside) ∨ ¬ p ∧ ∃ e d', x d = .error e d')
    (hy : ∀ d', d'.outside = d.outside → ((∃ d'', y d' = .ok () d'') ↔ q)) :
    (∃ d', (x >>= fun _ => y) d = .ok () d') ↔ p ∧ q := by
  rcases hx with ⟨hp, d₁, hok, ho⟩ | ⟨hp, e, d₁, he⟩
  · rw [bind_of_ok hok, hy d₁ ho]
    exact (and_iff_right hp).symm
  · rw [bind_eq_error.2 (.inl he)]
    exact iff_of_false (fun ⟨_, h⟩ => nomatch h) fun h => hp h.1

theorem runSystemctl_steps (args : List Str) (d : Disk) :
    (d.outside.command ("systemctl".toList :: args) = .success ∧
      ∃ d', runSystemctl args d = .ok () d' ∧ d'.outside = d.outside) ∨
    ¬ d.outside.command ("systemctl".toList :: args) = .success ∧
      ∃ e d', runSystemctl args d = .error e d' := by
  unfold runSystemctl
  rw [bind_of_ok (show status ("systemctl".toList :: args) d = .ok (d.outside.command _) d from rfl)]
  cases d.outside.command ("systemctl".toList :: args) with
  | success => exact .inl ⟨rfl, d, rfl, rfl⟩
  | failure status => exact .inr ⟨nofun, _, d, rfl⟩
  | notRun => exact .inr ⟨nofun, _, d, rfl⟩

theorem uninstall_ok_iff {outside : Outside} {fs : FileSystem} :
    (∃ d', uninstall removable (Disk.start outside fs) = .ok () d') ↔ Removable removable outside := by
  have hall : (∃ d', uninstall removable (Disk.start outside fs) = .ok () d') ↔
      removable servicePath = true ∧ outside.command ["systemctl".toList, "daemon-reload".toList] = .success ∧
        removable binPath = true ∧ removable envPath = true := by
    unfold uninstall
    rw [bind_of_ok (show runSystemctlBestEffort _ (Disk.start outside fs) = .ok () _ from rfl),
      bind_of_ok (show runSystemctlBestEffort _ (Disk.start outside fs) = .ok () _ from rfl)]
    refine bind_ok_iff (removeIfThere_steps ..) fun d₁ h₁ => ?_
    have hreload := runSystemctl_steps ["daemon-reload".toList] d₁
    rw [h₁] at hreload
    refine bind_ok_iff (h₁ ▸ hreload) fun d₂ _ => ?_
    refine bind_ok_iff (removeIfThere_steps ..) fun d₃ _ => ?_
    rcases removeIfThere_steps removable envPath ("Failed to remove " ++ envPath) d₃ with
      ⟨hr, d₄, hok, -⟩ | ⟨hr, e, d₄, he⟩
    · exact iff_of_true ⟨d₄, hok⟩ hr
    · exact iff_of_false (fun ⟨_, h⟩ => nomatch he.symm.trans h) hr
  rw [hall]
  exact ⟨fun ⟨h₁, h₂, h₃, h₄⟩ => ⟨h₁, h₂, h₃, h₄⟩, fun h => ⟨h.service, h.reload, h.bin, h.env⟩⟩

end

/-! ## What is left behind -/

section
variable {L : Libs} {C : FileSystem → Prop}

/-- What no change of the service's own files can break. -/
def Indifferent (C : FileSystem → Prop) : Prop := ∀ fs path, Owns path → C fs →
  (∀ f, C (fs.set path f)) ∧ C (fs.unset path)

theorem survives_install_indifferent (hC : Indifferent C) (options : RuntimeOptions) :
    Survives C C (install L options) fun _ => C := by
  have hbin : ∀ fs f, C fs → C (fs.set binPath f) := fun fs f h => (hC fs _ (.inr (.inl rfl)) h).1 f
  have henv : ∀ fs f, C fs → C (fs.set envPath f) := fun fs f h => (hC fs _ (.inr (.inr rfl)) h).1 f
  have hservice : ∀ fs f, C fs → C (fs.set servicePath f) := fun fs f h => (hC fs _ (.inl rfl) h).1 f
  unfold install installService installBinary installUnit
  refine (Survives.ofExcept (Q := fun _ => C) fun _ _ _ h => h).bind fun _ => ?_
  refine Survives.bind (R := fun _ => C) ?_ fun _ => ?_
  · refine (survives_currentExe (Q := fun _ => C) fun _ _ h => h).bind fun exe => ?_
    refine (survives_createDirAll (Q := fun _ => C) fun _ h => h).bind fun _ => ?_
    refine (survives_copyBinary (Q := fun _ => C) (fun _ h _ => h) (fun fs f h _ => hbin fs _ h)
      fun fs f h _ => hbin fs f h).bind fun _ => ?_
    exact survives_setPermissions (fun fs f h _ => hbin fs _ h) fun fs f h _ => hbin fs _ h
  · refine (Survives.ofExcept (Q := fun _ => C) fun _ _ _ h => h).bind fun envFile => ?_
    refine Survives.bind (R := fun _ => C) ?_ fun _ => ?_
    · cases envFile with
      | none => exact .pure fun _ h => h
      | some text =>
        unfold installEnvFile
        refine (survives_createDirAll (Q := fun _ => C) fun _ h => h).bind fun _ => ?_
        refine (survives_write (Q := fun _ => C) (fun fs h _ => henv fs _ h)
          fun fs h => henv fs _ h).bind fun _ => ?_
        exact survives_setPermissions (fun fs f h _ => henv fs _ h) fun fs f h _ => henv fs _ h
    · refine (Survives.ofExcept (Q := fun _ => C) fun _ _ _ h => h).bind fun unit => ?_
      refine (survives_write (Q := fun _ => C) (fun fs h _ => hservice fs _ h)
        fun fs h => hservice fs _ h).bind fun _ => ?_
      refine (survives_runSystemctl _).bind fun _ => ?_
      exact (survives_runSystemctl _).bind fun _ => survives_runSystemctl _

theorem indifferent_without (hC : Indifferent C) {fs : FileSystem} (h : C fs) (n : Nat) : C (without n fs) := by
  have h₁ := (hC fs servicePath (.inl rfl) h).2
  have h₂ := (hC _ binPath (.inr (.inl rfl)) h₁).2
  match n with
  | 0 => exact h
  | 1 => exact h₁
  | 2 => exact h₂
  | n + 3 => exact (hC _ envPath (.inr (.inr rfl)) h₂).2

end

/-- Installing and uninstalling, and nobody else. -/
def Change.own : Change → Prop
  | .other => False
  | _ => True

theorem run_elsewhere {L : Libs} {fs fs' : FileSystem} {changes : List Change}
    (h : (machine L).Run fs changes fs') (hown : ∀ change ∈ changes, change.own) :
    ∀ path, ¬ Owns path → fs' path = fs path := by
  induction h with
  | nil fs => exact fun _ _ => rfl
  | @cons fs fs₁ fs' change changes first rest ih =>
    obtain ⟨hc, hrest⟩ := List.forall_mem_cons.1 hown
    have hC : Indifferent fun fs₁ => ∀ path, ¬ Owns path → fs₁ path = fs path := by
      refine fun fs₁ path hp h => ⟨fun f q hq => ?_, fun q hq => ?_⟩
      · rw [FileSystem.set_other (fun he : q = path => hq (he ▸ hp)), h q hq]
      · rw [FileSystem.unset_other (fun he : q = path => hq (he ▸ hp)), h q hq]
    have hfirst : ∀ path, ¬ Owns path → fs₁ path = fs path := by
      cases change with
      | install options outside =>
        exact (survives_install_indifferent hC options).stages (d := Disk.start outside fs)
          (fun _ _ => rfl) (List.forall_mem_singleton.2 fun _ _ => rfl) _ first
      | uninstall removable outside =>
        obtain ⟨n, rfl⟩ := uninstalled_states first
        exact indifferent_without hC (fun _ _ => rfl) n
      | other => exact absurd hc id
    exact fun path hp => (ih hrest path hp).trans (hfirst path hp)

/-- The files of the service are gone, and the others are those of `fs`. -/
theorem without_three (fs : FileSystem) (path : Str) :
    (Owns path → without 3 fs path = none) ∧ (¬ Owns path → without 3 fs path = fs path) := by
  refine ⟨fun hp => ?_, fun hp => ?_⟩
  · show ((fs.unset servicePath).unset binPath).unset envPath path = none
    by_cases he : path = envPath
    · exact if_pos he
    rw [FileSystem.unset_other he]
    by_cases hb : path = binPath
    · exact if_pos hb
    rw [FileSystem.unset_other hb]
    exact if_pos (hp.resolve_right fun h => h.elim hb he)
  · exact ((FileSystem.unset_other fun he => hp (.inr (.inr he))).trans
      (FileSystem.unset_other fun he => hp (.inr (.inl he)))).trans
        (FileSystem.unset_other fun he => hp (.inl he))

theorem without_three_congr {fs fs' : FileSystem} (h : ∀ path, ¬ Owns path → fs' path = fs path) :
    without 3 fs' = without 3 fs := by
  funext path
  obtain ⟨hin, hout⟩ := without_three fs path
  obtain ⟨hin', hout'⟩ := without_three fs' path
  by_cases hp : Owns path
  · rw [hin hp, hin' hp]
  · rw [hout hp, hout' hp, h path hp]

/-- **An uninstallation leaves nothing behind.** It removes the unit first, the binary next
and the credentials last, wherever it is stopped; it succeeds exactly if systemd can be
told and no removal meets another error than that there is no such file; and if it does,
whatever was installed before it, with however many failures, all files are as if nothing
had been. -/
theorem uninstall_exact (L : Libs) {fs₀ fs : FileSystem} {changes : List Change}
    (hrun : (machine L).Run fs₀ changes fs) (hown : ∀ change ∈ changes, change.own)
    (removable : Str → Bool) (outside : Outside) :
    (∀ fs' ∈ (uninstalled removable outside fs).states, ∃ n, fs' = without n fs) ∧
    ((∃ d', uninstall removable (Disk.start outside fs) = .ok () d') ↔ Removable removable outside) ∧
    (Removable removable outside → (uninstalled removable outside fs).fs = without 3 fs₀) := by
  refine ⟨fun fs' => uninstalled_states, uninstall_ok_iff, fun h => ?_⟩
  obtain ⟨d', hd'⟩ := (@uninstall_ok_iff removable outside fs).2 h
  have hlast := (@survives_uninstall removable fs (Disk.start outside fs) rfl).2 () d' hd'
  unfold uninstalled
  rw [hd']
  exact hlast.trans (without_three_congr (run_elsewhere hrun hown))

/-- A fresh machine, on which the service was installed. -/
theorem uninstall_exact_fresh :
    ∃ fs, (fs servicePath).isSome = true ∧ (fs envPath).isSome = true ∧
      (∀ fs' ∈ (uninstalled (fun _ => true) (.calm "/root/tinysocks") fs).states, ∃ n, fs' = without n fs) ∧
      ((∃ d', uninstall (fun _ => true) (Disk.start (.calm "/root/tinysocks") fs) = .ok () d') ↔
        Removable (fun _ => true) (.calm "/root/tinysocks")) ∧
      (Removable (fun _ => true) (.calm "/root/tinysocks") →
        (uninstalled (fun _ => true) (.calm "/root/tinysocks") fs).fs = without 3 freshSystem) :=
  ⟨(installed plainLibs sampleOptions (.calm "/root/tinysocks") freshSystem).fs, rfl, rfl,
    @uninstall_exact plainLibs freshSystem _ [.install sampleOptions (.calm "/root/tinysocks")]
      (.cons (List.mem_append_right _ (.head _)) (.nil _)) (List.forall_mem_singleton.2 trivial) _ _⟩

end TinySocks.L6
