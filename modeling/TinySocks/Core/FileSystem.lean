import Mathlib.Data.List.Forall2
import TinySocks.Core.Effect
import TinySocks.Core.Text

/-!
# Programs that write files

A program changes files one effect after the other, each of which may fail, and may
be stopped between any two of them. A `Disk` keeps every state its files were in, so
that what holds of all of them holds after every prefix of the effects.

* `Along Q` relates each state a program adds to the one it began with.
* `AlikeBut path` compares two programs that differ in what they write to one file;
  `SameElsewhere` is what is left of it when only one of them goes on.
-/
namespace TinySocks.Core.Files

structure File where
  content : Str
  /-- the permission bits -/
  mode : Nat
  deriving DecidableEq, Repr

abbrev FileSystem := Str → Option File

def FileSystem.set (fs : FileSystem) (path : Str) (f : File) : FileSystem :=
  fun p => if p = path then some f else fs p

@[simp] theorem FileSystem.set_self (fs : FileSystem) (path : Str) (f : File) :
    fs.set path f path = some f := if_pos rfl

/-- Neither the group nor others may do anything with the file. -/
def File.Private (f : File) : Prop := f.mode &&& 0o077 = 0

instance (f : File) : Decidable f.Private := inferInstanceAs (Decidable (_ = _))

/-- The mode of a new file: 0666, less what the umask 022 takes away. -/
def CREATED : Nat := 0o644

/-- What becomes of writing a file. -/
inductive Writing where
  | done
  | notOpened
  /-- it fails after this many characters -/
  | cut (n : Nat)
  deriving DecidableEq, Repr

/-- What becomes of running a command. -/
inductive Exit where
  | success
  | failure (status : Str)
  | notRun
  deriving DecidableEq, Repr

/-- What the effects of a program meet. -/
structure Outside where
  currentExe : Option Str
  canonicalize : Str → Option Str
  createDirAll : Str → Bool
  write : Str → Writing
  setPermissions : Str → Bool
  command : List Str → Exit

/-- Nothing fails. -/
def Outside.calm (exe : Str) : Outside where
  currentExe := some exe
  canonicalize := some
  createDirAll _ := true
  write _ := .done
  setPermissions _ := true
  command _ := .success

/-- The files, and all states they were in before. -/
structure Disk where
  outside : Outside
  fs : FileSystem
  past : List FileSystem

namespace Disk

def start (outside : Outside) (fs : FileSystem) : Disk := { outside, fs, past := [] }

def states (d : Disk) : List FileSystem := d.past ++ [d.fs]

def become (d : Disk) (fs : FileSystem) : Disk := { d with fs, past := d.past ++ [d.fs] }

/-- A file that was opened for writing is empty at first. -/
def store (d : Disk) (path content : Str) (mode : Nat) : Disk :=
  (d.become (d.fs.set path { content := [], mode })).become (d.fs.set path { content, mode })

end Disk

section
variable {ε : Type}

def storeFile (path content : Str) (mode : Nat) (e : ε) : EStateM ε Disk Unit := fun d =>
  match d.outside.write path with
  | .done => .ok () (d.store path content mode)
  | .notOpened => .error e d
  | .cut n => .error e (d.store path (content.take n) mode)

/-- `fs::write`; a file that is there keeps its mode. -/
def write (path content : Str) (e : ε) : EStateM ε Disk Unit := fun d =>
  storeFile path content ((d.fs path).elim CREATED File.mode) e d

/-- `fs::copy`; the mode is copied, too. -/
def copy (source path : Str) (e : ε) : EStateM ε Disk Unit := fun d =>
  match d.fs source with
  | some f => storeFile path f.content f.mode e d
  | none => .error e d

/-- `fs::set_permissions` -/
def setPermissions (path : Str) (mode : Nat) (e : ε) : EStateM ε Disk Unit := fun d =>
  match d.outside.setPermissions path, d.fs path with
  | true, some f => .ok () (d.become (d.fs.set path { f with mode := mode }))
  | _, _ => .error e d

/-- `fs::create_dir_all`; others may traverse what it makes. -/
def createDirAll (path : Str) (e : ε) : EStateM ε Disk Unit := fun d =>
  if d.outside.createDirAll path then .ok () d else .error e d

/-- What running a command comes to. -/
def status (command : List Str) : EStateM ε Disk Exit := fun d => .ok (d.outside.command command) d

/-- `env::current_exe` -/
def currentExe (e : ε) : EStateM ε Disk Str := fun d =>
  match d.outside.currentExe with
  | some path => .ok path d
  | none => .error e d

/-- There is a file at the path, and `source` leads to the same one. -/
def isSameFile (source path : Str) : EStateM ε Disk Bool := fun d =>
  .ok ((d.fs path).isSome && d.outside.canonicalize source == d.outside.canonicalize path) d

end

/-! ## Runs in which nothing fails -/

section
variable {ε : Type} {d : Disk} {exe : Str} (ho : d.outside = .calm exe)
include ho

theorem currentExe_calm (e : ε) : currentExe e d = .ok exe d := by
  unfold currentExe
  rw [ho]
  rfl

theorem createDirAll_calm (path : Str) (e : ε) : createDirAll path e d = .ok () d := by
  unfold createDirAll
  rw [ho]
  rfl

theorem storeFile_calm (path content : Str) (mode : Nat) (e : ε) :
    storeFile path content mode e d = .ok () (d.store path content mode) := by
  unfold storeFile
  rw [ho]
  rfl

theorem copy_calm {source : Str} {f : File} (hf : d.fs source = some f) (path : Str) (e : ε) :
    copy source path e d = .ok () (d.store path f.content f.mode) := by
  unfold copy
  rw [hf]
  exact storeFile_calm ho ..

theorem setPermissions_calm {path : Str} {f : File} (hf : d.fs path = some f) (mode : Nat) (e : ε) :
    ∃ d', setPermissions path mode e d = .ok () d' := by
  unfold setPermissions
  rw [ho, hf]
  exact ⟨_, rfl⟩

end

/-! ## All states of a run -/

/-- Each state that was added, and so the last, is related to the one before. -/
structure Along (Q : FileSystem → FileSystem → Prop) (d d' : Disk) : Prop where
  outside : d'.outside = d.outside
  added : ∃ new, d'.states = d.states ++ new ∧ ∀ fs ∈ new, Q d.fs fs
  reached : Q d.fs d'.fs

section
variable {Q : FileSystem → FileSystem → Prop} {ε : Type} {d : Disk} {path : Str}

theorem along_frame (hQ : Frame Q) : Frame (Along Q) where
  refl d := ⟨rfl, ⟨[], (List.append_nil _).symm, nofun⟩, hQ.refl d.fs⟩
  trans := by
    intro d d' d'' hx hp
    obtain ⟨ho, ⟨new, he, hnew⟩, h⟩ := hx
    obtain ⟨ho', ⟨new', he', hnew'⟩, h'⟩ := hp
    refine ⟨ho'.trans ho, ⟨new ++ new', ?_, ?_⟩, hQ.trans h h'⟩
    · rw [he', he, List.append_assoc]
    · exact List.forall_mem_append.2 ⟨hnew, fun fs hm => hQ.trans h (hnew' fs hm)⟩

/-- No state is forgotten. -/
theorem Along.isPrefix {d d' : Disk} (h : Along Q d d') : d.states <+: d'.states := by
  obtain ⟨-, ⟨new, he, -⟩, -⟩ := h
  exact ⟨new, he.symm⟩

theorem states_become (d : Disk) (fs : FileSystem) : (d.become fs).states = d.states ++ [fs] := rfl

theorem along_become {fs : FileSystem} (h : Q d.fs fs) : Along Q d (d.become fs) :=
  ⟨rfl, ⟨[fs], rfl, fun _ hm => List.mem_singleton.1 hm ▸ h⟩, h⟩

theorem along_store {mode : Nat} (h : ∀ content, Q d.fs (d.fs.set path { content, mode }))
    (content : Str) : Along Q d (d.store path content mode) := by
  have hnew : ∀ fs ∈ [d.fs.set path { content := [], mode }, d.fs.set path { content, mode }], Q d.fs fs :=
    List.forall_mem_cons.2 ⟨h [], fun _ hm => List.mem_singleton.1 hm ▸ h content⟩
  refine ⟨rfl, ⟨_, ?_, hnew⟩, h content⟩
  unfold Disk.store
  rw [states_become, states_become, List.append_assoc]
  rfl

/-- What was a state after the first step is one after all. -/
theorem mem_states_bind {α β : Type} {x : EStateM ε Disk α} {f : α → EStateM ε Disk β}
    (hf : ∀ a, Keeps (Along Q) (f a)) {fs : FileSystem} (h : fs ∈ (finalState (x d)).states) :
    fs ∈ (finalState ((x >>= f) d)).states := by
  rw [bind_apply]
  cases hx : x d with
  | error e d' =>
    rw [hx] at h
    exact h
  | ok a d' =>
    rw [hx] at h
    exact (hf a d').isPrefix.subset h

variable (hQ : Frame Q)
include hQ

theorem along_storeFile {mode : Nat} (h : ∀ content, Q d.fs (d.fs.set path { content, mode }))
    (content : Str) (e : ε) : Along Q d (finalState (storeFile path content mode e d)) := by
  unfold storeFile
  split
  · exact along_store h content
  · exact (along_frame hQ).refl d
  · exact along_store h _

theorem keeps_write
    (h : ∀ fs content, Q fs (fs.set path { content, mode := (fs path).elim CREATED File.mode }))
    (content : Str) (e : ε) : Keeps (Along Q) (write path content e) :=
  fun d => along_storeFile hQ (h d.fs) content e

theorem keeps_copy (h : ∀ fs f, Q fs (fs.set path f)) (source : Str) (e : ε) :
    Keeps (Along Q) (copy source path e) := by
  intro d
  unfold copy
  split
  · exact along_storeFile hQ (fun _ => h d.fs _) _ e
  · exact (along_frame hQ).refl d

theorem keeps_setPermissions {mode : Nat}
    (h : ∀ (fs : FileSystem) (f : File), fs path = some f → Q fs (fs.set path { f with mode := mode }))
    (e : ε) : Keeps (Along Q) (setPermissions path mode e) := by
  intro d
  unfold setPermissions
  split
  · exact along_become (h d.fs _ ‹_›)
  · exact (along_frame hQ).refl d

theorem keeps_createDirAll (path : Str) (e : ε) : Keeps (Along Q) (createDirAll path e) := by
  intro d
  unfold createDirAll
  split <;> exact (along_frame hQ).refl d

theorem keeps_status (command : List Str) : Keeps (Along Q) (status command : EStateM ε Disk Exit) :=
  fun d => (along_frame hQ).refl d

theorem keeps_currentExe (e : ε) : Keeps (Along Q) (currentExe e) := by
  intro d
  unfold currentExe
  split <;> exact (along_frame hQ).refl d

theorem keeps_isSameFile (source path : Str) :
    Keeps (Along Q) (isSameFile source path : EStateM ε Disk Bool) :=
  fun d => (along_frame hQ).refl d

end

/-- A property of one file that is not lost. -/
def Lasts (path : Str) (P : Option File → Prop) (fs fs' : FileSystem) : Prop := P (fs path) → P (fs' path)

theorem lasts_frame (path : Str) (P : Option File → Prop) : Frame (Lasts path P) where
  refl _ := id
  trans h h' := h' ∘ h

theorem lasts_set_other {path p : Str} {P : Option File → Prop} (hp : path ≠ p) (fs : FileSystem)
    (f : File) : Lasts path P fs (fs.set p f) := by
  unfold Lasts FileSystem.set
  rw [if_neg hp]
  exact id

theorem lasts_set {path : Str} {P : Option File → Prop} {fs : FileSystem} {f : File}
    (h : P (fs path) → P (some f)) : Lasts path P fs (fs.set path f) := by
  unfold Lasts FileSystem.set
  rw [if_pos rfl]
  exact h

/-- What lasts, and holds at first, holds in every state. -/
theorem Along.forall_states {path : Str} {P : Option File → Prop} {d d' : Disk}
    (h : Along (Lasts path P) d d') (hd : ∀ fs ∈ d.states, P (fs path)) : ∀ fs ∈ d'.states, P (fs path) := by
  obtain ⟨-, ⟨new, he, hnew⟩, -⟩ := h
  have hlast : P (d.fs path) := hd _ (List.mem_append_right _ (.head _))
  rw [he]
  exact List.forall_mem_append.2 ⟨hd, fun fs hm => hnew fs hm hlast⟩

/-! ## Two runs -/

/-- The files but one are the same. -/
def Elsewhere (path : Str) (fs fs' : FileSystem) : Prop := ∀ p, p ≠ path → fs p = fs' p

/-- Two runs that went through the same, but for the content of one file. -/
structure AlikeBut (path : Str) (d d' : Disk) : Prop where
  outside : d.outside = d'.outside
  past : List.Forall₂ (Elsewhere path) d.past d'.past
  fs : Elsewhere path d.fs d'.fs
  there : (d.fs path).map File.mode = (d'.fs path).map File.mode

/-- As far as both runs go, the files but one are the same in them. -/
def SameElsewhere (path : Str) (d d' : Disk) : Prop :=
  ∀ (i : Nat) fs fs', d.states[i]? = some fs → d'.states[i]? = some fs' → Elsewhere path fs fs'

section
variable {path p : Str} {ε : Type} {d d' : Disk}

theorem elsewhere_refl (path : Str) (fs : FileSystem) : Elsewhere path fs fs := fun _ _ => rfl

theorem SameElsewhere.symm (h : SameElsewhere path d d') : SameElsewhere path d' d :=
  fun i fs fs' hi hi' p hp => (h i fs' fs hi' hi p hp).symm

theorem alikeBut_refl (path : Str) (d : Disk) : AlikeBut path d d where
  outside := rfl
  past := List.forall₂_same.2 fun fs _ => elsewhere_refl path fs
  fs := elsewhere_refl path d.fs
  there := rfl

theorem AlikeBut.states (h : AlikeBut path d d') : List.Forall₂ (Elsewhere path) d.states d'.states :=
  List.rel_append h.past (.cons h.fs .nil)

/-- One of two runs that went through the same may go on. -/
theorem AlikeBut.sameElsewhere (h : AlikeBut path d d') {d'' : Disk} (hd : d'.states <+: d''.states) :
    SameElsewhere path d d'' := by
  obtain ⟨new, he⟩ := hd
  intro i fs fs' hi hi'
  obtain ⟨hlt, rfl⟩ := List.getElem?_eq_some_iff.1 hi
  have hlt' : i < d'.states.length := h.states.length_eq ▸ hlt
  rw [← he, List.getElem?_append_left hlt', List.getElem?_eq_getElem hlt'] at hi'
  cases hi'
  exact h.states.get hlt hlt'

theorem AlikeBut.become (h : AlikeBut path d d') {fs fs' : FileSystem} (hfs : Elsewhere path fs fs')
    (hthere : (fs path).map File.mode = (fs' path).map File.mode) :
    AlikeBut path (d.become fs) (d'.become fs') where
  outside := h.outside
  past := h.states
  fs := hfs
  there := hthere

theorem elsewhere_set {fs fs' : FileSystem} (h : Elsewhere path fs fs') {f f' : File}
    (hf : p ≠ path → f = f') : Elsewhere path (fs.set p f) (fs'.set p f') := by
  intro q hq
  unfold FileSystem.set
  split
  · rename_i he
    rw [hf (he ▸ hq)]
  · exact h q hq

/-- The same file is set in both, or in both the one that may differ. -/
theorem alikeBut_set (h : AlikeBut path d d') (f f' : File) (hf : p ≠ path → f = f')
    (hm : f.mode = f'.mode) : Elsewhere path (d.fs.set p f) (d'.fs.set p f') ∧
      ((d.fs.set p f) path).map File.mode = ((d'.fs.set p f') path).map File.mode := by
  refine ⟨elsewhere_set h.fs hf, ?_⟩
  unfold FileSystem.set
  split
  · exact congrArg some hm
  · exact h.there

theorem AlikeBut.store (h : AlikeBut path d d') {content content' : Str} (mode : Nat)
    (hc : p ≠ path → content = content') :
    AlikeBut path (d.store p content mode) (d'.store p content' mode) := by
  obtain ⟨hopened, hm⟩ := alikeBut_set h (p := p) { content := [], mode } { content := [], mode }
    (fun _ => rfl) rfl
  obtain ⟨hfilled, hm'⟩ := alikeBut_set h { content, mode } { content := content', mode }
    (fun hp : p ≠ path => by rw [hc hp]) rfl
  exact (h.become hopened hm).become hfilled hm'

theorem AlikeBut.mode (h : AlikeBut path d d') (p : Str) :
    (d.fs p).map File.mode = (d'.fs p).map File.mode := by
  by_cases hp : p = path
  · rw [hp]
    exact h.there
  · rw [h.fs p hp]

theorem elim_mode (f : Option File) : f.elim CREATED File.mode = (f.map File.mode).getD CREATED := by
  cases f <;> rfl

theorem inStep_write {content content' : Str} (hc : p ≠ path → content = content') (e : ε) :
    InStep (AlikeBut path) (write p content e) (write p content' e) := by
  intro d d' h
  have hmode : (d.fs p).elim CREATED File.mode = (d'.fs p).elim CREATED File.mode := by
    rw [elim_mode, elim_mode, h.mode p]
  unfold write storeFile
  rw [h.outside, hmode]
  split
  · exact .inl ⟨(), _, _, rfl, rfl, h.store _ hc⟩
  · exact .inr ⟨e, d, d', rfl, rfl, h⟩
  · exact .inr ⟨e, _, _, rfl, rfl, h.store _ fun hp => by rw [hc hp]⟩

theorem inStep_setPermissions (p : Str) (mode : Nat) (e : ε) :
    InStep (AlikeBut path) (setPermissions p mode e) (setPermissions p mode e) := by
  intro d d' h
  have hmode := h.mode p
  unfold setPermissions
  rw [h.outside]
  cases d'.outside.setPermissions p with
  | false => exact .inr ⟨e, d, d', rfl, rfl, h⟩
  | true =>
    cases hd : d.fs p with
    | none =>
      rw [hd] at hmode
      rw [Option.map_eq_none_iff.1 hmode.symm]
      exact .inr ⟨e, d, d', rfl, rfl, h⟩
    | some f =>
      rw [hd] at hmode
      obtain ⟨f', hd', -⟩ := Option.map_eq_some_iff.1 hmode.symm
      have hsame : p ≠ path → f = f' := by
        intro hp
        have he := h.fs p hp
        rw [hd, hd'] at he
        exact Option.some.inj he
      rw [hd']
      obtain ⟨hfs, hthere⟩ := alikeBut_set h { f with mode := mode } { f' with mode := mode }
        (fun hp => by rw [hsame hp]) rfl
      exact .inl ⟨(), _, _, rfl, rfl, h.become hfs hthere⟩

theorem inStep_createDirAll (p : Str) (e : ε) :
    InStep (AlikeBut path) (createDirAll p e) (createDirAll p e) := by
  intro d d' h
  unfold createDirAll
  rw [h.outside]
  split
  · exact .inl ⟨(), d, d', rfl, rfl, h⟩
  · exact .inr ⟨e, d, d', rfl, rfl, h⟩

theorem inStep_status (command : List Str) :
    InStep (AlikeBut path) (status command : EStateM ε Disk Exit) (status command) := by
  intro d d' h
  unfold status
  rw [h.outside]
  exact .inl ⟨_, d, d', rfl, rfl, h⟩

end

end TinySocks.Core.Files
