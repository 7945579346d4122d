import TinySocks.Core.FileSystem
import TinySocks.Core.Stages

/-!
# Programs on files that are stopped

The rules of `Survives` for the effects of a program on files: what the files are where it
is stopped between two of them, or fails, and what they are when it returns.
-/
namespace TinySocks.Core.Files

/-! ## Removing files -/

def FileSystem.unset (fs : FileSystem) (path : Str) : FileSystem := fun p => if p = path then none else fs p

@[simp] theorem FileSystem.unset_self (fs : FileSystem) (path : Str) : fs.unset path path = none := if_pos rfl

theorem FileSystem.set_other {fs : FileSystem} {path p : Str} (h : p ≠ path) (f : File) :
    fs.set path f p = fs p := if_neg h

theorem FileSystem.unset_other {fs : FileSystem} {path p : Str} (h : p ≠ path) : fs.unset path p = fs p :=
  if_neg h

/-- What is not there need not be removed. -/
theorem FileSystem.unset_of_none {fs : FileSystem} {path : Str} (h : fs path = none) : fs.unset path = fs := by
  funext p
  unfold FileSystem.unset
  split
  · rename_i hp
    rw [hp, h]
  · rfl

/-- What is there already need not be written. -/
theorem FileSystem.set_of_some {fs : FileSystem} {path : Str} {f : File} (h : fs path = some f) :
    fs.set path f = fs := by
  funext p
  unfold FileSystem.set
  split
  · rename_i hp
    rw [hp, h]
  · rfl

/-- What becomes of removing a file. -/
inductive Removal where
  | done
  | notFound
  /-- any other error -/
  | failed
  deriving DecidableEq, Repr

/-- `fs::remove_file`. Where `removable` does not hold, it meets another error than `NotFound`,
whether or not there is such a file. -/
def removeFile {ε : Type} (removable : Str → Bool) (path : Str) : EStateM ε Disk Removal := fun d =>
  match removable path, d.fs path with
  | false, _ => .ok .failed d
  | true, none => .ok .notFound d
  | true, some _ => .ok .done (d.become (d.fs.unset path))

/-! ## Triples -/

instance : Staged Disk FileSystem := ⟨Disk.fs, Disk.states⟩

section
variable {ε α : Type} {C P : FileSystem → Prop}

/-! ### Effects -/

theorem survives_status {command : List Str} {Q : Exit → FileSystem → Prop}
    (h : ∀ exit fs, P fs → Q exit fs) : Survives C P (status command : EStateM ε Disk Exit) Q :=
  .quiet (fun _ => rfl) fun d a _ _ hP => h a d.fs hP

theorem survives_createDirAll {path : Str} {e : ε} {Q : Unit → FileSystem → Prop}
    (h : ∀ fs, P fs → Q () fs) : Survives C P (createDirAll path e) Q := by
  refine .quiet (fun d => ?_) fun d a _ _ hP => h d.fs hP
  unfold createDirAll
  split <;> rfl

theorem survives_currentExe {e : ε} {Q : Str → FileSystem → Prop} (h : ∀ exe fs, P fs → Q exe fs) :
    Survives C P (currentExe e) Q := by
  refine .quiet (fun d => ?_) fun d a _ _ hP => h a d.fs hP
  unfold currentExe
  split <;> rfl

theorem survives_isSameFile {source path : Str} {Q : Bool → FileSystem → Prop}
    (h : ∀ fs, P fs → Q false fs ∧ ((fs path).isSome = true → Q true fs)) :
    Survives C P (isSameFile source path : EStateM ε Disk Bool) Q := by
  refine .quiet (fun _ => rfl) fun d a d' hm hP => ?_
  obtain ⟨hfalse, htrue⟩ := h d.fs hP
  cases hm
  cases hs : (d.fs path).isSome && d.outside.canonicalize source == d.outside.canonicalize path with
  | false => exact hfalse
  | true => exact htrue (Bool.and_eq_true_iff.1 hs).1

/-- A file that is written holds a beginning of its text at any moment. -/
theorem survives_storeFile {path content : Str} {mode : Nat} {e : ε} {d : Disk}
    {Q : Unit → FileSystem → Prop}
    (hC : ∀ n, C (d.fs.set path { content := content.take n, mode }))
    (hQ : Q () (d.fs.set path { content, mode })) :
    (∃ new, (finalState (storeFile path content mode e d)).states = d.states ++ new ∧ ∀ fs ∈ new, C fs) ∧
      ∀ a d', storeFile path content mode e d = .ok a d' → Q a d'.fs := by
  have hstore : ∀ n, ∃ new, (d.store path (content.take n) mode).states = d.states ++ new ∧
      ∀ fs ∈ new, C fs := by
    intro n
    refine ⟨[_, _], ?_, List.forall_mem_cons.2 ⟨hC 0, List.forall_mem_singleton.2 (hC n)⟩⟩
    unfold Disk.store
    rw [states_become, states_become, List.append_assoc]
    rfl
  unfold storeFile
  split
  · have hfull := hstore content.length
    rw [List.take_length] at hfull
    refine ⟨hfull, fun a d' h => ?_⟩
    cases h
    exact hQ
  · exact ⟨⟨[], (List.append_nil _).symm, nofun⟩, nofun⟩
  · exact ⟨hstore _, nofun⟩

theorem survives_write {path content : Str} {e : ε} {Q : Unit → FileSystem → Prop}
    (hC : ∀ fs, P fs → ∀ n, C (fs.set path
      { content := content.take n, mode := (fs path).elim CREATED File.mode }))
    (hQ : ∀ fs, P fs → Q () (fs.set path { content, mode := (fs path).elim CREATED File.mode })) :
    Survives C P (write path content e) Q :=
  fun d hd => survives_storeFile (hC d.fs hd) (hQ d.fs hd)

theorem survives_copy {source path : Str} {e : ε} {Q : Unit → FileSystem → Prop}
    (hC : ∀ fs (f : File), P fs → ∀ n, C (fs.set path { content := f.content.take n, mode := f.mode }))
    (hQ : ∀ fs f, P fs → fs source = some f → Q () (fs.set path f)) :
    Survives C P (copy source path e) Q := by
  intro d hd
  unfold copy
  split
  · rename_i f hf
    exact survives_storeFile (hC d.fs f hd) (hQ d.fs f hd hf)
  · exact ⟨⟨[], (List.append_nil _).symm, nofun⟩, nofun⟩

theorem survives_setPermissions {path : Str} {mode : Nat} {e : ε} {Q : Unit → FileSystem → Prop}
    (hC : ∀ fs f, P fs → fs path = some f → C (fs.set path { f with mode := mode }))
    (hQ : ∀ fs f, P fs → fs path = some f → Q () (fs.set path { f with mode := mode })) :
    Survives C P (setPermissions path mode e) Q := by
  intro d hd
  unfold setPermissions
  split
  · rename_i f _ hf
    refine ⟨⟨[_], rfl, List.forall_mem_singleton.2 (hC d.fs f hd hf)⟩, fun a d' h => ?_⟩
    cases h
    exact hQ d.fs f hd hf
  · exact ⟨⟨[], (List.append_nil _).symm, nofun⟩, nofun⟩

theorem survives_removeFile {removable : Str → Bool} {path : Str} {Q : Removal → FileSystem → Prop}
    (hC : ∀ fs, P fs → C (fs.unset path))
    (hfailed : ∀ fs, P fs → Q .failed fs)
    (hQ : ∀ fs, P fs → ∀ r, r ≠ .failed → Q r (fs.unset path)) :
    Survives C P (removeFile removable path : EStateM ε Disk Removal) Q := by
  intro d hd
  unfold removeFile
  split
  · refine ⟨⟨[], (List.append_nil _).symm, nofun⟩, fun a d' h => ?_⟩
    cases h
    exact hfailed d.fs hd
  · rename_i hnone
    refine ⟨⟨[], (List.append_nil _).symm, nofun⟩, fun a d' h => ?_⟩
    cases h
    have := hQ d.fs hd .notFound (by decide)
    rwa [FileSystem.unset_of_none hnone] at this
  · refine ⟨⟨[_], rfl, List.forall_mem_singleton.2 (hC d.fs hd)⟩, fun a d' h => ?_⟩
    cases h
    exact hQ d.fs hd .done (by decide)

end

/-! ## Effects that succeed -/

theorem FileSystem.set_set (fs : FileSystem) (path : Str) (f g : File) :
    (fs.set path f).set path g = fs.set path g := by
  funext p
  unfold FileSystem.set
  split <;> rfl

section
variable {ε : Type} {d d' : Disk} {path : Str} {e : ε}

theorem storeFile_ok {content : Str} {mode : Nat} (h : storeFile path content mode e d = .ok () d') :
    d'.fs = d.fs.set path { content, mode } ∧ d'.outside = d.outside := by
  unfold storeFile at h
  split at h <;> cases h
  exact ⟨rfl, rfl⟩

theorem write_ok {content : Str} (h : write path content e d = .ok () d') :
    d'.fs = d.fs.set path { content, mode := (d.fs path).elim CREATED File.mode } ∧
      d'.outside = d.outside := storeFile_ok h

theorem copy_ok {source : Str} (h : copy source path e d = .ok () d') :
    ∃ f, d.fs source = some f ∧ d'.fs = d.fs.set path f ∧ d'.outside = d.outside := by
  unfold copy at h
  split at h
  · rename_i f hf
    exact ⟨f, hf, storeFile_ok h⟩
  · cases h

theorem setPermissions_ok {mode : Nat} (h : setPermissions path mode e d = .ok () d') :
    ∃ f, d.fs path = some f ∧ d'.fs = d.fs.set path { f with mode := mode } ∧ d'.outside = d.outside := by
  unfold setPermissions at h
  split at h
  · rename_i f _ hf
    cases h
    exact ⟨f, hf, rfl, rfl⟩
  · cases h

theorem createDirAll_ok (h : createDirAll path e d = .ok () d') : d' = d := by
  unfold createDirAll at h
  split at h <;> cases h
  rfl

theorem currentExe_ok {exe : Str} (h : currentExe e d = .ok exe d') :
    d.outside.currentExe = some exe ∧ d' = d := by
  unfold currentExe at h
  split at h
  · rename_i he
    cases h
    exact ⟨he, rfl⟩
  · cases h

end
end TinySocks.Core.Files
