import TinySocks.Core.FileSystem
import TinySocks.L6Service.EnvFile
import TinySocks.L6Service.Unit

/-!
# Installing a systemd service (`service/linux.rs`)

`install` copies the binary, writes the environment file, makes it private, writes
the unit and starts the service. Each of these may fail, or be the last one.

* `credentials_private_iff`: the environment file is private whenever it holds the
  credentials, and no other file depends on them, exactly if the file was there
  before or no credentials come to be written. A file that `fs::write` creates can be
  read by others until its permissions are set.
-/
namespace TinySocks.L6

open TinySocks.Core TinySocks.Core.Systemd TinySocks.Core.Files TinySocks.L1 TinySocks.L3

abbrev envPath : Str := envFilePath LINUX_SERVICE_NAME

/-- mirrors src/service/linux.rs:214-225 -/
def runSystemctl (args : List Str) : EStateM Str Disk Unit := do
  match ← status ("systemctl".toList :: args) with
  | .success => pure ()
  | .failure status => throw ("systemctl " ++ joinWith " " args ++ " failed with " ++ status)
  | .notRun => throw ("Failed to run systemctl " ++ joinWith " " args)

/-- mirrors src/service/linux.rs:155-167 -/
def copyBinary (exe installedBin : Str) : EStateM Str Disk Unit := do
  if ← isSameFile exe installedBin then pure ()
  else copy exe installedBin ("Failed to copy " ++ exe ++ " to " ++ installedBin)

/-- mirrors src/service/linux.rs:149-173 -/
def installBinary (installedBin : Str) : EStateM Str Disk Unit := do
  let exe ← currentExe "Failed to locate current executable".toList
  createDirAll DEFAULT_LINUX_BIN_DIR ("Failed to create install directory " ++ DEFAULT_LINUX_BIN_DIR)
  copyBinary exe installedBin
  setPermissions installedBin 0o755 ("Failed to set executable permissions on " ++ installedBin)

/-- mirrors src/service/linux.rs:177-195 -/
def installEnvFile (path : Str) : Option Str → EStateM Str Disk Unit
  | none => pure ()
  | some envFile => do
    createDirAll DEFAULT_LINUX_CONFIG_DIR
      ("Failed to create service config directory " ++ DEFAULT_LINUX_CONFIG_DIR)
    write path envFile ("Failed to write service environment " ++ path)
    setPermissions path 0o600 ("Failed to set private permissions on " ++ path)

section
variable (L : Libs)

/-- mirrors src/service/linux.rs:197-203 -/
def installUnit (unitEnvPath : Option Str) (options : RuntimeOptions) : EStateM Str Disk Unit := do
  let unit ← ofExcept (buildUnit L (installedBinPath LINUX_SERVICE_NAME) unitEnvPath options)
  write (unitPath LINUX_SERVICE_NAME) unit
    ("Failed to write systemd unit " ++ unitPath LINUX_SERVICE_NAME)
  runSystemctl ["daemon-reload".toList]
  runSystemctl ["enable".toList, LINUX_SERVICE_NAME]
  runSystemctl ["start".toList, LINUX_SERVICE_NAME]

/-- mirrors src/service/linux.rs:175-203 -/
def installService (options : RuntimeOptions) : EStateM Str Disk Unit := do
  let envFile ← ofExcept (buildEnvFile options)
  installEnvFile envPath envFile
  installUnit L (envFile.map fun _ => envPath) options

/-- mirrors src/service/linux.rs:142-211 -/
def install (options : RuntimeOptions) : EStateM Str Disk Unit := do
  ofExcept ((Config.fromRuntimeOptions L options).map fun _ => ())
  installBinary (installedBinPath LINUX_SERVICE_NAME)
  installService L options

/-- The files after an installation that began with some, and all before. -/
def installed (options : RuntimeOptions) (outside : Outside) (fs : FileSystem) : Disk :=
  finalState (install L options (Disk.start outside fs))

end

/-- A file from which both credentials can be read. -/
def HoldsCredentials (options : RuntimeOptions) (f : File) : Prop := ∃ username password,
  options.username = some username ∧ options.password = some password ∧ username ≠ [] ∧ password ≠ [] ∧
    environmentFile f.content =
      some [("PROXY_USERNAME".toList, username), ("PROXY_PASSWORD".toList, password)]

/-- The installation comes to write credentials, if no effect fails: the options are
accepted, there is a file to be installed, and neither credential is missing, empty
or would end its line. -/
structure WritesCredentials (L : Libs) (fs : FileSystem) (options : RuntimeOptions) : Prop where
  accepted : ∃ cfg, Config.fromRuntimeOptions L options = .ok cfg
  program : ∃ exe, (fs exe).isSome = true
  credentials : ∃ username password, options.username = some username ∧ options.password = some password ∧
    username ≠ [] ∧ password ≠ [] ∧ ¬ EndsLine username ∧ ¬ EndsLine password

/-- The same, or two that are not empty. -/
def SameUnlessSet (a b : Option Str) : Prop :=
  a = b ∨ ∃ x y, a = some x ∧ b = some y ∧ x ≠ [] ∧ y ≠ []

/-- Options that differ at most in what their credentials are, where these are not empty. -/
def DifferInCredentials (options options' : RuntimeOptions) : Prop :=
  options' = { options with username := options'.username, password := options'.password } ∧
    SameUnlessSet options.username options'.username ∧ SameUnlessSet options.password options'.password

/-! ## The environment file all along -/

theorem envPath_apart :
    envPath ≠ installedBinPath LINUX_SERVICE_NAME ∧ envPath ≠ unitPath LINUX_SERVICE_NAME := by decide

section
variable {L : Libs} {options : RuntimeOptions} {P : Option File → Prop}

theorem keeps_runSystemctl {Q : FileSystem → FileSystem → Prop} (hQ : Frame Q) (args : List Str) :
    Keeps (Along Q) (runSystemctl args) := by
  unfold runSystemctl
  refine Keeps.bind (along_frame hQ) (keeps_status hQ _) fun exit => ?_
  cases exit with
  | success => exact Keeps.pure (along_frame hQ) ()
  | failure status => exact Keeps.throw (along_frame hQ) _
  | notRun => exact Keeps.throw (along_frame hQ) _

/-- What is done before and after the environment file leaves it alone. -/
theorem keeps_installBinary : Keeps (Along (Lasts envPath P))
    (installBinary (installedBinPath LINUX_SERVICE_NAME)) := by
  have hQ := lasts_frame envPath P
  have hR := along_frame hQ
  unfold installBinary copyBinary
  refine Keeps.bind hR (keeps_currentExe hQ _) fun exe => ?_
  refine Keeps.bind hR (keeps_createDirAll hQ _ _) fun _ => ?_
  refine Keeps.bind hR (Keeps.bind hR (keeps_isSameFile hQ _ _) fun same => ?_) fun _ => ?_
  · refine Keeps.ite (Keeps.pure hR ()) ?_
    exact keeps_copy hQ (fun fs f => lasts_set_other envPath_apart.1 fs f) _ _
  · exact keeps_setPermissions hQ (fun fs f _ => lasts_set_other envPath_apart.1 fs _) _

theorem keeps_installUnit (unitEnvPath : Option Str) :
    Keeps (Along (Lasts envPath P)) (installUnit L unitEnvPath options) := by
  have hQ := lasts_frame envPath P
  have hR := along_frame hQ
  unfold installUnit
  refine Keeps.bind hR (Keeps.ofExcept hR _) fun unit => ?_
  refine Keeps.bind hR (keeps_write hQ (fun fs c => lasts_set_other envPath_apart.2 fs _) _ _) fun _ => ?_
  refine Keeps.bind hR (keeps_runSystemctl hQ _) fun _ => ?_
  exact Keeps.bind hR (keeps_runSystemctl hQ _) fun _ => keeps_runSystemctl hQ _

theorem keeps_installService (henv : ∀ text, buildEnvFile options = .ok (some text) →
      Keeps (Along (Lasts envPath P)) (installEnvFile envPath (some text))) :
    Keeps (Along (Lasts envPath P)) (installService L options) := by
  have hR := along_frame (lasts_frame envPath P)
  unfold installService
  cases hb : buildEnvFile options with
  | error e => exact Keeps.throw hR e
  | ok envFile =>
    rw [ofExcept_ok_bind]
    refine Keeps.bind hR ?_ fun _ => keeps_installUnit _
    cases envFile with
    | none => exact Keeps.pure hR ()
    | some text => exact henv text hb

/-- Where the binary was installed, there was one. -/
theorem installBinary_ok {installedBin : Str} {d d' : Disk} (h : installBinary installedBin d = .ok () d') :
    ∃ exe, (d.fs exe).isSome = true := by
  obtain ⟨exe, d₁, hexe, h⟩ := bind_eq_ok.1 h
  obtain ⟨_, d₂, hdir, h⟩ := bind_eq_ok.1 h
  obtain ⟨_, d₃, hcopy, -⟩ := bind_eq_ok.1 h
  obtain ⟨same, d₄, hsame, hcopy⟩ := bind_eq_ok.1 hcopy
  have h₁ : d₁ = d := by
    unfold currentExe at hexe
    split at hexe <;> cases hexe
    rfl
  have h₂ : d₂ = d₁ := by
    unfold createDirAll at hdir
    split at hdir <;> cases hdir
    rfl
  subst h₂ h₁
  cases hsame
  split at hcopy
  · rename_i hs
    exact ⟨installedBin, (Bool.and_eq_true_iff.1 hs).1⟩
  · unfold copy at hcopy
    split at hcopy
    · rename_i f hf
      exact ⟨exe, Option.isSome_of_eq_some hf⟩
    · cases hcopy

/-- What lasts while the environment file is written lasts all along. -/
theorem lasts_installed {outside : Outside} {fs : FileSystem} (hfs : P (fs envPath))
    (henv : ∀ text cfg exe, Config.fromRuntimeOptions L options = .ok cfg → (fs exe).isSome = true →
      buildEnvFile options = .ok (some text) →
        Keeps (Along (Lasts envPath P)) (installEnvFile envPath (some text))) :
    ∀ fs' ∈ (installed L options outside fs).states, P (fs' envPath) := by
  have hstart : ∀ fs' ∈ (Disk.start outside fs).states, P (fs' envPath) :=
    List.forall_mem_singleton.2 hfs
  refine Along.forall_states ?_ hstart
  have hR := along_frame (lasts_frame envPath P)
  unfold installed install
  refine Frame.bind hR (Keeps.ofExcept hR _ _) fun _ d hcfg => ?_
  cases hc : Config.fromRuntimeOptions L options with
  | error e =>
    rw [hc] at hcfg
    cases hcfg
  | ok cfg =>
    rw [hc] at hcfg
    cases hcfg
    refine Frame.bind hR (keeps_installBinary _) fun _ d hbin => ?_
    obtain ⟨exe, hexe⟩ := installBinary_ok hbin
    exact keeps_installService (fun text => henv text cfg exe hc hexe) d

/-- A file that is there, for its owner only. -/
def Owned (f : Option File) : Prop := ∃ g, f = some g ∧ g.mode = 0o600

theorem keeps_installEnvFile {path : Str}
    (hwrite : ∀ f content, P f → P (some { content, mode := f.elim CREATED File.mode }))
    (hset : ∀ f : File, P (some f) → P (some { f with mode := 0o600 })) (text : Str) :
    Keeps (Along (Lasts path P)) (installEnvFile path (some text)) := by
  have hQ := lasts_frame path P
  have hR := along_frame hQ
  refine Keeps.bind hR (keeps_createDirAll hQ _ _) fun _ => ?_
  refine Keeps.bind hR (keeps_write hQ (fun fs content => lasts_set (hwrite _ content)) _ _) fun _ => ?_
  exact keeps_setPermissions hQ (fun fs f hf => lasts_set fun h => hset f (hf ▸ h)) _

theorem keeps_installEnvFile_owned (path text : Str) :
    Keeps (Along (Lasts path Owned)) (installEnvFile path (some text)) := by
  refine keeps_installEnvFile ?_ (fun f _ => ⟨_, rfl, rfl⟩) text
  intro _ content h
  obtain ⟨g, rfl, hm⟩ := h
  exact ⟨_, rfl, hm⟩

theorem buildEnvFile_some {text : Str} (h : buildEnvFile options = .ok (some text)) : ∃ username password,
    options.username = some username ∧ options.password = some password ∧
      ¬ EndsLine username ∧ ¬ EndsLine password ∧ text = unlines (envLines username password) := by
  cases hu : options.username with
  | none =>
    unfold buildEnvFile at h
    rw [hu] at h
    cases h
  | some username =>
    cases hp : options.password with
    | none =>
      unfold buildEnvFile at h
      rw [hu, hp] at h
      cases h
    | some password =>
      by_cases hl : EndsLine username ∨ EndsLine password
      · obtain ⟨message, he⟩ := buildEnvFile_error hu hp hl
        cases he.symm.trans h
      · have hlu : ¬ EndsLine username := fun he => hl (.inl he)
        have hlp : ¬ EndsLine password := fun he => hl (.inr he)
        cases (buildEnvFile_ok hu hp hlu hlp).symm.trans h
        exact ⟨username, password, rfl, rfl, hlu, hlp, rfl⟩

/-- Where the file was there before, or nothing is written to it, it is private. -/
theorem private_of_kept {outside : Outside} {fs : FileSystem}
    (hfs : ∀ f, fs envPath = some f → f.mode = 0o600)
    (h : (fs envPath).isSome = true ∨ ¬ WritesCredentials L fs options) :
    ∀ fs' ∈ (installed L options outside fs).states, ∀ f, fs' envPath = some f →
      HoldsCredentials options f → f.Private := by
  intro fs' hfs' f hf hholds
  by_cases hsome : (fs envPath).isSome = true
  · obtain ⟨g, hg⟩ := Option.isSome_iff_exists.1 hsome
    have howned : Owned (fs envPath) := ⟨g, hg, hfs g hg⟩
    have hall := @lasts_installed L options Owned outside fs howned fun text _ _ _ _ _ =>
      keeps_installEnvFile_owned _ text
    obtain ⟨g', hg', hm⟩ := hall fs' hfs'
    cases hf.symm.trans hg'
    unfold File.Private
    rw [hm]
    rfl
  · have hnone : fs envPath = none := Option.not_isSome_iff_eq_none.1 hsome
    obtain ⟨u, p, hu, hp, hune, hpne, -⟩ := hholds
    have hall := @lasts_installed L options (· = none) outside fs hnone fun text cfg exe hcfg hexe htext => by
      obtain ⟨u', p', hu', hp', hlu, hlp, -⟩ := buildEnvFile_some htext
      cases hu.symm.trans hu'
      cases hp.symm.trans hp'
      refine absurd ?_ (h.resolve_left hsome)
      exact ⟨⟨cfg, hcfg⟩, ⟨exe, hexe⟩, ⟨u, p, hu, hp, hune, hpne, hlu, hlp⟩⟩
    cases hf.symm.trans (hall fs' hfs')

/-! ## The file before it is private -/

theorem installBinary_calm {exe installedBin : Str} {d : Disk} (ho : d.outside = .calm exe)
    (hexe : (d.fs exe).isSome = true) : ∃ d', installBinary installedBin d = .ok () d' := by
  obtain ⟨d', hcopy, ho', hthere⟩ : ∃ d', copyBinary exe installedBin d = .ok () d' ∧
      d'.outside = .calm exe ∧ (d'.fs installedBin).isSome = true := by
    unfold copyBinary
    rw [bind_of_ok (show isSameFile exe installedBin d = .ok _ d from rfl)]
    split
    · rename_i hs
      exact ⟨d, rfl, ho, (Bool.and_eq_true_iff.1 hs).1⟩
    · obtain ⟨f, hf⟩ := Option.isSome_iff_exists.1 hexe
      exact ⟨_, copy_calm ho hf .., ho, Option.isSome_of_eq_some (d.fs.set_self installedBin _)⟩
  obtain ⟨g, hg⟩ := Option.isSome_iff_exists.1 hthere
  unfold installBinary
  rw [bind_of_ok (currentExe_calm ho _), bind_of_ok (createDirAll_calm ho ..), bind_of_ok hcopy]
  exact setPermissions_calm ho' hg ..

/-- Between its creation and the change of its mode, a new file can be read. -/
theorem install_exposes {fs : FileSystem} {exe username password : Str} {cfg : Config}
    (hnone : fs envPath = none) (hexe : (fs exe).isSome = true)
    (hcfg : Config.fromRuntimeOptions L options = .ok cfg)
    (hu : options.username = some username) (hp : options.password = some password)
    (hlu : ¬ EndsLine username) (hlp : ¬ EndsLine password) :
    ∃ fs' ∈ (installed L options (.calm exe) fs).states, fs' envPath =
      some { content := unlines (envLines username password), mode := CREATED } := by
  have hQ := lasts_frame envPath fun _ => True
  obtain ⟨d, hbin⟩ : ∃ d, installBinary (installedBinPath LINUX_SERVICE_NAME)
    (Disk.start (.calm exe) fs) = .ok () d := installBinary_calm rfl hexe
  have hkept := keeps_installBinary (P := fun f => f = none) (Disk.start (.calm exe) fs)
  rw [hbin] at hkept
  have hd : d.fs envPath = none := hkept.reached hnone
  have ho : d.outside = .calm exe := hkept.outside
  have hwrite : ∀ text e : Str, write envPath text e d = .ok () (d.store envPath text CREATED) := by
    intro text e
    unfold write
    rw [hd]
    exact storeFile_calm ho ..
  refine ⟨d.fs.set envPath {
    content := unlines (envLines username password)
    mode := CREATED }, ?_, FileSystem.set_self ..⟩
  unfold installed install installService
  rw [hcfg, Except.map, ofExcept_ok_bind, bind_of_ok hbin, buildEnvFile_ok hu hp hlu hlp, ofExcept_ok_bind]
  refine mem_states_bind (fun _ => keeps_installUnit (P := fun _ => True) _) ?_
  rw [installEnvFile, bind_of_ok (createDirAll_calm ho ..)]
  refine mem_states_bind (fun _ => keeps_setPermissions hQ (fun _ _ _ _ => trivial) _) ?_
  rw [hwrite]
  exact List.mem_append_right _ (.head _)

end

/-! ## What does not depend on the credentials -/

theorem SameUnlessSet.isSome {a b : Option Str} (h : SameUnlessSet a b) : a.isSome = b.isSome := by
  rcases h with rfl | ⟨x, y, rfl, rfl, -, -⟩ <;> rfl

theorem SameUnlessSet.isSome_filter {a b : Option Str} (h : SameUnlessSet a b) :
    (a.filter fun value => !value.isEmpty).isSome = (b.filter fun value => !value.isEmpty).isSome := by
  rcases h with rfl | ⟨x, y, rfl, rfl, hx, hy⟩
  · rfl
  · cases x with
    | nil => exact absurd rfl hx
    | cons =>
      cases y with
      | nil => exact absurd rfl hy
      | cons => rfl

section
variable {L : Libs} {options options' : RuntimeOptions}

theorem accepted_congr (h : DifferInCredentials options options') :
    (Config.fromRuntimeOptions L options).map (fun _ => ()) =
      (Config.fromRuntimeOptions L options').map fun _ => () := by
  obtain ⟨he, hu, hp⟩ := h
  have hv : ∀ nets, (options.config nets).validate = (options'.config nets).validate := by
    intro nets
    rw [he]
    exact validate_congr rfl rfl hu.isSome_filter hp.isSome_filter
  have hb : options'.bypassIps = options.bypassIps := by rw [he]
  rw [fromRuntimeOptions_eq, fromRuntimeOptions_eq, hb]
  cases parseAllowlistEntries L options.bypassIps with
  | error e => rfl
  | ok nets =>
    rw [ok_bind, ok_bind, hv nets]
    cases (options'.config nets).validate <;> rfl

theorem linuxServiceArgs_congr (h : DifferInCredentials options options') :
    linuxServiceArgs L options = linuxServiceArgs L options' := by
  have haccepted := accepted_congr (L := L) h
  obtain ⟨he, -, -⟩ := h
  unfold linuxServiceArgs serviceArgs
  cases hc : Config.fromRuntimeOptions L options <;> cases hc' : Config.fromRuntimeOptions L options' <;>
    rw [hc, hc'] at haccepted <;> cases haccepted
  · rfl
  · rw [ok_bind, ok_bind, he]

/-- The unit does not tell the credentials. -/
theorem buildUnit_congr (h : DifferInCredentials options options') (installedBin : Str)
    (envFile : Option Str) : buildUnit L installedBin envFile options = buildUnit L installedBin envFile options' := by
  unfold buildUnit
  rw [linuxServiceArgs_congr h, h.2.1.isSome]

theorem buildEnvFile_isSome {envFile : Option Str} (h : buildEnvFile options = .ok envFile) :
    envFile.isSome = (options.username.isSome && options.password.isSome) := by
  unfold buildEnvFile at h
  cases hu : options.username with
  | none =>
    rw [hu] at h
    cases h
    rfl
  | some username =>
    cases hp : options.password with
    | none =>
      rw [hu, hp] at h
      cases h
      rfl
    | some password =>
      rw [hu, hp] at h
      obtain ⟨_, -, h⟩ := except_bind_eq_ok.1 h
      obtain ⟨_, -, h⟩ := except_bind_eq_ok.1 h
      cases h
      rfl

theorem inStep_runSystemctl (path : Str) (args : List Str) :
    InStep (AlikeBut path) (runSystemctl args) (runSystemctl args) := by
  unfold runSystemctl
  refine InStep.bind (inStep_status _) fun exit => ?_
  cases exit with
  | success => exact InStep.pure ()
  | failure status => exact InStep.throw _
  | notRun => exact InStep.throw _

theorem inStep_installUnit (h : DifferInCredentials options options') (path : Str)
    (unitEnvPath : Option Str) :
    InStep (AlikeBut path) (installUnit L unitEnvPath options) (installUnit L unitEnvPath options') := by
  unfold installUnit
  rw [buildUnit_congr h]
  refine InStep.bind (InStep.ofExcept _) fun unit => ?_
  refine InStep.bind (inStep_write (fun _ => rfl) _) fun _ => ?_
  refine InStep.bind (inStep_runSystemctl path _) fun _ => ?_
  exact InStep.bind (inStep_runSystemctl path _) fun _ => inStep_runSystemctl path _

/-- Two environment files are written in the same way. -/
theorem inStep_installEnvFile (path : Str) {envFile envFile' : Option Str}
    (h : envFile.isSome = envFile'.isSome) :
    InStep (AlikeBut path) (installEnvFile path envFile) (installEnvFile path envFile') := by
  cases envFile with
  | none =>
    rw [Option.not_isSome_iff_eq_none.1 (ne_true_of_eq_false h.symm)]
    exact InStep.pure ()
  | some text =>
    obtain ⟨text', rfl⟩ := Option.isSome_iff_exists.1 h.symm
    refine InStep.bind (inStep_createDirAll _ _) fun _ => ?_
    refine InStep.bind (inStep_write (fun hp => absurd rfl hp) _) fun _ => ?_
    exact inStep_setPermissions _ _ _

/-- Where one environment file cannot be built, the other run goes on alone. -/
theorem sameElsewhere_installService (h : DifferInCredentials options options') (d : Disk) :
    SameElsewhere envPath (finalState (installService L options d))
      (finalState (installService L options' d)) := by
  have halike := alikeBut_refl envPath d
  have hgrow : ∀ options, Along (Lasts envPath fun _ => True) d
      (finalState (installService L options d)) := fun options =>
    keeps_installService (fun text _ => keeps_installEnvFile (fun _ _ => id) (fun _ => id) text) d
  cases hb : buildEnvFile options with
  | error e =>
    have hstop : finalState (installService L options d) = d := by
      unfold installService
      rw [hb]
      rfl
    rw [hstop]
    exact halike.sameElsewhere (hgrow options').isPrefix
  | ok envFile =>
    cases hb' : buildEnvFile options' with
    | error e =>
      have hstop : finalState (installService L options' d) = d := by
        unfold installService
        rw [hb']
        rfl
      rw [hstop]
      exact (halike.sameElsewhere (hgrow options).isPrefix).symm
    | ok envFile' =>
      have hsome : envFile.isSome = envFile'.isSome := by
        rw [buildEnvFile_isSome hb, buildEnvFile_isSome hb', h.2.1.isSome, h.2.2.isSome]
      have hpath : (envFile'.map fun _ => envPath) = envFile.map fun _ => envPath := by
        cases envFile <;> cases envFile' <;> first | rfl | cases hsome
      unfold installService
      rw [hb, hb', ofExcept_ok_bind, ofExcept_ok_bind, hpath]
      have hstep := InStep.bind (inStep_installEnvFile envPath hsome) fun _ =>
        inStep_installUnit (L := L) h envPath (envFile.map fun _ => envPath)
      exact hstep.ends (fun hs => hs.sameElsewhere List.prefix_rfl) d d halike

/-- No other file depends on what the credentials are. -/
theorem sameElsewhere_installed (h : DifferInCredentials options options') (outside : Outside)
    (fs : FileSystem) :
    SameElsewhere envPath (installed L options outside fs) (installed L options' outside fs) := by
  have hstop : ∀ {d d' : Disk}, d = d' → SameElsewhere envPath d d' :=
    fun he => he ▸ (alikeBut_refl _ _).sameElsewhere List.prefix_rfl
  unfold installed install
  rw [accepted_congr h]
  refine Ends.bind (InStep.same _) hstop (fun _ => ?_) _ _ rfl
  refine Ends.bind (InStep.same _) hstop fun _ => ?_
  intro d _ heq
  subst heq
  exact sameElsewhere_installService h d

/-- **Credentials are private during an installation exactly if the environment file
was there before, or no credentials come to be written to it.** Whatever the effects
meet, in every state of the files, after a failure too. A new file is created with a
mode that lets others read, and holds the credentials before its mode is changed. No
other file tells anything of them, in either case. -/
theorem credentials_private_iff (L : Libs) (options : RuntimeOptions) (fs : FileSystem)
    (hfs : ∀ f, fs envPath = some f → f.mode = 0o600) :
    ((∀ outside, ∀ fs' ∈ (installed L options outside fs).states, ∀ f,
        fs' envPath = some f → HoldsCredentials options f → f.Private) ∧
      ∀ outside options', DifferInCredentials options options' →
        SameElsewhere envPath (installed L options outside fs) (installed L options' outside fs)) ↔
    (fs envPath).isSome = true ∨ ¬ WritesCredentials L fs options := by
  constructor
  · intro h
    obtain ⟨hprivate, -⟩ := h
    by_contra hcond
    obtain ⟨hnone, hwrites⟩ := not_or.1 hcond
    obtain ⟨⟨cfg, hcfg⟩, ⟨exe, hexe⟩, u, p, hu, hp, hune, hpne, hlu, hlp⟩ := not_not.1 hwrites
    obtain ⟨fs', hm, hf⟩ := install_exposes (Option.not_isSome_iff_eq_none.1 hnone) hexe hcfg hu hp hlu hlp
    have hholds : HoldsCredentials options { content := unlines (envLines u p), mode := CREATED } :=
      ⟨u, p, hu, hp, hune, hpne, environmentFile_envLines hlu hlp⟩
    have hmode : CREATED &&& 0o077 = 0 := hprivate _ fs' hm _ hf hholds
    exact absurd hmode (by decide)
  · intro hcond
    refine ⟨fun outside => private_of_kept hfs hcond, fun outside options' hd => ?_⟩
    exact sameElsewhere_installed hd outside fs

/-- A system on which nothing but the program's own file is there. -/
def freshSystem : FileSystem := fun p =>
  if p = "/root/tinysocks".toList then some { content := "the program", mode := 0o755 } else none

theorem credentials_private_iff_fresh :
    ((∀ outside, ∀ fs' ∈ (installed plainLibs sampleOptions outside freshSystem).states, ∀ f,
        fs' envPath = some f → HoldsCredentials sampleOptions f → f.Private) ∧
      ∀ outside options', DifferInCredentials sampleOptions options' →
        SameElsewhere envPath (installed plainLibs sampleOptions outside freshSystem)
          (installed plainLibs options' outside freshSystem)) ↔
    (freshSystem envPath).isSome = true ∨
      ¬ WritesCredentials plainLibs freshSystem sampleOptions :=
  credentials_private_iff plainLibs sampleOptions freshSystem fun _ hf => by cases hf

/-- An installation on a fresh system that is killed once the environment file is
written leaves it for everyone to read, with both credentials. -/
theorem install_leaves_readable :
    ∃ fs' ∈ (installed plainLibs sampleOptions (.calm "/root/tinysocks") freshSystem).states, ∃ f,
      fs' envPath = some f ∧
      f.content = "PROXY_USERNAME=\"admin\"\nPROXY_PASSWORD=\"secret\"\n".toList ∧ f.mode = 0o644 ∧
      HoldsCredentials sampleOptions f ∧ ¬ f.Private := by
  have hlu : ¬ EndsLine "admin" := by decide
  have hlp : ¬ EndsLine "secret" := by decide
  obtain ⟨fs', hm, hf⟩ := @install_exposes plainLibs sampleOptions freshSystem "/root/tinysocks" _ _ _
    rfl rfl rfl rfl rfl hlu hlp
  have hholds : HoldsCredentials sampleOptions
      { content := unlines (envLines "admin" "secret"), mode := CREATED } :=
    ⟨_, _, rfl, rfl, by decide, by decide, environmentFile_envLines hlu hlp⟩
  exact ⟨fs', hm, _, hf, by decide, rfl, hholds, by decide⟩

end

end TinySocks.L6
