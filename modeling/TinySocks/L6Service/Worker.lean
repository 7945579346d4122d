import TinySocks.Core.Watch
import TinySocks.L5Concurrency.Shutdown

/-!
# The Windows service worker (`service/windows.rs`)

The worker registers a control handler with the service manager, reports that it runs,
builds its runtime and runs the proxy on it; when the proxy returns, it drops the
runtime, and reports that it stopped. The manager's controls come whenever it pleases;
a Stop goes to the proxy through a watch channel.

Calls that leave the process (to the manager, for the runtime, of the listener) succeed
or fail as their labels say. Dropping the runtime returns once every task is gone, which
is what the runtime promises.

A step is one of the cases of `Worker.Stepped`, and `Worker.Sound` is what all of them keep.
-/
namespace TinySocks.L6

open TinySocks.Core TinySocks.L1 TinySocks.L2 TinySocks.L3 TinySocks.L4 TinySocks.L5

/-! ## The worker -/

inductive ServiceControl where
  | stop
  | interrogate
  | other
  deriving DecidableEq, Repr

inductive ServiceControlHandlerResult where
  | noError
  | notImplemented
  deriving DecidableEq, Repr

inductive ServiceState where
  | running
  | stopped
  deriving DecidableEq, Repr

inductive ServiceExitCode where
  | noError
  | serviceSpecific (code : Nat)
  deriving DecidableEq, Repr

/-- The fields the two reports differ in. -/
structure ServiceStatus where
  currentState : ServiceState
  controlsAccepted : List ServiceControl
  exitCode : ServiceExitCode
  deriving DecidableEq, Repr

/-- mirrors src/service/windows.rs:243-252 -/
def eventHandler (shutdown : Watch Bool) :
    ServiceControl → Watch Bool × ServiceControlHandlerResult
  | .stop => (shutdown.send true, .noError)
  | .interrogate => (shutdown, .noError)
  | .other => (shutdown, .notImplemented)

/-- mirrors src/service/windows.rs:256-264 -/
def runningStatus : ServiceStatus where
  currentState := .running
  controlsAccepted := [.stop]
  exitCode := .noError

/-- mirrors src/service/windows.rs:280-284 -/
def exitCode : Except Str Unit → ServiceExitCode
  | .ok _ => .noError
  | .error _ => .serviceSpecific 1

/-- mirrors src/service/windows.rs:286-294 -/
def stoppedStatus (serverResult : Except Str Unit) : ServiceStatus where
  currentState := .stopped
  controlsAccepted := []
  exitCode := exitCode serverResult

/-- mirrors src/service/windows.rs:273-274 -/
def serviceServer (L : Libs) (options : RuntimeOptions) : Except Str ProxyServer := do
  let cfg ← Config.fromRuntimeOptions L options
  ProxyServer.new cfg

/-- How the worker returned, or where. -/
inductive Exit where
  | unregistered
  | unannounced
  | unbuilt
  | unclosed (result : Except Str Unit)
  | closed (result : Except Str Unit)

inductive Phase where
  | registering
  | announcing
  | building
  | configuring
  | serving
  | dropping (result : Except Str Unit)
  | closing (result : Except Str Unit)
  | ended (exit : Exit)

/-- The worker, and what the manager was told. -/
structure Worker where
  phase : Phase := .registering
  shutdown : Watch Bool := { value := false }
  call : Call := { state := { permits := 0 } }
  reports : List ServiceStatus := []

inductive Label where
  /-- the manager calls the handler -/
  | control (control : ServiceControl)
  | register (ok : Bool)
  | announce (ok : Bool)
  | build (ok : Bool)
  | configure
  /-- the proxy, or one of its tasks -/
  | server (e : Event)
  /-- the proxy's result is there, and the runtime is being dropped -/
  | returned
  | cancel (i : Nat)
  | dropped
  | close (ok : Bool)

section
variable (L : Libs) (config : Except Str ProxyServer) (listener : HttpListener)

/-- mirrors src/service/windows.rs:220-297 -/
def Worker.step (w : Worker) (l : Label) : Option Worker :=
  match w.phase, l with
  | .registering, .register true => some { w with phase := .announcing }
  | .registering, .register false => some { w with phase := .ended .unregistered }
  | .registering, .control _ => none
  | _, .control control => some { w with shutdown := (eventHandler w.shutdown control).1 }
  | .announcing, .announce true =>
    some { w with phase := .building, reports := w.reports ++ [runningStatus] }
  | .announcing, .announce false => some { w with phase := .ended .unannounced }
  | .building, .build true => some { w with phase := .configuring }
  | .building, .build false => some { w with phase := .ended .unbuilt }
  | .configuring, .configure =>
    match config with
    | .ok self => some { w with
        phase := .serving
        call := { state := { permits := self.maxConnections } } }
    | .error e => some { w with phase := .dropping (.error e), shutdown := w.shutdown.close }
  | .serving, .server .changed => do
    let self ← config.toOption
    let shutdown ← w.shutdown.changed
    let call ← w.call.step L listener self .changed
    some { w with shutdown, call }
  | .serving, .server e => do
    let self ← config.toOption
    let call ← w.call.step L listener self e
    some { w with call }
  | .serving, .returned =>
    match w.call.loop with
    | .returned result => some { w with phase := .dropping result, shutdown := w.shutdown.close }
    | _ => none
  | .dropping _, .server (.task i act) => do
    let self ← config.toOption
    let call ← w.call.step L listener self (.task i act)
    some { w with call }
  | .dropping _, .cancel i => do
    let self ← config.toOption
    let call ← w.call.cancel self i
    some { w with call }
  | .dropping result, .dropped =>
    if w.call.state.held = 0 then some { w with phase := .closing result } else none
  | .closing result, .close true => some { w with
      phase := .ended (.closed result)
      reports := w.reports ++ [stoppedStatus result] }
  | .closing result, .close false => some { w with phase := .ended (.unclosed result) }
  | _, _ => none

/-- mirrors src/service/windows.rs:220-297 -/
def worker : LTS Worker Label := .ofFn (· = {}) (Worker.step L config listener)

end

section
variable {L : Libs} {config : Except Str ProxyServer} {listener : HttpListener} {w w' : Worker}
  {l : Label}

/-! ## What a step is -/

theorem toOption_eq_some {self : ProxyServer} (h : config.toOption = some self) : config = .ok self := by
  cases config with
  | error e => cases h
  | ok server =>
    cases h
    rfl

/-- Where the worker returns early, and how. -/
inductive Phase.GivesUp : Phase → Label → Exit → Prop
  | unregistered : GivesUp .registering (.register false) .unregistered
  | unannounced : GivesUp .announcing (.announce false) .unannounced
  | unbuilt : GivesUp .building (.build false) .unbuilt
  | unclosed (result : Except Str Unit) : GivesUp (.closing result) (.close false) (.unclosed result)

inductive Worker.Stepped (L : Libs) (config : Except Str ProxyServer) (listener : HttpListener)
    (w : Worker) : Label → Worker → Prop
  | control (control : ServiceControl) (h : w.phase ≠ .registering) : Stepped L config listener w
      (.control control) { w with shutdown := (eventHandler w.shutdown control).1 }
  | registered (h : w.phase = .registering) :
      Stepped L config listener w (.register true) { w with phase := .announcing }
  | announced (h : w.phase = .announcing) : Stepped L config listener w (.announce true)
      { w with phase := .building, reports := w.reports ++ [runningStatus] }
  | built (h : w.phase = .building) :
      Stepped L config listener w (.build true) { w with phase := .configuring }
  | gaveUp {l : Label} {exit : Exit} (h : w.phase.GivesUp l exit) :
      Stepped L config listener w l { w with phase := .ended exit }
  | configured (self : ProxyServer) (h : w.phase = .configuring) (hc : config = .ok self) :
      Stepped L config listener w .configure
        { w with phase := .serving, call := { state := { permits := self.maxConnections } } }
  | misconfigured (e : Str) (h : w.phase = .configuring) (hc : config = .error e) :
      Stepped L config listener w .configure
        { w with phase := .dropping (.error e), shutdown := w.shutdown.close }
  | told (self : ProxyServer) (shutdown : Watch Bool) (call : Call) (h : w.phase = .serving)
      (hc : config = .ok self) (hs : w.shutdown.changed = some shutdown)
      (hcall : w.call.step L listener self .changed = some call) :
      Stepped L config listener w (.server .changed) { w with shutdown, call }
  | served (self : ProxyServer) (e : Event) (call : Call) (h : w.phase = .serving)
      (hc : config = .ok self) (he : e ≠ .changed) (hcall : w.call.step L listener self e = some call) :
      Stepped L config listener w (.server e) { w with call }
  | returned (result : Except Str Unit) (h : w.phase = .serving) (hl : w.call.loop = .returned result) :
      Stepped L config listener w .returned
        { w with phase := .dropping result, shutdown := w.shutdown.close }
  | task (self : ProxyServer) (i : Nat) (act : Act) (call : Call) (result : Except Str Unit)
      (h : w.phase = .dropping result) (hc : config = .ok self)
      (hcall : w.call.step L listener self (.task i act) = some call) :
      Stepped L config listener w (.server (.task i act)) { w with call }
  | cancelled (self : ProxyServer) (i : Nat) (call : Call) (result : Except Str Unit)
      (h : w.phase = .dropping result) (hc : config = .ok self)
      (hcall : w.call.cancel self i = some call) :
      Stepped L config listener w (.cancel i) { w with call }
  | dropped (result : Except Str Unit) (h : w.phase = .dropping result)
      (hheld : w.call.state.held = 0) :
      Stepped L config listener w .dropped { w with phase := .closing result }
  | closed (result : Except Str Unit) (h : w.phase = .closing result) :
      Stepped L config listener w (.close true)
        { w with phase := .ended (.closed result), reports := w.reports ++ [stoppedStatus result] }

theorem Worker.step_stepped (h : w.step L config listener l = some w') :
    w.Stepped L config listener l w' := by
  unfold Worker.step at h
  split at h
  · rename_i hp
    cases h
    exact .registered hp
  · rename_i hp
    cases h
    exact .gaveUp (hp ▸ .unregistered)
  · cases h
  · rename_i hp
    cases h
    exact .control _ hp
  · rename_i hp
    cases h
    exact .announced hp
  · rename_i hp
    cases h
    exact .gaveUp (hp ▸ .unannounced)
  · rename_i hp
    cases h
    exact .built hp
  · rename_i hp
    cases h
    exact .gaveUp (hp ▸ .unbuilt)
  · rename_i hp
    split at h
    · cases h
      exact .configured _ hp rfl
    · cases h
      exact .misconfigured _ hp rfl
  · rename_i hp
    obtain ⟨self, hc, h⟩ := Option.bind_eq_some_iff.1 h
    obtain ⟨shutdown, hs, h⟩ := Option.bind_eq_some_iff.1 h
    obtain ⟨call, hcall, h⟩ := Option.bind_eq_some_iff.1 h
    cases h
    exact .told self shutdown call hp (toOption_eq_some hc) hs hcall
  · rename_i hne hp
    obtain ⟨self, hc, h⟩ := Option.bind_eq_some_iff.1 h
    obtain ⟨call, hcall, h⟩ := Option.bind_eq_some_iff.1 h
    cases h
    exact .served self _ call hp (toOption_eq_some hc) hne hcall
  · rename_i hp
    split at h
    · rename_i hl
      cases h
      exact .returned _ hp hl
    · cases h
  · rename_i hp
    obtain ⟨self, hc, h⟩ := Option.bind_eq_some_iff.1 h
    obtain ⟨call, hcall, h⟩ := Option.bind_eq_some_iff.1 h
    cases h
    exact .task self _ _ call _ hp (toOption_eq_some hc) hcall
  · rename_i hp
    obtain ⟨self, hc, h⟩ := Option.bind_eq_some_iff.1 h
    obtain ⟨call, hcall, h⟩ := Option.bind_eq_some_iff.1 h
    cases h
    exact .cancelled self _ call _ hp (toOption_eq_some hc) hcall
  · rename_i hp
    split at h
    · rename_i hheld
      cases h
      exact .dropped _ hp hheld
    · cases h
  · rename_i hp
    cases h
    exact .closed _ hp
  · rename_i hp
    cases h
    exact .gaveUp (hp ▸ .unclosed _)
  · cases h

/-! ## Where the worker is -/

/-- A Stop would still reach the proxy. -/
def Worker.awaits (w : Worker) : Bool :=
  match w.phase with
  | .registering | .announcing | .building | .configuring => true
  | .serving => !w.call.loop.over
  | _ => false

/-- The proxy's tasks may be there. -/
def Phase.onRuntime : Phase → Bool
  | .serving | .dropping _ => true
  | _ => false

/-- The proxy was called. -/
def Phase.called : Phase → Bool
  | .serving | .dropping _ | .closing _ | .ended (.unclosed _) | .ended (.closed _) => true
  | _ => false

/-- What the manager was told so far. -/
def Phase.reports : Phase → List ServiceStatus
  | .registering | .announcing | .ended .unregistered | .ended .unannounced => []
  | .ended (.closed result) => [runningStatus, stoppedStatus result]
  | _ => [runningStatus]

/-- The proxy's result, once the worker has it. -/
def Phase.result : Phase → Option (Except Str Unit)
  | .dropping result | .closing result | .ended (.unclosed result) | .ended (.closed result) => some result
  | _ => none

/-- What holds of a worker at every moment. -/
structure Worker.Sound (config : Except Str ProxyServer) (w : Worker) : Prop where
  receiver : w.awaits = true → w.shutdown.Waiting
  configured : w.phase = .serving ∨ w.call.state.held ≠ 0 → ∃ self, config = .ok self
  held : w.phase.onRuntime = false → w.call.state.held = 0
  reports : w.reports = w.phase.reports

/-- As long as the proxy would hear of it, only the handler touches the channel. -/
theorem Worker.Stepped.channel {P : Watch Bool → Prop} (hsend : ∀ {s}, P s → P (s.send true))
    (h : w.Stepped L config listener l w') (hw : w.awaits = true → P w.shutdown) :
    w'.awaits = true → P w'.shutdown := by
  cases h with
  | control control hp =>
    intro ha
    cases control with
    | stop => exact hsend (hw ha)
    | interrogate => exact hw ha
    | other => exact hw ha
  | registered hp => exact fun _ => hw (by simp [Worker.awaits, hp])
  | announced hp => exact fun _ => hw (by simp [Worker.awaits, hp])
  | built hp => exact fun _ => hw (by simp [Worker.awaits, hp])
  | gaveUp hp => exact nofun
  | configured self hp hc => exact fun _ => hw (by simp [Worker.awaits, hp])
  | misconfigured e hp hc => exact nofun
  | told self shutdown call hp hc hs hcall =>
    obtain ⟨-, rfl⟩ := Call.step_changed hcall
    simp [Worker.awaits, hp, Loop.over]
  | served self e call hp hc he hcall =>
    intro ha
    have hover : call.loop.over = false := by simpa [Worker.awaits, hp] using ha
    exact hw (by simp [Worker.awaits, hp, Call.step_over hcall hover])
  | returned result hp hl => exact nofun
  | task self i act call result hp hc hcall => simp [Worker.awaits, hp]
  | cancelled self i call result hp hc hcall => simp [Worker.awaits, hp]
  | dropped result hp hheld => exact nofun
  | closed result hp => exact nofun

theorem Worker.Stepped.reports (h : w.Stepped L config listener l w') (hw : w.reports = w.phase.reports) :
    w'.reports = w'.phase.reports := by
  cases h with
  | control control hp => exact hw
  | registered hp => simpa [hp, Phase.reports] using hw
  | announced hp => simpa [hp, Phase.reports] using hw
  | built hp => simpa [hp, Phase.reports] using hw
  | gaveUp hp =>
    rw [hw]
    cases hphase : w.phase <;> rw [hphase] at hp <;> cases hp <;> rfl
  | configured self hp hc => simpa [hp, Phase.reports] using hw
  | misconfigured e hp hc => simpa [hp, Phase.reports] using hw
  | told self shutdown call hp hc hs hcall => exact hw
  | served self e call hp hc he hcall => exact hw
  | returned result hp hl => simpa [hp, Phase.reports] using hw
  | task self i act call result hp hc hcall => exact hw
  | cancelled self i call result hp hc hcall => exact hw
  | dropped result hp hheld => simpa [hp, Phase.reports] using hw
  | closed result hp =>
    rw [hw, hp]
    rfl

/-- There is a configuration as long as there is a proxy, and no task elsewhere. -/
theorem Worker.Stepped.held (h : w.Stepped L config listener l w')
    (hconf : w.phase = .serving ∨ w.call.state.held ≠ 0 → ∃ self, config = .ok self)
    (hheld : w.phase.onRuntime = false → w.call.state.held = 0) :
    (w'.phase = .serving ∨ w'.call.state.held ≠ 0 → ∃ self, config = .ok self) ∧
      (w'.phase.onRuntime = false → w'.call.state.held = 0) := by
  cases h with
  | control control hp => exact ⟨hconf, hheld⟩
  | registered hp => exact ⟨fun h => hconf (h.imp nofun id), fun _ => hheld (by rw [hp]; rfl)⟩
  | announced hp => exact ⟨fun h => hconf (h.imp nofun id), fun _ => hheld (by rw [hp]; rfl)⟩
  | built hp => exact ⟨fun h => hconf (h.imp nofun id), fun _ => hheld (by rw [hp]; rfl)⟩
  | gaveUp hp =>
    refine ⟨fun h => hconf (h.imp nofun id), fun _ => hheld ?_⟩
    cases hphase : w.phase <;> rw [hphase] at hp <;> cases hp <;> rfl
  | configured self hp hc => exact ⟨fun _ => ⟨self, hc⟩, nofun⟩
  | misconfigured e hp hc => exact ⟨fun h => hconf (h.imp nofun id), nofun⟩
  | told self shutdown call hp hc hs hcall => exact ⟨fun _ => ⟨self, hc⟩, by simp [hp, Phase.onRuntime]⟩
  | served self e call hp hc he hcall => exact ⟨fun _ => ⟨self, hc⟩, by simp [hp, Phase.onRuntime]⟩
  | returned result hp hl => exact ⟨fun _ => hconf (.inl hp), nofun⟩
  | task self i act call result hp hc hcall =>
    exact ⟨fun _ => ⟨self, hc⟩, by simp [hp, Phase.onRuntime]⟩
  | cancelled self i call result hp hc hcall =>
    exact ⟨fun _ => ⟨self, hc⟩, by simp [hp, Phase.onRuntime]⟩
  | dropped result hp hidle => exact ⟨fun h => hconf (h.imp nofun id), fun _ => hidle⟩
  | closed result hp => exact ⟨fun h => hconf (h.imp nofun id), fun _ => hheld (by rw [hp]; rfl)⟩

/-- What holds of the proxy from its call on, with tasks that go on and tasks that are dropped. -/
theorem Worker.Stepped.call {P : Call → Prop} {self : ProxyServer} (hc : config = .ok self)
    (hinit : P { state := { permits := self.maxConnections } })
    (hstep : ∀ {c e c'}, P c → Call.step L listener self c e = some c' → P c')
    (hcancel : ∀ {c i c'}, P c → Call.cancel self c i = some c' → P c')
    (h : w.Stepped L config listener l w') (hw : w.phase.called = true → P w.call) :
    w'.phase.called = true → P w'.call := by
  have hself : ∀ {server}, config = .ok server → server = self := by
    intro server hs
    cases hs.symm.trans hc
    rfl
  cases h with
  | control control hp => exact hw
  | registered hp => exact nofun
  | announced hp => exact nofun
  | built hp => exact nofun
  | gaveUp hp =>
    intro hcalled
    refine hw ?_
    cases hphase : w.phase <;> rw [hphase] at hp <;> cases hp <;> first | rfl | cases hcalled
  | configured server hp hs =>
    cases hself hs
    exact fun _ => hinit
  | misconfigured e hp he => cases he.symm.trans hc
  | told server shutdown call hp hs hchanged hcall =>
    cases hself hs
    exact fun _ => hstep (hw (by rw [hp]; rfl)) hcall
  | served server e call hp hs he hcall =>
    cases hself hs
    exact fun _ => hstep (hw (by rw [hp]; rfl)) hcall
  | returned result hp hl => exact fun _ => hw (by rw [hp]; rfl)
  | task server i act call result hp hs hcall =>
    cases hself hs
    exact fun _ => hstep (hw (by rw [hp]; rfl)) hcall
  | cancelled server i call result hp hs hcall =>
    cases hself hs
    exact fun _ => hcancel (hw (by rw [hp]; rfl)) hcall
  | dropped result hp hidle => exact fun _ => hw (by rw [hp]; rfl)
  | closed result hp => exact fun _ => hw (by rw [hp]; rfl)

theorem Worker.sound_inductive : (worker L config listener).Inductive (Worker.Sound config) where
  init := by
    intro w hw
    cases hw
    refine ⟨fun _ => ⟨0, rfl, Nat.le_refl 0⟩, fun h => ?_, fun _ => rfl, rfl⟩
    rcases h with h | h
    · cases h
    · exact absurd rfl h
  step := by
    intro w l w' hw hstep
    have hs := Worker.step_stepped hstep
    obtain ⟨hconf, hheld⟩ := hs.held hw.configured hw.held
    exact ⟨hs.channel (fun h => (h.send true).waiting) hw.receiver, hconf, hheld, hs.reports hw.reports⟩

end
end TinySocks.L6
