import TinySocks.L6Service.Worker

/-!
# What the service manager may count on

The manager starts the worker of `service/windows.rs` and stops it, when it pleases. For
every run of it, with any clients and any interleaving with their tasks:

* `stop_honoured`: a Stop is not lost, whenever it comes: a proxy that listens can hear
  of it, the worker is never stuck after it and comes to its end, and does no more than
  what it had to do and its clients bring.
* `reports_honest`: the manager is told the truth. "Stopped" comes last, when nothing
  is left, and its exit code says why.
* `service_tallied`: what the counters say, and what dropping the tasks leaves in them.
-/
namespace TinySocks.L6

open TinySocks.Core TinySocks.L1 TinySocks.L2 TinySocks.L3 TinySocks.L4 TinySocks.L5

/-- A step of the worker or the proxy, not of the manager. -/
def Label.own : Label → Bool
  | .control _ => false
  | _ => true

/-- A step that needs neither the manager nor a client, nor a handler that returns, and in
which nothing fails. -/
def Label.quiet : Label → Bool
  | .register ok | .announce ok | .build ok | .close ok => ok
  | .configure | .returned | .cancel _ | .dropped => true
  | .server .bound | .server .changed | .server (.task _ .release) => true
  | .server _ | .control _ => false

/-- The steps from here on, apart from the proxy's. -/
def Phase.work : Phase → Nat
  | .registering => 9
  | .announcing => 8
  | .building => 7
  | .configuring => 6
  | .serving => 3
  | .dropping _ => 2
  | .closing _ => 1
  | .ended _ => 0

section
variable (L : Libs) (config : Except Str ProxyServer) (listener : HttpListener)

/-- What is left to do for the proxy and its tasks. -/
def Phase.workOf (phase : Phase) (call : Call) : Nat :=
  match config, phase.onRuntime with
  | .ok self, true => call.work L listener self
  | _, _ => 0

def Worker.work (w : Worker) : Nat := w.phase.work + w.phase.workOf L config listener w.call

/-- What a client brings. -/
def Label.load : Label → Nat
  | .server e =>
    match config with
    | .ok self => e.load L listener self
    | .error _ => 0
  | _ => 0

/-- A worker that was told to stop. -/
structure StopHonoured (w : Worker) : Prop where
  /-- whatever happens, it takes no more steps than it has work, and its clients bring -/
  bounded : ∀ {ls w'}, (worker L config listener).Run w ls w' →
    ls.countP Label.own + w'.work L config listener ≤
      w.work L config listener + ls.foldr (fun l n => l.load L config listener + n) 0
  /-- a proxy that listens can hear of the Stop, and returns then -/
  heard : ∀ {ls w'}, (worker L config listener).Run w ls w' → w'.phase = .serving →
    w'.call.loop = .listening → ∃ shutdown, (worker L config listener).step w' (.server .changed)
      { w' with shutdown, call := { w'.call with loop := .returned (.ok ()) } }
  /-- until it has ended, it waits for nobody -/
  next : ∀ {ls w'}, (worker L config listener).Run w ls w' → (∀ exit, w'.phase ≠ .ended exit) →
    ∃ l w'', l.quiet = true ∧ (worker L config listener).step w' l w''
  /-- and so it can always come to its end -/
  ends : ∃ ls w', (worker L config listener).Run w ls w' ∧ (∀ l ∈ ls, l.quiet = true) ∧
    ∃ exit, w'.phase = .ended exit

end

section
variable {L : Libs} {config : Except Str ProxyServer} {listener : HttpListener} {w w' : Worker}
  {l : Label}

/-! ## A Stop is not lost -/

/-- Once the handler was told to stop, a proxy that is still to return finds it. -/
theorem stop_pending {ls : List Label} (hrun : (worker L config listener).Run w ls w')
    (hw : w.Sound config) (hstop : Label.control .stop ∈ ls) :
    w'.awaits = true → w'.shutdown.Pending := by
  induction hrun with
  | nil => cases hstop
  | @cons a b c l ls first rest ih =>
    have hb : b.Sound config := Worker.sound_inductive.step _ _ _ hw first
    rcases List.mem_cons.1 hstop with rfl | hstop
    · have hpending : b.awaits = true → b.shutdown.Pending := by
        cases Worker.step_stepped first with
        | control control hp => exact fun ha => (hw.receiver ha).send true
        | gaveUp hp => exact nofun
      have hI : ∀ s l s', (s.awaits = true → s.shutdown.Pending) →
          (worker L config listener).step s l s' → s'.awaits = true → s'.shutdown.Pending :=
        fun s l s' hs hstep => (Worker.step_stepped hstep).channel (fun h => h.waiting.send true) hs
      exact rest.keeps hI hpending
    · exact ih hb hstop

theorem Worker.work_on {self : ProxyServer} (hc : config = .ok self) (hw : w.phase.onRuntime = true) :
    w.work L config listener = w.phase.work + w.call.work L listener self := by
  simp [Worker.work, Phase.workOf, hc, hw]

theorem Worker.work_off (hw : w.phase.onRuntime = false) : w.work L config listener = w.phase.work := by
  simp [Worker.work, Phase.workOf, hw]

theorem Worker.work_misconfigured {e : Str} (hc : config = .error e) :
    w.work L config listener = w.phase.work := by
  simp [Worker.work, Phase.workOf, hc]

/-- Every step of its own does a piece of the work, and only a client brings more. -/
theorem Worker.Stepped.work (h : w.Stepped L config listener l w') :
    l.own.toNat + w'.work L config listener ≤ w.work L config listener + l.load L config listener := by
  cases h with
  | control control hp => simp [Label.own, Worker.work]
  | registered hp =>
    rw [Worker.work_off (w := w) (by rw [hp]; rfl), Worker.work_off rfl, hp]
    simp [Phase.work, Label.own]
  | announced hp =>
    rw [Worker.work_off (w := w) (by rw [hp]; rfl), Worker.work_off rfl, hp]
    simp [Phase.work, Label.own]
  | built hp =>
    rw [Worker.work_off (w := w) (by rw [hp]; rfl), Worker.work_off rfl, hp]
    simp [Phase.work, Label.own]
  | gaveUp hp =>
    have hown := Bool.toNat_le l.own
    have hpositive : 1 ≤ w.phase.work := by
      cases hphase : w.phase <;> rw [hphase] at hp <;> cases hp <;> simp [Phase.work]
    rw [Worker.work_off (L := L) rfl]
    simp only [Worker.work, Phase.work] at hpositive ⊢
    omega
  | configured self hp hc =>
    rw [Worker.work_off (w := w) (by rw [hp]; rfl), Worker.work_on hc rfl, hp]
    simp [Phase.work, Label.own, Call.work, State.work, Loop.work]
  | misconfigured e hp hc =>
    rw [Worker.work_misconfigured hc, Worker.work_misconfigured hc, hp]
    simp [Phase.work, Label.own]
    omega
  | told self shutdown call hp hc hs hcall =>
    have hwork := Call.step_work hcall
    have hon : w.phase.onRuntime = true := by rw [hp]; rfl
    rw [Worker.work_on hc hon, Worker.work_on hc (by exact hon)]
    simp only [Label.own, Label.load, hc, Bool.toNat_true]
    omega
  | served self e call hp hc he hcall =>
    have hwork := Call.step_work hcall
    have hon : w.phase.onRuntime = true := by rw [hp]; rfl
    rw [Worker.work_on hc hon, Worker.work_on hc (by exact hon)]
    simp only [Label.own, Label.load, hc, Bool.toNat_true]
    omega
  | returned result hp hl =>
    cases hc : config with
    | ok self =>
      rw [Worker.work_on (w := w) rfl (by rw [hp]; rfl), Worker.work_on rfl rfl, hp]
      simp only [Phase.work, Label.own, Bool.toNat_true]
      omega
    | error e =>
      rw [Worker.work_misconfigured rfl, Worker.work_misconfigured rfl, hp]
      simp [Phase.work, Label.own]
  | task self i act call result hp hc hcall =>
    have hwork := Call.step_work hcall
    have hon : w.phase.onRuntime = true := by rw [hp]; rfl
    rw [Worker.work_on hc hon, Worker.work_on hc (by exact hon)]
    simp only [Label.own, Label.load, hc, Bool.toNat_true]
    omega
  | cancelled self i call result hp hc hcall =>
    have hwork := @Call.cancel_work L listener self _ _ _ hcall
    have hon : w.phase.onRuntime = true := by rw [hp]; rfl
    rw [Worker.work_on hc hon, Worker.work_on hc (by exact hon)]
    simp only [Label.own, Bool.toNat_true]
    omega
  | dropped result hp hidle =>
    rw [Worker.work_off (L := L) rfl, Worker.work, hp]
    simp only [Phase.work, Label.own, Bool.toNat_true]
    omega
  | closed result hp =>
    rw [Worker.work_off (w := w) (by rw [hp]; rfl), Worker.work_off rfl, hp]
    simp [Phase.work, Label.own]

theorem Label.quiet_costs (hl : l.quiet = true) : l.own = true ∧ l.load L config listener = 0 := by
  cases l with
  | control control => cases hl
  | server e =>
    refine ⟨rfl, ?_⟩
    cases config with
    | error e => rfl
    | ok self => cases e <;> first | rfl | cases hl
  | _ => exact ⟨rfl, rfl⟩

/-- What a proxy that listens does about a Stop. -/
theorem Worker.Sound.heard (hw : w.Sound config) (hstop : w.awaits = true → w.shutdown.Pending)
    (hphase : w.phase = .serving) (hloop : w.call.loop = .listening) :
    ∃ shutdown, (worker L config listener).step w (.server .changed)
      { w with shutdown, call := { w.call with loop := .returned (.ok ()) } } := by
  obtain ⟨self, rfl⟩ := hw.configured (.inl hphase)
  have hawaits : w.awaits = true := by simp [Worker.awaits, hphase, hloop, Loop.over]
  obtain ⟨shutdown, hs⟩ := (hstop hawaits).changed
  refine ⟨shutdown, ?_⟩
  simp [worker, LTS.ofFn, Worker.step, Except.toOption, hphase, hloop, hs, Call.step]

/-- A task that is still there can be dropped, or has its permit to give back. -/
theorem Worker.Sound.drops {result : Except Str Unit} (hw : w.Sound config)
    (hphase : w.phase = .dropping result) (hheld : w.call.state.held ≠ 0) :
    ∃ l w', l.quiet = true ∧ (worker L config listener).step w l w' := by
  obtain ⟨self, rfl⟩ := hw.configured (.inr hheld)
  obtain ⟨t, ht, hholds⟩ := List.countP_pos_iff.1 (Nat.pos_of_ne_zero hheld)
  obtain ⟨i, hget⟩ := List.getElem?_of_mem ht
  cases hcancel : t.cancel with
  | some dropped =>
    have hnext : (Worker.step L (.ok self) listener w (.cancel i)).isSome = true := by
      simp [Worker.step, Except.toOption, hphase, Call.cancel, hget, hcancel]
    obtain ⟨w', hw'⟩ := Option.isSome_iff_exists.1 hnext
    exact ⟨.cancel i, w', rfl, hw'⟩
  | none =>
    obtain ⟨protocol, rfl⟩ : ∃ protocol, t = .unguarded protocol := by
      cases t with
      | unguarded protocol => exact ⟨protocol, rfl⟩
      | ended protocol => cases hholds
      | _ => cases hcancel
    have hnext : (Worker.step L (.ok self) listener w (.server (.task i .release))).isSome = true := by
      have hstep : (L5.step L listener self w.call.state (.task i .release)).isSome = true := by
        simp [L5.step, hget, Task.step]
      obtain ⟨s', hs'⟩ := Option.isSome_iff_exists.1 hstep
      simp [Worker.step, Except.toOption, hphase, Call.goes_on hs']
    obtain ⟨w', hw'⟩ := Option.isSome_iff_exists.1 hnext
    exact ⟨.server (.task i .release), w', rfl, hw'⟩

/-- A worker that has not ended, and whose proxy finds the Stop, can go on. -/
theorem Worker.Sound.next (hw : w.Sound config) (hstop : w.awaits = true → w.shutdown.Pending)
    (hend : ∀ exit, w.phase ≠ .ended exit) :
    ∃ l w', l.quiet = true ∧ (worker L config listener).step w l w' := by
  have hheard := @Worker.Sound.heard L config listener w hw hstop
  have hdrops := fun result => @Worker.Sound.drops L config listener w result hw
  obtain ⟨phase, shutdown, call, reports⟩ := w
  cases phase with
  | registering => exact ⟨.register true, _, rfl, rfl⟩
  | announcing => exact ⟨.announce true, _, rfl, rfl⟩
  | building => exact ⟨.build true, _, rfl, rfl⟩
  | configuring =>
    cases config with
    | ok self => exact ⟨.configure, _, rfl, rfl⟩
    | error e => exact ⟨.configure, _, rfl, rfl⟩
  | serving =>
    obtain ⟨self, rfl⟩ := hw.configured (.inl rfl)
    obtain ⟨loop, state, orphans⟩ := call
    cases loop with
    | binding => exact ⟨.server .bound, _, rfl, rfl⟩
    | listening =>
      obtain ⟨shutdown', hs⟩ := hheard rfl rfl
      exact ⟨.server .changed, _, rfl, hs⟩
    | returned result => exact ⟨.returned, _, rfl, rfl⟩
  | dropping result =>
    by_cases hidle : call.state.held = 0
    · refine ⟨.dropped, ⟨.closing result, shutdown, call, reports⟩, rfl, ?_⟩
      simp [worker, LTS.ofFn, Worker.step, hidle]
    · exact hdrops result rfl hidle
  | closing result => exact ⟨.close true, _, rfl, rfl⟩
  | ended exit => exact absurd rfl (hend exit)

end

/-- **A Stop is honoured**, whenever the manager sends it: while the worker still starts,
while the proxy serves, or later, and again. Whatever its clients do, and whether or not
their handlers return, the worker is never stuck after it. -/
theorem stop_honoured (L : Libs) (options : RuntimeOptions) (listener : HttpListener) {ls : List Label}
    {w : Worker} (hrun : (worker L (serviceServer L options) listener).Run {} ls w)
    (hstop : .control .stop ∈ ls) : StopHonoured L (serviceServer L options) listener w := by
  have hsound : ∀ {ls w}, (worker L (serviceServer L options) listener).Run {} ls w →
      w.Sound (serviceServer L options) := fun h => Worker.sound_inductive.reachable _ ⟨_, _, rfl, h⟩
  have hwork : ∀ {w l w'}, (worker L (serviceServer L options) listener).step w l w' →
      l.own.toNat + w'.work L (serviceServer L options) listener ≤
        w.work L (serviceServer L options) listener + l.load L (serviceServer L options) listener :=
    fun hstep => (Worker.step_stepped hstep).work
  have hpending : ∀ {ms w'}, (worker L (serviceServer L options) listener).Run w ms w' →
      w'.awaits = true → w'.shutdown.Pending := fun {ms w'} h =>
    stop_pending (hrun.append h) (hsound (.nil _)) (List.mem_append_left ms hstop)
  have hnext : ∀ {ms w'}, (worker L (serviceServer L options) listener).Run w ms w' →
      (∀ exit, w'.phase ≠ .ended exit) →
      ∃ l w'', l.quiet = true ∧ (worker L (serviceServer L options) listener).step w' l w'' :=
    fun h hend => (hsound (hrun.append h)).next (hpending h) hend
  refine ⟨fun h => h.budget hwork, fun h => (hsound (hrun.append h)).heard (hpending h), hnext, ?_⟩
  refine @LTS.drains _ _ _ (fun w => w.work L (serviceServer L options) listener) _ _
    (fun {v l v'} hl hstep => ?_) _ fun h hend => hnext h fun exit he => hend ⟨exit, he⟩
  obtain ⟨hown, hload⟩ := @Label.quiet_costs L (serviceServer L options) listener l hl
  have := hwork hstep
  rw [hown, hload, Bool.toNat_true] at this
  omega

/-- A service for one client. -/
def smallService : RuntimeOptions := ⟨"127.0.0.1:1080", 1, false, some "admin", some "pw", []⟩

/-- The manager stops it before it said that it runs. -/
theorem stop_honoured_starting :
    ∃ w, w.phase = .announcing ∧
      StopHonoured plainLibs (serviceServer plainLibs smallService) ⟨1080, "v"⟩ w := by
  have hrun : ∃ w, (worker plainLibs (serviceServer plainLibs smallService) ⟨1080, "v"⟩).Run {}
      [.register true, .control .stop] w ∧ w.phase = .announcing :=
    ⟨_, .cons rfl (.cons rfl (.nil _)), rfl⟩
  obtain ⟨w, hrun, hphase⟩ := hrun
  exact ⟨w, hphase, stop_honoured plainLibs smallService _ hrun (by simp)⟩

/-- A client is accepted, and the service stopped before its task was polled. -/
def shortLife (c : Connection) : List Label :=
  [.register true, .announce true, .build true, .configure, .server .bound, .server (.accepted c),
    .control .stop, .server .changed, .returned, .cancel 0, .dropped, .close true]

theorem shortLife_run (c : Connection) : ∃ w,
    (worker plainLibs (serviceServer plainLibs smallService) ⟨1080, "v"⟩).Run {} (shortLife c) w ∧
      w.phase.called = true ∧ w.reports = [runningStatus, stoppedStatus (.ok ())] ∧
      w.call.state.counters.activeConnections = 1 :=
  ⟨_, .cons rfl (.cons rfl (.cons rfl (.cons rfl (.cons rfl (.cons rfl (.cons rfl (.cons rfl (.cons rfl
    (.cons rfl (.cons rfl (.cons rfl (.nil _)))))))))))), rfl, rfl, rfl⟩

/-- A client that asks for a connection. -/
def shortClient : Connection := ⟨.new (.v4 (.fill 4 [10, 0, 0, 1])) 5000, .calm [] [], [5, 1, 0]⟩

/-! ## The manager is told the truth -/

/-- Why the proxy returned what it did. -/
inductive Cause (config : Except Str ProxyServer) (ls : List Label) : Except Str Unit → Prop
  /-- it was listening, and it was told to stop -/
  | stopped (hstop : .control .stop ∈ ls) (hbound : .server .bound ∈ ls) : Cause config ls (.ok ())
  | failed (self : ProxyServer) (event : Event) (e : Str) (hc : config = .ok self)
      (hevent : .server event ∈ ls) (he : event.failure self = some e) : Cause config ls (.error e)
  | misconfigured (e : Str) (hc : config = .error e) : Cause config ls (.error e)

/-- Where a call is, is explained by what led to it. -/
structure CallExplained (config : Except Str ProxyServer) (ls : List Label) (c : Call) : Prop where
  bound : c.loop = .listening → .server .bound ∈ ls
  returned : ∀ result, c.loop = .returned result → Cause config ls result

/-- What made the worker give up. -/
def Exit.failure : Exit → Option Label
  | .unregistered => some (.register false)
  | .unannounced => some (.announce false)
  | .unbuilt => some (.build false)
  | .unclosed _ => some (.close false)
  | .closed _ => none

/-- And where a worker is. -/
structure Worker.Explained (config : Except Str ProxyServer) (ls : List Label) (w : Worker) : Prop where
  untold : Label.control .stop ∉ ls → w.shutdown.Current
  call : CallExplained config ls w.call
  result : ∀ result, w.phase.result = some result → Cause config ls result
  gaveUp : ∀ exit, w.phase = .ended exit → ∀ l, exit.failure = some l → l ∈ ls

section
variable {L : Libs} {config : Except Str ProxyServer} {listener : HttpListener} {w w' : Worker}
  {l : Label} {ls : List Label}

theorem Cause.later {result : Except Str Unit} (h : Cause config ls result) (l : Label) :
    Cause config (ls ++ [l]) result := by
  cases h with
  | stopped hstop hbound =>
    exact .stopped (List.mem_append_left _ hstop) (List.mem_append_left _ hbound)
  | failed self event e hc hevent he => exact .failed self event e hc (List.mem_append_left _ hevent) he
  | misconfigured e hc => exact .misconfigured e hc

theorem CallExplained.later {c : Call} (h : CallExplained config ls c) (l : Label) :
    CallExplained config (ls ++ [l]) c :=
  ⟨fun hl => List.mem_append_left _ (h.bound hl), fun result hr => (h.returned result hr).later l⟩

theorem CallExplained.step {self : ProxyServer} (hc : config = .ok self) {c c' : Call} {e : Event}
    (h : CallExplained config ls c) (hstep : c.step L listener self e = some c')
    (hstop : e = .changed → .control .stop ∈ ls) : CallExplained config (ls ++ [.server e]) c' := by
  have hlast : Label.server e ∈ ls ++ [.server e] := List.mem_append_right _ (List.mem_singleton.2 rfl)
  have hlater := h.later (.server e)
  rcases Call.step_cases hstep with ⟨-, rfl, rfl⟩ | ⟨text, hfail, -, rfl⟩ | ⟨client, -, -, rfl⟩ |
    ⟨hloop, rfl, rfl⟩ | ⟨i, act, s, -, -, rfl⟩
  · exact ⟨fun _ => hlast, nofun⟩
  · refine ⟨nofun, fun result hr => ?_⟩
    cases hr
    exact .failed self e text hc hlast hfail
  · exact ⟨hlater.bound, hlater.returned⟩
  · refine ⟨nofun, fun result hr => ?_⟩
    cases hr
    exact .stopped (List.mem_append_left _ (hstop rfl)) (List.mem_append_left _ (h.bound hloop))
  · exact ⟨hlater.bound, hlater.returned⟩

theorem Worker.Explained.step (hw : w.Explained config ls) (h : w.Stepped L config listener l w') :
    w'.Explained config (ls ++ [l]) := by
  have hbefore : Label.control .stop ∉ ls ++ [l] → Label.control .stop ∉ ls :=
    fun hn hmem => hn (List.mem_append_left _ hmem)
  have hcurrent : Label.control .stop ∉ ls ++ [l] → w.shutdown.Current := fun hn => hw.untold (hbefore hn)
  have hcall := hw.call.later l
  have hresult : ∀ result, w.phase.result = some result → Cause config (ls ++ [l]) result :=
    fun result h => (hw.result result h).later l
  have hgave : ∀ exit, w.phase = .ended exit → ∀ l', exit.failure = some l' → l' ∈ ls ++ [l] :=
    fun exit h l' hl' => List.mem_append_left _ (hw.gaveUp exit h l' hl')
  cases h with
  | control control hp =>
    refine ⟨fun hn => ?_, hcall, hresult, hgave⟩
    cases control with
    | stop => exact absurd (List.mem_append_right ls (List.mem_singleton.2 rfl)) hn
    | interrogate => exact hcurrent hn
    | other => exact hcurrent hn
  | registered hp => exact ⟨hcurrent, hcall, nofun, nofun⟩
  | announced hp => exact ⟨hcurrent, hcall, nofun, nofun⟩
  | built hp => exact ⟨hcurrent, hcall, nofun, nofun⟩
  | gaveUp hp =>
    have hlast : ∀ {l : Label}, l ∈ ls ++ [l] := List.mem_append_right _ (List.mem_singleton.2 rfl)
    refine ⟨hcurrent, hcall, fun result hr => ?_, fun exit he l' hl' => ?_⟩
    · cases hphase : w.phase <;> rw [hphase] at hp <;> cases hp <;> cases hr
      exact hresult result (by rw [hphase]; rfl)
    · cases he
      cases hphase : w.phase <;> rw [hphase] at hp <;> cases hp <;> cases hl' <;> exact hlast
  | configured self hp hc => exact ⟨hcurrent, ⟨nofun, nofun⟩, nofun, nofun⟩
  | misconfigured e hp hc =>
    refine ⟨fun _ => w.shutdown.current_close, hcall, fun result hr => ?_, nofun⟩
    cases hr
    exact .misconfigured e hc
  | told self shutdown call hp hc hs hstep =>
    have hstop : Label.control .stop ∈ ls := by
      refine Classical.byContradiction fun hn => ?_
      rw [(hw.untold hn).changed] at hs
      cases hs
    exact ⟨fun hn => absurd hstop (hbefore hn), hw.call.step hc hstep fun _ => hstop, hresult, hgave⟩
  | served self e call hp hc he hstep =>
    exact ⟨hcurrent, hw.call.step hc hstep fun h => absurd h he, hresult, hgave⟩
  | returned result hp hl =>
    refine ⟨fun _ => w.shutdown.current_close, hcall, fun result' hr => ?_, nofun⟩
    cases hr
    exact hcall.returned result hl
  | task self i act call result hp hc hstep =>
    exact ⟨hcurrent, hw.call.step hc hstep nofun, hresult, hgave⟩
  | cancelled self i call result hp hc hcancel =>
    obtain ⟨t, t', ops, -, -, rfl⟩ := Call.cancel_some hcancel
    exact ⟨hcurrent, ⟨hcall.bound, hcall.returned⟩, hresult, hgave⟩
  | dropped result hp hidle =>
    refine ⟨hcurrent, hcall, fun result' hr => hresult result' ?_, nofun⟩
    rw [hp]
    exact hr
  | closed result hp =>
    refine ⟨hcurrent, hcall, fun result' hr => hresult result' ?_, fun exit he l' hl' => ?_⟩
    · rw [hp]
      exact hr
    · cases he
      cases hl'

theorem explained (hrun : (worker L config listener).Run {} ls w) : w.Explained config ls := by
  refine hrun.history (fun _ _ _ _ h hstep => h.step (Worker.step_stepped hstep)) 
    ⟨fun _ => ?_, ⟨?_, ?_⟩, ?_, ?_⟩
  · intro v hv
    cases hv
    rfl
  · exact nofun
  · exact nofun
  · exact nofun
  · exact nofun

theorem balanced (hrun : (worker L config listener).Run {} ls w) {self : ProxyServer}
    (hc : config = .ok self) : w.phase.called = true → w.call.Balanced self := by
  have hI : ∀ w l w', (w.phase.called = true → w.call.Balanced self) →
      (worker L config listener).step w l w' → w'.phase.called = true → w'.call.Balanced self :=
    fun w l w' hw hstep => (Worker.step_stepped hstep).call hc rfl (fun h => h.step) (fun h => h.cancel) hw
  exact hrun.keeps hI nofun

end

/-- What the manager of a worker was told, after a run. -/
structure Honest (config : Except Str ProxyServer) (ls : List Label) (w : Worker) : Prop where
  /-- first that it runs, then that it stopped, and nothing else -/
  order : ∃ result, w.reports <+: [runningStatus, stoppedStatus result]
  /-- and it stopped once every task was gone, with every permit back; its exit code is
  what its proxy returned, for what happened -/
  stopped : ∀ status ∈ w.reports, status.currentState = .stopped → w.call.state.Idle ∧
    (∀ self, config = .ok self → w.call.state.permits = self.maxConnections) ∧
    ∃ result, status.exitCode = exitCode result ∧ Cause config ls result
  /-- it ends in no other way, unless a call to the system failed -/
  silent : ∀ exit, w.phase = .ended exit → (∃ result, w.reports = [runningStatus, stoppedStatus result]) ∨
    ∃ l ∈ ls, l = .register false ∨ l = .announce false ∨ l = .build false ∨ l = .close false

theorem Phase.reports_order (phase : Phase) :
    ∃ result, phase.reports <+: [runningStatus, stoppedStatus result] := by
  unfold Phase.reports
  split
  · exact ⟨.ok (), List.nil_prefix⟩
  · exact ⟨.ok (), List.nil_prefix⟩
  · exact ⟨.ok (), List.nil_prefix⟩
  · exact ⟨.ok (), List.nil_prefix⟩
  · exact ⟨_, List.prefix_refl _⟩
  · exact ⟨.ok (), List.prefix_append [runningStatus] [stoppedStatus (.ok ())]⟩

/-- Only a worker that has closed reported that it stopped. -/
theorem Phase.reports_stopped {phase : Phase} {status : ServiceStatus} (h : status ∈ phase.reports)
    (hstopped : status.currentState = .stopped) :
    ∃ result, phase = .ended (.closed result) ∧ status = stoppedStatus result := by
  unfold Phase.reports at h
  split at h
  · cases h
  · cases h
  · cases h
  · cases h
  · rename_i result
    simp only [List.mem_cons, List.not_mem_nil, or_false] at h
    rcases h with rfl | rfl
    · cases hstopped
    · exact ⟨result, rfl, rfl⟩
  · rw [List.mem_singleton.1 h] at hstopped
    cases hstopped

theorem Exit.failure_or (exit : Exit) : (∃ result, exit = .closed result) ∨
    ∃ l, exit.failure = some l ∧
      (l = .register false ∨ l = .announce false ∨ l = .build false ∨ l = .close false) := by
  cases exit with
  | unregistered => exact .inr ⟨_, rfl, .inl rfl⟩
  | unannounced => exact .inr ⟨_, rfl, .inr (.inl rfl)⟩
  | unbuilt => exact .inr ⟨_, rfl, .inr (.inr (.inl rfl))⟩
  | unclosed result => exact .inr ⟨_, rfl, .inr (.inr (.inr rfl))⟩
  | closed result => exact .inl ⟨result, rfl⟩

/-- **The manager is told the truth**, whatever happens and whenever. -/
theorem reports_honest (L : Libs) (options : RuntimeOptions) (listener : HttpListener) {ls : List Label}
    {w : Worker} (hrun : (worker L (serviceServer L options) listener).Run {} ls w) :
    Honest (serviceServer L options) ls w := by
  have hsound : w.Sound (serviceServer L options) := Worker.sound_inductive.reachable _ ⟨_, _, rfl, hrun⟩
  have hexplained := explained hrun
  refine ⟨?_, fun status hmem hstopped => ?_, fun exit hend => ?_⟩
  · rw [hsound.reports]
    exact w.phase.reports_order
  · rw [hsound.reports] at hmem
    obtain ⟨result, hphase, rfl⟩ := Phase.reports_stopped hmem hstopped
    have hidle := held_idle.1 (hsound.held (by rw [hphase]; rfl))
    refine ⟨hidle, fun self hc => ?_, result, rfl, hexplained.result result (by rw [hphase]; rfl)⟩
    exact (balanced hrun hc (by rw [hphase]; rfl)).idle hidle
  · rcases exit.failure_or with ⟨result, rfl⟩ | ⟨l, hl, hfailed⟩
    · exact .inl ⟨result, by rw [hsound.reports, hend]; rfl⟩
    · exact .inr ⟨l, hexplained.gaveUp exit hend l hl, hfailed⟩

theorem reports_honest_stopped :
    ∃ w, w.reports = [runningStatus, stoppedStatus (.ok ())] ∧
      Honest (serviceServer plainLibs smallService) (shortLife shortClient) w := by
  obtain ⟨w, hrun, -, hreports, -⟩ := shortLife_run shortClient
  exact ⟨w, hreports, reports_honest plainLibs smallService _ hrun⟩

/-! ## The counters -/

/-- What the counters of a service say. -/
structure ServiceTally (L : Libs) (listener : HttpListener) (self : ProxyServer) (w : Worker) : Prop where
  /-- as long as the proxy serves, it is the server, and nothing is dropped -/
  serving : w.phase = .serving → (run L listener self).Reachable w.call.state ∧ w.call.orphans = 0
  /-- from its call to the end, whatever the runtime drops -/
  tally : w.phase.called = true → Tally self w.call

section
variable {L : Libs} {config : Except Str ProxyServer} {listener : HttpListener} {w w' : Worker}
  {l : Label} {ls : List Label} {self : ProxyServer} {options : RuntimeOptions}

theorem Worker.Stepped.reaches (hc : config = .ok self) (h : w.Stepped L config listener l w')
    (hw : w.phase = .serving → (run L listener self).Reachable w.call.state ∧ w.call.orphans = 0) :
    w'.phase = .serving → (run L listener self).Reachable w'.call.state ∧ w'.call.orphans = 0 := by
  have hproxy : ∀ {server e call}, config = .ok server → w.phase = .serving →
      w.call.step L listener server e = some call →
      (run L listener self).Reachable call.state ∧ call.orphans = 0 := by
    intro server e call hs hp hcall
    cases hs.symm.trans hc
    obtain ⟨hreach, hnone⟩ := hw hp
    obtain ⟨hreach', hsame⟩ := Call.step_reaches hcall hreach
    exact ⟨hreach', hsame.trans hnone⟩
  cases h with
  | control control hp => exact hw
  | registered hp => exact nofun
  | announced hp => exact nofun
  | built hp => exact nofun
  | gaveUp hp => exact nofun
  | configured server hp hs =>
    cases hs.symm.trans hc
    exact fun _ => ⟨⟨_, [], rfl, .nil _⟩, rfl⟩
  | misconfigured e hp he => exact nofun
  | told server shutdown call hp hs hchanged hcall => exact fun _ => hproxy hs hp hcall
  | served server e call hp hs he hcall => exact fun _ => hproxy hs hp hcall
  | returned result hp hl => exact nofun
  | task server i act call result hp hs hcall =>
    intro hserving
    cases hp.symm.trans hserving
  | cancelled server i call result hp hs hcall =>
    intro hserving
    cases hp.symm.trans hserving
  | dropped result hp hidle => exact nofun
  | closed result hp => exact nofun

theorem serviceServer_stats (h : serviceServer L options = .ok self) (hstats : options.disableStats = false) :
    self.statsEnabled = true := by
  obtain ⟨cfg, hcfg, hserver⟩ := except_bind_eq_ok.1 h
  obtain ⟨-, -, henabled⟩ := withStats_ok hserver
  obtain ⟨nets, -, rfl, -⟩ := fromRuntimeOptions_iff.1 hcfg
  rw [henabled]
  simp [RuntimeOptions.config, hstats]

end

/-- **The service counts its connections**, from the first to the last, whenever it is
stopped; a task dropped before its first poll is the one thing that is never taken back. -/
theorem service_tallied {L : Libs} {options : RuntimeOptions} {self : ProxyServer}
    (hserver : serviceServer L options = .ok self) (hstats : options.disableStats = false)
    (listener : HttpListener) {ls : List Label} {w : Worker}
    (hrun : (worker L (serviceServer L options) listener).Run {} ls w) :
    ServiceTally L listener self w := by
  have hs := serviceServer_stats hserver hstats
  have htallied : ∀ w l w', (w.phase.called = true → w.call.Tallied self) →
      (worker L (serviceServer L options) listener).step w l w' →
      w'.phase.called = true → w'.call.Tallied self := by
    intro w l w' hw hstep
    exact (Worker.step_stepped hstep).call hserver (Call.tallied_init self) (fun h => h.step hs)
      (fun h => h.cancel hs) hw
  have hreaches : ∀ w l w',
      (w.phase = .serving → (run L listener self).Reachable w.call.state ∧ w.call.orphans = 0) →
      (worker L (serviceServer L options) listener).step w l w' →
      w'.phase = .serving → (run L listener self).Reachable w'.call.state ∧ w'.call.orphans = 0 :=
    fun w l w' hw hstep => (Worker.step_stepped hstep).reaches hserver hw
  exact ⟨hrun.keeps hreaches nofun, fun hcalled => (hrun.keeps htallied nofun hcalled).tally⟩

/-- One connection stays active for ever. -/
theorem service_tallied_orphan :
    ∃ server w, serviceServer plainLibs smallService = .ok server ∧ w.call.state.counters.activeConnections = 1 ∧
      w.phase.called = true ∧ ServiceTally plainLibs ⟨1080, "v"⟩ server w := by
  obtain ⟨w, hrun, hcalled, -, hactive⟩ := shortLife_run shortClient
  exact ⟨_, w, rfl, hactive, hcalled, service_tallied rfl rfl _ hrun⟩

end TinySocks.L6
