import SpicyKvm.Input.Toggle
import SpicyKvm.Ddc.Switch

/-!
# The program: the grab and the display

`main` and the input threads share one thing: `main`'s loop reads
`input_is_grabbed()`, that is `grabbed_keyboard != -1`, on each turn, and
switches the display when it differs from what it saw last. The program is
modelled as the input layer and `main`'s display part side by side, a step
being a step of the input layer or a turn of `main`'s loop, in any
interleaving. `main` initialises the input layer before the display; the two
initialisations touch nothing in common, so the model starts both at once and
lets the devices arrive as steps.

Two facts tie the components together. The display is switched only because
of a release of a grab key or the end of a device's thread: a stretch of the
run without either sends it nothing (`display_switches_only_on_release`).
And the KVM's purpose: from a state where nothing is grabbed, a short release
whose grab succeeds, followed by a turn of `main` that keeps `ddcci_ok`,
sends the display exactly the frame selecting `output_other`
(`short_release_switches_display`).
-/

namespace SpicyKvm

open Input Ddc

/-- `input_is_grabbed` -/
def inputIsGrabbed (s : InputState) : Bool := decide (s.grabbedKeyboard ≠ -1)

/-- The input layer's shared state and what `main` keeps for the display. -/
structure KvmState where
  input : InputState
  main : DdcState

/-- A step of the program. -/
inductive KvmStep
  | input (e : InputStep)
  /-- a turn of `main`'s loop, with what the system returns during it -/
  | poll (env : SwitchEnv)

def kvmStep (cfg : InputConfig) (opts : DdcOpts) (k : KvmState) : KvmStep → Option KvmState
  | .input e => (inputStep cfg k.input e).map fun s => ⟨s, k.main⟩
  | .poll env => some ⟨k.input, ddcStep opts k.main (.poll (inputIsGrabbed k.input) env)⟩

def kvmRun (cfg : InputConfig) (opts : DdcOpts) : KvmState → List KvmStep → Option KvmState
  | k, [] => some k
  | k, e :: es => (kvmStep cfg opts k e).bind fun k' => kvmRun cfg opts k' es

/-- The states of the program, over any interleaving and any results of the
system calls. -/
inductive KvmReach (cfg : InputConfig) (opts : DdcOpts) : KvmState → Prop
  | start {env : SwitchEnv} {ddc : Ddcci} :
      env.openEnv.Valid ⟨[], [], (0, 0)⟩ → KvmReach cfg opts ⟨InputState.init, ddcStart opts env ddc⟩
  | input {k : KvmState} {e : InputStep} {s : InputState} :
      KvmReach cfg opts k → inputStep cfg k.input e = some s → KvmReach cfg opts ⟨s, k.main⟩
  | poll {k : KvmState} {env : SwitchEnv} :
      KvmReach cfg opts k → env.Valid k.main →
      KvmReach cfg opts ⟨k.input, ddcStep opts k.main (.poll (inputIsGrabbed k.input) env)⟩

variable {cfg : InputConfig} {opts : DdcOpts} {k k' : KvmState}

theorem KvmReach.inputReach (h : KvmReach cfg opts k) : InputReach cfg k.input := by
  induction h with
  | start => exact .init
  | input _ hs ih => exact ih.step hs
  | poll _ _ ih => exact ih

theorem KvmReach.ddcReach (h : KvmReach cfg opts k) : DdcReach opts k.main := by
  induction h with
  | start hv => exact .start hv
  | input _ _ ih => exact ih
  | poll _ hv ih => exact ih.poll hv

/-- A concrete run from a reachable state, whose turns of `main` get
environments that are valid in every state, ends in a reachable state. -/
theorem KvmReach.run (h : KvmReach cfg opts k) {es : List KvmStep}
    (hv : ∀ env, KvmStep.poll env ∈ es → ∀ m, env.Valid m) (hrun : kvmRun cfg opts k es = some k') :
    KvmReach cfg opts k' := by
  induction es generalizing k with
  | nil =>
      cases hrun
      exact h
  | cons e es ih =>
      simp only [kvmRun, Option.bind_eq_some] at hrun
      obtain ⟨k₁, h₁, hrun⟩ := hrun
      have hv' : ∀ env, KvmStep.poll env ∈ es → ∀ m, env.Valid m :=
        fun env he => hv env (List.mem_cons_of_mem _ he)
      cases e with
      | input e =>
          simp only [kvmStep, Option.map_eq_some'] at h₁
          obtain ⟨s, hs, rfl⟩ := h₁
          exact ih (h.input hs) hv' hrun
      | poll env =>
          simp only [kvmStep, Option.some.injEq] at h₁
          subst h₁
          exact ih (h.poll (hv env (List.mem_cons_self _ _) _)) hv' hrun

/-! ## Only a release switches the display -/

/-- A step that may move the grabbed keyboard: a release of a grab key, or
the end of a device's thread. -/
def KvmStep.MayRelease (cfg : InputConfig) : KvmStep → Prop
  | .input (.event _ (.key code 0) _ _) => cfg.grabKey code = true
  | .input (.remove _ _) => True
  | _ => False

/-- A turn of `main` that sees the grab it saw last changes nothing. -/
theorem ddcStep_poll_same (opts : DdcOpts) (m : DdcState) (env : SwitchEnv) :
    ddcStep opts m (.poll m.wasGrabbed env) = m := by
  simp [ddcStep]

/-- Any other step keeps `input_is_grabbed()`. -/
theorem inputIsGrabbed_of_not_mayRelease (hr : InputReach cfg k.input) {e : InputStep}
    {s : InputState} (hs : inputStep cfg k.input e = some s) (he : ¬(KvmStep.input e).MayRelease cfg) :
    inputIsGrabbed s = inputIsGrabbed k.input := by
  cases (grabSound_of_reach hr).grabMove hs with
  | keep hk _ => simp [inputIsGrabbed, hk]
  | toggle hg _ _ _ => exact absurd hg he
  | autoGrab _ _ _ hk _ => simp [inputIsGrabbed, hk]
  | release _ _ _ => exact absurd trivial he

/-- **Only a release switches the display.** From any reachable state of the
program where `main` has seen the current grab state, a stretch of the run, in
any interleaving and with any results of the system calls, that holds no
release of a grab key and no end of a device's thread keeps
`input_is_grabbed()` and sends the display nothing. -/
theorem display_switches_only_on_release (hr : KvmReach cfg opts k)
    (hc : k.main.wasGrabbed = inputIsGrabbed k.input) {es : List KvmStep}
    (hrun : kvmRun cfg opts k es = some k') (hno : ∀ e ∈ es, ¬e.MayRelease cfg) :
    inputIsGrabbed k'.input = inputIsGrabbed k.input ∧ k'.main.sys.written = k.main.sys.written := by
  induction es generalizing k with
  | nil =>
      cases hrun
      exact ⟨rfl, rfl⟩
  | cons e es ih =>
      simp only [kvmRun, Option.bind_eq_some] at hrun
      obtain ⟨k₁, h₁, hrun⟩ := hrun
      have hno' : ∀ e ∈ es, ¬e.MayRelease cfg := fun e he => hno e (List.mem_cons_of_mem _ he)
      cases e with
      | input e =>
          simp only [kvmStep, Option.map_eq_some'] at h₁
          obtain ⟨s, hs, rfl⟩ := h₁
          have hg := inputIsGrabbed_of_not_mayRelease hr.inputReach hs (hno _ (List.mem_cons_self _ _))
          obtain ⟨h₂, h₃⟩ := ih (hr.input hs) (hc.trans hg.symm) hrun hno'
          exact ⟨h₂.trans hg, h₃⟩
      | poll env =>
          simp only [kvmStep, Option.some.injEq] at h₁
          subst h₁
          rw [← hc, ddcStep_poll_same] at hrun
          exact ih hr hc hrun hno'

/-- A keyboard takes the grab and the display is switched; then, with the grab
key held, a key and a mouse move are sent and `main` takes a turn: the grab
and the display stay as they were. -/
theorem display_switches_only_on_release_while_held :
    let k₀ : KvmState := ⟨InputState.init, ddcStart DdcOpts.main SwitchEnv.bus6 ⟨0, 0⟩⟩
    let grab : List KvmStep :=
      [.input (.add .tracked), .input (.add .tracked), .input (.event 0 (.key 97 1) ⟨1, 0⟩ true),
        .input (.event 0 (.key 97 0) ⟨1, 100000⟩ true), .poll SwitchEnv.answering]
    let stretch : List KvmStep :=
      [.input (.event 0 (.key 30 1) ⟨2, 0⟩ true), .input (.event 1 (.rel .x 5) ⟨2, 1000⟩ true),
        .input (.event 0 (.key 97 1) ⟨3, 0⟩ true), .input (.event 0 (.key 30 0) ⟨3, 1000⟩ true),
        .poll SwitchEnv.answering]
    ∃ k k', kvmRun InputConfig.sample DdcOpts.main k₀ grab = some k ∧
      kvmRun InputConfig.sample DdcOpts.main k stretch = some k' ∧
      inputIsGrabbed k.input = true ∧ k.main.sys.written ≠ [] ∧
      inputIsGrabbed k'.input = inputIsGrabbed k.input ∧ k'.main.sys.written = k.main.sys.written := by
  intro k₀ grab stretch
  have h₁ : (kvmRun InputConfig.sample DdcOpts.main k₀ grab).isSome := by decide
  have h₂ : (kvmRun InputConfig.sample DdcOpts.main
      ((kvmRun InputConfig.sample DdcOpts.main k₀ grab).getD k₀) stretch).isSome := by decide
  have e₁ := (Option.getD_of_ne_none (Option.ne_none_iff_isSome.mpr h₁) k₀).symm
  have e₂ := (Option.getD_of_ne_none (Option.ne_none_iff_isSome.mpr h₂) k₀).symm
  have hk := (KvmReach.start SwitchEnv.bus6_valid_start).run
    (by simp [grab, SwitchEnv.answering_valid]) e₁
  exact ⟨_, _, e₁, e₂, by decide, by decide, display_switches_only_on_release hk (by decide) e₂
    (by simp [stretch, KvmStep.MayRelease, InputConfig.sample])⟩

/-! ## A short release switches the display -/

/-- A short release that grabs a keyboard, from a state with nothing grabbed,
makes `input_is_grabbed()` true. -/
theorem inputIsGrabbed_of_shortRelease (hr : InputReach cfg k.input)
    (hfree : k.input.grabbedKeyboard = -1) {idx code : Nat} {now : Timeval} {s : InputState}
    (hg : cfg.grabKey code = true) (hshort : k.input.ShortPress now)
    (hs : inputStep cfg k.input (.event idx (.key code 0) now true) = some s) :
    inputIsGrabbed s = true := by
  rw [(grabSound_of_reach hr).inputStep_shortRelease hg hshort hs]
  have hk := (toggleGrab_grabbed k.input idx true).1
  rw [hfree, if_pos ⟨by omega, rfl⟩] at hk
  simp only [inputIsGrabbed, hk, decide_eq_true_eq]
  omega

/-- **A short release that grabs switches the display.** From any reachable
state of the program where nothing is grabbed and `main` has seen it, the
short release of a grab key on a running device whose kernel grab succeeds
makes `input_is_grabbed()` true; the next turn of `main`'s loop, if it leaves
`ddcci_ok` set, has sent the display exactly one frame, Set VCP Feature `0x60`
with `output_other`, on a descriptor open on the display's bus. -/
theorem short_release_switches_display (hr : KvmReach cfg opts k)
    (hc : k.main.wasGrabbed = inputIsGrabbed k.input) (hfree : k.input.grabbedKeyboard = -1)
    {idx code : Nat} {now : Timeval} {s : InputState} (hg : cfg.grabKey code = true)
    (hshort : k.input.ShortPress now)
    (hs : inputStep cfg k.input (.event idx (.key code 0) now true) = some s)
    (hen : opts.enable = true) {env : SwitchEnv} (hv : env.Valid k.main)
    (hok : (ddcStep opts k.main (.poll (inputIsGrabbed s) env)).ok = true) :
    inputIsGrabbed s = true ∧
      let m' := ddcStep opts k.main (.poll (inputIsGrabbed s) env)
      (m'.ddc.fd, .i2c 6) ∈ m'.sys.fds ∧
        m'.sys.written = k.main.sys.written ++ [(m'.ddc.fd, inputSelectFrame (opts.output true))] := by
  have hgrab := inputIsGrabbed_of_shortRelease hr.inputReach hfree hg hshort hs
  have hne : inputIsGrabbed s ≠ k.main.wasGrabbed := by
    rw [hc, hgrab]
    simp [inputIsGrabbed, hfree]
  refine ⟨hgrab, ?_⟩
  have h := switch_sends_input_select hr.ddcReach hv hne hen hok
  rw [hgrab] at h ⊢
  exact h

/-- The first short release on a new keyboard, and the next turn of `main`. -/
theorem short_release_switches_display_bus6 :
    let k : KvmState :=
      ⟨inputAddDevice InputState.init .tracked, ddcStart DdcOpts.main SwitchEnv.bus6 ⟨0, 0⟩⟩
    let s := inputDeviceEvent InputConfig.sample k.input 0 (.key 97 0) ⟨1, 0⟩ true
    inputIsGrabbed s = true ∧
      let m' := ddcStep DdcOpts.main k.main (.poll (inputIsGrabbed s) SwitchEnv.answering)
      (m'.ddc.fd, .i2c 6) ∈ m'.sys.fds ∧
        m'.sys.written =
          k.main.sys.written ++ [(m'.ddc.fd, inputSelectFrame (DdcOpts.main.output true))] :=
  short_release_switches_display
    (show KvmReach InputConfig.sample DdcOpts.main
        ⟨inputAddDevice InputState.init .tracked, ddcStart DdcOpts.main SwitchEnv.bus6 ⟨0, 0⟩⟩ from
      .input (.start SwitchEnv.bus6_valid_start)
        (show inputStep InputConfig.sample InputState.init (.add .tracked) = some _ from rfl))
    rfl rfl (show InputConfig.sample.grabKey 97 = true from rfl) (.inl rfl)
    (show inputStep InputConfig.sample (inputAddDevice InputState.init .tracked)
      (.event 0 (.key 97 0) ⟨1, 0⟩ true) = some _ from rfl) rfl
    (SwitchEnv.answering_valid _) (by decide)

end SpicyKvm
