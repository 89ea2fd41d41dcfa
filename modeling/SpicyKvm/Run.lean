import SpicyKvm.Main

/-!
# `main` from its loop to its return

`main`'s loop runs while `should_exit` is clear. Each turn lets
`purespice_process` run the SPICE connection and returns `1` at once if the
connection has stopped; it then reads `input_is_grabbed()`, switches the
display when it changed, and sets `should_exit` on a release when `linger` is
off. The handler of `SIGINT`, `SIGTERM` and `SIGQUIT` sets `should_exit`, or
calls `exit(1)` when it is already set. After the loop `main` closes the
DDC/CI handle if `ddcci_ok` is set and returns `0`.

The model starts at the loop's first turn, with the input layer and the
DDC/CI part as `KvmReach.start` has them; the start-up before it only adds a
`return 1` on each failure. The steps are those of `KvmStep`, a turn taken
with what `purespice_process` returned, the signal, and the end of the loop. A
signal that arrives during a turn does what it would do after it, or nothing
when the turn sets `should_exit` itself. `update_title`, `purespice_disconnect`
and `audio_free` touch nothing modelled here. `main` sets `linger` to `true`;
the model takes it as an option, as the code's list of planned command-line
options does.

Over every run: `main` returns `0` holding no DDC/CI descriptor, and without
switching the display back (`main_returns_with_handle_closed`); with `linger`
off and no signal, the loop ends
at a release, and the display gets at most two frames
(`release_ends_main_without_linger`).
-/

namespace SpicyKvm

open Input Ddc

/-- `linger`, the option of `main` outside `ddc_opts`. -/
structure MainOpts where
  linger : Bool

/-- `main` sets `linger` to `true`. -/
def MainOpts.main : MainOpts := ⟨true⟩

/-- The program: the input layer and what `main` keeps for the display,
`should_exit`, and the exit status once `main` has returned or `exit` was
called. -/
structure ProgState where
  kvm : KvmState
  shouldExit : Bool
  status : Option Int

/-- The program at the first turn of `main`'s loop. -/
def ProgState.start (opts : DdcOpts) (env : SwitchEnv) (ddc : Ddcci) : ProgState :=
  ⟨⟨InputState.init, ddcStart opts env ddc⟩, false, none⟩

/-- A step of the program. -/
inductive ProgStep
  /-- a step of an input or udev thread -/
  | input (e : InputStep)
  /-- a turn of the loop; `running` is whether `purespice_process` returned
  `PS_STATUS_RUN` -/
  | turn (running : Bool) (env : SwitchEnv)
  /-- `SIGINT`, `SIGTERM` or `SIGQUIT` -/
  | signal
  /-- the loop's test finds `should_exit` set: the clean-up and `return 0` -/
  | leave

/-- `sighandler` -/
def sighandler (p : ProgState) : ProgState :=
  if p.shouldExit then { p with status := some 1 } else { p with shouldExit := true }

/-- A turn of the loop after `purespice_process` returned `PS_STATUS_RUN`. -/
def mainTurn (opts : DdcOpts) (mo : MainOpts) (p : ProgState) (env : SwitchEnv) : ProgState :=
  let isGrabbed := inputIsGrabbed p.kvm.input
  let wasGrabbed := p.kvm.main.wasGrabbed
  { p with
    kvm := ⟨p.kvm.input, ddcStep opts p.kvm.main (.poll isGrabbed env)⟩
    shouldExit :=
      if isGrabbed != wasGrabbed && wasGrabbed && !isGrabbed && !mo.linger then true
      else p.shouldExit }

/-- The clean-up after the loop, and `return 0`. -/
def mainCleanup (opts : DdcOpts) (p : ProgState) : ProgState :=
  { p with kvm := ⟨p.kvm.input, ddcStep opts p.kvm.main .exit⟩, status := some 0 }

/-- A step of the program, or `none` where it cannot be taken: nothing runs
once `main` has returned, the loop takes no turn once `should_exit` is set,
and it ends only then. -/
def progStep (cfg : InputConfig) (opts : DdcOpts) (mo : MainOpts) (p : ProgState) :
    ProgStep → Option ProgState
  | .input e =>
      if p.status.isSome then none
      else (kvmStep cfg opts p.kvm (.input e)).map fun k => { p with kvm := k }
  | .turn running env =>
      if p.status.isSome || p.shouldExit then none
      else if running then some (mainTurn opts mo p env)
      else some { p with status := some 1 }
  | .signal => if p.status.isSome then none else some (sighandler p)
  | .leave => if p.status.isSome || !p.shouldExit then none else some (mainCleanup opts p)

/-- What a real system returns during a step. -/
def ProgStep.Valid (p : ProgState) : ProgStep → Prop
  | .turn _ env => env.Valid p.kvm.main
  | _ => True

/-- The runs of the program, each step with what a real system returns. -/
inductive ProgRun (cfg : InputConfig) (opts : DdcOpts) (mo : MainOpts) :
    ProgState → List ProgStep → ProgState → Prop
  | nil (p : ProgState) : ProgRun cfg opts mo p [] p
  | cons {p p₁ p' : ProgState} {e : ProgStep} {es : List ProgStep} :
      e.Valid p → progStep cfg opts mo p e = some p₁ → ProgRun cfg opts mo p₁ es p' →
      ProgRun cfg opts mo p (e :: es) p'

variable {cfg : InputConfig} {opts : DdcOpts} {mo : MainOpts} {p p' : ProgState} {e : ProgStep}

/-- What a step can do. -/
theorem progStep_cases (h : progStep cfg opts mo p e = some p') :
    p.status = none ∧
      ((∃ ie s, e = .input ie ∧ inputStep cfg p.kvm.input ie = some s ∧
          p' = { p with kvm := ⟨s, p.kvm.main⟩ }) ∨
        (∃ env, e = .turn true env ∧ p.shouldExit = false ∧ p' = mainTurn opts mo p env) ∨
        (∃ env, e = .turn false env ∧ p.shouldExit = false ∧ p' = { p with status := some 1 }) ∨
        (e = .signal ∧ p' = sighandler p) ∨
        (e = .leave ∧ p.shouldExit = true ∧ p' = mainCleanup opts p)) := by
  cases e with
  | input ie =>
      simp only [progStep, kvmStep, Option.map_map] at h
      split_ifs at h with hs
      obtain ⟨s, hs', rfl⟩ := Option.map_eq_some'.mp h
      exact ⟨by simpa using hs, .inl ⟨ie, s, rfl, hs', rfl⟩⟩
  | turn running env =>
      simp only [progStep, Bool.or_eq_true, Option.isSome_iff_ne_none] at h
      split_ifs at h with hs hr <;> cases h
      · simp only [not_or, ne_eq, not_not, Bool.not_eq_true] at hs
        exact ⟨hs.1, .inr (.inl ⟨env, by rw [hr], hs.2, rfl⟩)⟩
      · simp only [not_or, ne_eq, not_not, Bool.not_eq_true] at hs
        exact ⟨hs.1, .inr (.inr (.inl ⟨env, by simpa using hr, hs.2, rfl⟩))⟩
  | signal =>
      simp only [progStep] at h
      split_ifs at h with hs
      cases h
      exact ⟨by simpa using hs, .inr (.inr (.inr (.inl ⟨rfl, rfl⟩)))⟩
  | leave =>
      simp only [progStep, Bool.or_eq_true, Bool.not_eq_true'] at h
      split_ifs at h with hs
      cases h
      simp only [not_or, Option.not_isSome_iff_eq_none, Bool.not_eq_false] at hs
      exact ⟨hs.1, .inr (.inr (.inr (.inr ⟨rfl, hs.2, rfl⟩)))⟩

/-! ## The clean-up -/

@[simp] theorem ddcStep_exit_ok (opts : DdcOpts) (m : DdcState) : (ddcStep opts m .exit).ok = m.ok := by
  simp only [ddcStep]; split_ifs <;> rfl

@[simp] theorem ddcStep_exit_wasGrabbed (opts : DdcOpts) (m : DdcState) :
    (ddcStep opts m .exit).wasGrabbed = m.wasGrabbed := by
  simp only [ddcStep]; split_ifs <;> rfl

@[simp] theorem ddcStep_exit_written (opts : DdcOpts) (m : DdcState) :
    (ddcStep opts m .exit).sys.written = m.sys.written := by
  simp only [ddcStep]; split_ifs <;> simp

/-- Before `main` returns `0` the program is in a state of `KvmReach`; once it
has, the DDC/CI part is such a state after the clean-up. -/
def ProgState.Sound (cfg : InputConfig) (opts : DdcOpts) (p : ProgState) : Prop :=
  if p.status = some 0 then ∃ m, DdcReach opts m ∧ p.kvm.main = ddcStep opts m .exit
  else KvmReach cfg opts p.kvm

theorem ProgState.sound_start {env : SwitchEnv} {ddc : Ddcci} (hv : env.openEnv.Valid ⟨[], [], (0, 0)⟩) :
    (ProgState.start opts env ddc).Sound cfg opts := by
  simpa [ProgState.Sound, ProgState.start] using KvmReach.start hv

theorem ProgState.Sound.step (h : p.Sound cfg opts) (hv : e.Valid p)
    (hs : progStep cfg opts mo p e = some p') : p'.Sound cfg opts := by
  obtain ⟨h0, ⟨_, _, rfl, hi, rfl⟩ | ⟨_, rfl, -, rfl⟩ | ⟨_, rfl, -, rfl⟩ | ⟨rfl, rfl⟩ | ⟨rfl, -, rfl⟩⟩ :=
    progStep_cases hs
  all_goals have hk : KvmReach cfg opts p.kvm := by simpa [ProgState.Sound, h0] using h
  · simpa [ProgState.Sound, h0] using hk.input hi
  · simpa [ProgState.Sound, mainTurn, h0] using hk.poll hv
  · simpa [ProgState.Sound] using hk
  · unfold sighandler
    split_ifs <;> simpa [ProgState.Sound, h0] using hk
  · simpa [ProgState.Sound, mainCleanup] using ⟨_, hk.ddcReach, rfl⟩

theorem ProgState.Sound.run (h : p.Sound cfg opts) {es : List ProgStep}
    (hrun : ProgRun cfg opts mo p es p') : p'.Sound cfg opts := by
  induction hrun with
  | nil => exact h
  | cons hv hs _ ih => exact ih (h.step hv hs)

/-- **`main` returns with the display's handle closed, and the display left
as it was.** Over every run, with any results of the system calls, `main`
returns `0` holding no DDC/CI descriptor; and the clean-up sends nothing, so
if the handle was working the display's last frame still selects the input for
the grab state `main` saw last: `output_other` if `main` ends, on a signal,
while the input is grabbed. -/
theorem main_returns_with_handle_closed {env : SwitchEnv} {ddc : Ddcci} {es : List ProgStep}
    (hv : env.openEnv.Valid ⟨[], [], (0, 0)⟩)
    (hrun : ProgRun cfg opts mo (ProgState.start opts env ddc) es p) (h0 : p.status = some 0) :
    p.kvm.main.sys.fds = [] ∧
      (p.kvm.main.ok = true → ∀ w, p.kvm.main.sys.written.getLast? = some w →
        w.2 = inputSelectFrame (opts.output p.kvm.main.wasGrabbed)) := by
  have h := (ProgState.sound_start hv).run hrun
  simp only [ProgState.Sound, h0, if_true] at h
  obtain ⟨m, hm, heq⟩ := h
  rw [heq, ddcStep_exit_ok, ddcStep_exit_written, ddcStep_exit_wasGrabbed]
  exact ⟨(ddcReach_owned hm).exit, (ddcReach_shows hm).last⟩

/-- A keyboard plugged in, then two short presses of its grab key, the first
grabbing it and the second releasing it, with a turn of `main`'s loop after
each. -/
def ProgStep.grabCycle : List ProgStep :=
  [.input (.add .tracked),
    .input (.event 0 (.key 97 1) ⟨1, 0⟩ true), .input (.event 0 (.key 97 0) ⟨1, 100000⟩ true),
    .turn true SwitchEnv.answering,
    .input (.event 0 (.key 97 1) ⟨5, 0⟩ true), .input (.event 0 (.key 97 0) ⟨5, 100000⟩ true),
    .turn true SwitchEnv.answering]

/-- A signal after the first grab: the display selects the other input, and
`main` returns with the handle closed. -/
theorem main_returns_with_handle_closed_after_grab :
    ∃ p, ProgRun InputConfig.sample DdcOpts.main MainOpts.main
        (ProgState.start DdcOpts.main SwitchEnv.bus6 ⟨0, 0⟩) (ProgStep.grabCycle.take 4 ++ [.signal, .leave]) p ∧
      p.status = some 0 ∧ p.kvm.main.ok = true ∧ p.kvm.main.wasGrabbed = true ∧ p.kvm.main.sys.written ≠ [] ∧
      p.kvm.main.sys.fds = [] ∧
      (p.kvm.main.ok = true → ∀ w, p.kvm.main.sys.written.getLast? = some w →
        w.2 = inputSelectFrame (DdcOpts.main.output p.kvm.main.wasGrabbed)) := by
  have hrun : ProgRun InputConfig.sample DdcOpts.main MainOpts.main
      (ProgState.start DdcOpts.main SwitchEnv.bus6 ⟨0, 0⟩) (ProgStep.grabCycle.take 4 ++ [.signal, .leave]) _ :=
    .cons trivial rfl (.cons trivial rfl (.cons trivial rfl
      (.cons (SwitchEnv.answering_valid _) rfl (.cons trivial rfl (.cons trivial rfl (.nil _))))))
  exact ⟨_, hrun, rfl, by decide, by decide, by decide,
    main_returns_with_handle_closed SwitchEnv.bus6_valid_start hrun rfl⟩

/-! ## Without `linger` -/

/-- A turn of `main`'s loop records the grab state it saw, and sends the
display one frame at most, none if that state did not change. -/
theorem ddcStep_poll_written (opts : DdcOpts) {m : DdcState} {env : SwitchEnv} (hv : env.openEnv.Valid m.sys)
    (isGrabbed : Bool) :
    (ddcStep opts m (.poll isGrabbed env)).wasGrabbed = isGrabbed ∧
      (ddcStep opts m (.poll isGrabbed env)).sys.written.length ≤
        m.sys.written.length + if isGrabbed = m.wasGrabbed then 0 else 1 := by
  by_cases hg : isGrabbed = m.wasGrabbed
  · rw [hg, ddcStep_poll_same]
    simp
  · simp only [ddcStep, if_pos hg, ddcSwitch, if_neg hg, true_and]
    by_cases hen : opts.enable = true
    · rw [if_pos hen]
      have hw : (if m.ok then m else ddcInit env m).sys.written = m.sys.written := by
        split_ifs
        · rfl
        · exact ddcInit_written env m hv
      generalize (if m.ok then m else ddcInit env m) = m₁ at hw ⊢
      rcases ddcSend_written opts env m₁ isGrabbed with h | h <;> simp [h, hw]
    · simp [hen]

/-- Without a signal and without `linger`: once `should_exit` is set, `main`
last saw the input released; and the display has had one frame at most while
`main` last saw it grabbed, two once the loop is over, none otherwise. -/
def ProgState.Frames (p : ProgState) : Prop :=
  (p.shouldExit = true → p.kvm.main.wasGrabbed = false) ∧
    p.kvm.main.sys.written.length ≤
      (if p.kvm.main.wasGrabbed then 1 else 0) + if p.shouldExit then 2 else 0

theorem ProgState.Frames.step (hl : mo.linger = false) (h : p.Frames) (he : e ≠ .signal)
    (hv : e.Valid p) (hs : progStep cfg opts mo p e = some p') : p'.Frames := by
  obtain ⟨-, ⟨_, _, rfl, -, rfl⟩ | ⟨env, rfl, hs₀, rfl⟩ | ⟨_, rfl, -, rfl⟩ | ⟨rfl, -⟩ | ⟨rfl, -, rfl⟩⟩ :=
    progStep_cases hs
  · exact h
  · obtain ⟨hw, hlen⟩ := ddcStep_poll_written opts hv.1 (inputIsGrabbed p.kvm.input)
    simp only [ProgState.Frames, mainTurn, hs₀, hl, hw] at h hlen ⊢
    generalize inputIsGrabbed p.kvm.input = g at hlen ⊢
    cases g <;> cases hwas : p.kvm.main.wasGrabbed <;> simp_all <;> omega
  · exact h
  · exact absurd rfl he
  · simpa [ProgState.Frames, mainCleanup] using h

theorem ProgState.Frames.run (hl : mo.linger = false) (h : p.Frames) {es : List ProgStep}
    (hrun : ProgRun cfg opts mo p es p') (hno : ProgStep.signal ∉ es) : p'.Frames := by
  induction hrun with
  | nil => exact h
  | cons hv hs _ ih =>
      exact ih (h.step hl (fun he => hno (he ▸ List.mem_cons_self _ _)) hv hs)
        (fun hm => hno (List.mem_cons_of_mem _ hm))

/-- **Without `linger`, the first release ends `main`.** With `linger` off and
no signal, over every run with any results of the system calls: once
`should_exit` is set, `main`'s last turn saw the input released, and the
display has had two frames at most, the switch away on the grab and the switch
back on the release. -/
theorem release_ends_main_without_linger (hl : mo.linger = false) {env : SwitchEnv} {ddc : Ddcci}
    {es : List ProgStep} (hv : env.openEnv.Valid ⟨[], [], (0, 0)⟩)
    (hrun : ProgRun cfg opts mo (ProgState.start opts env ddc) es p) (hno : ProgStep.signal ∉ es) :
    p.kvm.main.sys.written.length ≤ 2 ∧ (p.shouldExit = true → p.kvm.main.wasGrabbed = false) := by
  have hstart : (ProgState.start opts env ddc).Frames := by
    have hw : (ddcStart opts env ddc).sys.written = [] := by
      simp only [ddcStart]
      split_ifs
      · exact ddcInit_written env _ hv
      · rfl
    have hg : (ddcStart opts env ddc).wasGrabbed = false := by
      simp only [ddcStart, ddcInit]
      split_ifs <;> rfl
    simp [ProgState.Frames, ProgState.start, hw, hg]
  have h := hstart.run hl hrun hno
  refine ⟨?_, h.1⟩
  have hlen := h.2
  by_cases hx : p.shouldExit = true
  · simp only [hx, h.1 hx] at hlen
    simpa using hlen
  · split_ifs at hlen <;> omega

/-- Without `linger`, the loop ends after the release. -/
theorem release_ends_main_without_linger_grabCycle :
    ∃ p', ProgRun InputConfig.sample DdcOpts.main ⟨false⟩
        (ProgState.start DdcOpts.main SwitchEnv.bus6 ⟨0, 0⟩) (ProgStep.grabCycle ++ [.leave]) p' ∧
      p'.kvm.main.sys.written.length ≤ 2 ∧ (p'.shouldExit = true → p'.kvm.main.wasGrabbed = false) := by
  have hrun : ProgRun InputConfig.sample DdcOpts.main ⟨false⟩
      (ProgState.start DdcOpts.main SwitchEnv.bus6 ⟨0, 0⟩) (ProgStep.grabCycle ++ [.leave]) _ :=
    .cons trivial rfl (.cons trivial rfl (.cons trivial rfl
      (.cons (SwitchEnv.answering_valid _) rfl (.cons trivial rfl (.cons trivial rfl
        (.cons (SwitchEnv.answering_valid _) rfl (.cons trivial rfl (.nil _))))))))
  exact ⟨_, hrun, release_ends_main_without_linger rfl SwitchEnv.bus6_valid_start hrun
    (by simp [ProgStep.grabCycle])⟩

end SpicyKvm
