import SpicyKvm.Ddc.Lookup

/-!
# Switching the display with the grab

`main` keeps a DDC/CI handle and a flag `ddcci_ok`. At start-up, and before
each switch while the flag is down, it looks the bus up with
`ddcci_find_i2c` and opens it; each time `input_is_grabbed()` changes it sends
Set VCP Feature `0x60` (the input source) with `output_other` when the input
is grabbed and `output_self` when it is released, and on failure closes the
handle and lowers the flag. At exit it closes the handle if the flag is up.

Both opens in `main` pass the bus number `6`, not the `i2c` that
`ddcci_find_i2c` found (and that the log line prints); the model keeps the
`6`. The rest of the loop (the SPICE connection, `linger`, the title) does
not touch the display and is left out.

Over any run, with any results of the system calls: the descriptors of the
DDC/CI handle are exactly its two while the flag is up and none otherwise, so
`ddcci_close` never closes a descriptor it does not own
(`ddc_descriptors_owned`); a switch that succeeds sends exactly the
input-select frame for the new grab state, on the bus's descriptor
(`switch_sends_input_select`); and while the flag is up the last frame the
display got selects the input for the grab state `main` last saw
(`display_shows_last_grab`). The directory streams the lookups leave open are
counted in `dirs`; nothing closes them.
-/

namespace SpicyKvm.Ddc

/-- `struct ddc_opts`, but for the connector name, which only the lookup's
paths use. -/
structure DdcOpts where
  enable : Bool
  outputSelf : BitVec 8
  outputOther : BitVec 8

/-- The options `main` sets. -/
def DdcOpts.main : DdcOpts := ⟨true, 0x11#8, 0x12#8⟩

/-- What `main` keeps for the display: `ddcci_ok`, the handle, the system,
and `was_grabbed`; and the directory streams `ddcci_find_i2c` left open. -/
structure DdcState where
  ok : Bool
  ddc : Ddcci
  sys : Sys
  wasGrabbed : Bool
  dirs : Nat

/-- What the system returns during one initialisation and one switch. -/
structure SwitchEnv where
  /-- what `ddcci_find_i2c` reads from sysfs -/
  lookup : LookupEnv
  openEnv : OpenEnv
  txEnv : TxEnv

/-- The initialisation block of `main`: look the bus up, and open bus 6 if
the lookup succeeded. -/
def ddcInit (env : SwitchEnv) (m : DdcState) : DdcState :=
  let l := ddcciFindI2c env.lookup
  let m := { m with dirs := m.dirs + l.2.2 }
  if l.1 ≠ ddcciSuccess then m
  else
    let r := ddcciOpen env.openEnv m.sys 6
    { m with ok := r.1 = ddcciSuccess, sys := r.2.1, ddc := r.2.2 }

/-- The VCP code of the input source. -/
def vcpInputSelect : BitVec 8 := 0x60#8

/-- The input source `main` selects for a grab state. -/
def DdcOpts.output (opts : DdcOpts) (isGrabbed : Bool) : BitVec 16 :=
  (if isGrabbed then opts.outputOther else opts.outputSelf).setWidth 16

/-- The switch after an initialisation: send the input source, and on failure
close the handle and lower the flag. -/
def ddcSend (opts : DdcOpts) (env : SwitchEnv) (m : DdcState) (isGrabbed : Bool) : DdcState :=
  if m.ok then
    let r := ddcciVcpSet env.txEnv m.sys m.ddc vcpInputSelect (opts.output isGrabbed)
    if r.1 ≠ ddcciSuccess then
      let c := ddcciClose r.2 m.ddc
      { m with ok := false, sys := c.1, ddc := c.2 }
    else { m with sys := r.2 }
  else m

/-- The body of the main loop when `input_is_grabbed()` differs from
`was_grabbed`. -/
def ddcSwitch (opts : DdcOpts) (env : SwitchEnv) (m : DdcState) (isGrabbed : Bool) : DdcState :=
  let m := if opts.enable then ddcSend opts env (if m.ok then m else ddcInit env m) isGrabbed
    else m
  { m with wasGrabbed := isGrabbed }

/-- The start of `main`: `ddcci` uninitialised, the flag down, then the
initialisation block if DDC/CI is enabled. -/
def ddcStart (opts : DdcOpts) (env : SwitchEnv) (ddc : Ddcci) : DdcState :=
  let m : DdcState := ⟨false, ddc, ⟨[], [], (0, 0)⟩, false, 0⟩
  if opts.enable then ddcInit env m else m

inductive DdcEvent
  /-- a turn of the main loop that reads `input_is_grabbed()` -/
  | poll (isGrabbed : Bool) (env : SwitchEnv)
  /-- the clean-up at exit -/
  | exit

def ddcStep (opts : DdcOpts) (m : DdcState) : DdcEvent → DdcState
  | .poll isGrabbed env => if isGrabbed ≠ m.wasGrabbed then ddcSwitch opts env m isGrabbed else m
  | .exit =>
      if m.ok then
        let c := ddcciClose m.sys m.ddc
        { m with sys := c.1, ddc := c.2 }
      else m

/-- An environment a real system could give in state `m`. -/
def SwitchEnv.Valid (env : SwitchEnv) (m : DdcState) : Prop :=
  env.openEnv.Valid m.sys ∧ env.txEnv.Valid

/-- The states of `main`'s DDC/CI part before its clean-up, over any run. -/
inductive DdcReach (opts : DdcOpts) : DdcState → Prop
  | start {env : SwitchEnv} {ddc : Ddcci} :
      env.openEnv.Valid ⟨[], [], (0, 0)⟩ → DdcReach opts (ddcStart opts env ddc)
  | poll {m : DdcState} {isGrabbed : Bool} {env : SwitchEnv} :
      DdcReach opts m → env.Valid m → DdcReach opts (ddcStep opts m (.poll isGrabbed env))

/-- A system where the lookup finds bus 6 and every call succeeds, with the
bus on descriptor 3 and the timer on 4. -/
def SwitchEnv.bus6 : SwitchEnv := ⟨sysfsBus6, ⟨.ok 3, none, .ok 4, none⟩, ⟨none, none, none⟩⟩

theorem SwitchEnv.bus6_valid_start : SwitchEnv.bus6.openEnv.Valid ⟨[], [], (0, 0)⟩ :=
  ⟨fun _ h => by cases h; exact ⟨by decide, nofun⟩,
    fun _ h => by cases h; exact ⟨by decide, fun _ h' => by cases h'; decide, nofun⟩,
    fun _ h => (nomatch h), fun _ h => (nomatch h), fun _ h => (nomatch h), fun _ h => (nomatch h)⟩

/-- A turn of `main` on a system whose display answers and which has no
descriptor to give. -/
def SwitchEnv.answering : SwitchEnv :=
  ⟨sysfsBus6, ⟨.error 24, none, .error 24, none⟩, ⟨none, none, none⟩⟩

theorem SwitchEnv.answering_valid (m : DdcState) : SwitchEnv.answering.Valid m :=
  ⟨⟨fun _ h => (nomatch h), fun _ h => (nomatch h), fun _ h => by cases h; decide,
      fun _ h => (nomatch h), fun _ h => by cases h; decide, fun _ h => (nomatch h)⟩,
    ⟨fun _ h => (nomatch h), fun _ h => (nomatch h), fun _ h => (nomatch h)⟩⟩

/-! ## The descriptors `main` holds -/

/-- While the flag is up the DDC/CI code holds exactly the handle's two
descriptors, neither of them `-1`; while it is down, none. -/
def DdcState.Owned (m : DdcState) : Prop :=
  if m.ok then m.ddc.fd ≠ -1 ∧ m.ddc.tfd ≠ -1 ∧
      m.sys.fds = [(m.ddc.tfd, .timer), (m.ddc.fd, .i2c 6)]
  else m.sys.fds = []

variable {opts : DdcOpts} {env : SwitchEnv} {m : DdcState}

/-- An initialisation with the flag down holds the handle it opened, or
nothing. -/
theorem DdcState.Owned.ddcInit (h : m.Owned) (hok : m.ok = false) (hv : env.openEnv.Valid m.sys) :
    (ddcInit env m).Owned := by
  simp only [DdcState.Owned, hok, Bool.false_eq_true, if_false] at h
  simp only [Ddc.ddcInit]
  split_ifs
  · simpa [DdcState.Owned, hok] using h
  · obtain ⟨-, ⟨hs, hfd, htfd, hfds⟩ | ⟨hs, hfds, -⟩⟩ := ddcciOpen_spec hv 6
    · simp only [DdcState.Owned, hs, decide_True, if_true]
      exact ⟨hfd, htfd, by rw [hfds, h]⟩
    · have hne : (ddcciOpen env.openEnv m.sys 6).1 ≠ ddcciSuccess := by
        unfold ddcciSuccess; omega
      simp [DdcState.Owned, hne, hfds, h]

/-- Closing the handle while the flag is up leaves nothing open. -/
theorem DdcState.Owned.close (h : m.Owned) (hok : m.ok = true) {sys : Sys}
    (hsys : sys.fds = m.sys.fds) : (ddcciClose sys m.ddc).1.fds = [] := by
  simp only [DdcState.Owned, hok, if_true] at h
  obtain ⟨hfd, htfd, hfds⟩ := h
  refine List.eq_nil_iff_forall_not_mem.mpr fun p hp => ?_
  rw [mem_ddcciClose_fds, hsys, hfds] at hp
  obtain ⟨hp, h1, h2⟩ := hp
  simp only [List.mem_cons, List.mem_singleton, List.not_mem_nil, or_false] at hp
  rcases hp with rfl | rfl
  · exact h2.resolve_left htfd rfl
  · exact h1.resolve_left hfd rfl

theorem DdcState.Owned.ddcSend (h : m.Owned) (isGrabbed : Bool) :
    (ddcSend opts env m isGrabbed).Owned := by
  simp only [Ddc.ddcSend]
  split_ifs with hok
  · simp only [DdcState.Owned, Bool.false_eq_true, if_false]
    exact h.close hok (ddcciVcpSet_fds ..)
  · simpa [DdcState.Owned, hok] using h
  · exact h

theorem DdcState.Owned.poll (h : m.Owned) (hv : env.Valid m) (isGrabbed : Bool) :
    (ddcStep opts m (.poll isGrabbed env)).Owned := by
  simp only [Ddc.ddcStep, ddcSwitch]
  split_ifs with _ hen hok
  · exact DdcState.Owned.ddcSend h isGrabbed
  · exact (h.ddcInit (by simpa using hok) hv.1).ddcSend isGrabbed
  · exact h
  · exact h

/-- The clean-up at exit leaves nothing open. -/
theorem DdcState.Owned.exit (h : m.Owned) : (ddcStep opts m .exit).sys.fds = [] := by
  simp only [ddcStep]
  split_ifs with hok
  · exact h.close hok rfl
  · simpa [DdcState.Owned, hok] using h

theorem ddcReach_owned (h : DdcReach opts m) : m.Owned := by
  induction h with
  | start hv =>
      simp only [ddcStart]
      split_ifs
      · exact DdcState.Owned.ddcInit (by simp [DdcState.Owned]) rfl hv
      · simp [DdcState.Owned]
  | poll _ hv ih => exact ih.poll hv _

/-- **The display's descriptors are owned.** In every state of the main loop,
after any sequence of grab changes and any results of the system calls, the
DDC/CI handle's code holds open exactly its bus and timer descriptors while
`ddcci_ok` is set, and nothing otherwise; so a failed switch's close and the
clean-up at exit close exactly those two, and the clean-up leaves none of
them open (the lookups' directory streams are counted apart, in `dirs`). -/
theorem ddc_descriptors_owned (h : DdcReach opts m) :
    m.sys.fds = (if m.ok then [(m.ddc.tfd, .timer), (m.ddc.fd, .i2c 6)] else []) ∧
      (ddcStep opts m .exit).sys.fds = [] := by
  have ho := ddcReach_owned h
  refine ⟨?_, ho.exit⟩
  unfold DdcState.Owned at ho
  split_ifs at ho ⊢
  · exact ho.2.2
  · exact ho

/-- At start-up on bus 6. -/
theorem ddc_descriptors_owned_at_start :
    let m := ddcStart DdcOpts.main SwitchEnv.bus6 ⟨0, 0⟩
    m.sys.fds = (if m.ok then [(m.ddc.tfd, .timer), (m.ddc.fd, .i2c 6)] else []) ∧
      (ddcStep DdcOpts.main m .exit).sys.fds = [] :=
  ddc_descriptors_owned (.start SwitchEnv.bus6_valid_start)

/-! ## What a switch sends -/

theorem ddcInit_written (env : SwitchEnv) (m : DdcState) (hv : env.openEnv.Valid m.sys) :
    (ddcInit env m).sys.written = m.sys.written := by
  simp only [ddcInit]
  split_ifs
  · rfl
  · exact (ddcciOpen_spec hv 6).1

/-- A send that leaves the flag up wrote the input-select frame on the
handle's bus descriptor. -/
theorem DdcState.Owned.ddcSend_ok (h : m.Owned) (hv : env.txEnv.Valid) {isGrabbed : Bool}
    (hok : (Ddc.ddcSend opts env m isGrabbed).ok = true) :
    (Ddc.ddcSend opts env m isGrabbed).ddc = m.ddc ∧
      (m.ddc.fd, .i2c 6) ∈ (Ddc.ddcSend opts env m isGrabbed).sys.fds ∧
      (Ddc.ddcSend opts env m isGrabbed).sys.written = m.sys.written ++
        [(m.ddc.fd, vcpSetFrame vcpInputSelect (opts.output isGrabbed))] := by
  simp only [Ddc.ddcSend] at hok ⊢
  by_cases hm : m.ok = true
  · simp only [DdcState.Owned, hm, if_true] at h
    by_cases hrc : (ddcciVcpSet env.txEnv m.sys m.ddc vcpInputSelect (opts.output isGrabbed)).1 =
        ddcciSuccess
    · simp only [hm, hrc, ne_eq, not_true_eq_false, if_false, if_true]
      exact ⟨trivial, by simp [h.2.2], ddcciVcpSet_success hv hrc⟩
    · simp [hm, hrc] at hok
  · simp [hm] at hok

/-- **The display follows the grab.** From any state of the main loop, a turn
that sees the grab state change and after which `ddcci_ok` is set (the handle
opened if it had to be, and the send succeeded) has written exactly one frame:
Set VCP Feature `0x60` with `output_other` if the input is now grabbed and
`output_self` if it was released, on a descriptor open on bus 6. -/
theorem switch_sends_input_select (h : DdcReach opts m) (hv : env.Valid m) {isGrabbed : Bool}
    (hg : isGrabbed ≠ m.wasGrabbed) (hen : opts.enable = true)
    (hok : (ddcStep opts m (.poll isGrabbed env)).ok = true) :
    let m' := ddcStep opts m (.poll isGrabbed env)
    (m'.ddc.fd, .i2c 6) ∈ m'.sys.fds ∧
      m'.sys.written = m.sys.written ++
        [(m'.ddc.fd, vcpSetFrame vcpInputSelect (opts.output isGrabbed))] := by
  have ho := ddcReach_owned h
  simp only [ddcStep, if_pos hg, ddcSwitch, hen, if_true] at hok ⊢
  split_ifs at hok ⊢ with hm
  · obtain ⟨hddc, hmem, hw⟩ := ho.ddcSend_ok hv.2 hok
    exact ⟨hddc ▸ hmem, by rw [hw, hddc]⟩
  · have hm : m.ok = false := by simpa using hm
    obtain ⟨hddc, hmem, hw⟩ := (ho.ddcInit hm hv.1).ddcSend_ok hv.2 hok
    exact ⟨hddc ▸ hmem, by rw [hw, hddc, ddcInit_written _ _ hv.1]⟩

/-! ## What the display was told -/

/-- The Set VCP Feature frame that selects the input source `out`. -/
def inputSelectFrame (out : BitVec 16) : List (BitVec 8) :=
  vcpSetFrame vcpInputSelect out

/-- What `main` has told the display: every frame selects one of the two
inputs, and while `ddcci_ok` is set the last one selects the input for
`was_grabbed`. -/
structure DdcState.Shows (opts : DdcOpts) (m : DdcState) : Prop where
  enabled : m.ok = true → opts.enable = true
  frames : ∀ w ∈ m.sys.written, ∃ isGrabbed, w.2 = inputSelectFrame (opts.output isGrabbed)
  last : m.ok = true → ∀ w, m.sys.written.getLast? = some w →
    w.2 = inputSelectFrame (opts.output m.wasGrabbed)

/-- A send writes the input-select frame for the grab state, or nothing. -/
theorem ddcSend_written (opts : DdcOpts) (env : SwitchEnv) (m : DdcState) (isGrabbed : Bool) :
    (ddcSend opts env m isGrabbed).sys.written = m.sys.written ∨
      (ddcSend opts env m isGrabbed).sys.written =
        m.sys.written ++ [(m.ddc.fd, inputSelectFrame (opts.output isGrabbed))] := by
  simp only [ddcSend]
  split_ifs
  · simpa only [ddcciClose_written] using ddcciVcpSet_written ..
  · exact ddcciVcpSet_written ..
  · exact .inl rfl

/-- The handle a switch sends on: the one held, or a new one. -/
theorem DdcState.Owned.reinit (ho : m.Owned) (hv : env.Valid m) :
    (if m.ok then m else Ddc.ddcInit env m).Owned ∧
      (if m.ok then m else Ddc.ddcInit env m).sys.written = m.sys.written := by
  split_ifs with hok
  · exact ⟨ho, rfl⟩
  · exact ⟨ho.ddcInit (by simpa using hok) hv.1, ddcInit_written env m hv.1⟩

/-- A switch that leaves the flag up has the frame it sent last on the bus. -/
theorem DdcState.Shows.poll (h : m.Shows opts) (ho : m.Owned) (hv : env.Valid m) (isGrabbed : Bool) :
    (ddcStep opts m (.poll isGrabbed env)).Shows opts := by
  simp only [ddcStep]
  split_ifs
  · simp only [ddcSwitch]
    by_cases hen : opts.enable = true
    · rw [if_pos hen]
      obtain ⟨ho₁, hw₁⟩ := ho.reinit hv
      generalize (if m.ok then m else ddcInit env m) = m₁ at ho₁ hw₁
      refine ⟨fun _ => hen, fun w hw => ?_, fun hok w hl => ?_⟩
      · rcases ddcSend_written opts env m₁ isGrabbed with hs | hs <;>
          simp only [hs, hw₁, List.mem_append, List.mem_singleton] at hw
        · exact h.frames w hw
        · rcases hw with hw | rfl
          · exact h.frames w hw
          · exact ⟨isGrabbed, rfl⟩
      · obtain ⟨-, -, hs⟩ := ho₁.ddcSend_ok hv.2 hok
        simp only [hs, List.getLast?_concat, Option.some.injEq] at hl
        rw [← hl]
        rfl
    · rw [if_neg hen]
      exact ⟨fun hok => absurd (h.enabled hok) hen, h.frames,
        fun hok => absurd (h.enabled hok) hen⟩
  · exact h

theorem ddcReach_shows (h : DdcReach opts m) : m.Shows opts := by
  induction h with
  | start hv =>
      simp only [ddcStart]
      split_ifs with hen
      · refine ⟨fun _ => hen, fun w hw => ?_, fun _ w hl => ?_⟩
        · rw [ddcInit_written _ _ hv] at hw
          cases hw
        · rw [ddcInit_written _ _ hv] at hl
          cases hl
      · exact ⟨nofun, nofun, nofun⟩
  | poll hr hv ih => exact ih.poll (ddcReach_owned hr) hv _

/-- **The display was last told the grab state `main` saw.** In every state
of the main loop, after any sequence of grab changes and any results of the
system calls, every frame sent to the display selects `output_self` or
`output_other`, and while `ddcci_ok` is set the last one selects the input for
`was_grabbed`: `output_other` if the input was grabbed at the last change,
`output_self` if it was released. -/
theorem display_shows_last_grab (h : DdcReach opts m) :
    (∀ w ∈ m.sys.written, ∃ isGrabbed, w.2 = inputSelectFrame (opts.output isGrabbed)) ∧
      (m.ok = true → ∀ w, m.sys.written.getLast? = some w →
        w.2 = inputSelectFrame (opts.output m.wasGrabbed)) :=
  ⟨(ddcReach_shows h).frames, (ddcReach_shows h).last⟩

/-- A first grab on bus 6: the handle opened at start-up sends `output_other`. -/
theorem display_shows_last_grab_after_grab :
    let m := ddcStep DdcOpts.main (ddcStart DdcOpts.main SwitchEnv.bus6 ⟨0, 0⟩)
      (.poll true SwitchEnv.answering)
    (m.ok = true ∧ m.sys.written ≠ []) ∧
      (∀ w ∈ m.sys.written, ∃ isGrabbed, w.2 = inputSelectFrame (DdcOpts.main.output isGrabbed)) ∧
      (m.ok = true → ∀ w, m.sys.written.getLast? = some w →
        w.2 = inputSelectFrame (DdcOpts.main.output m.wasGrabbed)) :=
  ⟨by decide,
    display_shows_last_grab (.poll (.start SwitchEnv.bus6_valid_start) (SwitchEnv.answering_valid _))⟩

end SpicyKvm.Ddc
