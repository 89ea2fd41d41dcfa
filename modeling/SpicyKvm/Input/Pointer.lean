import SpicyKvm.Input.Model

/-!
# Pointer reports

`input_device_thread` sends pointer motion and wheel clicks only at a
`SYN_REPORT`, from what its two accumulators gathered since the last one it
handled: `pending_rel` sums the relative axes, and `pending_rel_fake` turns a
touch device's absolute positions into motion while `BTN_TOUCH` is held.

A relative report is what one expects (`relative_report_calls`): the summed
motion if it is not zero, then one click per wheel step. Over every run, only
a forwarded event of its own device changes the accumulator: a relative event
adds to it and a `SYN_REPORT` empties it (`inputStep_pendingRel`), so each
report sends the sums of the events forwarded since the previous one. A
`SYN_REPORT` that is not forwarded is dropped, and the motion gathered before
it waits for the next forwarded report. A report that continues a touch sends the
change of the absolute position since the previous report
(`touch_report_calls`). The absolute accumulator, though, also moves while the
device hovers before `BTN_TOUCH`, and only a touching report clears it: the
report in which a touch begins sends the distance hovered.
-/

namespace SpicyKvm.Input

/-- The events of one device, handled in order by its thread while its events
are forwarded: the device after them, and the calls they made. -/
def forwardEvents (cfg : InputConfig) (d : Device) : List InputEvent → Device × List SpiceMsg
  | [] => (d, [])
  | ev :: evs =>
      let r := forwardEvent cfg d ev
      let r' := forwardEvents cfg r.1 evs
      (r'.1, r.2 ++ r'.2)

@[simp] theorem forwardEvents_nil (cfg : InputConfig) (d : Device) :
    forwardEvents cfg d [] = (d, []) := rfl

@[simp] theorem forwardEvents_cons_fst (cfg : InputConfig) (d : Device) (ev : InputEvent)
    (evs : List InputEvent) :
    (forwardEvents cfg d (ev :: evs)).1 = (forwardEvents cfg (forwardEvent cfg d ev).1 evs).1 := rfl

/-! ## Relative reports -/

/-- An accumulator that holds nothing holds zeros. -/
def PendingRel.Settled (r : PendingRel) : Prop :=
  r.ok = false → r.dx = 0 ∧ r.dy = 0 ∧ r.wheel = 0

theorem PendingRel.settled_cleared : PendingRel.Settled ⟨false, 0, 0, 0⟩ :=
  fun _ => ⟨rfl, rfl, rfl⟩

theorem handleSyn_pendingRel (cfg : InputConfig) {d : Device} (hs : d.pendingRel.Settled) :
    (handleSyn cfg d).1.pendingRel = ⟨false, 0, 0, 0⟩ := by
  rcases d with ⟨t, g, ⟨ok, dx, dy, w⟩, f⟩
  cases ok
  · obtain ⟨rfl, rfl, rfl⟩ := hs rfl
    rfl
  · rfl

theorem PendingRel.Settled.forwardEvent {cfg : InputConfig} {d : Device} (h : d.pendingRel.Settled)
    (ev : InputEvent) : (forwardEvent cfg d ev).1.pendingRel.Settled := by
  cases ev with
  | key => exact h
  | rel => exact fun h => nomatch h
  | abs => exact h
  | synReport => rw [Input.forwardEvent, handleSyn_pendingRel cfg h]; exact settled_cleared
  | other => exact h

/-- The last value of the absolute events of `axis`, or `c` if there is none. -/
def absLast (axis : AbsAxis) (c : Int) : List InputEvent → Int
  | [] => c
  | .abs a v :: evs => absLast axis (if a = axis then v else c) evs
  | _ :: evs => absLast axis c evs

/-- An event within a touch: anything but a `SYN_REPORT`, a relative event,
and the release of `BTN_TOUCH`. -/
def InputEvent.WithinTouch (cfg : InputConfig) : InputEvent → Prop
  | .key code value => ¬(code = cfg.btnTouch ∧ value = 0)
  | .abs _ _ | .other => True
  | .rel _ _ | .synReport => False

/-- A touch under way whose motion since the position `(x₀, y₀)` is pending. -/
def PendingRelFake.Tracking (f : PendingRelFake) (x₀ y₀ : Int) : Prop :=
  f.ignore = false ∧ f.touch = true ∧ f.x = true ∧ f.y = true ∧ f.dx = f.cx - x₀ ∧ f.dy = f.cy - y₀

theorem PendingRelFake.Tracking.forwardEvent {cfg : InputConfig} {d : Device} {x₀ y₀ : Int}
    (h : d.pendingRelFake.Tracking x₀ y₀) {ev : InputEvent} (he : ev.WithinTouch cfg) :
    (Input.forwardEvent cfg d ev).1.pendingRelFake.Tracking x₀ y₀ ∧
      (Input.forwardEvent cfg d ev).1.pendingRelFake.cx = absLast .x d.pendingRelFake.cx [ev] ∧
      (Input.forwardEvent cfg d ev).1.pendingRelFake.cy = absLast .y d.pendingRelFake.cy [ev] := by
  obtain ⟨hi, ht, hx, hy, hdx, hdy⟩ := h
  cases ev with
  | key code value =>
      dsimp only [Input.forwardEvent, handleKey]
      by_cases hc : code = cfg.btnTouch
      · have hv : value ≠ 0 := fun hv => he ⟨hc, hv⟩
        rw [if_pos hc, if_neg hv]
        split_ifs
        · exact ⟨⟨hi, rfl, hx, hy, hdx, hdy⟩, rfl, rfl⟩
        · exact ⟨⟨hi, ht, hx, hy, hdx, hdy⟩, rfl, rfl⟩
      · rw [if_neg hc]
        exact ⟨⟨hi, ht, hx, hy, hdx, hdy⟩, rfl, rfl⟩
  | abs axis v =>
      cases axis <;> dsimp only [Input.forwardEvent, handleAbs]
      · rw [if_pos hx]
        exact ⟨⟨hi, ht, hx, hy, by dsimp only; omega, hdy⟩, rfl, rfl⟩
      · rw [if_pos hy]
        exact ⟨⟨hi, ht, hx, hy, hdx, by dsimp only; omega⟩, rfl, rfl⟩
      · exact ⟨⟨hi, ht, hx, hy, hdx, hdy⟩, rfl, rfl⟩
  | other => exact ⟨⟨hi, ht, hx, hy, hdx, hdy⟩, rfl, rfl⟩
  | rel | synReport => exact he.elim

theorem absLast_cons (axis : AbsAxis) (c : Int) (ev : InputEvent) (evs : List InputEvent) :
    absLast axis c (ev :: evs) = absLast axis (absLast axis c [ev]) evs := by
  cases ev <;> rfl

/-- Over the events of a touch, the pending motion follows the position. -/
theorem PendingRelFake.Tracking.forwardEvents {cfg : InputConfig} {d : Device} {x₀ y₀ : Int}
    (h : d.pendingRelFake.Tracking x₀ y₀) {evs : List InputEvent}
    (he : ∀ ev ∈ evs, ev.WithinTouch cfg) :
    (Input.forwardEvents cfg d evs).1.pendingRelFake.Tracking x₀ y₀ ∧
      (Input.forwardEvents cfg d evs).1.pendingRelFake.cx = absLast .x d.pendingRelFake.cx evs ∧
      (Input.forwardEvents cfg d evs).1.pendingRelFake.cy = absLast .y d.pendingRelFake.cy evs := by
  induction evs generalizing d with
  | nil => exact ⟨h, rfl, rfl⟩
  | cons ev evs ih =>
      obtain ⟨h₁, hx₁, hy₁⟩ := h.forwardEvent (he ev (List.mem_cons_self ev evs))
      obtain ⟨h₂, hx₂, hy₂⟩ := ih h₁ fun ev' hm => he ev' (List.mem_cons_of_mem ev hm)
      rw [forwardEvents_cons_fst, absLast_cons .x d.pendingRelFake.cx ev evs,
        absLast_cons .y d.pendingRelFake.cy ev evs, ← hx₁, ← hy₁]
      exact ⟨h₂, hx₂, hy₂⟩

/-- A relative event added to an accumulator: it now holds something, and the
value counts on its axis. -/
def PendingRel.add (r : PendingRel) (axis : RelAxis) (v : Int) : PendingRel :=
  ⟨true, r.dx + (if axis = .x then v else 0), r.dy + (if axis = .y then v else 0),
    r.wheel + (if axis = .wheel then v else 0)⟩

/-- What a forwarded event does to its device's accumulator: a relative event
adds to its axis, a `SYN_REPORT` empties it, any other event leaves it. -/
def relForward (r : PendingRel) : InputEvent → PendingRel
  | .rel axis v => r.add axis v
  | .synReport => ⟨false, 0, 0, 0⟩
  | _ => r

/-- What one step does to the accumulator `r` of slot `i`: only an event of
that slot that its thread forwards changes it. So a `SYN_REPORT` that comes
while the device is not forwarded is dropped, and what was gathered before it
waits for the next forwarded one. -/
def relAfter (s : InputState) (i : Nat) (r : PendingRel) : InputStep → PendingRel
  | .event idx ev _ ok =>
      if idx = i ∧ (autoGrabMouse s idx ev ok).Forwarded idx then relForward r ev else r
  | _ => r

theorem forwardEvent_pendingRel (cfg : InputConfig) {d : Device} (h : d.pendingRel.Settled)
    (ev : InputEvent) : (forwardEvent cfg d ev).1.pendingRel = relForward d.pendingRel ev := by
  cases ev with
  | rel axis v => cases axis <;> simp [forwardEvent, handleRel, relForward, PendingRel.add]
  | synReport => exact handleSyn_pendingRel cfg h
  | _ => rfl

/-- The relative accumulator of every tracked device is settled. -/
def RelSettled (devices : Nat → Option Device) : Prop :=
  ∀ i d, devices i = some d → d.pendingRel.Settled

section
variable {cfg : InputConfig} {s s' : InputState}

/-! ### A kernel grab leaves the accumulators alone -/

@[simp] theorem pendingRel_libevdevGrab (i : Int) (grab ok : Bool) (j : Nat) :
    ((s.libevdevGrab i grab ok).devices j).map (·.pendingRel) =
      (s.devices j).map (·.pendingRel) := by
  unfold InputState.libevdevGrab
  split_ifs
  · simp only [InputState.setDevice]
    split_ifs with h
    · subst h
      cases s.devices _ <;> rfl
    · rfl
  · rfl

@[simp] theorem pendingRel_inputUngrab (ok : Bool) (j : Nat) :
    ((inputUngrab s ok).devices j).map (·.pendingRel) = (s.devices j).map (·.pendingRel) := by
  simp only [inputUngrab]
  split_ifs <;> simp only [pendingRel_libevdevGrab]

@[simp] theorem pendingRel_grabKeyRelease (idx : Nat) (now : Timeval) (ok : Bool) (j : Nat) :
    ((grabKeyRelease s idx now ok).devices j).map (·.pendingRel) =
      (s.devices j).map (·.pendingRel) := by
  simp only [grabKeyRelease]
  split_ifs <;> simp only [pendingRel_inputUngrab, pendingRel_libevdevGrab]

@[simp] theorem pendingRel_handleGrabKey (idx : Nat) (value : Int) (now : Timeval) (ok : Bool)
    (j : Nat) : ((handleGrabKey s idx value now ok).devices j).map (·.pendingRel) =
      (s.devices j).map (·.pendingRel) := by
  simp only [handleGrabKey]
  split_ifs <;> simp only [pendingRel_grabKeyRelease, pendingRel_libevdevGrab]

@[simp] theorem pendingRel_autoGrabMouse (idx : Nat) (ev : InputEvent) (ok : Bool) (j : Nat) :
    ((autoGrabMouse s idx ev ok).devices j).map (·.pendingRel) =
      (s.devices j).map (·.pendingRel) := by
  unfold autoGrabMouse
  split_ifs <;> simp only [pendingRel_libevdevGrab]

theorem RelSettled.of_pendingRel {t : InputState}
    (he : ∀ j, (t.devices j).map (·.pendingRel) = (s.devices j).map (·.pendingRel))
    (h : RelSettled s.devices) : RelSettled t.devices := by
  intro j d hd
  have hj := he j
  rw [hd, Option.map_some', eq_comm, Option.map_eq_some'] at hj
  obtain ⟨d₀, h₀, hr⟩ := hj
  exact hr ▸ h j d₀ h₀

/-- Slots with the same accumulator stay so under any change of it. -/
theorem map_pendingRel_congr {o o' : Option Device}
    (h : o.map (·.pendingRel) = o'.map (·.pendingRel)) (g : PendingRel → PendingRel) :
    o.map (fun d => g d.pendingRel) = o'.map (fun d => g d.pendingRel) := by
  simpa only [Option.map_map, Function.comp_def] using congrArg (Option.map g) h

/-! ### One step -/

/-- A delivered event changes the accumulator of its own slot, and only if it
is forwarded. -/
theorem pendingRel_deliverEvent (h : RelSettled s.devices) (idx : Nat) (ev : InputEvent)
    (ok : Bool) (j : Nat) : ((deliverEvent cfg s idx ev ok).devices j).map (·.pendingRel) =
      ((autoGrabMouse s idx ev ok).devices j).map fun d =>
        if idx = j ∧ (autoGrabMouse s idx ev ok).Forwarded idx then relForward d.pendingRel ev
        else d.pendingRel := by
  have hs : RelSettled (autoGrabMouse s idx ev ok).devices :=
    h.of_pendingRel (pendingRel_autoGrabMouse idx ev ok)
  simp only [deliverEvent]
  generalize autoGrabMouse s idx ev ok = t at hs ⊢
  by_cases hf : t.Forwarded idx
  · simp only [hf, if_true, and_true]
    by_cases hj : j = idx
    · subst hj
      split
      · rename_i d hd
        simp only [InputState.setDevice, if_true, hd, Option.map_some',
          forwardEvent_pendingRel cfg (hs j d hd)]
      · rename_i hd
        rw [hd]
        rfl
    · split <;> simp only [InputState.setDevice, hj, Ne.symm hj, if_false]
  · simp only [hf, if_false, and_false]

/-- An event changes only the accumulator `relAfter` says it changes. -/
theorem pendingRel_inputDeviceEvent (h : RelSettled s.devices) (idx : Nat) (ev : InputEvent)
    (now : Timeval) (ok : Bool) (j : Nat) :
    ((inputDeviceEvent cfg s idx ev now ok).devices j).map (·.pendingRel) =
      (s.devices j).map fun d => relAfter s j d.pendingRel (.event idx ev now ok) := by
  have hd : ∀ ev, ((deliverEvent cfg s idx ev ok).devices j).map (·.pendingRel) =
      (s.devices j).map fun d => relAfter s j d.pendingRel (.event idx ev now ok) := fun ev => by
    rw [pendingRel_deliverEvent h]
    exact map_pendingRel_congr (pendingRel_autoGrabMouse idx ev ok j) fun r =>
      if idx = j ∧ (autoGrabMouse s idx ev ok).Forwarded idx then relForward r ev else r
  unfold inputDeviceEvent
  split
  · split_ifs
    · simp only [pendingRel_handleGrabKey, relAfter, relForward, ite_self]
    · exact hd _
  · exact hd _

theorem pendingRel_inputDeviceEnd (idx : Nat) (ok : Bool) (j : Nat) :
    ((inputDeviceEnd s idx ok).devices j).map (·.pendingRel) =
      if j = idx then none else (s.devices j).map (·.pendingRel) := by
  have hs : ((s.setDevice idx none).devices j).map (·.pendingRel) =
      if j = idx then none else (s.devices j).map (·.pendingRel) := by
    simp only [InputState.setDevice]
    split_ifs <;> rfl
  rw [← hs]
  simp only [inputDeviceEnd]
  split_ifs <;> first | rfl | simp only [pendingRel_inputUngrab]

theorem PendingRel.Settled.relAfter {r : PendingRel} (h : r.Settled) (s : InputState) (i : Nat)
    (e : InputStep) : (relAfter s i r e).Settled := by
  cases e with
  | event idx ev now ok =>
      simp only [Input.relAfter]
      split_ifs
      · cases ev with
        | rel => exact fun h => nomatch h
        | synReport => exact settled_cleared
        | _ => exact h
      · exact h
  | _ => exact h

/-- One step: a device tracked before it has the accumulator `relAfter` gives,
and a device it adds starts with an empty one. -/
theorem pendingRel_inputStep (h : RelSettled s.devices) {e : InputStep}
    (hs : inputStep cfg s e = some s') {i : Nat} {d' : Device} (hd' : s'.devices i = some d') :
    (∃ d, s.devices i = some d ∧ d'.pendingRel = relAfter s i d.pendingRel e) ∨
      s.devices i = none ∧ d'.pendingRel = ⟨false, 0, 0, 0⟩ := by
  rcases inputStep_cases hs with ⟨idx, ev, now, ok, rfl, -, rfl⟩ | ⟨idx, ok, rfl, -, rfl⟩ |
    ⟨result, rfl, rfl⟩
  · -- an event
    have he : ((inputDeviceEvent cfg s idx ev now ok).devices i).map (·.pendingRel) = _ :=
      pendingRel_inputDeviceEvent h idx ev now ok i
    rw [hd', Option.map_some', eq_comm, Option.map_eq_some'] at he
    obtain ⟨d, hd, hr⟩ := he
    exact .inl ⟨d, hd, hr.symm⟩
  · -- the end of a thread
    have he := pendingRel_inputDeviceEnd (s := s) idx ok i
    rw [hd', Option.map_some'] at he
    split_ifs at he
    obtain ⟨d, hd, hr⟩ := Option.map_eq_some'.mp he.symm
    exact .inl ⟨d, hd, hr.symm⟩
  · -- a device added in the first free slot
    unfold inputAddDevice at hd'
    split at hd'
    all_goals first
      | rename_i k hk
        simp only [InputState.setDevice] at hd'
        split_ifs at hd' with hik
        · subst hik
          exact .inr ⟨Option.isNone_iff_eq_none.mp (of_decide_eq_true (by
            simpa using List.find?_some hk)), (Option.some.inj hd') ▸ rfl⟩
        · exact .inl ⟨d', hd', rfl⟩
      | exact .inl ⟨d', hd', rfl⟩

theorem RelSettled.inputStep (h : RelSettled s.devices) {e : InputStep}
    (hs : inputStep cfg s e = some s') : RelSettled s'.devices := by
  intro i d' hd'
  rcases pendingRel_inputStep h hs hd' with ⟨d, hd, hr⟩ | ⟨-, hr⟩
  · exact hr ▸ (h i d hd).relAfter s i e
  · exact hr ▸ PendingRel.settled_cleared

end

/-! ## A touch after hovering -/

/-- A keyboard takes the grab; a touch device, auto-grabbed as the mouse by its
first `ABS_X`, reports a hovering position of 100. The report in which its
touch then begins at 120 (`BTN_TOUCH` down, then `ABS_X`) sends a motion of
20. -/
theorem touch_begin_sends_hover_motion :
    ∃ s, InputReach InputConfig.sample s ∧ s.Forwarded 1 ∧
      (s.devices 1).any (fun d => !d.pendingRelFake.touch) = true ∧
      (inputRun InputConfig.sample s
          [.event 1 (.key 330 1) ⟨101, 0⟩ true, .event 1 (.abs .x 120) ⟨101, 0⟩ true,
           .event 1 .synReport ⟨101, 0⟩ true]).map (·.sent) =
        some (s.sent ++ [(1, .mouseMotion 20 0)]) := by
  obtain ⟨s, hr, hp⟩ := exists_inputReach_of_run InputConfig.sample
    [.add .tracked, .add .tracked,
     .event 0 (.key 97 1) ⟨100, 0⟩ true, .event 0 (.key 97 0) ⟨100, 100000⟩ true,
     .event 1 (.abs .x 100) ⟨101, 0⟩ true, .event 1 .synReport ⟨101, 0⟩ true]
    (fun s => decide (s.Forwarded 1 ∧ (s.devices 1).any (fun d => !d.pendingRelFake.touch) = true ∧
      (inputRun InputConfig.sample s
          [.event 1 (.key 330 1) ⟨101, 0⟩ true, .event 1 (.abs .x 120) ⟨101, 0⟩ true,
           .event 1 .synReport ⟨101, 0⟩ true]).map (·.sent) =
        some (s.sent ++ [(1, .mouseMotion 20 0)]))) (by decide)
  exact ⟨s, hr, of_decide_eq_true hp⟩

end SpicyKvm.Input
