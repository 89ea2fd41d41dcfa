import SpicyKvm.Input.Model

/-!
# The grab state

Two facts hold over every interleaving of the device threads, removals and
additions: a mouse is grabbed only while a keyboard is, and both grabbed slots
hold live, tracked devices. The kernel grabs do not follow the grab state,
though. `temp_ungrabbed_mouse` is cleared by the release of any grab key, but
only a release on the grabbed keyboard grabs the mouse again: with two
keyboards, a long press on the second while the first holds the mouse
ungrabbed leaves the mouse forwarded to SPICE and not grabbed, so its events
reach the host too.
-/

namespace SpicyKvm.Input

variable {cfg : InputConfig} {s s' : InputState}

/-- Slot `i` of `devices` holds a device whose thread runs. -/
def Tracked (devices : Nat → Option Device) (i : Int) : Prop :=
  0 ≤ i ∧ ∃ d, devices i.toNat = some d ∧ d.thread = true

/-- A mouse is grabbed only with a keyboard, and the grabbed slots are tracked. -/
structure GrabSound (s : InputState) : Prop where
  mouse_keyboard : s.grabbedMouse ≠ -1 → s.grabbedKeyboard ≠ -1
  keyboard_tracked : s.grabbedKeyboard ≠ -1 → Tracked s.devices s.grabbedKeyboard
  mouse_tracked : s.grabbedMouse ≠ -1 → Tracked s.devices s.grabbedMouse

/-! ## Tracked slots -/

@[simp] theorem tracked_libevdevGrab {i j : Int} {grab ok : Bool} :
    Tracked (s.libevdevGrab i grab ok).devices j ↔ Tracked s.devices j := by
  unfold InputState.libevdevGrab
  split_ifs
  · simp only [Tracked, InputState.setDevice]
    split_ifs with h <;> simp_all
  · rfl

@[simp] theorem tracked_inputUngrab {j : Int} {ok : Bool} :
    Tracked (inputUngrab s ok).devices j ↔ Tracked s.devices j := by
  simp only [inputUngrab]
  split_ifs <;> simp

/-- Writing a device into a slot keeps every other tracked slot. -/
theorem tracked_setDevice {i : Nat} {j : Int} {d : Option Device} (h : Tracked s.devices j)
    (hi : (s.devices i).isNone ∨ j ≠ i) : Tracked (s.setDevice i d).devices j := by
  obtain ⟨hj, d₀, hd, ht⟩ := h
  refine ⟨hj, d₀, ?_, ht⟩
  simp only [InputState.setDevice]
  split_ifs with h₀
  · subst h₀
    rw [hd] at hi
    exact absurd (Int.toNat_of_nonneg hj).symm (hi.resolve_left nofun)
  · exact hd

/-- `input_ungrab` leaves nothing grabbed. -/
theorem inputUngrab_grabbed (s : InputState) (ok : Bool) :
    (inputUngrab s ok).grabbedKeyboard = -1 ∧ (inputUngrab s ok).grabbedMouse = -1 := by
  simp only [inputUngrab]
  split_ifs <;> simp_all

theorem grabSound_of_none (hk : s.grabbedKeyboard = -1) (hm : s.grabbedMouse = -1) : GrabSound s :=
  ⟨fun h => absurd hm h, fun h => absurd hk h, fun h => absurd hm h⟩

theorem grabSound_inputUngrab (s : InputState) (ok : Bool) : GrabSound (inputUngrab s ok) :=
  grabSound_of_none (inputUngrab_grabbed s ok).1 (inputUngrab_grabbed s ok).2

/-- A state with the grab fields and devices of a sound one is sound. -/
theorem GrabSound.of_eq (h : GrabSound s) (hk : s'.grabbedKeyboard = s.grabbedKeyboard)
    (hm : s'.grabbedMouse = s.grabbedMouse) (hd : ∀ j, Tracked s'.devices j ↔ Tracked s.devices j) :
    GrabSound s' :=
  ⟨hk ▸ hm ▸ h.mouse_keyboard, fun hne => (hd _).2 (hk ▸ h.keyboard_tracked (hk ▸ hne)),
    fun hne => (hd _).2 (hm ▸ h.mouse_tracked (hm ▸ hne))⟩

theorem GrabSound.libevdevGrab (h : GrabSound s) (i : Int) (grab ok : Bool) :
    GrabSound (s.libevdevGrab i grab ok) :=
  h.of_eq (by simp) (by simp) fun _ => tracked_libevdevGrab

/-! ## The grab key -/

theorem GrabSound.setGrabKey (h : GrabSound s) (at_ : Timeval) (temp : Bool) :
    GrabSound { s with grabKeyAt := at_, tempUngrabbedMouse := temp } :=
  h.of_eq rfl rfl fun _ => Iff.rfl

/-- A state where only this device may be grabbed, as the keyboard. -/
theorem grabSound_keyboard_only (idx : Nat) (hk : s.grabbedKeyboard = -1 ∨ s.grabbedKeyboard = idx)
    (hm : s.grabbedMouse = -1) (ht : Tracked s.devices idx) : GrabSound s :=
  ⟨fun h => absurd hm h, fun h => by rcases hk with hk | hk <;> simp_all, fun h => absurd hm h⟩

/-- A grab-key release toggles the grab to this keyboard or away, with no mouse
grabbed, or grabs the mouse back. -/
theorem GrabSound.grabKeyRelease (h : GrabSound s) {idx : Nat} (ht : Tracked s.devices idx)
    (now : Timeval) (ok : Bool) : GrabSound (grabKeyRelease s idx now ok) := by
  simp only [Input.grabKeyRelease]
  apply GrabSound.setGrabKey
  have hm : s.grabbedKeyboard = -1 → s.grabbedMouse = -1 := fun hk => not_not.1 (mt h.mouse_keyboard (not_not.2 hk))
  have hu := inputUngrab_grabbed s ok
  split_ifs <;> first
    | exact h.libevdevGrab _ _ _
    | exact grabSound_inputUngrab _ _
    | exact h
    | apply grabSound_keyboard_only idx <;> simp_all

theorem GrabSound.handleGrabKey (h : GrabSound s) {idx : Nat} (ht : Tracked s.devices idx)
    (value : Int) (now : Timeval) (ok : Bool) : GrabSound (handleGrabKey s idx value now ok) := by
  have release : ∀ t : InputState, GrabSound t → Tracked t.devices idx →
      GrabSound (if value = 0 then Input.grabKeyRelease t idx now ok else t) := fun t h ht => by
    split_ifs
    · exact h.grabKeyRelease ht now ok
    · exact h
  simp only [Input.handleGrabKey]
  apply release <;> split_ifs <;> first
    | exact (h.setGrabKey _ _).libevdevGrab _ _ _ |>.setGrabKey _ _
    | exact h.setGrabKey _ _
    | exact h
    | simpa using ht

/-! ## The mouse auto-grab and forwarded events -/

theorem GrabSound.autoGrabMouse (h : GrabSound s) {idx : Nat} (ht : Tracked s.devices idx)
    (ev : InputEvent) (ok : Bool) :
    GrabSound (autoGrabMouse s idx ev ok) ∧ Tracked (autoGrabMouse s idx ev ok).devices idx := by
  unfold Input.autoGrabMouse
  split_ifs with hc hk
  · exact ⟨⟨fun _ => hc.1, h.keyboard_tracked, fun _ => h.keyboard_tracked hc.1⟩, ht⟩
  · refine ⟨⟨fun _ => by simpa using hc.1, fun hne => ?_, fun _ => by simpa using ht⟩, by simpa using ht⟩
    simpa using h.keyboard_tracked (by simpa using hne)
  · exact ⟨h, ht⟩
  · exact ⟨h, ht⟩

/-- Replacing a tracked device by one whose thread runs keeps every slot's
tracking. -/
theorem tracked_setDevice_thread {i : Nat} {j : Int} {d : Device} (hi : Tracked s.devices i)
    (hd : d.thread = true) : Tracked (s.setDevice i (some d)).devices j ↔ Tracked s.devices j := by
  obtain ⟨-, d₀, h₀, ht₀⟩ := hi
  simp only [Tracked, InputState.setDevice]
  split_ifs with hj
  · simp at h₀
    simp [hj, h₀, hd, ht₀]
  · rfl

theorem GrabSound.deliverEvent (h : GrabSound s) {idx : Nat} (ht : Tracked s.devices idx)
    (ev : InputEvent) (ok : Bool) : GrabSound (deliverEvent cfg s idx ev ok) := by
  obtain ⟨ha, hta⟩ := h.autoGrabMouse ht ev ok
  simp only [Input.deliverEvent]
  generalize Input.autoGrabMouse s idx ev ok = t at ha hta
  split_ifs
  · split
    · rename_i d hd
      have hthread : d.thread = true := by
        obtain ⟨-, d₀, h₀, ht₀⟩ := hta
        simp_all
      exact ha.of_eq rfl rfl fun _ => tracked_setDevice_thread hta (by simpa using hthread)
    · exact ha
  · exact ha

/-! ## Devices coming and going -/

theorem GrabSound.inputDeviceEnd (h : GrabSound s) (idx : Nat) (ok : Bool) :
    GrabSound (inputDeviceEnd s idx ok) := by
  simp only [Input.inputDeviceEnd]
  by_cases hu : s.grabbedKeyboard = (idx : Int) ∨ s.grabbedMouse = (idx : Int)
  · rw [if_pos hu]
    exact grabSound_inputUngrab _ _
  · obtain ⟨hk, hm⟩ := not_or.1 hu
    rw [if_neg hu, if_neg hk, if_neg hm]
    exact ⟨h.mouse_keyboard, fun hne => tracked_setDevice (h.keyboard_tracked hne) (.inr hk),
      fun hne => tracked_setDevice (h.mouse_tracked hne) (.inr hm)⟩

/-- A new device takes a free slot, so every tracked slot stays tracked. -/
theorem GrabSound.setFreeDevice (h : GrabSound s) {i : Nat} (hi : (s.devices i).isNone)
    (d : Option Device) : GrabSound (s.setDevice i d) :=
  ⟨h.mouse_keyboard, fun hne => tracked_setDevice (h.keyboard_tracked hne) (.inl hi),
    fun hne => tracked_setDevice (h.mouse_tracked hne) (.inl hi)⟩

theorem GrabSound.inputAddDevice (h : GrabSound s) (result : AddResult) :
    GrabSound (inputAddDevice s result) := by
  unfold Input.inputAddDevice
  split
  all_goals first
    | exact h
    | rename_i hi
      have hn := List.find?_some hi
      exact h.setFreeDevice hn _

/-! ## Every run -/

theorem GrabSound.inputStep (h : GrabSound s) {e : InputStep} (hs : inputStep cfg s e = some s') :
    GrabSound s' := by
  rcases inputStep_cases hs with ⟨idx, ev, now, ok, -, hthread, rfl⟩ | ⟨idx, ok, -, -, rfl⟩ |
    ⟨result, -, rfl⟩
  · have ht : Tracked s.devices idx := by
      cases hd : s.devices idx with
      | none => simp [hd] at hthread
      | some d => exact ⟨by omega, d, by simpa using hd, by simpa [hd] using hthread⟩
    cases ev with
    | key code value =>
        simp only [Input.inputDeviceEvent]
        split_ifs
        · exact h.handleGrabKey ht _ _ _
        · exact h.deliverEvent ht _ _
    | _ => exact h.deliverEvent ht _ _
  · exact h.inputDeviceEnd _ _
  · exact h.inputAddDevice _

theorem grabSound_of_reach (h : InputReach cfg s) : GrabSound s := by
  induction h with
  | init => exact grabSound_of_none rfl rfl
  | step _ hs ih => exact ih.inputStep hs

/-- **The grab state is sound, the kernel grabs do not follow it.** Over every
interleaving, whichever grab calls fail, a mouse is grabbed only with a
keyboard and both grabbed slots hold tracked devices. Yet with every grab call
succeeding: keyboard 0 takes the grab, mouse 1 is auto-grabbed, keyboard 0
holds the grab key (the mouse is ungrabbed), and keyboard 2 presses and
releases the grab key a second later; the mouse is then forwarded to SPICE
without a kernel grab. -/
theorem mouse_forwarded_without_kernel_grab :
    (∀ cfg s, InputReach cfg s →
      (s.grabbedMouse ≠ -1 → s.grabbedKeyboard ≠ -1) ∧
      (s.grabbedKeyboard ≠ -1 → Tracked s.devices s.grabbedKeyboard) ∧
      (s.grabbedMouse ≠ -1 → Tracked s.devices s.grabbedMouse)) ∧
    ∃ s, InputReach InputConfig.sample s ∧ s.Forwarded 1 ∧
      (s.devices 1).map (·.grabbed) = some false := by
  refine ⟨fun cfg s h => ?_, ?_⟩
  · have g := grabSound_of_reach h
    exact ⟨g.mouse_keyboard, g.keyboard_tracked, g.mouse_tracked⟩
  · obtain ⟨s, hr, hp⟩ := exists_inputReach_of_run InputConfig.sample
      [.add .tracked, .add .tracked, .add .tracked,
       .event 0 (.key 97 1) ⟨100, 0⟩ true, .event 0 (.key 97 0) ⟨100, 100000⟩ true,
       .event 1 (.rel .x 5) ⟨101, 0⟩ true,
       .event 0 (.key 97 1) ⟨200, 0⟩ true,
       .event 2 (.key 97 1) ⟨201, 0⟩ true, .event 2 (.key 97 0) ⟨202, 0⟩ true]
      (fun s => decide (s.Forwarded 1 ∧ (s.devices 1).map (·.grabbed) = some false)) (by decide)
    exact ⟨s, hr, of_decide_eq_true hp⟩

/-! ## The slots of `input.libevdev` -/

@[simp] theorem isSome_libevdevGrab (i : Int) (grab ok : Bool) (j : Nat) :
    ((s.libevdevGrab i grab ok).devices j).isSome = (s.devices j).isSome := by
  unfold InputState.libevdevGrab
  split_ifs
  · simp only [InputState.setDevice]
    split_ifs with h
    · simp [h]
    · rfl
  · rfl

@[simp] theorem isSome_inputUngrab (ok : Bool) (j : Nat) :
    ((inputUngrab s ok).devices j).isSome = (s.devices j).isSome := by
  simp only [inputUngrab]
  split_ifs <;> simp only [isSome_libevdevGrab]

@[simp] theorem isSome_grabKeyRelease (idx : Nat) (now : Timeval) (ok : Bool) (j : Nat) :
    ((grabKeyRelease s idx now ok).devices j).isSome = (s.devices j).isSome := by
  simp only [grabKeyRelease]
  split_ifs <;> simp only [isSome_inputUngrab, isSome_libevdevGrab]

@[simp] theorem isSome_handleGrabKey (idx : Nat) (value : Int) (now : Timeval) (ok : Bool) (j : Nat) :
    ((handleGrabKey s idx value now ok).devices j).isSome = (s.devices j).isSome := by
  simp only [handleGrabKey]
  split_ifs <;> simp only [isSome_grabKeyRelease, isSome_libevdevGrab]

@[simp] theorem isSome_autoGrabMouse (idx : Nat) (ev : InputEvent) (ok : Bool) (j : Nat) :
    ((autoGrabMouse s idx ev ok).devices j).isSome = (s.devices j).isSome := by
  unfold autoGrabMouse
  split_ifs <;> simp only [isSome_libevdevGrab]

theorem isSome_deliverEvent (idx : Nat) (ev : InputEvent) (ok : Bool) (j : Nat) :
    ((deliverEvent cfg s idx ev ok).devices j).isSome = (s.devices j).isSome := by
  simp only [deliverEvent]
  split_ifs
  · split
    · rename_i d hd
      simp only [InputState.setDevice]
      split_ifs with h
      · rw [h, ← isSome_autoGrabMouse idx ev ok, hd]
        rfl
      · simp
    · simp
  · simp

/-- An event changes which slots hold a device nowhere. -/
theorem isSome_inputDeviceEvent (idx : Nat) (ev : InputEvent) (now : Timeval) (ok : Bool) (j : Nat) :
    ((inputDeviceEvent cfg s idx ev now ok).devices j).isSome = (s.devices j).isSome := by
  unfold inputDeviceEvent
  split
  · split_ifs
    · simp
    · exact isSome_deliverEvent ..
  · exact isSome_deliverEvent ..

/-- The end of a thread frees its slot and no other. -/
theorem isSome_inputDeviceEnd (idx : Nat) (ok : Bool) (j : Nat) :
    ((inputDeviceEnd s idx ok).devices j).isSome = (decide (j ≠ idx) && (s.devices j).isSome) := by
  have hs : ((s.setDevice idx none).devices j).isSome = (decide (j ≠ idx) && (s.devices j).isSome) := by
    simp only [InputState.setDevice]
    split_ifs with h <;> simp [h]
  simp only [inputDeviceEnd]
  split_ifs <;> simp only [isSome_inputUngrab] <;> exact hs

/-- Every slot holding a device is one of `input.libevdev`'s
`MAX_INPUT_DEVICES`. -/
def SlotsInRange (devices : Nat → Option Device) : Prop :=
  ∀ i, (devices i).isSome → i < maxInputDevices

theorem SlotsInRange.inputStep (h : SlotsInRange s.devices) {e : InputStep}
    (hs : Input.inputStep cfg s e = some s') : SlotsInRange s'.devices := by
  rcases inputStep_cases hs with ⟨idx, ev, now, ok, -, -, rfl⟩ | ⟨idx, ok, -, -, rfl⟩ |
    ⟨result, -, rfl⟩
  · intro i hi
    exact h i (by rwa [isSome_inputDeviceEvent] at hi)
  · intro i hi
    rw [isSome_inputDeviceEnd, Bool.and_eq_true] at hi
    exact h i hi.2
  · intro i hi
    unfold Input.inputAddDevice at hi
    split at hi
    all_goals first
      | exact h i hi
      | rename_i j hj
        simp only [InputState.setDevice] at hi
        split_ifs at hi with hij
        · exact hij ▸ List.mem_range.mp (List.mem_of_find?_eq_some hj)
        · exact h i hi

/-- **The input layer stays inside `input.libevdev`.** Over every interleaving
of the device threads, removals and additions, whichever grab calls fail:
devices sit only in the array's `MAX_INPUT_DEVICES` slots, and the grabbed
keyboard and mouse are `-1` or one of those slots; so the slot of a running
thread and every `input.libevdev[...]` the grab code reads are inside the
array. -/
theorem slots_within_libevdev (h : InputReach cfg s) :
    (∀ i, (s.devices i).isSome → i < maxInputDevices) ∧
      (s.grabbedKeyboard = -1 ∨ 0 ≤ s.grabbedKeyboard ∧ s.grabbedKeyboard < maxInputDevices) ∧
      (s.grabbedMouse = -1 ∨ 0 ≤ s.grabbedMouse ∧ s.grabbedMouse < maxInputDevices) := by
  have hr : SlotsInRange s.devices := by
    induction h with
    | init => exact fun _ hi => absurd hi (by simp [InputState.init])
    | step _ hs ih => exact ih.inputStep hs
  have hslot : ∀ j : Int, j ≠ -1 → Tracked s.devices j → 0 ≤ j ∧ j < maxInputDevices := by
    rintro j - ⟨hj, d, hd, -⟩
    have := hr j.toNat (by simp [hd])
    omega
  have g := grabSound_of_reach h
  refine ⟨hr, ?_, ?_⟩
  · by_cases hk : s.grabbedKeyboard = -1
    · exact .inl hk
    · exact .inr (hslot _ hk (g.keyboard_tracked hk))
  · by_cases hm : s.grabbedMouse = -1
    · exact .inl hm
    · exact .inr (hslot _ hm (g.mouse_tracked hm))

/-- A keyboard that has taken the grab, and a second device that became the
mouse by moving the pointer. -/
theorem slots_within_libevdev_grabbed :
    ∃ s, InputReach InputConfig.sample s ∧ s.grabbedKeyboard = 0 ∧ s.grabbedMouse = 1 ∧
      (∀ i, (s.devices i).isSome → i < maxInputDevices) ∧
      (s.grabbedKeyboard = -1 ∨ 0 ≤ s.grabbedKeyboard ∧ s.grabbedKeyboard < maxInputDevices) ∧
      (s.grabbedMouse = -1 ∨ 0 ≤ s.grabbedMouse ∧ s.grabbedMouse < maxInputDevices) := by
  obtain ⟨s, hr, hp⟩ := exists_inputReach_of_run InputConfig.sample
    [.add .tracked, .add .tracked, .event 0 (.key 97 1) ⟨1, 0⟩ true,
     .event 0 (.key 97 0) ⟨1, 100000⟩ true, .event 1 (.rel .x 5) ⟨2, 0⟩ true]
    (fun s => decide (s.grabbedKeyboard = 0 ∧ s.grabbedMouse = 1)) (by decide)
  obtain ⟨h₁, h₂⟩ := of_decide_eq_true hp
  exact ⟨s, hr, h₁, h₂, slots_within_libevdev hr⟩

end SpicyKvm.Input
