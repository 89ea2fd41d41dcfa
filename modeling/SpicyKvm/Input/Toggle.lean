import SpicyKvm.Input.Grab
import SpicyKvm.Input.Forwarding

/-!
# The grab toggle

`main` switches the display on `input_is_grabbed()`, which reads
`grabbed_keyboard != -1`. Over every interleaving of the device threads the
grabbed keyboard and mouse move at four kinds of step only: a short release of
a grab key toggles the grab to its keyboard or away; the first pointer motion
while a keyboard is grabbed without a mouse makes its device the mouse; and
the end of a grabbed device's thread ungrabs everything, so that removing the
grabbed mouse releases the keyboard too. A long press, every other event, and
a new device leave both slots as they are.

In a sound state the short release is the plain toggle `toggleGrab`: the
second `input_ungrab` of the code ("ungrabbing old inputs") never finds
anything to release.

Holding a grab key on the grabbed keyboard lends the mouse to the host for as
long as the key is down (`grab_key_hold_lends_mouse`): its kernel grab is
dropped and its events are not forwarded, whatever the other threads do
meanwhile, until a long press ends on that keyboard and the mouse is grabbed
again. The invariant is `Lends`, its step lemma `Lends.inputStep`. The release
of a grab key on another keyboard is not such an end: it clears
`temp_ungrabbed_mouse` without asking for the mouse's kernel grab again.
-/

namespace SpicyKvm.Input

variable {cfg : InputConfig} {s s' : InputState}

/-- A release of the grab key at `now` ends a short press: the down time is
unknown, or less than 250 ms ago. -/
def InputState.ShortPress (s : InputState) (now : Timeval) : Prop :=
  s.grabKeyAt.sec = 0 ∨ tvMsDiff now s.grabKeyAt < 250

instance (s : InputState) (now : Timeval) : Decidable (s.ShortPress now) :=
  inferInstanceAs (Decidable (_ ∨ _))

/-- The toggle of a short release, stated plainly: release everything, then,
unless this keyboard held the grab, grab it as the keyboard with no mouse if
its kernel grab succeeds. -/
def toggleGrab (s : InputState) (idx : Nat) (ok : Bool) : InputState :=
  let t := inputUngrab s ok
  if s.grabbedKeyboard ≠ idx ∧ ok then { t.libevdevGrab idx true ok with grabbedKeyboard := idx }
  else t

/-! ## The short release -/

theorem inputUngrab_of_none (hk : s.grabbedKeyboard = -1) (hm : s.grabbedMouse = -1) (ok : Bool) :
    inputUngrab s ok = s := by
  simp [inputUngrab, hk, hm]

theorem GrabSound.mouse_none (h : GrabSound s) (hk : s.grabbedKeyboard = -1) :
    s.grabbedMouse = -1 :=
  not_not.1 (mt h.mouse_keyboard (not_not.2 hk))

/-- In a sound state the short release is the plain toggle. -/
theorem GrabSound.grabKeyRelease_short (h : GrabSound s) {now : Timeval} (hs : s.ShortPress now)
    (idx : Nat) (ok : Bool) :
    Input.grabKeyRelease s idx now ok =
      { toggleGrab s idx ok with grabKeyAt := ⟨0, 0⟩, tempUngrabbedMouse := false } := by
  have first : (if s.grabbedKeyboard ≠ -1 then inputUngrab s ok else s) = inputUngrab s ok := by
    split_ifs with hk
    · rfl
    · exact (inputUngrab_of_none (not_not.1 hk) (h.mouse_none (not_not.1 hk)) ok).symm
  have hu := inputUngrab_grabbed s ok
  simp only [Input.grabKeyRelease, toggleGrab, if_pos (show _ ∨ _ from hs), first,
    InputState.libevdevGrab_grabbedKeyboard, InputState.libevdevGrab_grabbedMouse, hu.1, hu.2,
    ne_eq, not_true_eq_false, or_self, if_false]

/-- A grab key's release runs the release branch only. -/
theorem handleGrabKey_release (s : InputState) (idx : Nat) (now : Timeval) (ok : Bool) :
    handleGrabKey s idx 0 now ok = grabKeyRelease s idx now ok := by
  simp [handleGrabKey]

/-- What the toggle leaves in the slots: this keyboard, if it did not hold the
grab and its kernel grab succeeded, and no mouse. -/
theorem toggleGrab_grabbed (s : InputState) (idx : Nat) (ok : Bool) :
    (toggleGrab s idx ok).grabbedKeyboard =
        (if s.grabbedKeyboard ≠ idx ∧ ok then (idx : Int) else -1) ∧
      (toggleGrab s idx ok).grabbedMouse = -1 := by
  have hu := inputUngrab_grabbed s ok
  simp only [toggleGrab]
  split_ifs <;> simp_all

/-- A long press moves neither slot. -/
theorem grabKeyRelease_long {now : Timeval} (hs : ¬s.ShortPress now) (idx : Nat) (ok : Bool) :
    (grabKeyRelease s idx now ok).grabbedKeyboard = s.grabbedKeyboard ∧
      (grabKeyRelease s idx now ok).grabbedMouse = s.grabbedMouse := by
  simp only [grabKeyRelease, InputState.ShortPress] at hs ⊢
  rw [if_neg hs]
  split_ifs <;> simp

/-! ## Which steps move the slots -/

/-- How one step may move the grabbed keyboard and mouse. -/
inductive GrabMove (cfg : InputConfig) (s : InputState) : InputStep → InputState → Prop
  /-- both slots stay -/
  | keep {e : InputStep} {s' : InputState} :
      s'.grabbedKeyboard = s.grabbedKeyboard → s'.grabbedMouse = s.grabbedMouse →
      GrabMove cfg s e s'
  /-- a short release of a grab key toggles the grab -/
  | toggle {idx code : Nat} {now : Timeval} {ok : Bool} {s' : InputState} :
      cfg.grabKey code = true → s.ShortPress now →
      s'.grabbedKeyboard = (if s.grabbedKeyboard ≠ idx ∧ ok then (idx : Int) else -1) →
      s'.grabbedMouse = -1 → GrabMove cfg s (.event idx (.key code 0) now ok) s'
  /-- the first pointer motion under a grabbed keyboard grabs its device -/
  | autoGrab {idx : Nat} {ev : InputEvent} {now : Timeval} {ok : Bool} {s' : InputState} :
      ev.IsPointerMotion → s.grabbedKeyboard ≠ -1 → s.grabbedMouse = -1 →
      s'.grabbedKeyboard = s.grabbedKeyboard → s'.grabbedMouse = idx →
      GrabMove cfg s (.event idx ev now ok) s'
  /-- the end of a grabbed device's thread ungrabs everything -/
  | release {idx : Nat} {ok : Bool} {s' : InputState} :
      s.grabbedKeyboard = idx ∨ s.grabbedMouse = idx → s'.grabbedKeyboard = -1 →
      s'.grabbedMouse = -1 → GrabMove cfg s (.remove idx ok) s'

/-- The mouse auto-grab keeps the keyboard and moves the mouse only onto the
device whose motion it saw. -/
theorem autoGrabMouse_grabbed (s : InputState) (idx : Nat) (ev : InputEvent) (ok : Bool) :
    (autoGrabMouse s idx ev ok).grabbedKeyboard = s.grabbedKeyboard ∧
      ((autoGrabMouse s idx ev ok).grabbedMouse = s.grabbedMouse ∨
        ev.IsPointerMotion ∧ s.grabbedKeyboard ≠ -1 ∧ s.grabbedMouse = -1 ∧
          (autoGrabMouse s idx ev ok).grabbedMouse = idx) := by
  unfold autoGrabMouse
  split_ifs with hc hk
  · exact ⟨rfl, .inr ⟨hc.2.2, hc.1, hc.2.1, hk.symm⟩⟩
  · exact ⟨by simp, .inr ⟨hc.2.2, hc.1, hc.2.1, rfl⟩⟩
  · exact ⟨rfl, .inl rfl⟩
  · exact ⟨rfl, .inl rfl⟩

theorem GrabMove.deliverEvent (idx : Nat) (ev : InputEvent) (now : Timeval) (ok : Bool) :
    GrabMove cfg s (.event idx ev now ok) (Input.deliverEvent cfg s idx ev ok) := by
  have hd : (Input.deliverEvent cfg s idx ev ok).grabbedKeyboard =
        (autoGrabMouse s idx ev ok).grabbedKeyboard ∧
      (Input.deliverEvent cfg s idx ev ok).grabbedMouse = (autoGrabMouse s idx ev ok).grabbedMouse := by
    simp only [Input.deliverEvent]
    split_ifs
    · split <;> exact ⟨rfl, rfl⟩
    · exact ⟨rfl, rfl⟩
  obtain ⟨hk, hm | ⟨hp, hkb, hmn, hm⟩⟩ := autoGrabMouse_grabbed s idx ev ok
  · exact .keep (hd.1.trans hk) (hd.2.trans hm)
  · exact .autoGrab hp hkb hmn (hd.1.trans hk) (hd.2.trans hm)

theorem GrabSound.grabMove_handleGrabKey (h : GrabSound s) {idx code : Nat} (hg : cfg.grabKey code = true)
    (value : Int) (now : Timeval) (ok : Bool) :
    GrabMove cfg s (.event idx (.key code value) now ok) (Input.handleGrabKey s idx value now ok) := by
  by_cases hv : value = 0
  · subst hv
    rw [handleGrabKey_release]
    by_cases hs : s.ShortPress now
    · obtain ⟨hk, hm⟩ := toggleGrab_grabbed s idx ok
      rw [h.grabKeyRelease_short hs]
      exact .toggle hg hs hk hm
    · exact .keep (grabKeyRelease_long hs idx ok).1 (grabKeyRelease_long hs idx ok).2
  · simp only [Input.handleGrabKey, if_neg hv]
    split_ifs <;> exact .keep (by simp) (by simp)

theorem grabMove_inputDeviceEnd (idx : Nat) (ok : Bool) :
    GrabMove cfg s (.remove idx ok) (inputDeviceEnd s idx ok) := by
  simp only [inputDeviceEnd]
  by_cases hu : s.grabbedKeyboard = (idx : Int) ∨ s.grabbedMouse = (idx : Int)
  · rw [if_pos hu]
    exact .release hu (inputUngrab_grabbed _ ok).1 (inputUngrab_grabbed _ ok).2
  · obtain ⟨hk, hm⟩ := not_or.1 hu
    rw [if_neg hu]
    exact .keep (by simp [hk]) (by simp [hm])

theorem inputAddDevice_grabbed (s : InputState) (result : AddResult) :
    (inputAddDevice s result).grabbedKeyboard = s.grabbedKeyboard ∧
      (inputAddDevice s result).grabbedMouse = s.grabbedMouse := by
  unfold inputAddDevice
  split <;> exact ⟨rfl, rfl⟩

theorem GrabSound.grabMove (h : GrabSound s) {e : InputStep} (hs : Input.inputStep cfg s e = some s') :
    GrabMove cfg s e s' := by
  rcases inputStep_cases hs with ⟨idx, ev, now, ok, rfl, -, rfl⟩ | ⟨idx, ok, rfl, -, rfl⟩ |
    ⟨result, rfl, rfl⟩
  · cases ev with
    | key code value =>
        simp only [inputDeviceEvent]
        split_ifs with hg
        · exact h.grabMove_handleGrabKey hg value now ok
        · exact .deliverEvent idx _ now ok
    | _ => exact .deliverEvent idx _ now ok
  · exact grabMove_inputDeviceEnd idx ok
  · exact .keep (inputAddDevice_grabbed s result).1 (inputAddDevice_grabbed s result).2

/-- **The grab moves only at a toggle, an auto-grab or a release.** From every
reachable state, whatever the interleaving and whichever grab calls fail, a
step leaves the grabbed keyboard and mouse as they are, unless it is a short
release of a grab key (the keyboard becomes this device if it did not hold the
grab and its kernel grab succeeded, otherwise nothing; no mouse), the first
pointer motion while a keyboard is grabbed without a mouse (its device becomes
the mouse), or the end of the thread of the grabbed keyboard or mouse
(nothing stays grabbed). -/
theorem grab_moves_only_at_toggles (hr : InputReach cfg s) {e : InputStep}
    (hs : inputStep cfg s e = some s') : GrabMove cfg s e s' :=
  (grabSound_of_reach hr).grabMove hs

/-- The first short release on a new keyboard grabs it. -/
theorem grab_moves_only_at_toggles_first_grab :
    ∃ s s', InputReach InputConfig.sample s ∧
      inputStep InputConfig.sample s (.event 0 (.key 97 0) ⟨1, 100000⟩ true) = some s' ∧
      s.grabbedKeyboard = -1 ∧ s'.grabbedKeyboard = 0 ∧
      GrabMove InputConfig.sample s (.event 0 (.key 97 0) ⟨1, 100000⟩ true) s' := by
  obtain ⟨s, s', hr, hs, hp⟩ := exists_inputReach_step_of_run InputConfig.sample
    [.add .tracked, .event 0 (.key 97 1) ⟨1, 0⟩ true] (.event 0 (.key 97 0) ⟨1, 100000⟩ true)
    (fun s s' => decide (s.grabbedKeyboard = -1 ∧ s'.grabbedKeyboard = 0)) (by decide)
  obtain ⟨h₁, h₂⟩ := of_decide_eq_true hp
  exact ⟨s, s', hr, hs, h₁, h₂, grab_moves_only_at_toggles hr hs⟩

/-- In a sound state, a step that is the short release of a grab key is the
plain toggle. -/
theorem GrabSound.inputStep_shortRelease (h : GrabSound s) {idx code : Nat} {now : Timeval}
    {ok : Bool} (hg : cfg.grabKey code = true) (hshort : s.ShortPress now)
    (hs : Input.inputStep cfg s (.event idx (.key code 0) now ok) = some s') :
    s' = { toggleGrab s idx ok with grabKeyAt := ⟨0, 0⟩, tempUngrabbedMouse := false } := by
  rcases inputStep_cases hs with ⟨_, _, _, _, he, -, rfl⟩ | ⟨_, _, he, -⟩ | ⟨_, he, -⟩
  · cases he
    simp only [inputDeviceEvent, hg, if_true, handleGrabKey_release]
    exact h.grabKeyRelease_short hshort idx ok
  · cases he
  · cases he

/-- **A short release is the plain toggle.** From every reachable state, the
release of a grab key that ends a short press, on any running thread, is
exactly `toggleGrab` followed by clearing the stored down time and the
temporary mouse ungrab: all grabbed devices are released, and the releasing
keyboard is grabbed unless it held the grab. -/
theorem short_release_toggles (hr : InputReach cfg s) {idx code : Nat} {now : Timeval} {ok : Bool}
    (hg : cfg.grabKey code = true) (hshort : s.ShortPress now)
    (hs : inputStep cfg s (.event idx (.key code 0) now ok) = some s') :
    s' = { toggleGrab s idx ok with grabKeyAt := ⟨0, 0⟩, tempUngrabbedMouse := false } :=
  (grabSound_of_reach hr).inputStep_shortRelease hg hshort hs

/-- The first short release on a new keyboard is the toggle that grabs it. -/
theorem short_release_toggles_first_grab :
    let s := inputAddDevice InputState.init .tracked
    inputDeviceEvent InputConfig.sample s 0 (.key 97 0) ⟨1, 0⟩ true =
      { toggleGrab s 0 true with grabKeyAt := ⟨0, 0⟩, tempUngrabbedMouse := false } :=
  short_release_toggles
    (.step .init (show inputStep InputConfig.sample InputState.init (.add .tracked) = some _ from rfl))
    (show InputConfig.sample.grabKey 97 = true from rfl) (.inl rfl) rfl

/-! ## Holding the grab key -/

/-- `libevdev_grab` sets the kernel grab of the slot it is called on when it
succeeds, and of no other slot. -/
theorem InputState.grabbed_libevdevGrab (s : InputState) (i : Int) (grab ok : Bool) (j : Nat) :
    ((s.libevdevGrab i grab ok).devices j).map (·.grabbed) =
      if ok ∧ i = j then (s.devices j).map fun _ => grab else (s.devices j).map (·.grabbed) := by
  unfold InputState.libevdevGrab
  by_cases h : ok ∧ i = j
  · obtain ⟨rfl, rfl⟩ := h
    cases hd : s.devices j <;> simp [InputState.setDevice, hd, Int.ofNat_zero_le]
  · rw [if_neg h]
    split_ifs with h'
    · simp only [InputState.setDevice]
      rw [if_neg fun hj => h ⟨h'.1, by omega⟩]
    · rfl

/-- The grab key is down on the grabbed keyboard `idx`, and the grabbed mouse
`m` is lent to the host: marked temporarily ungrabbed, with its kernel grab
dropped. -/
structure Lends (s : InputState) (idx m : Nat) : Prop where
  keyboard : s.grabbedKeyboard = idx
  mouse : s.grabbedMouse = m
  temp : s.tempUngrabbedMouse = true
  released : (s.devices m).map (·.grabbed) = some false

/-- A step that may come while the grab key is held: anything but the release
of a grab key and the end of the keyboard's or the mouse's thread. -/
def InputStep.KeepsHold (cfg : InputConfig) (idx m : Nat) : InputStep → Prop
  | .event _ (.key code value) _ _ => cfg.grabKey code = true → value ≠ 0
  | .event .. | .add _ => True
  | .remove j _ => j ≠ idx ∧ j ≠ m

instance (cfg : InputConfig) (idx m : Nat) : DecidablePred (InputStep.KeepsHold cfg idx m)
  | .event _ (.key _ _) _ _ => inferInstanceAs (Decidable (_ → _))
  | .event _ (.rel _ _) _ _ | .event _ (.abs _ _) _ _ | .event _ .synReport _ _
  | .event _ .other _ _ | .add _ => isTrue trivial
  | .remove .. => inferInstanceAs (Decidable (_ ∧ _))

/-- Between `s` and `s'` no call into `purespice` comes from slot `m`. -/
def NoneSentBy (m : Nat) (s s' : InputState) : Prop :=
  ∃ out : List (Nat × SpiceMsg), s'.sent = s.sent ++ out ∧ ∀ x ∈ out, x.1 ≠ m

theorem NoneSentBy.of_eq {m : Nat} (h : s'.sent = s.sent) : NoneSentBy m s s' :=
  ⟨[], by rw [h, List.append_nil], nofun⟩

theorem NoneSentBy.trans {m : Nat} {s'' : InputState} (h : NoneSentBy m s s')
    (h' : NoneSentBy m s' s'') : NoneSentBy m s s'' := by
  obtain ⟨out, hs, ho⟩ := h
  obtain ⟨out', hs', ho'⟩ := h'
  exact ⟨out ++ out', by rw [hs', hs, List.append_assoc], fun x hx =>
    (List.mem_append.mp hx).elim (ho x) (ho' x)⟩

section
variable {idx m : Nat}

theorem Lends.not_forwarded (h : Lends s idx m) : ¬s.Forwarded m :=
  fun hf => hf.2 ⟨h.temp, h.mouse⟩

theorem Lends.isSome (h : Lends s idx m) : (s.devices m).isSome := by
  rw [← Option.isSome_map', h.released]
  rfl

/-- Another press of a grab key, or a repeat, keeps the mouse lent. -/
theorem Lends.handleGrabKey (h : Lends s idx m) (j : Nat) {value : Int} (hv : value ≠ 0)
    (now : Timeval) (ok : Bool) : Lends (handleGrabKey s j value now ok) idx m := by
  obtain ⟨d, hd⟩ := Option.isSome_iff_exists.mp h.isSome
  simp only [Input.handleGrabKey, if_neg hv]
  split_ifs
  · refine ⟨by simpa using h.keyboard, by simpa using h.mouse, rfl, ?_⟩
    simp only [InputState.grabbed_libevdevGrab]
    split_ifs
    · simp [hd]
    · exact h.released
  all_goals exact ⟨h.keyboard, h.mouse, h.temp, h.released⟩

/-- While the mouse is lent no device is auto-grabbed, and a delivered event
leaves the lend as it is. -/
theorem Lends.deliverEvent (h : Lends s idx m) (j : Nat) (ev : InputEvent) (ok : Bool) :
    Lends (deliverEvent cfg s j ev ok) idx m := by
  have ha : autoGrabMouse s j ev ok = s := by
    unfold autoGrabMouse
    rw [if_neg fun hc => by have := hc.2.1; rw [h.mouse] at this; omega]
  simp only [Input.deliverEvent, ha]
  split_ifs with hf
  · split
    · have hj : m ≠ j := fun hj => h.not_forwarded (hj ▸ hf)
      exact ⟨h.keyboard, h.mouse, h.temp, by simpa [InputState.setDevice, hj] using h.released⟩
    · exact h
  · exact h

/-- **A step while the grab key is held.** The mouse stays lent, and whatever
the step sends comes from another slot. -/
theorem Lends.inputStep (h : Lends s idx m) {e : InputStep} (he : e.KeepsHold cfg idx m)
    (hs : inputStep cfg s e = some s') : Lends s' idx m ∧ NoneSentBy m s s' := by
  have deliver : ∀ j ev ok, Lends (Input.deliverEvent cfg s j ev ok) idx m ∧
      NoneSentBy m s (Input.deliverEvent cfg s j ev ok) := fun j ev ok => by
    have hl : Lends (Input.deliverEvent cfg s j ev ok) idx m := h.deliverEvent j ev ok
    refine ⟨hl, (deliverEvent_sent s j ev ok).elim .of_eq fun ⟨hf, out, ho⟩ => ⟨_, ho, ?_⟩⟩
    intro x hx
    obtain ⟨msg, -, rfl⟩ := List.mem_map.mp hx
    exact fun hj => hl.not_forwarded (hj ▸ hf)
  rcases inputStep_cases hs with ⟨j, ev, now, ok, rfl, -, rfl⟩ | ⟨j, ok, rfl, -, rfl⟩ |
    ⟨result, rfl, rfl⟩
  · -- an event of any thread
    cases ev with
    | key code value =>
        simp only [inputDeviceEvent]
        split_ifs with hg
        · exact ⟨h.handleGrabKey j (he hg) now ok, .of_eq (handleGrabKey_sent _ _ _ _ _)⟩
        · exact deliver j _ ok
    | _ => exact deliver j _ ok
  · -- the end of another device's thread
    have hk : s.grabbedKeyboard ≠ j := by rw [h.keyboard]; exact_mod_cast he.1.symm
    have hm : s.grabbedMouse ≠ j := by rw [h.mouse]; exact_mod_cast he.2.symm
    refine ⟨?_, .of_eq (inputDeviceEnd_sent _ _ _)⟩
    simp only [inputDeviceEnd, hk, hm, or_self, if_false]
    exact ⟨h.keyboard, h.mouse, h.temp,
      by simpa [InputState.setDevice, Ne.symm he.2] using h.released⟩
  · -- a device added in a free slot, never the mouse's
    refine ⟨?_, .of_eq (inputAddDevice_sent _ _)⟩
    unfold inputAddDevice
    split
    all_goals first
      | rename_i k hk
        have hk : s.devices k = none := by simpa using List.find?_some hk
        have hmk : m ≠ k := fun hmk => by
          have hs := h.isSome
          rw [hmk, hk] at hs
          cases hs
        exact ⟨h.keyboard, h.mouse, h.temp, by simpa [InputState.setDevice, hmk] using h.released⟩
      | exact h

theorem Lends.inputRun (h : Lends s idx m) {es : List InputStep}
    (he : ∀ e ∈ es, e.KeepsHold cfg idx m) (hr : inputRun cfg s es = some s') :
    Lends s' idx m ∧ NoneSentBy m s s' := by
  induction es generalizing s with
  | nil =>
      cases hr
      exact ⟨h, .of_eq rfl⟩
  | cons e es ih =>
      simp only [Input.inputRun, Option.bind_eq_some] at hr
      obtain ⟨s₁, h₁, h₂⟩ := hr
      have ⟨l₁, n₁⟩ := h.inputStep (he e (List.mem_cons_self e es)) h₁
      have ⟨l₂, n₂⟩ := ih l₁ (fun e he' => he e (List.mem_cons_of_mem _ he')) h₂
      exact ⟨l₂, n₁.trans n₂⟩

/-- The release of a long press by the keyboard lending the mouse asks for the
mouse's kernel grab again. -/
theorem Lends.grabKeyRelease_eq (h : Lends s idx m) {now : Timeval} (hl : ¬s.ShortPress now)
    (ok : Bool) :
    Input.grabKeyRelease s idx now ok =
      { s.libevdevGrab m true ok with grabKeyAt := ⟨0, 0⟩, tempUngrabbedMouse := false } := by
  obtain ⟨d, hd⟩ := Option.isSome_iff_exists.mp h.isSome
  simp only [Input.grabKeyRelease, InputState.ShortPress] at hl ⊢
  rw [if_neg hl]
  simp [h.keyboard, h.mouse, hd, h.temp, InputState.device?, Int.ofNat_zero_le]

/-- After that release the keyboard and mouse are grabbed as before, the mouse
is forwarded again, and its kernel grab is held if the call succeeded. -/
theorem Lends.grabKeyRelease (h : Lends s idx m) {now : Timeval} (hl : ¬s.ShortPress now)
    (ok : Bool) :
    let s' := Input.grabKeyRelease s idx now ok
    s'.grabbedKeyboard = idx ∧ s'.grabbedMouse = m ∧ s'.tempUngrabbedMouse = false ∧
      (s'.devices m).map (·.grabbed) = some ok := by
  obtain ⟨d, hd⟩ := Option.isSome_iff_exists.mp h.isSome
  rw [h.grabKeyRelease_eq hl ok]
  refine ⟨by simpa using h.keyboard, by simpa using h.mouse, rfl, ?_⟩
  cases ok
  · simpa [InputState.grabbed_libevdevGrab] using h.released
  · simp [InputState.grabbed_libevdevGrab, hd]

end

end SpicyKvm.Input
