import SpicyKvm.Input.Model

/-!
# What reaches the guest

A thread calls into `purespice` only for an event of its own device, only when
that device's events are forwarded, and never for the grab key. Nothing
remembers what it has pressed: when forwarding stops (the grab key toggles the
grab away, the mouse is ungrabbed while the grab key is held, or a device is
removed), a key or button the guest holds down gets no release.
-/

namespace SpicyKvm.Input

variable {cfg : InputConfig} {s s' : InputState}

/-- An event of a grab key. -/
def InputEvent.IsGrabKey (cfg : InputConfig) : InputEvent → Prop
  | .key code _ => cfg.grabKey code = true
  | _ => False

/-- The keys the guest holds down after the calls `log`, each with the slot
whose thread pressed it: a `keyDown` with no later `keyUp` of that key. -/
def heldKeys (log : List (Nat × SpiceMsg)) : List (Nat × Nat) :=
  log.foldl (fun held m => match m.2 with
    | .keyDown k => (m.1, k) :: held.filter (·.2 ≠ k)
    | .keyUp k => held.filter (·.2 ≠ k)
    | _ => held) []

/-- A delivered event sends its calls only once its device is forwarded, in the
state the forwarding check saw, which is also the state after the event. -/
theorem deliverEvent_sent (s : InputState) (idx : Nat) (ev : InputEvent) (ok : Bool) :
    (deliverEvent cfg s idx ev ok).sent = s.sent ∨
      (deliverEvent cfg s idx ev ok).Forwarded idx ∧
        ∃ out : List SpiceMsg, (deliverEvent cfg s idx ev ok).sent = s.sent ++ out.map ((idx, ·)) := by
  have hs := autoGrabMouse_sent s idx ev ok
  simp only [deliverEvent]
  generalize autoGrabMouse s idx ev ok = t at hs ⊢
  split_ifs with hf
  · split
    · exact .inr ⟨hf, _, by rw [← hs]⟩
    · exact .inl hs
  · exact .inl hs

/-- **Only forwarded devices reach the guest.** Every step, from any state,
either makes no `purespice` call or is an event of a device that is not a
grab key, whose events are forwarded at that point, and all its calls are
tagged with that device. -/
theorem inputStep_sends_only_forwarded {e : InputStep} (hs : inputStep cfg s e = some s') :
    s'.sent = s.sent ∨
      ∃ idx ev now ok, e = .event idx ev now ok ∧ ¬ ev.IsGrabKey cfg ∧ s'.Forwarded idx ∧
        ∃ out : List SpiceMsg, s'.sent = s.sent ++ out.map ((idx, ·)) := by
  rcases inputStep_cases hs with ⟨idx, ev, now, ok, rfl, -, rfl⟩ | ⟨idx, ok, -, -, rfl⟩ |
    ⟨result, -, rfl⟩
  · have deliver : ¬ ev.IsGrabKey cfg → (deliverEvent cfg s idx ev ok).sent = s.sent ∨
        ∃ idx' ev' now' ok', InputStep.event idx ev now ok = .event idx' ev' now' ok' ∧
          ¬ ev'.IsGrabKey cfg ∧ (deliverEvent cfg s idx ev ok).Forwarded idx' ∧
          ∃ out : List SpiceMsg, (deliverEvent cfg s idx ev ok).sent = s.sent ++ out.map ((idx', ·)) :=
      fun hg => (deliverEvent_sent s idx ev ok).imp_right fun ⟨hf, out⟩ =>
        ⟨idx, ev, now, ok, rfl, hg, hf, out⟩
    cases ev with
    | key code value =>
        simp only [inputDeviceEvent]
        split_ifs with hk
        · exact .inl (by simp)
        · exact deliver (by simpa [InputEvent.IsGrabKey] using hk)
    | _ => exact deliver id
  · exact .inl (by simp)
  · exact .inl (by simp)

/-- A key pressed on the keyboard that has just taken the grab is sent. -/
theorem grabbed_key_press_sent :
    ∃ s s', InputReach InputConfig.sample s ∧
      inputStep InputConfig.sample s (.event 0 (.key 30 1) ⟨101, 0⟩ true) = some s' ∧ s'.sent ≠ s.sent ∧
      (s'.sent = s.sent ∨
        ∃ idx ev now ok, InputStep.event 0 (.key 30 1) ⟨101, 0⟩ true = .event idx ev now ok ∧
          ¬ ev.IsGrabKey InputConfig.sample ∧ s'.Forwarded idx ∧
          ∃ out : List SpiceMsg, s'.sent = s.sent ++ out.map ((idx, ·))) := by
  obtain ⟨s, s', hr, hs, hp⟩ := exists_inputReach_step_of_run InputConfig.sample
    [.add .tracked, .event 0 (.key 97 1) ⟨100, 0⟩ true, .event 0 (.key 97 0) ⟨100, 100000⟩ true]
    (.event 0 (.key 30 1) ⟨101, 0⟩ true) (fun s s' => decide (s'.sent ≠ s.sent)) (by decide)
  exact ⟨s, s', hr, hs, of_decide_eq_true hp, inputStep_sends_only_forwarded hs⟩

/-- A key pressed on the grabbed keyboard, then a short press of the grab key
on the same keyboard, which ungrabs everything. -/
theorem grab_toggle_leaves_key_down :
    ∃ s, InputReach InputConfig.sample s ∧ (0, 0x1E) ∈ heldKeys s.sent ∧ ¬ s.Forwarded 0 := by
  obtain ⟨s, hr, hp⟩ := exists_inputReach_of_run InputConfig.sample
    [.add .tracked,
     .event 0 (.key 97 1) ⟨100, 0⟩ true, .event 0 (.key 97 0) ⟨100, 100000⟩ true,
     .event 0 (.key 30 1) ⟨101, 0⟩ true,
     .event 0 (.key 97 1) ⟨102, 0⟩ true, .event 0 (.key 97 0) ⟨102, 100000⟩ true]
    (fun s => decide ((0, 0x1E) ∈ heldKeys s.sent ∧ ¬ s.Forwarded 0)) (by decide)
  exact ⟨s, hr, of_decide_eq_true hp⟩

end SpicyKvm.Input
