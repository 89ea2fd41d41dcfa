import Mathlib.Order.Basic

/-!
# The input layer

`input.c` runs one thread per tracked evdev device. The threads share the grab
state: the slots of the grabbed keyboard and mouse (`-1` for none), the time
the grab key went down, and whether the mouse is ungrabbed while the grab key
is held. Each thread reads its device's events and handles one at a time; the
model takes the handling of one event by one thread as one atomic step, in any
interleaving of the threads, together with the end of a thread (its read
fails, the device is removed) and a udev add event.

An event is given by what the code tests of its type and code. The event codes
and the tables `grab_key`, `linux_to_ps2` and `linux_to_spice` are parameters:
their values come from the kernel's `input-event-codes.h`, from `input_opts`
and from SPICE's `enums.h`. Each device's kernel grab is part of the state,
and the environment decides whether the `libevdev_grab` calls of a step
succeed. The `purespice_*` calls are recorded in order, each with the slot of
the thread that made it; log lines and the resync counter are not modelled.
-/

namespace SpicyKvm.Input

/-- The codes of `EV_REL` that the code tells apart. -/
inductive RelAxis
  | x
  | y
  | wheel
  | other
deriving DecidableEq, Repr

/-- The codes of `EV_ABS` that the code tells apart. -/
inductive AbsAxis
  | x
  | y
  | other
deriving DecidableEq, Repr

/-- A `struct input_event`. -/
inductive InputEvent
  | key (code : Nat) (value : Int)
  | rel (axis : RelAxis) (value : Int)
  | abs (axis : AbsAxis) (value : Int)
  /-- `EV_SYN` with `SYN_REPORT` -/
  | synReport
  /-- any other type or code, which the thread reads and ignores -/
  | other
deriving DecidableEq, Repr

/-- The configuration tables of `input.c`. -/
structure InputConfig where
  /-- `input.grab_key` -/
  grabKey : Nat → Bool
  /-- `linux_to_ps2`, `0` where it has no entry -/
  linuxToPs2 : Nat → Nat
  /-- `linux_to_spice`, `0` where it has no entry -/
  linuxToSpice : Nat → Nat
  /-- `BTN_TOUCH` -/
  btnTouch : Nat
  /-- `SPICE_MOUSE_BUTTON_UP` -/
  buttonUp : Nat
  /-- `SPICE_MOUSE_BUTTON_DOWN` -/
  buttonDown : Nat

/-- The default grab key and the table entries the concrete runs use, under the
kernel's codes: `KEY_RIGHTCTRL` (97) is the grab key, `KEY_A` (30) is PS/2
`0x1E`, `BTN_LEFT` (272) is `SPICE_MOUSE_BUTTON_LEFT` (1). -/
def InputConfig.sample : InputConfig where
  grabKey code := code = 97
  linuxToPs2 code := if code = 30 then 0x1E else if code = 97 then 0xE01D else 0
  linuxToSpice code := if code = 272 then 1 else 0
  btnTouch := 330
  buttonUp := 4
  buttonDown := 5

/-- A call into `purespice`. -/
inductive SpiceMsg
  | keyDown (code : Nat)
  | keyUp (code : Nat)
  | mousePress (button : Nat)
  | mouseRelease (button : Nat)
  | mouseMotion (dx dy : Int)
deriving DecidableEq, Repr

/-- `pending_rel` of `input_device_thread` -/
structure PendingRel where
  ok : Bool
  dx : Int
  dy : Int
  wheel : Int
deriving DecidableEq, Repr

/-- `pending_rel_fake` of `input_device_thread` -/
structure PendingRelFake where
  ignore : Bool
  x : Bool
  y : Bool
  touch : Bool
  cx : Int
  cy : Int
  dx : Int
  dy : Int
deriving DecidableEq, Repr

/-- A tracked device: whether its thread runs, its kernel grab, and its
thread's accumulators. -/
structure Device where
  thread : Bool
  grabbed : Bool
  pendingRel : PendingRel
  pendingRelFake : PendingRelFake
deriving DecidableEq, Repr

/-- A device just opened, with its accumulators zeroed. -/
def Device.new (thread : Bool) : Device :=
  ⟨thread, false, ⟨false, 0, 0, 0⟩, ⟨false, false, false, false, 0, 0, 0, 0⟩⟩

/-- `struct timeval` -/
structure Timeval where
  sec : Nat
  usec : Nat
deriving DecidableEq, Repr

/-- `MAX_INPUT_DEVICES` -/
def maxInputDevices : Nat := 64

/-- The shared state of `input.c`, and the calls made into `purespice`. -/
structure InputState where
  /-- `input.libevdev`: the tracked device of each slot -/
  devices : Nat → Option Device
  grabbedKeyboard : Int
  grabbedMouse : Int
  grabKeyAt : Timeval
  tempUngrabbedMouse : Bool
  /-- every `purespice_*` call so far, with the slot whose thread made it -/
  sent : List (Nat × SpiceMsg)

def InputState.init : InputState := ⟨fun _ => none, -1, -1, ⟨0, 0⟩, false, []⟩

/-- `input.libevdev[i]`, for a slot index held in an `ssize_t`. -/
def InputState.device? (s : InputState) (i : Int) : Option Device :=
  if 0 ≤ i then s.devices i.toNat else none

/-- Replace the device of slot `i`. -/
def InputState.setDevice (s : InputState) (i : Nat) (d : Option Device) : InputState :=
  { s with devices := fun j => if j = i then d else s.devices j }

/-- `libevdev_grab` on the device of slot `i`, which takes effect if the call
succeeds. -/
def InputState.libevdevGrab (s : InputState) (i : Int) (grab ok : Bool) : InputState :=
  if ok ∧ 0 ≤ i then s.setDevice i.toNat ((s.devices i.toNat).map ({ · with grabbed := grab }))
  else s

@[simp] theorem InputState.setDevice_sent (s : InputState) (i : Nat) (d : Option Device) :
    (s.setDevice i d).sent = s.sent := rfl

@[simp] theorem InputState.libevdevGrab_sent (s : InputState) (i : Int) (grab ok : Bool) :
    (s.libevdevGrab i grab ok).sent = s.sent := by
  unfold InputState.libevdevGrab; split_ifs <;> rfl

@[simp] theorem InputState.libevdevGrab_grabbedKeyboard (s : InputState) (i : Int) (grab ok : Bool) :
    (s.libevdevGrab i grab ok).grabbedKeyboard = s.grabbedKeyboard := by
  unfold InputState.libevdevGrab; split_ifs <;> rfl

@[simp] theorem InputState.libevdevGrab_grabbedMouse (s : InputState) (i : Int) (grab ok : Bool) :
    (s.libevdevGrab i grab ok).grabbedMouse = s.grabbedMouse := by
  unfold InputState.libevdevGrab; split_ifs <;> rfl

/-- The events of slot `idx` reach SPICE: it is the grabbed keyboard or mouse,
and not the mouse while it is temporarily ungrabbed. -/
def InputState.Forwarded (s : InputState) (idx : Nat) : Prop :=
  (s.grabbedKeyboard = (idx : Int) ∨ s.grabbedMouse = (idx : Int)) ∧
    ¬(s.tempUngrabbedMouse = true ∧ s.grabbedMouse = (idx : Int))

instance (s : InputState) (idx : Nat) : Decidable (s.Forwarded idx) :=
  inferInstanceAs (Decidable (_ ∧ _))

/-! ## The grab state -/

/-- `input_ungrab` -/
def inputUngrab (s : InputState) (ok : Bool) : InputState :=
  let s := if s.grabbedKeyboard ≠ -1 then
      { s.libevdevGrab s.grabbedKeyboard false ok with
          grabbedMouse := if s.grabbedMouse = s.grabbedKeyboard then -1 else s.grabbedMouse
          grabbedKeyboard := -1 }
    else s
  if s.grabbedMouse ≠ -1 then { s.libevdevGrab s.grabbedMouse false ok with grabbedMouse := -1 }
  else s

@[simp] theorem inputUngrab_sent (s : InputState) (ok : Bool) : (inputUngrab s ok).sent = s.sent := by
  simp only [inputUngrab]
  split_ifs <;> simp only [InputState.libevdevGrab_sent]

/-- `tv_ms_diff` -/
def tvMsDiff (a b : Timeval) : Nat :=
  let msa := a.sec * 1000 + a.usec / 1000
  let msb := b.sec * 1000 + b.usec / 1000
  if msb > msa then msb - msa else msa - msb

/-- A release of the grab key: a short press (or one whose down time is
unknown) toggles the grab to this device; after a long press the mouse is
grabbed again if this keyboard ungrabbed it. -/
def grabKeyRelease (s : InputState) (idx : Nat) (now : Timeval) (ok : Bool) : InputState :=
  let s := if s.grabKeyAt.sec = 0 ∨ tvMsDiff now s.grabKeyAt < 250 then
      let ungrab := s.grabbedKeyboard = (idx : Int)
      let s := if s.grabbedKeyboard ≠ -1 then inputUngrab s ok else s
      if ¬ungrab ∧ ok then
        let s := s.libevdevGrab idx true ok
        let s := if s.grabbedKeyboard ≠ -1 ∨ s.grabbedMouse ≠ -1 then inputUngrab s ok else s
        { s with grabbedKeyboard := idx }
      else s
    else if s.tempUngrabbedMouse ∧ s.grabbedKeyboard = (idx : Int) ∧ s.grabbedMouse ≠ -1 ∧
        (s.device? s.grabbedMouse).isSome then
      s.libevdevGrab s.grabbedMouse true ok
    else s
  { s with grabKeyAt := ⟨0, 0⟩, tempUngrabbedMouse := false }

/-- The grab-key branch of `input_device_thread`: the key itself is never
sent. -/
def handleGrabKey (s : InputState) (idx : Nat) (value : Int) (now : Timeval) (ok : Bool) :
    InputState :=
  let s := if value = 1 then
      let s := { s with grabKeyAt := now }
      if s.grabbedKeyboard = (idx : Int) ∧ s.grabbedMouse ≠ -1 ∧ (s.device? s.grabbedMouse).isSome then
        { s.libevdevGrab s.grabbedMouse false ok with tempUngrabbedMouse := true }
      else s
    else s
  if value = 0 then grabKeyRelease s idx now ok else s

theorem grabKeyRelease_sent (s : InputState) (idx : Nat) (now : Timeval) (ok : Bool) :
    (grabKeyRelease s idx now ok).sent = s.sent := by
  simp only [grabKeyRelease]
  split_ifs <;> simp only [InputState.libevdevGrab_sent, inputUngrab_sent]

@[simp] theorem handleGrabKey_sent (s : InputState) (idx : Nat) (value : Int) (now : Timeval)
    (ok : Bool) : (handleGrabKey s idx value now ok).sent = s.sent := by
  simp only [handleGrabKey]
  split_ifs <;> simp only [grabKeyRelease_sent, InputState.libevdevGrab_sent]

/-- Motion along `X` or `Y`, relative or absolute. -/
def InputEvent.IsPointerMotion : InputEvent → Prop
  | .rel .x _ | .rel .y _ | .abs .x _ | .abs .y _ => True
  | _ => False

instance : DecidablePred InputEvent.IsPointerMotion
  | .rel .x _ | .rel .y _ | .abs .x _ | .abs .y _ => isTrue trivial
  | .key _ _ | .rel .wheel _ | .rel .other _ | .abs .other _ | .synReport | .other => isFalse id

/-- With a keyboard grabbed and no mouse, the first device to move the pointer
becomes the grabbed mouse. -/
def autoGrabMouse (s : InputState) (idx : Nat) (ev : InputEvent) (ok : Bool) : InputState :=
  if s.grabbedKeyboard ≠ -1 ∧ s.grabbedMouse = -1 ∧ ev.IsPointerMotion then
    if (idx : Int) = s.grabbedKeyboard then { s with grabbedMouse := s.grabbedKeyboard }
    else if ok then { s.libevdevGrab idx true ok with grabbedMouse := idx }
    else s
  else s

@[simp] theorem autoGrabMouse_sent (s : InputState) (idx : Nat) (ev : InputEvent) (ok : Bool) :
    (autoGrabMouse s idx ev ok).sent = s.sent := by
  unfold autoGrabMouse; split_ifs <;> simp only [InputState.libevdevGrab_sent]

/-! ## Forwarded events -/

/-- The key branch: a mouse button and a keyboard key are sent as soon as they
change, and `BTN_TOUCH` drives the fake-relative pointer. -/
def handleKey (cfg : InputConfig) (d : Device) (code : Nat) (value : Int) :
    Device × List SpiceMsg :=
  let b := cfg.linuxToSpice code
  let buttons : List SpiceMsg := if b ≠ 0 then
      (if value = 1 then [.mousePress b] else []) ++ (if value = 0 then [.mouseRelease b] else [])
    else []
  let k := cfg.linuxToPs2 code
  let keys : List SpiceMsg := if k ≠ 0 then
      (if value = 1 then [.keyDown k] else []) ++ (if value = 0 then [.keyUp k] else [])
    else []
  let f := d.pendingRelFake
  let f := if code = cfg.btnTouch then
      if value = 1 then { f with touch := true }
      else if value = 0 then { f with touch := false, x := false, y := false, dx := 0, dy := 0 }
      else f
    else f
  ({ d with pendingRelFake := f }, buttons ++ keys)

/-- A relative report accumulates until the next `SYN_REPORT`, and turns the
fake-relative pointer off. -/
def handleRel (d : Device) (axis : RelAxis) (value : Int) : Device :=
  let r := d.pendingRel
  { d with
      pendingRel := { ok := true
                      dx := if axis = .x then r.dx + value else r.dx
                      dy := if axis = .y then r.dy + value else r.dy
                      wheel := if axis = .wheel then r.wheel + value else r.wheel }
      pendingRelFake := { d.pendingRelFake with ignore := true } }

/-- An absolute report moves the fake-relative pointer by its change. -/
def handleAbs (d : Device) (axis : AbsAxis) (value : Int) : Device :=
  let f := d.pendingRelFake
  let f := match axis with
    | .x => if f.x then { f with dx := f.dx + (value - f.cx), cx := value }
            else { f with x := true, dx := 0, cx := value }
    | .y => if f.y then { f with dy := f.dy + (value - f.cy), cy := value }
            else { f with y := true, dy := 0, cy := value }
    | .other => f
  { d with pendingRelFake := f }

/-- The `n` clicks of the wheel button `button`. -/
def wheelClicks (button n : Nat) : List SpiceMsg :=
  (List.replicate n [.mousePress button, .mouseRelease button]).flatten

/-- `SYN_REPORT`: send the accumulated motion and wheel clicks. -/
def handleSyn (cfg : InputConfig) (d : Device) : Device × List SpiceMsg :=
  let r := d.pendingRel
  let rel : PendingRel × List SpiceMsg := if r.ok then
      (⟨false, 0, 0, 0⟩,
        (if r.dx ≠ 0 ∨ r.dy ≠ 0 then [.mouseMotion r.dx r.dy] else []) ++
        (if r.wheel < 0 then wheelClicks cfg.buttonDown r.wheel.natAbs
         else if 0 < r.wheel then wheelClicks cfg.buttonUp r.wheel.toNat else []))
    else (r, [])
  let f := d.pendingRelFake
  let fake : PendingRelFake × List SpiceMsg := if ¬f.ignore ∧ f.touch then
      ({ f with dx := 0, dy := 0 }, if f.dx ≠ 0 ∨ f.dy ≠ 0 then [.mouseMotion f.dx f.dy] else [])
    else (f, [])
  ({ d with pendingRel := rel.1, pendingRelFake := fake.1 }, rel.2 ++ fake.2)

/-- What the thread does with an event it forwards. -/
def forwardEvent (cfg : InputConfig) (d : Device) : InputEvent → Device × List SpiceMsg
  | .key code value => handleKey cfg d code value
  | .rel axis value => (handleRel d axis value, [])
  | .abs axis value => (handleAbs d axis value, [])
  | .synReport => handleSyn cfg d
  | .other => (d, [])

@[simp] theorem forwardEvent_thread (cfg : InputConfig) (d : Device) (ev : InputEvent) :
    (forwardEvent cfg d ev).1.thread = d.thread := by
  cases ev <;> rfl

/-- The part of `input_device_thread` after the grab-key branch: the mouse
auto-grab, the forwarding check, and the handling of a forwarded event. -/
def deliverEvent (cfg : InputConfig) (s : InputState) (idx : Nat) (ev : InputEvent) (ok : Bool) :
    InputState :=
  let s := autoGrabMouse s idx ev ok
  if s.Forwarded idx then
    match s.devices idx with
    | some d =>
        let r := forwardEvent cfg d ev
        { s.setDevice idx (some r.1) with sent := s.sent ++ r.2.map ((idx, ·)) }
    | none => s
  else s

/-- One event read by the thread of slot `idx` at wall-clock time `now`; `ok`
says whether the `libevdev_grab` calls it makes succeed. -/
def inputDeviceEvent (cfg : InputConfig) (s : InputState) (idx : Nat) (ev : InputEvent)
    (now : Timeval) (ok : Bool) : InputState :=
  match ev with
  | .key code value => if cfg.grabKey code then handleGrabKey s idx value now ok
      else deliverEvent cfg s idx ev ok
  | _ => deliverEvent cfg s idx ev ok

/-! ## Devices coming and going -/

/-- The end of the thread of slot `idx`: the device is closed (which drops its
kernel grab) and freed, and if it was grabbed everything is ungrabbed. -/
def inputDeviceEnd (s : InputState) (idx : Nat) (ok : Bool) : InputState :=
  let ungrab := s.grabbedKeyboard = (idx : Int) ∨ s.grabbedMouse = (idx : Int)
  let s := { s.setDevice idx none with
    grabbedKeyboard := if s.grabbedKeyboard = (idx : Int) then -1 else s.grabbedKeyboard
    grabbedMouse := if s.grabbedMouse = (idx : Int) then -1 else s.grabbedMouse }
  if ungrab then inputUngrab s ok else s

@[simp] theorem inputDeviceEnd_sent (s : InputState) (idx : Nat) (ok : Bool) :
    (inputDeviceEnd s idx ok).sent = s.sent := by
  simp only [inputDeviceEnd]
  split_ifs <;> simp only [inputUngrab_sent, InputState.setDevice_sent]

/-- How `input_add_device` ends for a new device. -/
inductive AddResult
  /-- not an event device, not openable, or neither keyboard nor pointer -/
  | ignored
  /-- tracked, with its thread started -/
  | tracked
  /-- tracked, but `pthread_create` failed -/
  | noThread
deriving DecidableEq, Repr

/-- `input_add_device`: the device takes the first free slot. -/
def inputAddDevice (s : InputState) (result : AddResult) : InputState :=
  match (List.range maxInputDevices).find? (fun i => (s.devices i).isNone), result with
  | some i, .tracked => s.setDevice i (some (Device.new true))
  | some i, .noThread => s.setDevice i (some (Device.new false))
  | _, _ => s

@[simp] theorem inputAddDevice_sent (s : InputState) (result : AddResult) :
    (inputAddDevice s result).sent = s.sent := by
  unfold inputAddDevice; split <;> rfl

/-- A step of the input layer. -/
inductive InputStep
  | event (idx : Nat) (ev : InputEvent) (now : Timeval) (ok : Bool)
  | remove (idx : Nat) (ok : Bool)
  | add (result : AddResult)

/-- One step; `none` for a thread that does not exist. -/
def inputStep (cfg : InputConfig) (s : InputState) : InputStep → Option InputState
  | .event idx ev now ok =>
      if (s.devices idx).any (·.thread) then some (inputDeviceEvent cfg s idx ev now ok) else none
  | .remove idx ok => if (s.devices idx).any (·.thread) then some (inputDeviceEnd s idx ok) else none
  | .add result => some (inputAddDevice s result)

/-- What a step does: an event of a running thread, the end of a running
thread, or a device added. -/
theorem inputStep_cases {cfg : InputConfig} {s s' : InputState} {e : InputStep}
    (hs : inputStep cfg s e = some s') :
    (∃ idx ev now ok, e = .event idx ev now ok ∧ (s.devices idx).any (·.thread) = true ∧
      s' = inputDeviceEvent cfg s idx ev now ok) ∨
    (∃ idx ok, e = .remove idx ok ∧ (s.devices idx).any (·.thread) = true ∧
      s' = inputDeviceEnd s idx ok) ∨
    ∃ result, e = .add result ∧ s' = inputAddDevice s result := by
  cases e with
  | event idx ev now ok =>
      simp only [inputStep] at hs
      split_ifs at hs with ht
      exact .inl ⟨idx, ev, now, ok, rfl, ht, (Option.some.inj hs).symm⟩
  | remove idx ok =>
      simp only [inputStep] at hs
      split_ifs at hs with ht
      exact .inr (.inl ⟨idx, ok, rfl, ht, (Option.some.inj hs).symm⟩)
  | add result => exact .inr (.inr ⟨result, rfl, (Option.some.inj hs).symm⟩)

/-- The states reachable from the initial one. -/
inductive InputReach (cfg : InputConfig) : InputState → Prop
  | init : InputReach cfg InputState.init
  | step {s s' : InputState} {e : InputStep} :
      InputReach cfg s → inputStep cfg s e = some s' → InputReach cfg s'

/-- Runs a list of steps. -/
def inputRun (cfg : InputConfig) : InputState → List InputStep → Option InputState
  | s, [] => some s
  | s, e :: es => (inputStep cfg s e).bind fun s' => inputRun cfg s' es

theorem inputReach_run {cfg : InputConfig} {s s' : InputState} {es : List InputStep}
    (h : InputReach cfg s) (hr : inputRun cfg s es = some s') : InputReach cfg s' := by
  induction es generalizing s with
  | nil => cases hr; exact h
  | cons e es ih =>
      simp only [inputRun, Option.bind_eq_some] at hr
      obtain ⟨s₁, h₁, h₂⟩ := hr
      exact ih (h.step h₁) h₂

/-- A concrete run from the initial state that ends where `p` holds exhibits a
reachable state where it holds. -/
theorem exists_inputReach_of_run (cfg : InputConfig) (es : List InputStep) (p : InputState → Bool)
    (h : (inputRun cfg InputState.init es).any p = true) : ∃ s, InputReach cfg s ∧ p s = true := by
  cases hr : inputRun cfg InputState.init es with
  | none => simp [hr] at h
  | some s => exact ⟨s, inputReach_run .init hr, by simpa [hr] using h⟩

/-- A concrete run from the initial state, then a step after which `p` holds
of the states before and after it, exhibits a reachable state, the step from
it and what `p` says of the two. -/
theorem exists_inputReach_step_of_run (cfg : InputConfig) (es : List InputStep) (e : InputStep)
    (p : InputState → InputState → Bool)
    (h : (inputRun cfg InputState.init es).any (fun s => (inputStep cfg s e).any (p s)) = true) :
    ∃ s s', InputReach cfg s ∧ inputStep cfg s e = some s' ∧ p s s' = true := by
  obtain ⟨s, hr, hp⟩ := exists_inputReach_of_run cfg es _ h
  cases hs : inputStep cfg s e with
  | none => simp [hs] at hp
  | some s' => exact ⟨s, s', hr, hs, by simpa [hs] using hp⟩

end SpicyKvm.Input
