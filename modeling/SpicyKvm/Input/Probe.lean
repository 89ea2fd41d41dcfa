import SpicyKvm.Input.Model

/-!
# Probing a new device

`input_add_device` runs for each input device present when `input_init`
enumerates them, and for each udev `add` event afterwards. It ignores a node
that is not an event device, takes the first free slot, opens the node, reads
the device's capabilities, and tracks it when it is a keyboard with a grab
key, a relative pointer (`REL_X` and `REL_Y`), or an absolute pointer with
`BTN_TOUCH` that is not relative; it then starts the device's thread. The
queries for the absolute axes pass `REL_X` and `REL_Y` as codes, which are
`ABS_X` and `ABS_Y` numerically.

The input layer takes an addition as one step with its outcome
(`inputAddDevice`). Here the function is modelled as the code is written,
and every run of it, from the enumeration or from udev, is such a step
(`input_add_device_refines`). What the device offers and what the system
calls return are the environment. When `libevdev_new_from_fd` fails the
descriptor is not closed, which the model reports; when `pthread_create`
fails the device keeps its slot with no thread to read it or free it.
-/

namespace SpicyKvm.Input

/-- `EV_KEY`, `EV_REL` and `EV_ABS` -/
def evKey : Nat := 1
def evRel : Nat := 2
def evAbs : Nat := 3

/-- `REL_X` and `REL_Y` -/
def relX : Nat := 0
def relY : Nat := 1

/-- `KEY_MAX` -/
def keyMax : Nat := 0x2ff

/-- What `input_add_device` learns from the system about a new node. -/
structure ProbeEnv where
  /-- `sd_device_get_devname`: the node's path, or the negative error code -/
  devname : Except Int (List Char)
  /-- the `errno` of a failing `open` -/
  openErr : Option Int
  /-- the negative return code of a failing `libevdev_new_from_fd` -/
  newErr : Option Int
  /-- `libevdev_has_event_code(dev, type, code)` -/
  hasCode : Nat → Nat → Bool
  /-- `libevdev_has_event_type(dev, type)` -/
  hasType : Nat → Bool
  /-- the error number of a failing `pthread_create` -/
  threadErr : Option Int

/-- The path prefix of an event device. -/
def eventDevPrefix : List Char := "/dev/input/event".toList

/-- `has_grab_key`: the device has one of the grab keys below `KEY_MAX`. -/
def ProbeEnv.hasGrabKey (env : ProbeEnv) (cfg : InputConfig) : Bool :=
  (List.range keyMax).any fun code => cfg.grabKey code && env.hasCode evKey code

/-- `is_supported_kbd`, `is_supported_pointer_rel` or
`is_supported_pointer_fake_rel`. -/
def ProbeEnv.Supported (env : ProbeEnv) (cfg : InputConfig) : Prop :=
  let kbd := env.hasType evKey && env.hasGrabKey cfg
  let rel := env.hasCode evRel relX && env.hasCode evRel relY
  let fakeRel := !rel && env.hasCode evAbs relX && env.hasCode evAbs relY &&
    env.hasCode evKey cfg.btnTouch
  kbd = true ∨ rel = true ∨ fakeRel = true

instance (env : ProbeEnv) (cfg : InputConfig) : Decidable (env.Supported cfg) :=
  inferInstanceAs (Decidable (_ ∨ _))

/-- The end of `input_add_device`, once the opened device is in slot `idx`:
free the slot of an unsupported device, or start the thread. -/
def trackDevice (cfg : InputConfig) (s : InputState) (idx : Nat) (env : ProbeEnv) :
    Int × InputState × Bool :=
  let s := s.setDevice idx (some (Device.new false))
  if ¬env.Supported cfg then (0, s.setDevice idx none, false)
  else
    match env.threadErr with
    | some e => (-e, s, false)
    | none => (0, s.setDevice idx (some (Device.new true)), false)

/-- `input_add_device`: the return code, the new state, and whether a
descriptor was left open with no device to own it. -/
def inputAddDeviceC (cfg : InputConfig) (s : InputState) (env : ProbeEnv) :
    Int × InputState × Bool :=
  match env.devname with
  | .error rc => (rc, s, false)
  | .ok devname =>
    if !eventDevPrefix.isPrefixOf devname then (0, s, false)
    else
      match (List.range maxInputDevices).find? (fun i => (s.devices i).isNone) with
      | none => (-1, s, false)
      | some idx =>
        match env.openErr with
        | some e => (-e, s, false)
        | none =>
          match env.newErr with
          | some rc => (rc, s, true)
          | none => trackDevice cfg s idx env

/-- `input_udev_handler`: only an `add` action probes the device. -/
def inputUdevHandler (cfg : InputConfig) (s : InputState) (isAdd : Bool) (env : ProbeEnv) :
    InputState :=
  if isAdd then (inputAddDeviceC cfg s env).2.1 else s

/-- The enumeration of `input_init`: each device present is probed in turn. -/
def inputInitDevices (cfg : InputConfig) (s : InputState) (envs : List ProbeEnv) : InputState :=
  envs.foldl (fun s env => (inputAddDeviceC cfg s env).2.1) s

/-! ## Refinement -/

theorem InputState.setDevice_setDevice (s : InputState) (i : Nat) (d d' : Option Device) :
    (s.setDevice i d).setDevice i d' = s.setDevice i d' := by
  simp only [InputState.setDevice]
  congr 1
  funext j
  split_ifs <;> rfl

theorem InputState.setDevice_self {s : InputState} {i : Nat} {d : Option Device}
    (h : s.devices i = d) : s.setDevice i d = s := by
  simp only [InputState.setDevice]
  congr 1
  funext j
  split_ifs with hj
  · rw [hj, h]
  · rfl

theorem inputAddDevice_ignored (s : InputState) : inputAddDevice s .ignored = s := by
  unfold inputAddDevice
  split <;> first | rfl | (rename_i h; cases h)

/-- Tracking a device in the first free slot is an addition of the model, with
an outcome other than `ignored` only for a supported device. -/
theorem trackDevice_eq {cfg : InputConfig} {s : InputState} {idx : Nat} (env : ProbeEnv)
    (hidx : (List.range maxInputDevices).find? (fun i => (s.devices i).isNone) = some idx) :
    ∃ r, (trackDevice cfg s idx env).2.1 = inputAddDevice s r ∧
      (r ≠ .ignored → env.Supported cfg) := by
  have add : ∀ r, inputAddDevice s r = match r with
      | .tracked => s.setDevice idx (some (Device.new true))
      | .noThread => s.setDevice idx (some (Device.new false))
      | .ignored => s := by
    intro r
    unfold inputAddDevice
    rw [hidx]
    cases r <;> rfl
  have hfree := List.find?_some hidx
  simp only [Option.isNone_iff_eq_none] at hfree
  simp only [trackDevice]
  split_ifs with hs
  · split
    · exact ⟨.noThread, (add .noThread).symm, fun _ => hs⟩
    · exact ⟨.tracked, by rw [InputState.setDevice_setDevice, add], fun _ => hs⟩
  · refine ⟨.ignored, ?_, fun h => absurd rfl h⟩
    rw [InputState.setDevice_setDevice, add]
    exact InputState.setDevice_self hfree

/-- What a probe does to the state is an addition of the model, with an
outcome other than `ignored` only for a supported device. -/
theorem inputAddDeviceC_eq (cfg : InputConfig) (s : InputState) (env : ProbeEnv) :
    ∃ r, (inputAddDeviceC cfg s env).2.1 = inputAddDevice s r ∧
      (r ≠ .ignored → env.Supported cfg) := by
  have ignored : ∃ r, s = inputAddDevice s r ∧ (r ≠ .ignored → env.Supported cfg) :=
    ⟨.ignored, (inputAddDevice_ignored s).symm, fun h => absurd rfl h⟩
  unfold inputAddDeviceC
  split
  · exact ignored
  split_ifs
  · exact ignored
  split
  · exact ignored
  rename_i idx hidx
  split
  · exact ignored
  split
  · exact ignored
  · exact trackDevice_eq env hidx

theorem InputReach.inputAddDeviceC {cfg : InputConfig} {s : InputState} (hr : InputReach cfg s)
    (env : ProbeEnv) : InputReach cfg (inputAddDeviceC cfg s env).2.1 := by
  obtain ⟨r, hr', -⟩ := inputAddDeviceC_eq cfg s env
  rw [hr']
  exact hr.step (show inputStep cfg s (.add r) = some _ from rfl)

/-- **Every probe is a step of the input model.** From every reachable state,
whatever the devices offer and the system calls return, a udev event and the
enumeration of `input_init` lead to reachable states: each run of
`input_add_device` is an addition of the model, which keeps the device (with
or without its thread) only if it is a keyboard with a grab key, a relative
pointer, or a touch pointer. So what holds over every run of the model holds
over the real start-up and hot-plugging. -/
theorem input_add_device_refines {cfg : InputConfig} {s : InputState} (hr : InputReach cfg s) :
    (∀ env, ∃ r, (inputAddDeviceC cfg s env).2.1 = inputAddDevice s r ∧
      (r ≠ .ignored → env.Supported cfg)) ∧
    (∀ isAdd env, InputReach cfg (inputUdevHandler cfg s isAdd env)) ∧
    ∀ envs, InputReach cfg (inputInitDevices cfg s envs) := by
  refine ⟨inputAddDeviceC_eq cfg s, fun isAdd env => ?_, fun envs => ?_⟩
  · unfold inputUdevHandler
    split_ifs
    · exact hr.inputAddDeviceC env
    · exact hr
  · induction envs generalizing s with
    | nil => exact hr
    | cons env envs ih => exact ih (hr.inputAddDeviceC env)

theorem input_add_device_refines_init :
    (∀ env, ∃ r, (inputAddDeviceC InputConfig.sample InputState.init env).2.1 =
        inputAddDevice InputState.init r ∧ (r ≠ .ignored → env.Supported InputConfig.sample)) ∧
      (∀ isAdd env, InputReach InputConfig.sample
        (inputUdevHandler InputConfig.sample InputState.init isAdd env)) ∧
      ∀ envs, InputReach InputConfig.sample (inputInitDevices InputConfig.sample InputState.init envs) :=
  input_add_device_refines .init

end SpicyKvm.Input
