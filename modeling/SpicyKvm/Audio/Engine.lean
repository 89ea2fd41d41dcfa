import SpicyKvm.Audio.Data

/-!
# The engine as a state machine

Every entry point of `audio.c`, and the audio server's `drained` notification,
is one event, and a run is a sequence of whole calls. The calls come from two
threads: the SPICE callbacks (start, stop, volume, mute, data and the capture
calls) run one after another on `main`'s thread, inside `purespice_process`;
`audio_pull` and `drained` run on the audio server's `pw_thread_loop`. The
two sides keep their clock data apart (`deviceData` for the device thread,
`spiceData` for the SPICE thread, as the struct's comment says) and pass
samples and device ticks through ring buffers with one writer and one reader
each; `audio.playback.state` they both read and write without a lock. The
model takes each call as one step, in any interleaving of the two threads,
and leaves out the interleavings inside a call.

`step` returns `none` for an event that cannot happen in the state
(`drained` with no drain under way) or a call that does not return (the
resampler results given run out).
-/

namespace SpicyKvm.Audio

open SpicyKvm AudioDev

inductive Event
  | playbackStart (channels sampleRate : Int) (env : StartEnv)
  | playbackStop (srcReset : Bool)
  | playbackVolume (channels : Int) (volume : List UInt16)
  | playbackMute (mute : Bool)
  | playbackData (size : Nat) (now : Int) (env : DataEnv)
  | pull (frames now : Int)
  | recordStart (channels sampleRate : Int)
  | recordStop
  | recordVolume (channels : Int) (volume : List UInt16)
  | recordMute (mute : Bool)
  /-- the audio server reports that the current playback stream drained -/
  | drained
  | free

/-- One event, for the configuration `opts` given to `audio_init`. -/
def step (opts : AudioOpts) (a : AudioState) : Event → Option AudioState
  | .playbackStart channels sampleRate env => some (audioPlaybackStart opts a channels sampleRate env)
  | .playbackStop srcReset => some (audioPlaybackStop a srcReset)
  | .playbackVolume channels volume => some (audioPlaybackVolume a channels volume)
  | .playbackMute mute => some (audioPlaybackMute a mute)
  | .playbackData size now env => audioPlaybackData opts a size now env
  | .pull frames now => some (audioPull a frames now).1
  | .recordStart channels sampleRate => some (audioRecordStart a channels sampleRate)
  | .recordStop => some (audioRecordStop a)
  | .recordVolume channels volume => some (audioRecordVolume a channels volume)
  | .recordMute mute => some (audioRecordMute a mute)
  | .drained =>
      if a.pw.playback.stream.any (·.drainPending) then
        some { a with pw := audiodevOnPlaybackDrained a.pw }
      else none
  | .free => some (audioFree a)

/-! ## Events that leave the playback stream alone -/

/-- The volume and mute requests, the capture path and a drain completion. -/
def Event.IsControl : Event → Prop
  | .playbackVolume _ _ | .playbackMute _ | .recordStart _ _ | .recordStop | .recordVolume _ _
  | .recordMute _ | .drained => True
  | _ => False

/-- `a'` has the playback stream of `a`: its state, rings, clocks, scratch
buffers and format. -/
structure StreamFrame (a a' : AudioState) : Prop where
  state : a'.playback.state = a.playback.state
  buffer : a'.playback.buffer = a.playback.buffer
  deviceTiming : a'.playback.deviceTiming = a.playback.deviceTiming
  deviceData : a'.playback.deviceData = a.playback.deviceData
  spiceData : a'.playback.spiceData = a.playback.spiceData
  stride : a'.playback.stride = a.playback.stride
  channels : a'.playback.channels = a.playback.channels
  sampleRate : a'.playback.sampleRate = a.playback.sampleRate

theorem step_streamFrame {opts : AudioOpts} {a a' : AudioState} {e : Event} (he : e.IsControl)
    (h : step opts a e = some a') : StreamFrame a a' := by
  cases e <;> simp only [Event.IsControl] at he <;> simp only [step, Option.some.injEq] at h
  case drained =>
    split_ifs at h
    cases h
    exact ⟨rfl, rfl, rfl, rfl, rfl, rfl, rfl, rfl⟩
  all_goals
    subst h
    simp only [audioPlaybackVolume, audioPlaybackMute, audioRecordStart, realRecordStart,
      audioRecordStop, realRecordStop, audioRecordVolume, audioRecordMute]
    split_ifs <;> exact ⟨rfl, rfl, rfl, rfl, rfl, rfl, rfl, rfl⟩

/-- The states the engine reaches from its static initial state. -/
inductive Reach (opts : AudioOpts) : AudioState → Prop
  | init : Reach opts AudioState.init
  | step {a a' : AudioState} {e : Event} : Reach opts a → step opts a e = some a' → Reach opts a'

/-- Runs a list of events; `none` as soon as one of them cannot run. -/
def run (opts : AudioOpts) : AudioState → List Event → Option AudioState
  | a, [] => some a
  | a, e :: es => (step opts a e).bind fun a' => run opts a' es

theorem reach_run {opts : AudioOpts} {a a' : AudioState} {es : List Event} (h : Reach opts a)
    (hr : run opts a es = some a') : Reach opts a' := by
  induction es generalizing a with
  | nil => cases hr; exact h
  | cons e es ih =>
      simp only [run, Option.bind_eq_some] at hr
      obtain ⟨a₁, h₁, h₂⟩ := hr
      exact ih (h.step h₁) h₂

theorem exists_eq_some_of_any {α : Type} {o : Option α} {q : α → Bool} (h : o.any q = true) :
    ∃ x, o = some x ∧ q x = true := by
  cases o with
  | none => cases h
  | some x => exact ⟨x, rfl, h⟩

/-- A concrete run from the initial state that ends where `p` holds exhibits a
reachable state where it holds. -/
theorem exists_reach_of_run (opts : AudioOpts) (es : List Event) (p : AudioState → Bool)
    (h : (run opts AudioState.init es).any p = true) : ∃ a, Reach opts a ∧ p a = true := by
  obtain ⟨a, hr, hp⟩ := exists_eq_some_of_any h
  exact ⟨a, reach_run .init hr, hp⟩

/-- A concrete run from the initial state to a state where the call `f` returns
a state related to it by `q`. -/
theorem exists_reach_call_of_run (opts : AudioOpts) (es : List Event)
    (f : AudioState → Option AudioState) (q : AudioState → AudioState → Bool)
    (h : (run opts AudioState.init es).any (fun a => (f a).any (q a)) = true) :
    ∃ a a', Reach opts a ∧ f a = some a' ∧ q a a' = true := by
  obtain ⟨a, hr, hf⟩ := exists_reach_of_run _ _ _ h
  obtain ⟨a', hf, hq⟩ := exists_eq_some_of_any hf
  exact ⟨a, a', hr, hf, hq⟩

/-- **Invariants of the engine.** A property that holds initially and that every
step keeps holds in every reachable state. -/
theorem reach_induction {opts : AudioOpts} {P : AudioState → Prop} (h0 : P AudioState.init)
    (hs : ∀ a a' e, Reach opts a → P a → step opts a e = some a' → P a')
    {a : AudioState} (h : Reach opts a) : P a := by
  induction h with
  | init => exact h0
  | step hr he ih => exact hs _ _ _ hr ih he

end SpicyKvm.Audio
