import SpicyKvm.Audio.Engine
import Mathlib.Logic.Relation

/-!
# The engine as a client of the device layer

`audio.c` reaches PipeWire only through the `audiodev_*` calls, and the audio
server reaches back only through the `drained` event of the current playback
stream. So every step of the engine changes the device layer by a sequence of
those calls, and a property of the device layer that every call keeps holds
over every run of the engine.

The device layer's own state machine has a gap. `audiodev_playback_stop`
flushes the stream and waits in `DRAINING` for its `drained` event, and
`audiodev_playback_start` does nothing while it waits. A new stream of another
format destroys the draining one before the event can arrive and leaves the
flag as it is: nothing moves the layer out of `DRAINING` again, and no
playback stream is ever activated again.
-/

namespace SpicyKvm.Audio

open SpicyKvm AudioDev Relation

/-- One call from the engine into the device layer, or the `drained` event of
the current playback stream. -/
inductive DevCall : PipeWire → PipeWire → Prop
  | playbackSetup (pw : PipeWire) (channels sampleRate requested : Int) (nodeLatency : Option Int) :
      DevCall pw (audiodevPlaybackSetup pw channels sampleRate requested nodeLatency).1
  | playbackStart (pw : PipeWire) : DevCall pw (audiodevPlaybackStart pw)
  | playbackStop (pw : PipeWire) : DevCall pw (audiodevPlaybackStop pw)
  | playbackVolume (pw : PipeWire) (channels : Int) (volume : List UInt16) :
      DevCall pw (audiodevPlaybackVolume pw channels volume)
  | playbackMute (pw : PipeWire) (mute : Bool) : DevCall pw (audiodevPlaybackMute pw mute)
  | playbackDrained (pw : PipeWire) (h : pw.playback.stream.any (·.drainPending)) :
      DevCall pw (audiodevOnPlaybackDrained pw)
  | recordStart (pw : PipeWire) (channels sampleRate : Int) :
      DevCall pw (audiodevRecordStart pw channels sampleRate)
  | recordStop (pw : PipeWire) : DevCall pw (audiodevRecordStop pw)
  | recordVolume (pw : PipeWire) (channels : Int) (volume : List UInt16) :
      DevCall pw (audiodevRecordVolume pw channels volume)
  | recordMute (pw : PipeWire) (mute : Bool) : DevCall pw (audiodevRecordMute pw mute)
  | free (pw : PipeWire) : DevCall pw (audiodevFree pw)

variable {opts : AudioOpts} {a a' : AudioState}

/-! ## Every step is a sequence of device calls -/

/-- The intermediate states of the callers are record updates that keep the
device layer, so the lemmas below start from any state whose device layer is
`pw`. -/
theorem devCalls_playbackStop {pw : PipeWire} {a : AudioState} (h : a.pw = pw) :
    ReflTransGen DevCall pw (playbackStop a).pw := by
  subst h
  unfold playbackStop
  split_ifs
  · exact .refl
  · exact .single (.playbackStop _)

theorem devCalls_playbackOpen (channels sampleRate : Int) (env : StartEnv) :
    ReflTransGen DevCall a.pw (playbackOpen opts a channels sampleRate env).pw := by
  simp only [playbackOpen]
  split_ifs
  · exact .tail (.tail (.single (.playbackSetup ..)) (.playbackVolume ..)) (.playbackMute ..)
  · exact .tail (.single (.playbackSetup ..)) (.playbackMute ..)

theorem devCalls_audioPlaybackStart (channels sampleRate : Int) (env : StartEnv) :
    ReflTransGen DevCall a.pw (audioPlaybackStart opts a channels sampleRate env).pw := by
  unfold audioPlaybackStart
  split_ifs
  · exact .refl
  · exact (devCalls_playbackStop rfl).trans (devCalls_playbackOpen ..)
  · exact devCalls_playbackStop rfl
  · exact devCalls_playbackOpen ..
  · exact .refl

theorem devCalls_audioPlaybackStop (srcReset : Bool) :
    ReflTransGen DevCall a.pw (audioPlaybackStop a srcReset).pw := by
  unfold audioPlaybackStop
  split
  · split_ifs
    · exact .refl
    · exact devCalls_playbackStop rfl
  all_goals first | exact devCalls_playbackStop rfl | exact .refl

theorem devCalls_dataSetupDevice {pw : PipeWire} {a : AudioState} (h : a.pw = pw) :
    ReflTransGen DevCall pw (dataSetupDevice a).pw := by
  subst h
  unfold dataSetupDevice
  split_ifs
  · exact .single (.playbackStart _)
  · exact .refl

theorem devCalls_audioPlaybackData {size : Nat} {now : Int} {env : DataEnv}
    (hd : audioPlaybackData opts a size now env = some a') : ReflTransGen DevCall a.pw a'.pw := by
  have process : ∀ {sd frames pc init}, dataProcess opts a sd frames now pc init env = some a' →
      ReflTransGen DevCall a.pw a'.pw := fun hp => by
    obtain ⟨_, _, _, done, -, -, rfl⟩ := dataProcess_inv hp
    cases done
    · exact .refl
    · exact devCalls_dataSetupDevice rfl
  simp only [audioPlaybackData] at hd
  split_ifs at hd
  · cases hd
    exact .refl
  · exact process hd
  · cases hd
    exact devCalls_playbackStop rfl
  · exact process hd

theorem devCalls_keepAliveExpiry {pw : PipeWire} {a : AudioState} (h : a.pw = pw) :
    ReflTransGen DevCall pw (keepAliveExpiry a).pw := by
  subst h
  unfold keepAliveExpiry
  split_ifs
  · exact devCalls_playbackStop rfl
  · exact .refl

theorem devCalls_audioPull (frames now : Int) :
    ReflTransGen DevCall a.pw (audioPull a frames now).1.pw := by
  unfold audioPull
  split_ifs
  · exact .refl
  · split
    · exact devCalls_keepAliveExpiry rfl
    · exact devCalls_keepAliveExpiry rfl

theorem devCalls_realRecordStart {pw : PipeWire} {a : AudioState} (h : a.pw = pw)
    (channels sampleRate : Int) :
    ReflTransGen DevCall pw (realRecordStart a channels sampleRate).pw := by
  subst h
  simp only [realRecordStart]
  split_ifs
  · exact .tail (.tail (.single (.recordStart ..)) (.recordVolume ..)) (.recordMute ..)
  · exact .tail (.single (.recordStart ..)) (.recordMute ..)

theorem devCalls_audioRecordStart (channels sampleRate : Int) :
    ReflTransGen DevCall a.pw (audioRecordStart a channels sampleRate).pw := by
  simp only [audioRecordStart]
  split_ifs
  · refine .head (.recordStop _) (devCalls_realRecordStart ?_ ..)
    rfl
  · exact .refl
  · exact devCalls_realRecordStart rfl ..

theorem devCalls_audioRecordStop (a : AudioState) :
    ReflTransGen DevCall a.pw (audioRecordStop a).pw := by
  simp only [audioRecordStop, realRecordStop]
  split_ifs
  · exact .single (.recordStop _)
  · exact .refl

theorem devCalls_step {e : Event} (hs : step opts a e = some a') :
    ReflTransGen DevCall a.pw a'.pw := by
  cases e <;> simp only [step, Option.some.injEq] at hs
  case playbackData => exact devCalls_audioPlaybackData hs
  case drained =>
    split_ifs at hs with hd
    cases hs
    exact .single (.playbackDrained _ hd)
  all_goals subst hs
  case playbackStart => exact devCalls_audioPlaybackStart ..
  case playbackStop => exact devCalls_audioPlaybackStop _
  case pull => exact devCalls_audioPull ..
  case recordStart => exact devCalls_audioRecordStart ..
  case recordStop => exact devCalls_audioRecordStop _
  case playbackVolume | playbackMute | recordVolume | recordMute =>
    simp only [audioPlaybackVolume, audioPlaybackMute, audioRecordVolume, audioRecordMute]
    split_ifs
    · exact .single (by constructor)
    · exact .refl
  case free =>
    exact ((devCalls_playbackStop rfl).trans (devCalls_audioRecordStop _)).tail (.free _)

/-- Over a run of the engine, the device layer goes through device calls only. -/
theorem devCalls_run {es : List Event} (hr : run opts a es = some a') :
    ReflTransGen DevCall a.pw a'.pw := by
  induction es generalizing a with
  | nil => cases hr; exact .refl
  | cons e es ih =>
      simp only [run, Option.bind_eq_some] at hr
      obtain ⟨a₁, h₁, h₂⟩ := hr
      exact (devCalls_step h₁).trans (ih h₂)

/-! ## A drain that can no longer complete -/

/-- The device layer waits in `DRAINING`, but the current stream, if there is
one, has no drain pending, so no `drained` event will end the wait; and it is
inactive. -/
def DrainLost (pw : PipeWire) : Prop :=
  pw.playback.state = .draining ∧
    ∀ s ∈ pw.playback.stream, s.drainPending = false ∧ s.active = false

instance (pw : PipeWire) : Decidable (DrainLost pw) := inferInstanceAs (Decidable (_ ∧ _))

theorem DrainLost.of_playback {pw pw' : PipeWire} (h : DrainLost pw)
    (hp : pw'.playback = pw.playback) : DrainLost pw' := by
  unfold DrainLost
  rw [hp]
  exact h

/-- No device call ends a lost drain: a new stream is created inactive, the
start call waits for the drain, and no stream has a `drained` event to send. -/
theorem DrainLost.devCall {pw pw' : PipeWire} (h : DrainLost pw) (hc : DevCall pw pw') :
    DrainLost pw' := by
  obtain ⟨hd, hs⟩ := h
  cases hc with
  | playbackSetup =>
      unfold audiodevPlaybackSetup
      split_ifs
      · exact ⟨hd, hs⟩
      · refine ⟨hd, fun s hs' => ?_⟩
        cases hs'
        exact ⟨rfl, rfl⟩
  | playbackStart =>
      unfold audiodevPlaybackStart
      split
      · simp_all
      · exact ⟨hd, hs⟩
  | playbackStop =>
      simp only [audiodevPlaybackStop, hd]
      exact ⟨hd, hs⟩
  | playbackVolume =>
      unfold audiodevPlaybackVolume
      split_ifs
      · exact ⟨hd, hs⟩
      · refine ⟨hd, fun s hs' => ?_⟩
        obtain ⟨s₀, h₀, rfl⟩ := Option.map_eq_some'.1 hs'
        exact hs s₀ h₀
  | playbackMute =>
      refine ⟨hd, fun s hs' => ?_⟩
      obtain ⟨s₀, h₀, rfl⟩ := Option.map_eq_some'.1 hs'
      exact hs s₀ h₀
  | playbackDrained hp =>
      cases hst : pw.playback.stream with
      | none => simp [hst] at hp
      | some s => simp [hst, (hs s hst).1] at hp
  | recordStart | recordStop | recordVolume | recordMute =>
      exact DrainLost.of_playback ⟨hd, hs⟩ (by simp)
  | free => exact ⟨hd, fun s hs' => nomatch hs'⟩

theorem DrainLost.devCalls {pw pw' : PipeWire} (h : DrainLost pw)
    (hc : ReflTransGen DevCall pw pw') : DrainLost pw' := by
  induction hc with
  | refl => exact h
  | tail _ hc ih => exact ih.devCall hc

section
attribute [local semireducible] Rat.mul Rat.add Rat.sub Rat.inv

/-- A stream that played and was kept alive, then replaced by a stream of
another sample rate before its drain completed. -/
def formatChangeTrace : List Event :=
  [.playbackStart 2 48000 ⟨true, true, true, none⟩,
   .playbackData 4 1000000000 ⟨true, true, fun _ => [.ok 1 1]⟩,
   .pull 256 1000000000,
   .playbackStop true,
   .playbackStart 2 44100 ⟨true, true, true, none⟩,
   .playbackData 4 2000000000 ⟨true, true, fun _ => [.ok 1 1]⟩]

/-- After the format change the engine is in `SETUP_DEVICE` with a playback
stream that was never activated, and no continuation of the run, whatever its
calls and drain events, activates this stream or any later one. -/
theorem format_change_stream_never_active :
    ∃ a, Reach AudioOpts.default a ∧ a.playback.state = .setupDevice ∧
      a.pw.playback.stream.isSome ∧
      ∀ es a', run AudioOpts.default a es = some a' → ∀ s ∈ a'.pw.playback.stream, s.active = false := by
  obtain ⟨a, hr, hp⟩ := exists_reach_of_run AudioOpts.default formatChangeTrace
    (fun a => decide (a.playback.state = .setupDevice ∧ a.pw.playback.stream.isSome ∧
      DrainLost a.pw)) (by decide)
  obtain ⟨hs, hsome, hl⟩ := of_decide_eq_true hp
  exact ⟨a, hr, hs, hsome, fun _ _ hr' s hs' => ((hl.devCalls (devCalls_run hr')).2 s hs').2⟩

end

end SpicyKvm.Audio
