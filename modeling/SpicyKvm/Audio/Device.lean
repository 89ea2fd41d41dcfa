import Mathlib.Data.List.Basic

/-!
# The PipeWire device layer

`audiodev.c` owns one playback and one capture stream of the audio server.
The model keeps, for each stream object, what `audiodev.c` has done to it:
whether `pw_stream_set_active` last made it active, whether a draining flush
is waiting for its `drained` event, and the last volume and mute controls set
on it. Stream objects carry an identity, so that a destroyed stream and its
replacement are told apart.

`pw.playback.state` is the layer's own INACTIVE/ACTIVE/DRAINING flag, kept
apart from the stream objects: the two can disagree, and the engine's
lifecycle depends on the flag.

Left out: the process callback's buffer bookkeeping (`stride`, `rateMatch`,
`time`), which only decides how many frames `audio_pull` is asked for, and
`audiodev_playback_latency`, which only feeds the latency report. Creating a
stream is assumed to succeed: the code reads the new stream's properties
before it checks it for `NULL`. Volume controls are recorded as the `u16`
levels the gain curve is applied to.
-/

namespace SpicyKvm.AudioDev

/-- `StreamState` of `audiodev.c`. -/
inductive StreamState
  | inactive
  | active
  | draining
deriving DecidableEq, Repr

/-- A PipeWire stream object and the controls applied to it. -/
structure PwStream where
  id : Nat
  /-- the value of the last `pw_stream_set_active` (or of the connect flags) -/
  active : Bool
  /-- a `pw_stream_flush(stream, true)` whose `drained` event has not fired -/
  drainPending : Bool
  /-- the levels of the last `SPA_PROP_channelVolumes` control -/
  volume : Option (List UInt16)
  /-- the last `SPA_PROP_mute` control -/
  mute : Option Bool
deriving DecidableEq, Repr

structure Playback where
  stream : Option PwStream
  channels : Int
  sampleRate : Int
  maxPeriodFrames : Int
  startFrames : Int
  state : StreamState

structure Record where
  stream : Option PwStream
  channels : Int
  sampleRate : Int
  active : Bool

/-- `struct PipeWire`, with a counter that names fresh stream objects. -/
structure PipeWire where
  playback : Playback
  record : Record
  nextId : Nat

/-- `static struct PipeWire pw = {0};` -/
def PipeWire.init : PipeWire :=
  ⟨⟨none, 0, 0, 0, 0, .inactive⟩, ⟨none, 0, 0, false⟩, 0⟩

/-- A stream object fresh from `pw_stream_new_simple` and `pw_stream_connect`. -/
def PwStream.new (id : Nat) (active : Bool) : PwStream := ⟨id, active, false, none, none⟩

/-! ## Playback -/

/-- `audiodev_playback_stop_stream` -/
def audiodevPlaybackStopStream (pw : PipeWire) : PipeWire :=
  { pw with playback.stream := none }

/-- `audiodev_playback_setup`. `nodeLatency` is the numerator of the stream's
`node.latency` property when it parses as `num/denom` with `denom` equal to the
sample rate, and `none` otherwise. Returns the device's maximum period and
start frames. -/
def audiodevPlaybackSetup (pw : PipeWire) (channels sampleRate requestedPeriodFrames : Int)
    (nodeLatency : Option Int) : PipeWire × Int × Int :=
  if pw.playback.stream.isSome ∧ pw.playback.channels = channels ∧
      pw.playback.sampleRate = sampleRate then
    (pw, pw.playback.maxPeriodFrames, pw.playback.startFrames)
  else
    let maxPeriodFrames := nodeLatency.getD requestedPeriodFrames
    let pw := audiodevPlaybackStopStream pw
    ({ pw with
        playback := { pw.playback with
          stream := some (PwStream.new pw.nextId false)
          channels := channels
          sampleRate := sampleRate
          maxPeriodFrames := maxPeriodFrames
          startFrames := maxPeriodFrames * 2 }
        nextId := pw.nextId + 1 },
      maxPeriodFrames, maxPeriodFrames * 2)

/-- `audiodev_playback_start`: a draining stream is left to finish draining. -/
def audiodevPlaybackStart (pw : PipeWire) : PipeWire :=
  match pw.playback.stream, pw.playback.state with
  | some s, .inactive =>
      { pw with playback.stream := some { s with active := true }, playback.state := .active }
  | _, _ => pw

/-- `audiodev_playback_stop`: flush with drain and wait for `drained`. -/
def audiodevPlaybackStop (pw : PipeWire) : PipeWire :=
  if pw.playback.state = .active then
    { pw with
        playback.stream := pw.playback.stream.map ({ · with drainPending := true }),
        playback.state := .draining }
  else pw

/-- `audiodev_playback_volume` -/
def audiodevPlaybackVolume (pw : PipeWire) (channels : Int) (volume : List UInt16) : PipeWire :=
  if channels ≠ pw.playback.channels then pw
  else { pw with playback.stream :=
    pw.playback.stream.map ({ · with volume := some (volume.take channels.toNat) }) }

/-- `audiodev_playback_mute` -/
def audiodevPlaybackMute (pw : PipeWire) (mute : Bool) : PipeWire :=
  { pw with playback.stream := pw.playback.stream.map ({ · with mute := some mute }) }

/-- `audiodev_onPlaybackDrained`, run when the current stream's drain
completes. -/
def audiodevOnPlaybackDrained (pw : PipeWire) : PipeWire :=
  { pw with
      playback.stream := pw.playback.stream.map ({ · with active := false, drainPending := false }),
      playback.state := .inactive }

/-- What the playback side has told the audio server about its controls: the
channel count it was set up with, and the levels and mute last applied to the
stream object. -/
def PipeWire.playbackControls (pw : PipeWire) : Int × Option (Option (List UInt16) × Option Bool) :=
  (pw.playback.channels, pw.playback.stream.map fun s => (s.volume, s.mute))

@[simp] theorem audiodevPlaybackVolume_channels (pw : PipeWire) (channels : Int) (volume : List UInt16) :
    (audiodevPlaybackVolume pw channels volume).playback.channels = pw.playback.channels := by
  unfold audiodevPlaybackVolume; split_ifs <;> rfl

@[simp] theorem audiodevPlaybackMute_channels (pw : PipeWire) (mute : Bool) :
    (audiodevPlaybackMute pw mute).playback.channels = pw.playback.channels := rfl

@[simp] theorem audiodevPlaybackStart_playbackControls (pw : PipeWire) :
    (audiodevPlaybackStart pw).playbackControls = pw.playbackControls := by
  unfold audiodevPlaybackStart
  split
  · rename_i hs _
    simp [PipeWire.playbackControls, hs]
  · rfl

@[simp] theorem audiodevPlaybackStop_playbackControls (pw : PipeWire) :
    (audiodevPlaybackStop pw).playbackControls = pw.playbackControls := by
  unfold audiodevPlaybackStop
  split_ifs
  · simp only [PipeWire.playbackControls, Option.map_map]
    rfl
  · rfl

@[simp] theorem audiodevOnPlaybackDrained_playbackControls (pw : PipeWire) :
    (audiodevOnPlaybackDrained pw).playbackControls = pw.playbackControls := by
  simp only [PipeWire.playbackControls, audiodevOnPlaybackDrained, Option.map_map]
  rfl

/-! ## Capture -/

/-- `audiodev_record_stop_stream` -/
def audiodevRecordStopStream (pw : PipeWire) : PipeWire :=
  { pw with record.stream := none }

/-- `audiodev_record_start`. A new capture stream is connected active. -/
def audiodevRecordStart (pw : PipeWire) (channels sampleRate : Int) : PipeWire :=
  match pw.record.stream with
  | some s =>
      if pw.record.channels = channels ∧ pw.record.sampleRate = sampleRate then
        if pw.record.active then pw
        else { pw with record.stream := some { s with active := true }, record.active := true }
      else fresh
  | none => fresh
where
  fresh : PipeWire :=
    { pw with
        record := ⟨some (PwStream.new pw.nextId true), channels, sampleRate, true⟩
        nextId := pw.nextId + 1 }

/-- `audiodev_record_stop` -/
def audiodevRecordStop (pw : PipeWire) : PipeWire :=
  if pw.record.active then
    { pw with record.stream := pw.record.stream.map ({ · with active := false }),
              record.active := false }
  else pw

/-- `audiodev_record_volume` -/
def audiodevRecordVolume (pw : PipeWire) (channels : Int) (volume : List UInt16) : PipeWire :=
  if channels ≠ pw.record.channels then pw
  else { pw with record.stream :=
    pw.record.stream.map ({ · with volume := some (volume.take channels.toNat) }) }

/-- `audiodev_record_mute` -/
def audiodevRecordMute (pw : PipeWire) (mute : Bool) : PipeWire :=
  { pw with record.stream := pw.record.stream.map ({ · with mute := some mute }) }

@[simp] theorem audiodevRecordStart_playback (pw : PipeWire) (channels sampleRate : Int) :
    (audiodevRecordStart pw channels sampleRate).playback = pw.playback := by
  unfold audiodevRecordStart audiodevRecordStart.fresh
  split <;> (try split_ifs) <;> rfl

@[simp] theorem audiodevRecordStop_playback (pw : PipeWire) :
    (audiodevRecordStop pw).playback = pw.playback := by
  unfold audiodevRecordStop; split_ifs <;> rfl

@[simp] theorem audiodevRecordVolume_playback (pw : PipeWire) (channels : Int) (volume : List UInt16) :
    (audiodevRecordVolume pw channels volume).playback = pw.playback := by
  unfold audiodevRecordVolume; split_ifs <;> rfl

@[simp] theorem audiodevRecordMute_playback (pw : PipeWire) (mute : Bool) :
    (audiodevRecordMute pw mute).playback = pw.playback := rfl

/-- `audiodev_free`: both streams are destroyed with the loop. -/
def audiodevFree (pw : PipeWire) : PipeWire :=
  audiodevRecordStopStream (audiodevPlaybackStopStream pw)

end SpicyKvm.AudioDev
