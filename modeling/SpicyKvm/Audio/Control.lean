import SpicyKvm.Audio.State

/-!
# Starting and stopping streams

`playback_stop`, `audio_playback_start`, `audio_playback_stop`, the volume and
mute requests of both directions, the capture start and stop, and
`audio_free`. What the environment decides is passed in: whether `src_new`,
`src_reset` and each ring allocation succeed, and the node latency the audio
server reports for a new playback stream.

The protocol delivers a volume request's channel count as an unsigned byte,
so `channels` is never negative here and `min(ARRAY_LENGTH(...), channels)`
is the plain minimum.
-/

namespace SpicyKvm.Audio

open SpicyKvm AudioDev

/-- The scratch-buffer release of `playback_stop`: both buffers are freed and
cleared only when `framesIn` is set, so a dangling `framesOut` left by a
failed `malloc` of `framesIn` stays as it is. -/
def PlaybackSpiceData.releaseScratch (sd : PlaybackSpiceData) : PlaybackSpiceData :=
  if sd.framesIn = .null then sd else { sd with framesIn := .null, framesOut := .null }

/-- `playback_stop`: tear the stream down and free every resource. -/
def playbackStop (a : AudioState) : AudioState :=
  if a.playback.state = .stop then a
  else
    { a with
        pw := audiodevPlaybackStop a.pw
        playback := { a.playback with
          state := .stop
          buffer := none
          deviceTiming := none
          spiceData := { a.playback.spiceData.releaseScratch with src := false } } }

@[simp] theorem playbackStop_state (a : AudioState) : (playbackStop a).playback.state = .stop := by
  unfold playbackStop
  split_ifs with h
  · exact h
  · rfl

@[simp] theorem playbackStop_deviceData (a : AudioState) :
    (playbackStop a).playback.deviceData = a.playback.deviceData := by
  unfold playbackStop
  split_ifs <;> rfl

/-- What the environment decides during `audio_playback_start`. -/
structure StartEnv where
  /-- `src_new` returns a resampler -/
  srcNew : Bool
  /-- `ringbuffer_newUnbounded` returns a ring -/
  buffer : Bool
  /-- `ringbuffer_new` returns the tick ring -/
  deviceTiming : Bool
  /-- the node latency numerator the audio server reports, if it is valid -/
  nodeLatency : Option Int

/-- The part of `audio_playback_start` after the resampler was created:
allocate the rings, reset both clocks and the controller, set the device up
and restore the cached volume and mute on it. -/
def playbackOpen (opts : AudioOpts) (a : AudioState) (channels sampleRate : Int)
    (env : StartEnv) : AudioState :=
  let p := a.playback
  let setup := audiodevPlaybackSetup a.pw channels sampleRate (max opts.periodSize 1)
    env.nodeLatency
  let pw := if p.volumeChannels ≠ 0 then audiodevPlaybackVolume setup.1 p.volumeChannels p.volume
    else setup.1
  { a with
      pw := audiodevPlaybackMute pw p.mute
      playback := { p with
        buffer := ringbufferNewUnbounded env.buffer
        deviceTiming := if env.deviceTiming then some [] else none
        lastChannels := channels
        lastSampleRate := sampleRate
        channels := channels
        sampleRate := sampleRate
        stride := channels * 4
        state := .setupSpice
        deviceData := { p.deviceData with periodFrames := 0, nextPosition := 0 }
        spiceData := { p.spiceData with
          src := true, periodFrames := 0, nextPosition := 0, devPeriodFrames := 0,
          devLastTime := int64Min, devNextTime := int64Min,
          offsetError := 0, offsetErrorIntegral := 0, ratioIntegral := 0 }
        deviceMaxPeriodFrames := setup.2.1
        deviceStartFrames := setup.2.2 } }

/-- `audio_playback_start`. A start with the format of a stream kept alive
reuses it; any other start tears the current stream down first. -/
def audioPlaybackStart (opts : AudioOpts) (a : AudioState) (channels sampleRate : Int)
    (env : StartEnv) : AudioState :=
  if a.playback.state = .keepAlive ∧ channels = a.playback.lastChannels ∧
      sampleRate = a.playback.lastSampleRate then a
  else
    let a := if a.playback.state ≠ .stop then playbackStop a else a
    if env.srcNew then playbackOpen opts a channels sampleRate env
    else { a with playback.spiceData.src := false }

/-- `audio_playback_stop`. A running stream is kept alive with a reset
resampler; a stream still being set up is torn down. -/
def audioPlaybackStop (a : AudioState) (srcReset : Bool) : AudioState :=
  match a.playback.state with
  | .run =>
      let a := { a with playback.state := .keepAlive }
      if srcReset then a else playbackStop a
  | .setupSpice | .setupDevice => playbackStop a
  | .keepAlive | .stop => a

/-- `audio_playback_volume`: cache always, apply only while `STREAM_ACTIVE`. -/
def audioPlaybackVolume (a : AudioState) (channels : Int) (volume : List UInt16) : AudioState :=
  let channels := min 8 channels
  let a := { a with playback.volume := volume.take channels.toNat,
                    playback.volumeChannels := channels }
  if streamActive a.playback.state then { a with pw := audiodevPlaybackVolume a.pw channels volume }
  else a

/-- `audio_playback_mute`: cache always, apply only while `STREAM_ACTIVE`. -/
def audioPlaybackMute (a : AudioState) (mute : Bool) : AudioState :=
  let a := { a with playback.mute := mute }
  if streamActive a.playback.state then { a with pw := audiodevPlaybackMute a.pw mute } else a

/-! ## Capture -/

/-- `real_record_start`. The levels and mute it restores are read from
`audio.playback`, as the source has it. -/
def realRecordStart (a : AudioState) (channels sampleRate : Int) : AudioState :=
  let pw := audiodevRecordStart a.pw channels sampleRate
  let pw := if a.record.volumeChannels ≠ 0 then
    audiodevRecordVolume pw a.playback.volumeChannels a.playback.volume else pw
  { a with record.started := true, pw := audiodevRecordMute pw a.playback.mute }

/-- `audio_record_start`. Its statics `lastChannels` and `lastSampleRate` are
compared but never assigned, so they stay `0`. -/
def audioRecordStart (a : AudioState) (channels sampleRate : Int) : AudioState :=
  let start (a : AudioState) : AudioState :=
    realRecordStart { a with record.requested := true, record.lastChannels := channels,
                             record.lastSampleRate := sampleRate } channels sampleRate
  if a.record.started then
    if channels ≠ 0 ∨ sampleRate ≠ 0 then start { a with pw := audiodevRecordStop a.pw } else a
  else start a

/-- `real_record_stop` -/
def realRecordStop (a : AudioState) : AudioState :=
  { a with pw := audiodevRecordStop a.pw, record.started := false }

/-- `audio_record_stop`. It does nothing unless `audio.audioDev` is set. -/
def audioRecordStop (a : AudioState) : AudioState :=
  let a := { a with record.requested := false }
  if a.audioDev ∧ a.record.started then realRecordStop a else a

@[simp] theorem audioRecordStop_playback (a : AudioState) :
    (audioRecordStop a).playback = a.playback := by
  simp only [audioRecordStop, realRecordStop]
  split_ifs <;> rfl

/-- `audio_record_volume`: cache always, apply only once started. -/
def audioRecordVolume (a : AudioState) (channels : Int) (volume : List UInt16) : AudioState :=
  let channels := min 8 channels
  let a := { a with record.volume := volume.take channels.toNat,
                    record.volumeChannels := channels }
  if a.record.started then { a with pw := audiodevRecordVolume a.pw channels volume } else a

/-- `audio_record_mute`: cache always, apply only once started. -/
def audioRecordMute (a : AudioState) (mute : Bool) : AudioState :=
  let a := { a with record.mute := mute }
  if a.record.started then { a with pw := audiodevRecordMute a.pw mute } else a

/-- `audio_free`: stop playback at once, stop capture, destroy the device
layer's streams. -/
def audioFree (a : AudioState) : AudioState :=
  let a := audioRecordStop (playbackStop a)
  { a with pw := audiodevFree a.pw }

@[simp] theorem audioFree_playback (a : AudioState) :
    (audioFree a).playback = (playbackStop a).playback := by
  simp [audioFree]

end SpicyKvm.Audio
