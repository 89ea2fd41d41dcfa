import SpicyKvm.Audio.Numeric
import SpicyKvm.Audio.Ring
import SpicyKvm.Audio.Device

/-!
# The state of the audio engine

The types of `audio.c` and its static `AudioState audio`. Each field the
modelled functions read or write is kept under its C name; `double` fields are
rationals and `int`/`int64_t` fields integers (see `Numeric`).

Left out: `audio.playback.timings` and the latency callback, which only
report (nothing reads them back); `audio.record.stride`, `time` and
`lastFormat`, which only the capture data path reads or nothing reads; the
`PSAudioFormat` and `time` arguments, which nothing reads. The resampler is
an allocation flag: its internal filter state is the external library's.
-/

namespace SpicyKvm.Audio

open SpicyKvm

/-- `struct audio_opts`, the engine-wide configuration given to `audio_init`
(the sink and source names and the callback are not modelled). -/
structure AudioOpts where
  periodSize : Int
  bufferLatency : Int
deriving DecidableEq, Repr

/-- The built-in defaults of `audio_opts`, which `main` also passes. -/
def AudioOpts.default : AudioOpts := ⟨256, 12⟩

inductive StreamState
  | stop
  | setupSpice
  | setupDevice
  | run
  | keepAlive
deriving DecidableEq, Repr

/-- `STREAM_ACTIVE(state)` -/
def streamActive (s : StreamState) : Bool := s = .run ∨ s = .keepAlive

/-- A `float *` scratch buffer: `NULL`, a live block of `bytes` bytes, or a
pointer left dangling by `free`. -/
inductive Scratch
  | null
  | block (bytes : Int)
  | freed
deriving DecidableEq, Repr

/-- `malloc(bytes)`, whose success the environment decides. -/
def malloc (ok : Bool) (bytes : Int) : Scratch := if ok then .block bytes else .null

/-- The buffer has room for `bytes` bytes. -/
def Scratch.HasRoom : Scratch → Int → Prop
  | .block n, bytes => bytes ≤ n
  | _, _ => False

instance : ∀ s n, Decidable (Scratch.HasRoom s n)
  | .block _, _ => inferInstanceAs (Decidable (_ ≤ _))
  | .null, _ => isFalse id
  | .freed, _ => isFalse id

structure PlaybackDeviceData where
  periodFrames : Int
  periodSec : ℚ
  nextTime : Int
  nextPosition : Int
  b : ℚ
  c : ℚ

structure PlaybackSpiceData where
  framesIn : Scratch
  framesOut : Scratch
  framesOutSize : Int
  periodFrames : Int
  periodSec : ℚ
  nextTime : Int
  nextPosition : Int
  b : ℚ
  c : ℚ
  devPeriodFrames : Int
  devLastTime : Int
  devNextTime : Int
  devLastPosition : Int
  devNextPosition : Int
  offsetError : ℚ
  offsetErrorIntegral : ℚ
  ratioIntegral : ℚ
  /-- `src != NULL` -/
  src : Bool

structure PlaybackDeviceTick where
  periodFrames : Int
  nextTime : Int
  nextPosition : Int
deriving DecidableEq, Repr

structure Playback where
  state : StreamState
  volumeChannels : Int
  /-- the cached levels; only the first `volumeChannels` are ever read -/
  volume : List UInt16
  mute : Bool
  channels : Int
  sampleRate : Int
  stride : Int
  deviceMaxPeriodFrames : Int
  deviceStartFrames : Int
  targetStartFrames : Int
  buffer : Option SampleRing
  deviceTiming : Option (List PlaybackDeviceTick)
  deviceData : PlaybackDeviceData
  spiceData : PlaybackSpiceData
  /-- the statics `lastChannels`, `lastSampleRate` of `audio_playback_start` -/
  lastChannels : Int
  lastSampleRate : Int

structure Record where
  requested : Bool
  started : Bool
  volumeChannels : Int
  volume : List UInt16
  mute : Bool
  lastChannels : Int
  lastSampleRate : Int
deriving DecidableEq, Repr

structure AudioState where
  /-- `audio.audioDev != NULL`; no function of the sources assigns it -/
  audioDev : Bool
  playback : Playback
  record : Record
  /-- the device layer's `static struct PipeWire pw` -/
  pw : AudioDev.PipeWire

/-- `static AudioState audio = {0};` together with `pw = {0}`. -/
def AudioState.init : AudioState where
  audioDev := false
  playback :=
    { state := .stop, volumeChannels := 0, volume := [], mute := false, channels := 0,
      sampleRate := 0, stride := 0, deviceMaxPeriodFrames := 0, deviceStartFrames := 0,
      targetStartFrames := 0, buffer := none, deviceTiming := none,
      deviceData := ⟨0, 0, 0, 0, 0, 0⟩,
      spiceData := ⟨.null, .null, 0, 0, 0, 0, 0, 0, 0, 0, 0, 0, 0, 0, 0, 0, 0, false⟩,
      lastChannels := 0, lastSampleRate := 0 }
  record := ⟨false, false, 0, [], false, 0, 0⟩
  pw := AudioDev.PipeWire.init

end SpicyKvm.Audio
