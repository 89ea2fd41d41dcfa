import SpicyKvm.Audio.Pull

/-!
# The producer: `audio_playback_data`

A packet of `size` bytes of S16 audio arrives at clock reading `now`. The
producer reallocates its scratch buffers when the packet size changes, drains
the device ticks, fixes the target latency, runs its own clock (a period
change, a slew that also restarts a stream kept alive, or a PLL step), filters
the offset between its position and the interpolated device position through
the PI controller, resamples the packet into the ring, and on the first packet
of a stream opens the device.

`src_process` is the external resampler: the environment gives the results of
its successive calls for the ratio the controller chose. The sample values
(`src_short_to_float_array`, the contents of the scratch buffers) and the
latency report at the end are not modelled.
-/

namespace SpicyKvm.Audio

open SpicyKvm AudioDev

/-- A result of `src_process`. -/
inductive SrcResult
  | error
  | ok (inputFramesUsed outputFramesGen : Int)

/-- What the environment decides during `audio_playback_data`. -/
structure DataEnv where
  /-- `malloc` of `framesIn` succeeds -/
  framesIn : Bool
  /-- `malloc` of `framesOut` succeeds -/
  framesOut : Bool
  /-- the results of the successive `src_process` calls, given the ratio -/
  srcProcess : ℚ → List SrcResult

/-- `int frames = size / spiceStride` with `spiceStride = channels * sizeof(int16_t)`.
The division is done in `size_t`, so a negative stride is read modulo 2^64 and
the quotient is never negative. A zero stride is a division by zero, which
`audioPlaybackData` does not reach. -/
def dataFrames (size : Nat) (channels : Int) : Int :=
  (size / (2 * channels % 2 ^ 64).toNat : Nat)

/-- The scratch reallocation on a period change: the old buffers are freed, the
new period recorded, and both buffers allocated. The flag is `false` when a
`malloc` fails, in which case the caller stops playback with the buffers as
they are left. -/
def dataScratch (sd : PlaybackSpiceData) (frames stride : Int) (okIn okOut : Bool) :
    PlaybackSpiceData × Bool :=
  let sd := { (if sd.framesIn = .null then sd else { sd with framesIn := .freed, framesOut := .freed })
    with periodFrames := frames, framesIn := malloc okIn (frames * stride) }
  if okIn then
    let sd := { sd with framesOutSize := cRound (frames * (11 / 10)) }
    ({ sd with framesOut := malloc okOut (sd.framesOutSize * stride) }, okOut)
  else (sd, false)

theorem dataScratch_nextPosition (sd : PlaybackSpiceData) (frames stride : Int) (okIn okOut : Bool) :
    (dataScratch sd frames stride okIn okOut).1.nextPosition = sd.nextPosition := by
  unfold dataScratch
  split_ifs <;> rfl

/-- The scratch buffers hold one period of the stream: `framesIn` its input, and
`framesOut` the resampler's output for it, of at least as many frames. -/
def ScratchReady (sd : PlaybackSpiceData) (stride : Int) : Prop :=
  sd.framesIn.HasRoom (sd.periodFrames * stride) ∧
    sd.framesOut.HasRoom (sd.framesOutSize * stride) ∧ sd.periodFrames ≤ sd.framesOutSize

/-- A reallocation that succeeds leaves buffers for the new period; every
reallocation records the period and keeps the resampler. -/
theorem dataScratch_spec (sd : PlaybackSpiceData) {frames : Int} (stride : Int) (okIn okOut : Bool)
    (hf : 0 ≤ frames) :
    (dataScratch sd frames stride okIn okOut).1.periodFrames = frames ∧
      (dataScratch sd frames stride okIn okOut).1.src = sd.src ∧
      ((dataScratch sd frames stride okIn okOut).2 = true →
        ScratchReady (dataScratch sd frames stride okIn okOut).1 stride) := by
  have hout : frames ≤ cRound (frames * (11 / 10)) := by
    have : (0 : ℚ) ≤ frames := by exact_mod_cast hf
    exact le_cRound (by linarith)
  unfold dataScratch
  cases okIn <;> cases okOut <;> simp only [malloc] <;> split_ifs <;>
    simp [ScratchReady, Scratch.HasRoom, hout]

/-- The times of the last two device ticks the producer has taken. -/
def PlaybackSpiceData.devTimes (sd : PlaybackSpiceData) : Int × Int :=
  (sd.devLastTime, sd.devNextTime)

theorem dataScratch_devTimes (sd : PlaybackSpiceData) (frames stride : Int) (okIn okOut : Bool) :
    (dataScratch sd frames stride okIn okOut).1.devTimes = sd.devTimes := by
  unfold dataScratch
  split_ifs <;> rfl

/-- One tick taken from `deviceTiming` by the drain loop. -/
def PlaybackSpiceData.takeTick (sd : PlaybackSpiceData) (t : PlaybackDeviceTick) :
    PlaybackSpiceData :=
  { sd with
      devPeriodFrames := t.periodFrames
      devLastTime := sd.devNextTime
      devLastPosition := sd.devNextPosition
      devNextTime := t.nextTime
      devNextPosition := t.nextPosition }

/-- The producer fields that only a period change and a new stream set: the
scratch buffers, their period and the resampler. -/
def PlaybackSpiceData.scratch (sd : PlaybackSpiceData) : Scratch × Scratch × Int × Int × Bool :=
  (sd.framesIn, sd.framesOut, sd.framesOutSize, sd.periodFrames, sd.src)

/-- The drain loop `while (ringbuffer_consume(deviceTiming, &tick, 1))`. -/
def drainTicks (sd : PlaybackSpiceData) (ticks : List PlaybackDeviceTick) : PlaybackSpiceData :=
  ticks.foldl PlaybackSpiceData.takeTick sd

theorem drainTicks_nextPosition (sd : PlaybackSpiceData) (ticks : List PlaybackDeviceTick) :
    (drainTicks sd ticks).nextPosition = sd.nextPosition := by
  induction ticks generalizing sd with
  | nil => rfl
  | cons t ts ih => exact ih _

theorem drainTicks_scratch (sd : PlaybackSpiceData) (ticks : List PlaybackDeviceTick) :
    (drainTicks sd ticks).scratch = sd.scratch := by
  induction ticks generalizing sd with
  | nil => rfl
  | cons t ts ih => exact ih _

/-- The target latency in frames: the larger of the device's maximum and its
current period, plus a tenth for jitter and the configured buffer latency,
raised by the shortfall of a current period below the maximum. -/
def targetLatencyFrames (opts : AudioOpts) (p : Playback) (devPeriodFrames : Int) : ℚ :=
  let configLatencyMs := max opts.bufferLatency 0
  let maxPeriodFrames := max p.deviceMaxPeriodFrames devPeriodFrames
  let t : ℚ := maxPeriodFrames * (11 / 10) + ((configLatencyMs * p.sampleRate : Int) : ℚ) / 1000
  if devPeriodFrames ≠ 0 ∧ devPeriodFrames < p.deviceMaxPeriodFrames then
    t + (p.deviceMaxPeriodFrames - devPeriodFrames : Int)
  else t

/-- `compute_device_position`: the device position at `curTime`, interpolated
between the last two ticks. -/
def computeDevicePosition (sd : PlaybackSpiceData) (curTime : Int) : ℚ :=
  sd.devLastPosition + ((sd.devNextPosition - sd.devLastPosition : Int) : ℚ) *
    (((curTime - sd.devLastTime : Int) : ℚ) / ((sd.devNextTime - sd.devLastTime : Int) : ℚ))

/-- What the producer clock hands on to the controller. -/
structure SpiceClock where
  sd : PlaybackSpiceData
  curTime : Int
  curPosition : Int
  /-- the device position, if the slew already computed it (`DBL_MIN` otherwise) -/
  devPosition : Option ℚ
  /-- the silence a slew appended to the ring; a slew puts the stream in `RUN` -/
  slew : Option Int

/-- The slew of the producer clock: to the target latency past the interpolated
device position when a tick pair is known, else by the clock error. -/
def spiceSlew (sd : PlaybackSpiceData) (state : StreamState) (sampleRate now : Int)
    (error target : ℚ) : Option ℚ × Int :=
  if sd.devLastTime ≠ int64Min then
    let devPosition := computeDevicePosition sd now
    let targetPosition := devPosition + target + (if state = .keepAlive then 20 else 0)
    (some devPosition, cRound (targetPosition - sd.nextPosition))
  else (none, cRound (error * sampleRate))

/-- The producer clock of `audio_playback_data`. -/
def spiceClock (sd : PlaybackSpiceData) (state : StreamState) (sampleRate frames now : Int)
    (periodChanged init : Bool) (target : ℚ) : SpiceClock :=
  let periodSec : ℚ := frames / sampleRate
  if periodChanged then
    let curTime := if init then now else sd.nextTime
    { sd := { sd with
        periodSec := periodSec
        nextTime := curTime + llrint (periodSec * 10 ^ 9)
        b := (pllCoeffs periodSec).1
        c := (pllCoeffs periodSec).2 }
      curTime := curTime, curPosition := sd.nextPosition, devPosition := none, slew := none }
  else
    let error : ℚ := (now - sd.nextTime) * (1 / 10 ^ 9)
    if 1 / 5 ≤ |error| ∨ state = .keepAlive then
      let s := spiceSlew sd state sampleRate now error target
      { sd := { sd with
          periodSec := periodSec
          nextTime := now + llrint (periodSec * 10 ^ 9)
          nextPosition := sd.nextPosition + s.2
          offsetError := 0, offsetErrorIntegral := 0, ratioIntegral := 0 }
        curTime := now, curPosition := sd.nextPosition + s.2, devPosition := s.1,
        slew := some s.2 }
    else
      { sd := { sd with
          nextTime := sd.nextTime + llrint ((sd.b * error + sd.periodSec) * 10 ^ 9)
          periodSec := sd.periodSec + sd.c * error }
        curTime := sd.nextTime, curPosition := sd.nextPosition, devPosition := none,
        slew := none }

/-- The producer position moves only by a slew. -/
theorem spiceClock_nextPosition (sd : PlaybackSpiceData) (state : StreamState)
    (sampleRate frames now : Int) (periodChanged init : Bool) (target : ℚ) :
    (spiceClock sd state sampleRate frames now periodChanged init target).sd.nextPosition =
      sd.nextPosition + (spiceClock sd state sampleRate frames now periodChanged init target).slew.getD 0 := by
  simp only [spiceClock]
  split_ifs <;> simp

theorem spiceClock_scratch (sd : PlaybackSpiceData) (state : StreamState)
    (sampleRate frames now : Int) (periodChanged init : Bool) (target : ℚ) :
    (spiceClock sd state sampleRate frames now periodChanged init target).sd.scratch = sd.scratch := by
  simp only [spiceClock]
  split_ifs <;> rfl

theorem spiceClock_devTimes (sd : PlaybackSpiceData) (state : StreamState)
    (sampleRate frames now : Int) (periodChanged init : Bool) (target : ℚ) :
    (spiceClock sd state sampleRate frames now periodChanged init target).sd.devTimes = sd.devTimes := by
  simp only [spiceClock]
  split_ifs <;> rfl

/-- The offset filter and the PI controller: the updated controller state and
the resampling ratio for this packet. -/
def controller (sd : PlaybackSpiceData) (curTime curPosition : Int) (devPosition : Option ℚ)
    (target : ℚ) : PlaybackSpiceData × ℚ :=
  let offsetError := sd.offsetError
  let sd := if sd.devLastTime ≠ int64Min then
      let actualOffset := curPosition - devPosition.getD (computeDevicePosition sd curTime)
      let error := -(actualOffset - target) - offsetError
      { sd with
          offsetError := sd.offsetError + (sd.b * error + sd.offsetErrorIntegral)
          offsetErrorIntegral := sd.offsetErrorIntegral + sd.c * error }
    else sd
  let sd := { sd with ratioIntegral := sd.ratioIntegral + offsetError * sd.periodSec }
  (sd, 1 + ((1 / 2000000) * offsetError + (1 / 10 ^ 16) * sd.ratioIntegral))

theorem controller_nextPosition (sd : PlaybackSpiceData) (curTime curPosition : Int)
    (devPosition : Option ℚ) (target : ℚ) :
    (controller sd curTime curPosition devPosition target).1.nextPosition = sd.nextPosition := by
  simp only [controller]
  split_ifs <;> rfl

theorem controller_scratch (sd : PlaybackSpiceData) (curTime curPosition : Int)
    (devPosition : Option ℚ) (target : ℚ) :
    (controller sd curTime curPosition devPosition target).1.scratch = sd.scratch := by
  simp only [controller]
  split_ifs <;> rfl

theorem controller_devTimes (sd : PlaybackSpiceData) (curTime curPosition : Int)
    (devPosition : Option ℚ) (target : ℚ) :
    (controller sd curTime curPosition devPosition target).1.devTimes = sd.devTimes := by
  simp only [controller]
  split_ifs <;> rfl

/-- The resampling loop, from `consumed` input frames on. Each call's output is
appended to the ring and added to the producer position. The result holds the
ring and the position, and whether the loop ended normally (`false` when
`src_process` failed); it is `none` when the given results run out first. -/
def resampleLoop (frames : Int) :
    Int → List SrcResult → Option SampleRing → Int → Option (Option SampleRing × Int × Bool)
  | consumed, results, rb, pos =>
    if consumed < frames then
      match results with
      | [] => none
      | .error :: _ => some (rb, pos, false)
      | .ok used gen :: rest => resampleLoop frames (consumed + used) rest (ringbufferAppend rb gen)
          (pos + gen)
    else some (rb, pos, true)

/-- The loop appends to the ring exactly what it adds to the producer position. -/
theorem resampleLoop_append {frames consumed pos pos' : Int} {results : List SrcResult}
    {rb rb' : Option SampleRing} {done : Bool}
    (h : resampleLoop frames consumed results rb pos = some (rb', pos', done)) :
    rb' = ringbufferAppend rb (pos' - pos) := by
  induction results generalizing consumed rb pos with
  | nil =>
      unfold resampleLoop at h
      split_ifs at h
      cases h
      simp
  | cons r rs ih =>
      unfold resampleLoop at h
      split_ifs at h
      · rcases r with _ | ⟨used, gen⟩
        · cases h
          simp
        · rw [ih h, ringbufferAppend_append]
          congr 1
          omega
      · cases h
        simp

/-- The end of the first packet of a stream: fix the pre-fill target and open
the device. -/
def dataSetupDevice (a : AudioState) : AudioState :=
  if a.playback.state = .setupSpice then
    { a with
        playback := { a.playback with
          targetStartFrames := a.playback.spiceData.periodFrames * 2 + a.playback.deviceStartFrames
          state := .setupDevice }
        pw := audiodevPlaybackStart a.pw }
  else a

@[simp] theorem dataSetupDevice_buffer (a : AudioState) :
    (dataSetupDevice a).playback.buffer = a.playback.buffer := by
  unfold dataSetupDevice; split_ifs <;> rfl
@[simp] theorem dataSetupDevice_deviceTiming (a : AudioState) :
    (dataSetupDevice a).playback.deviceTiming = a.playback.deviceTiming := by
  unfold dataSetupDevice; split_ifs <;> rfl
@[simp] theorem dataSetupDevice_deviceData (a : AudioState) :
    (dataSetupDevice a).playback.deviceData = a.playback.deviceData := by
  unfold dataSetupDevice; split_ifs <;> rfl
@[simp] theorem dataSetupDevice_spiceData (a : AudioState) :
    (dataSetupDevice a).playback.spiceData = a.playback.spiceData := by
  unfold dataSetupDevice; split_ifs <;> rfl

/-- The part of `audio_playback_data` after the scratch buffers are in place:
`sd` is the producer data with the current period. -/
def dataProcess (opts : AudioOpts) (a : AudioState) (sd : PlaybackSpiceData) (frames now : Int)
    (periodChanged init : Bool) (env : DataEnv) : Option AudioState :=
  let p := a.playback
  let sd := drainTicks sd (p.deviceTiming.getD [])
  let target := targetLatencyFrames opts p sd.devPeriodFrames
  let ck := spiceClock sd p.state p.sampleRate frames now periodChanged init target
  let ctl := controller ck.sd ck.curTime ck.curPosition ck.devPosition target
  -- a slew appends its silence; without one, appending no frames changes nothing
  let buffer := ringbufferAppend p.buffer (ck.slew.getD 0)
  match resampleLoop frames 0 (env.srcProcess ctl.2) buffer ctl.1.nextPosition with
  | none => none
  | some (buffer, pos, done) =>
    let a := { a with playback := { p with
      state := if ck.slew.isSome then .run else p.state
      buffer := buffer
      deviceTiming := p.deviceTiming.map fun _ => []
      spiceData := { ctl.1 with nextPosition := pos } } }
    some (if done then dataSetupDevice a else a)

/-- A packet appends to the ring exactly what it adds to the producer position
(its slew and its resampled output), and leaves the device side alone. -/
theorem dataProcess_positions {opts : AudioOpts} {a a' : AudioState} {sd : PlaybackSpiceData}
    {frames now : Int} {periodChanged init : Bool} {env : DataEnv}
    (h : dataProcess opts a sd frames now periodChanged init env = some a') :
    a'.playback.buffer = ringbufferAppend a.playback.buffer
        (a'.playback.spiceData.nextPosition - sd.nextPosition) ∧
      a'.playback.deviceData = a.playback.deviceData := by
  simp only [dataProcess] at h
  split at h
  · cases h
  · rename_i buffer pos done hloop
    simp only [Option.some.injEq] at h
    subst h
    rw [resampleLoop_append hloop, controller_nextPosition, spiceClock_nextPosition,
      drainTicks_nextPosition, ringbufferAppend_append]
    split_ifs <;> simp only [dataSetupDevice_buffer, dataSetupDevice_deviceData,
      dataSetupDevice_spiceData, and_true] <;> congr 1 <;> omega

/-- What a packet does once the scratch buffers are in place: it keeps them and
the resampler, takes the device ticks, may move the state to `RUN` (a slew),
replaces the ring and the producer data, empties the tick ring, and, when the
loop ended normally, runs the first-packet step. -/
theorem dataProcess_inv {opts : AudioOpts} {a a' : AudioState} {sd : PlaybackSpiceData}
    {frames now : Int} {periodChanged init : Bool} {env : DataEnv}
    (h : dataProcess opts a sd frames now periodChanged init env = some a') :
    ∃ (sd' : PlaybackSpiceData) (buffer : Option SampleRing) (slew done : Bool),
      sd'.scratch = sd.scratch ∧
      sd'.devTimes = (drainTicks sd (a.playback.deviceTiming.getD [])).devTimes ∧
      a' = (if done then dataSetupDevice else id) { a with playback := { a.playback with
        state := if slew then .run else a.playback.state
        buffer := buffer
        deviceTiming := a.playback.deviceTiming.map fun _ => []
        spiceData := sd' } } := by
  simp only [dataProcess] at h
  split at h
  · cases h
  · rename_i buffer pos done _
    cases h
    refine ⟨_, buffer, _, done, ?_, ?_, by cases done <;> rfl⟩
    · exact (controller_scratch ..).trans ((spiceClock_scratch ..).trans (drainTicks_scratch ..))
    · exact (controller_devTimes ..).trans (spiceClock_devTimes ..)

/-- `audio_playback_data`. `none` when the resampler results given run out
before the packet is consumed, and where the frame count divides by a zero
stride (undefined behaviour). -/
def audioPlaybackData (opts : AudioOpts) (a : AudioState) (size : Nat) (now : Int)
    (env : DataEnv) : Option AudioState :=
  if a.playback.state = .stop ∨ size = 0 then some a
  else if 2 * a.playback.channels % 2 ^ 64 = 0 then none
  else
    let sd := a.playback.spiceData
    let frames := dataFrames size a.playback.channels
    if frames ≠ sd.periodFrames then
      let s := dataScratch sd frames a.playback.stride env.framesIn env.framesOut
      if s.2 then dataProcess opts a s.1 frames now true (sd.periodFrames = 0) env
      else some (playbackStop { a with playback.spiceData := s.1 })
    else dataProcess opts a sd frames now false (sd.periodFrames = 0) env

end SpicyKvm.Audio
