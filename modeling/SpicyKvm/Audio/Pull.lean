import SpicyKvm.Audio.Control

/-!
# The consumer: `audio_pull`

The audio server's thread pulls `frames` frames at clock reading `now`. While
a sample ring exists, the pull finishes the pre-fill of `SETUP_DEVICE`, runs
the device clock (a period change, a desync slew, or a step of the
second-order PLL), publishes a tick to the producer and consumes the frames;
a stream kept alive is closed once 30 seconds of silence have been owed.

`DEBUG_ASSERT(frames >= 0)` comes from a header that is not part of the
sources. The model does not stop at it, so whatever it proves also holds of
a build whose assertion aborts.
-/

namespace SpicyKvm.Audio

open SpicyKvm

/-- The PLL coefficients `(b, c)` for a period of `periodSec` seconds and a loop
bandwidth of 0.05 Hz: `ω = 2π·0.05·periodSec`, `b = √2·ω`, `c = ω²`. -/
def pllCoeffs (periodSec : ℚ) : ℚ × ℚ :=
  let omega := 2 * mPi * (1 / 20) * periodSec
  (mSqrt2 * omega, omega * omega)

/-- The `SETUP_DEVICE` pre-fill of `audio_pull`: when fewer than
`targetStartFrames` frames are buffered, the device position slews back by the
difference, so that the device plays the shortfall as silence. -/
def pullPrefill (p : Playback) (r : SampleRing) : Playback × SampleRing :=
  if p.state = .setupDevice then
    let offset := r.count - p.targetStartFrames
    if offset < 0 then
      ({ p with state := .run, deviceData.nextPosition := p.deviceData.nextPosition + offset },
        r.consume offset)
    else ({ p with state := .run }, r)
  else (p, r)

/-- The pre-fill check moves the state only to `RUN`, and otherwise changes no
more than the device position. -/
theorem pullPrefill_fst (p : Playback) (r : SampleRing) :
    ∃ s n, (pullPrefill p r).1 = { p with state := s, deviceData.nextPosition := n } ∧
      (s = p.state ∨ s = .run) := by
  simp only [pullPrefill]
  split_ifs
  · exact ⟨_, _, rfl, .inr rfl⟩
  · exact ⟨_, _, rfl, .inr rfl⟩
  · exact ⟨_, _, rfl, .inl rfl⟩

theorem pullPrefill_of_ne {p : Playback} (h : p.state ≠ .setupDevice) (r : SampleRing) :
    pullPrefill p r = (p, r) := by
  simp [pullPrefill, h]

/-- The device clock of `audio_pull`: the new device data, and the slew in frames
that the pull consumes from the ring before the period itself (`0` when it
does not slew). On a period change the next wake-up is predicted from the
*old* period, since the device asks for the new size while it still plays a
buffer of the old one. -/
def pullClock (d : PlaybackDeviceData) (sampleRate frames now : Int) :
    PlaybackDeviceData × Int :=
  if frames ≠ d.periodFrames then
    let newPeriodSec : ℚ := frames / sampleRate
    ({ periodFrames := frames
       periodSec := newPeriodSec
       nextTime := if d.periodFrames = 0 then now + llrint (newPeriodSec * 10 ^ 9)
         else d.nextTime + llrint (d.periodSec * 10 ^ 9)
       nextPosition := d.nextPosition + frames
       b := (pllCoeffs newPeriodSec).1
       c := (pllCoeffs newPeriodSec).2 }, 0)
  else
    let error : ℚ := (now - d.nextTime) * (1 / 10 ^ 9)
    if 1 / 5 ≤ |error| then
      let slewFrames := cRound (error * sampleRate)
      let periodSec : ℚ := frames / sampleRate
      ({ d with
          periodSec := periodSec
          nextTime := now + llrint (periodSec * 10 ^ 9)
          nextPosition := d.nextPosition + (slewFrames + frames) }, slewFrames)
    else
      ({ d with
          nextTime := d.nextTime + llrint ((d.b * error + d.periodSec) * 10 ^ 9)
          periodSec := d.periodSec + d.c * error
          nextPosition := d.nextPosition + frames }, 0)

/-- The tick a pull publishes: the device's period and its prediction of the
next wake-up and of the position it will have reached. -/
def PlaybackDeviceData.tick (d : PlaybackDeviceData) : PlaybackDeviceTick :=
  ⟨d.periodFrames, d.nextTime, d.nextPosition⟩

/-- The pre-fill moves the device position and the read position together. -/
theorem pullPrefill_positions (p : Playback) (r : SampleRing) :
    (pullPrefill p r).1.deviceData.nextPosition - (pullPrefill p r).2.readPos =
        p.deviceData.nextPosition - r.readPos ∧
      (pullPrefill p r).2.writePos = r.writePos ∧ (pullPrefill p r).1.spiceData = p.spiceData ∧
      (pullPrefill p r).1.buffer = p.buffer := by
  simp only [pullPrefill]
  split_ifs <;> simp

/-- The device position advances by the period and the slew the pull consumes. -/
theorem pullClock_nextPosition (d : PlaybackDeviceData) (sampleRate frames now : Int) :
    (pullClock d sampleRate frames now).1.nextPosition =
      d.nextPosition + (pullClock d sampleRate frames now).2 + frames := by
  simp only [pullClock]
  split_ifs <;> dsimp only <;> omega

/-- The pull learns the period it asks for. -/
theorem pullClock_periodFrames (d : PlaybackDeviceData) (sampleRate frames now : Int) :
    (pullClock d sampleRate frames now).1.periodFrames = frames := by
  simp only [pullClock]
  split_ifs with h <;> first | rfl | exact (not_not.mp h).symm

/-- The predicted wake-up does not read the device position. -/
theorem pullClock_nextTime_withNextPosition (d : PlaybackDeviceData)
    (m sampleRate frames now : Int) :
    (pullClock { d with nextPosition := m } sampleRate frames now).1.nextTime =
      (pullClock d sampleRate frames now).1.nextTime := by
  simp only [pullClock]
  split_ifs <;> rfl

/-- The body of `audio_pull` while the sample ring `r` exists. -/
def pullRing (p : Playback) (r : SampleRing) (frames now : Int) : Playback :=
  let q := pullPrefill p r
  let d := pullClock q.1.deviceData q.1.sampleRate frames now
  { q.1 with
      deviceData := d.1
      deviceTiming := ringbufferPush 16 q.1.deviceTiming d.1.tick
      buffer := some ((q.2.consume d.2).consume frames) }

theorem pullRing_buffer (p : Playback) (r : SampleRing) (frames now : Int) :
    (pullRing p r frames now).buffer = some (((pullPrefill p r).2.consume
      (pullClock (pullPrefill p r).1.deviceData (pullPrefill p r).1.sampleRate frames now).2).consume
        frames) := rfl

@[simp] theorem pullRing_sampleRate (p : Playback) (r : SampleRing) (frames now : Int) :
    (pullRing p r frames now).sampleRate = p.sampleRate := by
  obtain ⟨s, n, hq, -⟩ := pullPrefill_fst p r
  simp only [pullRing, hq]

theorem pullRing_state_of_ne {p : Playback} (h : p.state ≠ .setupDevice) (r : SampleRing)
    (frames now : Int) : (pullRing p r frames now).state = p.state := by
  simp only [pullRing, pullPrefill_of_ne h]

/-- The expiry check that ends `audio_pull`: a stream kept alive is closed once
30 seconds of silence are owed. -/
def keepAliveExpiry (a : AudioState) : AudioState :=
  if a.playback.state = .keepAlive ∧
      ringbufferGetCount a.playback.buffer ≤ -(30 * a.playback.sampleRate) then playbackStop a
  else a

/-- `audio_pull`: the new state and the number of frames written to `dst`. -/
def audioPull (a : AudioState) (frames now : Int) : AudioState × Int :=
  if frames = 0 then (a, 0)
  else
    match a.playback.buffer with
    | some r => (keepAliveExpiry { a with playback := pullRing a.playback r frames now }, frames)
    | none => (keepAliveExpiry a, 0)

end SpicyKvm.Audio
