import SpicyKvm.Audio.Engine

/-!
# The audio server's process callbacks

The audio server calls `audiodev_on_playback_process` each time the playback
stream wants data. The callback dequeues a buffer, asks `audio_pull` for as
many frames as the buffer holds (`datas[0].maxsize` over the stride of one
`float` per channel), no more than the server's rate-match size when it gives
one, and queues the buffer back with a chunk of the frames pulled. A buffer
whose data pointer is `NULL` is returned from without being queued back.
`audiodev_on_record_process` hands the bytes of a captured chunk, from its
offset on, to `audio_push`, which sends them to SPICE.

On a stream with channels, every playback callback runs the engine's `pull`
event with a count that is never negative. `maxsize - offset` in the capture
callback is unsigned, so a chunk offset past the buffer's end wraps around.

Both callbacks divide a `uint32_t` by the stream's `int` stride, which is
converted to `uint32_t` for it (`asUInt32`); a stride of zero makes the
division undefined behaviour, where the model has no result (`none`). `min` is
the C macro, here applied to values that are not negative.

`pw_stream_get_time` stores in `pw.playback.time` the snapshot that
`audiodev_playback_latency` reads (`PwTime`). The query computes, in
milliseconds, how long the queued and buffered data still has to play, and
returns `max(0, -latency)`: zero unless that time is negative. The `int64_t`
arithmetic is modelled on integers, with C's truncating division; it does not
overflow for the values PipeWire gives.
-/

namespace SpicyKvm.Audio

open SpicyKvm AudioDev

/-- A buffer of a stream's pool: whether `datas[0].data` is set, its
`datas[0].maxsize`, and the `offset` and `size` of its chunk. -/
structure PwBuffer where
  hasData : Bool
  maxsize : Nat
  offset : Nat
  size : Nat

/-- What became of the buffer the playback callback dequeued. -/
inductive Processed
  /-- `pw_stream_dequeue_buffer` had none -/
  | outOfBuffers
  /-- the buffer has no data: the callback returns without queueing it -/
  | notQueued
  /-- queued back with a chunk of `size` bytes -/
  | queued (size : Int)

/-- What the capture callback did with the buffer it dequeued. -/
inductive Recorded
  /-- no buffer, or a buffer with no data: nothing is sent -/
  | notPushed
  /-- `audio_push` sent `bytes` bytes to SPICE -/
  | pushed (bytes : Int)

/-- An `int` converted to `uint32_t`, as it is where it divides a `uint32_t`. -/
def asUInt32 (v : Int) : Nat := (v % 4294967296).toNat

/-- `pw.playback.stride`: `sizeof(float) * channels`, set with the channels. -/
def playbackStride (pw : PipeWire) : Int := 4 * pw.playback.channels

/-- The frames the playback callback asks `audio_pull` for. -/
def processFrames (maxsize : Nat) (stride : Int) (rateMatch : Option Nat) : Int :=
  let frames : Int := (maxsize / asUInt32 stride : Nat)
  match rateMatch with
  | some n => if 0 < n then min frames n else frames
  | none => frames

/-- `audiodev_on_playback_process`, with the size of `pw.playback.rateMatch`
if the server gave one: the engine's new state and what became of the
buffer, or `none` where `maxsize / stride` divides by zero. -/
def audiodevOnPlaybackProcess (a : AudioState) (rateMatch : Option Nat) (buf : Option PwBuffer)
    (now : Int) : Option (AudioState × Processed) :=
  match buf with
  | none => some (a, .outOfBuffers)
  | some b =>
    if !b.hasData then some (a, .notQueued)
    else
      let stride := playbackStride a.pw
      if asUInt32 stride = 0 then none
      else
        let r := audioPull a (processFrames b.maxsize stride rateMatch) now
        some (r.1, .queued (if r.2 = 0 then 0 else r.2 * stride))

/-- `audiodev_on_record_process`, or `none` where the frame count divides by
a zero stride. The stride is `sizeof(uint16_t) * channels` on both sides, so
`audio_push` sends the frames times the stride. -/
def audiodevOnRecordProcess (pw : PipeWire) (buf : Option PwBuffer) : Option Recorded :=
  match buf with
  | none => some .notPushed
  | some b =>
    if !b.hasData then some .notPushed
    else
      let stride := 2 * pw.record.channels
      let avail := (b.maxsize + 4294967296 - b.offset) % 4294967296
      if asUInt32 stride = 0 then none
      else some (.pushed ((min b.size avail / asUInt32 stride : Nat) * stride))

/-! ## The device's latency -/

/-- `struct pw_time`, as `pw_stream_get_time` last stored it: the fields the
latency query reads. -/
structure PwTime where
  now : Int
  rateNum : Nat
  rateDenom : Nat
  delay : Int
  queued : Nat
  buffered : Nat

/-- `SPA_NSEC_PER_SEC` -/
def nsecPerSec : Int := 1000000000

/-- `elapsed`: the frames played since the snapshot, at the clock reading
`nowNs` (`SPA_TIMESPEC_TO_NSEC` of `CLOCK_MONOTONIC`). -/
def PwTime.elapsed (t : PwTime) (nowNs : Int) : Int :=
  (t.rateDenom * (nowNs - t.now)).tdiv (t.rateNum * nsecPerSec)

/-- `latency`: the milliseconds the buffered and queued frames take at the
stream's rate, plus the rest of the graph's delay. -/
def PwTime.latency (t : PwTime) (sampleRate nowNs : Int) : Int :=
  let buffered : Int := t.buffered + t.queued
  (buffered * 1000).tdiv sampleRate +
    ((t.delay - t.elapsed nowNs) * 1000 * t.rateNum).tdiv t.rateDenom

/-- `audiodev_playback_latency`, with `pw.playback.sampleRate` and the clock
reading. -/
def audiodevPlaybackLatency (t : PwTime) (sampleRate nowNs : Int) : Nat :=
  if t.rateNum = 0 then 0 else (max 0 (-t.latency sampleRate nowNs)).toNat

end SpicyKvm.Audio
