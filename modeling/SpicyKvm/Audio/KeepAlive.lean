import SpicyKvm.Audio.Positions

/-!
# How long a stream is kept alive

`audio_playback_stop` moves a running stream to `KEEP_ALIVE` and keeps its
device open; the device goes on pulling, silence once the ring is empty, and
`audio_pull` closes the stream when the ring's count has fallen to
`-30·sampleRate`. The check reads the count, not a clock started at the stop.
While the stream is kept alive nothing appends to the ring, so the producer
stays where the stop left it (`KeptAlive`), and the pull that closes the stream
leaves the device 30 seconds' worth of frames past it (`audioPull_expired`).
Counted from the stop, the device has consumed the count at the stop plus those
30 seconds: less than 29 seconds when the producer had fallen more than a
second behind.
-/

namespace SpicyKvm.Audio

open SpicyKvm

/-- Any call but a packet or a start: none of them appends to the ring. -/
def Event.KeepsProducer : Event → Prop
  | .playbackStart .. | .playbackData .. => False
  | _ => True

/-- The position up to which the producer has written: the ring's write
position, or the device's own position when there is no ring. -/
def Playback.writtenUpTo (p : Playback) : Int :=
  (p.buffer.map (·.writePos)).getD p.deviceData.nextPosition

variable {opts : AudioOpts} {a₁ a a' a₂ : AudioState}

/-- The device is behind the producer by the ring's count. -/
theorem PositionsAgree.nextPosition_eq (h : PositionsAgree a) :
    a.playback.deviceData.nextPosition =
      a.playback.writtenUpTo - ringbufferGetCount a.playback.buffer := by
  cases hb : a.playback.buffer with
  | none => simp [Playback.writtenUpTo, hb, ringbufferGetCount]
  | some r =>
      have hd := (h r hb).1
      simp only [Playback.writtenUpTo, hb, Option.map_some', Option.getD_some, ringbufferGetCount,
        SampleRing.count]
      omega

theorem pullRing_writtenUpTo (p : Playback) (r : SampleRing) (frames now : Int) :
    (pullRing p r frames now).writtenUpTo = r.writePos := by
  simp [Playback.writtenUpTo, pullRing_buffer, (pullPrefill_positions p r).2.1]

/-! ## While the stream is kept alive -/

/-- The stream kept alive in `a₁` has stopped since, or is still kept alive at
the sample rate of `a₁`, with the producer where it was in `a₁`. -/
def KeptAlive (a₁ a : AudioState) : Prop :=
  a.playback.state = .stop ∨
    a.playback.state = .keepAlive ∧ a.playback.sampleRate = a₁.playback.sampleRate ∧
      a.playback.writtenUpTo = a₁.playback.writtenUpTo

theorem KeptAlive.not_setupDevice (h : KeptAlive a₁ a) : a.playback.state ≠ .setupDevice := by
  rcases h with h | ⟨h, -⟩ <;> rw [h] <;> nofun

theorem KeptAlive.keepAliveExpiry (h : KeptAlive a₁ a) : KeptAlive a₁ (keepAliveExpiry a) := by
  unfold Audio.keepAliveExpiry
  split_ifs
  · exact .inl (playbackStop_state a)
  · exact h

theorem KeptAlive.audioPull (h : KeptAlive a₁ a) (frames now : Int) :
    KeptAlive a₁ (audioPull a frames now).1 := by
  unfold Audio.audioPull
  split_ifs
  · exact h
  · split
    · rename_i r hr
      refine KeptAlive.keepAliveExpiry ?_
      have hs := pullRing_state_of_ne h.not_setupDevice r frames now
      rcases h with h | ⟨hk, hrate, hw⟩
      · exact .inl (hs.trans h)
      · refine .inr ⟨hs.trans hk, (pullRing_sampleRate ..).trans hrate, ?_⟩
        rw [← hw, pullRing_writtenUpTo]
        simp [Playback.writtenUpTo, hr]
    · exact h.keepAliveExpiry

theorem KeptAlive.step (h : KeptAlive a₁ a) {e : Event} (he : e.KeepsProducer)
    (hs : step opts a e = some a') : KeptAlive a₁ a' := by
  cases e
  case playbackStart | playbackData => exact he.elim
  case playbackStop srcReset =>
    cases hs
    have hsame : audioPlaybackStop a srcReset = a := by
      unfold Audio.audioPlaybackStop
      rcases h with h' | ⟨h', -⟩ <;> rw [h']
    rw [hsame]
    exact h
  case pull => cases hs; exact h.audioPull _ _
  case free => cases hs; exact .inl (by rw [audioFree_playback, playbackStop_state])
  all_goals
    have f := step_streamFrame (by trivial) hs
    rcases h with h | ⟨hk, hrate, hw⟩
    · exact .inl (f.state.trans h)
    · refine .inr ⟨f.state.trans hk, f.sampleRate.trans hrate, ?_⟩
      simp only [Playback.writtenUpTo, f.buffer, f.deviceData]
      exact hw

theorem KeptAlive.run (h : KeptAlive a₁ a) {es : List Event} (hes : ∀ e ∈ es, e.KeepsProducer)
    (hr : run opts a es = some a') : KeptAlive a₁ a' := by
  induction es generalizing a with
  | nil => cases hr; exact h
  | cons e es ih =>
      simp only [Audio.run, Option.bind_eq_some] at hr
      obtain ⟨a₀, h₀, hr⟩ := hr
      exact ih (h.step (hes e (List.mem_cons_self e es)) h₀)
        (fun e' he' => hes e' (List.mem_cons_of_mem e he')) hr

/-! ## The pull that closes the stream -/

/-- An expiry check that closes a stream kept alive finds the device 30
seconds' worth of frames past the producer. -/
theorem keepAliveExpiry_closes (h : PositionsAgree a) (hk : a.playback.state = .keepAlive)
    (hs : (keepAliveExpiry a).playback.state = .stop) :
    a.playback.writtenUpTo + 30 * a.playback.sampleRate ≤
      (keepAliveExpiry a).playback.deviceData.nextPosition := by
  unfold Audio.keepAliveExpiry at hs ⊢
  split_ifs at hs ⊢ with hc
  · rw [playbackStop_deviceData, h.nextPosition_eq]
    omega
  · rw [hk] at hs
    cases hs

/-- A pull that closes a stream kept alive leaves the device 30 seconds' worth
of frames past the producer. -/
theorem audioPull_expired (h : PositionsAgree a) (hk : a.playback.state = .keepAlive)
    {frames now : Int} (hs : (audioPull a frames now).1.playback.state = .stop) :
    a.playback.writtenUpTo + 30 * a.playback.sampleRate ≤
      (audioPull a frames now).1.playback.deviceData.nextPosition := by
  have hne : a.playback.state ≠ .setupDevice := by rw [hk]; nofun
  unfold Audio.audioPull at hs ⊢
  split_ifs at hs ⊢
  · rw [hk] at hs
    cases hs
  · cases hr : a.playback.buffer with
    | some r =>
        simp only [hr] at hs ⊢
        have hb := keepAliveExpiry_closes (h.pullRing hr frames now)
          ((pullRing_state_of_ne hne r frames now).trans hk) hs
        simp only [pullRing_writtenUpTo, pullRing_sampleRate] at hb
        simpa only [Playback.writtenUpTo, hr, Option.map_some', Option.getD_some] using hb
    | none =>
        simp only [hr] at hs ⊢
        exact keepAliveExpiry_closes h hk hs

/-- **What a stream kept alive consumes before it closes.** From any reachable
state `a₁` in `KEEP_ALIVE` (the one `audio_playback_stop` leaves when it keeps
a running stream alive, or any later one), over any run of calls other than
packets and starts that keeps the stream alive, the pull that closes it leaves
the device, counted from `a₁`, at least 30 seconds' worth of frames plus the
ring's count in `a₁` further on, in pulled frames and slews together.
So it has consumed at least 29 seconds' worth when the count in `a₁` was no
lower than minus one second's worth. -/
theorem keepAlive_expiry_consumes (h : Reach opts a₁) (hk₁ : a₁.playback.state = .keepAlive)
    {es : List Event} (hes : ∀ e ∈ es, e.KeepsProducer) (hr : run opts a₁ es = some a₂)
    (hk₂ : a₂.playback.state = .keepAlive) {frames now : Int}
    (hstop : (audioPull a₂ frames now).1.playback.state = .stop) :
    30 * a₁.playback.sampleRate + ringbufferGetCount a₁.playback.buffer ≤
        (audioPull a₂ frames now).1.playback.deviceData.nextPosition -
          a₁.playback.deviceData.nextPosition ∧
      (-a₁.playback.sampleRate ≤ ringbufferGetCount a₁.playback.buffer →
        29 * a₁.playback.sampleRate ≤
          (audioPull a₂ frames now).1.playback.deviceData.nextPosition -
            a₁.playback.deviceData.nextPosition) := by
  have hpull := audioPull_expired (reach_run h hr).positionsAgree hk₂ hstop
  have hpos := h.positionsAgree.nextPosition_eq
  rcases KeptAlive.run (.inr ⟨hk₁, rfl, rfl⟩) hes hr with hs | ⟨-, hrate, hw⟩
  · rw [hs] at hk₂
    cases hk₂
  · rw [hrate, hw] at hpull
    constructor <;> omega

/-! ## Concrete runs -/

section
attribute [local semireducible] Rat.mul Rat.add Rat.sub Rat.inv

/-- A stream at 48 kHz whose device pulls 39 seconds after it should, which
leaves the producer 39 seconds behind, stopped right after that pull with the
resampler reset. -/
def stalledStopTrace : List Event :=
  [.playbackStart 2 48000 ⟨true, true, true, none⟩,
   .playbackData 4 1000000000 ⟨true, true, fun _ => [.ok 1 1]⟩,
   .pull 256 1000000000, .pull 256 40000000000, .playbackStop true]

/-- The stream of `stalledStopTrace` is closed by the pull that comes on time
after the stop. -/
theorem keepAlive_expiry_consumes_after_stall :
    ∃ a₁, Reach AudioOpts.default a₁ ∧ a₁.playback.state = .keepAlive ∧
      (audioPull a₁ 256 40005333333).1.playback.state = .stop ∧
      (30 * a₁.playback.sampleRate + ringbufferGetCount a₁.playback.buffer ≤
          (audioPull a₁ 256 40005333333).1.playback.deviceData.nextPosition -
            a₁.playback.deviceData.nextPosition ∧
        (-a₁.playback.sampleRate ≤ ringbufferGetCount a₁.playback.buffer →
          29 * a₁.playback.sampleRate ≤
            (audioPull a₁ 256 40005333333).1.playback.deviceData.nextPosition -
              a₁.playback.deviceData.nextPosition)) := by
  obtain ⟨a₁, hr, hp⟩ := exists_reach_of_run AudioOpts.default stalledStopTrace
    (fun a => decide (a.playback.state = .keepAlive ∧
      (audioPull a 256 40005333333).1.playback.state = .stop)) (by decide)
  obtain ⟨hk, hs⟩ := of_decide_eq_true hp
  exact ⟨a₁, hr, hk, hs, keepAlive_expiry_consumes hr hk
    (show ∀ e ∈ ([] : List Event), e.KeepsProducer from nofun)
    (show run AudioOpts.default a₁ [] = some a₁ from rfl) hk hs⟩

/-- A running stream that falls 39 seconds behind its device is moved to
`KEEP_ALIVE` and closed by the next pull, after the device has consumed 256
frames since the stop. -/
theorem stalled_stream_expires_at_once :
    ∃ a, Reach AudioOpts.default a ∧ a.playback.state = .run ∧
      (audioPlaybackStop a true).playback.state = .keepAlive ∧
      (audioPull (audioPlaybackStop a true) 256 40005333333).1.playback.state = .stop ∧
      (audioPull (audioPlaybackStop a true) 256 40005333333).1.playback.deviceData.nextPosition -
          (audioPlaybackStop a true).playback.deviceData.nextPosition = 256 ∧
      256 < 29 * (audioPlaybackStop a true).playback.sampleRate := by
  obtain ⟨a, hr, hp⟩ := exists_reach_of_run AudioOpts.default stalledStopTrace.dropLast
    (fun a => decide (a.playback.state = .run ∧
      (audioPlaybackStop a true).playback.state = .keepAlive ∧
      (audioPull (audioPlaybackStop a true) 256 40005333333).1.playback.state = .stop ∧
      (audioPull (audioPlaybackStop a true) 256 40005333333).1.playback.deviceData.nextPosition -
          (audioPlaybackStop a true).playback.deviceData.nextPosition = 256 ∧
      256 < 29 * (audioPlaybackStop a true).playback.sampleRate)) (by decide)
  exact ⟨a, hr, of_decide_eq_true hp⟩

end

end SpicyKvm.Audio
