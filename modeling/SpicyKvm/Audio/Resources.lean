import SpicyKvm.Audio.Engine

/-!
# What a stream owns in each state

`playback_stop` frees the sample ring, the tick ring and the resampler
together, and `audio_playback_start` leaves `STOP` only once `src_new` has
returned a resampler. So over every run, whichever allocation, `src_reset` or
`src_process` fails, a stream is in `STOP` exactly when it owns none of the
three, and in `STOP` the producer and consumer calls do nothing.

The scratch buffers follow the packet size instead. Once a packet of at least
one frame has arrived they hold a period of the current format; but a new
stream sets the period back to zero and keeps the old `framesOutSize` beside
buffers that `playback_stop` has freed.
-/

namespace SpicyKvm.Audio

open SpicyKvm AudioDev

/-- The resources of the playback stream agree with its state. -/
structure Allocated (p : Playback) : Prop where
  stop_free : p.state = .stop → p.buffer = none ∧ p.deviceTiming = none ∧ p.spiceData.src = false
  src : p.state ≠ .stop → p.spiceData.src = true
  stride : p.stride = p.channels * 4
  periodFrames_nonneg : 0 ≤ p.spiceData.periodFrames
  scratch : p.state ≠ .stop → p.spiceData.periodFrames ≠ 0 → ScratchReady p.spiceData p.stride

variable {opts : AudioOpts} {a a' : AudioState} {p p' : Playback}

theorem allocated_init : Allocated AudioState.init.playback :=
  ⟨fun _ => ⟨rfl, rfl, rfl⟩, fun h => absurd rfl h, rfl, le_refl 0, fun h => absurd rfl h⟩

/-- A stream that is not stopped keeps the invariant through any change that
keeps its format and its scratch buffers. -/
theorem Allocated.of_running (h : Allocated p) (hs : p.state ≠ .stop) (hs' : p'.state ≠ .stop)
    (hsd : p'.spiceData.scratch = p.spiceData.scratch) (hst : p'.stride = p.stride)
    (hch : p'.channels = p.channels) : Allocated p' := by
  simp only [PlaybackSpiceData.scratch, Prod.mk.injEq] at hsd
  obtain ⟨hin, hout, hsize, hper, hsrc⟩ := hsd
  refine ⟨fun h' => absurd h' hs', fun _ => hsrc ▸ h.src hs, by rw [hst, hch, h.stride],
    hper ▸ h.periodFrames_nonneg, fun _ hp => ?_⟩
  have := h.scratch hs (hper ▸ hp)
  simpa only [ScratchReady, hin, hout, hsize, hper, hst] using this

theorem Allocated.of_frame (h : Allocated a.playback) (f : StreamFrame a a') :
    Allocated a'.playback := by
  obtain ⟨hs, hb, ht, -, hsd, hst, hch⟩ := f
  exact ⟨hs ▸ hb ▸ ht ▸ hsd ▸ h.stop_free, hs ▸ hsd ▸ h.src, hst ▸ hch ▸ h.stride,
    hsd ▸ h.periodFrames_nonneg, hs ▸ hsd ▸ hst ▸ h.scratch⟩

/-- Stopping a stream frees everything it owns, whatever its scratch buffers hold. -/
theorem allocated_playbackStop (hs : a.playback.state ≠ .stop)
    (hst : a.playback.stride = a.playback.channels * 4) (hper : 0 ≤ a.playback.spiceData.periodFrames) :
    Allocated (playbackStop a).playback := by
  unfold Audio.playbackStop
  rw [if_neg hs]
  refine ⟨fun _ => ⟨rfl, rfl, rfl⟩, fun h' => absurd rfl h', hst, ?_, fun h' => absurd rfl h'⟩
  simp only [PlaybackSpiceData.releaseScratch]
  split_ifs <;> exact hper

theorem Allocated.playbackStop (h : Allocated a.playback) : Allocated (playbackStop a).playback := by
  by_cases hs : a.playback.state = .stop
  · unfold Audio.playbackStop
    rwa [if_pos hs]
  · exact allocated_playbackStop hs h.stride h.periodFrames_nonneg

/-- A failed `src_new` in `STOP` clears the resampler it never had. -/
theorem Allocated.withoutSrc (h : Allocated p) (hs : p.state = .stop) :
    Allocated { p with spiceData.src := false } :=
  ⟨fun _ => ⟨(h.stop_free hs).1, (h.stop_free hs).2.1, rfl⟩, fun h' => absurd hs h', h.stride,
    h.periodFrames_nonneg, fun h' => absurd hs h'⟩

/-! ## Starting and stopping -/

/-- A new stream owns a resampler and has no period yet. -/
theorem allocated_playbackOpen (channels sampleRate : Int) (env : StartEnv) :
    Allocated (playbackOpen opts a channels sampleRate env).playback :=
  ⟨(nomatch ·), fun _ => rfl, rfl, le_refl 0, fun _ h => absurd rfl h⟩

theorem Allocated.audioPlaybackStart (h : Allocated a.playback) (channels sampleRate : Int)
    (env : StartEnv) : Allocated (audioPlaybackStart opts a channels sampleRate env).playback := by
  unfold Audio.audioPlaybackStart
  split_ifs with _ hs
  · exact h
  · exact allocated_playbackOpen _ _ _
  · exact h.playbackStop.withoutSrc (playbackStop_state a)
  · exact allocated_playbackOpen _ _ _
  · exact h.withoutSrc (not_not.1 hs)

theorem Allocated.audioPlaybackStop (h : Allocated a.playback) (srcReset : Bool) :
    Allocated (audioPlaybackStop a srcReset).playback := by
  unfold Audio.audioPlaybackStop
  split
  · rename_i hr
    have hk : Allocated { a with playback.state := .keepAlive }.playback :=
      h.of_running (by rw [hr]; nofun) nofun rfl rfl rfl
    split_ifs
    · exact hk
    · exact hk.playbackStop
  all_goals first | exact h.playbackStop | exact h

theorem Allocated.audioFree (h : Allocated a.playback) : Allocated (audioFree a).playback :=
  audioFree_playback a ▸ h.playbackStop

/-! ## The consumer -/

theorem Allocated.pullRing {r : SampleRing} (h : Allocated p) (hr : p.buffer = some r)
    (frames now : Int) : Allocated (pullRing p r frames now) := by
  have hs : p.state ≠ .stop := fun hs => by simp [(h.stop_free hs).1] at hr
  obtain ⟨s, n, hq, hs'⟩ := pullPrefill_fst p r
  simp only [Audio.pullRing, hq]
  refine h.of_running hs ?_ rfl rfl rfl
  rcases hs' with rfl | rfl
  · exact hs
  · nofun

theorem Allocated.keepAliveExpiry (h : Allocated a.playback) :
    Allocated (keepAliveExpiry a).playback := by
  unfold Audio.keepAliveExpiry
  split_ifs
  · exact h.playbackStop
  · exact h

theorem Allocated.audioPull (h : Allocated a.playback) (frames now : Int) :
    Allocated (audioPull a frames now).1.playback := by
  unfold Audio.audioPull
  split_ifs
  · exact h
  · split
    · exact Allocated.keepAliveExpiry (h.pullRing ‹_› frames now)
    · exact h.keepAliveExpiry

/-! ## The producer -/

theorem Allocated.dataSetupDevice (h : Allocated a.playback) :
    Allocated (dataSetupDevice a).playback := by
  unfold Audio.dataSetupDevice
  split_ifs with hs
  · exact h.of_running (by rw [hs]; nofun) nofun rfl rfl rfl
  · exact h

/-- A packet processed with scratch data `sd` that holds a period of the
stream keeps the invariant. -/
theorem Allocated.dataProcess {sd : PlaybackSpiceData} {frames now : Int} {pc init : Bool}
    {env : DataEnv} (h : Allocated a.playback) (hs : a.playback.state ≠ .stop)
    (hsrc : sd.src = true) (hper : 0 ≤ sd.periodFrames)
    (hready : sd.periodFrames ≠ 0 → ScratchReady sd a.playback.stride)
    (hp : dataProcess opts a sd frames now pc init env = some a') :
    Allocated a'.playback := by
  have hsd : Allocated { a.playback with spiceData := sd } :=
    ⟨fun h' => absurd h' hs, fun _ => hsrc, h.stride, hper, fun _ => hready⟩
  obtain ⟨sd', buffer, slew, done, hsc, -, rfl⟩ := dataProcess_inv hp
  have hb : Allocated { a.playback with
      state := if slew then .run else a.playback.state, buffer := buffer,
      deviceTiming := a.playback.deviceTiming.map fun _ => [], spiceData := sd' } :=
    hsd.of_running hs (by split_ifs <;> simp [hs]) hsc rfl rfl
  cases done
  · exact hb
  · exact @Allocated.dataSetupDevice { a with playback := _ } hb

theorem Allocated.audioPlaybackData (h : Allocated a.playback) {size : Nat} {now : Int}
    {env : DataEnv} (hd : audioPlaybackData opts a size now env = some a') :
    Allocated a'.playback := by
  have hf : 0 ≤ dataFrames size a.playback.channels := Int.natCast_nonneg _
  obtain ⟨hper, hsrc, hready⟩ := dataScratch_spec a.playback.spiceData a.playback.stride
    env.framesIn env.framesOut hf
  have hper : 0 ≤ (dataScratch a.playback.spiceData (dataFrames size a.playback.channels)
      a.playback.stride env.framesIn env.framesOut).1.periodFrames := by
    rwa [hper]
  simp only [Audio.audioPlaybackData] at hd
  split_ifs at hd with hs _ _ hok
  · cases hd
    exact h
  all_goals have hs : a.playback.state ≠ .stop := fun h' => hs (.inl h')
  · exact h.dataProcess hs (hsrc.trans (h.src hs)) hper (fun _ => hready hok) hd
  · cases hd
    exact allocated_playbackStop hs h.stride hper
  · exact h.dataProcess hs (h.src hs) h.periodFrames_nonneg (h.scratch hs) hd

/-! ## Every run -/

theorem Allocated.step (h : Allocated a.playback) {e : Event} (hs : step opts a e = some a') :
    Allocated a'.playback := by
  cases e
  case playbackStart => cases hs; exact h.audioPlaybackStart _ _ _
  case playbackStop => cases hs; exact h.audioPlaybackStop _
  case playbackData => exact h.audioPlaybackData hs
  case pull => cases hs; exact h.audioPull _ _
  case free => cases hs; exact h.audioFree
  all_goals exact h.of_frame (step_streamFrame (by trivial) hs)

/-- **A stream is stopped exactly when it owns nothing.** In every reachable
state, over any run and with any failure of `src_new`, `src_reset`,
`src_process` and every allocation: the stream is in `STOP` exactly when the
sample ring, the tick ring and the resampler are all unallocated; once a packet
of at least one frame has set the period, the scratch buffers of a stream that
is not stopped hold that period in the stream's channel count, and its
resampled output; and in `STOP` a packet and a stop change nothing, and a pull
returns no frames and changes nothing. -/
theorem playback_resources_match_state (h : Reach opts a) :
    (a.playback.state = .stop ↔
      a.playback.buffer = none ∧ a.playback.deviceTiming = none ∧ a.playback.spiceData.src = false) ∧
    (a.playback.state ≠ .stop → a.playback.spiceData.periodFrames ≠ 0 →
      a.playback.spiceData.framesIn.HasRoom
          (a.playback.spiceData.periodFrames * (a.playback.channels * 4)) ∧
        a.playback.spiceData.framesOut.HasRoom
          (a.playback.spiceData.framesOutSize * (a.playback.channels * 4)) ∧
        a.playback.spiceData.periodFrames ≤ a.playback.spiceData.framesOutSize) ∧
    (a.playback.state = .stop →
      (∀ size now env, audioPlaybackData opts a size now env = some a) ∧
      (∀ srcReset, audioPlaybackStop a srcReset = a) ∧
      (∀ frames now, audioPull a frames now = (a, 0))) := by
  have inv : Allocated a.playback :=
    reach_induction allocated_init (fun _ _ _ _ hi hs => Allocated.step hi hs) h
  refine ⟨⟨inv.stop_free, fun ⟨_, _, hsrc⟩ => ?_⟩, fun hs hp => ?_, fun hs => ⟨?_, ?_, ?_⟩⟩
  · exact Classical.byContradiction fun hs => by simp [inv.src hs] at hsrc
  · have := inv.scratch hs hp
    rwa [inv.stride] at this
  · intro size now env
    simp [Audio.audioPlaybackData, hs]
  · intro srcReset
    simp [Audio.audioPlaybackStop, hs]
  · intro frames now
    unfold Audio.audioPull
    split_ifs
    · rfl
    · simp [(inv.stop_free hs).1, Audio.keepAliveExpiry, hs]

section
attribute [local semireducible] Rat.mul Rat.add Rat.sub Rat.inv

/-- A stereo stream after its first packet and pull, running with a period of
one frame; and the same stream after a stop whose `src_reset` fails, which
closes it. -/
theorem playback_resources_after_pull :
    ∃ a b, Reach AudioOpts.default a ∧ Reach AudioOpts.default b ∧
      a.playback.state = .run ∧ a.playback.spiceData.periodFrames ≠ 0 ∧ b.playback.state = .stop ∧
      ((a.playback.state = .stop ↔
        a.playback.buffer = none ∧ a.playback.deviceTiming = none ∧ a.playback.spiceData.src = false) ∧
      (a.playback.state ≠ .stop → a.playback.spiceData.periodFrames ≠ 0 →
        a.playback.spiceData.framesIn.HasRoom
            (a.playback.spiceData.periodFrames * (a.playback.channels * 4)) ∧
          a.playback.spiceData.framesOut.HasRoom
            (a.playback.spiceData.framesOutSize * (a.playback.channels * 4)) ∧
          a.playback.spiceData.periodFrames ≤ a.playback.spiceData.framesOutSize) ∧
      (a.playback.state = .stop →
        (∀ size now env, audioPlaybackData AudioOpts.default a size now env = some a) ∧
        (∀ srcReset, audioPlaybackStop a srcReset = a) ∧
        (∀ frames now, audioPull a frames now = (a, 0)))) ∧
      ((b.playback.state = .stop ↔
        b.playback.buffer = none ∧ b.playback.deviceTiming = none ∧ b.playback.spiceData.src = false) ∧
      (b.playback.state ≠ .stop → b.playback.spiceData.periodFrames ≠ 0 →
        b.playback.spiceData.framesIn.HasRoom
            (b.playback.spiceData.periodFrames * (b.playback.channels * 4)) ∧
          b.playback.spiceData.framesOut.HasRoom
            (b.playback.spiceData.framesOutSize * (b.playback.channels * 4)) ∧
          b.playback.spiceData.periodFrames ≤ b.playback.spiceData.framesOutSize) ∧
      (b.playback.state = .stop →
        (∀ size now env, audioPlaybackData AudioOpts.default b size now env = some b) ∧
        (∀ srcReset, audioPlaybackStop b srcReset = b) ∧
        (∀ frames now, audioPull b frames now = (b, 0)))) := by
  obtain ⟨a, ha, hpa⟩ := exists_reach_of_run AudioOpts.default
    [.playbackStart 2 48000 ⟨true, true, true, none⟩,
     .playbackData 4 1000000000 ⟨true, true, fun _ => [.ok 1 1]⟩, .pull 256 1000000000]
    (fun a => decide (a.playback.state = .run ∧ a.playback.spiceData.periodFrames ≠ 0)) (by decide)
  obtain ⟨b, hb, hpb⟩ := exists_reach_of_run AudioOpts.default
    [.playbackStart 2 48000 ⟨true, true, true, none⟩,
     .playbackData 4 1000000000 ⟨true, true, fun _ => [.ok 1 1]⟩, .pull 256 1000000000,
     .playbackStop false]
    (fun b => decide (b.playback.state = .stop)) (by decide)
  obtain ⟨h₁, h₂⟩ := of_decide_eq_true hpa
  exact ⟨a, b, ha, hb, h₁, h₂, of_decide_eq_true hpb, playback_resources_match_state ha,
    playback_resources_match_state hb⟩

/-- A stream stopped before its first pull and started again in the same
format: a one-frame packet sets the period, the stop frees the scratch buffers,
and the new stream sets the period back to zero. -/
def restartTrace : List Event :=
  [.playbackStart 2 48000 ⟨true, true, true, none⟩,
   .playbackData 4 1000000000 ⟨true, true, fun _ => [.ok 1 1]⟩,
   .playbackStop true,
   .playbackStart 2 48000 ⟨true, true, true, none⟩]

/-- After the restart, `framesOutSize` still says one frame while `framesOut`
was freed and cleared by the stop. -/
theorem restart_leaves_framesOut_freed :
    ∃ a, Reach AudioOpts.default a ∧ a.playback.state ≠ .stop ∧
      a.playback.spiceData.periodFrames = 0 ∧
      ¬ a.playback.spiceData.framesOut.HasRoom
          (a.playback.spiceData.framesOutSize * (a.playback.channels * 4)) := by
  obtain ⟨a, hr, hp⟩ := exists_reach_of_run AudioOpts.default restartTrace
    (fun a => decide (a.playback.state ≠ .stop ∧ a.playback.spiceData.periodFrames = 0 ∧
      ¬ a.playback.spiceData.framesOut.HasRoom
          (a.playback.spiceData.framesOutSize * (a.playback.channels * 4)))) (by decide)
  exact ⟨a, hr, of_decide_eq_true hp⟩

end

end SpicyKvm.Audio
