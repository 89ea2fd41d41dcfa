import SpicyKvm.Audio.Engine

/-!
# The two clocks share the ring's frame of reference

Both sides of the engine keep a position in frames: the device's
`deviceData.nextPosition`, advanced by `audio_pull`, and the producer's
`spiceData.nextPosition`, advanced by `audio_playback_data`. Every change to
either is matched by a consume from or an append to the sample ring: the
pre-fill offset, the device's slews and periods on one side, the producer's
slews and resampled output on the other. So, while a ring exists, the device
position is its read position and the producer position its write position,
over every run of any length and in any order of calls.
-/

namespace SpicyKvm.Audio

open SpicyKvm

/-- The device and producer positions are the read and write positions of the
sample ring, whenever there is one. -/
def PositionsAgree (a : AudioState) : Prop :=
  ∀ r, a.playback.buffer = some r →
    a.playback.deviceData.nextPosition = r.readPos ∧ a.playback.spiceData.nextPosition = r.writePos

variable {opts : AudioOpts} {a a' : AudioState}

theorem positionsAgree_of_buffer_none (h : a.playback.buffer = none) : PositionsAgree a := by
  intro r hr
  rw [h] at hr
  cases hr

theorem PositionsAgree.of_frame (h : PositionsAgree a) (hb : a'.playback.buffer = a.playback.buffer)
    (hd : a'.playback.deviceData.nextPosition = a.playback.deviceData.nextPosition)
    (hs : a'.playback.spiceData.nextPosition = a.playback.spiceData.nextPosition) :
    PositionsAgree a' := by
  intro r hr
  rw [hd, hs]
  exact h r (hb ▸ hr)

theorem PositionsAgree.playbackStop (h : PositionsAgree a) : PositionsAgree (playbackStop a) := by
  unfold Audio.playbackStop
  split_ifs
  · exact h
  · exact positionsAgree_of_buffer_none rfl

/-! ## Starting and stopping -/

/-- A new stream starts both positions and the ring at zero. -/
theorem positionsAgree_playbackOpen (channels sampleRate : Int) (env : StartEnv) :
    PositionsAgree (playbackOpen opts a channels sampleRate env) := by
  intro r hr
  simp only [playbackOpen, ringbufferNewUnbounded] at hr ⊢
  split_ifs at hr
  cases hr
  exact ⟨rfl, rfl⟩

theorem PositionsAgree.audioPlaybackStart (h : PositionsAgree a) (channels sampleRate : Int)
    (env : StartEnv) : PositionsAgree (audioPlaybackStart opts a channels sampleRate env) := by
  unfold Audio.audioPlaybackStart
  split_ifs
  · exact h
  all_goals first
    | exact positionsAgree_playbackOpen _ _ _
    | exact h.playbackStop.of_frame rfl rfl rfl
    | exact h.of_frame rfl rfl rfl

theorem PositionsAgree.audioPlaybackStop (h : PositionsAgree a) (srcReset : Bool) :
    PositionsAgree (audioPlaybackStop a srcReset) := by
  unfold Audio.audioPlaybackStop
  split
  · split_ifs
    · exact h.of_frame rfl rfl rfl
    · exact PositionsAgree.playbackStop (h.of_frame rfl rfl rfl)
  all_goals first | exact h.playbackStop | exact h

theorem PositionsAgree.audioFree (h : PositionsAgree a) : PositionsAgree (audioFree a) :=
  h.playbackStop.of_frame (by rw [audioFree_playback]) (by rw [audioFree_playback])
    (by rw [audioFree_playback])

/-! ## The consumer -/

/-- A pull consumes from the ring exactly what it adds to the device position. -/
theorem positionsAgree_pullRing {p : Playback} {r : SampleRing}
    (h : p.deviceData.nextPosition = r.readPos ∧ p.spiceData.nextPosition = r.writePos)
    (frames now : Int) :
    ∃ r', (pullRing p r frames now).buffer = some r' ∧
      (pullRing p r frames now).deviceData.nextPosition = r'.readPos ∧
      (pullRing p r frames now).spiceData.nextPosition = r'.writePos := by
  obtain ⟨hd, hw, hs, -⟩ := pullPrefill_positions p r
  refine ⟨_, pullRing_buffer p r frames now, ?_, ?_⟩
  · simp only [pullRing, SampleRing.consume_readPos, pullClock_nextPosition]
    omega
  · simp only [pullRing, SampleRing.consume_writePos]
    rw [hs, hw]
    exact h.2

theorem PositionsAgree.keepAliveExpiry (h : PositionsAgree a) :
    PositionsAgree (keepAliveExpiry a) := by
  unfold Audio.keepAliveExpiry
  split_ifs
  · exact h.playbackStop
  · exact h

theorem PositionsAgree.pullRing (h : PositionsAgree a) {r : SampleRing}
    (hr : a.playback.buffer = some r) (frames now : Int) :
    PositionsAgree { a with playback := Audio.pullRing a.playback r frames now } := by
  obtain ⟨r', hb, hd, hs⟩ := positionsAgree_pullRing (h r hr) frames now
  intro r'' hr''
  simp only [hb, Option.some.injEq] at hr''
  exact hr'' ▸ ⟨hd, hs⟩

theorem PositionsAgree.audioPull (h : PositionsAgree a) (frames now : Int) :
    PositionsAgree (audioPull a frames now).1 := by
  unfold Audio.audioPull
  split_ifs
  · exact h
  · split
    · exact (h.pullRing ‹_› frames now).keepAliveExpiry
    · exact h.keepAliveExpiry

/-! ## The producer -/

theorem PositionsAgree.audioPlaybackData (h : PositionsAgree a) {size : Nat} {now : Int}
    {env : DataEnv} (hd : audioPlaybackData opts a size now env = some a') : PositionsAgree a' := by
  have process : ∀ {sd} {frames : Int} {pc init : Bool},
      sd.nextPosition = a.playback.spiceData.nextPosition →
      dataProcess opts a sd frames now pc init env = some a' → PositionsAgree a' := by
    intro sd frames pc init hsd hp r hr
    obtain ⟨hb, hdev⟩ := dataProcess_positions hp
    rw [hb] at hr
    cases hbuf : a.playback.buffer with
    | none => simp [hbuf] at hr
    | some r₀ =>
        simp only [hbuf, ringbufferAppend_some, Option.some.injEq] at hr
        obtain ⟨h1, h2⟩ := h r₀ hbuf
        subst hr
        simp only [SampleRing.append_readPos, SampleRing.append_writePos, hdev]
        omega
  simp only [Audio.audioPlaybackData] at hd
  split_ifs at hd
  · cases hd
    exact h
  · exact process (dataScratch_nextPosition ..) hd
  · cases hd
    exact PositionsAgree.playbackStop (h.of_frame rfl rfl (dataScratch_nextPosition ..))
  · exact process rfl hd

/-! ## Every run -/

theorem PositionsAgree.step (h : PositionsAgree a) {e : Event} (hs : step opts a e = some a') :
    PositionsAgree a' := by
  cases e
  case playbackStart => cases hs; exact h.audioPlaybackStart _ _ _
  case playbackStop => cases hs; exact h.audioPlaybackStop _
  case playbackData => exact h.audioPlaybackData hs
  case pull => cases hs; exact h.audioPull _ _
  case free => cases hs; exact h.audioFree
  all_goals
    have f := step_streamFrame (by trivial) hs
    exact h.of_frame f.buffer (by rw [f.deviceData]) (by rw [f.spiceData])

theorem Reach.positionsAgree (h : Reach opts a) : PositionsAgree a :=
  reach_induction (fun r hr => by cases hr) (fun _ _ _ _ hi hs => hi.step hs) h

end SpicyKvm.Audio
