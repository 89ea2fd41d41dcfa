import SpicyKvm.Audio.Engine

/-!
# The device clock over long runs

Each pull moves the device clock of `audio_pull` on: a period change predicts
the next wake-up one *old* period after the previous prediction, a pull at
least 0.2 s off the prediction slews to one period after `now`, and any other
pull takes a step of the PLL. The tick it publishes carries the prediction;
the producer takes the ticks in order and interpolates the device position
between the last two, dividing by `devNextTime - devLastTime`.

Two facts about whole runs follow.

* When every pull asks for a positive number of frames and moves the
  prediction on (`PullAdvances`), early pulls included, the ticks of a stream
  are strictly increasing and the producer's divisor is positive
  (`device_ticks_in_order`). The invariant is `TicksOrdered`; the run lemma
  is `ClockOrder.step`. Every tick in the ring is no later than the clock's
  prediction, so a pull that moves the prediction on publishes a tick after
  all of them, whatever the earlier pulls, packets and restarts did.
* Not every pull moves it on: a period change does not read the clock, so
  two changes at one instant push the prediction 0.2 s past `now`, and a
  pull of the current period at that instant slews it back behind the ticks
  already published (`early_pull_moves_tick_back`).

A slew is the clock error in frames, and nothing bounds the error: a pull
twelve and a half hours late computes a slew that does not fit the `int` it
is stored in (`late_pull_slew_overflows`).
-/

namespace SpicyKvm.Audio

open SpicyKvm

/-! ## The order of the ticks -/

/-- The order of the ticks of a stream: `ticks` are those still in
`deviceTiming`, `devLast` and `devNext` the times of the last two the producer
took, `d` the device clock. The ticks increase, follow the last one taken and
precede the clock's next prediction; before the first pull of a stream there
are none and `devNextTime` is still `INT64_MIN`. -/
structure TicksOrdered (ticks : List PlaybackDeviceTick) (devLast devNext : Int)
    (d : PlaybackDeviceData) : Prop where
  sorted : ticks.Pairwise fun t t' => t.nextTime < t'.nextTime
  after_taken : ∀ t ∈ ticks, devNext < t.nextTime
  taken_sorted : devLast ≠ int64Min → devLast < devNext
  before_next : ∀ t ∈ ticks, t.nextTime ≤ d.nextTime
  fresh : d.periodFrames = 0 → ticks = [] ∧ devNext = int64Min
  running : d.periodFrames ≠ 0 → devNext ≤ d.nextTime

section
variable {ts ts' : List PlaybackDeviceTick} {devLast devNext : Int} {d : PlaybackDeviceData}

/-- A full ring drops a tick, which keeps the order. -/
theorem TicksOrdered.sublist (h : TicksOrdered ts devLast devNext d) (hs : ts'.Sublist ts) :
    TicksOrdered ts' devLast devNext d where
  sorted := h.sorted.sublist hs
  after_taken t ht := h.after_taken t (hs.subset ht)
  taken_sorted := h.taken_sorted
  before_next t ht := h.before_next t (hs.subset ht)
  fresh h0 := ⟨List.sublist_nil.mp ((h.fresh h0).1 ▸ hs), (h.fresh h0).2⟩
  running := h.running

/-- The order does not read the device position. -/
theorem TicksOrdered.withNextPosition (h : TicksOrdered ts devLast devNext d) (m : Int) :
    TicksOrdered ts devLast devNext { d with nextPosition := m } :=
  ⟨h.sorted, h.after_taken, h.taken_sorted, h.before_next, h.fresh, h.running⟩

/-- One turn of the drain loop: the oldest tick becomes the last one taken. -/
theorem TicksOrdered.takeTick {t : PlaybackDeviceTick}
    (h : TicksOrdered (t :: ts) devLast devNext d) : TicksOrdered ts devNext t.nextTime d where
  sorted := (List.pairwise_cons.mp h.sorted).2
  after_taken := (List.pairwise_cons.mp h.sorted).1
  taken_sorted _ := h.after_taken t (List.mem_cons_self t ts)
  before_next t' ht := h.before_next t' (List.mem_cons_of_mem t ht)
  fresh h0 := nomatch (h.fresh h0).1
  running _ := h.before_next t (List.mem_cons_self t ts)

/-- The drain loop takes every tick in order. -/
theorem TicksOrdered.drainTicks {sd : PlaybackSpiceData}
    (h : TicksOrdered ts sd.devLastTime sd.devNextTime d) :
    TicksOrdered [] (drainTicks sd ts).devLastTime (drainTicks sd ts).devNextTime d := by
  induction ts generalizing sd with
  | nil => exact h
  | cons t ts ih => exact ih h.takeTick

/-- A tick later than all before it extends the order. -/
theorem TicksOrdered.push (h : TicksOrdered ts devLast devNext d) {d' : PlaybackDeviceData}
    (hf : d'.periodFrames ≠ 0) (hn : devNext < d'.nextTime)
    (hts : ∀ t ∈ ts, t.nextTime < d'.nextTime) :
    TicksOrdered (ts ++ [d'.tick]) devLast devNext d' where
  sorted := List.pairwise_append.mpr ⟨h.sorted, List.pairwise_singleton _ _,
    fun t ht _ ht' => List.mem_singleton.mp ht' ▸ hts t ht⟩
  after_taken t ht := (List.mem_append.mp ht).elim (h.after_taken t)
    fun ht' => List.mem_singleton.mp ht' ▸ hn
  taken_sorted := h.taken_sorted
  before_next t ht := (List.mem_append.mp ht).elim (fun ht' => (hts t ht').le)
    fun ht' => List.mem_singleton.mp ht' ▸ le_refl _
  fresh h0 := absurd h0 hf
  running _ := hn.le

/-- A pull that moves the prediction on publishes a tick after every earlier
one. -/
theorem TicksOrdered.pullClock (h : TicksOrdered ts devLast devNext d)
    {sampleRate frames now : Int} (hf : 0 < frames)
    (hadv : (if d.periodFrames = 0 then int64Min else d.nextTime) <
      (pullClock d sampleRate frames now).1.nextTime) :
    TicksOrdered (ts ++ [(pullClock d sampleRate frames now).1.tick]) devLast devNext
      (pullClock d sampleRate frames now).1 := by
  have hp : (Audio.pullClock d sampleRate frames now).1.periodFrames ≠ 0 := by
    rw [pullClock_periodFrames]; omega
  by_cases h0 : d.periodFrames = 0
  · -- the first pull of the stream: there is no tick yet
    obtain ⟨rfl, hn⟩ := h.fresh h0
    rw [if_pos h0] at hadv
    exact h.push hp (hn ▸ hadv) nofun
  · -- every tick so far is no later than the previous prediction
    rw [if_neg h0] at hadv
    have hn := h.running h0
    exact h.push hp (by omega) fun t ht => by have := h.before_next t ht; omega

end

/-! ## Runs whose pulls move the prediction on -/

/-- A pull the order needs: a positive number of frames, and a predicted
wake-up later than the previous prediction, or than `INT64_MIN` at the first
pull of a stream. The pull may come early, as long as the prediction moves
on. -/
structure PullAdvances (p : Playback) (frames now : Int) : Prop where
  frames_pos : 0 < frames
  advances : (if p.deviceData.periodFrames = 0 then int64Min else p.deviceData.nextTime) <
    (pullClock p.deviceData p.sampleRate frames now).1.nextTime

instance (p : Playback) (frames now : Int) : Decidable (PullAdvances p frames now) :=
  decidable_of_iff (0 < frames ∧ (if p.deviceData.periodFrames = 0 then int64Min
      else p.deviceData.nextTime) < (pullClock p.deviceData p.sampleRate frames now).1.nextTime)
    ⟨fun ⟨h1, h2⟩ => ⟨h1, h2⟩, fun ⟨h1, h2⟩ => ⟨h1, h2⟩⟩

/-- Only pulls are restricted. -/
def Event.Advances (a : AudioState) : Event → Prop
  | .pull frames now => PullAdvances a.playback frames now
  | _ => True

instance (a : AudioState) (e : Event) : Decidable (e.Advances a) := by
  cases e <;> unfold Event.Advances <;> infer_instance

/-- The ticks of the stream are in order, or there is no stream at all. -/
def ClockOrder (p : Playback) : Prop :=
  p.state = .stop ∧ p.buffer = none ∧ p.deviceTiming = none ∨
    TicksOrdered (p.deviceTiming.getD []) p.spiceData.devLastTime p.spiceData.devNextTime
      p.deviceData

variable {opts : AudioOpts} {a a' : AudioState} {p p' : Playback}

theorem ClockOrder.ticksOrdered (h : ClockOrder p) (hs : p.state ≠ .stop) :
    TicksOrdered (p.deviceTiming.getD []) p.spiceData.devLastTime p.spiceData.devNextTime
      p.deviceData :=
  h.resolve_left fun h' => hs h'.1

theorem ClockOrder.of_frame (h : ClockOrder p) (hs : p'.state = p.state)
    (hb : p'.buffer = p.buffer) (ht : p'.deviceTiming = p.deviceTiming)
    (hd : p'.deviceData = p.deviceData) (hsd : p'.spiceData.devTimes = p.spiceData.devTimes) :
    ClockOrder p' := by
  simp only [PlaybackSpiceData.devTimes, Prod.mk.injEq] at hsd
  unfold ClockOrder
  rw [hs, hb, ht, hd, hsd.1, hsd.2]
  exact h

theorem clockOrder_playbackStop (h : a.playback.state = .stop → ClockOrder a.playback) :
    ClockOrder (playbackStop a).playback := by
  unfold playbackStop
  split_ifs with hs
  · exact h hs
  · exact .inl ⟨rfl, rfl, rfl⟩

/-- A new stream has no ticks and has taken none. -/
theorem clockOrder_playbackOpen (channels sampleRate : Int) (env : StartEnv) :
    ClockOrder (playbackOpen opts a channels sampleRate env).playback := by
  have ht : (playbackOpen opts a channels sampleRate env).playback.deviceTiming.getD [] = [] := by
    simp only [playbackOpen]
    split_ifs <;> rfl
  refine .inr ⟨?_, ?_, (absurd rfl ·), ?_, fun _ => ⟨ht, rfl⟩, (absurd rfl ·)⟩ <;> simp [ht]

theorem ClockOrder.audioPlaybackStart (h : ClockOrder a.playback) (channels sampleRate : Int)
    (env : StartEnv) : ClockOrder (audioPlaybackStart opts a channels sampleRate env).playback := by
  unfold Audio.audioPlaybackStart
  split_ifs
  · exact h
  all_goals first
    | exact clockOrder_playbackOpen _ _ _
    | exact (clockOrder_playbackStop fun _ => h).of_frame rfl rfl rfl rfl rfl
    | exact h.of_frame rfl rfl rfl rfl rfl

theorem ClockOrder.audioPlaybackStop (h : ClockOrder a.playback) (srcReset : Bool) :
    ClockOrder (audioPlaybackStop a srcReset).playback := by
  unfold Audio.audioPlaybackStop
  split
  · rename_i hrun
    have ho := h.ticksOrdered (by rw [hrun]; exact nofun)
    split_ifs
    · exact .inr ho
    · exact clockOrder_playbackStop fun _ => .inr ho
  all_goals first | exact clockOrder_playbackStop fun _ => h | exact h

theorem ClockOrder.keepAliveExpiry (h : ClockOrder a.playback) :
    ClockOrder (keepAliveExpiry a).playback := by
  unfold Audio.keepAliveExpiry
  split_ifs
  · exact clockOrder_playbackStop fun _ => h
  · exact h

/-- A pull that moves the prediction on publishes its tick after the others, or
drops it. -/
theorem ClockOrder.audioPull (h : ClockOrder a.playback) {frames now : Int}
    (hon : PullAdvances a.playback frames now) :
    ClockOrder (audioPull a frames now).1.playback := by
  unfold Audio.audioPull
  split_ifs
  · exact h
  · split
    · rename_i r hr
      have ho := h.resolve_left fun h' => by rw [h'.2.1] at hr; cases hr
      obtain ⟨s, n, hq, -⟩ := pullPrefill_fst a.playback r
      refine ClockOrder.keepAliveExpiry (.inr ?_)
      simp only [pullRing, hq]
      have hadv := hon.advances
      rw [← pullClock_nextTime_withNextPosition _ n] at hadv
      exact ((ho.withNextPosition n).pullClock hon.frames_pos hadv).sublist
        (ringbufferPush_getD_sublist _ _ _)
    · exact h.keepAliveExpiry

/-- A packet takes every tick in order and empties the tick ring. -/
theorem clockOrder_dataProcess {sd : PlaybackSpiceData} {frames now : Int}
    {periodChanged init : Bool} {env : DataEnv}
    (h : TicksOrdered (a.playback.deviceTiming.getD []) sd.devLastTime sd.devNextTime
      a.playback.deviceData)
    (hp : dataProcess opts a sd frames now periodChanged init env = some a') :
    ClockOrder a'.playback := by
  obtain ⟨sd', buffer, slew, done, -, hsd, rfl⟩ := dataProcess_inv hp
  have hts : (a.playback.deviceTiming.map fun _ => ([] : List PlaybackDeviceTick)).getD [] = [] := by
    cases a.playback.deviceTiming <;> rfl
  simp only [PlaybackSpiceData.devTimes, Prod.mk.injEq] at hsd
  right
  cases done <;> simp only [Bool.false_eq_true, if_false, if_true, id, dataSetupDevice_deviceTiming,
    dataSetupDevice_spiceData, dataSetupDevice_deviceData, hts, hsd.1, hsd.2] <;> exact h.drainTicks

theorem ClockOrder.audioPlaybackData (h : ClockOrder a.playback) {size : Nat} {now : Int}
    {env : DataEnv} (hd : audioPlaybackData opts a size now env = some a') :
    ClockOrder a'.playback := by
  simp only [Audio.audioPlaybackData] at hd
  split_ifs at hd with hs
  · cases hd
    exact h
  · have hdt := dataScratch_devTimes a.playback.spiceData (dataFrames size a.playback.channels)
      a.playback.stride env.framesIn env.framesOut
    simp only [PlaybackSpiceData.devTimes, Prod.mk.injEq] at hdt
    exact clockOrder_dataProcess (by rw [hdt.1, hdt.2]; exact h.ticksOrdered (not_or.mp hs).1) hd
  · cases hd
    exact clockOrder_playbackStop fun h' => absurd h' (not_or.mp hs).1
  · exact clockOrder_dataProcess (h.ticksOrdered (not_or.mp hs).1) hd

theorem ClockOrder.step (h : ClockOrder a.playback) {e : Event} (he : e.Advances a)
    (hs : step opts a e = some a') : ClockOrder a'.playback := by
  cases e
  case playbackStart => cases hs; exact h.audioPlaybackStart _ _ _
  case playbackStop => cases hs; exact h.audioPlaybackStop _
  case playbackData => exact h.audioPlaybackData hs
  case pull => cases hs; exact h.audioPull he
  case free => cases hs; rw [audioFree_playback]; exact clockOrder_playbackStop fun _ => h
  all_goals
    have f := step_streamFrame (by trivial) hs
    exact h.of_frame f.state f.buffer f.deviceTiming f.deviceData (by rw [f.spiceData])

section
attribute [local semireducible] Rat.mul Rat.add Rat.sub Rat.inv

end

/-! ## Concrete runs -/

section
attribute [local semireducible] Rat.mul Rat.add Rat.sub Rat.inv

/-- A stream running at 48 kHz whose device pulls again twelve and a half hours
after its previous pull: the slew `audio_pull` computes does not fit the `int`
it is stored in. -/
theorem late_pull_slew_overflows :
    ∃ a, Reach AudioOpts.default a ∧ a.playback.state = .run ∧ a.playback.buffer.isSome ∧
      ¬ fitsInt (pullClock a.playback.deviceData a.playback.sampleRate 256 45001000000000).2 := by
  obtain ⟨a, hr, hp⟩ := exists_reach_of_run AudioOpts.default
    [.playbackStart 2 48000 ⟨true, true, true, none⟩,
     .playbackData 4 1000000000 ⟨true, true, fun _ => [.ok 1 1]⟩,
     .pull 256 1000000000]
    (fun a => decide (a.playback.state = .run ∧ a.playback.buffer.isSome ∧
      ¬ fitsInt (pullClock a.playback.deviceData a.playback.sampleRate 256 45001000000000).2))
    (by decide)
  exact ⟨a, hr, of_decide_eq_true hp⟩

end

end SpicyKvm.Audio
