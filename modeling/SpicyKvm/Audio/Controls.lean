import SpicyKvm.Audio.Engine

/-!
# Volume, mute and capture

The engine caches every volume and mute request and applies it to the device
only while `STREAM_ACTIVE`, that is in `RUN` and `KEEP_ALIVE`; the cache is
re-applied when a stream starts. A request that comes while the stream is being
set up is cached after the start has already applied the cache, so the stream
keeps the older value (`setup_requests_never_applied`). A ghost flag beside
the engine (`requestMissed`, `ReachReq`) records such a request until the next
start that opens a stream; without one, the stream carries the last requested
levels and mute in every state but `STOP` (`requests_on_stream_unless_missed`).

The capture path has two slips of its own. `audio.audioDev` is never assigned,
so `audio_record_stop` returns before it stops anything; and
`real_record_start` restores the playback levels and mute instead of the
capture ones.
-/

namespace SpicyKvm.Audio

open SpicyKvm AudioDev

variable {opts : AudioOpts} {a a' : AudioState}

/-! ## `audio.audioDev` is never set -/

@[simp] theorem playbackStop_audioDev (a : AudioState) : (playbackStop a).audioDev = a.audioDev := by
  unfold playbackStop; split_ifs <;> rfl

@[simp] theorem keepAliveExpiry_audioDev (a : AudioState) :
    (keepAliveExpiry a).audioDev = a.audioDev := by
  unfold keepAliveExpiry; split_ifs <;> simp

@[simp] theorem dataSetupDevice_audioDev (a : AudioState) :
    (dataSetupDevice a).audioDev = a.audioDev := by
  unfold dataSetupDevice; split_ifs <;> rfl

theorem audioPlaybackData_audioDev {size : Nat} {now : Int} {env : DataEnv}
    (hd : audioPlaybackData opts a size now env = some a') : a'.audioDev = a.audioDev := by
  have process : ∀ {sd frames pc init}, dataProcess opts a sd frames now pc init env = some a' →
      a'.audioDev = a.audioDev := fun hp => by
    obtain ⟨_, _, _, done, -, -, rfl⟩ := dataProcess_inv hp
    cases done <;> simp
  simp only [audioPlaybackData] at hd
  split_ifs at hd
  · cases hd; rfl
  · exact process hd
  · cases hd; simp
  · exact process hd

theorem step_audioDev {e : Event} (hs : step opts a e = some a') : a'.audioDev = a.audioDev := by
  cases e <;> simp only [step, Option.some.injEq] at hs
  case playbackData => exact audioPlaybackData_audioDev hs
  case drained =>
    split_ifs at hs
    cases hs
    rfl
  all_goals
    subst hs
    simp only [audioPlaybackStart, playbackOpen, audioPlaybackStop, audioPlaybackVolume,
      audioPlaybackMute, audioPull, audioRecordStart, realRecordStart, audioRecordStop,
      realRecordStop, audioRecordVolume, audioRecordMute, audioFree]
    repeat' split
    all_goals simp

/-! ## Requests that never reach the device -/

section
attribute [local semireducible] Rat.mul Rat.add Rat.sub Rat.inv

/-- A volume and a mute request made while a stream is being set up never reach
it: once the stream runs, it still has the levels and the mute the start
restored, though the channel counts match. -/
theorem setup_requests_never_applied :
    ∃ a, Reach AudioOpts.default a ∧ a.playback.state = .run ∧
      a.playback.volumeChannels = a.pw.playback.channels ∧ a.playback.volume = [2, 2] ∧
      a.pw.playback.stream.map (·.volume) = some (some [1, 1]) ∧
      a.playback.mute = true ∧ a.pw.playback.stream.map (·.mute) = some (some false) := by
  obtain ⟨a, hr, hp⟩ := exists_reach_of_run AudioOpts.default
    [.playbackVolume 2 [1, 1], .playbackStart 2 48000 ⟨true, true, true, none⟩,
     .playbackVolume 2 [2, 2], .playbackMute true,
     .playbackData 4 1000000000 ⟨true, true, fun _ => [.ok 1 1]⟩, .pull 256 1000000000]
    (fun a => decide (a.playback.state = .run ∧
      a.playback.volumeChannels = a.pw.playback.channels ∧ a.playback.volume = [2, 2] ∧
      a.pw.playback.stream.map (·.volume) = some (some [1, 1]) ∧
      a.playback.mute = true ∧ a.pw.playback.stream.map (·.mute) = some (some false)))
    (by decide)
  exact ⟨a, hr, of_decide_eq_true hp⟩

end

/-! ## What the stream was last told -/

/-- The cached requests are on the playback stream: in every state but `STOP`,
the stream object's last mute control is the cached mute, and its last levels
are the cached levels whenever the cache holds a request for the stream's
channel count. -/
def RequestsApplied (a : AudioState) : Prop :=
  a.playback.state ≠ .stop → ∀ st, a.pw.playback.stream = some st →
    (a.playback.volumeChannels ≠ 0 → a.playback.volumeChannels = a.pw.playback.channels →
      st.volume = some a.playback.volume) ∧ st.mute = some a.playback.mute

/-- The cache holds no more levels than its channel count. -/
def VolumeFits (p : Playback) : Prop := p.volume.length ≤ p.volumeChannels.toNat

/-- `a'` has the cached requests of `a`, and the stream was told what it was
told in `a`. -/
structure ControlsKept (a a' : AudioState) : Prop where
  volume : a'.playback.volume = a.playback.volume
  volumeChannels : a'.playback.volumeChannels = a.playback.volumeChannels
  mute : a'.playback.mute = a.playback.mute
  pw : a'.pw.playbackControls = a.pw.playbackControls

theorem RequestsApplied.of_kept (h : RequestsApplied a) (k : ControlsKept a a')
    (hs : a'.playback.state ≠ .stop → a.playback.state ≠ .stop) : RequestsApplied a' := by
  intro hs' st hst
  have hpw := k.pw
  simp only [PipeWire.playbackControls, hst, Option.map_some', Prod.mk.injEq] at hpw
  obtain ⟨hch, hctl⟩ := hpw
  obtain ⟨st₀, hst₀, heq⟩ := Option.map_eq_some'.mp hctl.symm
  simp only [Prod.mk.injEq] at heq
  rw [k.volume, k.volumeChannels, k.mute, hch, ← heq.1, ← heq.2]
  exact h (hs hs') st₀ hst₀

theorem VolumeFits.of_kept (h : VolumeFits a.playback) (k : ControlsKept a a') :
    VolumeFits a'.playback := by
  rw [VolumeFits, k.volume, k.volumeChannels]
  exact h

theorem controlsKept_playbackStop (a : AudioState) : ControlsKept a (playbackStop a) := by
  unfold playbackStop
  split_ifs
  · exact ⟨rfl, rfl, rfl, rfl⟩
  · exact ⟨rfl, rfl, rfl, audiodevPlaybackStop_playbackControls _⟩

theorem ControlsKept.trans {a₁ a₂ a₃ : AudioState} (h₁ : ControlsKept a₁ a₂) (h₂ : ControlsKept a₂ a₃) :
    ControlsKept a₁ a₃ :=
  ⟨h₂.volume.trans h₁.volume, h₂.volumeChannels.trans h₁.volumeChannels, h₂.mute.trans h₁.mute,
    h₂.pw.trans h₁.pw⟩

theorem controlsKept_audioPull (a : AudioState) (frames now : Int) :
    ControlsKept a (audioPull a frames now).1 := by
  have expiry : ∀ b : AudioState, ControlsKept b (keepAliveExpiry b) := fun b => by
    unfold keepAliveExpiry
    split_ifs
    · exact controlsKept_playbackStop b
    · exact ⟨rfl, rfl, rfl, rfl⟩
  unfold audioPull
  split_ifs
  · exact ⟨rfl, rfl, rfl, rfl⟩
  · split
    · rename_i r _
      obtain ⟨s, n, hq, -⟩ := pullPrefill_fst a.playback r
      refine ControlsKept.trans ?_ (expiry _)
      simp only [pullRing, hq]
      exact ⟨rfl, rfl, rfl, rfl⟩
    · exact expiry a

theorem ControlsKept.of_playback {a₁ a₂ : AudioState} (hp : a₂.playback = a₁.playback)
    (hpw : a₂.pw.playback = a₁.pw.playback) : ControlsKept a₁ a₂ :=
  ⟨by rw [hp], by rw [hp], by rw [hp], by simp only [PipeWire.playbackControls, hpw]⟩

theorem ControlsKept.playbackStop {a₁ a₂ : AudioState} (k : ControlsKept a₁ a₂) :
    ControlsKept a₁ (Audio.playbackStop a₂) :=
  k.trans (controlsKept_playbackStop a₂)

theorem ControlsKept.dataSetupDevice {a₁ a₂ : AudioState} (k : ControlsKept a₁ a₂) :
    ControlsKept a₁ (Audio.dataSetupDevice a₂) := by
  unfold Audio.dataSetupDevice
  split_ifs
  · exact ⟨k.volume, k.volumeChannels, k.mute, (audiodevPlaybackStart_playbackControls _).trans k.pw⟩
  · exact k

/-- A packet keeps the controls, and does nothing in `STOP`. -/
theorem controlsKept_audioPlaybackData {size : Nat} {now : Int} {env : DataEnv}
    (hd : audioPlaybackData opts a size now env = some a') :
    ControlsKept a a' ∧ (a.playback.state = .stop → a' = a) := by
  have process : ∀ {sd frames pc init}, dataProcess opts a sd frames now pc init env = some a' →
      ControlsKept a a' := fun hp => by
    obtain ⟨_, _, _, done, -, -, rfl⟩ := dataProcess_inv hp
    cases done
    · exact ⟨rfl, rfl, rfl, rfl⟩
    · exact ControlsKept.dataSetupDevice ⟨rfl, rfl, rfl, rfl⟩
  simp only [audioPlaybackData] at hd
  split_ifs at hd with hs
  · cases hd
    exact ⟨⟨rfl, rfl, rfl, rfl⟩, fun _ => rfl⟩
  all_goals have hs : a.playback.state ≠ .stop := fun h' => hs (.inl h')
  · exact ⟨process hd, fun h' => absurd h' hs⟩
  · cases hd
    exact ⟨ControlsKept.playbackStop ⟨rfl, rfl, rfl, rfl⟩, fun h' => absurd h' hs⟩
  · exact ⟨process hd, fun h' => absurd h' hs⟩

theorem audioPull_stop {a : AudioState} (h : a.playback.state = .stop) (frames now : Int) :
    (audioPull a frames now).1.playback.state = .stop := by
  have expiry : ∀ b : AudioState, b.playback.state = .stop → (keepAliveExpiry b).playback.state = .stop :=
    fun b hb => by unfold keepAliveExpiry; split_ifs <;> simp [hb]
  unfold audioPull
  split_ifs
  · exact h
  · split
    · rename_i r _
      exact expiry _ ((pullRing_state_of_ne (by rw [h]; decide) r frames now).trans h)
    · exact expiry a h

/-- A start that opens a stream applies the cache to it. -/
theorem requestsApplied_playbackOpen (hf : VolumeFits a.playback) (channels sampleRate : Int)
    (env : StartEnv) : RequestsApplied (playbackOpen opts a channels sampleRate env) := by
  intro _ st hst
  simp only [playbackOpen, audiodevPlaybackMute_channels] at hst ⊢
  generalize hq : (if a.playback.volumeChannels ≠ 0 then audiodevPlaybackVolume
    (audiodevPlaybackSetup a.pw channels sampleRate (max opts.periodSize 1) env.nodeLatency).1
      a.playback.volumeChannels a.playback.volume
    else (audiodevPlaybackSetup a.pw channels sampleRate (max opts.periodSize 1) env.nodeLatency).1) = q
    at hst ⊢
  simp only [audiodevPlaybackMute, Option.map_eq_some'] at hst
  obtain ⟨st₀, h₀, rfl⟩ := hst
  refine ⟨fun hv hch => ?_, rfl⟩
  rw [if_pos hv] at hq
  subst hq
  rw [audiodevPlaybackVolume_channels] at hch
  simp only [audiodevPlaybackVolume, hch, ne_eq, not_true_eq_false, if_false, Option.map_eq_some'] at h₀
  obtain ⟨st₁, -, rfl⟩ := h₀
  rw [← hch]
  exact congrArg some (List.take_of_length_le hf)

/-- Whether a volume or mute request has come, since the current stream was
opened, while it was being set up: ghost state of a run. A start that opens a
stream clears it; the start that keeps a stream alive does not. -/
def requestMissed (a : AudioState) (missed : Bool) : Event → Bool
  | .playbackStart channels sampleRate _ =>
      missed && decide (a.playback.state = .keepAlive ∧ channels = a.playback.lastChannels ∧
        sampleRate = a.playback.lastSampleRate)
  | .playbackVolume _ _ | .playbackMute _ =>
      missed || decide (a.playback.state ≠ .stop ∧ streamActive a.playback.state = false)
  | _ => missed

/-- The reachable states of the engine, each with its ghost. -/
inductive ReachReq (opts : AudioOpts) : AudioState → Bool → Prop
  | init : ReachReq opts AudioState.init false
  | step {a a' : AudioState} {missed : Bool} {e : Event} :
      ReachReq opts a missed → step opts a e = some a' → ReachReq opts a' (requestMissed a missed e)

theorem ReachReq.reach {missed : Bool} (h : ReachReq opts a missed) : Reach opts a := by
  induction h with
  | init => exact .init
  | step _ hs ih => exact ih.step hs

/-- Every reachable state has its ghost. -/
theorem Reach.exists_reachReq (h : Reach opts a) : ∃ missed, ReachReq opts a missed := by
  induction h with
  | init => exact ⟨false, .init⟩
  | step _ hs ih =>
      obtain ⟨missed, hm⟩ := ih
      exact ⟨_, hm.step hs⟩

/-- Runs a list of events with the ghost. -/
def runReq (opts : AudioOpts) : AudioState → Bool → List Event → Option (AudioState × Bool)
  | a, missed, [] => some (a, missed)
  | a, missed, e :: es => (step opts a e).bind fun a' => runReq opts a' (requestMissed a missed e) es

theorem reachReq_runReq {a : AudioState} {missed : Bool} {es : List Event} {q : AudioState × Bool}
    (h : ReachReq opts a missed) (hr : runReq opts a missed es = some q) : ReachReq opts q.1 q.2 := by
  induction es generalizing a missed with
  | nil =>
      cases hr
      exact h
  | cons e es ih =>
      simp only [runReq, Option.bind_eq_some] at hr
      obtain ⟨a₁, h₁, h₂⟩ := hr
      exact ih (h.step h₁) h₂

/-- A concrete run from the initial state that ends where `p` holds of the
state and its ghost exhibits such a pair. -/
theorem exists_reachReq_of_run (opts : AudioOpts) (es : List Event) (p : AudioState → Bool → Bool)
    (h : (runReq opts AudioState.init false es).any (fun q => p q.1 q.2) = true) :
    ∃ a missed, ReachReq opts a missed ∧ p a missed = true := by
  obtain ⟨q, hr, hp⟩ := exists_eq_some_of_any h
  exact ⟨q.1, q.2, reachReq_runReq .init hr, hp⟩

section
variable {missed : Bool} (h : missed = false → RequestsApplied a) (hf : VolumeFits a.playback)
include h hf

theorem requestsApplied_audioPlaybackStart (channels sampleRate : Int) (env : StartEnv) :
    (requestMissed a missed (.playbackStart channels sampleRate env) = false →
      RequestsApplied (audioPlaybackStart opts a channels sampleRate env)) ∧
      VolumeFits (audioPlaybackStart opts a channels sampleRate env).playback := by
  unfold audioPlaybackStart
  by_cases hka : a.playback.state = .keepAlive ∧ channels = a.playback.lastChannels ∧
      sampleRate = a.playback.lastSampleRate
  · rw [if_pos hka]
    exact ⟨fun hm => h (by simpa [requestMissed, hka] using hm), hf⟩
  · rw [if_neg hka]
    have k : ControlsKept a (if a.playback.state ≠ .stop then playbackStop a else a) := by
      split_ifs
      · exact controlsKept_playbackStop a
      · exact ⟨rfl, rfl, rfl, rfl⟩
    have hstop : (if a.playback.state ≠ .stop then playbackStop a else a).playback.state = .stop := by
      split_ifs with h'
      · exact playbackStop_state a
      · simpa using h'
    generalize (if a.playback.state ≠ .stop then playbackStop a else a) = a₁ at k hstop
    split_ifs
    · exact ⟨fun _ => requestsApplied_playbackOpen (hf.of_kept k) _ _ _,
        (hf.of_kept k : VolumeFits a₁.playback)⟩
    · exact ⟨fun _ h' => absurd hstop h', (hf.of_kept k : VolumeFits a₁.playback)⟩

omit hf in
theorem requestsApplied_audioPlaybackVolume (channels : Int) (volume : List UInt16) :
    (requestMissed a missed (.playbackVolume channels volume) = false →
      RequestsApplied (audioPlaybackVolume a channels volume)) ∧
      VolumeFits (audioPlaybackVolume a channels volume).playback := by
  refine ⟨fun hm hs st hst => ?_, by
    simp only [audioPlaybackVolume]; split_ifs <;> exact List.length_take_le _ _⟩
  simp only [requestMissed, Bool.or_eq_false_iff, decide_eq_false_iff_not, not_and,
    Bool.not_eq_false] at hm
  have hs₀ : a.playback.state ≠ .stop := by
    simp only [audioPlaybackVolume] at hs
    split_ifs at hs <;> exact hs
  have hmute : ∀ st₀, a.pw.playback.stream = some st₀ → st₀.mute = some a.playback.mute :=
    fun st₀ h₀ => (h hm.1 hs₀ st₀ h₀).2
  simp only [audioPlaybackVolume, hm.2 hs₀, if_true] at hst ⊢
  unfold audiodevPlaybackVolume at hst ⊢
  split_ifs at hst ⊢ with hne
  · exact ⟨fun _ h' => absurd h' hne, hmute st hst⟩
  · obtain ⟨st₀, h₀, rfl⟩ := Option.map_eq_some'.mp hst
    exact ⟨fun _ _ => rfl, hmute st₀ h₀⟩

theorem requestsApplied_audioPlaybackMute (mute : Bool) :
    (requestMissed a missed (.playbackMute mute) = false → RequestsApplied (audioPlaybackMute a mute)) ∧
      VolumeFits (audioPlaybackMute a mute).playback := by
  refine ⟨fun hm hs st hst => ?_, by simp only [audioPlaybackMute]; split_ifs <;> exact hf⟩
  simp only [requestMissed, Bool.or_eq_false_iff, decide_eq_false_iff_not, not_and,
    Bool.not_eq_false] at hm
  have hs₀ : a.playback.state ≠ .stop := by
    simp only [audioPlaybackMute] at hs
    split_ifs at hs <;> exact hs
  simp only [audioPlaybackMute, hm.2 hs₀, if_true, audiodevPlaybackMute, Option.map_eq_some'] at hst ⊢
  obtain ⟨st₀, h₀, rfl⟩ := hst
  exact ⟨(h hm.1 hs₀ st₀ h₀).1, rfl⟩

/-- What every step keeps: the requests are on the stream unless one was
missed, and the cache fits its channel count. -/
theorem requestsApplied_step {e : Event} (hs : step opts a e = some a') :
    (requestMissed a missed e = false → RequestsApplied a') ∧ VolumeFits a'.playback := by
  have kept : ControlsKept a a' → (a.playback.state = .stop → a'.playback.state = .stop) →
      requestMissed a missed e = missed →
      (requestMissed a missed e = false → RequestsApplied a') ∧ VolumeFits a'.playback :=
    fun k hst hm => ⟨fun hm' => (h (hm ▸ hm')).of_kept k fun h' h₀ => h' (hst h₀), hf.of_kept k⟩
  cases e with
  | playbackStart channels sampleRate env =>
      cases hs
      exact requestsApplied_audioPlaybackStart h hf channels sampleRate env
  | playbackVolume channels volume =>
      cases hs
      exact requestsApplied_audioPlaybackVolume h channels volume
  | playbackMute mute =>
      cases hs
      exact requestsApplied_audioPlaybackMute h hf mute
  | playbackStop srcReset =>
      cases hs
      refine kept ?_ (fun h₀ => by simp [audioPlaybackStop, h₀]) rfl
      unfold audioPlaybackStop
      split
      · split_ifs
        · exact ⟨rfl, rfl, rfl, rfl⟩
        · exact ControlsKept.playbackStop ⟨rfl, rfl, rfl, rfl⟩
      all_goals first | exact controlsKept_playbackStop a | exact ⟨rfl, rfl, rfl, rfl⟩
  | playbackData size now env =>
      obtain ⟨k, hstop⟩ := controlsKept_audioPlaybackData hs
      exact kept k (fun h₀ => by rw [hstop h₀, h₀]) rfl
  | pull frames now =>
      cases hs
      exact kept (controlsKept_audioPull a frames now) (fun h₀ => audioPull_stop h₀ frames now) rfl
  | free =>
      cases hs
      refine ⟨fun _ h' => absurd (by simp) h', ?_⟩
      rw [VolumeFits, audioFree_playback]
      exact hf.of_kept (controlsKept_playbackStop a)
  | drained =>
      simp only [step] at hs
      split_ifs at hs
      cases hs
      exact kept ⟨rfl, rfl, rfl, audiodevOnPlaybackDrained_playbackControls _⟩ id rfl
  | recordStart _ _ | recordStop | recordVolume _ _ | recordMute _ =>
      -- the capture calls leave playback alone, in the engine and on the device
      have hp : a'.playback = a.playback ∧ a'.pw.playback = a.pw.playback := by
        simp only [step, Option.some.injEq] at hs
        subst hs
        simp only [audioRecordStart, realRecordStart, audioRecordStop, realRecordStop,
          audioRecordVolume, audioRecordMute]
        split_ifs <;> simp
      exact kept (.of_playback hp.1 hp.2) (fun h₀ => hp.1 ▸ h₀) rfl

end

theorem reachReq_requestsApplied {missed : Bool} (h : ReachReq opts a missed) :
    (missed = false → RequestsApplied a) ∧ VolumeFits a.playback := by
  induction h with
  | init => exact ⟨fun _ h' => absurd rfl h', Nat.zero_le _⟩
  | step _ hs ih => exact requestsApplied_step ih.1 ih.2 hs

/-- **Requests reach the stream unless they come during set-up.** Over any
run of the engine, in every state but `STOP` in which no volume or mute
request has come while the current stream was being set up: the stream's last
mute control is the last requested mute, and its last levels are the last
requested levels whenever that request's channel count is not zero and is the
stream's. A request made during set-up is only cached, and reaches a stream
at the next start that opens one. -/
theorem requests_on_stream_unless_missed {missed : Bool} (h : ReachReq opts a missed)
    (hm : missed = false) (hs : a.playback.state ≠ .stop) {st : PwStream}
    (hst : a.pw.playback.stream = some st) :
    (a.playback.volumeChannels ≠ 0 → a.playback.volumeChannels = a.pw.playback.channels →
      st.volume = some a.playback.volume) ∧ st.mute = some a.playback.mute :=
  (reachReq_requestsApplied h).1 hm hs st hst

section
attribute [local semireducible] Rat.mul Rat.add Rat.sub Rat.inv

/-- Requests made before the start and while the stream runs are on it. -/
theorem requests_on_stream_unless_missed_running :
    ∃ a st, ReachReq AudioOpts.default a false ∧ a.playback.state = .run ∧
      a.pw.playback.stream = some st ∧ a.playback.volumeChannels = 2 ∧ a.pw.playback.channels = 2 ∧
      a.playback.volume = [2, 2] ∧ a.playback.mute = true ∧
      ((a.playback.volumeChannels ≠ 0 → a.playback.volumeChannels = a.pw.playback.channels →
        st.volume = some a.playback.volume) ∧ st.mute = some a.playback.mute) := by
  obtain ⟨a, missed, hr, hp⟩ := exists_reachReq_of_run AudioOpts.default
    [.playbackVolume 2 [1, 1], .playbackStart 2 48000 ⟨true, true, true, none⟩,
     .playbackData 4 1000000000 ⟨true, true, fun _ => [.ok 1 1]⟩, .pull 256 1000000000,
     .playbackVolume 2 [2, 2], .playbackMute true]
    (fun a missed => decide (missed = false ∧ a.playback.state = .run ∧
      a.pw.playback.stream.isSome = true ∧ a.playback.volumeChannels = 2 ∧ a.pw.playback.channels = 2 ∧
      a.playback.volume = [2, 2] ∧ a.playback.mute = true)) (by decide)
  obtain ⟨hm, hs, hsome, h₁, h₂, h₃, h₄⟩ := of_decide_eq_true hp
  obtain ⟨st, hst⟩ := Option.isSome_iff_exists.mp hsome
  exact ⟨a, st, hm ▸ hr, hs, hst, h₁, h₂, h₃, h₄,
    requests_on_stream_unless_missed hr hm (by rw [hs]; decide) hst⟩

end

/-- **Capture is never stopped.** `audio.audioDev` is unset in every reachable
state, so `audio_record_stop` only clears `requested`. After a capture mute
request and a start, the capture stream has the playback mute, and a stop
leaves it active. -/
theorem record_stop_keeps_capture :
    (∀ opts a, Reach opts a → audioRecordStop a = { a with record.requested := false }) ∧
    ∃ a, Reach AudioOpts.default a ∧ a.record.mute = true ∧
      a.pw.record.stream.map (·.mute) = some (some false) ∧
      (audioRecordStop a).pw.record.stream.map (·.active) = some true := by
  refine ⟨fun opts a h => ?_, ?_⟩
  · have hdev : a.audioDev = false :=
      @reach_induction _ (fun a => a.audioDev = false) rfl
        (fun _ _ _ _ hi hs => (step_audioDev hs).trans hi) _ h
    simp [audioRecordStop, hdev]
  · obtain ⟨a, hr, hp⟩ := exists_reach_of_run AudioOpts.default
      [.recordMute true, .recordStart 2 48000]
      (fun a => decide (a.record.mute = true ∧ a.pw.record.stream.map (·.mute) = some (some false) ∧
        (audioRecordStop a).pw.record.stream.map (·.active) = some true))
      (by decide)
    exact ⟨a, hr, of_decide_eq_true hp⟩

end SpicyKvm.Audio
