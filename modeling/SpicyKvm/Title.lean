import Mathlib.Data.Rat.Defs
import Mathlib.Data.List.Range

/-!
# The terminal title

`update_title` sets the terminal's title to
`spicy-kvm [grab] [audio - %.2f offset - %.2f latency - %.2f device]`, with
the mark only while `input_is_grabbed()`, and the three numbers `main` keeps.
`main`'s loop calls it on each change of the grab, and the audio engine,
through `on_audio_latency`, on one report in nine.

At the end of each `audio_playback_data` call the engine reports
`latency_cb(latency, offset, device)`: the total latency, the controller's
`actualOffset` and the device's latency, in milliseconds. The callback is
declared in `audio.h`, and defined by `on_audio_latency`, as
`(current_offset_ms, total_latency_ms, device_latency_ms)`, so the title shows
the total latency after `offset` and the offset after `latency`
(`title_shows_ninth_reports_swapped`).

The numbers are rationals here: `latency` is a `float` in the code, the others
`double`s, and `%.2f`'s rounding is not modelled; a title is kept as its
fields. `audiodev_playback_latency()` is read twice, once for the total and once
for the third value, and may change in between.
-/

namespace SpicyKvm

/-- The values of one `latency_cb` call: the controller's `actualOffset`, the
two reads of `audiodev_playback_latency()`, the stream's sample rate, and
what `input_is_grabbed()` returns if the report reaches the title. -/
structure LatencySample where
  actualOffset : ℚ
  devLatency₁ : Nat
  devLatency₂ : Nat
  sampleRate : Int
  isGrabbed : Bool

/-- The three values `audio_playback_data` passes to `latency_cb`. -/
def LatencySample.report (r : LatencySample) : ℚ × ℚ × ℚ :=
  let latencyFrames := r.actualOffset + r.devLatency₁
  (latencyFrames * 1000 / r.sampleRate, r.actualOffset * 1000 / r.sampleRate,
    r.devLatency₂ * 1000 / r.sampleRate)

/-- A title `update_title` sets: the grab mark and the numbers after `offset`,
`latency` and `device`. -/
structure Title where
  grab : Bool
  offset : ℚ
  latency : ℚ
  device : ℚ

/-- What `main` keeps for the title: `on_audio_latency`'s counter, the three
`audio_*_ms` values, and the titles set so far. -/
structure TitleState where
  ctr : Nat
  currentOffsetMs : ℚ
  totalLatencyMs : ℚ
  deviceLatencyMs : ℚ
  shown : List Title

/-- `update_title`, with what `input_is_grabbed()` returns. -/
def updateTitle (t : TitleState) (isGrabbed : Bool) : TitleState :=
  { t with shown := t.shown ++ [⟨isGrabbed, t.currentOffsetMs, t.totalLatencyMs, t.deviceLatencyMs⟩] }

/-- `on_audio_latency(current_offset_ms, total_latency_ms, device_latency_ms)`:
`ctr++ >= 8` tests the counter before the increment. -/
def onAudioLatency (t : TitleState) (isGrabbed : Bool)
    (currentOffsetMs totalLatencyMs deviceLatencyMs : ℚ) : TitleState :=
  if t.ctr ≥ 8 then
    updateTitle { t with ctr := 0, currentOffsetMs, totalLatencyMs, deviceLatencyMs } isGrabbed
  else { t with ctr := t.ctr + 1 }

/-- The callback over the reports of successive `audio_playback_data` calls. -/
def latencyReports (t : TitleState) (rs : List LatencySample) : TitleState :=
  rs.foldl (fun t r => onAudioLatency t r.isGrabbed r.report.1 r.report.2.1 r.report.2.2) t

/-! ## One report in nine -/

theorem onAudioLatency_ctr (t : TitleState) (ht : t.ctr ≤ 8) (isGrabbed : Bool) (a b c : ℚ) :
    (onAudioLatency t isGrabbed a b c).ctr = (t.ctr + 1) % 9 := by
  unfold onAudioLatency
  split_ifs
  · simp only [updateTitle]
    omega
  · simp only
    omega

theorem onAudioLatency_shown (t : TitleState) (isGrabbed : Bool) (a b c : ℚ) :
    (onAudioLatency t isGrabbed a b c).shown =
      if t.ctr ≥ 8 then t.shown ++ [⟨isGrabbed, a, b, c⟩] else t.shown := by
  unfold onAudioLatency
  split_ifs <;> rfl

/-- The reports whose number, counting on from `c`, is a multiple of nine. -/
def ninthReports (c : Nat) (rs : List LatencySample) : List LatencySample :=
  ((rs.enumFrom c).filter fun p => (p.1 + 1) % 9 = 0).map Prod.snd

theorem ninthReports_cons (c : Nat) (r : LatencySample) (rs : List LatencySample) :
    ninthReports c (r :: rs) =
      if (c + 1) % 9 = 0 then r :: ninthReports (c + 1) rs else ninthReports (c + 1) rs := by
  simp only [ninthReports, List.enumFrom_cons, List.filter_cons, decide_eq_true_eq]
  split_ifs <;> rfl

theorem ninthReports_congr {c d : Nat} (h : c % 9 = d % 9) (rs : List LatencySample) :
    ninthReports c rs = ninthReports d rs := by
  induction rs generalizing c d with
  | nil => rfl
  | cons r rs ih =>
      rw [ninthReports_cons, ninthReports_cons, ih (show (c + 1) % 9 = (d + 1) % 9 by omega)]
      by_cases hc : (c + 1) % 9 = 0
      · rw [if_pos hc, if_pos (by omega)]
      · rw [if_neg hc, if_neg (by omega)]

/-- **The title shows one report in nine, with the offset and the total
latency swapped.** From any counter `on_audio_latency` can hold, over any
sequence of reports: the counter is the number of reports modulo nine, and the
titles set are those of the reports whose number is a multiple of nine, in
order, each showing the report's total latency after `offset` and its
controller offset after `latency`. -/
theorem title_shows_ninth_reports_swapped (t : TitleState) (ht : t.ctr ≤ 8) (rs : List LatencySample) :
    (latencyReports t rs).ctr = (t.ctr + rs.length) % 9 ∧
      (latencyReports t rs).shown = t.shown ++ (ninthReports t.ctr rs).map fun r =>
        ⟨r.isGrabbed, (r.actualOffset + r.devLatency₁) * 1000 / r.sampleRate,
          r.actualOffset * 1000 / r.sampleRate, r.devLatency₂ * 1000 / r.sampleRate⟩ := by
  induction rs generalizing t with
  | nil => simp [latencyReports, ninthReports, Nat.mod_eq_of_lt (show t.ctr < 9 by omega)]
  | cons r rs ih =>
      simp only [latencyReports, List.foldl_cons] at ih ⊢
      have hc₁ := onAudioLatency_ctr t ht r.isGrabbed r.report.1 r.report.2.1 r.report.2.2
      obtain ⟨hc, hs⟩ := ih (onAudioLatency t r.isGrabbed r.report.1 r.report.2.1 r.report.2.2)
        (by omega)
      rw [hc, hs, hc₁, onAudioLatency_shown, ninthReports_cons, ninthReports_congr (Nat.mod_mod _ _)]
      refine ⟨by simp only [List.length_cons]; omega, ?_⟩
      by_cases h8 : t.ctr = 8
      · simp [h8, LatencySample.report]
      · rw [if_neg (by omega), if_neg (by omega)]

/-- Nine reports from the start set one title, that of the ninth. -/
theorem title_shows_ninth_reports_swapped_start :
    let t : TitleState := ⟨0, 0, 0, 0, []⟩
    let rs := List.replicate 9 (⟨480, 960, 960, 48000, false⟩ : LatencySample)
    (latencyReports t rs).ctr = (t.ctr + rs.length) % 9 ∧
      (latencyReports t rs).shown = t.shown ++ (ninthReports t.ctr rs).map fun r =>
        ⟨r.isGrabbed, (r.actualOffset + r.devLatency₁) * 1000 / r.sampleRate,
          r.actualOffset * 1000 / r.sampleRate, r.devLatency₂ * 1000 / r.sampleRate⟩ :=
  title_shows_ninth_reports_swapped ⟨0, 0, 0, 0, []⟩ (by decide) _

end SpicyKvm
