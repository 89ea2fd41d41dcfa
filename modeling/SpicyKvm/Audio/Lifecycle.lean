import SpicyKvm.Audio.Engine

/-!
# How a packet moves the stream state

The lifecycle of a playback stream is `STOP`, `SETUP_SPICE` until the first
packet, `SETUP_DEVICE` until the device's first pull has pre-filled the ring,
`RUN`, and `KEEP_ALIVE` after a stop while the device keeps playing. The
producer clock of `audio_playback_data` decides its slews by the elapsed time
alone and puts the stream in `RUN` whenever it slews, so a packet can skip the
set-up states; and a packet that changes the period never slews, so it can
leave `KEEP_ALIVE` in place.
-/

namespace SpicyKvm.Audio

open SpicyKvm AudioDev

section
attribute [local semireducible] Rat.mul Rat.add Rat.sub Rat.inv

/-- Three packets that move the state against the lifecycle: a first packet
shorter than one frame takes `SETUP_SPICE` to `RUN` without opening the device;
a packet a quarter second after the first takes `SETUP_DEVICE` to `RUN` before
the device has pulled; and a packet of a new size leaves `KEEP_ALIVE` in
place. -/
theorem data_breaks_lifecycle :
    (∃ a a', Reach AudioOpts.default a ∧ a.playback.state = .setupSpice ∧
      audioPlaybackData AudioOpts.default a 1 1000000000 ⟨true, true, fun _ => []⟩ = some a' ∧
      a'.playback.state = .run ∧ a'.pw.playback.state = .inactive) ∧
    (∃ a a', Reach AudioOpts.default a ∧ a.playback.state = .setupDevice ∧
      audioPlaybackData AudioOpts.default a 4 1250000000 ⟨true, true, fun _ => [.ok 1 1]⟩ = some a' ∧
      a'.playback.state = .run) ∧
    (∃ a a', Reach AudioOpts.default a ∧ a.playback.state = .keepAlive ∧
      audioPlaybackData AudioOpts.default a 8 1010000000 ⟨true, true, fun _ => [.ok 2 2]⟩ = some a' ∧
      a'.playback.state = .keepAlive) := by
  refine ⟨?_, ?_, ?_⟩
  · obtain ⟨a, a', hr, hd, hq⟩ := exists_reach_call_of_run AudioOpts.default
      ([.playbackStart 2 48000 ⟨true, true, true, none⟩])
      (fun a => audioPlaybackData AudioOpts.default a 1 1000000000 ⟨true, true, fun _ => []⟩)
      (fun a a' => decide (a.playback.state = .setupSpice ∧ a'.playback.state = .run ∧
        a'.pw.playback.state = .inactive)) (by decide)
    obtain ⟨h₁, h₂, h₃⟩ := of_decide_eq_true hq
    exact ⟨a, a', hr, h₁, hd, h₂, h₃⟩
  · obtain ⟨a, a', hr, hd, hq⟩ := exists_reach_call_of_run AudioOpts.default
      ([.playbackStart 2 48000 ⟨true, true, true, none⟩,
        .playbackData 4 1000000000 ⟨true, true, fun _ => [.ok 1 1]⟩])
      (fun a => audioPlaybackData AudioOpts.default a 4 1250000000
        ⟨true, true, fun _ => [.ok 1 1]⟩)
      (fun a a' => decide (a.playback.state = .setupDevice ∧ a'.playback.state = .run))
      (by decide)
    obtain ⟨h₁, h₂⟩ := of_decide_eq_true hq
    exact ⟨a, a', hr, h₁, hd, h₂⟩
  · obtain ⟨a, a', hr, hd, hq⟩ := exists_reach_call_of_run AudioOpts.default
      ([.playbackStart 2 48000 ⟨true, true, true, none⟩,
        .playbackData 4 1000000000 ⟨true, true, fun _ => [.ok 1 1]⟩,
        .pull 256 1000000000, .playbackStop true])
      (fun a => audioPlaybackData AudioOpts.default a 8 1010000000
        ⟨true, true, fun _ => [.ok 2 2]⟩)
      (fun a a' => decide (a.playback.state = .keepAlive ∧ a'.playback.state = .keepAlive))
      (by decide)
    obtain ⟨h₁, h₂⟩ := of_decide_eq_true hq
    exact ⟨a, a', hr, h₁, hd, h₂⟩

end

end SpicyKvm.Audio
