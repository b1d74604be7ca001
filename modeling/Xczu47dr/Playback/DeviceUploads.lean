import Xczu47dr.Playback.UploadedSamples
import Xczu47dr.Upload.SentRequests

/-! # From a call of the host to the lanes of the frames

`upload_waveforms` from its arguments on: the formats of the waveforms, the channel mask, the
packing, the requests, the network, the upload writer, the memory and the reader.
-/

namespace Xczu47dr.Playback

open Host Upload

/-- The frames carry what the call has converted, as far as the mask names the channels. -/
def PlaysWaveforms (converted : ChannelWaves) (mask : Nat) (frames : List (Frame WordBytes)) : Prop :=
  ∀ k frame, frames[k]? = some frame → ∀ (channel : Channel) (m : Fin 32),
    laneByte frame channel m = (waveformBytes (playedSamples mask converted (channel + 1))).getD (32 * k + m) 0

theorem playsWaveforms_of_carries {converted : ChannelWaves} {mask base : Nat} {memory : Nat → Byte}
    {frames : List (Frame WordBytes)} (carries : CarriesSamples (muted mask converted) memory base frames) :
    PlaysWaveforms converted mask frames := by
  intro k frame found channel m
  rw [carries.slices k frame found channel m, muted_getD]

/-- The upload has gone through the network and the reader has been started with its descriptor. -/
structure Delivered (u : WaveUpload) (initial : Nat → Wire.Byte) (before during : List WriterIn) (s : UploadLink)
    (p : ReaderParams) (inputs : Nat → MemoryReadIn) (start : Nat) : Prop where
  reaches : s.Reaches u
  through : s.index = u.requests.length
  answered : answers topWriterParams (before ++ during) = answers topWriterParams before ++ s.answered
  memory : ∀ t ∈ s.answered, t.axiFails = false
  calm : ∀ t ∈ s.answered, t.playback ≠ 8
  unseen : ¬ ((committedSession before).session = u.opening.session.toNat ∧
    (committedSession before).lastBeginRequest = u.opening.seq.toNat)
  served : Served p inputs start
  idle : ((memoryRead (memoryBeat (writtenMemory initial (before ++ during)).bytes) p).trace inputs start).reader.busy =
    false
  starts : (inputs start).start = true
  at_base : (inputs start).baseAddr = (committedSession (before ++ during)).ddrBaseAddr
  beats : (inputs start).totalBeats = (committedSession (before ++ during)).totalBeats

/-- Every call of `upload_waveforms` that returns has sent one upload, and whenever that upload has gone through a
network that loses, repeats and delays, the frames that the reader then delivers carry the samples of the call's
waveforms, in whatever formats they were given, and zeros for the channels that the mask leaves out. -/
theorem device_waveforms_play (board : Board) (run next : UploadRun) (a : WaveformArguments) (report : WaveformReport)
    (returned : uploadWaveforms board a run = (.ok report, next)) :
    ∃ converted u, SentWaveforms a run next report converted u ∧
      ∀ initial before during s p inputs start, Delivered u initial before during s p inputs start →
        (committedSession (before ++ during)).committed = true ∧
          ∃ count,
            ((memoryRead (memoryBeat (writtenMemory initial (before ++ during)).bytes) p).trace inputs
              (start + 1 + count)).reader.busy = false ∧
            (deliveredFrames (memoryBeat (writtenMemory initial (before ++ during)).bytes) p inputs start
              count).length = report.totalBeats ∧
            PlaysWaveforms converted report.channelMask
              (deliveredFrames (memoryBeat (writtenMemory initial (before ++ during)).bytes) p inputs start count) := by
  obtain ⟨converted, u, sent⟩ := uploadWaveforms_returned returned
  refine ⟨converted, u, sent, fun initial before during s p inputs start delivered => ?_⟩
  obtain ⟨reaches, through, answered, memory, calm, unseen, served, idle, starts, at_base, beats⟩ := delivered
  obtain ⟨committed, base, total, held, fits⟩ :=
    committed_image initial sent.image reaches through answered memory calm unseen
  obtain ⟨count, idle_again, -, frames⟩ := read_ends fits served idle starts (at_base.trans base) (beats.trans total)
  refine ⟨committed, count, idle_again, ?_, ?_⟩
  · have whole := u.whole
    have record := u.opens.whole
    have frame : waveDacFrameBytes = 256 := rfl
    rw [frames, length_framesAt]
    rw [sent.image, record, sent.opening.2.2.2.1, frame] at whole
    omega
  · rw [frames]
    exact playsWaveforms_of_carries (carriesSamples_framesAt (by decide) held)

/-- Two channels in different formats, of which the mask leaves one out. -/
def mixedWaveforms : WaveformArguments where
  channelWaves := [(1, ⟨⟨[2, 3], [1, 2, 3, -1, -2, -3], rfl⟩, .list⟩), (5, ⟨⟨[2], [7, 8], rfl⟩, .list⟩)]
  channelSequences := false
  waveFormats := []
  channelMask := some 0x01
  loopCount := 2
  distinct := by decide

theorem mixedWaveforms_play :
    ∃ report next, uploadWaveforms agreeing mixedWaveforms freshRun = (.ok report, next) ∧
      ∃ converted u, SentWaveforms mixedWaveforms freshRun next report converted u ∧
        ∃ during s p inputs start, Delivered u (fun _ => 0) [] during s p inputs start ∧
          (committedSession ([] ++ during)).committed = true ∧
          ∃ count,
            (deliveredFrames (memoryBeat (writtenMemory (fun _ => 0) ([] ++ during)).bytes) p inputs start
              count).length = report.totalBeats ∧
            PlaysWaveforms converted report.channelMask
              (deliveredFrames (memoryBeat (writtenMemory (fun _ => 0) ([] ++ during)).bytes) p inputs start
                count) := by
  have returns : (uploadWaveforms agreeing mixedWaveforms freshRun).1.toOption.map (·.totalBeats) = some 1 := by
    decide +kernel
  rcases ended : uploadWaveforms agreeing mixedWaveforms freshRun with ⟨e | report, next⟩
  · rw [ended] at returns
    cases returns
  · rw [ended] at returns
    have one : report.totalBeats = 1 := Option.some.inj returns
    obtain ⟨converted, u, sent, plays⟩ := device_waveforms_play agreeing freshRun next mixedWaveforms report ended
    have unseen : ¬ ((committedSession []).session = u.opening.session.toNat ∧
        (committedSession []).lastBeginRequest = u.opening.seq.toNat) := by
      intro seen
      have known := u.opens.session.1
      have none : (committedSession []).session = 0 := rfl
      omega
    obtain ⟨during, s, reaches, through, -, answered, memory, calm, -⟩ :=
      link_reaches (u := u) (rests_reset topWriterParams) unseen u.requests.length (Nat.le_refl _)
    obtain ⟨-, base, total, -, -⟩ :=
      committed_image (fun _ => 0) sent.image reaches through answered memory calm unseen
    have beats : (committedSession ([] ++ during)).totalBeats = 1 := by
      have whole := u.whole
      have record := u.opens.whole
      have frame : waveDacFrameBytes = 256 := rfl
      rw [sent.image, record, sent.opening.2.2.2.1, frame, one] at whole
      omega
    have delivered : Delivered u (fun _ => 0) [] during s playbackReaderParams promptInputs 0 :=
      ⟨reaches, through, answered, memory, calm, unseen, served_promptInputs, rfl, rfl, base.symm, beats.symm⟩
    obtain ⟨committed, count, -, frames⟩ := plays _ _ _ _ _ _ _ delivered
    exact ⟨report, next, rfl, converted, u, sent, during, s, _, _, _, delivered, committed, count, frames⟩

end Xczu47dr.Playback
