import Xczu47dr.Playback.SamplePlacement
import Xczu47dr.Upload.UploadLink

/-! # From the waveforms of the host to the frames of the reader

An upload through the network puts the packed image of the waveforms into the DDR memory, and
the reader that is started with the descriptor of the committed session takes the waveforms out
of it again.
-/

namespace Xczu47dr.Playback

open Host Upload

/-- The memory behind the writer after a run. -/
def writtenMemory (initial : Nat → Wire.Byte) (is : List WriterIn) : DdrMemory :=
  ((writerWithMemory topWriterParams initial).run (writerWithMemory topWriterParams initial).reset is).2

/-- The descriptor the writer hands to the playback path. -/
def committedSession (is : List WriterIn) : UploadCore :=
  ((accountedWriter topWriterParams).run (.reset topWriterParams) is).settled

/-- Below the end of the address space nothing wraps around. -/
theorem holds_of_holdsAt {memory : Nat → Byte} {base : Nat} {image : List Byte}
    (held : Wire.HoldsAt (2 ^ 64) memory base image) (room : base + image.length ≤ 2 ^ 64) :
    Holds memory base image := by
  intro j below
  have found := held j below
  rwa [Nat.mod_eq_of_lt (by omega)] at found

section Uploaded

variable {channelWaves : ChannelWaves} {u : WaveUpload} {before during : List WriterIn} {s : UploadLink}

/-- The committed session describes the image, and the memory holds it. -/
theorem committed_image (initial : Nat → Wire.Byte)
    (packs : Host.carried u.datas = (packInterleaved512bWaveforms channelWaves).1) (reaches : s.Reaches u)
    (through : s.index = u.requests.length)
    (answered : answers topWriterParams (before ++ during) = answers topWriterParams before ++ s.answered)
    (memory : ∀ t ∈ s.answered, t.axiFails = false) (calm : ∀ t ∈ s.answered, t.playback ≠ 8)
    (unseen : ¬ ((committedSession before).session = u.opening.session.toNat ∧
      (committedSession before).lastBeginRequest = u.opening.seq.toNat)) :
    (committedSession (before ++ during)).committed = true ∧
      (committedSession (before ++ during)).ddrBaseAddr = ddrAddrBase ∧
      (committedSession (before ++ during)).totalBeats = (packInterleaved512bWaveforms channelWaves).1.length / 256 ∧
      Holds (writtenMemory initial (before ++ during)).bytes ddrAddrBase (packInterleaved512bWaveforms channelWaves).1 ∧
      MemoryRead.Fits ddrAddrBase ((packInterleaved512bWaveforms channelWaves).1.length / 256) := by
  obtain ⟨chained, lawful, held⟩ := link_effect initial answered
  obtain ⟨done, linked⟩ := linked_of_reaches reaches unseen lawful memory calm chained
  obtain ⟨session, committed, payloads, -⟩ := linked.whole through
  have base := (counts_run topWriterParams (before ++ during)).base
  have capacity : u.opening.totalBytes ≤ ddrMaxInterleavedBytes := u.opens.totalBytes.2
  have frames : u.opening.totalBytes = u.opening.totalBeats * 256 := u.opens.whole
  have whole := u.whole
  have limit : ddrMaxInterleavedBytes < 2 ^ 34 := by decide
  have place : ddrAddrBase = 0x4800000000 := rfl
  rw [payloads, packs] at held
  rw [packs] at whole
  have count : (packInterleaved512bWaveforms channelWaves).1.length / 256 = u.opening.totalBeats.toNat := by omega
  refine ⟨committed, base, session.totalBeats.trans count.symm, holds_of_holdsAt held (by omega), ⟨by decide, ?_, ?_⟩⟩
  · omega
  · omega

end Uploaded

/-- End to end: the waveforms that the host packs and uploads through a network that loses, repeats
and delays, into a memory that answers, are the ones in the frames that the reader delivers when it
is started with the descriptor of the session, whatever either side has to wait for. -/
theorem uploaded_samples_play (channelWaves : ChannelWaves) (u : WaveUpload)
    (packs : Host.carried u.datas = (packInterleaved512bWaveforms channelWaves).1) (initial : Nat → Wire.Byte)
    (before during : List WriterIn) (s : UploadLink) (reaches : s.Reaches u) (through : s.index = u.requests.length)
    (answered : answers topWriterParams (before ++ during) = answers topWriterParams before ++ s.answered)
    (memory : ∀ t ∈ s.answered, t.axiFails = false) (calm : ∀ t ∈ s.answered, t.playback ≠ 8)
    (unseen : ¬ ((committedSession before).session = u.opening.session.toNat ∧
      (committedSession before).lastBeginRequest = u.opening.seq.toNat))
    (p : ReaderParams) (inputs : Nat → MemoryReadIn) (start : Nat) (served : Served p inputs start)
    (idle : ((memoryRead (memoryBeat (writtenMemory initial (before ++ during)).bytes) p).trace inputs start).reader.busy =
      false)
    (starts : (inputs start).start = true)
    (at_base : (inputs start).baseAddr = (committedSession (before ++ during)).ddrBaseAddr)
    (beats : (inputs start).totalBeats = (committedSession (before ++ during)).totalBeats) :
    (committedSession (before ++ during)).committed = true ∧
      ∃ count,
        ((memoryRead (memoryBeat (writtenMemory initial (before ++ during)).bytes) p).trace inputs
          (start + 1 + count)).reader.busy = false ∧
        (deliveredFrames (memoryBeat (writtenMemory initial (before ++ during)).bytes) p inputs start count).length =
          (committedSession (before ++ during)).totalBeats ∧
        CarriesSamples channelWaves (writtenMemory initial (before ++ during)).bytes ddrAddrBase
          (deliveredFrames (memoryBeat (writtenMemory initial (before ++ during)).bytes) p inputs start count) := by
  obtain ⟨committed, base, total, held, fits⟩ :=
    committed_image initial packs reaches through answered memory calm unseen
  obtain ⟨count, idle_again, -, frames⟩ := read_ends fits served idle starts (at_base.trans base) (beats.trans total)
  refine ⟨committed, count, idle_again, ?_, ?_⟩
  · rw [frames, length_framesAt, total]
  · rw [frames]
    exact carriesSamples_framesAt (by decide) held

/-- The upload of two short waveforms, in one DATA packet. -/
def shortUpload : WaveUpload where
  opening := ⟨5, 256, 0x81, 1, 1, 1, 7⟩
  datas := [⟨5, 0, 0, (packInterleaved512bWaveforms shortWaves).1, 8⟩]
  closing := ⟨waveOpCommit, 5, 9⟩
  opens := ⟨by decide, by decide, by decide, by decide, by decide, rfl, rfl, ⟨by decide, by decide⟩⟩
  sends d among := by
    have length : (packInterleaved512bWaveforms shortWaves).1.length = 256 := length_image shortWaves
    obtain rfl := List.mem_singleton.mp among
    refine ⟨⟨by decide, ⟨by decide, by decide⟩, ?_, by decide, ?_, ?_, ⟨by decide, by decide⟩⟩, rfl⟩ <;>
      rw [length] <;> decide
  closes := ⟨⟨by decide, ⟨by decide, by decide⟩, ⟨by decide, by decide⟩⟩, rfl, rfl⟩
  carries := by
    have length : (packInterleaved512bWaveforms shortWaves).1.length = 256 := length_image shortWaves
    exact ⟨rfl, rfl, by rw [length]; decide, trivial⟩
  whole := by
    rw [Host.carried, List.flatMap_singleton]
    exact congrArg Int.ofNat (length_image shortWaves)
  numbered := by decide

theorem shortUpload_plays :
    ∃ during, (committedSession ([] ++ during)).committed = true ∧
      ∃ count,
        ((memoryRead (memoryBeat (writtenMemory (fun _ => 0) ([] ++ during)).bytes) playbackReaderParams).trace
          promptInputs (0 + 1 + count)).reader.busy = false ∧
        (deliveredFrames (memoryBeat (writtenMemory (fun _ => 0) ([] ++ during)).bytes) playbackReaderParams
          promptInputs 0 count).length = (committedSession ([] ++ during)).totalBeats ∧
        CarriesSamples shortWaves (writtenMemory (fun _ => 0) ([] ++ during)).bytes ddrAddrBase
          (deliveredFrames (memoryBeat (writtenMemory (fun _ => 0) ([] ++ during)).bytes) playbackReaderParams
            promptInputs 0 count) := by
  have packs : Host.carried shortUpload.datas = (packInterleaved512bWaveforms shortWaves).1 := List.flatMap_singleton ..
  obtain ⟨during, s, reaches, index, -, answered, memory, calm, -⟩ :=
    link_reaches (u := shortUpload) (rests_reset topWriterParams) (by decide) 3 (Nat.le_refl _)
  obtain ⟨-, base, total, -, -⟩ :=
    committed_image (fun _ => 0) packs reaches index answered memory calm (by decide)
  have one : (packInterleaved512bWaveforms shortWaves).1.length / 256 = 1 := by
    rw [length_image]
    rfl
  exact ⟨during, uploaded_samples_play shortWaves shortUpload packs (fun _ => 0) [] during s reaches index answered
    memory calm (by decide) playbackReaderParams promptInputs 0 served_promptInputs rfl rfl base.symm
    (one.symm.trans total.symm)⟩

end Xczu47dr.Playback
