import Xczu47dr.Host.InterleavedLayout
import Xczu47dr.Playback.ReadProgress

/-! # From the samples of the host to the lanes of the frames

The image the host packs lies in the DDR memory from the descriptor base on, one
byte at each address.  The reader takes it apart again: a 64-bit group of a read
beat is eight bytes, its least significant one at the lowest address.
-/

namespace Xczu47dr.Playback

open Host

/-- A 64-bit word as its bytes, `word[8*b +: 8]`. -/
abbrev WordBytes := Fin 8 → Byte

/-- `m_axi_rdata[channel*64 +: 64]` of the beat at an address. -/
def memoryBeat (memory : Nat → Byte) (address : Nat) (channel : Channel) : WordBytes :=
  fun b => memory (address + 8 * channel + b)

/-- The image lies in the memory, byte after byte. -/
def Holds (memory : Nat → Byte) (base : Nat) (image : List Byte) : Prop :=
  ∀ j, j < image.length → memory (base + j) = image.getD j 0

/-- `frame_data[channel*256 + 8*m +: 8]` -/
def laneByte (frame : Frame WordBytes) (channel : Channel) (m : Fin 32) : Byte :=
  frame channel ⟨m / 8, by omega⟩ ⟨m % 8, by omega⟩

/-- The frames carry the waveforms, and the host's address function names where each
    part of them came from. -/
structure CarriesSamples (channelWaves : ChannelWaves) (memory : Nat → Byte) (base : Nat)
    (frames : List (Frame WordBytes)) : Prop where
  count : 256 * frames.length = (packInterleaved512bWaveforms channelWaves).1.length
  slices : ∀ k frame, frames[k]? = some frame → ∀ (channel : Channel) (m : Fin 32),
    laneByte frame channel m = (waveformBytes (normalized channelWaves (channel + 1))).getD (32 * k + m) 0
  addresses : ∀ k frame, frames[k]? = some frame → ∀ (channel : Channel) (j : Fin 4), ∃ address : Nat,
    interleavedDdrAddr (channel + 1 : Nat) (32 * k + 8 * j : Nat) base = .ok address ∧
      ∀ b : Fin 8, frame channel j b = memory (address + b)

variable {channelWaves : ChannelWaves} {memory : Nat → Byte} {base : Nat}

theorem frameAt_group (base k : Nat) (channel : Channel) (j : Fin 4) (b : Fin 8) :
    frameAt (memoryBeat memory) base k channel j b = memory (base + 64 * (4 * k + j) + 8 * channel + b) := rfl

theorem laneByte_frameAt (held : Holds memory base (packInterleaved512bWaveforms channelWaves).1) {k : Nat}
    (inside : k < (packInterleaved512bWaveforms channelWaves).1.length / 256) (channel : Channel) (m : Fin 32) :
    laneByte (frameAt (memoryBeat memory) base k) channel m =
      (waveformBytes (normalized channelWaves (channel + 1))).getD (32 * k + m) 0 := by
  have length := length_image channelWaves
  have beat : 4 * k + m.val / 8 < maxSamples channelWaves / 4 := by omega
  have at_byte := held (64 * (4 * k + m / 8) + 8 * channel + m % 8) (by omega)
  rw [laneByte, frameAt_group, Nat.add_assoc base, Nat.add_assoc base, at_byte,
    image_getD channelWaves beat channel (Nat.mod_lt _ (by decide))]
  congr 1
  omega

theorem carriesSamples_framesAt (aligned : base % 32 = 0)
    (held : Holds memory base (packInterleaved512bWaveforms channelWaves).1) :
    CarriesSamples channelWaves memory base
      (framesAt (memoryBeat memory) base ((packInterleaved512bWaveforms channelWaves).1.length / 256)) := by
  have place : ∀ k frame, (framesAt (memoryBeat memory) base
      ((packInterleaved512bWaveforms channelWaves).1.length / 256))[k]? = some frame →
        k < (packInterleaved512bWaveforms channelWaves).1.length / 256 ∧
          frame = frameAt (memoryBeat memory) base k := by
    intro k frame found
    obtain ⟨inside, rfl⟩ := List.getElem?_eq_some_iff.mp found
    rw [length_framesAt] at inside
    exact ⟨inside, by simp [framesAt]⟩
  refine ⟨?_, ?_, ?_⟩
  · rw [length_framesAt, length_image]
    omega
  · intro k frame found channel m
    obtain ⟨inside, rfl⟩ := place k frame found
    exact laneByte_frameAt held inside channel m
  · intro k frame found channel j
    obtain ⟨-, rfl⟩ := place k frame found
    refine ⟨base + 64 * (4 * k + j) + 8 * channel, ?_, fun b => frameAt_group base k channel j b⟩
    rw [show 32 * k + 8 * j.val = 8 * (4 * k + j) by omega]
    exact interleavedDdrAddr_group channel _ base aligned

/-- What the host packs and the memory holds comes back as frames that carry it. -/
theorem samples_placed (channelWaves : ChannelWaves) (memory : Nat → Byte) (base : Nat) (p : ReaderParams)
    (inputs : Nat → MemoryReadIn) (start : Nat)
    (held : Holds memory base (packInterleaved512bWaveforms channelWaves).1)
    (fits : MemoryRead.Fits base ((packInterleaved512bWaveforms channelWaves).1.length / 256))
    (served : Served p inputs start)
    (idle : ((memoryRead (memoryBeat memory) p).trace inputs start).reader.busy = false)
    (starts : (inputs start).start = true) (at_base : (inputs start).baseAddr = base)
    (beats : (inputs start).totalBeats = (packInterleaved512bWaveforms channelWaves).1.length / 256) :
    ∃ count, ((memoryRead (memoryBeat memory) p).trace inputs (start + 1 + count)).reader.busy = false ∧
      ((packInterleaved512bWaveforms channelWaves).1.length / 256 ≠ 0 →
        ((memoryRead (memoryBeat memory) p).trace inputs (start + 1 + count)).reader.done = true) ∧
      (deliveredFrames (memoryBeat memory) p inputs start count).length =
        (packInterleaved512bWaveforms channelWaves).1.length / 256 ∧
      CarriesSamples channelWaves memory base (deliveredFrames (memoryBeat memory) p inputs start count) := by
  obtain ⟨count, idle_again, done, frames⟩ := read_ends fits served idle starts at_base beats
  have aligned := fits.aligned
  refine ⟨count, idle_again, done, ?_, ?_⟩
  · rw [frames, length_framesAt]
  · rw [frames]
    exact carriesSamples_framesAt (by omega) held

/-! ## Two short waveforms -/

def shortWaves : ChannelWaves := [(1, [0x1234, 0x5678, 0x7FFF]), (8, [0x8000])]

/-- The descriptor base of the design, and a memory with the image there. -/
def ddrAddrBase : Nat := 0x4800000000

def shortMemory (address : Nat) : Byte := (packInterleaved512bWaveforms shortWaves).1.getD (address - ddrAddrBase) 0

/-- A start, and then a memory and a consumer that never wait. -/
def promptInputs (n : Nat) : MemoryReadIn where
  start := n == 0
  cancel := false
  baseAddr := ddrAddrBase
  totalBeats := 1
  fifoFreeBeats := 1024
  arready := true
  respond := true
  frameReady := true

theorem served_promptInputs : Served playbackReaderParams promptInputs 0 where
  no_cancel _ _ := rfl
  addresses _ _ := ⟨0, by decide, rfl⟩
  responds _ _ := ⟨0, by decide, rfl⟩
  consumes n := ⟨n, Nat.le_refl n, rfl⟩
  credits n := ⟨n, Nat.le_refl n, show (1024 : Nat) ≠ 0 by decide⟩

theorem samples_placed_short :
    ∃ count, ((memoryRead (memoryBeat shortMemory) playbackReaderParams).trace promptInputs (0 + 1 + count)).reader.busy = false ∧
      ((packInterleaved512bWaveforms shortWaves).1.length / 256 ≠ 0 →
        ((memoryRead (memoryBeat shortMemory) playbackReaderParams).trace promptInputs (0 + 1 + count)).reader.done = true) ∧
      (deliveredFrames (memoryBeat shortMemory) playbackReaderParams promptInputs 0 count).length =
        (packInterleaved512bWaveforms shortWaves).1.length / 256 ∧
      CarriesSamples shortWaves shortMemory ddrAddrBase
        (deliveredFrames (memoryBeat shortMemory) playbackReaderParams promptInputs 0 count) := by
  have length : (packInterleaved512bWaveforms shortWaves).1.length / 256 = 1 := by
    rw [length_image]
    rfl
  refine samples_placed shortWaves shortMemory ddrAddrBase playbackReaderParams promptInputs 0 ?_ ?_
    served_promptInputs rfl rfl rfl length.symm
  · intro j _
    rw [shortMemory, Nat.add_sub_cancel_left]
  · rw [length]
    exact ⟨by decide, by decide, by decide⟩

end Xczu47dr.Playback
