import Mathlib.Data.List.Basic
import Mathlib.Data.List.GetD
import Xczu47dr.Clocked.Indices

/-! # The interleaved DDR layout of the host

`waveforms.py`: eight channel-local streams of 16-bit samples are packed into
64-byte DDR beats, one group of eight bytes for each channel.
-/

namespace Xczu47dr.Host

abbrev Byte := BitVec 8

abbrev Sample := BitVec 16

def beatBytes : Nat := 32

def ddrInterleavedLaneBytes : Nat := 8

def ddrInterleavedChannels : Nat := 8

def ddrInterleavedBeatBytes : Nat := ddrInterleavedLaneBytes * ddrInterleavedChannels

/-! ## Addresses -/

/-- `f"0x{value:X}"` -/
def hexUpper (value : Int) : String :=
  (if value < 0 then "0x-" else "0x") ++
    String.ofList ((Nat.toDigits 16 value.natAbs).map Char.toUpper)

/-- `require_beat_aligned`; a `ParameterRangeError` is its message. -/
def requireBeatAligned (value : Int) (name : String) : Except String Int :=
  if value % beatBytes ≠ 0 then
    .error (name ++ " must be 32B aligned, got " ++ hexUpper value)
  else .ok value

def interleavedDdrAddr (channel byteOffset baseAddr : Int) : Except String Int := do
  let channelIndex := channel - 1
  if ¬ (0 ≤ channelIndex ∧ channelIndex < ddrInterleavedChannels) then
    throw "channel must be in 1..8"
  if byteOffset < 0 ∨ byteOffset % ddrInterleavedLaneBytes ≠ 0 then
    throw "byte_offset must be non-negative and 8B aligned"
  let _ ← requireBeatAligned baseAddr "base_addr"
  return baseAddr + byteOffset / ddrInterleavedLaneBytes * ddrInterleavedBeatBytes +
    channelIndex * ddrInterleavedLaneBytes

/-! ## Packing -/

/-- `align_bytes_to_beat` of a count that is not negative. -/
def alignBytesToBeat (n : Nat) : Nat := n + ((-(n : Int)) % beatBytes).toNat

/-- The `<i2` bytes of a sample. -/
def sampleBytes (sample : Sample) : List Byte := [sample.extractLsb' 0 8, sample.extractLsb' 8 8]

def waveformBytes (wave : List Sample) : List Byte := wave.flatMap sampleBytes

/-- `range(1, DDR_INTERLEAVED_CHANNELS + 1)` -/
def channels : List Nat := List.range' 1 ddrInterleavedChannels

/-- A mapping from channel numbers to samples, as the list of its items. -/
abbrev ChannelWaves := List (Nat × List Sample)

/-- `normalized[channel]`: a channel without waveform is empty. -/
def normalized (channelWaves : ChannelWaves) (channel : Nat) : List Sample :=
  (channelWaves.lookup channel).getD []

def maxSize (channelWaves : ChannelWaves) : Nat :=
  channels.foldl (fun longest channel => max longest (normalized channelWaves channel).length) 0

/-- `max_samples` after its rounding to whole DAC beats. -/
def maxSamples (channelWaves : ChannelWaves) : Nat := alignBytesToBeat (maxSize channelWaves * 2) / 2

/-- `packed[channel]` -/
def packed (channelWaves : ChannelWaves) (channel : Nat) : List Byte :=
  let samples := normalized channelWaves channel
  let longest := maxSamples channelWaves
  waveformBytes (samples.take longest ++ List.replicate (longest - samples.length) 0)

/-- `image[start:stop] = part` -/
def setSlice (image : List Byte) (start stop : Nat) (part : List Byte) : List Byte :=
  image.take start ++ part ++ image.drop stop

/-- `values[start:stop]` -/
def slice (values : List Byte) (start stop : Nat) : List Byte := (values.take stop).drop start

/-- The eight bytes channel `channel` contributes to DDR beat `beatIndex`. -/
def group (channelWaves : ChannelWaves) (beatIndex channel : Nat) : List Byte :=
  let start := beatIndex * ddrInterleavedLaneBytes
  slice (packed channelWaves channel) start (start + ddrInterleavedLaneBytes)

def placeGroup (channelWaves : ChannelWaves) (beatIndex : Nat) (image : List Byte) (channel : Nat) :
    List Byte :=
  setSlice image (beatIndex * ddrInterleavedBeatBytes + (channel - 1) * ddrInterleavedLaneBytes)
    (beatIndex * ddrInterleavedBeatBytes + channel * ddrInterleavedLaneBytes)
    (group channelWaves beatIndex channel)

def placeBeat (channelWaves : ChannelWaves) (image : List Byte) (beatIndex : Nat) : List Byte :=
  channels.foldl (placeGroup channelWaves beatIndex) image

def packInterleaved512bWaveforms (channelWaves : ChannelWaves) : List Byte × Nat :=
  if channelWaves.isEmpty then ([], 0)
  else
    let beatCount := maxSamples channelWaves / 4
    let image := List.replicate (beatCount * ddrInterleavedBeatBytes) 0
    ((List.range beatCount).foldl (placeBeat channelWaves) image, maxSamples channelWaves)

/-! ## What the packing keeps -/

theorem alignBytesToBeat_spec (n : Nat) :
    n ≤ alignBytesToBeat n ∧ alignBytesToBeat n < n + 32 ∧ alignBytesToBeat n % 32 = 0 := by
  simp only [alignBytesToBeat, beatBytes]
  omega

theorem waveformBytes_append (front back : List Sample) :
    waveformBytes (front ++ back) = waveformBytes front ++ waveformBytes back :=
  List.flatMap_append

@[simp] theorem length_waveformBytes (wave : List Sample) :
    (waveformBytes wave).length = 2 * wave.length := by
  induction wave with
  | nil => rfl
  | cons sample rest ih =>
    simp only [waveformBytes, List.flatMap_cons, List.length_append, List.length_cons] at ih ⊢
    rw [ih]
    simp only [sampleBytes, List.length_cons, List.length_nil]
    omega

theorem waveformBytes_zeros (count : Nat) :
    waveformBytes (List.replicate count 0) = List.replicate (2 * count) 0 := by
  induction count with
  | zero => rfl
  | succ count ih =>
    rw [List.replicate_succ, show 2 * (count + 1) = 2 * count + 1 + 1 by omega, List.replicate_succ,
      List.replicate_succ, ← ih]
    rfl

theorem length_normalized_le (channelWaves : ChannelWaves) {channel : Nat} (named : channel ∈ channels) :
    (normalized channelWaves channel).length ≤ maxSize channelWaves := by
  have grows : ∀ (front : List Nat) (longest : Nat), (channel ∈ front ∨
      (normalized channelWaves channel).length ≤ longest) → (normalized channelWaves channel).length ≤
        front.foldl (fun longest c => max longest (normalized channelWaves c).length) longest := by
    intro front
    induction front with
    | nil => exact fun longest known => known.resolve_left List.not_mem_nil
    | cons first rest ih =>
      intro longest known
      apply ih
      rcases known with member | bound
      · rcases List.mem_cons.mp member with rfl | later
        · exact .inr (Nat.le_max_right _ _)
        · exact .inl later
      · exact .inr (Nat.le_trans bound (Nat.le_max_left _ _))
  exact grows channels 0 (.inl named)

theorem maxSamples_spec (channelWaves : ChannelWaves) :
    maxSize channelWaves ≤ maxSamples channelWaves ∧ maxSamples channelWaves % 16 = 0 := by
  have aligned := alignBytesToBeat_spec (maxSize channelWaves * 2)
  simp only [maxSamples]
  omega

theorem length_packed (channelWaves : ChannelWaves) {channel : Nat} (named : channel ∈ channels) :
    (packed channelWaves channel).length = 2 * maxSamples channelWaves := by
  have fits := Nat.le_trans (length_normalized_le channelWaves named) (maxSamples_spec channelWaves).1
  simp only [packed, length_waveformBytes, List.length_append, List.length_take, List.length_replicate]
  omega

/-- The packed stream of a channel is its waveform followed by zeros. -/
theorem packed_getD (channelWaves : ChannelWaves) {channel : Nat} (named : channel ∈ channels)
    (position : Nat) :
    (packed channelWaves channel).getD position 0 =
      (waveformBytes (normalized channelWaves channel)).getD position 0 := by
  have fits := Nat.le_trans (length_normalized_le channelWaves named) (maxSamples_spec channelWaves).1
  simp only [packed]
  rw [List.take_of_length_le fits, waveformBytes_append, waveformBytes_zeros]
  by_cases inside : position < (waveformBytes (normalized channelWaves channel)).length
  · rw [List.getD_append _ _ _ _ inside]
  · rw [Nat.not_lt] at inside
    rw [List.getD_append_right _ _ _ _ inside, List.getD_eq_default _ _ inside,
      List.getD_eq_getElem?_getD, List.getElem?_replicate]
    split <;> rfl

/-- The packed streams of one channel group, `ddrInterleavedLaneBytes` of each. -/
theorem length_group (channelWaves : ChannelWaves) {beatIndex channel : Nat} (named : channel ∈ channels)
    (inside : beatIndex < maxSamples channelWaves / 4) :
    (group channelWaves beatIndex channel).length = 8 := by
  simp only [group, slice, List.length_drop, List.length_take, length_packed channelWaves named,
    ddrInterleavedLaneBytes]
  omega

theorem group_getElem? (channelWaves : ChannelWaves) (beatIndex channel : Nat) {byte : Nat} (small : byte < 8) :
    (group channelWaves beatIndex channel)[byte]? = (packed channelWaves channel)[8 * beatIndex + byte]? := by
  simp only [group, slice, ddrInterleavedLaneBytes, List.getElem?_drop]
  rw [List.getElem?_take_of_lt (by omega), Nat.mul_comm]

/-- A slice assignment into the zeros that are left. -/
theorem setSlice_zeros (front part : List Byte) {start stop count : Nat} (rest : Nat)
    (from_front : start = front.length) (within : stop = start + count) :
    setSlice (front ++ List.replicate (count + rest) 0) start stop part =
      front ++ part ++ List.replicate rest 0 := by
  rw [setSlice, within, from_front, List.take_left, List.drop_length_add_append, List.drop_replicate,
    Nat.add_sub_cancel_left]

/-- The bytes of one DDR beat: a group of each channel. -/
def beat (channelWaves : ChannelWaves) (beatIndex : Nat) : List Byte :=
  channels.flatMap (group channelWaves beatIndex)

section Image

variable (channelWaves : ChannelWaves)

/-- The first channels of a DDR beat, placed one after the other. -/
theorem placeGroup_foldl {beatIndex count : Nat} (front : List Byte) (rest : Nat)
    (at_beat : front.length = 64 * beatIndex) (few : count ≤ 8)
    (inside : beatIndex < maxSamples channelWaves / 4) :
    (List.range' 1 count).foldl (placeGroup channelWaves beatIndex)
        (front ++ List.replicate (8 * count + rest) 0) =
      front ++ (List.range' 1 count).flatMap (group channelWaves beatIndex) ++ List.replicate rest 0 ∧
    ((List.range' 1 count).flatMap (group channelWaves beatIndex)).length = 8 * count := by
  induction count generalizing rest with
  | zero => simp
  | succ count ih =>
    obtain ⟨placed, length⟩ := ih (8 + rest) (by omega)
    have named : 1 + 1 * count ∈ channels := by
      rw [channels, List.mem_range'_1, ddrInterleavedChannels]
      omega
    rw [List.range'_concat, List.foldl_append, List.flatMap_append,
      show 8 * (count + 1) + rest = 8 * count + (8 + rest) by omega, placed]
    refine ⟨?_, ?_⟩
    · have start : beatIndex * ddrInterleavedBeatBytes + (1 + 1 * count - 1) * ddrInterleavedLaneBytes =
          (front ++ (List.range' 1 count).flatMap (group channelWaves beatIndex)).length := by
        simp only [List.length_append, length, at_beat, ddrInterleavedBeatBytes, ddrInterleavedLaneBytes,
          ddrInterleavedChannels]
        omega
      simp only [List.foldl_cons, List.foldl_nil, List.flatMap_cons, List.flatMap_nil, List.append_nil]
      rw [placeGroup, setSlice_zeros _ _ rest start, List.append_assoc front]
      simp only [ddrInterleavedLaneBytes]
      omega
    · simp only [List.length_append, length, List.flatMap_cons, List.flatMap_nil, List.append_nil,
        length_group channelWaves named inside]
      omega

theorem placeBeat_zeros {beatIndex : Nat} (front : List Byte) (rest : Nat)
    (at_beat : front.length = 64 * beatIndex) (inside : beatIndex < maxSamples channelWaves / 4) :
    placeBeat channelWaves (front ++ List.replicate (64 + rest) 0) beatIndex =
      front ++ beat channelWaves beatIndex ++ List.replicate rest 0 :=
  (placeGroup_foldl channelWaves front rest at_beat (Nat.le_refl 8) inside).1

theorem length_beat {beatIndex : Nat} (inside : beatIndex < maxSamples channelWaves / 4) :
    (beat channelWaves beatIndex).length = 64 :=
  (placeGroup_foldl channelWaves (List.replicate (64 * beatIndex) 0) 0 List.length_replicate
    (Nat.le_refl 8) inside).2

/-- The first DDR beats, placed one after the other. -/
theorem placeBeat_foldl {count : Nat} (rest : Nat) (few : count ≤ maxSamples channelWaves / 4) :
    (List.range count).foldl (placeBeat channelWaves) (List.replicate (64 * count + rest) 0) =
      (List.range count).flatMap (beat channelWaves) ++ List.replicate rest 0 ∧
    ((List.range count).flatMap (beat channelWaves)).length = 64 * count := by
  induction count generalizing rest with
  | zero => simp
  | succ count ih =>
    obtain ⟨placed, length⟩ := ih (64 + rest) (by omega)
    rw [List.range_succ, List.foldl_append, List.flatMap_append,
      show 64 * (count + 1) + rest = 64 * count + (64 + rest) by omega, placed]
    refine ⟨?_, ?_⟩
    · simp only [List.foldl_cons, List.foldl_nil, List.flatMap_cons, List.flatMap_nil, List.append_nil]
      exact placeBeat_zeros channelWaves _ rest length (by omega)
    · simp only [List.length_append, length, List.flatMap_cons, List.flatMap_nil, List.append_nil,
        length_beat channelWaves (show count < maxSamples channelWaves / 4 by omega)]
      omega

theorem pack_image :
    (packInterleaved512bWaveforms channelWaves).1 =
      (List.range (maxSamples channelWaves / 4)).flatMap (beat channelWaves) := by
  by_cases empty : channelWaves.isEmpty = true
  · rw [packInterleaved512bWaveforms, if_pos empty]
    rw [List.isEmpty_iff] at empty
    subst empty
    rfl
  · have placed := (placeBeat_foldl channelWaves 0 (Nat.le_refl _)).1
    rw [packInterleaved512bWaveforms, if_neg empty]
    rw [Nat.add_zero, List.replicate_zero, List.append_nil, Nat.mul_comm] at placed
    exact placed

/-- A place in a list of blocks of one length. -/
theorem getElem?_flatMap_blocks {α β : Type} (f : α → List β) {size : Nat} {l : List α}
    (blocks : ∀ a ∈ l, (f a).length = size) {position offset : Nat} (inside : position < l.length)
    (small : offset < size) : (l.flatMap f)[size * position + offset]? = (f l[position])[offset]? := by
  induction l generalizing position with
  | nil => simp at inside
  | cons first rest ih =>
    have length : (f first).length = size := blocks first List.mem_cons_self
    rw [List.flatMap_cons]
    cases position with
    | zero =>
      rw [Nat.mul_zero, Nat.zero_add, List.getElem?_append_left (by omega)]
      rfl
    | succ position =>
      rw [Nat.mul_succ, List.getElem?_append_right (by omega), length,
        show size * position + size + offset - size = size * position + offset by omega,
        ih (fun a member => blocks a (List.mem_cons_of_mem first member)) (by simpa using inside)]
      rfl

theorem length_image :
    (packInterleaved512bWaveforms channelWaves).1.length = 256 * (maxSamples channelWaves / 16) := by
  have whole := (maxSamples_spec channelWaves).2
  rw [pack_image, (placeBeat_foldl channelWaves 0 (Nat.le_refl _)).2]
  omega

/-- A byte of the image is a byte of its channel's waveform, or zero behind its end. -/
theorem image_getD {beatIndex byte : Nat} (inside : beatIndex < maxSamples channelWaves / 4)
    (channel : Fin 8) (small : byte < 8) :
    (packInterleaved512bWaveforms channelWaves).1.getD (64 * beatIndex + 8 * channel + byte) 0 =
      (waveformBytes (normalized channelWaves (channel + 1))).getD (8 * beatIndex + byte) 0 := by
  have named : channel.val + 1 ∈ channels := by
    rw [channels, List.mem_range'_1, ddrInterleavedChannels]
    omega
  have beats : ∀ b ∈ List.range (maxSamples channelWaves / 4), (beat channelWaves b).length = 64 :=
    fun b member => length_beat channelWaves (List.mem_range.mp member)
  have groups : ∀ c ∈ channels, (group channelWaves beatIndex c).length = 8 :=
    fun c member => length_group channelWaves member inside
  have count : channels.length = 8 := rfl
  have bound := channel.isLt
  have within : channel.val < channels.length := by omega
  have at_channel : channels[channel.val] = channel.val + 1 := by
    simp only [channels, List.getElem_range']
    omega
  rw [pack_image, List.getD_eq_getElem?_getD, Nat.add_assoc,
    getElem?_flatMap_blocks _ beats (by simpa using inside) (by omega), List.getElem_range, beat,
    getElem?_flatMap_blocks _ groups (by omega) small, at_channel, group_getElem? _ _ _ small,
    ← List.getD_eq_getElem?_getD, packed_getD channelWaves named]

end Image

/-! ## The address of a group -/

/-- The place `interleaved_ddr_addr` names for an eight-byte group of a channel. -/
theorem interleavedDdrAddr_group (channel : Fin 8) (beatIndex baseAddr : Nat) (aligned : baseAddr % 32 = 0) :
    interleavedDdrAddr (channel + 1 : Nat) (8 * beatIndex : Nat) baseAddr =
      .ok (baseAddr + 64 * beatIndex + 8 * channel : Nat) := by
  have bound := channel.isLt
  have in_range : 0 ≤ ((channel.val + 1 : Nat) : Int) - 1 ∧
      ((channel.val + 1 : Nat) : Int) - 1 < (ddrInterleavedChannels : Nat) := by
    simp only [ddrInterleavedChannels]
    omega
  have at_group : ¬ (((8 * beatIndex : Nat) : Int) < 0 ∨
      ((8 * beatIndex : Nat) : Int) % (ddrInterleavedLaneBytes : Nat) ≠ 0) := by
    simp only [ddrInterleavedLaneBytes]
    omega
  have at_beat : ¬ ((baseAddr : Int) % (beatBytes : Nat) ≠ 0) := by
    simp only [beatBytes]
    omega
  unfold interleavedDdrAddr requireBeatAligned
  rw [if_neg (not_not_intro in_range), if_neg at_group, if_neg at_beat]
  change Except.ok _ = Except.ok _
  congr 1
  simp only [ddrInterleavedLaneBytes, ddrInterleavedBeatBytes, ddrInterleavedChannels]
  omega

end Xczu47dr.Host
