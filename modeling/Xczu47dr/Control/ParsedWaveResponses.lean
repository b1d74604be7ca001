import Xczu47dr.Clocked.Machine
import Xczu47dr.Control.ResponsePath
import Xczu47dr.Control.ResponseStream
import Xczu47dr.Host.WaveProtocol

/-! # The waveform responses as the host reads them

The words of `waveform_response_serializer` are the packed fields of its event, in
the layout `parse_wave_response` unpacks.
-/

namespace Xczu47dr.Control

open Clocked Wire Host

namespace WaveEvent

variable (e : WaveEvent)

/-! ## The fields in a packet -/

def headerFields : List (Nat × Nat) :=
  [(8, magic.toNat), (8, (e.opcode ++ e.status ++ 1#16 : BitVec 64).toNat),
    (8, ((if e.opcode = 2 then 60#32 else if e.opcode = 8 then 80#32 else 28#32) ++ e.seq : BitVec 64).toNat)]

def commonFields : List (Nat × Nat) :=
  [(4, e.session.toNat), (4, e.state.toNat), (4, e.status.toNat), (4, e.errorCode.toNat), (4, e.descriptor.toNat),
    (8, e.errorOffset.toNat)]

def acknowledgementFields : List (Nat × Nat) :=
  [(4, e.ackPacketSeq.toNat), (4, e.nextExpectedSequence.toNat), (8, e.receivedBytes.toNat),
    (8, e.firstErrorOffset.toNat), (4, e.expectedCrc.toNat), (4, e.actualCrc.toNat)]

/-- The levels of the eight FIFOs, sixteen bits each. -/
def levels : List Nat := (List.range 8).map fun k => (e.fifoLevels.extractLsb' (16 * k) 16).toNat

def statusFields : List (Nat × Nat) :=
  [(4, e.currentBeat.toNat), (4, e.loopPosition.toNat), (4, e.loopCount.toNat),
    (4, (0#16 ++ e.layout ++ e.channelMask : BitVec 32).toNat)] ++ e.levels.map (Prod.mk 2) ++
    [(4, e.errorCount.toNat), (4, e.underflowCount.toNat), (4, e.triggerSeenCount.toNat),
      (4, e.triggerDroppedCount.toNat), (4, e.triggerFireCount.toNat)]

theorem littleEndian_halves (high low : BitVec 32) :
    littleEndian 8 (high ++ low : BitVec 64).toNat = littleEndian 4 low.toNat ++ littleEndian 4 high.toNat :=
  littleEndian_append 4 4 high low rfl

theorem littleEndian_double (value : BitVec 64) :
    littleEndian 8 value.toNat =
      littleEndian 4 (value.extractLsb' 0 32).toNat ++ littleEndian 4 (value.extractLsb' 32 32).toNat := by
  have slice := littleEndian_slice 4 4 value 0
  rwa [BitVec.extractLsb'_eq_self] at slice

/-- The first words carry the header and the common fields, up to half of the last one. -/
theorem wordBytes_commonWords : wordBytes e.commonWords =
    pack e.headerFields ++ pack (e.commonFields.take 5) ++ littleEndian 4 (e.errorOffset.extractLsb' 0 32).toNat := by
  have status : littleEndian 8 (e.errorCode ++ 0#16 ++ e.status : BitVec 64).toNat =
      littleEndian 4 e.status.toNat ++ littleEndian 4 e.errorCode.toNat := by
    have padded := littleEndian_zeros 2 2 (x := e.status.toNat) e.status.isLt
    have high := littleEndian_append 2 4 e.errorCode 0#16 rfl
    exact (littleEndian_append 2 6 (e.errorCode ++ 0#16) e.status rfl).trans (by
      rw [high, ← List.append_assoc]
      exact congrArg (· ++ _) padded.symm)
  simp only [commonWords, wordBytes_cons, wordBytes_nil, status, littleEndian_halves, pack, headerFields, commonFields,
    List.take_succ_cons, List.take_zero, List.flatMap_cons, List.flatMap_nil, List.append_assoc, List.append_nil]

theorem pack_commonFields : pack e.commonFields =
    pack (e.commonFields.take 5) ++ (littleEndian 4 (e.errorOffset.extractLsb' 0 32).toNat ++
      littleEndian 4 (e.errorOffset.extractLsb' 32 32).toNat) := by
  rw [← littleEndian_double]
  simp only [pack, commonFields, List.take_succ_cons, List.take_zero, List.flatMap_cons, List.flatMap_nil,
    List.append_assoc, List.append_nil]

/-- The rest of the common fields, the extension and the padding. -/
def tail : List Wire.Byte :=
  littleEndian 4 (e.errorOffset.extractLsb' 32 32).toNat ++
    if e.opcode = 2 then pack e.acknowledgementFields ++ littleEndian 4 0
    else if e.opcode = 8 then pack e.statusFields
    else littleEndian 4 0

theorem wordBytes_acknowledgement : wordBytes
    [e.ackPacketSeq ++ e.errorOffset.extractLsb' 32 32,
      e.receivedBytes.extractLsb' 0 32 ++ e.nextExpectedSequence,
      e.firstErrorOffset.extractLsb' 0 32 ++ e.receivedBytes.extractLsb' 32 32,
      e.expectedCrc ++ e.firstErrorOffset.extractLsb' 32 32,
      0#32 ++ e.actualCrc] =
    littleEndian 4 (e.errorOffset.extractLsb' 32 32).toNat ++ (pack e.acknowledgementFields ++ littleEndian 4 0) := by
  simp only [wordBytes_cons, wordBytes_nil, littleEndian_halves, pack, acknowledgementFields, List.flatMap_cons,
    List.flatMap_nil, List.append_assoc, List.append_nil]
  rw [littleEndian_double e.receivedBytes, littleEndian_double e.firstErrorOffset]
  simp only [List.append_assoc]
  rfl

theorem wordBytes_status : wordBytes
    [e.currentBeat ++ e.errorOffset.extractLsb' 32 32,
      e.loopCount ++ e.loopPosition,
      e.fifoLevels.extractLsb' 0 32 ++ 0#16 ++ e.layout ++ e.channelMask,
      e.fifoLevels.extractLsb' 64 32 ++ e.fifoLevels.extractLsb' 32 32,
      e.errorCount ++ e.fifoLevels.extractLsb' 96 32,
      e.triggerSeenCount ++ e.underflowCount,
      e.triggerFireCount ++ e.triggerDroppedCount] =
    littleEndian 4 (e.errorOffset.extractLsb' 32 32).toNat ++ pack e.statusFields := by
  -- the channel mask and the layout
  have lanes : littleEndian 8 (e.fifoLevels.extractLsb' 0 32 ++ 0#16 ++ e.layout ++ e.channelMask : BitVec 64).toNat =
      littleEndian 4 (0#16 ++ e.layout ++ e.channelMask : BitVec 32).toNat ++
        littleEndian 4 (e.fifoLevels.extractLsb' 0 32).toNat := by
    have word := littleEndian_append 1 7 (e.fifoLevels.extractLsb' 0 32 ++ 0#16 ++ e.layout) e.channelMask rfl
    have second := littleEndian_append 1 6 (e.fifoLevels.extractLsb' 0 32 ++ 0#16) e.layout rfl
    have third := littleEndian_append 2 4 (e.fifoLevels.extractLsb' 0 32) 0#16 rfl
    have low := littleEndian_append 1 3 (0#16 ++ e.layout) e.channelMask rfl
    have middle := littleEndian_append 1 2 0#16 e.layout rfl
    refine word.trans ?_
    rw [second, third]
    refine Eq.trans ?_ (congrArg (· ++ littleEndian 4 (e.fifoLevels.extractLsb' 0 32).toNat) low.symm)
    rw [middle]
    simp only [List.append_assoc]
  have two (start : Nat) : littleEndian 4 (e.fifoLevels.extractLsb' start 32).toNat =
      littleEndian 2 (e.fifoLevels.extractLsb' start 16).toNat ++
        littleEndian 2 (e.fifoLevels.extractLsb' (start + 16) 16).toNat := littleEndian_slice 2 2 e.fifoLevels start
  have levels : pack (e.levels.map (Prod.mk 2)) =
      littleEndian 4 (e.fifoLevels.extractLsb' 0 32).toNat ++ littleEndian 4 (e.fifoLevels.extractLsb' 32 32).toNat ++
        littleEndian 4 (e.fifoLevels.extractLsb' 64 32).toNat ++
        littleEndian 4 (e.fifoLevels.extractLsb' 96 32).toNat := by
    rw [two, two, two, two]
    simp only [WaveEvent.levels, pack, List.append_assoc]
    rfl
  have fields : pack e.statusFields = pack (e.statusFields.take 4) ++ pack (e.levels.map (Prod.mk 2)) ++
      pack (e.statusFields.drop 12) := by
    simp only [statusFields, pack, List.flatMap_append]
    rfl
  rw [fields, levels]
  simp only [wordBytes_cons, wordBytes_nil, littleEndian_halves, lanes, pack, statusFields, List.append_assoc,
    List.append_nil]
  rfl

/-- A packet is its header, the common fields, the fields of its extension and the padding. -/
theorem wordBytes_words : wordBytes e.words =
    pack e.headerFields ++ (pack (e.commonFields.take 5) ++
      (littleEndian 4 (e.errorOffset.extractLsb' 0 32).toNat ++ e.tail)) := by
  have rest : wordBytes (if e.opcode = 2 then
      [e.ackPacketSeq ++ e.errorOffset.extractLsb' 32 32,
        e.receivedBytes.extractLsb' 0 32 ++ e.nextExpectedSequence,
        e.firstErrorOffset.extractLsb' 0 32 ++ e.receivedBytes.extractLsb' 32 32,
        e.expectedCrc ++ e.firstErrorOffset.extractLsb' 32 32,
        0#32 ++ e.actualCrc]
    else if e.opcode = 8 then
      [e.currentBeat ++ e.errorOffset.extractLsb' 32 32,
        e.loopCount ++ e.loopPosition,
        e.fifoLevels.extractLsb' 0 32 ++ 0#16 ++ e.layout ++ e.channelMask,
        e.fifoLevels.extractLsb' 64 32 ++ e.fifoLevels.extractLsb' 32 32,
        e.errorCount ++ e.fifoLevels.extractLsb' 96 32,
        e.triggerSeenCount ++ e.underflowCount,
        e.triggerFireCount ++ e.triggerDroppedCount]
    else [0#32 ++ e.errorOffset.extractLsb' 32 32]) = e.tail := by
    unfold tail
    split
    · exact e.wordBytes_acknowledgement
    · split
      · exact e.wordBytes_status
      · exact (List.append_nil _).trans (littleEndian_halves 0 (e.errorOffset.extractLsb' 32 32))
  rw [words, wordBytes_append, wordBytes_commonWords, rest, List.append_assoc, List.append_assoc]

/-! ## The parsed packet -/

def extension : WaveExtension :=
  if e.opcode = 2 then
    .data
      { ackPacketSeq := e.ackPacketSeq.toNat
        nextExpectedSequence := e.nextExpectedSequence.toNat
        receivedBytes := e.receivedBytes.toNat
        firstErrorOffset := e.firstErrorOffset.toNat
        expectedCrc := e.expectedCrc.toNat
        actualCrc := e.actualCrc.toNat }
  else if e.opcode = 8 then
    .status
      { currentBeat := e.currentBeat.toNat
        loopPosition := e.loopPosition.toNat
        loopCount := e.loopCount.toNat
        channelMask := e.channelMask.toNat
        layout := e.layout.toNat
        fifoLevels := e.levels
        errorCount := e.errorCount.toNat
        underflowCount := e.underflowCount.toNat
        triggerSeenCount := e.triggerSeenCount.toNat
        triggerDroppedCount := e.triggerDroppedCount.toNat
        triggerFireCount := e.triggerFireCount.toNat }
  else .common

def payload : List Wire.Byte :=
  pack e.commonFields ++
    if e.opcode = 2 then pack e.acknowledgementFields else if e.opcode = 8 then pack e.statusFields else []

def response (stateName : String) : WaveResponse where
  version := 1
  opcode := e.opcode.toNat
  flags := e.status.toNat
  seq := e.seq.toNat
  payloadBytes := e.payload.length
  payload := e.payload
  session := e.session.toNat
  state := e.state.toNat
  stateName := stateName
  status := e.status.toNat
  errorCode := e.errorCode.toNat
  descriptor := e.descriptor.toNat
  errorOffset := e.errorOffset.toNat
  extension := e.extension

theorem fits_word {n : Nat} (width : Nat) (value : BitVec n) (bits : n = 8 * width) : value.toNat < 256 ^ width := by
  have size : 2 ^ n = 256 ^ width := by rw [bits, Nat.pow_mul]
  exact size ▸ value.isLt

theorem header_numbers (version status : BitVec 16) (opcode bytes seq : BitVec 32) :
    (opcode ++ status ++ version : BitVec 64).toNat &&& 0xFFFF = version.toNat ∧
      (opcode ++ status ++ version : BitVec 64).toNat >>> 32 = opcode.toNat ∧
      ((opcode ++ status ++ version : BitVec 64).toNat >>> 16) &&& 0xFFFF = status.toNat ∧
      (bytes ++ seq : BitVec 64).toNat >>> 32 = bytes.toNat ∧
      (bytes ++ seq : BitVec 64).toNat &&& 0xFFFFFFFF = seq.toNat := by
  have upper : (opcode ++ status ++ version : BitVec 64).toNat >>> 16 = (opcode ++ status).toNat :=
    toNat_append_shiftRight (opcode ++ status) version
  refine ⟨toNat_append_and _ version, ?_, ?_, toNat_append_shiftRight bytes seq, toNat_append_and bytes seq⟩
  · calc (opcode ++ status ++ version : BitVec 64).toNat >>> 32
        = (opcode ++ status ++ version : BitVec 64).toNat >>> 16 >>> 16 := Nat.shiftRight_add _ 16 16
      _ = (opcode ++ status).toNat >>> 16 := by rw [upper]
      _ = opcode.toNat := toNat_append_shiftRight opcode status
  · rw [upper]
    exact toNat_append_and opcode status

def padding : List Wire.Byte := if e.opcode = 8 then [] else littleEndian 4 0

theorem wordBytes_parts : wordBytes e.words = pack e.headerFields ++ (e.payload ++ e.padding) := by
  rw [wordBytes_words, payload, pack_commonFields, tail, padding]
  by_cases data : e.opcode = 2
  · have other : e.opcode ≠ 8 := by rw [data]; decide
    simp only [if_pos data, if_neg other, List.append_assoc]
  · by_cases status : e.opcode = 8
    · simp only [if_neg data, if_pos status, List.append_assoc, List.append_nil]
    · simp only [if_neg data, if_neg status, List.append_assoc, List.append_nil]

theorem opcode_eq_iff (code : Nat) (small : code < 2 ^ 32) : e.opcode = BitVec.ofNat 32 code ↔ e.opcode.toNat = code := by
  rw [← BitVec.toNat_inj, BitVec.toNat_ofNat, Nat.mod_eq_of_lt small]

theorem commonFields_widths : e.commonFields.map Prod.fst = [4, 4, 4, 4, 4, 8] := rfl

theorem acknowledgementFields_widths : e.acknowledgementFields.map Prod.fst = [4, 4, 8, 8, 4, 4] := rfl

theorem statusFields_widths :
    e.statusFields.map Prod.fst = [4, 4, 4, 4] ++ List.replicate 8 2 ++ [4, 4, 4, 4, 4] := rfl

theorem length_payload : e.payload.length = waveResponseBytes e.opcode.toNat := by
  have data : e.opcode = 2 ↔ e.opcode.toNat = 2 := e.opcode_eq_iff 2 (by decide)
  have status : e.opcode = 8 ↔ e.opcode.toNat = 8 := e.opcode_eq_iff 8 (by decide)
  rw [payload, List.length_append, length_pack, commonFields_widths, waveResponseBytes, waveOpData, waveOpStatus]
  simp only [← data, ← status]
  split
  · rw [length_pack, acknowledgementFields_widths]
    rfl
  · split
    · rw [length_pack, statusFields_widths]
      rfl
    · rfl

/-- The size in the header is that of the payload. -/
theorem size_eq : (if e.opcode = 2 then 60#32 else if e.opcode = 8 then 80#32 else 28#32).toNat = e.payload.length := by
  have data : e.opcode = 2 ↔ e.opcode.toNat = 2 := e.opcode_eq_iff 2 (by decide)
  have status : e.opcode = 8 ↔ e.opcode.toNat = 8 := e.opcode_eq_iff 8 (by decide)
  rw [length_payload, waveResponseBytes, waveOpData, waveOpStatus]
  simp only [← data, ← status]
  split
  · rfl
  · split <;> rfl

theorem length_padding : e.payload.length + e.padding.length = (e.payload.length + 7) / 8 * 8 := by
  have status : e.opcode = 8 ↔ e.opcode.toNat = 8 := e.opcode_eq_iff 8 (by decide)
  rw [length_payload, padding, waveResponseBytes, waveOpData, waveOpStatus]
  simp only [status]
  split_ifs <;> first | rfl | omega

theorem commonFields_fit : ∀ field ∈ e.commonFields, field.2 < 256 ^ field.1 := by
  simp only [commonFields, List.forall_mem_cons]
  refine ⟨fits_word 4 _ rfl, fits_word 4 _ rfl, ?_, fits_word 4 _ rfl, fits_word 4 _ rfl, fits_word 8 _ rfl, nofun⟩
  exact Nat.lt_trans (fits_word 2 e.status rfl) (by decide)

theorem headerFields_fit : ∀ field ∈ e.headerFields, field.2 < 256 ^ field.1 := by
  simp only [headerFields, List.forall_mem_cons]
  exact ⟨fits_word 8 _ rfl, fits_word 8 _ rfl, fits_word 8 _ rfl, nofun⟩

theorem acknowledgementFields_fit : ∀ field ∈ e.acknowledgementFields, field.2 < 256 ^ field.1 := by
  simp only [acknowledgementFields, List.forall_mem_cons]
  exact ⟨fits_word 4 _ rfl, fits_word 4 _ rfl, fits_word 8 _ rfl, fits_word 8 _ rfl, fits_word 4 _ rfl,
    fits_word 4 _ rfl, nofun⟩

theorem statusFields_fit : ∀ field ∈ e.statusFields, field.2 < 256 ^ field.1 := by
  intro field among
  rw [statusFields, List.append_assoc, List.mem_append, List.mem_append] at among
  rcases among with front | levels | back
  · revert field
    simp only [List.forall_mem_cons]
    exact ⟨fits_word 4 _ rfl, fits_word 4 _ rfl, fits_word 4 _ rfl, fits_word 4 _ rfl, nofun⟩
  · obtain ⟨level, among, rfl⟩ := List.mem_map.mp levels
    obtain ⟨k, -, rfl⟩ := List.mem_map.mp among
    exact fits_word 2 _ rfl
  · revert field
    simp only [List.forall_mem_cons]
    exact ⟨fits_word 4 _ rfl, fits_word 4 _ rfl, fits_word 4 _ rfl, fits_word 4 _ rfl, fits_word 4 _ rfl, nofun⟩

theorem parseExtension_payload : parseExtension e.opcode.toNat e.payload = .ok e.extension := by
  have data : e.opcode = 2 ↔ e.opcode.toNat = 2 := e.opcode_eq_iff 2 (by decide)
  have status : e.opcode = 8 ↔ e.opcode.toNat = 8 := e.opcode_eq_iff 8 (by decide)
  have behind (rest : List Wire.Byte) : (pack e.commonFields ++ rest).drop waveResponseCommonBytes = rest :=
    List.drop_left' (by rw [length_pack, commonFields_widths]; rfl)
  rw [parseExtension, payload, behind, extension, waveOpData, waveOpStatus]
  simp only [← data, ← status]
  split
  · have fields := unpack_pack_self e.acknowledgementFields_fit
    rw [acknowledgementFields_widths] at fields
    rw [fields]
    rfl
  · split
    · have fields := unpack_pack_self e.statusFields_fit
      rw [statusFields_widths] at fields
      have lanes : (0#16 ++ e.layout ++ e.channelMask : BitVec 32).toNat &&& 0xFF = e.channelMask.toNat ∧
          ((0#16 ++ e.layout ++ e.channelMask : BitVec 32).toNat >>> 8) &&& 0xFF = e.layout.toNat := by
        have upper : (0#16 ++ e.layout ++ e.channelMask : BitVec 32).toNat >>> 8 = (0#16 ++ e.layout).toNat :=
          toNat_append_shiftRight (0#16 ++ e.layout) e.channelMask
        refine ⟨toNat_append_and _ e.channelMask, ?_⟩
        rw [upper]
        exact toNat_append_and 0#16 e.layout
      rw [fields, ← lanes.1, ← lanes.2]
      rfl
    · rfl

/-- The host reads the words of an event as its fields. -/
theorem parse_words {stateName : String} (known : waveformStateName e.state.toNat = some stateName)
    (low : 1 ≤ e.opcode.toNat) (high : e.opcode.toNat ≤ 8) :
    parseWaveResponse (wordBytes e.words) true = .ok (e.response stateName) := by
  have header_length : (pack e.headerFields).length = waveResponseHeaderBytes := length_pack _
  have length : (wordBytes e.words).length = waveResponseHeaderBytes + (e.payload.length + 7) / 8 * 8 := by
    rw [wordBytes_parts, List.length_append, List.length_append, header_length, length_padding]
  have behind : (wordBytes e.words).drop waveResponseHeaderBytes = e.payload ++ e.padding := by
    rw [wordBytes_parts]
    exact List.drop_left' header_length
  have payload : ((wordBytes e.words).drop waveResponseHeaderBytes).take e.payload.length = e.payload := by
    rw [behind]
    exact List.take_left' rfl
  have clean : ((wordBytes e.words).drop (waveResponseHeaderBytes + e.payload.length)).any (· ≠ 0) = false := by
    rw [← List.drop_drop, behind, List.drop_left' rfl, padding]
    split <;> rfl
  have header : unpack [8, 8, 8] (wordBytes e.words) = some [WaveEvent.magic.toNat,
      (e.opcode ++ e.status ++ 1#16 : BitVec 64).toNat,
      ((if e.opcode = 2 then 60#32 else if e.opcode = 8 then 80#32 else 28#32) ++ e.seq : BitVec 64).toNat] := by
    rw [wordBytes_parts]
    exact unpack_pack e.headerFields_fit
  have common : unpack [4, 4, 4, 4, 4, 8] e.payload = some [e.session.toNat, e.state.toNat, e.status.toNat,
      e.errorCode.toNat, e.descriptor.toNat, e.errorOffset.toNat] := unpack_pack e.commonFields_fit
  obtain ⟨version, opcode, status, size, seq⟩ := header_numbers 1#16 e.status e.opcode
    (if e.opcode = 2 then 60#32 else if e.opcode = 8 then 80#32 else 28#32) e.seq
  rw [e.size_eq] at size
  have announced : ¬ e.payload.length ≠ waveResponseBytes e.opcode.toNat := fun differs => differs e.length_payload
  unfold parseWaveResponse
  rw [if_neg (by rw [length]; omega), header]
  simp only [version, opcode, status, size, seq, payload, clean, common, known, e.parseExtension_payload]
  rw [if_neg (by decide), if_neg (by decide), if_neg (by simpa using ⟨low, high⟩), if_neg announced,
    if_neg (by rw [length]; simp), if_neg Bool.false_ne_true, if_neg (by simp)]
  rfl

end WaveEvent

/-! ## The words on the stream -/

/-- What the serializer samples at one clock edge. -/
structure SerializerIn where
  eventValid : Bool
  event : WaveEvent
  ready : Bool

def responseSerializer : Machine SerializerIn ResponseSerializer where
  reset := .reset
  step s i := s.step i.eventValid i.event i.ready

namespace ResponseSerializer

variable {e : WaveEvent} {k : Nat} {s : ResponseSerializer} {i : SerializerIn}

/-- The word handed over in this cycle, with `response_last`. -/
def delivered (s : ResponseSerializer) (i : SerializerIn) : List (BitVec 64 × Bool) :=
  if s.active && i.ready then [(s.data, s.last)] else []

/-- The serializer is at word `k` of an event. -/
structure Sends (e : WaveEvent) (k : Nat) (s : ResponseSerializer) : Prop where
  active : s.active = true
  words : s.words = e.words
  wordCount : s.wordCount = e.words.length
  wordIndex : s.wordIndex = k
  inside : k < e.words.length

theorem Sends.atEnd (sends : s.Sends e k) : s.atEnd = decide (k + 1 = e.words.length) := by
  have small := e.length_words
  rw [ResponseSerializer.atEnd, sends.wordCount, sends.wordIndex, Bool.beq_eq_decide_eq]
  apply decide_eq_decide.mpr
  omega

theorem Sends.delivers (sends : s.Sends e k) (ready : i.ready = true) :
    framed (e.words.drop k) = s.delivered i ++ framed (e.words.drop (k + 1)) := by
  have inside := sends.inside
  have last : (e.words.drop (k + 1)).isEmpty = decide (k + 1 = e.words.length) := by
    rw [Bool.eq_iff_iff, List.isEmpty_iff, List.drop_eq_nil_iff, decide_eq_true_eq]
    omega
  rw [delivered, sends.active, ready, ResponseSerializer.last, sends.active, sends.atEnd, data, sends.active, sends.words,
    sends.wordIndex, List.drop_eq_getElem_cons inside, framed_cons, last, List.getD_eq_getElem _ _ inside]
  rfl

theorem Sends.step (sends : s.Sends e k) : responseSerializer.step s i =
    if i.ready then
      if k + 1 = e.words.length then { s with active := false, wordIndex := 0 }
      else { s with wordIndex := k + 1 }
    else s := by
  have small := e.length_words
  have inside := sends.inside
  have next : (s.wordIndex + 1) % 32 = k + 1 := by
    rw [sends.wordIndex]
    omega
  change s.step i.eventValid i.event i.ready = _
  rw [ResponseSerializer.step, takes, sends.active, Bool.not_true, Bool.false_and, if_neg Bool.false_ne_true,
    Bool.true_and, sends.atEnd, next]
  simp only [decide_eq_true_eq]

theorem Sends.stalls (sends : s.Sends e k) (unready : i.ready = false) : (responseSerializer.step s i).Sends e k := by
  rw [sends.step, unready, if_neg Bool.false_ne_true]
  exact sends

theorem Sends.advances (sends : s.Sends e k) (ready : i.ready = true) (more : k + 1 < e.words.length) :
    (responseSerializer.step s i).Sends e (k + 1) := by
  rw [sends.step, ready, if_pos rfl, if_neg (Nat.ne_of_lt more)]
  exact ⟨sends.active, sends.words, sends.wordCount, rfl, more⟩

/-- Whatever the pattern of `ready`, the next words handed over are the next words of the event. -/
theorem Sends.log (sends : s.Sends e k) (is : List SerializerIn) :
    (responseSerializer.log delivered s is).take (e.words.length - k) =
      (framed (e.words.drop k)).take (is.countP (·.ready)) := by
  induction is generalizing s k with
  | nil => simp
  | cons i is ih =>
    have inside := sends.inside
    rw [Machine.log_cons, List.countP_cons]
    cases ready : i.ready with
    | false =>
      have none : s.delivered i = [] := by rw [delivered, ready, Bool.and_false, if_neg Bool.false_ne_true]
      rw [none, List.nil_append]
      exact ih (sends.stalls ready)
    | true =>
      have one : s.delivered i = [(s.data, s.last)] := by rw [delivered, ready, sends.active]; rfl
      have left : e.words.length - k = e.words.length - (k + 1) + 1 := by omega
      rw [sends.delivers ready, one, left, List.singleton_append, List.singleton_append, List.take_succ_cons]
      rw [if_pos rfl, List.take_succ_cons]
      congr 1
      by_cases more : k + 1 < e.words.length
      · exact ih (sends.advances ready more)
      · rw [List.drop_eq_nil_of_le (by omega), Nat.sub_eq_zero_of_le (by omega), List.take_zero, framed,
          List.take_nil]

/-- While words are left the announced length is that of the event. -/
theorem Sends.run (sends : s.Sends e k) (is : List SerializerIn) (left : k + is.countP (·.ready) < e.words.length) :
    (responseSerializer.run s is).Sends e (k + is.countP (·.ready)) := by
  induction is generalizing s k with
  | nil => exact sends
  | cons i is ih =>
    rw [List.countP_cons] at left ⊢
    cases ready : i.ready with
    | false =>
      rw [ready] at left
      exact ih (sends.stalls ready) left
    | true =>
      rw [ready, if_pos rfl] at left
      rw [if_pos rfl, Nat.add_comm _ 1, ← Nat.add_assoc]
      exact ih (sends.advances ready (by omega)) (by omega)

theorem sends_of_taken (idle : s.active = false) (offered : i.eventValid = true) :
    (responseSerializer.step s i).Sends i.event 0 := by
  have taken : s.takes i.eventValid = true := by rw [takes, idle, offered]; rfl
  have small := i.event.length_words
  change (s.step i.eventValid i.event i.ready).Sends i.event 0
  rw [ResponseSerializer.step, if_pos taken]
  exact ⟨rfl, rfl, rfl, rfl, by omega⟩

theorem framed_map (words : List (BitVec 64)) : (framed words).map Prod.fst = words := by
  induction words with
  | nil => rfl
  | cons word words ih => rw [framed_cons, List.map_cons, ih]

theorem length_framed (words : List (BitVec 64)) : (framed words).length = words.length := by
  rw [← List.length_map Prod.fst, framed_map]

/-- An event that is taken leaves as one packet, which the host reads as the event. -/
theorem response_round_trip {first : SerializerIn} (idle : s.active = false) (offered : first.eventValid = true)
    (event : first.event = e) (low : 1 ≤ e.opcode.toNat) (high : e.opcode.toNat ≤ 8) (state : e.state.toNat ≤ 8)
    (is : List SerializerIn) :
    (responseSerializer.log delivered (responseSerializer.step s first) is).take e.words.length =
        (framed e.words).take (is.countP (·.ready)) ∧
      (is.countP (·.ready) < e.words.length →
        (responseSerializer.run (responseSerializer.step s first) is).responseWordCount = e.words.length) ∧
      ∃ stateName, waveformStateName e.state.toNat = some stateName ∧
        (e.words.length ≤ is.countP (·.ready) → parseWaveResponse (wordBytes
          (((responseSerializer.log delivered (responseSerializer.step s first) is).take e.words.length).map Prod.fst))
            true = .ok (e.response stateName)) := by
  have sends : (responseSerializer.step s first).Sends e 0 := event ▸ sends_of_taken idle offered
  have log := sends.log is
  rw [Nat.sub_zero, List.drop_zero] at log
  have named : ∀ code ≤ 8, (waveformStateName code).isSome = true := by decide
  obtain ⟨stateName, known⟩ := Option.isSome_iff_exists.mp (named e.state.toNat state)
  refine ⟨log, fun left => ?_, stateName, known, fun enough => ?_⟩
  · have under := sends.run is (by omega)
    rw [responseWordCount, under.active, if_pos rfl, under.wordCount]
  · rw [log, List.take_of_length_le (by rw [length_framed]; exact enough), framed_map]
    exact e.parse_words known low high

def playingStatus : WaveEvent :=
  { (default : WaveEvent) with
    seq := 9
    opcode := 8
    session := 0x11223344
    state := 5
    loopPosition := 2
    loopCount := 3
    channelMask := 0x81
    layout := 1
    fifoLevels := 0x00070006000500040003000200010000 }

def playingOffer : SerializerIn := ⟨true, playingStatus, false⟩

/-- The transmitter takes every second word. -/
def everySecond : List SerializerIn := (List.range 26).map fun k => ⟨false, default, k % 2 == 1⟩

theorem playingStatus_round_trip : ∃ stateName, waveformStateName 5 = some stateName ∧
    parseWaveResponse (wordBytes (((responseSerializer.log delivered
      (responseSerializer.step .reset playingOffer) everySecond).take 13).map Prod.fst)) true =
        .ok (playingStatus.response stateName) := by
  have idle : ResponseSerializer.reset.active = false := rfl
  have offered : playingOffer.eventValid = true := rfl
  have event : playingOffer.event = playingStatus := rfl
  have round := response_round_trip idle offered event (by decide) (by decide) (by decide) everySecond
  obtain ⟨stateName, known, parses⟩ := round.2.2
  exact ⟨stateName, known, parses (by decide)⟩

example : (playingStatus.response "playing").extension = .status ⟨0, 2, 3, 0x81, 1, List.range 8, 0, 0, 0, 0, 0⟩ := by decide

end ResponseSerializer

end Xczu47dr.Control
