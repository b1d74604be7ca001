import Xczu47dr.Host.PackedWaves
import Xczu47dr.Upload.PacketVerdicts

/-! # The words of a packed request

A packet of `pack_wave_*` as the words the writer takes.  The writer reads a word by its
halves, so the words are given by theirs; what they register are the packed fields.
-/

namespace Xczu47dr.Upload

open UploadWriter Wire

/-! ## A word of two halves -/

def wordOf (lo hi : Nat) : Word := BitVec.ofNat 64 (lo + 2 ^ 32 * hi)

section Halves

variable {lo hi : Nat}

theorem low_eq (w : Word) : low w = w.toNat % 2 ^ 32 := by
  rw [low, BitVec.extractLsb'_toNat, Nat.shiftRight_zero]

theorem high_eq (w : Word) : high w = w.toNat / 2 ^ 32 := by
  have below := w.isLt
  rw [high, BitVec.extractLsb'_toNat, Nat.shiftRight_eq_div_pow]
  omega

theorem toNat_wordOf (lo_lt : lo < 2 ^ 32) (hi_lt : hi < 2 ^ 32) : (wordOf lo hi).toNat = lo + 2 ^ 32 * hi := by
  rw [wordOf, BitVec.toNat_ofNat]
  omega

theorem low_wordOf (lo_lt : lo < 2 ^ 32) (hi_lt : hi < 2 ^ 32) : low (wordOf lo hi) = lo := by
  rw [low_eq, toNat_wordOf lo_lt hi_lt]
  omega

theorem high_wordOf (lo_lt : lo < 2 ^ 32) (hi_lt : hi < 2 ^ 32) : high (wordOf lo hi) = hi := by
  rw [high_eq, toNat_wordOf lo_lt hi_lt]
  omega

theorem wordOf_halves (w : Word) : wordOf (low w) (high w) = w := by
  have below := w.isLt
  apply BitVec.eq_of_toNat_eq
  rw [toNat_wordOf (by rw [low_eq]; omega) (by rw [high_eq]; omega), low_eq, high_eq]
  omega

theorem extract_high (w : Word) (start width : Nat) :
    (w.extractLsb' (32 + start) width).toNat = high w / 2 ^ start % 2 ^ width := by
  rw [BitVec.extractLsb'_toNat, Nat.shiftRight_eq_div_pow, Nat.pow_add, ← Nat.div_div_eq_div_mul, high_eq]

theorem littleEndian_wordOf (lo_lt : lo < 2 ^ 32) (hi_lt : hi < 2 ^ 32) :
    littleEndian 8 (wordOf lo hi).toNat = littleEndian 4 lo ++ littleEndian 4 hi := by
  have front : (lo + 2 ^ 32 * hi) % 256 ^ 4 = lo := by omega
  have back : (lo + 2 ^ 32 * hi) / 256 ^ 4 = hi := by omega
  have parts : littleEndian (4 + 4) (lo + 2 ^ 32 * hi) = _ := littleEndian_split
  rw [front, back] at parts
  rw [toNat_wordOf lo_lt hi_lt]
  exact parts

end Halves

/-! ## The words of each request -/

def beginWords (b : BeginFields) (seq : Nat) : List Word :=
  [wordOf 1 opBegin, wordOf seq 28, wordOf b.session (b.totalBytes % 2 ^ 32),
    wordOf (b.totalBytes / 2 ^ 32) (b.channelMask + 2 ^ 8 * b.layout + 2 ^ 16 * b.reserved),
    wordOf b.totalBeats b.loopCount, wordOf b.bytesPerBeat 0]

def dataWords (d : DataFields) (seq : Nat) (data : List Word) : List Word :=
  [wordOf 1 opData, wordOf seq (d.length + 24), wordOf d.session d.packetSeq, BitVec.ofNat 64 d.offset,
    wordOf d.length d.crcExpected] ++ data

def commandWords (opcode session seq : Nat) : List Word := [wordOf 1 opcode, wordOf seq 4, wordOf session 0]

/-- The fields have the widths of their registers. -/
structure BeginFields.Narrow (b : BeginFields) : Prop where
  session : b.session < 2 ^ 32
  totalBytes : b.totalBytes < 2 ^ 64
  channelMask : b.channelMask < 2 ^ 8
  layout : b.layout < 2 ^ 8
  reserved : b.reserved < 2 ^ 16
  totalBeats : b.totalBeats < 2 ^ 32
  loopCount : b.loopCount < 2 ^ 32
  bytesPerBeat : b.bytesPerBeat < 2 ^ 32

structure DataFields.Narrow (d : DataFields) : Prop where
  session : d.session < 2 ^ 32
  packetSeq : d.packetSeq < 2 ^ 32
  offset : d.offset < 2 ^ 64
  length : d.length + 24 < 2 ^ 32
  crcExpected : d.crcExpected < 2 ^ 32

/-! ## What the words register -/

section Begin

variable {b : BeginFields} {seq : Nat}

theorem beginWords_header (seq_lt : seq < 2 ^ 32) : opcodeOf (beginWords b seq) = opBegin ∧
    seqOf (beginWords b seq) = seq ∧ bytesOf (beginWords b seq) = 28 :=
  ⟨high_wordOf (by decide) (by decide), low_wordOf seq_lt (by decide), high_wordOf seq_lt (by decide)⟩

theorem beginWords_begin (narrow : b.Narrow) (c : UploadCore) : (requestOf c (beginWords b seq)).begin = b := by
  obtain ⟨session, bytes, mask, layout, reserved, beats, loops, beat⟩ := narrow
  have packed : b.channelMask + 2 ^ 8 * b.layout + 2 ^ 16 * b.reserved < 2 ^ 32 := by omega
  have upper : b.totalBytes / 2 ^ 32 < 2 ^ 32 := by omega
  have lower : b.totalBytes % 2 ^ 32 < 2 ^ 32 := by omega
  have mask_slice := extract_high (wordOf (b.totalBytes / 2 ^ 32)
    (b.channelMask + 2 ^ 8 * b.layout + 2 ^ 16 * b.reserved)) 0 8
  have layout_slice := extract_high (wordOf (b.totalBytes / 2 ^ 32)
    (b.channelMask + 2 ^ 8 * b.layout + 2 ^ 16 * b.reserved)) 8 8
  have reserved_slice := extract_high (wordOf (b.totalBytes / 2 ^ 32)
    (b.channelMask + 2 ^ 8 * b.layout + 2 ^ 16 * b.reserved)) 16 16
  simp only [Nat.add_zero, Nat.reduceAdd] at mask_slice layout_slice reserved_slice
  rw [high_wordOf upper packed] at mask_slice layout_slice reserved_slice
  simp only [requestOf, beginWords, List.drop_succ_cons, List.drop_zero, beginOf, List.zipIdx_cons, List.zipIdx_nil,
    List.foldl_cons, List.foldl_nil, takeBegin,
    low_wordOf session lower, high_wordOf session lower, low_wordOf upper packed, low_wordOf beats loops,
    high_wordOf beats loops, low_wordOf beat (Nat.two_pow_pos 32), mask_slice, layout_slice, reserved_slice]
  cases b
  simp only [BeginFields.mk.injEq, true_and, and_true]
  dsimp only at mask layout reserved bytes
  omega

theorem beginWords_wellFormed (seq_lt : seq < 2 ^ 32) (beat : b.bytesPerBeat < 2 ^ 32) :
    WellFormed (beginWords b seq) := by
  obtain ⟨opcode, -, bytes⟩ := beginWords_header (b := b) seq_lt
  have version : badHeader (wordOf 1 opBegin) = false := by decide
  have clear : high (wordOf b.bytesPerBeat 0) = 0 := high_wordOf beat (by decide)
  refine ⟨version, ?_, Nat.le_of_ble_eq_true rfl, ?_, fun _ => clear⟩
  · rw [opcode, bytes]
    decide
  · rw [bytes]
    rfl

/-- The registers of a BEGIN are no wider than the fields they take. -/
theorem begin_narrow {words : List Word} (good : WellFormed words) (begins : opcodeOf words = opBegin)
    (c : UploadCore) : (requestOf c words).begin.Narrow := by
  have four := good.count.1 begins
  obtain ⟨w2, w3, w4, w5, split⟩ : ∃ w2 w3 w4 w5, words.drop 2 = [w2, w3, w4, w5] := by
    generalize words.drop 2 = payload at four
    match payload, four with
    | [w2, w3, w4, w5], _ => exact ⟨w2, w3, w4, w5, rfl⟩
  have halves (w : Word) : low w < 2 ^ 32 ∧ high w < 2 ^ 32 := ⟨BitVec.isLt _, BitVec.isLt _⟩
  have second := halves w2
  have third := halves w3
  have fourth := halves w4
  have fifth := halves w5
  simp only [requestOf, split, beginOf, List.zipIdx_cons, List.zipIdx_nil, List.foldl_cons, List.foldl_nil, takeBegin]
  constructor <;> dsimp only
  · exact second.1
  · omega
  · exact BitVec.isLt _
  · exact BitVec.isLt _
  · exact BitVec.isLt _
  · exact fourth.1
  · exact fourth.2
  · exact fifth.1

theorem eq_beginWords {words : List Word} (good : WellFormed words) (begins : opcodeOf words = opBegin)
    (c : UploadCore) : words = beginWords (requestOf c words).begin (seqOf words) := by
  obtain ⟨header, length, -, all, clear⟩ := good
  have bytes : bytesOf words = 28 := (badLength_false.mp length).1 begins
  have six : words.length = 6 := by rw [all, bytes]; rfl
  obtain ⟨w0, w1, w2, w3, w4, w5, rfl⟩ : ∃ w0 w1 w2 w3 w4 w5, words = [w0, w1, w2, w3, w4, w5] := by
    match words, six with
    | [w0, w1, w2, w3, w4, w5], _ => exact ⟨w0, w1, w2, w3, w4, w5, rfl⟩
  have version : low w0 = 1 := by
    simp only [badHeader, decide_eq_false_iff_not, not_or, not_not] at header
    exact header.1
  have opcode : high w0 = opBegin := begins
  have size : high w1 = 28 := bytes
  have padding : high w5 = 0 := clear begins
  have mask := extract_high w3 0 8
  have layout := extract_high w3 8 8
  have reserved := extract_high w3 16 16
  simp only [Nat.add_zero, Nat.reduceAdd] at mask layout reserved
  have upper := (w3.extractLsb' 32 32).isLt
  have lower := (w2.extractLsb' 32 32).isLt
  have third : (low w3 * 2 ^ 32 + high w2 % 2 ^ 32) % 2 ^ 32 = high w2 := by
    rw [high] at *
    omega
  have fourth : (low w3 * 2 ^ 32 + high w2 % 2 ^ 32) / 2 ^ 32 = low w3 := by
    rw [high] at *
    omega
  have packed : high w3 / 2 ^ 0 % 2 ^ 8 + 2 ^ 8 * (high w3 / 2 ^ 8 % 2 ^ 8) + 2 ^ 16 * (high w3 / 2 ^ 16 % 2 ^ 16) =
      high w3 := by
    change high w3 < 2 ^ 32 at upper
    omega
  simp only [requestOf, beginWords, seqOf, List.drop_succ_cons, List.drop_zero, beginOf, List.zipIdx_cons,
    List.zipIdx_nil, List.foldl_cons, List.foldl_nil, takeBegin, mask, layout, reserved, packed]
  simp only [Nat.zero_div, Nat.zero_mul, Nat.zero_add, third, fourth]
  conv_lhs => rw [← wordOf_halves w0, ← wordOf_halves w1, ← wordOf_halves w2, ← wordOf_halves w3, ← wordOf_halves w4,
    ← wordOf_halves w5, version, opcode, size, padding]
  rfl

end Begin

section Data

variable {d : DataFields} {seq : Nat} {data : List Word}

theorem dataWords_header (data : List Word) (seq_lt : seq < 2 ^ 32) (length : d.length + 24 < 2 ^ 32) :
    opcodeOf (dataWords d seq data) = opData ∧ seqOf (dataWords d seq data) = seq ∧
      bytesOf (dataWords d seq data) = d.length + 24 :=
  ⟨high_wordOf (by decide) (by decide), low_wordOf seq_lt length, high_wordOf seq_lt length⟩

/-- The fields of a DATA as its words register them, with the checks against the session. -/
theorem dataWords_data (data : List Word) (narrow : d.Narrow) (seq_lt : seq < 2 ^ 32) (c : UploadCore) :
    (requestOf c (dataWords d seq data)).data =
      { d with
        rangeOk := decide (d.length ≠ 0 ∧ d.length ≤ maxPayloadBytes ∧ d.length % 32 = 0)
        offsetOk := decide (d.offset % 32 = 0 ∧ d.offset = c.receivedBytes ∧ d.offset ≤ c.totalBytes ∧
          d.length ≤ c.totalBytes - d.offset) } := by
  obtain ⟨session, order, offset, length, crc⟩ := narrow
  have short : d.length < 2 ^ 32 := by omega
  have place : (BitVec.ofNat 64 d.offset).toNat = d.offset := by rw [BitVec.toNat_ofNat, Nat.mod_eq_of_lt offset]
  have declared : bytesOf (dataWords d seq data) = (d.length + 24) % 2 ^ 32 := by
    rw [(dataWords_header data seq_lt length).2.2, Nat.mod_eq_of_lt length]
  rw [requestOf, declared]
  simp only [dataWords, List.cons_append, List.nil_append, List.drop_succ_cons, List.drop_zero]
  rw [dataOf_header]
  simp only [dataOf, List.zipIdx_cons, List.zipIdx_nil, List.foldl_cons, List.foldl_nil, takeData,
    low_wordOf session order, high_wordOf session order, low_wordOf short crc, high_wordOf short crc, place, and_true]

theorem dataWords_wellFormed (narrow : d.Narrow) (seq_lt : seq < 2 ^ 32) (least : 32 ≤ d.length)
    (most : d.length ≤ maxPayloadBytes) (all : 8 * data.length = d.length) : WellFormed (dataWords d seq data) := by
  obtain ⟨opcode, -, bytes⟩ := dataWords_header data seq_lt narrow.length
  have version : badHeader (wordOf 1 opData) = false := by decide
  have count : (dataWords d seq data).length = data.length + 5 := List.length_append.trans (Nat.add_comm _ _)
  refine ⟨version, ?_, by omega, ?_, fun begins => ?_⟩
  · rw [opcode, bytes, badLength_false]
    exact ⟨nofun, fun _ => ⟨by omega, by omega⟩, fun late => absurd late (by decide)⟩
  · rw [bytes, count, wordsFor, if_neg (by omega)]
    omega
  · rw [opcode] at begins
    exact absurd begins (by decide)

/-- The data words of a DATA follow five words of header. -/
theorem dataWords_dataWord (k : Nat) : dataWord (dataWords d seq data) k = data.getD k 0 := by
  have skipped : (dataWords d seq data).getD (5 + k) 0 = data.getD (5 + k - 5) 0 :=
    List.getD_append_right _ _ _ _ (Nat.le_add_right 5 k)
  rw [dataWord, skipped, Nat.add_sub_cancel_left]

/-- The registers of a DATA in range are no wider than the fields they take. -/
theorem data_narrow {words : List Word} (good : WellFormed words) (sends : opcodeOf words = opData) {c : UploadCore}
    (ok : (requestOf c words).data.rangeOk = true) : (requestOf c words).data.Narrow := by
  have three : 3 ≤ (words.drop 2).length := Nat.le_trans (by decide) (good.count.2.1 sends)
  have inRange := range_of_rangeOk (by rw [List.length_drop] at three; omega) ok
  have most : (requestOf c words).data.length ≤ 1408 := inRange.2.1
  obtain ⟨x, y, z, rest, split⟩ : ∃ x y z rest, words.drop 2 = x :: y :: z :: rest := by
    generalize words.drop 2 = payload at three
    match payload, three with
    | x :: y :: z :: rest, _ => exact ⟨x, y, z, rest, rfl⟩
  simp only [requestOf, split, dataOf_header] at most ⊢
  simp only [dataOf, List.zipIdx_cons, List.zipIdx_nil, List.foldl_cons, List.foldl_nil, takeData] at most ⊢
  constructor <;> dsimp only
  · exact BitVec.isLt _
  · exact BitVec.isLt _
  · exact BitVec.isLt _
  · omega
  · exact BitVec.isLt _

/-- A DATA in range is the words of its fields, and of all its data. -/
theorem eq_dataWords {words : List Word} (good : WellFormed words) (sends : opcodeOf words = opData) {c : UploadCore}
    (ok : (requestOf c words).data.rangeOk = true) :
    words = dataWords (requestOf c words).data (seqOf words) (words.drop 5) ∧
      8 * (words.drop 5).length = (requestOf c words).data.length := by
  have long := good.count.2.1 sends
  rw [List.length_drop] at long
  obtain ⟨-, small, whole, bytes⟩ := range_of_rangeOk (by omega) ok
  have small' : (requestOf c words).data.length ≤ 1408 := small
  have sum : bytesOf words = (requestOf c words).data.length + 24 := by omega
  have all := good.2.2.2.1
  rw [wordsFor, sum, if_neg (by omega)] at all
  refine ⟨?_, by rw [List.length_drop]; omega⟩
  obtain ⟨w0, w1, w2, w3, w4, data, rfl⟩ : ∃ w0 w1 w2 w3 w4 data, words = w0 :: w1 :: w2 :: w3 :: w4 :: data := by
    clear * - long
    rcases words with _ | ⟨w0, _ | ⟨w1, _ | ⟨w2, _ | ⟨w3, _ | ⟨w4, data⟩⟩⟩⟩⟩
    case cons.cons.cons.cons.cons => exact ⟨w0, w1, w2, w3, w4, data, rfl⟩
    all_goals exact absurd long (by simp)
  have version : low w0 = 1 := by
    have header := good.1
    simp only [badHeader, decide_eq_false_iff_not, not_or, not_not] at header
    exact header.1
  have opcode : high w0 = opData := sends
  have size : high w1 = (requestOf c (w0 :: w1 :: w2 :: w3 :: w4 :: data)).data.length + 24 := sum
  rw [dataWords, ← size]
  simp only [requestOf, seqOf, List.drop_succ_cons, List.drop_zero]
  rw [dataOf_header]
  simp only [dataOf, List.zipIdx_cons, List.zipIdx_nil, List.foldl_cons, List.foldl_nil, takeData,
    BitVec.ofNat_toNat, BitVec.setWidth_eq]
  conv_lhs => rw [← wordOf_halves w0, ← wordOf_halves w1, ← wordOf_halves w2, ← wordOf_halves w4, version, opcode]
  rfl

end Data

section Command

variable {opcode seq : Nat}

theorem commandWords_wellFormed (session : Nat) (least : 3 ≤ opcode) (most : opcode ≤ 8) (seq_lt : seq < 2 ^ 32) :
    WellFormed (commandWords opcode session seq) ∧ opcodeOf (commandWords opcode session seq) = opcode ∧
      seqOf (commandWords opcode session seq) = seq := by
  have version : low (wordOf 1 opcode) = 1 := low_wordOf (by decide) (by omega)
  have code : high (wordOf 1 opcode) = opcode := high_wordOf (by decide) (by omega)
  have bytes : bytesOf (commandWords opcode session seq) = 4 := high_wordOf seq_lt (by decide)
  have opcode_eq : opcodeOf (commandWords opcode session seq) = opcode := code
  refine ⟨⟨?_, ?_, Nat.le_refl 3, ?_, fun begins => ?_⟩, code, low_wordOf seq_lt (by decide)⟩
  · change badHeader (wordOf 1 opcode) = false
    rw [badHeader, version, code, decide_eq_false_iff_not]
    omega
  · rw [opcode_eq, bytes, badLength_false, opBegin, opData]
    omega
  · rw [bytes]
    rfl
  · rw [opcode_eq, opBegin] at begins
    omega

end Command

/-! ## The packed bytes -/

section Bytes

open Host

theorem wavePacket_words {opcode seq : Nat} {payload : List Wire.Byte} {words : List Word} (opcode_lt : opcode < 2 ^ 32)
    (seq_lt : seq < 2 ^ 32) (short : payload.length < 2 ^ 32) (packed : padded payload = wordBytes words) :
    wavePacket opcode payload seq =
      wordBytes (ctrlMagic :: wordOf 1 opcode :: wordOf seq payload.length :: words) := by
  have joined {lo hi : Nat} (lo_lt : lo < 2 ^ 32) (hi_lt : hi < 2 ^ 32) : hi <<< 32 ||| lo = (wordOf lo hi).toNat := by
    rw [← Nat.shiftLeft_add_eq_or_of_lt lo_lt, Nat.shiftLeft_eq, toNat_wordOf lo_lt hi_lt, Nat.add_comm, Nat.mul_comm]
  have version : opcode <<< 32 ||| waveProtocolVersion = (wordOf 1 opcode).toNat := joined (by decide) opcode_lt
  rw [wavePacket, version, joined seq_lt short, packed]
  simp only [pack, List.flatMap_cons, List.flatMap_nil, wordBytes_cons, List.append_assoc, List.append_nil]
  rfl

/-- The fields of a BEGIN with these arguments. -/
def beginFields (a : BeginArguments) : BeginFields :=
  ⟨a.session.toNat, a.totalBytes.toNat, a.channelMask.toNat, a.layout.toNat, 0, a.totalBeats.toNat,
    a.loopCount.toNat, 64⟩

theorem beginFields_narrow {a : BeginArguments} (fit : a.Fit) : (beginFields a).Narrow := by
  obtain ⟨session, bytes, beats, mask, loops, layout, -, -⟩ := fit
  have capacity : ddrMaxInterleavedBytes < 2 ^ 64 := by decide
  have one : a.layout = 1 := layout
  constructor <;> dsimp only [beginFields] <;> omega

theorem littleEndian_lanes {mask layout : Nat} (mask_lt : mask < 2 ^ 8) (layout_lt : layout < 2 ^ 8) :
    littleEndian 4 (mask + 2 ^ 8 * layout + 2 ^ 16 * 0) =
      littleEndian 1 mask ++ (littleEndian 1 layout ++ littleEndian 2 0) := by
  have mask_part : (mask + 2 ^ 8 * layout + 2 ^ 16 * 0) % 256 ^ 1 = mask := by omega
  have layout_part : (mask + 2 ^ 8 * layout + 2 ^ 16 * 0) / 256 ^ 1 = layout := by omega
  have first : littleEndian (1 + 3) (mask + 2 ^ 8 * layout + 2 ^ 16 * 0) = _ := littleEndian_split
  have second : littleEndian (1 + 2) layout = _ := littleEndian_split
  rw [mask_part, layout_part] at first
  rw [show 256 ^ 1 = 2 ^ 8 from rfl, Nat.mod_eq_of_lt layout_lt, Nat.div_eq_of_lt layout_lt] at second
  exact first.trans (congrArg (littleEndian 1 mask ++ ·) second)

theorem packWaveBegin_words {a : BeginArguments} {packet : List Wire.Byte} (packed : packWaveBegin a = .ok packet) :
    packet = wordBytes (ctrlMagic :: beginWords (beginFields a) a.seq.toNat) := by
  obtain ⟨fit, rfl⟩ := packWaveBegin_ok.mp packed
  obtain ⟨session, bytes, mask, layout, -, beats, loops, beat⟩ := beginFields_narrow fit
  have seq : a.seq.toNat < 2 ^ 32 := by
    have numbered : 0 ≤ a.seq ∧ a.seq < 2 ^ 32 := fit.seq
    omega
  have upper : (beginFields a).totalBytes / 2 ^ 32 < 2 ^ 32 := by omega
  have lower : (beginFields a).totalBytes % 2 ^ 32 < 2 ^ 32 := by omega
  have lanes : (beginFields a).channelMask + 2 ^ 8 * (beginFields a).layout + 2 ^ 16 * 0 < 2 ^ 32 := by omega
  have none : (beginFields a).reserved = 0 := rfl
  have split : littleEndian 8 a.totalBytes.toNat = _ := @littleEndian_split 4 4 a.totalBytes.toNat
  have length : a.payload.length = 28 := by rw [BeginArguments.payload, length_pack]; rfl
  refine wavePacket_words (by decide) seq (by omega) ?_ |>.trans (by rw [length]; rfl)
  rw [padded, length, wordBytes_cons, wordBytes_cons, wordBytes_cons, wordBytes_cons, wordBytes_nil,
    none, littleEndian_wordOf session lower, littleEndian_wordOf upper lanes, littleEndian_wordOf beats loops,
    littleEndian_wordOf beat (by decide), littleEndian_lanes mask layout]
  simp only [BeginArguments.payload, pack, List.flatMap_cons, List.flatMap_nil, split, List.append_assoc,
    List.append_nil]
  rfl

/-- The fields of a DATA with these arguments; the checks are not in the packet. -/
def dataFields (a : DataArguments) : DataFields :=
  ⟨a.session.toNat, a.packetSeq.toNat, a.byteOffset.toNat, a.payload.length, Host.crc32 a.payload, true, true⟩

theorem dataFields_narrow {a : DataArguments} (fit : a.Fit) : (dataFields a).Narrow := by
  obtain ⟨session, order, offset, -, length, -, -⟩ := fit
  have most : a.payload.length ≤ 1408 := length.2
  constructor <;> dsimp only [dataFields]
  · omega
  · obtain ⟨-, below⟩ := order
    omega
  · omega
  · omega
  · exact BitVec.isLt _

theorem packWaveData_words {a : DataArguments} {packet : List Wire.Byte} (packed : packWaveData a = .ok packet) :
    packet = wordBytes (ctrlMagic :: dataWords (dataFields a) a.seq.toNat (toWords a.payload)) ∧
      8 * (toWords a.payload).length = a.payload.length := by
  obtain ⟨fit, rfl⟩ := packWaveData_ok.mp packed
  obtain ⟨session, order, offset, length, crc⟩ := dataFields_narrow fit
  have seq : a.seq.toNat < 2 ^ 32 := by
    have numbered : 0 ≤ a.seq ∧ a.seq < 2 ^ 32 := fit.seq
    omega
  have beats : a.payload.length % 32 = 0 := fit.beats
  have whole : a.payload.length = 8 * (a.payload.length / 8) := by omega
  have header : a.header.length = 24 := by rw [DataArguments.header, length_pack]; rfl
  have total : (a.header ++ a.payload).length = a.payload.length + 24 := by
    rw [List.length_append, header, Nat.add_comm]
  have place : (BitVec.ofNat 64 (dataFields a).offset).toNat = (dataFields a).offset := by
    rw [BitVec.toNat_ofNat, Nat.mod_eq_of_lt offset]
  refine ⟨?_, by rw [length_toWords _ whole]; omega⟩
  have short : (dataFields a).length < 2 ^ 32 := Nat.lt_of_le_of_lt (Nat.le_add_right _ 24) length
  have unpadded : padded (a.header ++ a.payload) = a.header ++ a.payload := by
    rw [padded, total, show (8 - (a.payload.length + 24) % 8) % 8 = 0 by omega, List.replicate_zero, List.append_nil]
  have packed_payload : padded (a.header ++ a.payload) =
      wordBytes ((dataWords (dataFields a) a.seq.toNat (toWords a.payload)).drop 2) := by
    change _ = wordBytes (_ :: _ :: _ :: toWords a.payload)
    rw [unpadded, wordBytes_cons, wordBytes_cons, wordBytes_cons, wordBytes_toWords _ whole, place,
      littleEndian_wordOf session order, littleEndian_wordOf short crc]
    simp only [DataArguments.header, pack, List.flatMap_cons, List.flatMap_nil, List.append_assoc, List.append_nil]
    rfl
  have known : waveOpData < 2 ^ 32 := by decide
  have fits : (a.header ++ a.payload).length < 2 ^ 32 := by
    rw [total]
    exact length
  rw [wavePacket_words known seq fits packed_payload, total]
  rfl

theorem packWaveCommand_words {a : CommandArguments} {packet : List Wire.Byte}
    (packed : packWaveCommand a = .ok packet) :
    packet = wordBytes (ctrlMagic :: commandWords a.opcode.toNat a.session.toNat a.seq.toNat) := by
  obtain ⟨fit, rfl⟩ := packWaveCommand_ok.mp packed
  obtain ⟨opcode, session, seq⟩ := fit
  have last : a.opcode ≤ 8 := opcode.2
  have code : a.opcode.toNat < 2 ^ 32 := by omega
  have named : a.session.toNat < 2 ^ 32 := by
    obtain ⟨-, below⟩ := session
    omega
  have numbered : a.seq.toNat < 2 ^ 32 := by
    obtain ⟨-, below⟩ := seq
    omega
  refine wavePacket_words code numbered (by simp) ?_
  rw [wordBytes_cons, wordBytes_nil, littleEndian_wordOf named (by decide)]
  rfl

/-! ## The CRC -/

/-- The writer and the host take the bits of the data in the same order. -/
theorem crcAfter_words {mem : Nat → Word} (data : List Word) (same : ∀ k, k < data.length → mem k = data.getD k 0) :
    (crcAfter mem (64 * data.length) ^^^ 0xFFFFFFFF).toNat = Host.crc32 (wordBytes data) := by
  have bits : (List.range (64 * data.length)).map (memBit mem) =
      (wordBytes data).flatMap fun byte => (List.range 8).map byte.getLsbD := by
    induction data using List.reverseRecOn with
    | nil => rfl
    | append_singleton data w ih =>
      have last : mem data.length = w := by
        rw [same data.length (by simp), List.getD_append_right _ _ _ _ (Nat.le_refl _), Nat.sub_self]
        rfl
      have earlier := ih fun k below => by
        rw [same k (by simp; omega), List.getD_append _ _ _ _ below]
      have word : ((List.range 64).map (64 * data.length + ·)).map (memBit mem) =
          (List.range (8 * 8)).map w.toNat.testBit := by
        rw [List.map_map]
        apply List.map_congr_left
        intro k member
        have below := List.mem_range.mp member
        rw [Function.comp_apply, memBit, Nat.mul_add_div (by decide), Nat.div_eq_of_lt below, Nat.add_zero, last,
          Nat.mul_add_mod, Nat.mod_eq_of_lt below]
        rfl
      rw [List.length_append, List.length_singleton, Nat.mul_succ, List.range_add, List.map_append, earlier, word,
        wordBytes_append, List.flatMap_append, wordBytes_cons, wordBytes_nil, List.append_nil, bits_littleEndian]
  have folded : crcAfter mem (64 * data.length) =
      ((List.range (64 * data.length)).map (memBit mem)).foldl crc32Bit 0xFFFFFFFF := by
    rw [crcAfter, List.foldl_map]
  rw [folded, bits]
  rfl

/-- The CRC of a DATA is checked against that of its bytes. -/
theorem crcMatches_iff (d : DataFields) (seq : Nat) {data : List Word} {r : UploadRequest}
    (all : 8 * data.length = r.data.length) :
    CrcMatches (dataWords d seq data) r ↔ Host.crc32 (wordBytes data) = r.data.crcExpected := by
  have bits : 8 * r.data.length = 64 * data.length := by omega
  rw [CrcMatches, bits, crcAfter_words data fun k _ => dataWords_dataWord k]

end Bytes

end Xczu47dr.Upload
