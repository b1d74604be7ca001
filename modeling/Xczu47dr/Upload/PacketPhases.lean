import Mathlib.Tactic.Ring
import Xczu47dr.Upload.Packets

/-! # Where the writer is in a packet

Between the start of a packet and its answer the registers of the parser, of the
CRC check and of the AXI writes are functions of the words received so far and of
the session as it was at the start.
-/

namespace Xczu47dr.Upload

open UploadWriter

/-! ## Fields of a packet -/

theorem beginOf_append (b : BeginFields) (payload : List Word) (w : Word) :
    beginOf b (payload ++ [w]) = takeBegin (beginOf b payload) payload.length w := by
  simp [beginOf, List.zipIdx_append]

theorem dataOf_append (c : UploadCore) (bytes : Nat) (d : DataFields) (payload : List Word) (w : Word) :
    dataOf c bytes d (payload ++ [w]) = takeData c bytes (dataOf c bytes d payload) payload.length w := by
  simp [dataOf, List.zipIdx_append]

/-- Four words determine all fields of a BEGIN. -/
theorem beginOf_four (b d : BeginFields) {payload : List Word} (four : payload.length = 4) :
    beginOf b payload = beginOf d payload := by
  obtain ⟨w, x, y, z, rfl⟩ : ∃ w x y z, payload = [w, x, y, z] := by
    match payload, four with
    | [w, x, y, z], _ => exact ⟨w, x, y, z, rfl⟩
  simp [beginOf, takeBegin]

/-- Three words determine all fields of a DATA. -/
theorem dataOf_three (c : UploadCore) (bytes : Nat) (d e : DataFields) {payload : List Word}
    (three : 3 ≤ payload.length) : dataOf c bytes d payload = dataOf c bytes e payload := by
  obtain ⟨x, y, z, rest, rfl⟩ : ∃ x y z rest, payload = x :: y :: z :: rest := by
    match payload, three with
    | x :: y :: z :: rest, _ => exact ⟨x, y, z, rest, rfl⟩
  simp [dataOf, takeData]

/-- The words behind the third do not change the fields of a DATA. -/
theorem dataOf_header (c : UploadCore) (bytes : Nat) (d : DataFields) (x y z : Word) (rest : List Word) :
    dataOf c bytes d (x :: y :: z :: rest) = dataOf c bytes d [x, y, z] := by
  induction rest using List.reverseRecOn with
  | nil => rfl
  | append_singleton rest w ih =>
    have longer : x :: y :: z :: (rest ++ [w]) = (x :: y :: z :: rest) ++ [w] := rfl
    rw [longer, dataOf_append, ih]
    rfl

/-- What the registered range check says. -/
theorem range_of_rangeOk {c : UploadCore} {words : List Word} (long : 5 ≤ words.length)
    (ok : (requestOf c words).data.rangeOk = true) :
    (requestOf c words).data.length ≠ 0 ∧ (requestOf c words).data.length ≤ maxPayloadBytes ∧
      (requestOf c words).data.length % 32 = 0 ∧
      bytesOf words = ((requestOf c words).data.length + 24) % 2 ^ 32 := by
  obtain ⟨x, y, z, rest, split⟩ : ∃ x y z rest, words.drop 2 = x :: y :: z :: rest := by
    have length : (words.drop 2).length = words.length - 2 := List.length_drop
    match words.drop 2, length with
    | [], bad => simp at bad; omega
    | [x], bad => simp at bad; omega
    | [x, y], bad => simp at bad; omega
    | x :: y :: z :: rest, _ => exact ⟨x, y, z, rest, rfl⟩
  simp only [requestOf, split, dataOf_header] at ok ⊢
  simpa [dataOf, takeData] using ok

/-- The registers of a request agree with its packet as far as its opcode reads them. -/
structure Agrees (c : UploadCore) (words : List Word) (r : UploadRequest) : Prop where
  opcode : r.opcode = opcodeOf words
  seq : r.seq = seqOf words
  begin : opcodeOf words = opBegin → r.begin = (requestOf c words).begin
  data : opcodeOf words = opData → r.data = (requestOf c words).data
  word : opcodeOf words ≠ opBegin → opcodeOf words ≠ opData → r.sessionWord = (requestOf c words).sessionWord

/-! A judgement reads the fields of its opcode only. -/

theorem judgeBegin_congr (p : WriterParams) (c : UploadCore) {r r' : UploadRequest} (begin : r.begin = r'.begin)
    (seq : r.seq = r'.seq) : r.judgeBegin p c = r'.judgeBegin p c := by
  cases r
  cases r'
  cases begin
  cases seq
  rfl

theorem judgeData_congr (c : UploadCore) (playback : Nat) {r r' : UploadRequest} (data : r.data = r'.data)
    (seq : r.seq = r'.seq) : r.judgeData c playback = r'.judgeData c playback := by
  cases r
  cases r'
  cases data
  cases seq
  rfl

theorem judge_congr_command (p : WriterParams) (c : UploadCore) (playback : Nat) {r r' : UploadRequest}
    (word : r.sessionWord = r'.sessionWord) (seq : r.seq = r'.seq) (opcode : r.opcode = r'.opcode)
    (not_begin : r.opcode ≠ opBegin) (not_data : r.opcode ≠ opData) :
    r.judge p c playback = r'.judge p c playback := by
  cases r
  cases r'
  cases word
  cases seq
  cases opcode
  dsimp only at not_begin not_data
  simp only [UploadRequest.judge, not_begin, not_data, if_false]
  rfl

/-- A request is judged by what its packet says. -/
theorem Agrees.judge {c : UploadCore} {words : List Word} {r : UploadRequest} (agrees : Agrees c words r)
    (p : WriterParams) (playback : Nat) : r.judge p c playback = (requestOf c words).judge p c playback := by
  have opcode : r.opcode = (requestOf c words).opcode := agrees.opcode
  by_cases begins : opcodeOf words = opBegin
  · have first : (requestOf c words).opcode = opBegin := begins
    unfold UploadRequest.judge
    rw [opcode, if_pos first, if_pos first]
    exact judgeBegin_congr p c (agrees.begin begins) agrees.seq
  · by_cases data : opcodeOf words = opData
    · have first : (requestOf c words).opcode ≠ opBegin := begins
      have second : (requestOf c words).opcode = opData := data
      unfold UploadRequest.judge
      rw [opcode, if_neg first, if_neg first, if_pos second, if_pos second]
      exact judgeData_congr c playback (agrees.data data) agrees.seq
    · exact judge_congr_command p c playback (agrees.word begins data) agrees.seq opcode
        (opcode ▸ begins) (opcode ▸ data)

/-! ## Bits of the packet memory -/

theorem bankWord_bit (mem : Nat → Word) (addr : Nat) {r : Nat} (small : r < 256) :
    (bankWord mem addr).getLsbD r = memBit mem (256 * addr + r) := by
  unfold bankWord memBit
  simp only [BitVec.getLsbD_append]
  by_cases first : r < 64
  · rw [if_pos first, show (256 * addr + r) / 64 = 4 * addr by omega, show (256 * addr + r) % 64 = r by omega]
  · rw [if_neg first]
    by_cases second : r - 64 < 64
    · rw [if_pos second, show (256 * addr + r) / 64 = 4 * addr + 1 by omega,
        show (256 * addr + r) % 64 = r - 64 by omega]
    · rw [if_neg second]
      by_cases third : r - 64 - 64 < 64
      · rw [if_pos third, show (256 * addr + r) / 64 = 4 * addr + 2 by omega,
          show (256 * addr + r) % 64 = r - 64 - 64 by omega]
      · rw [if_neg third, show (256 * addr + r) / 64 = 4 * addr + 3 by omega,
          show (256 * addr + r) % 64 = r - 64 - 64 - 64 by omega]

theorem crcAfter_succ (mem : Nat → Word) (count : Nat) :
    crcAfter mem (count + 1) = crc32Bit (crcAfter mem count) (memBit mem count) := by
  rw [crcAfter, List.range_succ, List.foldl_append]
  rfl

theorem crcAfter_congr {mem other : Nat → Word} {count : Nat}
    (same : ∀ k, k < count / 8 → mem k = other k) (bits : Nat) (within : bits ≤ 8 * count) (whole : 8 ∣ count) :
    crcAfter mem bits = crcAfter other bits := by
  induction bits with
  | zero => rfl
  | succ bits ih =>
    rw [crcAfter_succ, crcAfter_succ, ih (by omega), memBit, memBit, same _ (by omega)]

theorem bankWord_congr {mem other : Nat → Word} {addr : Nat} (same : ∀ k, k < 4 * addr + 4 → mem k = other k) :
    bankWord mem addr = bankWord other addr := by
  unfold bankWord
  rw [same _ (by omega), same _ (by omega), same _ (by omega), same _ (by omega)]

/-! ## The phases of a packet -/

/-- Nothing has been done yet for the packet, and nothing is being answered. -/
structure Fresh (a : Account) (w : UploadWriter) : Prop where
  isOpen : a.isOpen = true
  core : w.core = a.before
  pulses : a.pulses = []
  writes : a.writes = []
  axi : a.axiFails = false
  valid : w.response.valid = false
  status : w.response.status = if w.packetError then statusBadRequest else statusOk

/-- Both header words are registered. -/
structure Header (words : List Word) (w : UploadWriter) : Prop where
  whole : 2 ≤ words.length
  opcode : w.request.opcode = opcodeOf words
  seq : w.request.seq = seqOf words
  unlatched : w.statusResponseLatched = false

/-- The payload words received so far are registered. -/
structure Fields (c : UploadCore) (words : List Word) (w : UploadWriter) : Prop where
  begin : opcodeOf words = opBegin → ∃ b, w.request.begin = beginOf b (words.drop 2)
  data : opcodeOf words = opData → ∃ d, w.request.data = dataOf c (bytesOf words) d (words.drop 2)
  word : opcodeOf words ≠ opBegin → opcodeOf words ≠ opData → words.length = 3 →
    w.request.sessionWord = words.getD 2 0
  index : opcodeOf words = opData → w.dataWordIndex = min (words.length - 5) maxDataWords
  memory : opcodeOf words = opData → ∀ k, k < w.dataWordIndex → w.dataMem k = dataWord words k

/-- The parser is in the payload. -/
structure Parsing (words : List Word) (w : UploadWriter) : Prop where
  bytes : w.payloadBytes = bytesOf words
  count : w.payloadWords = wordsFor (bytesOf words)
  index : w.payloadIndex + 2 = words.length
  error : w.packetError = badHeader (words.getD 0 0)
  length : badLength (opcodeOf words) (bytesOf words) = false
  room : w.payloadIndex = 0 ∨ w.payloadIndex < w.payloadWords
  first : w.duplicatePacket = false

/-- The packet is a DATA whose CRC is to be checked. -/
structure Checked (p : WriterParams) (a : Account) (w : UploadWriter) (duplicate : Bool) : Prop where
  good : WellFormed a.words
  opcode : opcodeOf a.words = opData
  verdict : (requestOf a.before a.words).judge p a.before a.playback = .check duplicate
  data : w.request.data = (requestOf a.before a.words).data
  memory : ∀ k, k < (requestOf a.before a.words).data.length / 8 → w.dataMem k = dataWord a.words k

/-- The CRC loop, at a bit of the packet memory. -/
structure CrcLoop (length : Nat) (w : UploadWriter) : Prop where
  reading : w.readingCrc = true
  total : w.crcCheckTotalBits = 8 * length
  below : w.crcCheckBitIndex < 8 * length
  running : w.dataCrcRunning = crcAfter w.dataMem w.crcCheckBitIndex
  address : w.packetReadAddr = w.crcCheckBitIndex / 256
  aligned : w.state ≠ .crc → w.crcCheckBitIndex % 256 = 0
  loaded : w.state = .readLoad → w.packetReadData = bankWord w.dataMem w.packetReadAddr
  shifted : w.state = .crc → w.crcShift = bankWord w.dataMem w.packetReadAddr >>> (w.crcCheckBitIndex % 256)

/-- The write loop, at an AXI write of the packet. -/
structure WriteLoop (p : WriterParams) (a : Account) (d : DataFields) (w : UploadWriter) : Prop where
  reading : w.readingCrc = false
  total : w.writeWordsTotal = d.length / 32
  length : w.writeLength = d.length
  offset : w.writeOffset = d.offset
  below : w.writeIndex < d.length / 32
  address : w.packetReadAddr = w.writeIndex
  failed : w.writeFailed = false
  loaded : w.state = .readLoad → w.packetReadData = bankWord w.dataMem w.packetReadAddr
  writes : a.writes = imageWrites p a.words d.offset (w.writeIndex + if w.state = .write then 1 else 0)

/-- The status `ST_EMIT` answers with. -/
def emitStatus (w : UploadWriter) : Nat :=
  if w.request.opcode = opStatus ∧ w.statusResponseLatched then w.statusLatched.status else w.response.status

/-- The packet as it is going to be answered. -/
def toAnswer (a : Account) (w : UploadWriter) (status : Nat) : Transaction where
  before := a.before
  words := a.words
  playback := a.playback
  seq := w.request.seq
  opcode := w.request.opcode
  status := status
  after := w.core
  pulses := a.pulses
  writes := a.writes
  axiFails := a.axiFails

/-- Where the writer is. -/
inductive Phase (p : WriterParams) (a : Account) (w : UploadWriter) : Prop
  | idle (state : w.state = .idle) (closed : a.isOpen = false)
  | hdr0 (state : w.state = .hdr0) (fresh : Fresh a w) (words : a.words = []) (sound : w.packetError = false)
  | hdr1 (state : w.state = .hdr1) (fresh : Fresh a w) (w0 : Word) (words : a.words = [w0])
      (opcode : w.request.opcode = high w0) (error : w.packetError = badHeader w0)
      (unlatched : w.statusResponseLatched = false)
  | payload (state : w.state = .payload) (fresh : Fresh a w) (header : Header a.words w)
      (parsing : Parsing a.words w) (fields : Fields a.before a.words w)
  | drop (state : w.state = .drop) (fresh : Fresh a w) (header : Header a.words w) (error : w.packetError = true)
      (hopeless : ∀ x more, ¬ WellFormed (a.words ++ x :: more))
  | judging (state : w.state = .final) (fresh : Fresh a w) (header : Header a.words w)
      (error : w.packetError = !decide (WellFormed a.words))
      (first : w.duplicatePacket = false) (fields : WellFormed a.words → Fields a.before a.words w)
  | checking (state : w.state = .readWait ∨ w.state = .readLoad ∨ w.state = .crc) (fresh : Fresh a w)
      (header : Header a.words w) (sound : w.packetError = false) (checked : Checked p a w w.duplicatePacket)
      (loop : CrcLoop (requestOf a.before a.words).data.length w)
  | checked (state : w.state = .crcDone) (fresh : Fresh a w) (header : Header a.words w)
      (sound : w.packetError = false) (checked : Checked p a w w.duplicatePacket)
      (result : w.crcResultOk = decide (CrcMatches a.words (requestOf a.before a.words)))
  | writing (state : w.state = .readWait ∨ w.state = .readLoad ∨ w.state = .write) (isOpen : a.isOpen = true)
      (core : w.core = a.before) (pulses : a.pulses = []) (axi : a.axiFails = false)
      (valid : w.response.valid = false) (header : Header a.words w) (checked : Checked p a w false)
      (crc : CrcMatches a.words (requestOf a.before a.words))
      (loop : WriteLoop p a (requestOf a.before a.words).data w)
  | draining (state : w.state = .write) (closed : a.isOpen = false) (failed : w.writeFailed = true)
  | emitting (state : w.state = .emit) (isOpen : a.isOpen = true) (valid : w.response.valid = false)
      (whole : 2 ≤ a.words.length) (opcode : w.request.opcode = opcodeOf a.words) (seq : w.request.seq = seqOf a.words)
      (outcome : (toAnswer a w (emitStatus w)).Outcome p)

end Xczu47dr.Upload
