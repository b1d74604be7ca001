import Xczu47dr.Upload.UploadWriter

/-! # Packets and what becomes of them

The writer seen one packet at a time: whether the words of a packet make a
request, which one, and what an answered packet may have done to the session.
The words are those behind the magic, the last one with `tlast`.
-/

namespace Xczu47dr.Upload

/-! ## The request in a packet -/

def opcodeOf (words : List Word) : Nat := high (words.getD 0 0)

def seqOf (words : List Word) : Nat := low (words.getD 1 0)

/-- The length in bytes the packet declares. -/
def bytesOf (words : List Word) : Nat := high (words.getD 1 0)

/-- `payload_words` of a declared length. -/
def wordsFor (bytes : Nat) : Nat := bytes / 8 + if bytes % 8 ≠ 0 then 1 else 0

/-- The packet is a request: known header, length of its opcode, all its words and no more. -/
def WellFormed (words : List Word) : Prop :=
  UploadWriter.badHeader (words.getD 0 0) = false ∧
    UploadWriter.badLength (opcodeOf words) (bytesOf words) = false ∧
    3 ≤ words.length ∧ words.length = wordsFor (bytesOf words) + 2 ∧
    (opcodeOf words = opBegin → high (words.getD 5 0) = 0)

instance (words : List Word) : Decidable (WellFormed words) :=
  inferInstanceAs (Decidable (_ ∧ _ ∧ _ ∧ _ ∧ (_ → _)))

/-- The payload words of a BEGIN, one after the other. -/
def beginOf (b : BeginFields) (payload : List Word) : BeginFields :=
  payload.zipIdx.foldl (fun b w => UploadWriter.takeBegin b w.2 w.1) b

/-- The header words of a DATA, one after the other. -/
def dataOf (c : UploadCore) (bytes : Nat) (d : DataFields) (payload : List Word) : DataFields :=
  payload.zipIdx.foldl (fun d w => UploadWriter.takeData c bytes d w.2 w.1) d

/-- The request a packet makes to the session `c`. -/
def requestOf (c : UploadCore) (words : List Word) : UploadRequest where
  opcode := opcodeOf words
  seq := seqOf words
  begin := beginOf ⟨0, 0, 0, 0, 0, 0, 0, 0⟩ (words.drop 2)
  data := dataOf c (bytesOf words) ⟨0, 0, 0, 0, 0, false, false⟩ (words.drop 2)
  sessionWord := words.getD 2 0

def dataWord (words : List Word) (k : Nat) : Word := words.getD (5 + k) 0

/-- Bit `b` of a memory of words. -/
def memBit (mem : Nat → Word) (b : Nat) : Bool := (mem (b / 64)).getLsbD (b % 64)

/-- The CRC register after `count` bits. -/
def crcAfter (mem : Nat → Word) (count : Nat) : BitVec 32 :=
  (List.range count).foldl (fun c b => crc32Bit c (memBit mem b)) 0xFFFFFFFF

/-- The data words of the packet have the CRC it declares. -/
def CrcMatches (words : List Word) (r : UploadRequest) : Prop :=
  (crcAfter (dataWord words) (8 * r.data.length) ^^^ 0xFFFFFFFF).toNat = r.data.crcExpected

instance (words : List Word) (r : UploadRequest) : Decidable (CrcMatches words r) :=
  inferInstanceAs (Decidable (_ = _))

/-- The first `count` writes of a packet's data at `offset`. -/
def imageWrites (p : WriterParams) (words : List Word) (offset count : Nat) : List (Nat × BitVec 256) :=
  (List.range count).map fun k => ((p.ddrAddrBase + offset + k * 32) % 2 ^ 64, bankWord (dataWord words) k)

/-! ## Answered packets -/

/-- A packet from its start to its answer: the session before and after, the playback state
    it was judged by, the answer, the commands it pulsed and the AXI writes it issued. -/
structure Transaction where
  before : UploadCore
  words : List Word
  playback : Nat
  seq : Nat
  opcode : Nat
  status : Nat
  after : UploadCore
  pulses : List PlaybackCommand
  writes : List (Nat × BitVec 256)
  /-- the memory has refused a write of the packet, or not answered it in time -/
  axiFails : Bool
  deriving DecidableEq

namespace Transaction

variable (p : WriterParams) (t : Transaction)

def request : UploadRequest := requestOf t.before t.words

def verdict : Verdict := t.request.judge p t.before t.playback

/-- The packet has done nothing. -/
structure Unchanged : Prop where
  after : t.after = t.before
  pulses : t.pulses = []
  writes : t.writes = []
  axi : t.axiFails = false

/-- The writes of its data that the packet issued. -/
def WritesFirst (count : Nat) : Prop := t.writes = imageWrites p t.words t.request.data.offset count

/-- What may become of a packet. -/
inductive Outcome : Prop
  | malformed (bad : ¬ WellFormed t.words) (status : t.status = statusBadRequest) (unchanged : t.Unchanged)
  | status (good : WellFormed t.words) (opcode : opcodeOf t.words = opStatus) (unchanged : t.Unchanged)
  | refused (good : WellFormed t.words) (opcode : opcodeOf t.words ≠ opStatus) (offset : Nat)
      (verdict : t.verdict p = .refuse t.status offset) (unchanged : t.Unchanged)
  | accepted (good : WellFormed t.words) (opcode : opcodeOf t.words ≠ opStatus) (pulse : Option PlaybackCommand)
      (verdict : t.verdict p = .accept t.after pulse) (status : t.status = statusOk)
      (pulses : t.pulses = pulse.toList) (writes : t.writes = []) (axi : t.axiFails = false)
  | badCrc (good : WellFormed t.words) (opcode : opcodeOf t.words = opData) (duplicate : Bool)
      (verdict : t.verdict p = .check duplicate) (crc : ¬ CrcMatches t.words t.request)
      (status : t.status = statusCrc) (unchanged : t.Unchanged)
  | repeated (good : WellFormed t.words) (opcode : opcodeOf t.words = opData) (verdict : t.verdict p = .check true)
      (crc : CrcMatches t.words t.request) (status : t.status = statusOk) (unchanged : t.Unchanged)
  | stored (good : WellFormed t.words) (opcode : opcodeOf t.words = opData) (verdict : t.verdict p = .check false)
      (crc : CrcMatches t.words t.request) (status : t.status = statusOk)
      (after : t.after = t.before.stores t.request t.request.data.length) (pulses : t.pulses = [])
      (writes : t.WritesFirst p (t.request.data.length / 32)) (axi : t.axiFails = false)
  | failed (good : WellFormed t.words) (opcode : opcodeOf t.words = opData) (verdict : t.verdict p = .check false)
      (crc : CrcMatches t.words t.request) (status : t.status = statusAxiError ∨ t.status = statusTimeout)
      (after : t.after = t.before.fails) (pulses : t.pulses = []) (count : Nat)
      (some_writes : 1 ≤ count ∧ count ≤ t.request.data.length / 32) (writes : t.WritesFirst p count)
      (axi : t.axiFails = true)

/-- The answer carries the opcode and the sequence number of its packet, and the packet has
    done what its request allows. -/
structure Lawful : Prop where
  whole : 2 ≤ t.words.length
  seq : t.seq = seqOf t.words
  opcode : t.opcode = opcodeOf t.words
  outcome : t.Outcome p

end Transaction

/-! ## The writer with the books of its packets -/

/-- What is known of the packet being processed. -/
structure Account where
  before : UploadCore
  words : List Word
  playback : Nat
  pulses : List PlaybackCommand
  writes : List (Nat × BitVec 256)
  axiFails : Bool
  /-- started, and neither answered nor given up -/
  isOpen : Bool

structure AccountedWriter where
  writer : UploadWriter
  account : Account

namespace UploadWriter

def receives (s : UploadWriter) (i : WriterIn) : Bool :=
  i.tvalid && (s.state == .hdr0 || s.state == .hdr1 || s.state == .payload || s.state == .drop)

/-- A write is answered with an error, or the watchdog expires. -/
def axiFails (p : WriterParams) (s : UploadWriter) (i : WriterIn) : Bool :=
  !s.writeFailed && (s.bFires i && decide (i.bresp ≠ 0) || s.timesOut p i)

def raises (p : WriterParams) (s : UploadWriter) (i : WriterIn) : Bool := s.state == .emit || s.timesOut p i

end UploadWriter

namespace AccountedWriter

variable (p : WriterParams) (s : AccountedWriter) (i : WriterIn)

def reset : AccountedWriter := ⟨.reset p, ⟨.reset p, [], 0, [], [], false, false⟩⟩

def starts : Bool := s.writer.state == .idle && (s.writer.step p i).state == .hdr0

def givesUp : Bool := s.writer.state == .hdr0 && (s.writer.step p i).state == .idle

def nextAccount : Account :=
  if s.starts p i then ⟨s.writer.core, [], 0, [], [], false, true⟩
  else
    { s.account with
      words := if s.writer.receives i then s.account.words ++ [i.tdata] else s.account.words
      playback := if s.writer.state = .final then i.playbackState else s.account.playback
      pulses := s.account.pulses ++ (s.writer.step p i).pulse.toList
      writes := if s.writer.state = .readLoad ∧ s.writer.readingCrc = false then
          s.account.writes ++ [((s.writer.step p i).channels.awaddr, (s.writer.step p i).channels.wdata)]
        else s.account.writes
      axiFails := s.account.axiFails || s.writer.axiFails p i
      isOpen := s.account.isOpen && !s.writer.raises p i && !s.givesUp p i }

def step : AccountedWriter := ⟨s.writer.step p i, s.nextAccount p i⟩

def answered : List Transaction :=
  if s.writer.raises p i then
    [{ before := s.account.before
       words := s.account.words
       playback := s.account.playback
       seq := (s.writer.step p i).response.seq
       opcode := (s.writer.step p i).response.opcode
       status := (s.writer.step p i).response.status
       after := (s.writer.step p i).core
       pulses := s.account.pulses
       writes := s.account.writes
       axiFails := s.account.axiFails || s.writer.axiFails p i }]
  else []

end AccountedWriter

def accountedWriter (p : WriterParams) : Clocked.Machine WriterIn AccountedWriter where
  reset := .reset p
  step := .step p

/-- The account is kept beside the writer, which does not see it. -/
theorem accountedWriter_run (p : WriterParams) (s : AccountedWriter) (is : List WriterIn) :
    ((accountedWriter p).run s is).writer = (uploadWriter p).run s.writer is := by
  induction is generalizing s with
  | nil => rfl
  | cons i is ih => exact ih _

end Xczu47dr.Upload
