import Xczu47dr.Clocked.Ledger
import Xczu47dr.Upload.StoredPayloads
import Xczu47dr.Wire.Storage

/-! # What the DDR memory holds

A memory on the AXI write channels of the upload writer.  It holds the payloads of the
session from the base address on, whatever has been refused, repeated or has failed, and
however the channels have been stalled.
-/

namespace Xczu47dr.Upload

open UploadWriter Wire

/-! ## The memory -/

/-- A memory that takes the address and the beat of a write in any order, and stores the beat when
    it answers OKAY. -/
structure DdrMemory where
  bytes : Nat → Wire.Byte
  address : Option Nat
  data : Option (BitVec 256)

namespace DdrMemory

variable (m : DdrMemory) (w : UploadWriter) (i : WriterIn)

/-- The address of the write under way, with the handshake of this cycle. -/
def takesAddress : Option Nat := if w.awFires i then some w.channels.awaddr else m.address

def takesData : Option (BitVec 256) := if w.wFires i then some w.channels.wdata else m.data

def answers : Nat → Wire.Byte :=
  match m.takesAddress w i, m.takesData w i with
  | some address, some data =>
    if i.bresp = 0 then store (2 ^ 64) m.bytes address (littleEndian 32 data.toNat) else m.bytes
  | _, _ => m.bytes

def step : DdrMemory :=
  if w.bFires i then ⟨m.answers w i, none, none⟩ else ⟨m.bytes, m.takesAddress w i, m.takesData w i⟩

end DdrMemory

/-- The writer, the books of its packets and a memory that held `initial` at reset. -/
def writerWithMemory (p : WriterParams) (initial : Nat → Wire.Byte) :
    Clocked.Machine WriterIn (AccountedWriter × DdrMemory) :=
  (accountedWriter p).ledgered ⟨initial, none, none⟩ fun s i _ m => m.step s.writer i

theorem writerWithMemory_run (p : WriterParams) (initial : Nat → Wire.Byte) (s : AccountedWriter × DdrMemory)
    (is : List WriterIn) : ((writerWithMemory p initial).run s is).1 = (accountedWriter p).run s.1 is := by
  induction is generalizing s with
  | nil => rfl
  | cons i is ih => exact ih _

/-! ## The channels -/

namespace UploadWriter

variable {p : WriterParams} {s : UploadWriter} {i : WriterIn}

theorem setError_channels (n : UploadWriter) (status offset : Nat) :
    (s.setError n status offset).channels = n.channels := by
  unfold setError
  split <;> rfl

theorem takesWord_channels : (s.takesWord p i).channels = (s.common p i).channels := by
  rw [takesWord]
  split
  · exact setError_channels _ _ _
  · rfl

theorem applyVerdict_channels (n : UploadWriter) (verdict : Verdict) :
    (s.applyVerdict n verdict).channels = n.channels ∧
      ((s.applyVerdict n verdict).state = n.state ∨ (s.applyVerdict n verdict).state = .readWait) := by
  cases verdict with
  | refuse status offset => exact ⟨setError_channels _ _ _, .inl (setError_state _ _ _ _)⟩
  | accept core pulse => exact ⟨rfl, .inl rfl⟩
  | check duplicate => exact ⟨rfl, .inr rfl⟩

/-- Only a load issues a write, and only from there the writer goes on to wait for one. -/
theorem step_channels (elsewhere : s.state ≠ .readLoad) (quiet : s.state ≠ .write) :
    (s.step p i).channels = (s.common p i).channels ∧ (s.step p i).state ≠ .write := by
  rw [step]
  cases state : s.state with
  | idle =>
    dsimp only
    rw [stepIdle]
    dsimp only
    split_ifs <;> simp [state]
  | hdr0 =>
    dsimp only
    rw [stepHdr0]
    dsimp only
    split_ifs <;> simp [setError_channels, state]
  | hdr1 =>
    dsimp only
    rw [stepHdr1]
    dsimp only
    split_ifs <;> simp [setError_channels, state]
  | payload =>
    dsimp only
    cases word : i.tvalid with
    | false =>
      rw [stepPayload, word, if_neg Bool.false_ne_true]
      exact ⟨rfl, by simp [state]⟩
    | true =>
      rw [stepPayload_valid p s i word]
      dsimp only
      split_ifs <;> simp [setError_channels, takesWord_channels, quiet]
  | crc =>
    dsimp only
    rw [stepCrc]
    dsimp only
    split_ifs <;> simp [state]
  | crcDone =>
    dsimp only
    rw [stepCrcDone]
    dsimp only
    split_ifs <;> simp
  | final =>
    dsimp only
    rw [stepFinal]
    dsimp only
    split_ifs <;> first
      | exact ⟨rfl, by simp [state]⟩
      | skip
    all_goals
      obtain ⟨channels, same | reads⟩ := applyVerdict_channels (s := s) _ (s.request.judge p s.core i.playbackState)
      · exact ⟨channels, by rw [same]; simp⟩
      · exact ⟨channels, by rw [reads]; simp⟩
  | emit =>
    dsimp only
    rw [stepEmit]
    dsimp only
    split_ifs <;> simp
  | drop =>
    dsimp only
    split_ifs <;> simp [state]
  | readWait => simp
  | readLoad => exact absurd state elsewhere
  | write => exact absurd state quiet

/-- A write that is not answered goes on. -/
theorem step_write (state : s.state = .write) : (s.step p i).channels = (s.common p i).channels ∧
    (s.bFires i = true → (s.step p i).state ≠ .write) ∧
    (s.bFires i = false → (s.step p i).state = .write ∧ (s.step p i).writeAwDone = (s.common p i).writeAwDone ∧
      (s.step p i).writeWDone = (s.common p i).writeWDone) := by
  have stepped : s.step p i = s.stepWrite p i := by rw [step, state]
  rw [stepped, stepWrite]
  dsimp only
  cases fires : s.bFires i with
  | true =>
    rw [if_pos rfl]
    refine ⟨?_, fun _ => ?_, by rintro ⟨⟩⟩ <;> split_ifs <;> simp
  | false =>
    rw [if_neg Bool.false_ne_true]
    refine ⟨?_, by rintro ⟨⟩, fun _ => ?_⟩ <;> split_ifs <;> simp [state]

end UploadWriter

/-- The memory has taken of a write what the writer has been rid of. -/
structure Bus (w : UploadWriter) (m : DdrMemory) : Prop where
  rest : w.state ≠ .write →
    m.address = none ∧ m.data = none ∧ w.channels.awvalid = false ∧ w.channels.wvalid = false
  address : w.state = .write → w.writeAwDone = false ∧ w.channels.awvalid = true ∧ m.address = none ∨
    w.writeAwDone = true ∧ w.channels.awvalid = false ∧ m.address = some w.channels.awaddr
  data : w.state = .write → w.writeWDone = false ∧ w.channels.wvalid = true ∧ m.data = none ∨
    w.writeWDone = true ∧ w.channels.wvalid = false ∧ m.data = some w.channels.wdata

section Channels

variable {p : WriterParams} {w : UploadWriter} {m : DdrMemory} {i : WriterIn}

theorem bFires_elsewhere (elsewhere : w.state ≠ .write) : w.bFires i = false := by
  simp [bFires, bready, elsewhere]

/-- A write is answered when both its parts have been taken. -/
theorem Bus.answered (bus : Bus w m) (fires : w.bFires i = true) :
    w.state = .write ∧ m.takesAddress w i = some w.channels.awaddr ∧ m.takesData w i = some w.channels.wdata ∧
      (w.channels.awvalid && !i.awready) = false ∧ (w.channels.wvalid && !i.wready) = false := by
  simp only [bFires, bready, Bool.and_eq_true, Bool.or_eq_true, beq_iff_eq] at fires
  obtain ⟨-, ⟨state, address⟩, data⟩ := fires
  refine ⟨state, ?_, ?_, ?_, ?_⟩
  · rw [DdrMemory.takesAddress]
    rcases bus.address state with ⟨waits, -, -⟩ | ⟨-, -, taken⟩
    · rw [if_pos (address.resolve_left (by rw [waits]; exact Bool.false_ne_true))]
    · split_ifs
      · rfl
      · exact taken
  · rw [DdrMemory.takesData]
    rcases bus.data state with ⟨waits, -, -⟩ | ⟨-, -, taken⟩
    · rw [if_pos (data.resolve_left (by rw [waits]; exact Bool.false_ne_true))]
    · split_ifs
      · rfl
      · exact taken
  · rcases bus.address state with ⟨waits, valid, -⟩ | ⟨-, idle, -⟩
    · have taken := address.resolve_left (by rw [waits]; exact Bool.false_ne_true)
      rw [awFires, valid, Bool.true_and] at taken
      rw [taken]
      exact Bool.and_false _
    · rw [idle]
      rfl
  · rcases bus.data state with ⟨waits, valid, -⟩ | ⟨-, idle, -⟩
    · have taken := data.resolve_left (by rw [waits]; exact Bool.false_ne_true)
      rw [wFires, valid, Bool.true_and] at taken
      rw [taken]
      exact Bool.and_false _
    · rw [idle]
      rfl

theorem Bus.bytes_answered (bus : Bus w m) (fires : w.bFires i = true) : (m.step w i).bytes =
    if i.bresp = 0 then store (2 ^ 64) m.bytes w.channels.awaddr (littleEndian 32 w.channels.wdata.toNat)
    else m.bytes := by
  obtain ⟨-, address, data, -, -⟩ := bus.answered fires
  rw [DdrMemory.step, if_pos fires]
  dsimp only
  rw [DdrMemory.answers, address, data]

theorem bytes_still (silent : w.bFires i = false) : (m.step w i).bytes = m.bytes := by
  rw [DdrMemory.step, silent, if_neg Bool.false_ne_true]

theorem Bus.step (bus : Bus w m) (p : WriterParams) (i : WriterIn) : Bus (w.step p i) (m.step w i) := by
  by_cases state : w.state = .write
  · obtain ⟨channels, leaves, stays⟩ := step_write (p := p) (i := i) state
    cases fires : w.bFires i with
    | true =>
      obtain ⟨-, -, -, address, data⟩ := bus.answered fires
      have away := leaves fires
      refine ⟨fun _ => ?_, fun back => absurd back away, fun back => absurd back away⟩
      rw [channels, DdrMemory.step, if_pos fires]
      exact ⟨rfl, rfl, address, data⟩
    | false =>
      obtain ⟨still, addressDone, dataDone⟩ := stays fires
      refine ⟨fun away => absurd still away, fun _ => ?_, fun _ => ?_⟩
      · rw [channels, addressDone, DdrMemory.step, fires, if_neg Bool.false_ne_true]
        change (w.awFires i || w.writeAwDone) = false ∧ (w.channels.awvalid && !i.awready) = true ∧
            m.takesAddress w i = none ∨
          (w.awFires i || w.writeAwDone) = true ∧ (w.channels.awvalid && !i.awready) = false ∧
            m.takesAddress w i = some w.channels.awaddr
        rw [DdrMemory.takesAddress, awFires]
        rcases bus.address state with ⟨waits, valid, none⟩ | ⟨done, idle, taken⟩
        · rw [waits, valid, none]
          cases i.awready <;> simp
        · rw [done, idle, taken]
          simp
      · rw [channels, dataDone, DdrMemory.step, fires, if_neg Bool.false_ne_true]
        change (w.wFires i || w.writeWDone) = false ∧ (w.channels.wvalid && !i.wready) = true ∧
            m.takesData w i = none ∨
          (w.wFires i || w.writeWDone) = true ∧ (w.channels.wvalid && !i.wready) = false ∧
            m.takesData w i = some w.channels.wdata
        rw [DdrMemory.takesData, wFires]
        rcases bus.data state with ⟨waits, valid, none⟩ | ⟨done, idle, taken⟩
        · rw [waits, valid, none]
          cases i.wready <;> simp
        · rw [done, idle, taken]
          simp
  · obtain ⟨address, data, noAddress, noData⟩ := bus.rest state
    have silent : w.bFires i = false := bFires_elsewhere state
    have memory : m.step w i = ⟨m.bytes, none, none⟩ := by
      rw [DdrMemory.step, silent, if_neg Bool.false_ne_true, DdrMemory.takesAddress, DdrMemory.takesData, awFires, wFires,
        noAddress, noData, address, data]
      rfl
    rw [memory]
    by_cases load : w.state = .readLoad
    · have stepped : w.step p i = w.stepReadLoad p i := by rw [UploadWriter.step, load]
      rw [stepped, stepReadLoad]
      cases w.readingCrc with
      | true =>
        rw [if_pos rfl]
        refine ⟨fun _ => ⟨rfl, rfl, ?_, ?_⟩, by rintro ⟨⟩, by rintro ⟨⟩⟩
        · exact congrArg (· && !i.awready) noAddress
        · exact congrArg (· && !i.wready) noData
      | false =>
        rw [if_neg Bool.false_ne_true]
        exact ⟨fun away => absurd rfl away, fun _ => .inl ⟨rfl, rfl, rfl⟩, fun _ => .inl ⟨rfl, rfl, rfl⟩⟩
    · obtain ⟨channels, away⟩ := step_channels (p := p) (i := i) load state
      refine ⟨fun _ => ⟨rfl, rfl, ?_, ?_⟩, fun back => absurd back away, fun back => absurd back away⟩
      · rw [channels]
        exact congrArg (· && !i.awready) noAddress
      · rw [channels]
        exact congrArg (· && !i.wready) noData

end Channels

/-! ## The packet under way -/

/-- A beat of the packet memory is the next 32 bytes of the packet. -/
theorem littleEndian_bankWord {words : List Word} {k : Nat} (inside : 4 * k + 4 ≤ (words.drop 5).length) :
    littleEndian 32 (bankWord (dataWord words) k).toNat = ((wordBytes (words.drop 5)).drop (32 * k)).take 32 := by
  obtain ⟨a, b, c, d, rest, split⟩ : ∃ a b c d rest, (words.drop 5).drop (4 * k) = a :: b :: c :: d :: rest := by
    have long : 4 ≤ ((words.drop 5).drop (4 * k)).length := by
      rw [List.length_drop]
      omega
    generalize (words.drop 5).drop (4 * k) = behind at long
    match behind, long with
    | a :: b :: c :: d :: rest, _ => exact ⟨a, b, c, d, rest, rfl⟩
  have word (j : Nat) : dataWord words (4 * k + j) = (a :: b :: c :: d :: rest).getD j 0 := by
    rw [dataWord, ← split, List.drop_drop, List.getD_eq_getElem?_getD, List.getD_eq_getElem?_getD, List.getElem?_drop,
      Nat.add_assoc]
  have first : dataWord words (4 * k) = a := word 0
  have beat : bankWord (dataWord words) k = d ++ c ++ b ++ a := by
    rw [bankWord, word 3, word 2, word 1, first]
    rfl
  have bytes : (wordBytes (words.drop 5)).drop (32 * k) =
      (littleEndian 8 a.toNat ++ (littleEndian 8 b.toNat ++ (littleEndian 8 c.toNat ++ littleEndian 8 d.toNat))) ++
        wordBytes rest := by
    rw [show 32 * k = 8 * (4 * k) by omega, drop_wordBytes, split]
    simp only [wordBytes_cons, List.append_assoc]
  rw [beat, bytes, List.take_left' (by simp), littleEndian_append 8 24 _ a rfl, littleEndian_append 8 16 _ b rfl,
    littleEndian_append 8 8 _ c rfl]

/-- What the memory has confirmed of the packet under way. -/
def AccountedWriter.confirmed (s : AccountedWriter) : List Wire.Byte :=
  if s.account.isOpen = true ∧ s.account.axiFails = false then
    (wordBytes (s.account.words.drop 5)).take
      (32 * (s.account.writes.length - if s.writer.state = .write then 1 else 0))
  else []

/-- The memory holds the payloads of the session, and behind them what is confirmed of the packet
    under way; the write under way goes behind both. -/
structure InPlace (p : WriterParams) (s : AccountedWriter) (m : DdrMemory) (payloads : List (List Wire.Byte)) :
    Prop where
  bus : Bus s.writer m
  held : HoldsAt (2 ^ 64) m.bytes p.ddrAddrBase (payloads.flatten ++ s.confirmed)
  issued : s.writer.state = .write → s.writer.writeFailed = false →
    s.writer.channels.awaddr = (p.ddrAddrBase + (payloads.flatten.length + 32 * s.writer.writeIndex)) % 2 ^ 64 ∧
      s.writer.channels.wdata = bankWord (dataWord s.account.words) s.writer.writeIndex
  late : s.writer.state = .write → s.writer.writeFailed = true →
    ∃ distance, s.writer.channels.awaddr = (p.ddrAddrBase + distance) % 2 ^ 64 ∧
      payloads.flatten.length ≤ distance ∧ distance + 32 ≤ 2 ^ 64

section Placing

variable {p : WriterParams} {s : AccountedWriter} {m : DdrMemory} {i : WriterIn} {payloads : List (List Wire.Byte)}

theorem confirmed_none (none : s.account.isOpen = false ∨ s.account.axiFails = true ∨ s.account.writes = []) :
    s.confirmed = [] := by
  rw [AccountedWriter.confirmed]
  rcases none with closed | fails | empty
  · rw [closed, if_neg fun going => Bool.noConfusion going.1]
  · rw [fails, if_neg fun going => Bool.noConfusion going.2]
  · rw [empty, List.length_nil, Nat.zero_sub, Nat.mul_zero, List.take_zero, ite_self]

theorem confirmed_away (going : s.account.isOpen = true) (sound : s.account.axiFails = false)
    (away : s.writer.state ≠ .write) :
    s.confirmed = (wordBytes (s.account.words.drop 5)).take (32 * s.account.writes.length) := by
  rw [AccountedWriter.confirmed, if_pos ⟨going, sound⟩, if_neg away, Nat.sub_zero]

theorem confirmed_write (going : s.account.isOpen = true) (sound : s.account.axiFails = false)
    (state : s.writer.state = .write) :
    s.confirmed = (wordBytes (s.account.words.drop 5)).take (32 * (s.account.writes.length - 1)) := by
  rw [AccountedWriter.confirmed, if_pos ⟨going, sound⟩, if_pos state]

/-- A writer that has no write under way. -/
theorem inPlace_away (bus : Bus s.writer m) (away : s.writer.state ≠ .write)
    (held : HoldsAt (2 ^ 64) m.bytes p.ddrAddrBase (payloads.flatten ++ s.confirmed)) : InPlace p s m payloads :=
  ⟨bus, held, fun state => absurd state away, fun state => absurd state away⟩

/-- Nothing of the packet under way is confirmed. -/
theorem InPlace.dropped (placed : InPlace p s m payloads) {s' : AccountedWriter} {m' : DdrMemory}
    (bus : Bus s'.writer m') (same : m'.bytes = m.bytes) (away : s'.writer.state ≠ .write)
    (none : s'.confirmed = []) : InPlace p s' m' payloads := by
  refine inPlace_away bus away ?_
  rw [none, List.append_nil, same]
  exact placed.held.of_append

theorem InPlace.unwritten (placed : InPlace p s m payloads) (quiet : s.writer.state ≠ .write)
    (reading : s.writer.state = .readLoad → s.writer.readingCrc = true)
    (empty : s.account.isOpen = false ∨ s.account.writes = []) :
    InPlace p (s.step p i) (m.step s.writer i) payloads := by
  have away : (s.writer.step p i).state ≠ .write := by
    by_cases load : s.writer.state = .readLoad
    · have stepped : s.writer.step p i = s.writer.stepReadLoad p i := by rw [UploadWriter.step, load]
      rw [stepped, stepReadLoad, reading load, if_pos rfl]
      exact WriterState.noConfusion
    · exact (step_channels load quiet).2
  have unissued : ¬ (s.writer.state = .readLoad ∧ s.writer.readingCrc = false) := fun issues =>
    Bool.noConfusion (issues.2.symm.trans (reading issues.1))
  refine placed.dropped (placed.bus.step p i) (bytes_still (bFires_elsewhere quiet)) away (confirmed_none ?_)
  change (s.nextAccount p i).isOpen = false ∨ _ ∨ (s.nextAccount p i).writes = []
  rw [AccountedWriter.nextAccount]
  by_cases starts : s.starts p i = true
  · rw [if_pos starts]
    exact .inr (.inr rfl)
  · rw [if_neg starts]
    rcases empty with closed | empty
    · exact .inl (congrArg (· && _ && _) closed)
    · exact .inr (.inr ((if_neg unissued).trans empty))

/-- The write loop between two writes: the next one is read. -/
theorem InPlace.reads (placed : InPlace p s m payloads) (state : s.writer.state = .readWait) :
    InPlace p (s.step p i) (m.step s.writer i) payloads := by
  have stepped : s.writer.step p i = { s.writer.common p i with state := .readLoad } := by rw [step, state]
  have account := checking_account (p := p) (i := i) (.inl state) (by simp [state]) (by rw [stepped]; rfl)
  have quiet : s.writer.state ≠ .write := by simp [state]
  have away : (s.writer.step p i).state ≠ .write := by simp [stepped]
  refine inPlace_away (placed.bus.step p i) away ?_
  have same : (s.step p i).confirmed = s.confirmed := by
    change (AccountedWriter.mk (s.writer.step p i) (s.nextAccount p i)).confirmed = _
    rw [account, AccountedWriter.confirmed, AccountedWriter.confirmed, if_neg away, if_neg quiet]
  rw [same, bytes_still (bFires_elsewhere quiet)]
  exact placed.held

/-- The next write is issued behind what is confirmed. -/
theorem InPlace.issues (placed : InPlace p s m payloads) (state : s.writer.state = .readLoad)
    (going : s.account.isOpen = true) (sound : s.account.axiFails = false)
    (checked : Checked p s.account s.writer false)
    (loop : WriteLoop p s.account (requestOf s.account.before s.account.words).data s.writer)
    (place : (requestOf s.account.before s.account.words).data.offset = payloads.flatten.length) :
    InPlace p (s.step p i) (m.step s.writer i) payloads := by
  have stepped : s.writer.step p i = s.writer.stepReadLoad p i := by rw [step, state]
  rw [stepReadLoad, loop.reading, if_neg Bool.false_ne_true] at stepped
  have quiet : s.writer.state ≠ .write := by simp [state]
  have now : (s.writer.step p i).state = .write := by rw [stepped]
  have account := issuing_account (p := p) (i := i) state loop.reading
  have words : (s.nextAccount p i).words = s.account.words := by rw [account]
  have index : (s.writer.step p i).writeIndex = s.writer.writeIndex := by
    rw [stepped]
    rfl
  have data := loop.issues checked state
  have held := placed.held
  rw [confirmed_away going sound quiet] at held
  refine ⟨placed.bus.step p i, ?_, fun _ _ => ?_, fun _ failed => ?_⟩
  · rw [confirmed_write (by rw [AccountedWriter.step, account, going])
      (by rw [AccountedWriter.step, account, sound]) now,
      bytes_still (bFires_elsewhere quiet)]
    change HoldsAt _ _ _ (_ ++ (wordBytes ((s.nextAccount p i).words.drop 5)).take
      (32 * ((s.nextAccount p i).writes.length - 1)))
    rw [account, List.length_append, List.length_singleton, Nat.add_sub_cancel]
    exact held
  · change (s.writer.step p i).channels.awaddr =
        (p.ddrAddrBase + (payloads.flatten.length + 32 * (s.writer.step p i).writeIndex)) % 2 ^ 64 ∧
      (s.writer.step p i).channels.wdata =
        bankWord (dataWord (s.nextAccount p i).words) (s.writer.step p i).writeIndex
    rw [words, index, stepped, ← place, ← loop.offset, ← Nat.add_assoc, Nat.mul_comm 32]
    exact ⟨rfl, data⟩
  · change (s.writer.step p i).writeFailed = true at failed
    rw [stepped] at failed
    exact absurd (failed.symm.trans loop.failed) Bool.noConfusion

/-- A write that is answered OKAY is confirmed. -/
theorem InPlace.confirms (placed : InPlace p s m payloads) (state : s.writer.state = .write)
    (going : s.account.isOpen = true) (sound : s.account.axiFails = false)
    (checked : Checked p s.account s.writer false)
    (loop : WriteLoop p s.account (requestOf s.account.before s.account.words).data s.writer)
    (room : payloads.flatten.length + (requestOf s.account.before s.account.words).data.length ≤ 2 ^ 64)
    (fires : s.writer.bFires i = true) (okay : i.bresp = 0) :
    HoldsAt (2 ^ 64) (m.step s.writer i).bytes p.ddrAddrBase
      (payloads.flatten ++ (wordBytes (s.account.words.drop 5)).take (32 * s.account.writes.length)) := by
  obtain ⟨some_data, small, aligned⟩ := checked.range
  have long := checked.good.count.2.1 checked.opcode
  rw [List.length_drop] at long
  have inRange := (judge_check checked.verdict).2.2.2.2.1
  have all := (eq_dataWords checked.good checked.opcode inRange).2
  have below := loop.below
  obtain ⟨address, data⟩ := placed.issued state loop.failed
  have writes : s.account.writes.length = s.writer.writeIndex + 1 := by
    rw [loop.count state, imageWrites, List.length_map, List.length_range]
  have held := placed.held
  rw [confirmed_write going sound state, writes, Nat.add_sub_cancel] at held
  have confirmed : (payloads.flatten ++ (wordBytes (s.account.words.drop 5)).take (32 * s.writer.writeIndex)).length =
      payloads.flatten.length + 32 * s.writer.writeIndex := by
    rw [List.length_append, List.length_take, length_wordBytes, all]
    omega
  have next (fits : _ ≤ 2 ^ 64) := @HoldsAt.store_next _ _ _
    (littleEndian 32 (bankWord (dataWord s.account.words) s.writer.writeIndex).toNat) _ held fits
  rw [placed.bus.bytes_answered fires, if_pos okay, address, data, store_mod, writes, Nat.mul_succ, List.take_add,
    ← littleEndian_bankWord (by omega), ← List.append_assoc, ← confirmed]
  refine next ?_
  rw [confirmed, length_littleEndian]
  omega

theorem InPlace.writes (placed : InPlace p s m payloads) (state : s.writer.state = .write)
    (going : s.account.isOpen = true) (pulses : s.account.pulses = []) (sound : s.account.axiFails = false)
    (checked : Checked p s.account s.writer false)
    (loop : WriteLoop p s.account (requestOf s.account.before s.account.words).data s.writer)
    (room : payloads.flatten.length + (requestOf s.account.before s.account.words).data.length ≤ 2 ^ 64) :
    InPlace p (s.step p i) (m.step s.writer i)
      ((s.answered p i).foldl (fun payloads t => t.uploads payloads) payloads) := by
  have stepped : s.writer.step p i = s.writer.stepWrite p i := by rw [step, state]
  have pulse : (s.writer.step p i).pulse = none := by
    rw [stepped, stepWrite]
    dsimp only
    split_ifs <;> rfl
  have account := writing_account (p := p) (i := i) state pulse
  have bus := placed.bus.step p i
  have below := loop.below
  obtain ⟨channels, leaves, stays⟩ := step_write (p := p) (i := i) state
  rw [stepWrite] at stepped
  cases fires : s.writer.bFires i with
  | true =>
    have in_time : s.writer.timesOut p i = false := by simp [UploadWriter.timesOut, fires]
    have quiet : s.writer.raises p i = false := by simp [UploadWriter.raises, in_time, state]
    rw [not_answered quiet, List.foldl_nil]
    rw [in_time, Bool.not_false, Bool.and_true, axiFails, loop.failed, fires, in_time, Bool.not_false, Bool.true_and,
      Bool.true_and, Bool.or_false, sound, Bool.false_or] at account
    by_cases okay : i.bresp = 0
    · rw [decide_eq_false (not_not.mpr okay), ← sound] at account
      refine inPlace_away bus (leaves fires) ?_
      rw [confirmed_away (by rw [AccountedWriter.step, account, going]) (by rw [AccountedWriter.step, account, sound])
        (leaves fires), AccountedWriter.step, account]
      exact placed.confirms state going sound checked loop room fires okay
    · rw [decide_eq_true okay] at account
      refine placed.dropped bus ?_ (leaves fires) (confirmed_none (.inr (.inl ?_)))
      · rw [placed.bus.bytes_answered fires, if_neg okay]
      · rw [AccountedWriter.step, account]
  | false =>
    obtain ⟨still, -, -⟩ := stays fires
    have bytes := bytes_still (m := m) fires
    obtain ⟨address, data⟩ := placed.issued state loop.failed
    rw [fires, if_neg Bool.false_ne_true] at stepped
    cases late : s.writer.timesOut p i with
    | true =>
      -- the write stays under way, behind everything the answered packets have stored
      rw [late, if_pos rfl] at stepped
      have answer : (s.answered p i).foldl (fun payloads t => t.uploads payloads) payloads = payloads := by
        rw [AccountedWriter.answered, UploadWriter.raises, late, Bool.or_true, if_pos rfl, List.foldl_cons, List.foldl_nil]
        refine Transaction.uploads_none pulses fun stored => ?_
        have status : (s.writer.step p i).response.status = statusTimeout := by rw [stepped]
        exact absurd (status.symm.trans stored.2.1) (by decide)
      have failed : (s.writer.step p i).writeFailed = true := by rw [stepped]
      rw [answer]
      refine ⟨bus, ?_, fun _ sound => absurd (failed.symm.trans sound) Bool.noConfusion,
        fun _ _ => ⟨payloads.flatten.length + 32 * s.writer.writeIndex, ?_, Nat.le_add_right _ _, by omega⟩⟩
      · rw [confirmed_none (.inl (by rw [AccountedWriter.step, account, late]; exact Bool.and_false _)), List.append_nil,
          bytes]
        exact placed.held.of_append
      · change (s.writer.step p i).channels.awaddr = _
        rw [channels]
        exact address
    | false =>
      rw [late, if_neg Bool.false_ne_true] at stepped
      have quiet : s.writer.raises p i = false := by simp [UploadWriter.raises, late, state]
      rw [late, Bool.not_false, Bool.and_true, axiFails, fires, late, Bool.false_and, Bool.or_false, Bool.and_false,
        Bool.or_false] at account
      rw [not_answered quiet, List.foldl_nil, AccountedWriter.step, account, stepped]
      rw [stepped] at bus
      refine ⟨bus, ?_, fun _ _ => ⟨address, data⟩,
        fun _ failed => absurd (failed.symm.trans loop.failed) Bool.noConfusion⟩
      rw [bytes]
      exact placed.held

/-- A write that has been given up is still answered. -/
theorem InPlace.drains (placed : InPlace p s m payloads) (state : s.writer.state = .write)
    (closed : s.account.isOpen = false) (failed : s.writer.writeFailed = true) :
    InPlace p (s.step p i) (m.step s.writer i) payloads := by
  have in_time : s.writer.timesOut p i = false := by simp [UploadWriter.timesOut, failed]
  have still : (s.nextAccount p i).isOpen = false := by
    rw [AccountedWriter.nextAccount, not_starts (by simp [state]), if_neg Bool.false_ne_true]
    exact congrArg (· && _ && _) closed
  have none : (s.step p i).confirmed = [] := confirmed_none (.inl still)
  have bus := placed.bus.step p i
  have held := placed.held.of_append
  obtain ⟨channels, leaves, stays⟩ := step_write (p := p) (i := i) state
  obtain ⟨distance, address, behind, fits⟩ := placed.late state failed
  cases fires : s.writer.bFires i with
  | true =>
    refine inPlace_away bus (leaves fires) ?_
    rw [none, List.append_nil, placed.bus.bytes_answered fires, address, store_mod]
    split_ifs
    · exact held.store_behind behind (by rw [length_littleEndian]; exact fits)
    · exact held
  | false =>
    have stepped : s.writer.step p i = s.writer.common p i := by
      rw [step, state]
      dsimp only
      rw [stepWrite, fires, if_neg Bool.false_ne_true, in_time, if_neg Bool.false_ne_true]
    refine ⟨bus, ?_, fun _ sound => ?_, fun _ _ => ⟨distance, ?_, behind, fits⟩⟩
    · rw [none, List.append_nil, bytes_still fires]
      exact held
    · change (s.writer.step p i).writeFailed = false at sound
      rw [stepped] at sound
      exact absurd (failed.symm.trans sound) Bool.noConfusion
    · change (s.writer.step p i).channels.awaddr = _
      rw [channels]
      exact address

/-- An answer leaves what is stored where it is; a payload that has been stored counts from now on. -/
theorem InPlace.answers (placed : InPlace p s m payloads) (state : s.writer.state = .emit)
    (going : s.account.isOpen = true) (lawful : (toAnswer s.account s.writer (emitStatus s.writer)).Lawful p) :
    InPlace p (s.step p i) (m.step s.writer i)
      ((s.answered p i).foldl (fun payloads t => t.uploads payloads) payloads) := by
  have quiet : s.writer.state ≠ .write := by simp [state]
  have bus := placed.bus.step p i
  have away := (step_channels (p := p) (i := i) (by simp [state] : s.writer.state ≠ .readLoad) quiet).2
  have raises : s.writer.raises p i = true := by simp [UploadWriter.raises, state]
  have none : (s.step p i).confirmed = [] := by
    refine confirmed_none (.inl ?_)
    change (s.nextAccount p i).isOpen = false
    rw [AccountedWriter.nextAccount, not_starts (by simp [state]), if_neg Bool.false_ne_true, raises, Bool.not_true,
      Bool.and_false, Bool.false_and]
  rw [answered_emit state, List.foldl_cons, List.foldl_nil]
  refine inPlace_away bus away ?_
  rw [none, List.append_nil, bytes_still (bFires_elsewhere quiet), Transaction.uploads]
  split_ifs with begins stores
  · exact holdsAt_nil
  · obtain ⟨good, verdict, writes, sound⟩ := lawful.written stores.1 stores.2.1 stores.2.2
    obtain ⟨opcode, -, -, -, inRange, -, -⟩ := judge_check verdict
    have length := length_payload good opcode inRange
    have long := good.count.2.1 opcode
    rw [List.length_drop] at long
    have aligned := (range_of_rangeOk (by omega) inRange).2.2.1
    have issued : s.account.writes.length =
        (toAnswer s.account s.writer (emitStatus s.writer)).request.data.length / 32 := by
      rw [show s.account.writes = imageWrites _ _ _ _ from writes, imageWrites, List.length_map, List.length_range]
    have whole : (wordBytes (s.account.words.drop 5)).length ≤ 32 * s.account.writes.length := by
      rw [show (wordBytes (s.account.words.drop 5)).length = _ from length, issued]
      change (toAnswer s.account s.writer (emitStatus s.writer)).request.data.length % 32 = 0 at aligned
      omega
    have held := placed.held
    rw [confirmed_away going sound quiet, List.take_of_length_le whole] at held
    rw [List.flatten_append, List.flatten_singleton]
    exact held
  · exact placed.held.of_append

/-- Every cycle of the writer keeps the payloads in their places. -/
theorem InPlace.step (placed : InPlace p s m payloads) (phase : Phase p s.account s.writer)
    (counts : Counts p s.settled payloads) (i : WriterIn) :
    InPlace p (s.step p i) (m.step s.writer i)
      ((s.answered p i).foldl (fun payloads t => t.uploads payloads) payloads) := by
  have silent (quiet : s.writer.state ≠ .write) (no_emit : s.writer.state ≠ .emit)
      (kept : InPlace p (s.step p i) (m.step s.writer i) payloads) : InPlace p (s.step p i) (m.step s.writer i)
        ((s.answered p i).foldl (fun payloads t => t.uploads payloads) payloads) := by
    rw [not_answered (raises_false quiet no_emit)]
    exact kept
  cases phase with
  | idle state closed =>
    exact silent (by simp [state]) (by simp [state])
      (placed.unwritten (by simp [state]) (by simp [state]) (.inl closed))
  | hdr0 state fresh | hdr1 state fresh | payload state fresh | drop state fresh | judging state fresh
  | checked state fresh =>
    exact silent (by simp [state]) (by simp [state])
      (placed.unwritten (by simp [state]) (by simp [state]) (.inr fresh.writes))
  | checking state fresh _ _ _ loop =>
    have quiet : s.writer.state ≠ .write := by rcases state with state | state | state <;> simp [state]
    have no_emit : s.writer.state ≠ .emit := by rcases state with state | state | state <;> simp [state]
    exact silent quiet no_emit (placed.unwritten quiet (fun _ => loop.reading) (.inr fresh.writes))
  | writing state going core pulses axi _ _ checked _ loop =>
    have settled : s.settled = s.account.before := by rw [AccountedWriter.settled, going, if_pos rfl]
    rw [settled] at counts
    obtain ⟨-, -, active, -⟩ := judge_check checked.verdict
    obtain ⟨place, within⟩ := checked_place checked.good checked.verdict
    have live : s.account.before.uploadActive = true ∨ s.account.before.committed = true := .inl active
    have received := counts.received live
    have capacity := (counts.within live).2.1
    rw [ddrCapacityBytes] at capacity
    rcases state with state | state | state
    · exact silent (by simp [state]) (by simp [state]) (placed.reads state)
    · exact silent (by simp [state]) (by simp [state])
        (placed.issues state going axi checked loop (place.trans received))
    · refine placed.writes state going pulses axi checked loop ?_
      rw [← received, ← place]
      omega
  | draining state closed failed =>
    have quiet : s.writer.raises p i = false := by simp [UploadWriter.raises, UploadWriter.timesOut, failed, state]
    rw [not_answered quiet]
    exact placed.drains state closed failed
  | emitting state going _ whole opcode seq outcome => exact placed.answers state going ⟨whole, seq, opcode, outcome⟩

/-- In every run the memory holds what the answered packets have uploaded. -/
theorem inPlace_run (p : WriterParams) (initial : Nat → Wire.Byte) (is : List WriterIn) :
    InPlace p ((writerWithMemory p initial).run (writerWithMemory p initial).reset is).1
      ((writerWithMemory p initial).run (writerWithMemory p initial).reset is).2 (uploaded (answers p is)) := by
  induction is using List.reverseRecOn with
  | nil =>
    refine inPlace_away ⟨fun _ => ⟨rfl, rfl, rfl, rfl⟩, nofun, nofun⟩ WriterState.noConfusion ?_
    exact holdsAt_nil
  | append_singleton is i ih =>
    have phase := (run_lawful p is).1
    have counts := counts_run p is
    have same := writerWithMemory_run p initial (writerWithMemory p initial).reset is
    rw [← show _ = (accountedWriter p).run (.reset p) is from same] at phase counts
    have longer : uploaded (answers p (is ++ [i])) =
        (((writerWithMemory p initial).run (writerWithMemory p initial).reset is).1.answered p i).foldl
          (fun payloads t => t.uploads payloads) (uploaded (answers p is)) := by
      rw [show _ = (accountedWriter p).run (.reset p) is from same]
      simp [answers, uploaded]
    rw [longer, Clocked.Machine.run_append]
    exact ih.step phase counts i

end Placing

/-- What the memory and the registers of a session say about the payloads that the answered packets
have uploaded. -/
structure Uploads (p : WriterParams) (payloads : List (List Wire.Byte)) (c : UploadCore) (m : DdrMemory) : Prop where
  held : HoldsAt (2 ^ 64) m.bytes p.ddrAddrBase payloads.flatten
  beats : ∀ payload ∈ payloads, 32 ≤ payload.length ∧ payload.length % 32 = 0
  packets : c.uploadActive = true ∨ c.committed = true → c.nextPacketSeq = payloads.length
  received : c.uploadActive = true ∨ c.committed = true → c.receivedBytes = payloads.flatten.length
  within : c.uploadActive = true ∨ c.committed = true → c.receivedBytes ≤ c.totalBytes ∧ c.totalBytes ≤ ddrCapacityBytes
  whole : c.committed = true → payloads.flatten.length = c.totalBytes ∧ c.totalBytes = c.totalBeats * 256

/-- The memory behind the writer holds the payloads of the DATA packets answered OK since the last
accepted BEGIN, each once, in the order of their answers and without a gap, from the base address
on: at every point of every run, through refused and repeated packets, failed and late writes and
every stalling of the channels. An open or committed session counts exactly these payloads. -/
theorem ddr_holds_uploaded (p : WriterParams) (initial : Nat → Wire.Byte) (is : List WriterIn) :
    Uploads p (uploaded (answers p is)) ((accountedWriter p).run (.reset p) is).settled
      ((writerWithMemory p initial).run (writerWithMemory p initial).reset is).2 := by
  have placed := inPlace_run p initial is
  have counts := counts_run p is
  refine ⟨placed.held.of_append, counts.sized, counts.packets, counts.received,
    fun live => ⟨(counts.within live).1, (counts.within live).2.1⟩, fun done => ⟨?_, (counts.within (.inr done)).2.2⟩⟩
  rw [← counts.received (.inr done)]
  exact counts.whole done

end Xczu47dr.Upload
