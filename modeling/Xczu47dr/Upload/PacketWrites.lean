import Xczu47dr.Upload.PacketVerdicts

/-! # The CRC check and the writes of a packet

The CRC loop runs over the words that were buffered, and only a packet whose CRC
matches goes on to write them, 32 bytes at a time.
-/

namespace Xczu47dr.Upload

open UploadWriter

section Checking

variable {p : WriterParams} {s : AccountedWriter} {i : WriterIn}

/-- The data of a checked packet is in range. -/
theorem Checked.range {a : Account} {w : UploadWriter} {duplicate : Bool} (checked : Checked p a w duplicate) :
    (requestOf a.before a.words).data.length ≠ 0 ∧ (requestOf a.before a.words).data.length ≤ 1408 ∧
      (requestOf a.before a.words).data.length % 32 = 0 := by
  have long := checked.good.count.2.1 checked.opcode
  rw [List.length_drop] at long
  obtain ⟨-, -, -, -, ok, -, -⟩ := judge_check checked.verdict
  obtain ⟨some_data, small, aligned, -⟩ := range_of_rangeOk (by omega) ok
  exact ⟨some_data, small, aligned⟩

theorem Checked.congr {a : Account} {w w' : UploadWriter} {duplicate : Bool} (checked : Checked p a w duplicate)
    (request : w'.request = w.request) (memory : w'.dataMem = w.dataMem) : Checked p a w' duplicate where
  good := checked.good
  opcode := checked.opcode
  verdict := checked.verdict
  data := by rw [request, checked.data]
  memory := by rw [memory]; exact checked.memory

theorem CrcLoop.bit {length : Nat} {w : UploadWriter} (loop : CrcLoop length w) (state : w.state = .crc) :
    w.crcShift.getLsbD 0 = memBit w.dataMem w.crcCheckBitIndex := by
  rw [loop.shifted state, BitVec.getLsbD_ushiftRight, Nat.add_zero, bankWord_bit _ _ (Nat.mod_lt _ (by decide)),
    loop.address]
  exact congrArg (memBit w.dataMem) (Nat.div_add_mod _ 256)

/-- The CRC of what is buffered is that of the packet. -/
theorem Checked.crc_eq {a : Account} {w : UploadWriter} {duplicate : Bool} (checked : Checked p a w duplicate) :
    crcAfter w.dataMem (8 * (requestOf a.before a.words).data.length) =
      crcAfter (dataWord a.words) (8 * (requestOf a.before a.words).data.length) := by
  obtain ⟨-, -, aligned⟩ := checked.range
  exact crcAfter_congr checked.memory _ (Nat.le_refl _) (by omega)

theorem checking_account (state : s.writer.state = .readWait ∨ s.writer.state = .readLoad ∨ s.writer.state = .crc ∨
      s.writer.state = .crcDone) (reading : s.writer.state = .readLoad → s.writer.readingCrc = true)
    (pulse : (s.writer.step p i).pulse = none) : s.nextAccount p i = s.account := by
  have quiet : s.writer.receives i = false := by
    apply receives_false
    rcases state with state | state | state | state <;> simp [state]
  rw [nextAccount_plain _ _ reading pulse _ _ (givesUp_false _), quiet, if_neg Bool.false_ne_true] <;>
    rcases state with state | state | state | state <;> simp [state]

theorem crc_next (state : s.writer.state = .crc)
    (fresh : Fresh s.account s.writer) (header : Header s.account.words s.writer)
    (sound : s.writer.packetError = false) (checked : Checked p s.account s.writer s.writer.duplicatePacket)
    (loop : CrcLoop (requestOf s.account.before s.account.words).data.length s.writer) :
    Phase p (s.nextAccount p i) (s.writer.step p i) := by
  have stepped : s.writer.step p i = s.writer.stepCrc p i := by rw [step, state]
  have memory : (s.writer.common p i).dataMem = s.writer.dataMem := common_dataMem _ _ _ (by simp [state])
  have pulse : (s.writer.step p i).pulse = none := by
    rw [stepped, stepCrc]
    dsimp only
    split_ifs <;> rfl
  have account := checking_account (p := p) (i := i) (.inr (.inr (.inl state))) (by simp [state]) pulse
  have below := loop.below
  have total := loop.total
  obtain ⟨some_data, small, aligned⟩ := checked.range
  have running : crc32Bit s.writer.dataCrcRunning (s.writer.crcShift.getLsbD 0) =
      crcAfter s.writer.dataMem (s.writer.crcCheckBitIndex + 1) := by
    rw [crcAfter_succ, ← loop.running, loop.bit state]
  have index : (s.writer.crcCheckBitIndex + 1) % 2 ^ 14 = s.writer.crcCheckBitIndex + 1 := by omega
  rw [account, stepped, stepCrc]
  dsimp only
  rw [index, running]
  by_cases last : s.writer.crcCheckTotalBits ≤ s.writer.crcCheckBitIndex + 1
  · rw [if_pos last]
    have all : s.writer.crcCheckBitIndex + 1 = 8 * (requestOf s.account.before s.account.words).data.length := by omega
    refine .checked rfl ((fresh.common p i).congr rfl rfl rfl) (header.congr rfl rfl) sound (checked.congr rfl memory) ?_
    change ((crcAfter _ _ ^^^ _).toNat == s.writer.request.data.crcExpected) = _
    rw [all, checked.crc_eq, checked.data, beq_eq_decide]
    rfl
  · rw [if_neg last]
    by_cases edge : s.writer.crcCheckBitIndex % 256 = 255
    · rw [if_pos edge]
      refine .checking (.inl rfl) ((fresh.common p i).congr rfl rfl rfl) (header.congr rfl rfl) sound
        (checked.congr rfl memory)
        ⟨loop.reading, total, ?_, congrArg (crcAfter · _) memory.symm, ?_, fun _ => ?_,
          fun bad => WriterState.noConfusion bad, fun bad => WriterState.noConfusion bad⟩
      · dsimp only
        omega
      · have address := loop.address
        dsimp only
        omega
      · dsimp only
        omega
    · rw [if_neg edge]
      refine .checking (.inr (.inr state)) ((fresh.common p i).congr rfl rfl rfl) (header.congr rfl rfl) sound
        (checked.congr rfl memory)
        ⟨loop.reading, total, ?_, congrArg (crcAfter · _) memory.symm, ?_, fun bad => absurd state bad,
          fun bad => ?_, fun _ => ?_⟩
      · dsimp only
        omega
      · have address := loop.address
        change s.writer.packetReadAddr = (s.writer.crcCheckBitIndex + 1) / 256
        omega
      · exact WriterState.noConfusion (state.symm.trans bad)
      · change s.writer.crcShift >>> 1 = bankWord (s.writer.common p i).dataMem s.writer.packetReadAddr >>>
          ((s.writer.crcCheckBitIndex + 1) % 256)
        rw [memory, loop.shifted state, ← BitVec.shiftRight_add]
        exact congrArg _ (by omega)

theorem checking_next (state : s.writer.state = .readWait ∨ s.writer.state = .readLoad ∨ s.writer.state = .crc)
    (fresh : Fresh s.account s.writer) (header : Header s.account.words s.writer)
    (sound : s.writer.packetError = false) (checked : Checked p s.account s.writer s.writer.duplicatePacket)
    (loop : CrcLoop (requestOf s.account.before s.account.words).data.length s.writer) :
    Phase p (s.nextAccount p i) (s.writer.step p i) := by
  have memory : (s.writer.common p i).dataMem = s.writer.dataMem :=
    common_dataMem _ _ _ (by rcases state with state | state | state <;> simp [state])
  have below := loop.below
  obtain ⟨some_data, small, aligned⟩ := checked.range
  rcases state with state | state | state
  · have stepped : s.writer.step p i = { s.writer.common p i with state := .readLoad } := by rw [step, state]
    have account := checking_account (p := p) (i := i) (.inl state) (fun _ => loop.reading) (by rw [stepped]; rfl)
    rw [account, stepped]
    refine .checking (.inr (.inl rfl)) ((fresh.common p i).congr rfl rfl rfl) (header.congr rfl rfl) sound
      (checked.congr rfl memory)
      ⟨loop.reading, loop.total, below, ?_, loop.address, fun _ => loop.aligned (by simp [state]), fun _ => ?_,
        fun bad => WriterState.noConfusion bad⟩
    · change s.writer.dataCrcRunning = crcAfter (s.writer.common p i).dataMem s.writer.crcCheckBitIndex
      rw [memory]
      exact loop.running
    · change bankWord s.writer.dataMem s.writer.packetReadAddr = bankWord (s.writer.common p i).dataMem _
      rw [memory]
      rfl
  · have stepped : s.writer.step p i =
        { s.writer.common p i with crcShift := s.writer.packetReadData, state := .crc } := by
      rw [step, state]
      dsimp only
      rw [stepReadLoad, loop.reading, if_pos rfl]
    have account := checking_account (p := p) (i := i) (.inr (.inl state)) (fun _ => loop.reading)
      (by rw [stepped]; rfl)
    have start := loop.aligned (by simp [state])
    rw [account, stepped]
    refine .checking (.inr (.inr rfl)) ((fresh.common p i).congr rfl rfl rfl) (header.congr rfl rfl) sound
      (checked.congr rfl memory)
      ⟨loop.reading, loop.total, below, ?_, loop.address, fun bad => absurd rfl bad,
        fun bad => WriterState.noConfusion bad, fun _ => ?_⟩
    · change s.writer.dataCrcRunning = crcAfter (s.writer.common p i).dataMem s.writer.crcCheckBitIndex
      rw [memory]
      exact loop.running
    · change s.writer.packetReadData = bankWord (s.writer.common p i).dataMem s.writer.packetReadAddr >>>
        (s.writer.crcCheckBitIndex % 256)
      rw [memory, start, loop.loaded state]
      rfl
  · exact crc_next state fresh header sound checked loop

theorem checked_next (state : s.writer.state = .crcDone) (fresh : Fresh s.account s.writer)
    (header : Header s.account.words s.writer) (sound : s.writer.packetError = false)
    (checked : Checked p s.account s.writer s.writer.duplicatePacket)
    (result : s.writer.crcResultOk = decide (CrcMatches s.account.words (requestOf s.account.before s.account.words))) :
    Phase p (s.nextAccount p i) (s.writer.step p i) := by
  have stepped : s.writer.step p i = s.writer.stepCrcDone p i := by rw [step, state]
  have memory : (s.writer.common p i).dataMem = s.writer.dataMem := common_dataMem _ _ _ (by simp [state])
  have pulse : (s.writer.step p i).pulse = none := by
    rw [stepped, stepCrcDone]
    dsimp only
    split_ifs <;> rfl
  have account := checking_account (p := p) (i := i) (.inr (.inr (.inr state))) (by simp [state]) pulse
  have clean : s.writer.response.status = statusOk := by rw [fresh.status, sound, if_neg Bool.false_ne_true]
  have idle : (s.writer.response.valid && !i.responseReady) = false := by rw [fresh.valid, Bool.false_and]
  obtain ⟨some_data, small, aligned⟩ := checked.range
  rw [account, stepped, stepCrcDone]
  by_cases crc : CrcMatches s.account.words (requestOf s.account.before s.account.words)
  · rw [decide_eq_true crc] at result
    rw [result, if_neg (fun bad => Bool.noConfusion bad)]
    cases again : s.writer.duplicatePacket with
    | true =>
      rw [if_pos rfl]
      rw [again] at checked
      exact .emitting rfl fresh.isOpen idle header.whole header.opcode header.seq
        (.repeated checked.good checked.opcode checked.verdict crc
          ((emitStatus_unlatched header.unlatched).trans clean) ⟨fresh.core, fresh.pulses, fresh.writes, fresh.axi⟩)
    | false =>
      rw [if_neg Bool.false_ne_true]
      rw [again] at checked
      refine .writing (.inl rfl) fresh.isOpen fresh.core fresh.pulses fresh.axi idle (header.congr rfl rfl)
        (checked.congr rfl memory) crc ?_
      dsimp only
      rw [checked.data]
      exact ⟨rfl, rfl, rfl, rfl, by dsimp only; omega, rfl, rfl, fun bad => WriterState.noConfusion bad, fresh.writes⟩
  · rw [decide_eq_false crc] at result
    rw [result, if_pos rfl]
    exact .emitting rfl fresh.isOpen idle header.whole header.opcode header.seq
      (.badCrc checked.good checked.opcode s.writer.duplicatePacket checked.verdict crc
        (emitStatus_unlatched header.unlatched) ⟨fresh.core, fresh.pulses, fresh.writes, fresh.axi⟩)

end Checking

section Writing

variable {p : WriterParams} {s : AccountedWriter} {i : WriterIn}

theorem imageWrites_succ (p : WriterParams) (words : List Word) (offset count : Nat) :
    imageWrites p words offset (count + 1) =
      imageWrites p words offset count ++ [((p.ddrAddrBase + offset + count * 32) % 2 ^ 64, bankWord (dataWord words) count)] := by
  rw [imageWrites, imageWrites, List.range_succ, List.map_append, List.map_singleton]

/-- What is kept of a packet while a write is under way. -/
theorem writing_account (state : s.writer.state = .write) (pulse : (s.writer.step p i).pulse = none) :
    s.nextAccount p i =
      { s.account with
        axiFails := s.account.axiFails || s.writer.axiFails p i
        isOpen := s.account.isOpen && !s.writer.timesOut p i } := by
  have load : ¬ (s.writer.state = .readLoad ∧ s.writer.readingCrc = false) := by simp [state]
  have raises : s.writer.raises p i = s.writer.timesOut p i := by simp [UploadWriter.raises, state]
  have unjudged : s.writer.state ≠ .final := by simp [state]
  rw [AccountedWriter.nextAccount, not_starts (by simp [state]), if_neg Bool.false_ne_true, if_neg unjudged,
    if_neg load, receives_false (by simp [state]), if_neg Bool.false_ne_true, raises,
    givesUp_false (by simp [state]), pulse, Option.toList_none, List.append_nil, Bool.not_false, Bool.and_true]

theorem WriteLoop.issues {a : Account} {w : UploadWriter} (checked : Checked p a w false)
    (loop : WriteLoop p a (requestOf a.before a.words).data w) (state : w.state = .readLoad) :
    w.packetReadData = bankWord (dataWord a.words) w.writeIndex := by
  rw [loop.loaded state, loop.address]
  refine bankWord_congr fun k below => checked.memory k ?_
  have more := loop.below
  omega

/-- What is kept of a packet while a write is issued. -/
theorem issuing_account (state : s.writer.state = .readLoad) (reading : s.writer.readingCrc = false) :
    s.nextAccount p i = { s.account with writes := s.account.writes ++
      [((s.writer.step p i).channels.awaddr, (s.writer.step p i).channels.wdata)] } := by
  have issued : s.writer.state = .readLoad ∧ s.writer.readingCrc = false := ⟨state, reading⟩
  have unjudged : s.writer.state ≠ .final := by simp [state]
  have pulse : (s.writer.step p i).pulse = none := by
    rw [step, state]
    dsimp only
    rw [stepReadLoad, reading, if_neg Bool.false_ne_true]
    rfl
  rw [AccountedWriter.nextAccount, not_starts (by simp [state]), if_neg Bool.false_ne_true, if_neg unjudged,
    if_pos issued, receives_false (by simp [state]), if_neg Bool.false_ne_true, axiFails_false (by simp [state]),
    raises_false (by simp [state]) (by simp [state]), givesUp_false (by simp [state]), pulse, Option.toList_none,
    List.append_nil, Bool.not_false, Bool.and_true, Bool.and_true, Bool.or_false]

theorem writing_next (state : s.writer.state = .readWait ∨ s.writer.state = .readLoad) (isOpen : s.account.isOpen = true)
    (core : s.writer.core = s.account.before) (pulses : s.account.pulses = []) (axi : s.account.axiFails = false)
    (valid : s.writer.response.valid = false) (header : Header s.account.words s.writer)
    (checked : Checked p s.account s.writer false)
    (crc : CrcMatches s.account.words (requestOf s.account.before s.account.words))
    (loop : WriteLoop p s.account (requestOf s.account.before s.account.words).data s.writer) :
    Phase p (s.nextAccount p i) (s.writer.step p i) := by
  have memory : (s.writer.common p i).dataMem = s.writer.dataMem :=
    common_dataMem _ _ _ (by rcases state with state | state <;> simp [state])
  have idle : (s.writer.response.valid && !i.responseReady) = false := by rw [valid, Bool.false_and]
  rcases state with state | state
  · have stepped : s.writer.step p i = { s.writer.common p i with state := .readLoad } := by rw [step, state]
    have account := checking_account (p := p) (i := i) (.inl state) (by simp [state]) (by rw [stepped]; rfl)
    have writes := loop.writes
    rw [state, if_neg (fun bad => WriterState.noConfusion bad)] at writes
    rw [account, stepped]
    refine .writing (.inr (.inl rfl)) isOpen core pulses axi idle (header.congr rfl rfl) (checked.congr rfl memory) crc
      ⟨loop.reading, loop.total, loop.length, loop.offset, loop.below, loop.address, loop.failed, fun _ => ?_, writes⟩
    change bankWord s.writer.dataMem s.writer.packetReadAddr = bankWord (s.writer.common p i).dataMem _
    rw [memory]
    rfl
  · have stepped : s.writer.step p i = s.writer.stepReadLoad p i := by rw [step, state]
    rw [stepReadLoad, loop.reading, if_neg Bool.false_ne_true] at stepped
    have account := issuing_account (p := p) (i := i) state loop.reading
    have writes := loop.writes
    rw [state, if_neg (fun bad => WriterState.noConfusion bad), Nat.add_zero] at writes
    rw [account, stepped]
    refine .writing (.inr (.inr rfl)) isOpen core pulses axi idle (header.congr rfl rfl) ?_ crc
      ⟨loop.reading, loop.total, loop.length, loop.offset, loop.below, loop.address, loop.failed,
        fun bad => WriterState.noConfusion bad, ?_⟩
    · exact ⟨checked.good, checked.opcode, checked.verdict, checked.data, by
        rw [memory]
        exact checked.memory⟩
    · dsimp only
      rw [if_pos rfl, imageWrites_succ, writes, loop.issues checked state, loop.offset]
      rfl

/-- The write loop after its last issued write. -/
theorem WriteLoop.count {a : Account} {w : UploadWriter} {d : DataFields} (loop : WriteLoop p a d w)
    (state : w.state = .write) : a.writes = imageWrites p a.words d.offset (w.writeIndex + 1) := by
  have writes := loop.writes
  rwa [state, if_pos rfl] at writes

/-- What is stored is a function of the packet. -/
theorem stores_congr (c : UploadCore) (length : Nat) {r r' : UploadRequest} (seq : r.seq = r'.seq)
    (data : r.data = r'.data) : c.stores r length = c.stores r' length := by
  rw [UploadCore.stores, UploadCore.stores, seq, data]

theorem write_next (state : s.writer.state = .write) (isOpen : s.account.isOpen = true)
    (core : s.writer.core = s.account.before) (pulses : s.account.pulses = []) (axi : s.account.axiFails = false)
    (valid : s.writer.response.valid = false) (header : Header s.account.words s.writer)
    (checked : Checked p s.account s.writer false)
    (crc : CrcMatches s.account.words (requestOf s.account.before s.account.words))
    (loop : WriteLoop p s.account (requestOf s.account.before s.account.words).data s.writer) :
    Phase p (s.nextAccount p i) (s.writer.step p i) := by
  have stepped : s.writer.step p i = s.writer.stepWrite p i := by rw [step, state]
  have memory : (s.writer.common p i).dataMem = s.writer.dataMem := common_dataMem _ _ _ (by simp [state])
  have idle : (s.writer.response.valid && !i.responseReady) = false := by rw [valid, Bool.false_and]
  have pulse : (s.writer.step p i).pulse = none := by
    rw [stepped, stepWrite]
    dsimp only
    split_ifs <;> rfl
  have account := writing_account (p := p) (i := i) state pulse
  have writes := loop.count state
  have below := loop.below
  have total := loop.total
  obtain ⟨some_data, small, aligned⟩ := checked.range
  rw [stepWrite] at stepped
  cases fires : s.writer.bFires i with
  | true =>
    have in_time : s.writer.timesOut p i = false := by simp [UploadWriter.timesOut, fires]
    rw [fires, if_pos rfl, loop.failed, if_neg Bool.false_ne_true] at stepped
    rw [in_time, Bool.not_false, Bool.and_true, axiFails, loop.failed, fires, in_time, Bool.not_false, Bool.true_and,
      Bool.true_and, Bool.or_false, axi, Bool.false_or] at account
    by_cases error : i.bresp ≠ 0
    · rw [if_pos error] at stepped
      rw [decide_eq_true error] at account
      rw [account, stepped]
      exact .emitting rfl isOpen idle header.whole header.opcode header.seq
        (.failed checked.good checked.opcode checked.verdict crc (.inl (emitStatus_unlatched header.unlatched))
          (congrArg UploadCore.fails core) pulses _ ⟨Nat.le_add_left 1 _, below⟩ writes rfl)
    · rw [if_neg error] at stepped
      rw [decide_eq_false error, ← axi] at account
      by_cases last : s.writer.writeWordsTotal ≤ s.writer.writeIndex + 1
      · rw [if_pos last] at stepped
        have all : s.writer.writeIndex + 1 = (requestOf s.account.before s.account.words).data.length / 32 := by omega
        rw [account, stepped]
        refine .emitting rfl isOpen idle header.whole header.opcode header.seq
          (.stored checked.good checked.opcode checked.verdict crc (emitStatus_unlatched header.unlatched)
            ?_ pulses ?_ axi)
        · change s.writer.core.stores s.writer.request s.writer.writeLength = _
          rw [core, loop.length]
          exact stores_congr _ _ header.seq checked.data
        · change s.account.writes = imageWrites _ _ _ _
          rw [writes, all]
          rfl
      · rw [if_neg last] at stepped
        have index : (s.writer.writeIndex + 1) % 2 ^ 32 = s.writer.writeIndex + 1 := by omega
        have address : (s.writer.packetReadAddr + 1) % 2 ^ 6 = s.writer.writeIndex + 1 := by
          rw [loop.address]
          omega
        rw [index, address] at stepped
        rw [account, stepped]
        refine .writing (.inl rfl) isOpen core pulses axi idle (header.congr rfl rfl) ?_ crc
          ⟨loop.reading, total, loop.length, loop.offset, ?_, rfl, loop.failed, fun bad => WriterState.noConfusion bad, writes⟩
        · exact checked.congr rfl memory
        · dsimp only
          omega
  | false =>
    rw [fires, if_neg Bool.false_ne_true] at stepped
    cases late : s.writer.timesOut p i with
    | true =>
      rw [late, if_pos rfl] at stepped
      rw [account, stepped, late]
      refine .draining state ?_ rfl
      exact Bool.and_false _
    | false =>
      rw [late, if_neg Bool.false_ne_true] at stepped
      rw [late, Bool.not_false, Bool.and_true, axiFails, fires, late, Bool.false_and, Bool.or_false, Bool.and_false,
        Bool.or_false] at account
      rw [account, stepped]
      refine .writing (.inr (.inr state)) isOpen core pulses axi idle (header.congr rfl rfl) (checked.congr rfl memory) crc
        ⟨loop.reading, total, loop.length, loop.offset, below, loop.address, loop.failed,
          fun bad => WriterState.noConfusion (state.symm.trans bad), loop.writes⟩

/-- A packet answered because the memory did not answer in time. -/
theorem timeout_lawful (state : s.writer.state = .write) (late : s.writer.timesOut p i = true)
    (core : s.writer.core = s.account.before) (pulses : s.account.pulses = [])
    (header : Header s.account.words s.writer) (checked : Checked p s.account s.writer false)
    (crc : CrcMatches s.account.words (requestOf s.account.before s.account.words))
    (loop : WriteLoop p s.account (requestOf s.account.before s.account.words).data s.writer) :
    ∀ t ∈ s.answered p i, t.Lawful p := by
  have silent : s.writer.bFires i = false := by
    cases fires : s.writer.bFires i with
    | false => rfl
    | true => simp [UploadWriter.timesOut, fires] at late
  have stepped : s.writer.step p i = s.writer.stepWrite p i := by rw [step, state]
  rw [stepWrite, silent, if_neg Bool.false_ne_true, late, if_pos rfl] at stepped
  have fails : s.writer.axiFails p i = true := by simp [axiFails, loop.failed, late]
  rw [AccountedWriter.answered, UploadWriter.raises, late, Bool.or_true, if_pos rfl, stepped, fails, Bool.or_true]
  intro t answered
  rw [List.mem_singleton] at answered
  subst answered
  refine ⟨header.whole, header.seq, header.opcode, ?_⟩
  exact .failed checked.good checked.opcode checked.verdict crc (.inr rfl) (congrArg UploadCore.fails core) pulses _
    ⟨Nat.le_add_left 1 _, loop.below⟩ (loop.count state) rfl

end Writing

section Answering

variable {p : WriterParams} {s : AccountedWriter} {i : WriterIn}

theorem draining_next (state : s.writer.state = .write) (closed : s.account.isOpen = false)
    (failed : s.writer.writeFailed = true) : Phase p (s.nextAccount p i) (s.writer.step p i) := by
  have stepped : s.writer.step p i = s.writer.stepWrite p i := by rw [step, state]
  have in_time : s.writer.timesOut p i = false := by simp [UploadWriter.timesOut, failed]
  have still : (s.nextAccount p i).isOpen = false := by
    rw [AccountedWriter.nextAccount, not_starts (by simp [state]), if_neg Bool.false_ne_true]
    exact congrArg (· && _ && _) closed
  rw [stepWrite] at stepped
  cases fires : s.writer.bFires i with
  | true =>
    rw [fires, if_pos rfl, failed, if_pos rfl] at stepped
    rw [stepped]
    exact .idle rfl still
  | false =>
    rw [fires, if_neg Bool.false_ne_true, in_time, if_neg Bool.false_ne_true] at stepped
    rw [stepped]
    exact .draining state still failed

theorem emitting_next (state : s.writer.state = .emit) : Phase p (s.nextAccount p i) (s.writer.step p i) := by
  have stepped : s.writer.step p i = s.writer.stepEmit p i := by rw [step, state]
  have raises : s.writer.raises p i = true := by simp [UploadWriter.raises, state]
  refine .idle ?_ ?_
  · rw [stepped, stepEmit]
    dsimp only
    split <;> rfl
  · rw [AccountedWriter.nextAccount, not_starts (by simp [state]), if_neg Bool.false_ne_true, raises, Bool.not_true,
      Bool.and_false, Bool.false_and]

theorem answered_emit (state : s.writer.state = .emit) :
    s.answered p i = [toAnswer s.account s.writer (emitStatus s.writer)] := by
  have stepped : s.writer.step p i = s.writer.stepEmit p i := by rw [step, state]
  have raises : s.writer.raises p i = true := by simp [UploadWriter.raises, state]
  rw [AccountedWriter.answered, raises, if_pos rfl, axiFails_false (by simp [state]), Bool.or_false, stepped, stepEmit,
    emitStatus]
  dsimp only
  split <;> rfl

theorem emitting_lawful (state : s.writer.state = .emit) (whole : 2 ≤ s.account.words.length)
    (opcode : s.writer.request.opcode = opcodeOf s.account.words) (seq : s.writer.request.seq = seqOf s.account.words)
    (outcome : (toAnswer s.account s.writer (emitStatus s.writer)).Outcome p) :
    ∀ t ∈ s.answered p i, t.Lawful p := by
  rw [answered_emit state]
  intro t answered
  rw [List.mem_singleton] at answered
  subst answered
  exact ⟨whole, seq, opcode, outcome⟩

end Answering

end Xczu47dr.Upload
