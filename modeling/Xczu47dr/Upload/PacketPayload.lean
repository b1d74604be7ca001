import Xczu47dr.Upload.PacketSteps
/-! # The payload of a packet

The words behind the header are registered one by one; the last of them shows
whether the packet is a request.
-/

namespace Xczu47dr.Upload

open UploadWriter

@[simp] theorem setError_duplicatePacket (s n : UploadWriter) (status offset : Nat) :
    (s.setError n status offset).duplicatePacket = n.duplicatePacket := by
  unfold setError
  split <;> rfl

theorem getD_before {words : List Word} (x : Word) {k : Nat} (below : k < words.length) :
    (words ++ [x]).getD k 0 = words.getD k 0 := List.getD_append _ _ _ _ below

theorem getD_last (words : List Word) (x : Word) {k : Nat} (last : k = words.length) :
    (words ++ [x]).getD k 0 = x := by
  rw [last, List.getD_append_right _ _ _ _ (Nat.le_refl _), Nat.sub_self]
  rfl

/-- A further word leaves the header of a packet as it is. -/
theorem header_append {words : List Word} (x : Word) (whole : 2 ≤ words.length) :
    opcodeOf (words ++ [x]) = opcodeOf words ∧ seqOf (words ++ [x]) = seqOf words ∧
      bytesOf (words ++ [x]) = bytesOf words := by
  rw [opcodeOf, seqOf, bytesOf, getD_before x (by omega), getD_before x (by omega)]
  exact ⟨rfl, rfl, rfl⟩

/-- The fields of a packet after one more word. -/
theorem Fields.next {c : UploadCore} {words : List Word} {w w' : UploadWriter} {x : Word} (core : w.core = c)
    (header : Header words w) (parsing : Parsing words w) (fields : Fields c words w)
    (request : w'.request = w.takePayload x)
    (index : w'.dataWordIndex =
      if w.request.opcode = opData ∧ 3 ≤ w.payloadIndex ∧ w.dataWordIndex < maxDataWords then w.dataWordIndex + 1
      else w.dataWordIndex)
    (memory : w'.dataMem =
      if w.request.opcode = opData ∧ 3 ≤ w.payloadIndex ∧ w.dataWordIndex < maxDataWords then
        Function.update w.dataMem w.dataWordIndex x
      else w.dataMem) : Fields c (words ++ [x]) w' := by
  obtain ⟨opcode, -, bytes⟩ := header_append x header.whole
  have length := parsing.index
  have count : (words.drop 2).length = w.payloadIndex := by rw [List.length_drop]; omega
  have payload : (words ++ [x]).drop 2 = words.drop 2 ++ [x] := List.drop_append_of_le_length header.whole
  have whole := header.whole
  constructor
  · intro begins
    rw [opcode] at begins
    obtain ⟨b, so_far⟩ := fields.begin begins
    refine ⟨b, ?_⟩
    rw [request, takePayload, if_pos (header.opcode.trans begins), so_far, payload, beginOf_append, count]
  · intro data
    rw [opcode] at data
    obtain ⟨d, so_far⟩ := fields.data data
    refine ⟨d, ?_⟩
    have not_begin : w.request.opcode ≠ opBegin := by
      rw [header.opcode, data]
      decide
    rw [request, takePayload, if_neg not_begin, if_pos (header.opcode.trans data), so_far, payload, dataOf_append, count,
      bytes, core, parsing.bytes]
  · intro not_begin not_data three
    rw [opcode, ← header.opcode] at not_begin not_data
    rw [List.length_append, List.length_singleton] at three
    rw [request, takePayload, if_neg not_begin, if_neg not_data, getD_last words x (by omega)]
  · intro data
    rw [opcode] at data
    have so_far := fields.index data
    rw [index, List.length_append, List.length_singleton, so_far]
    split_ifs with stored
    · obtain ⟨-, late, room⟩ := stored
      omega
    · have full : ¬ (3 ≤ w.payloadIndex ∧ min (words.length - 5) maxDataWords < maxDataWords) :=
        fun ⟨late, room⟩ => stored ⟨header.opcode.trans data, late, room⟩
      omega
  · intro data k below
    rw [opcode] at data
    have so_far := fields.index data
    have known := fields.memory data k
    rw [index] at below
    rw [memory]
    split_ifs at below ⊢ with stored
    · obtain ⟨-, late, room⟩ := stored
      rcases Nat.lt_succ_iff_lt_or_eq.mp below with earlier | rfl
      · rw [Function.update_of_ne (by omega), known earlier, dataWord, dataWord, getD_before x (by omega)]
      · rw [Function.update_self, dataWord, getD_last words x (by omega)]
    · rw [known below, dataWord, dataWord, getD_before x (by omega)]

/-- When the last word makes the packet a request. -/
theorem wellFormed_last {words : List Word} {w : UploadWriter} (x : Word) (header : Header words w)
    (parsing : Parsing words w) :
    WellFormed (words ++ [x]) ↔ w.packetError = false ∧
      ¬ (w.request.opcode = opBegin ∧ w.payloadIndex = 3 ∧ high x ≠ 0) ∧ w.payloadIndex + 1 = w.payloadWords := by
  obtain ⟨opcode, -, bytes⟩ := header_append x header.whole
  have length := parsing.index
  have whole := header.whole
  rw [WellFormed, opcode, bytes, getD_before x (by omega), ← parsing.error, parsing.length, ← parsing.count,
    List.length_append, List.length_singleton, ← header.opcode]
  constructor
  · rintro ⟨sound, -, -, all, clear⟩
    refine ⟨sound, fun ⟨begins, at_, dirty⟩ => dirty ?_, by omega⟩
    rw [← getD_last words x (k := 5) (by omega)]
    exact clear begins
  · rintro ⟨sound, clear, all⟩
    refine ⟨sound, rfl, by omega, by omega, fun begins => ?_⟩
    -- the payload of a BEGIN is four words
    have four : w.payloadWords = 4 := by
      have size := parsing.length
      rw [← header.opcode, begins] at size
      have bytes : bytesOf words = 28 := by simpa [badLength, opBegin, opData, opCommit] using size
      rw [parsing.count, bytes]
      rfl
    by_contra dirty
    rw [getD_last words x (by omega)] at dirty
    exact clear ⟨begins, by omega, dirty⟩

/-- The registers after a payload word, before the end of the packet is looked at. -/
def UploadWriter.takesField (p : WriterParams) (w : UploadWriter) (i : WriterIn) : UploadWriter :=
  { w.common p i with
    request := w.takePayload i.tdata
    dataWordIndex :=
      if w.request.opcode = opData ∧ 3 ≤ w.payloadIndex ∧ w.dataWordIndex < maxDataWords then w.dataWordIndex + 1
      else w.dataWordIndex }

/-- The same with the check of the last word of a BEGIN. -/
def UploadWriter.takesWord (p : WriterParams) (w : UploadWriter) (i : WriterIn) : UploadWriter :=
  if w.request.opcode = opBegin ∧ w.payloadIndex = 3 ∧ high i.tdata ≠ 0 then
    w.setError (w.takesField p i) statusBadRequest 0
  else w.takesField p i

section TakesWord

variable (p : WriterParams) (w : UploadWriter) (i : WriterIn)

theorem stepPayload_valid (valid : i.tvalid = true) :
    w.stepPayload p i =
      if i.tlast then
        let t := w.takesWord p i
        let t := if w.payloadIndex + 1 ≠ w.payloadWords then w.setError t statusBadRequest 0 else t
        { t with state := .final }
      else if w.payloadWords ≤ w.payloadIndex + 1 then
        { w.setError (w.takesWord p i) statusBadRequest 0 with state := .drop }
      else { w.takesWord p i with payloadIndex := w.payloadIndex + 1 } := by
  rw [stepPayload, if_pos valid]
  rfl

@[simp] theorem takesWord_core : (w.takesWord p i).core = w.core := by
  rw [takesWord]
  split <;> simp [takesField]

@[simp] theorem takesWord_state : (w.takesWord p i).state = w.state := by
  rw [takesWord]
  split <;> simp [takesField]

@[simp] theorem takesWord_pulse : (w.takesWord p i).pulse = none := by
  rw [takesWord]
  split <;> simp [takesField]

@[simp] theorem takesWord_valid : (w.takesWord p i).response.valid = (w.response.valid && !i.responseReady) := by
  rw [takesWord]
  split <;> simp [takesField]

@[simp] theorem takesWord_request : (w.takesWord p i).request = w.takePayload i.tdata := by
  rw [takesWord]
  split <;> simp [takesField]

@[simp] theorem takesWord_unlatched : (w.takesWord p i).statusResponseLatched = w.statusResponseLatched := by
  rw [takesWord]
  split <;> simp [takesField]

@[simp] theorem takesWord_duplicatePacket : (w.takesWord p i).duplicatePacket = w.duplicatePacket := by
  unfold takesWord setError
  split
  · split <;> rfl
  · rfl

@[simp] theorem takesWord_payload : (w.takesWord p i).payloadBytes = w.payloadBytes ∧
    (w.takesWord p i).payloadWords = w.payloadWords := by
  unfold takesWord setError
  split
  · split <;> exact ⟨rfl, rfl⟩
  · exact ⟨rfl, rfl⟩

theorem takesWord_packetError : (w.takesWord p i).packetError =
    (w.packetError || decide (w.request.opcode = opBegin ∧ w.payloadIndex = 3 ∧ high i.tdata ≠ 0)) := by
  rw [takesWord]
  split_ifs with dirty <;> simp [takesField, dirty]

theorem takesWord_dataWordIndex : (w.takesWord p i).dataWordIndex =
    if w.request.opcode = opData ∧ 3 ≤ w.payloadIndex ∧ w.dataWordIndex < maxDataWords then w.dataWordIndex + 1
    else w.dataWordIndex := by
  unfold takesWord setError
  split
  · split <;> rfl
  · rfl

theorem takesWord_dataMem (state : w.state = .payload) (valid : i.tvalid = true) : (w.takesWord p i).dataMem =
    if w.request.opcode = opData ∧ 3 ≤ w.payloadIndex ∧ w.dataWordIndex < maxDataWords then
      Function.update w.dataMem w.dataWordIndex i.tdata
    else w.dataMem := by
  have writes : w.packetWrite i =
      decide (w.request.opcode = opData ∧ 3 ≤ w.payloadIndex ∧ w.dataWordIndex < maxDataWords) := by
    rw [Bool.eq_iff_iff]
    simp [packetWrite, state, valid, and_assoc]
  have memory : (w.takesWord p i).dataMem = (w.common p i).dataMem := by
    unfold takesWord setError
    split
    · split <;> rfl
    · rfl
  rw [memory, common, writes]
  simp

end TakesWord

theorem Fresh.takesWord {a : Account} {w : UploadWriter} (fresh : Fresh a w) (p : WriterParams) (i : WriterIn)
    (words : List Word) : Fresh { a with words := words } (w.takesWord p i) := by
  refine fresh.next words (takesWord_core _ _ _) ⟨_, takesWord_valid _ _ _⟩ ?_
  rw [UploadWriter.takesWord]
  split
  · have taken : Fresh { a with words := words } (w.takesField p i) := fresh.next _ rfl ⟨_, rfl⟩ fresh.status
    exact (taken.setError w id 0).status
  · exact fresh.status

theorem Header.takesWord {words : List Word} {w : UploadWriter} (header : Header words w) (p : WriterParams)
    (i : WriterIn) : Header (words ++ [i.tdata]) (w.takesWord p i) := by
  obtain ⟨opcode, seq, -⟩ := header_append i.tdata header.whole
  have kept : (w.takePayload i.tdata).opcode = w.request.opcode ∧ (w.takePayload i.tdata).seq = w.request.seq := by
    rw [takePayload]
    split_ifs <;> exact ⟨rfl, rfl⟩
  constructor
  · exact Nat.le_trans header.whole (by simp)
  · rw [takesWord_request, kept.1, header.opcode, opcode]
  · rw [takesWord_request, kept.2, header.seq, seq]
  · rw [takesWord_unlatched, header.unlatched]

section Payload

variable {p : WriterParams} {s : AccountedWriter} {i : WriterIn}

theorem payload_next (state : s.writer.state = .payload) (fresh : Fresh s.account s.writer)
    (header : Header s.account.words s.writer) (parsing : Parsing s.account.words s.writer)
    (fields : Fields s.account.before s.account.words s.writer) :
    Phase p (s.nextAccount p i) (s.writer.step p i) := by
  have stepped : s.writer.step p i = s.writer.stepPayload p i := by rw [step, state]
  have pulse : (s.writer.step p i).pulse = none := by
    rw [stepped]
    cases valid : i.tvalid with
    | false => rw [stepPayload, valid, if_neg Bool.false_ne_true, common_pulse]
    | true =>
      rw [stepPayload_valid p s.writer i valid]
      dsimp only
      split_ifs <;> simp
  have account := receiving_account (.inr (.inl state)) pulse
  cases valid : i.tvalid with
  | false =>
    have waits : s.writer.step p i = s.writer.common p i := by
      rw [stepped, stepPayload, valid, if_neg Bool.false_ne_true]
    have memory : (s.writer.common p i).dataMem = s.writer.dataMem := by
      simp [common, packetWrite, valid]
    rw [account, waits, valid, if_neg Bool.false_ne_true]
    refine .payload state (fresh.next _ rfl ⟨_, rfl⟩ fresh.status)
      ⟨header.whole, header.opcode, header.seq, header.unlatched⟩ ?_ ?_
    · exact ⟨parsing.bytes, parsing.count, parsing.index, parsing.error, parsing.length, parsing.room, parsing.first⟩
    · exact ⟨fields.begin, fields.data, fields.word, fields.index, fun data k below => by
        rw [memory]
        exact fields.memory data k below⟩
  | true =>
    obtain ⟨opcode, seq, bytes⟩ := header_append i.tdata header.whole
    have last := wellFormed_last i.tdata header parsing
    have whole : 2 ≤ (s.account.words ++ [i.tdata]).length := Nat.le_trans header.whole (by simp)
    have taken : Fields s.account.before (s.account.words ++ [i.tdata]) (s.writer.takesWord p i) :=
      Fields.next fresh.core header parsing fields (takesWord_request _ _ _) (takesWord_dataWordIndex _ _ _)
        (takesWord_dataMem _ _ _ state valid)
    rw [stepPayload_valid p s.writer i valid] at stepped
    rw [valid, if_pos rfl] at account
    have arrived : Fresh { s.account with words := s.account.words ++ [i.tdata] } (s.writer.takesWord p i) :=
      fresh.takesWord p i _
    have header' := header.takesWord p i
    have earlier : s.writer.packetError = true → (s.writer.takesWord p i).packetError = true := fun error => by
      rw [takesWord_packetError, error, Bool.true_or]
    cases ends : i.tlast with
    | true =>
      rw [ends, if_pos rfl] at stepped
      dsimp only at stepped
      by_cases all : s.writer.payloadIndex + 1 = s.writer.payloadWords
      · rw [if_neg (not_not_intro all)] at stepped
        have error : (s.writer.takesWord p i).packetError = !decide (WellFormed (s.account.words ++ [i.tdata])) := by
          rw [takesWord_packetError, Bool.eq_iff_iff]
          simp only [last, all, Bool.or_eq_true, decide_eq_true_eq, Bool.not_eq_true', decide_eq_false_iff_not]
          cases s.writer.packetError <;> simp
        rw [account, stepped]
        exact .judging rfl (arrived.congr rfl rfl rfl) (header'.congr rfl rfl) error
          ((takesWord_duplicatePacket _ _ _).trans parsing.first) (fun _ => taken.congr rfl rfl rfl)
      · rw [if_pos all] at stepped
        have bad : ¬ WellFormed (s.account.words ++ [i.tdata]) := fun good => all (last.mp good).2.2
        rw [account, stepped]
        refine .judging rfl ((arrived.setError s.writer earlier 0).congr rfl rfl rfl)
          ((header'.setError s.writer _ 0).congr rfl rfl) ?_ ?_ (fun good => absurd good bad)
        · rw [decide_eq_false bad]
          exact setError_packetError _ _ _ _
        · exact (setError_duplicatePacket _ _ _ _).trans ((takesWord_duplicatePacket _ _ _).trans parsing.first)
    | false =>
      rw [ends, if_neg Bool.false_ne_true] at stepped
      by_cases overrun : s.writer.payloadWords ≤ s.writer.payloadIndex + 1
      · rw [if_pos overrun] at stepped
        rw [account, stepped]
        refine .drop rfl ((arrived.setError s.writer earlier 0).congr rfl rfl rfl)
          ((header'.setError s.writer _ 0).congr rfl rfl) (setError_packetError _ _ _ _) ?_
        -- the packet has more words than its length allows
        intro x more good
        have size := good.2.2.2.1
        have declared : bytesOf (s.account.words ++ [i.tdata] ++ x :: more) = bytesOf s.account.words := by
          rw [bytesOf, List.getD_append _ _ _ _ (Nat.lt_of_lt_of_le Nat.one_lt_two whole)]
          exact bytes
        rw [declared, ← parsing.count] at size
        simp only [List.length_append, List.length_cons, List.length_nil] at size
        have index := parsing.index
        omega
      · rw [if_neg overrun] at stepped
        have index := parsing.index
        have size := parsing.length
        have sound : (s.writer.takesWord p i).packetError = s.writer.packetError := by
          rw [takesWord_packetError, decide_eq_false, Bool.or_false]
          rintro ⟨begins, at_, -⟩
          rw [← header.opcode, begins] at size
          have bytes : bytesOf s.account.words = 28 := by simpa [badLength, opBegin, opData, opCommit] using size
          rw [parsing.count, bytes] at overrun
          exact overrun (by rw [at_]; decide)
        rw [account, stepped]
        refine .payload ((takesWord_state _ _ _).trans state) (arrived.congr rfl rfl rfl) (header'.congr rfl rfl)
          ⟨?_, ?_, ?_, ?_, ?_, .inr ?_, ?_⟩ (taken.congr rfl rfl rfl)
        · exact (takesWord_payload _ _ _).1.trans (parsing.bytes.trans bytes.symm)
        · rw [bytes]
          exact (takesWord_payload _ _ _).2.trans parsing.count
        · simp only [List.length_append, List.length_cons, List.length_nil]
          omega
        · rw [getD_before _ (by omega)]
          exact sound.trans parsing.error
        · rw [opcode, bytes]
          exact size
        · exact Nat.lt_of_lt_of_eq (Nat.lt_of_not_le overrun) (takesWord_payload _ _ _).2.symm
        · exact (takesWord_duplicatePacket _ _ _).trans parsing.first

theorem drop_next (state : s.writer.state = .drop) (fresh : Fresh s.account s.writer)
    (header : Header s.account.words s.writer) (error : s.writer.packetError = true)
    (hopeless : ∀ x more, ¬ WellFormed (s.account.words ++ x :: more)) :
    Phase p (s.nextAccount p i) (s.writer.step p i) := by
  have stepped : s.writer.step p i =
      if i.tvalid && i.tlast then { s.writer.common p i with state := .emit } else s.writer.common p i := by
    rw [step, state]
  have pulse : (s.writer.step p i).pulse = none := by
    rw [stepped]
    split <;> rfl
  have refused : s.writer.response.status = statusBadRequest := by rw [fresh.status, error, if_pos rfl]
  have account := receiving_account (.inr (.inr state)) pulse
  cases valid : i.tvalid with
  | false =>
    rw [valid, Bool.false_and, if_neg Bool.false_ne_true] at stepped
    rw [account, stepped, valid, if_neg Bool.false_ne_true]
    exact .drop state (fresh.next _ rfl ⟨_, rfl⟩ fresh.status)
      ⟨header.whole, header.opcode, header.seq, header.unlatched⟩ error hopeless
  | true =>
    obtain ⟨opcode, seq, -⟩ := header_append i.tdata header.whole
    have whole : 2 ≤ (s.account.words ++ [i.tdata]).length := Nat.le_trans header.whole (by simp)
    rw [valid, if_pos rfl] at account
    rw [valid, Bool.true_and] at stepped
    cases last : i.tlast with
    | false =>
      rw [last, if_neg Bool.false_ne_true] at stepped
      rw [account, stepped]
      refine .drop state (fresh.next _ rfl ⟨_, rfl⟩ fresh.status)
        ⟨whole, header.opcode.trans opcode.symm, header.seq.trans seq.symm, header.unlatched⟩ error ?_
      intro x more
      rw [List.append_assoc]
      exact hopeless _ _
    | true =>
      rw [last, if_pos rfl] at stepped
      rw [account, stepped]
      refine .emitting rfl fresh.isOpen ?_ whole (header.opcode.trans opcode.symm) (header.seq.trans seq.symm)
        (.malformed (hopeless _ _) ?_ ⟨fresh.core, fresh.pulses, fresh.writes, fresh.axi⟩)
      · rw [common_valid, fresh.valid, Bool.false_and]
      · exact (emitStatus_unlatched header.unlatched).trans refused

end Payload

end Xczu47dr.Upload
