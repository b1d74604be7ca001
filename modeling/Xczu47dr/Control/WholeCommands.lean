import Mathlib.Data.List.Enum
import Mathlib.Data.List.GetD
import Xczu47dr.Control.FramedCommands
import Xczu47dr.Control.RiscvControl

/-! # Commands are decoded whole

Receiving, processing and decoding share one payload buffer.  Behind the framer three
idle cycles separate two packets: one for processing, one for decoding and one that a
diagnostic or TDC completion may take.  It takes at most one, because its response
occupies the queue.  While an RFDC apply is pending words are ignored; a packet of
which only the end is heard continues with counters that are already past their end.
-/

namespace Xczu47dr.Control

open Clocked Machine

/-- What the decoder reads: the header fields, the counted words and the field check. -/
structure Command where
  opcode : BitVec 32
  sequence : BitVec 32
  flags : BitVec 32
  payloadBytes : BitVec 32
  versionValid : Bool
  kind : CommandKind
  expectedWords : Nat
  fieldsInvalid : Bool
  words : List (BitVec 32)
  deriving DecidableEq

/-- The two 32-bit words of each 64-bit word. -/
def halves (words : List (BitVec 64)) : List (BitVec 32) :=
  words.flatMap fun word => [word.extractLsb' 0 32, word.extractLsb' 32 32]

/-- `fieldInvalid` at the 32-bit word `index`. -/
def reservedAt (index : Nat) (word : BitVec 64) : Bool :=
  (index == 5 && word.extractLsb' 40 24 != 0) ||
    ([11, 17, 23, 29, 35, 41, 47, 53].contains index && word.extractLsb' 32 32 != 0)

def reservedIn (words : List (BitVec 64)) : Bool :=
  words.zipIdx.any fun entry => reservedAt (2 * entry.2 + 1) entry.1

namespace CommandPacket

variable (p : CommandPacket)

def word (index : Nat) : BitVec 32 := (halves p.body).getD index 0

def command : Command where
  opcode := p.word 1
  sequence := p.word 2
  flags := ((p.word 0).extractLsb' 16 16).zeroExtend 32
  payloadBytes := p.word 3
  versionValid := (p.word 0).extractLsb' 0 16 == rf2Version
  kind := decodeKind (p.word 1)
  expectedWords := p.wordCount
  fieldsInvalid := reservedIn p.body
  words := (List.range p.wordCount).map p.word

def Fits : Prop := p.wordCount ≤ maxPayloadWords

instance : Decidable p.Fits := inferInstanceAs (Decidable (_ ≤ _))

end CommandPacket

namespace RiscvControl

variable {ids : BuildIds} {s : RiscvControl} {i : RiscvIn}

def decodedCommand (s : RiscvControl) : Command where
  opcode := s.cmdOpcode
  sequence := s.cmdSeq
  flags := s.cmdFlags
  payloadBytes := s.cmdPayloadBytes
  versionValid := s.cmdVersionValid
  kind := s.cmdKind
  expectedWords := s.rxExpectedWords
  fieldsInvalid := s.rfdcPayloadFieldsInvalid
  words := (List.range s.rxExpectedWords).map s.payloadWords

def decoded (s : RiscvControl) (i : RiscvIn) : List Command :=
  if s.decodes i then [s.decodedCommand] else []

/-- For every word that arrives, whether it is heard. -/
def heard (s : RiscvControl) (i : RiscvIn) : List Bool :=
  if i.rvctrlValid then [!s.rfdcResponsePending] else []

/-! ## What one clock edge can do -/

/-- The priority chain takes one of its turns. -/
inductive Turn (s : RiscvControl) (i : RiscvIn) (s' : RiscvControl) : Prop
  | receives : s.receives i = true → s'.command = (s.receive i s).command →
      s'.decodePending = s.decodePending → s'.rfdcResponsePending = false → Turn s i s'
  | processes : s.receives i = false → s.processPending = true → s'.command = (s.process s).command →
      s'.decodePending = true → Turn s i s'
  | decodes : s.decodes i = true → s'.command = s.command → s'.decodePending = false → Turn s i s'
  | rests : s.receives i = false → s.processPending = false → s.decodes i = false →
      s'.command = s.command → s'.decodePending = s.decodePending →
      (s'.rfdcResponsePending = true → s.rfdcResponsePending = true) →
      (s.decodePending = true → s'.slots.first.isSome = true) → Turn s i s'

theorem receive_command (t : RiscvControl) : (s.receive i t).command =
    { t.command with
      payloadWords := (s.receive i s).payloadWords
      rxIndex := (s.receive i s).rxIndex
      rxExpectedWords := (s.receive i s).rxExpectedWords
      rxDrop := (s.receive i s).rxDrop
      rfdcPayloadFieldsInvalid := (s.receive i s).rfdcPayloadFieldsInvalid
      processPending := if i.rvctrl.tlast then
          s.activeOk i && s.wordsAfterBeat i == s.activeExpected i
        else s.processPending } := rfl

theorem process_command (t : RiscvControl) : (s.process t).command =
    { t.command with
      processPending := false
      cmdFlags := (s.process s).cmdFlags
      cmdOpcode := (s.process s).cmdOpcode
      cmdSeq := (s.process s).cmdSeq
      cmdPayloadBytes := (s.process s).cmdPayloadBytes
      cmdVersionValid := (s.process s).cmdVersionValid
      cmdKind := (s.process s).cmdKind } := rfl

/-- A completion that takes the decoder's turn queues its response. -/
theorem queued_of_response {call : ResponseRequest} (empty : s.slots.first.isNone = true)
    (responds : (s.chain i s).response = some call) : (s.step ids i).slots.first.isSome = true := by
  have last : (s.requests i).getLast? = some call := by
    rw [requests, responds]
    simp
  change (s.slots.step s.loads (s.requests i)).first.isSome = true
  rw [ResponseSlots.step, last]
  simp [empty]

variable (ids)

variable (s i) in
theorem turn_step : Turn s i (s.step ids i) := by
  have command : (s.step ids i).command = (s.chain i (s.settled i)).next.command := rfl
  have decodePending : (s.step ids i).decodePending = (s.chain i (s.settled i)).next.decodePending := rfl
  have pending : (s.step ids i).rfdcResponsePending = (s.chain i (s.settled i)).next.rfdcResponsePending := rfl
  have clears : (s.settled i).rfdcResponsePending = true → s.rfdcResponsePending = true := by
    rw [settled_rfdcResponsePending, Bool.and_eq_true]
    exact And.left
  by_cases receives : s.receives i = true
  · have turn (t : RiscvControl) : s.chain i t = ⟨s.receive i t, none⟩ := if_pos receives
    rw [turn] at command decodePending pending
    refine .receives receives ?_ (decodePending.trans settled_decodePending) ?_
    · rw [command, receive_command, settled_command]
      rfl
    · rw [RiscvControl.receives, Bool.and_eq_true, Bool.not_eq_true'] at receives
      rw [pending]
      change (s.settled i).rfdcResponsePending = false
      rw [settled_rfdcResponsePending, receives.2, Bool.false_and]
  have deaf := Bool.not_eq_true _ ▸ receives
  by_cases processes : s.processPending = true
  · have turn (t : RiscvControl) : s.chain i t = ⟨s.process t, none⟩ := by simp [chain, deaf, processes]
    rw [turn] at command decodePending
    refine .processes deaf processes ?_ decodePending
    rw [command, process_command, settled_command]
    rfl
  have parked := Bool.not_eq_true _ ▸ processes
  by_cases diag : s.diagCompletes i = true
  · have turn (t : RiscvControl) : s.chain i t =
        ⟨s.completeDiag i t, some (rf2Diag rf2OpDiagSnapshot s.diagSnapshotPendingSeq)⟩ := by
      simp [chain, deaf, parked, diag]
    rw [turn] at command decodePending pending
    refine .rests deaf parked (by simp [RiscvControl.decodes, diag]) (command.trans settled_command)
      (decodePending.trans settled_decodePending) (fun later => clears (pending.symm.trans later)) fun _ => ?_
    simp only [diagCompletes, Bool.and_eq_true] at diag
    exact queued_of_response diag.1.1.2 (congrArg Decoded.response (turn s))
  by_cases tdc : s.tdcCompletes i = true
  · have turn (t : RiscvControl) : s.chain i t = ⟨{ t with tdcResponsePending := false }, some s.tdcResponse⟩ := by
      simp [chain, deaf, parked, diag, tdc]
    rw [turn] at command decodePending pending
    refine .rests deaf parked (by simp [RiscvControl.decodes, tdc]) (command.trans settled_command)
      (decodePending.trans settled_decodePending) (fun later => clears (pending.symm.trans later)) fun _ => ?_
    simp only [tdcCompletes, Bool.and_eq_true] at tdc
    exact queued_of_response tdc.1.1.1.2 (congrArg Decoded.response (turn s))
  by_cases decodes : s.decodePending = true
  · have turn (t : RiscvControl) : s.chain i t = s.decode i t := by
      simp [chain, deaf, parked, diag, tdc, decodes]
    rw [turn] at command decodePending
    have decoder := decode_command (s := s) (i := i) (t := s.settled i)
    exact .decodes (by simp [RiscvControl.decodes, deaf, parked, diag, tdc, decodes])
      (command.trans (decoder.1.trans settled_command)) (decodePending.trans decoder.2)
  · have turn (t : RiscvControl) : s.chain i t = ⟨t, none⟩ := by
      simp [chain, deaf, parked, diag, tdc, decodes]
    rw [turn] at command decodePending pending
    exact .rests deaf parked (by simp [RiscvControl.decodes, decodes]) (command.trans settled_command)
      (decodePending.trans settled_decodePending) (fun later => clears (pending.symm.trans later))
      (fun later => absurd later decodes)

/-! ## Between packets -/

/-- Nothing is to be decoded, and the receive counters are past their end: without a
    first word nothing will be. -/
structure Rest (s : RiscvControl) : Prop where
  process : s.processPending = false
  decode : s.decodePending = false
  past : s.rxDrop = true ∨ s.rxExpectedWords ≤ s.rxIndex ∧ s.rxExpectedWords ≤ 64
  bound : s.rxIndex ≤ 65

theorem rest_reset : Rest reset := ⟨rfl, rfl, Or.inr ⟨Nat.le_refl _, Nat.zero_le _⟩, Nat.zero_le _⟩

/-- The fields the receiver leaves behind. -/
theorem received_fields {s' : RiscvControl} (command : s'.command = (s.receive i s).command) :
    s'.payloadWords = (s.receive i s).payloadWords ∧ s'.rxIndex = (s.receive i s).rxIndex ∧
      s'.rxExpectedWords = s.activeExpected i ∧ s'.rxDrop = (s.receive i s).rxDrop ∧
      s'.rfdcPayloadFieldsInvalid = (s.receive i s).rfdcPayloadFieldsInvalid ∧
      s'.processPending = (s.receive i s).processPending :=
  ⟨congrArg CommandRegisters.payloadWords command, congrArg CommandRegisters.rxIndex command,
    congrArg CommandRegisters.rxExpectedWords command, congrArg CommandRegisters.rxDrop command,
    congrArg CommandRegisters.rfdcPayloadFieldsInvalid command,
    congrArg CommandRegisters.processPending command⟩

theorem not_decodes (idle : s.decodePending = false) : s.decodes i = false := by
  simp [decodes, idle]

theorem Rest.of_command {s' : RiscvControl} (rest : Rest s) (command : s'.command = s.command)
    (decode : s'.decodePending = false) : Rest s' := by
  have index : s'.rxIndex = s.rxIndex := congrArg CommandRegisters.rxIndex command
  refine ⟨(congrArg CommandRegisters.processPending command).trans rest.process, decode, ?_, ?_⟩
  · rw [show s'.rxDrop = s.rxDrop from congrArg CommandRegisters.rxDrop command, index,
      show s'.rxExpectedWords = s.rxExpectedWords from congrArg CommandRegisters.rxExpectedWords command]
    exact rest.past
  · rw [index]
    exact rest.bound

/-- A cycle in which no packet that fits begins to be heard. -/
theorem Rest.step (rest : Rest s)
    (outside : s.receives i = true → i.rvctrl.tfirst = true → firstCountOk i = false) :
    Rest (s.step ids i) := by
  cases turn_step ids s i with
  | processes _ process => exact absurd process (by simp [rest.process])
  | decodes decodes => exact absurd decodes (by simp [not_decodes rest.decode])
  | rests _ _ _ command decode => exact rest.of_command command (decode.trans rest.decode)
  | receives receives command decode =>
    obtain ⟨-, index, expected, drop, -, process⟩ := received_fields command
    have bound := rest.bound
    cases first : i.rvctrl.tfirst with
    | true =>
      -- the packet does not fit and is dropped
      have long := outside receives first
      refine ⟨?_, decode.trans rest.decode, Or.inl ?_, ?_⟩
      · rw [process]
        simp [receive, activeOk, first, long, rest.process]
      · rw [drop]
        simp [receive, first, long]
      · rw [index]
        simp [receive, activeIndex, first, maxPayloadWords]
    | false =>
      have active : s.activeIndex i = s.rxIndex := by simp [activeIndex, first]
      have same : s.activeExpected i = s.rxExpectedWords := by simp [activeExpected, first]
      have advance : (s.receive i s).rxIndex = if s.rxIndex < 64 then (s.rxIndex + 2) % 128 else 64 := by
        simp [receive, active, maxPayloadWords]
      refine ⟨?_, decode.trans rest.decode, ?_, ?_⟩
      · rw [process]
        rcases rest.past with dropped | ⟨past, short⟩
        · simp [receive, activeOk, first, dropped, rest.process]
        · have second : s.hasSecond i = false := by
            simp only [hasSecond, secondIndex, active, same, decide_eq_false_iff_not]
            omega
          have beyond : (s.wordsAfterBeat i == s.activeExpected i) = false := by
            rw [beq_eq_false_iff_ne, wordsAfterBeat, second, active, same]
            simp only [Bool.false_eq_true, if_false]
            omega
          simp [receive, beyond, rest.process]
      · rw [drop, expected, index, same, advance]
        have kept : (s.receive i s).rxDrop = s.rxDrop := by simp [receive, first]
        rw [kept]
        refine rest.past.imp_right fun ⟨past, short⟩ => ⟨?_, short⟩
        split <;> omega
      · rw [index, advance]
        split <;> omega

/-! ## Inside a packet -/

/-- The words `done` of the packet have been heard, and no others. -/
structure Holds (p : CommandPacket) (done : List (BitVec 64)) (s : RiscvControl) : Prop where
  expected : s.rxExpectedWords = p.wordCount
  kept : s.rxDrop = false
  index : s.rxIndex = 2 * done.length
  words : ∀ j < p.wordCount, j < 2 * done.length → s.payloadWords j = (halves done).getD j 0
  reserved : s.rfdcPayloadFieldsInvalid = reservedIn done
  process : s.processPending = (done.length == p.body.length)
  decode : s.decodePending = false
  free : s.rfdcResponsePending = false

theorem length_halves (words : List (BitVec 64)) : (halves words).length = 2 * words.length := by
  induction words with
  | nil => rfl
  | cons word words ih =>
    rw [halves, List.flatMap_cons, List.length_append, List.length_cons]
    rw [halves] at ih
    simp only [ih, List.length_cons, List.length_nil]
    omega

theorem reservedIn_concat (done : List (BitVec 64)) (d : BitVec 64) :
    reservedIn (done ++ [d]) = (reservedIn done || reservedAt (2 * done.length + 1) d) := by
  simp [reservedIn, List.zipIdx_append]

/-- The next word of a packet that fits is heard. -/
theorem holds_beat {p : CommandPacket} {done words : List (BitVec 64)} (fits : p.Fits)
    (split : p.body = done ++ i.rvctrl.tdata :: words) (receives : s.receives i = true)
    (active : s.activeIndex i = 2 * done.length) (expected : s.activeExpected i = p.wordCount)
    (ok : s.activeOk i = true)
    (stored : ∀ j < p.wordCount, j < 2 * done.length → s.payloadWords j = (halves done).getD j 0)
    (reserved : (!i.rvctrl.tfirst && s.rfdcPayloadFieldsInvalid) = reservedIn done)
    (process : s.processPending = false) (decode : s.decodePending = false)
    (last : words = [] → i.rvctrl.tlast = true) :
    Holds p (done ++ [i.rvctrl.tdata]) (s.step ids i) := by
  obtain ⟨atMost, atLeast⟩ := p.wordCount_bounds
  have length : p.body.length = done.length + 1 + words.length := by
    rw [split, List.length_append, List.length_cons]
    omega
  have fits : p.wordCount ≤ 64 := fits
  have second : s.secondIndex i = 2 * done.length + 1 := by
    rw [secondIndex, active]
    omega
  have hasSecond : s.hasSecond i = decide (2 * done.length + 1 < p.wordCount) := by
    rw [RiscvControl.hasSecond, second, expected]
  cases turn_step ids s i with
  | processes deaf => exact absurd receives (by simp [deaf])
  | decodes decodes => exact absurd decodes (by simp [not_decodes decode])
  | rests deaf => exact absurd receives (by simp [deaf])
  | receives _ command decode' free =>
    obtain ⟨buffer, index, count, drop, field, pending⟩ := received_fields command
    refine ⟨count.trans expected, ?_, ?_, ?_, ?_, ?_, decode'.trans decode, free⟩
    · rw [drop]
      unfold activeOk at ok
      simp only [receive]
      split_ifs at ok ⊢ with first
      · simpa using ok
      · simpa using ok
    · rw [index]
      simp only [receive, active, maxPayloadWords, List.length_append, List.length_cons, List.length_nil]
      rw [if_pos (by omega)]
      omega
    · intro j counted inside
      rw [List.length_append, List.length_singleton] at inside
      have both : halves (done ++ [i.rvctrl.tdata]) =
          halves done ++ [i.rvctrl.tdata.extractLsb' 0 32, i.rvctrl.tdata.extractLsb' 32 32] := by
        simp [halves]
      have lengths := length_halves done
      rw [buffer, both]
      simp only [receive, active, second, ok, hasSecond, maxPayloadWords, Bool.true_and]
      simp only [decide_eq_true (show 2 * done.length < 64 by omega), if_true]
      by_cases old : j < 2 * done.length
      · -- the words before are not overwritten
        rw [List.getD_append _ _ _ _ (by omega)]
        have untouched := stored j counted old
        split_ifs
        · rw [Function.update_of_ne (by omega), Function.update_of_ne (by omega), untouched]
        · rw [Function.update_of_ne (by omega), untouched]
      · rw [List.getD_append_right _ _ _ _ (by omega), lengths]
        by_cases low : j = 2 * done.length
        · subst low
          rw [Nat.sub_self]
          split_ifs
          · rw [Function.update_of_ne (by omega), Function.update_self]
            rfl
          · rw [Function.update_self]
            rfl
        · obtain rfl : j = 2 * done.length + 1 := by omega
          rw [decide_eq_true counted, decide_eq_true (show 2 * done.length + 1 < 64 by omega),
            if_pos (Bool.and_self true), Function.update_self, Nat.add_sub_cancel_left]
          rfl
    · rw [field, reservedIn_concat, ← reserved]
      have here : s.fieldInvalid i = reservedAt (2 * done.length + 1) i.rvctrl.tdata := by
        rw [← second]
        rfl
      simp only [receive, ok, here, Bool.true_and]
      exact Bool.or_comm _ _
    · rw [pending]
      have after : s.wordsAfterBeat i =
          2 * done.length + if 2 * done.length + 1 < p.wordCount then 2 else 1 := by
        simp only [wordsAfterBeat, active, hasSecond, decide_eq_true_eq]
        split_ifs <;> omega
      rw [List.length_append, List.length_singleton, length]
      simp only [receive, ok, expected, after, process, Bool.true_and]
      cases words with
      | nil =>
        rw [last rfl, if_pos rfl, List.length_nil, Nat.add_zero, beq_self_eq_true, beq_iff_eq]
        rw [List.length_nil] at length
        split_ifs <;> omega
      | cons next words =>
        -- a premature `tlast` does not complete the count
        rw [List.length_cons] at length ⊢
        have more : (done.length + 1 == done.length + 1 + (words.length + 1)) = false := by
          rw [beq_eq_false_iff_ne]
          omega
        have both : 2 * done.length + 1 < p.wordCount := by omega
        rw [more, if_pos both]
        split_ifs
        · rw [beq_eq_false_iff_ne]
          omega
        · rfl

variable {p : CommandPacket} {done words : List (BitVec 64)}

theorem firstCountOk_eq (count : i.rvctrl.wordCount = p.wordCount) : firstCountOk i = decide p.Fits := by
  rw [firstCountOk, wordCountNarrow, count, Bool.eq_iff_iff, Bool.and_eq_true, decide_eq_true_eq,
    decide_eq_true_eq, beq_iff_eq, CommandPacket.Fits, maxPayloadWords]
  omega

/-- The first word of a packet that fits is heard. -/
theorem Rest.holds_first (rest : Rest s) (fits : p.Fits) (split : p.body = i.rvctrl.tdata :: words)
    (receives : s.receives i = true) (first : i.rvctrl.tfirst = true) (count : i.rvctrl.wordCount = p.wordCount)
    (last : words = [] → i.rvctrl.tlast = true) : Holds p [i.rvctrl.tdata] (s.step ids i) := by
  have short : p.wordCount ≤ 64 := fits
  have expected : wordCountNarrow i = p.wordCount := by
    rw [wordCountNarrow, count]
    omega
  refine holds_beat ids fits (show p.body = [] ++ i.rvctrl.tdata :: words from split) receives ?_ ?_ ?_ ?_ ?_ rest.process rest.decode last
  · simp [activeIndex, first]
  · simp [activeExpected, first, expected]
  · rw [activeOk, if_pos first, firstCountOk_eq count, decide_eq_true fits]
  · simp
  · simp [first, reservedIn]

theorem Holds.word (holds : Holds p done s) (fits : p.Fits) (split : p.body = done ++ i.rvctrl.tdata :: words)
    (receives : s.receives i = true) (later : i.rvctrl.tfirst = false)
    (last : words = [] → i.rvctrl.tlast = true) :
    Holds p (done ++ [i.rvctrl.tdata]) (s.step ids i) := by
  have unfinished : s.processPending = false := by
    rw [holds.process, split, beq_eq_false_iff_ne, List.length_append, List.length_cons]
    omega
  refine holds_beat ids fits split receives ?_ ?_ ?_ holds.words ?_ unfinished holds.decode last
  · simp [activeIndex, later, holds.index]
  · simp [activeExpected, later, holds.expected]
  · simp [activeOk, later, holds.kept]
  · simp [later, holds.reserved]

/-- A cycle without word inside the packet. -/
theorem Holds.idle (holds : Holds p done s) (split : p.body = done ++ words) (some : words ≠ [])
    (idle : i.rvctrlValid = false) : Holds p done (s.step ids i) := by
  have unfinished : s.processPending = false := by
    have more := List.length_pos_iff.mpr some
    rw [holds.process, split, beq_eq_false_iff_ne, List.length_append]
    omega
  cases turn_step ids s i with
  | receives receives => exact absurd receives (by simp [RiscvControl.receives, idle])
  | processes _ process => exact absurd process (by simp [unfinished])
  | decodes decodes => exact absurd decodes (by simp [not_decodes holds.decode])
  | rests _ _ _ command decode pending =>
    have free : (s.step ids i).rfdcResponsePending = false := by
      cases still : (s.step ids i).rfdcResponsePending with
      | false => rfl
      | true => exact absurd (pending still) (by simp [holds.free])
    exact ⟨(congrArg CommandRegisters.rxExpectedWords command).trans holds.expected,
      (congrArg CommandRegisters.rxDrop command).trans holds.kept,
      (congrArg CommandRegisters.rxIndex command).trans holds.index,
      fun j counted inside => (congrFun (congrArg CommandRegisters.payloadWords command) j).trans
        (holds.words j counted inside),
      (congrArg CommandRegisters.rfdcPayloadFieldsInvalid command).trans holds.reserved,
      (congrArg CommandRegisters.processPending command).trans holds.process,
      decode.trans holds.decode, free⟩

/-! ## From the last word to the decoder -/

/-- The command registers hold the packet and the decoder is to execute. -/
structure Ready (p : CommandPacket) (s : RiscvControl) : Prop where
  command : s.decodedCommand = p.command
  process : s.processPending = false
  decode : s.decodePending = true
  past : s.rxExpectedWords ≤ s.rxIndex ∧ s.rxExpectedWords ≤ 64
  bound : s.rxIndex ≤ 65

theorem decodedCommand_congr {s' : RiscvControl} (same : s'.command = s.command) :
    s'.decodedCommand = s.decodedCommand := by
  have words := congrArg CommandRegisters.payloadWords same
  have expected := congrArg CommandRegisters.rxExpectedWords same
  simp only [command] at words expected
  simp only [decodedCommand, words, expected]
  congr 1
  · exact congrArg CommandRegisters.cmdOpcode same
  · exact congrArg CommandRegisters.cmdSeq same
  · exact congrArg CommandRegisters.cmdFlags same
  · exact congrArg CommandRegisters.cmdPayloadBytes same
  · exact congrArg CommandRegisters.cmdVersionValid same
  · exact congrArg CommandRegisters.cmdKind same
  · exact congrArg CommandRegisters.rfdcPayloadFieldsInvalid same

/-- The whole packet is processed in the first idle cycle behind it. -/
theorem Holds.ready (holds : Holds p p.body s) (fits : p.Fits) (idle : i.rvctrlValid = false) :
    Ready p (s.step ids i) ∧ s.decodes i = false := by
  have whole : s.processPending = true := by rw [holds.process, beq_self_eq_true]
  obtain ⟨atMost, atLeast⟩ := p.wordCount_bounds
  have short : p.wordCount ≤ 64 := fits
  cases turn_step ids s i with
  | receives receives => exact absurd receives (by simp [RiscvControl.receives, idle])
  | decodes decodes => exact absurd decodes (by simp [not_decodes holds.decode])
  | rests _ parked => exact absurd whole (by simp [parked])
  | processes _ _ command decode =>
    refine ⟨?_, not_decodes holds.decode⟩
    have index : (s.step ids i).rxIndex = s.rxIndex := congrArg CommandRegisters.rxIndex command
    have expected : (s.step ids i).rxExpectedWords = s.rxExpectedWords :=
      congrArg CommandRegisters.rxExpectedWords command
    refine ⟨?_, congrArg CommandRegisters.processPending command, decode, ?_, ?_⟩
    · have buffer (j : Nat) (counted : j < p.wordCount) : s.payloadWords j = p.word j :=
        holds.words j counted (by omega)
      have header (j : Nat) (inside : j < 4) : s.payloadWords j = p.word j :=
        buffer j (by unfold CommandPacket.wordCount; omega)
      rw [decodedCommand_congr (s := s.process s) command]
      simp only [decodedCommand, RiscvControl.process, holds.expected, header, holds.reserved,
        CommandPacket.command, Nat.reduceLT]
      congr 1
      exact List.map_congr_left fun j inside => buffer j (List.mem_range.mp inside)
    · rw [index, expected, holds.index, holds.expected]
      exact ⟨atMost, short⟩
    · rw [index, holds.index]
      omega

/-- In an idle cycle the command is decoded, or a completion takes the turn. -/
theorem Ready.idle (ready : Ready p s) (idle : i.rvctrlValid = false) :
    s.decoded i = [p.command] ∧ Rest (s.step ids i) ∨
      s.decoded i = [] ∧ s.slots.first = none ∧ Ready p (s.step ids i) ∧
        (s.step ids i).slots.first.isSome = true := by
  cases turn_step ids s i with
  | receives receives => exact absurd receives (by simp [RiscvControl.receives, idle])
  | processes _ process => exact absurd process (by simp [ready.process])
  | decodes decodes command decode =>
    refine Or.inl ⟨by rw [decoded, if_pos decodes, ready.command], ?_⟩
    refine ⟨(congrArg CommandRegisters.processPending command).trans ready.process, decode, Or.inr ?_, ?_⟩
    · rw [show (s.step ids i).rxIndex = s.rxIndex from congrArg CommandRegisters.rxIndex command,
        show (s.step ids i).rxExpectedWords = s.rxExpectedWords from
          congrArg CommandRegisters.rxExpectedWords command]
      exact ready.past
    · exact (congrArg CommandRegisters.rxIndex command).trans_le ready.bound
  | rests deaf parked waits command decode _ queued =>
    refine Or.inr ⟨by simp [decoded, waits], ?_, ?_, queued ready.decode⟩
    · -- only a completion postpones the decoder, and both need an empty queue
      simp only [decodes, deaf, parked, ready.decode, Bool.not_false, Bool.true_and, Bool.and_true,
        Bool.and_eq_false_iff, Bool.not_eq_false'] at waits
      rcases waits with diag | tdc
      · simp only [diagCompletes, Bool.and_eq_true] at diag
        exact Option.isNone_iff_eq_none.mp diag.1.1.2
      · simp only [tdcCompletes, Bool.and_eq_true] at tdc
        exact Option.isNone_iff_eq_none.mp tdc.1.1.1.2
    · refine ⟨(decodedCommand_congr command).trans ready.command,
        (congrArg CommandRegisters.processPending command).trans ready.process, decode.trans ready.decode, ?_, ?_⟩
      · rw [show (s.step ids i).rxIndex = s.rxIndex from congrArg CommandRegisters.rxIndex command,
          show (s.step ids i).rxExpectedWords = s.rxExpectedWords from
            congrArg CommandRegisters.rxExpectedWords command]
        exact ready.past
      · exact (congrArg CommandRegisters.rxIndex command).trans_le ready.bound

theorem Rest.not_decoded (rest : Rest s) : s.decoded i = [] := by
  simp [RiscvControl.decoded, not_decodes rest.decode]

/-- Three idle cycles are enough to decode a packet. -/
theorem Holds.decoded_within_three (holds : Holds p p.body s) (fits : p.Fits) {a b c : RiscvIn}
    (idle : ∀ i ∈ [a, b, c], i.rvctrlValid = false) :
    Rest ((riscvControl ids).run s [a, b, c]) ∧ (riscvControl ids).log decoded s [a, b, c] = [p.command] := by
  have first := idle a (by simp)
  have second := idle b (by simp)
  have third := idle c (by simp)
  obtain ⟨ready, waits⟩ := holds.ready ids fits first
  have silent : s.decoded a = [] := by simp [decoded, waits]
  simp only [run_cons, run_nil, log_cons, log_nil, silent]
  change Rest (RiscvControl.step ids (RiscvControl.step ids (RiscvControl.step ids s a) b) c) ∧ _
  rcases ready.idle ids second with ⟨now, rest⟩ | ⟨later, -, ready, queued⟩
  · exact ⟨rest.step ids (by simp [receives, third]), by
      change [] ++ ((s.step ids a).decoded b ++ (((s.step ids a).step ids b).decoded c ++ [])) = _
      rw [now, rest.not_decoded]; rfl⟩
  · rcases ready.idle ids third with ⟨now, rest⟩ | ⟨-, empty, -, -⟩
    · exact ⟨rest, by
        change [] ++ ((s.step ids a).decoded b ++ (((s.step ids a).step ids b).decoded c ++ [])) = _
        rw [later, now]; rfl⟩
    · rw [empty] at queued
      contradiction

/-! ## Whole packets and streams -/

/-- The entry of the framed stream an input shows. -/
def presented (i : RiscvIn) : Option RvctrlWord := if i.rvctrlValid then some i.rvctrl else none

def arrived (_ : RiscvControl) (i : RiscvIn) : List (BitVec 64) :=
  if i.rvctrlValid then [i.rvctrl.tdata] else []

/-- The packets of which every word is heard. -/
def wholePackets : List CommandPacket → List Bool → List CommandPacket
  | [], _ => []
  | p :: packets, tags =>
    if (tags.take p.body.length).all id then p :: wholePackets packets (tags.drop p.body.length)
    else wholePackets packets (tags.drop p.body.length)

theorem idle_of_presented (none : presented i = none) : i.rvctrlValid = false := by
  simpa [presented] using none

theorem valid_of_presented {w : RvctrlWord} (some : presented i = some w) :
    i.rvctrlValid = true ∧ i.rvctrl = w := by
  simpa [presented] using some

theorem heard_idle (idle : i.rvctrlValid = false) : s.heard i = [] := by simp [heard, idle]

/-- The rest of a packet of which everything was heard so far. -/
theorem Holds.run {stream : List (Option RvctrlWord)} {is : List RiscvIn} (holds : Holds p done s)
    (fits : p.Fits) (split : p.body = done ++ words) (delivers : Delivers p.wordCount false words stream)
    (shows : is.map presented = stream) :
    Holds p p.body ((riscvControl ids).run s is) ∧ (riscvControl ids).log decoded s is = [] ∧
      (riscvControl ids).log heard s is = List.replicate words.length true := by
  induction is generalizing s done words stream with
  | nil =>
    subst shows
    cases delivers with
    | done =>
      rw [List.append_nil] at split
      exact ⟨split ▸ holds, rfl, rfl⟩
  | cons i is ih =>
    have silent : s.decoded i = [] := by simp [decoded, not_decodes holds.decode]
    rw [run_cons, log_cons, log_cons, silent]
    rcases stream with - | ⟨o, stream⟩
    · contradiction
    obtain ⟨presents, later⟩ := List.cons_eq_cons.mp shows
    cases delivers with
    | idle some delivers =>
      have idle := idle_of_presented presents
      rw [heard_idle idle]
      exact ih (holds.idle ids split some idle) split delivers later
    | word data first count last delivers =>
      obtain ⟨valid, rfl⟩ := valid_of_presented presents
      subst data
      have receives : s.receives i = true := by simp [RiscvControl.receives, valid, holds.free]
      have tag : s.heard i = [true] := by simp [heard, valid, holds.free]
      obtain ⟨after, none, tags⟩ := ih (holds.word ids fits split receives first last)
        (by rw [split, List.append_assoc, List.singleton_append]) delivers later
      refine ⟨after, none, ?_⟩
      rw [tag]
      exact congrArg _ tags

/-- A packet that does not fit, or of which something is not heard, leaves nothing. -/
theorem Rest.run {stream : List (Option RvctrlWord)} {is : List RiscvIn} (rest : Rest s) {count : Nat}
    (delivers : Delivers count false words stream) (shows : is.map presented = stream) :
    Rest ((riscvControl ids).run s is) ∧ (riscvControl ids).log decoded s is = [] ∧
      ((riscvControl ids).log heard s is).length = words.length := by
  induction is generalizing s words stream with
  | nil =>
    subst shows
    cases delivers with
    | done => exact ⟨rest, rfl, rfl⟩
  | cons i is ih =>
    rw [run_cons, log_cons, log_cons, rest.not_decoded]
    rcases stream with - | ⟨o, stream⟩
    · contradiction
    obtain ⟨presents, later⟩ := List.cons_eq_cons.mp shows
    cases delivers with
    | idle some delivers =>
      have idle := idle_of_presented presents
      rw [heard_idle idle]
      exact ih (rest.step ids (by simp [receives, idle])) delivers later
    | word data first count last delivers =>
      obtain ⟨valid, rfl⟩ := valid_of_presented presents
      have outside : i.rvctrl.tfirst = true → firstCountOk i = false := fun opens => by simp [first] at opens
      obtain ⟨after, none, tags⟩ := ih (rest.step ids fun _ => outside) delivers later
      refine ⟨after, none, ?_⟩
      rw [List.length_append, List.length_cons]
      rw [show (s.heard i).length = 1 by simp [heard, valid], Nat.add_comm]
      exact congrArg _ tags

theorem arrived_of_delivers {stream : List (Option RvctrlWord)} {is : List RiscvIn} {count : Nat} {first : Bool}
    (delivers : Delivers count first words stream) (shows : is.map presented = stream) :
    (riscvControl ids).log arrived s is = words := by
  induction delivers generalizing s is with
  | done => rw [List.map_eq_nil_iff.mp shows]; rfl
  | idle some delivers ih =>
    obtain ⟨i, is, rfl, presents, later⟩ := List.map_eq_cons_iff.mp shows
    rw [log_cons, ih later]
    simp [arrived, idle_of_presented presents]
  | word data first count last delivers ih =>
    obtain ⟨i, is, rfl, presents, later⟩ := List.map_eq_cons_iff.mp shows
    obtain ⟨valid, rfl⟩ := valid_of_presented presents
    rw [log_cons, ih later]
    simp [arrived, valid, data]

/-- A packet is held when it fits and every word of it is heard; else nothing of it
    remains. -/
theorem Rest.packet {stream : List (Option RvctrlWord)} {is : List RiscvIn} (rest : Rest s)
    (whole : p.body = words) (delivers : Delivers p.wordCount true words stream)
    (shows : is.map presented = stream) :
    (riscvControl ids).log decoded s is = [] ∧
      ((riscvControl ids).log heard s is).length = p.body.length ∧
      if ((riscvControl ids).log heard s is).all id = true ∧ p.Fits then
        Holds p p.body ((riscvControl ids).run s is)
      else Rest ((riscvControl ids).run s is) := by
  induction is generalizing s stream with
  | nil =>
    subst shows
    cases delivers with
    | done => contradiction
  | cons i is ih =>
    rw [run_cons, log_cons, log_cons, rest.not_decoded]
    rcases stream with - | ⟨o, stream⟩
    · contradiction
    obtain ⟨presents, later⟩ := List.cons_eq_cons.mp shows
    cases delivers with
    | idle some delivers =>
      have idle := idle_of_presented presents
      rw [heard_idle idle]
      exact ih (rest.step ids (by simp [receives, idle])) delivers later
    | @word _ d words _ _ data first count last delivers =>
      obtain ⟨valid, rfl⟩ := valid_of_presented presents
      subst data
      rw [List.length_append, List.all_append]
      have one : (s.heard i).length = 1 := by simp [heard, valid]
      rw [one, whole, List.length_cons, Nat.add_comm 1]
      by_cases begins : s.rfdcResponsePending = false ∧ p.Fits
      · -- the packet begins to be heard, and will be to its end
        obtain ⟨free, fits⟩ := begins
        have receives : s.receives i = true := by simp [RiscvControl.receives, valid, free]
        have holds := rest.holds_first ids fits whole receives first count last
        obtain ⟨after, none, tags⟩ := holds.run ids fits whole delivers later
        have tag : s.heard i = [true] := by simp [heard, valid, free]
        change ((riscvControl ids).log heard (s.step ids i) is) = _ at tags
        refine ⟨none, ?_, ?_⟩
        · change ((riscvControl ids).log heard (s.step ids i) is).length + 1 = _
          rw [tags, List.length_replicate]
        · change if ((s.heard i).all id &&
            ((riscvControl ids).log heard (s.step ids i) is).all id) = true ∧ p.Fits then _ else _
          rw [if_pos ⟨by simp [tag, tags], fits⟩]
          exact whole ▸ after
      · have outside : s.receives i = true → firstCountOk i = false := by
          intro receives
          rw [RiscvControl.receives, Bool.and_eq_true, Bool.not_eq_true'] at receives
          rw [firstCountOk_eq count, decide_eq_false_iff_not]
          exact fun fits => begins ⟨receives.2, fits⟩
        obtain ⟨after, none, tags⟩ := (rest.step ids fun receives _ => outside receives).run ids delivers later
        refine ⟨none, congrArg (· + 1) tags, ?_⟩
        change if ((s.heard i).all id &&
          ((riscvControl ids).log heard (s.step ids i) is).all id) = true ∧ p.Fits then _ else _
        rw [if_neg]
        · exact after
        · rintro ⟨all, fits⟩
          rw [Bool.and_eq_true] at all
          have tag := all.1
          simp only [heard, valid, if_true, List.all_cons, List.all_nil, id, Bool.and_true,
            Bool.not_eq_true'] at tag
          exact begins ⟨tag, fits⟩

theorem logs_idle {is : List RiscvIn} (idle : ∀ i ∈ is, i.rvctrlValid = false) :
    (riscvControl ids).log heard s is = [] ∧ (riscvControl ids).log arrived s is = [] := by
  induction is generalizing s with
  | nil => exact ⟨rfl, rfl⟩
  | cons i is ih =>
    obtain ⟨heards, arrives⟩ := ih fun j held => idle j (List.mem_cons_of_mem _ held)
    have quiet := idle i List.mem_cons_self
    rw [log_cons, log_cons, heards, arrives, heard_idle quiet]
    simp [arrived, quiet]

theorem Rest.idles {is : List RiscvIn} (rest : Rest s) (idle : ∀ i ∈ is, i.rvctrlValid = false) :
    Rest ((riscvControl ids).run s is) ∧ (riscvControl ids).log decoded s is = [] := by
  induction is generalizing s with
  | nil => exact ⟨rest, rfl⟩
  | cons i is ih =>
    have next : Rest (s.step ids i) := rest.step ids (by simp [receives, idle i List.mem_cons_self])
    obtain ⟨after, none⟩ := ih next fun j held => idle j (List.mem_cons_of_mem _ held)
    rw [log_cons, rest.not_decoded]
    exact ⟨after, none⟩

/-- Over a whole stream the decoder executes exactly the packets that fit and of which
    every word is heard, in their order. -/
theorem Rest.stream {packets : List CommandPacket} {stream : List (Option RvctrlWord)} {is : List RiscvIn}
    (arrives : Stream packets stream) (rest : Rest s) (shows : is.map presented = stream) :
    (riscvControl ids).log decoded s is =
        ((wholePackets packets ((riscvControl ids).log heard s is)).filter fun p => p.Fits).map
          CommandPacket.command ∧
      (riscvControl ids).log arrived s is = packets.flatMap CommandPacket.body := by
  induction arrives generalizing s is with
  | rest silent =>
    have idle : ∀ i ∈ is, i.rvctrlValid = false := fun i held =>
      idle_of_presented (silent _ (shows ▸ List.mem_map_of_mem held))
    exact ⟨(rest.idles ids idle).2, (logs_idle ids idle).2⟩
  | @packet p packets words stream delivers arrives ih =>
    obtain ⟨own, others, rfl, presents, later⟩ := List.map_eq_append_iff.mp shows
    obtain ⟨a, others, rfl, first, later⟩ := List.map_eq_cons_iff.mp later
    obtain ⟨b, others, rfl, second, later⟩ := List.map_eq_cons_iff.mp later
    obtain ⟨c, others, rfl, third, later⟩ := List.map_eq_cons_iff.mp later
    have idle : ∀ i ∈ [a, b, c], i.rvctrlValid = false := by
      simp [idle_of_presented first, idle_of_presented second, idle_of_presented third]
    have split : own ++ a :: b :: c :: others = own ++ ([a, b, c] ++ others) := rfl
    obtain ⟨silent, length, outcome⟩ := rest.packet ids rfl delivers presents
    have words := arrived_of_delivers ids (s := s) delivers presents
    set middle := (riscvControl ids).run s own
    obtain ⟨noTags, noWords⟩ := logs_idle ids (s := middle) idle
    rw [split, log_append, log_append, log_append, log_append, log_append, log_append, silent, words, noTags,
      noWords, List.flatMap_cons, wholePackets, ← length, List.nil_append, List.nil_append, List.nil_append,
      List.take_left, List.drop_left]
    split_ifs at outcome with holds
    · obtain ⟨after, decodes⟩ := outcome.decoded_within_three ids holds.2 idle
      obtain ⟨rest, bodies⟩ := ih after later
      rw [decodes, rest, bodies, if_pos holds.1, List.filter_cons_of_pos (by simpa using holds.2)]
      exact ⟨rfl, rfl⟩
    · obtain ⟨after, none⟩ := outcome.idles ids idle
      obtain ⟨rest, bodies⟩ := ih after later
      rw [none, rest, bodies]
      refine ⟨?_, rfl⟩
      by_cases all : ((riscvControl ids).log heard s own).all id = true
      · rw [if_pos all, List.filter_cons_of_neg (by simpa using fun fits => holds ⟨all, fits⟩)]
        rfl
      · rw [if_neg all]
        rfl

end RiscvControl

end Xczu47dr.Control
