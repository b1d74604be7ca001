import Mathlib.Data.Prod.Lex
import Xczu47dr.Clocked.Progress
import Xczu47dr.Upload.OneAnswer

/-! # Every packet is answered

What a started packet has left to do goes down with every cycle, unless the packet
waits for its next word, for the playback path or for a status snapshot.
-/

namespace Xczu47dr.Upload

open UploadWriter

/-- What a packet may wait for. -/
inductive PacketTurn
  | words
  | admission
  | statusPort
  | snapshot
  | itself

namespace UploadWriter

variable (p : WriterParams) (w : UploadWriter) (i : WriterIn)

/-- The stages of a packet, counted down to its answer. -/
def stage : Nat :=
  match w.state with
  | .idle => 0
  | .emit => 1
  | .write => 2
  | .crcDone => 3
  | .crc => 4
  | .readWait | .readLoad => if w.readingCrc then 4 else 2
  | .final => 5
  | .hdr0 | .hdr1 | .payload | .drop => 6

def writeCycles : Nat := 3 * (p.axiTimeoutCycles + 1)

/-- What is left of a write: its handshakes, each within the time of the watchdog, and its response. -/
def writeLeft : Nat :=
  (w.channels.awvalid.toNat + w.channels.wvalid.toNat) * (p.axiTimeoutCycles + 1) + (p.axiTimeoutCycles - w.axiTimer)

def left : Nat :=
  match w.state with
  | .final => if w.statusRequested then 0 else 1
  | .readWait =>
    if w.readingCrc then 3 * (w.crcCheckTotalBits - w.crcCheckBitIndex) + 2
    else (w.writeWordsTotal - w.writeIndex) * (writeCycles p + 2) + writeCycles p + 1
  | .readLoad =>
    if w.readingCrc then 3 * (w.crcCheckTotalBits - w.crcCheckBitIndex) + 1
    else (w.writeWordsTotal - w.writeIndex) * (writeCycles p + 2) + writeCycles p
  | .crc => 3 * (w.crcCheckTotalBits - w.crcCheckBitIndex)
  | .write => (w.writeWordsTotal - w.writeIndex) * (writeCycles p + 2) + w.writeLeft p
  | _ => 0

/-- The writer has asked for a status snapshot. -/
def awaitsSnapshot : Bool :=
  w.state == .final && w.request.opcode == opStatus && !w.packetError && w.statusRequested

def turn : PacketTurn :=
  match w.state with
  | .hdr0 | .hdr1 | .payload | .drop => .words
  | .final =>
    if w.request.opcode = opStatus ∧ w.packetError = false then if w.statusRequested then .snapshot else .statusPort
    else if w.requiresAdmission then .admission
    else .itself
  | _ => .itself

/-- What is waited for comes in this cycle, or is not waited for. -/
def Comes : PacketTurn → Prop
  | .words => i.tvalid = true ∧ i.tlast = true ∨ w.rxActive = false
  | .admission => i.commandReady = true
  | .statusPort => i.statusRequestReady = true
  | .snapshot => i.statusSnapshotValid = true ∨ w.awaitsSnapshot = false
  | .itself => True

/-- A cycle of the packet. -/
inductive Advances (w' : UploadWriter) : Prop
  | stage (less : w'.stage < w.stage)
  | left (same : w'.stage = w.stage) (less : w'.left p < w.left p)
  | waits (same : w'.stage = w.stage) (equal : w'.left p = w.left p) (turn : w'.turn = w.turn)
      (none : ¬ w.Comes i w.turn)

variable {p w i}

theorem receiving_stage (receiving : w.receiving = true) : w.stage = 6 ∧ w.left p = 0 ∧ w.turn = .words := by
  rcases receiving_cases receiving with state | state | state | state <;> simp [UploadWriter.stage, left, turn, state]

theorem stage_outside (outside : w.receiving = false) : w.stage < 6 := by
  unfold UploadWriter.stage
  cases state : w.state <;> simp [UploadWriter.receiving, state] at outside ⊢ <;> split_ifs <;> decide

theorem receiving_advances (receiving : w.receiving = true) (active : w.rxActive = true) :
    Advances p w i (w.step p i) := by
  obtain ⟨stage, left, turn⟩ := receiving_stage (p := p) receiving
  cases word : i.tvalid with
  | false =>
    have inside : (w.step p i).receiving = true := by
      rw [UploadWriter.receiving, receiving_waits receiving word]
      exact receiving
    obtain ⟨stage', left', turn'⟩ := receiving_stage (p := p) inside
    refine .waits (stage'.trans stage.symm) (left'.trans left.symm) (turn'.trans turn.symm) ?_
    rw [turn]
    simp [Comes, word, active]
  | true =>
    have ends := receiving_word (p := p) receiving word
    cases last : i.tlast with
    | true =>
      rw [last, Bool.not_true] at ends
      exact .stage (stage ▸ stage_outside ends)
    | false =>
      rw [last, Bool.not_false] at ends
      obtain ⟨stage', left', turn'⟩ := receiving_stage (p := p) ends
      refine .waits (stage'.trans stage.symm) (left'.trans left.symm) (turn'.trans turn.symm) ?_
      rw [turn]
      simp [Comes, last, active]

theorem stage_emit (state : w.state = .emit) : w.stage = 1 := by rw [UploadWriter.stage, state]

theorem applyVerdict_stage {n : UploadWriter} {verdict : Verdict} (emits : n.state = .emit) :
    (w.applyVerdict n verdict).stage < 5 := by
  cases verdict with
  | refuse status offset =>
    rw [applyVerdict, stage_emit ((setError_state _ _ _ _).trans emits)]
    decide
  | accept core pulse =>
    rw [stage_emit (w := w.applyVerdict n (.accept core pulse)) emits]
    decide
  | check duplicate => exact (by decide : 4 < 5)

theorem final_advances (state : w.state = .final) : Advances p w i (w.step p i) := by
  have stepped : w.step p i = w.stepFinal p i := by rw [step, state]
  have at_final : w.stage = 5 := by rw [UploadWriter.stage, state]
  -- a cycle in which nothing but the registers of every cycle changes
  have waits : w.step p i = w.common p i → ¬ w.Comes i w.turn → Advances p w i (w.step p i) := by
    intro same none
    rw [same]
    refine .waits ?_ ?_ ?_ none
    · rw [UploadWriter.stage, UploadWriter.stage, common_state, state]
    · rw [left, left, common_state, state]
      rfl
    · rw [turn, turn, common_state, state]
      rfl
  by_cases status : w.request.opcode = opStatus ∧ w.packetError = false
  · rw [stepFinal, if_pos status] at stepped
    cases asked : w.statusRequested with
    | false =>
      have turn : w.turn = .statusPort := by
        rw [UploadWriter.turn, state]
        dsimp only
        rw [if_pos status, asked, if_neg Bool.false_ne_true]
      rw [asked, if_pos rfl] at stepped
      cases ready : i.statusRequestReady with
      | true =>
        rw [ready, if_pos rfl] at stepped
        refine .left ?_ ?_
        · rw [stepped, at_final, UploadWriter.stage, common_state, state]
        · rw [stepped, left, left, common_state, state, asked]
          exact Nat.zero_lt_one
      | false =>
        rw [ready, if_neg Bool.false_ne_true] at stepped
        refine waits stepped ?_
        rw [turn]
        simp [Comes, ready]
    | true =>
      have turn : w.turn = .snapshot := by
        rw [UploadWriter.turn, state]
        dsimp only
        rw [if_pos status, asked, if_pos rfl]
      rw [asked, if_neg (fun bad => Bool.noConfusion bad)] at stepped
      cases valid : i.statusSnapshotValid with
      | true =>
        rw [valid, if_pos rfl] at stepped
        refine .stage ?_
        rw [stepped, at_final, stage_emit rfl]
        decide
      | false =>
        rw [valid, if_neg Bool.false_ne_true] at stepped
        refine waits stepped ?_
        have awaits : w.awaitsSnapshot = true := by simp [awaitsSnapshot, state, status, asked]
        rw [turn]
        simp [Comes, valid, awaits]
  · rw [stepFinal, if_neg status] at stepped
    by_cases held : (w.requiresAdmission && !i.commandReady) = true
    · rw [if_pos held] at stepped
      rw [Bool.and_eq_true, Bool.not_eq_true'] at held
      have turn : w.turn = .admission := by
        rw [UploadWriter.turn, state]
        dsimp only
        rw [if_neg status, if_pos held.1]
      refine waits stepped ?_
      rw [turn]
      simp [Comes, held.2]
    · rw [if_neg held] at stepped
      dsimp only at stepped
      refine .stage ?_
      rw [stepped, at_final]
      split_ifs
      · rw [stage_emit rfl]
        decide
      · exact applyVerdict_stage rfl
      · exact applyVerdict_stage rfl

/-! ## The check and the writes -/

/-- The stage of the CRC check and what is left of it. -/
theorem checking_left (reading : w.readingCrc = true)
    (state : w.state = .readWait ∨ w.state = .readLoad ∨ w.state = .crc) :
    w.stage = 4 ∧ w.left p = 3 * (w.crcCheckTotalBits - w.crcCheckBitIndex) +
      if w.state = .readWait then 2 else if w.state = .readLoad then 1 else 0 := by
  rcases state with state | state | state <;> simp [UploadWriter.stage, left, state, reading]

/-- The stage of the writes and what is left of it. -/
theorem writing_left (reading : w.readingCrc = false) :
    (w.state = .readWait → w.stage = 2 ∧
      w.left p = (w.writeWordsTotal - w.writeIndex) * (writeCycles p + 2) + writeCycles p + 1) ∧
    (w.state = .readLoad → w.stage = 2 ∧
      w.left p = (w.writeWordsTotal - w.writeIndex) * (writeCycles p + 2) + writeCycles p) ∧
    (w.state = .write → w.stage = 2 ∧
      w.left p = (w.writeWordsTotal - w.writeIndex) * (writeCycles p + 2) + w.writeLeft p) := by
  refine ⟨fun state => ?_, fun state => ?_, fun state => ?_⟩ <;> simp [UploadWriter.stage, left, state, reading]

theorem checking_advances {length : Nat} (loop : CrcLoop length w) (small : length ≤ 1408)
    (state : w.state = .readWait ∨ w.state = .readLoad ∨ w.state = .crc) : Advances p w i (w.step p i) := by
  have reading := loop.reading
  have total := loop.total
  have below := loop.below
  obtain ⟨stage, left⟩ := checking_left (p := p) reading state
  rcases state with state | state | state
  · have stepped : w.step p i = { w.common p i with state := .readLoad } := by rw [step, state]
    obtain ⟨stage', left'⟩ := checking_left (p := p) (w := w.step p i) (by rw [stepped]; exact reading)
      (.inr (.inl (by rw [stepped])))
    refine .left (stage'.trans stage.symm) ?_
    rw [left', left, state, stepped]
    exact Nat.lt_succ_self _
  · have stepped : w.step p i = { w.common p i with crcShift := w.packetReadData, state := .crc } := by
      rw [step, state]
      dsimp only
      rw [stepReadLoad, reading, if_pos rfl]
    obtain ⟨stage', left'⟩ := checking_left (p := p) (w := w.step p i) (by rw [stepped]; exact reading)
      (.inr (.inr (by rw [stepped])))
    refine .left (stage'.trans stage.symm) ?_
    rw [left', left, state, stepped]
    exact Nat.lt_succ_self _
  · have stepped : w.step p i = w.stepCrc p i := by rw [step, state]
    have index : (w.crcCheckBitIndex + 1) % 2 ^ 14 = w.crcCheckBitIndex + 1 := by omega
    rw [stepCrc, index] at stepped
    dsimp only at stepped
    split_ifs at stepped with last edge
    · refine .stage ?_
      rw [stage, stepped]
      exact (by decide : 3 < 4)
    · obtain ⟨stage', left'⟩ := checking_left (p := p) (w := w.step p i) (by rw [stepped]; exact reading)
        (.inl (by rw [stepped]))
      refine .left (stage'.trans stage.symm) ?_
      rw [left', left, state, stepped]
      dsimp only
      rw [if_pos rfl, if_neg (fun bad => WriterState.noConfusion bad), if_neg (fun bad => WriterState.noConfusion bad)]
      change 3 * (w.crcCheckTotalBits - (w.crcCheckBitIndex + 1)) + 2 < _
      omega
    · obtain ⟨stage', left'⟩ := checking_left (p := p) (w := w.step p i) (by rw [stepped]; exact reading)
        (.inr (.inr (by rw [stepped]; exact state)))
      refine .left (stage'.trans stage.symm) ?_
      rw [left', left, state, stepped]
      dsimp only
      rw [common_state, state, if_neg (fun bad => WriterState.noConfusion bad),
        if_neg (fun bad => WriterState.noConfusion bad)]
      change 3 * (w.crcCheckTotalBits - (w.crcCheckBitIndex + 1)) + 0 < _
      omega

theorem checked_advances (state : w.state = .crcDone) : Advances p w i (w.step p i) := by
  have stepped : w.step p i = w.stepCrcDone p i := by rw [step, state]
  have at_done : w.stage = 3 := by rw [UploadWriter.stage, state]
  refine .stage ?_
  rw [stepCrcDone] at stepped
  dsimp only at stepped
  split_ifs at stepped
  · rw [stepped, at_done, stage_emit rfl]
    decide
  · rw [stepped, at_done, stage_emit rfl]
    decide
  · rw [stepped, at_done]
    exact (by decide : 2 < 3)

/-- A cycle of a write in which its response does not come and the watchdog does not expire. -/
theorem writeLeft_common (state : w.state = .write) (pending : w.bFires i = false) (sound : w.writeFailed = false)
    (in_time : w.timesOut p i = false) (timer : w.axiTimer < p.axiTimeoutCycles) :
    (w.common p i).writeLeft p < w.writeLeft p := by
  have bound := p.timeout_lt
  by_cases handshake : (w.awFires i || w.wFires i) = true
  · have restarted : (w.common p i).axiTimer = 0 := by simp [common, handshake]
    have fewer : (w.common p i).channels.awvalid.toNat + (w.common p i).channels.wvalid.toNat + 1 ≤
        w.channels.awvalid.toNat + w.channels.wvalid.toNat := by
      rw [common]
      dsimp only
      unfold awFires wFires at handshake
      cases aw : w.channels.awvalid <;> cases wv : w.channels.wvalid <;> cases ar : i.awready <;>
        cases wr : i.wready <;> simp_all
    have less := Nat.mul_le_mul_right (p.axiTimeoutCycles + 1) fewer
    rw [Nat.succ_mul] at less
    rw [writeLeft, writeLeft, restarted]
    omega
  · rw [Bool.not_eq_true, Bool.or_eq_false_iff] at handshake
    obtain ⟨no_aw, no_w⟩ := handshake
    have early : w.axiTimer ≠ p.axiTimeoutCycles - 1 := by
      intro late
      simp [timesOut, state, no_aw, no_w, pending, sound, late] at in_time
    have counts : (w.common p i).axiTimer = w.axiTimer + 1 := by
      simp only [common, state, no_aw, no_w, pending, sound, Bool.or_self, Bool.false_eq_true, or_false, ne_eq,
        not_true_eq_false, if_false, Bool.false_or, beq_iff_eq, early]
      omega
    have same : (w.common p i).channels.awvalid = w.channels.awvalid ∧
        (w.common p i).channels.wvalid = w.channels.wvalid := by
      unfold awFires at no_aw
      unfold wFires at no_w
      rw [common]
      dsimp only
      cases aw : w.channels.awvalid <;> cases wv : w.channels.wvalid <;> simp_all
    rw [writeLeft, writeLeft, counts, same.1, same.2]
    omega

theorem writing_advances {a : Account} {d : DataFields} (loop : WriteLoop p a d w) (small : d.length ≤ 1408)
    (timer : w.axiTimer < p.axiTimeoutCycles) (in_time : w.timesOut p i = false)
    (state : w.state = .readWait ∨ w.state = .readLoad ∨ w.state = .write) : Advances p w i (w.step p i) := by
  have reading := loop.reading
  have total := loop.total
  have below := loop.below
  have left := writing_left (p := p) reading
  rcases state with state | state | state
  · have stepped : w.step p i = { w.common p i with state := .readLoad } := by rw [step, state]
    have next := (writing_left (p := p) (w := w.step p i) (by rw [stepped]; exact reading)).2.1 (by rw [stepped])
    refine .left (next.1.trans (left.1 state).1.symm) ?_
    rw [next.2, (left.1 state).2, stepped]
    exact Nat.lt_succ_self _
  · have stepped : w.step p i = w.stepReadLoad p i := by rw [step, state]
    rw [stepReadLoad, reading, if_neg Bool.false_ne_true] at stepped
    have restarted : (w.common p i).axiTimer = 0 := by simp [common, state]
    have next := (writing_left (p := p) (w := w.step p i) (by rw [stepped]; exact reading)).2.2 (by rw [stepped])
    refine .left (next.1.trans (left.2.1 state).1.symm) ?_
    rw [next.2, (left.2.1 state).2, stepped, writeLeft, writeCycles]
    dsimp only
    rw [restarted]
    change (w.writeWordsTotal - w.writeIndex) * _ + _ < _
    simp only [Bool.toNat_true]
    omega
  · have stepped : w.step p i = w.stepWrite p i := by rw [step, state]
    rw [stepWrite] at stepped
    dsimp only at stepped
    cases fires : w.bFires i with
    | true =>
      rw [fires, if_pos rfl, loop.failed, if_neg Bool.false_ne_true] at stepped
      split_ifs at stepped with error last
      · refine .stage ?_
        rw [stepped, (left.2.2 state).1, stage_emit rfl]
        decide
      · refine .stage ?_
        rw [stepped, (left.2.2 state).1, stage_emit rfl]
        decide
      · have next := (writing_left (p := p) (w := w.step p i) (by rw [stepped]; exact reading)).1 (by rw [stepped])
        have index : (w.writeIndex + 1) % 2 ^ 32 = w.writeIndex + 1 := by omega
        obtain ⟨more, count⟩ : ∃ more, w.writeWordsTotal - w.writeIndex = more + 1 :=
          ⟨w.writeWordsTotal - w.writeIndex - 1, by omega⟩
        refine .left (next.1.trans (left.2.2 state).1.symm) ?_
        rw [next.2, (left.2.2 state).2, stepped, index, count, Nat.succ_mul]
        dsimp only
        change (w.writeWordsTotal - (w.writeIndex + 1)) * _ + _ + 1 < _
        rw [show w.writeWordsTotal - (w.writeIndex + 1) = more by omega]
        omega
    | false =>
      rw [fires, if_neg Bool.false_ne_true, in_time, if_neg Bool.false_ne_true] at stepped
      have next := (writing_left (p := p) (w := w.step p i) (by rw [stepped]; exact reading)).2.2
        (by rw [stepped]; exact state)
      refine .left (next.1.trans (left.2.2 state).1.symm) ?_
      rw [next.2, (left.2.2 state).2, stepped]
      exact Nat.add_lt_add_left (writeLeft_common state fires loop.failed in_time timer) _

end UploadWriter

end Xczu47dr.Upload
