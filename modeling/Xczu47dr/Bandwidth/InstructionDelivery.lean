import Xczu47dr.Bandwidth.InstructionPath
import Xczu47dr.Clocked.Progress

/-! # Instructions arrive intact

Every four words leave the FIFO as one beat and in order, whatever bursts carry
them, and every burst is answered once.
-/

namespace Xczu47dr.Bandwidth

open Clocked

/-- Words that begin with whole instructions are those of instructions that follow them. -/
theorem words_split {sent calls : List WriteInstr} {rest : List (BitVec 32)}
    (same : sent.flatMap (·.words) ++ rest = calls.flatMap (·.words)) :
    ∃ later, calls = sent ++ later ∧ rest = later.flatMap (·.words) := by
  induction sent generalizing calls with
  | nil => exact ⟨calls, rfl, same⟩
  | cons first sent ih =>
      cases calls with
      | nil => cases same
      | cons call calls =>
          rw [List.flatMap_cons, List.flatMap_cons, List.append_assoc] at same
          obtain ⟨head, tail⟩ := List.append_inj same rfl
          obtain ⟨later, rfl, rest_eq⟩ := ih tail
          refine ⟨later, ?_, rest_eq⟩
          cases first
          cases call
          simp only [WriteInstr.words, List.cons.injEq, and_true] at head
          obtain ⟨rfl, rfl, rfl, rfl⟩ := head
          rfl

theorem length_words (calls : List WriteInstr) : (calls.flatMap (·.words)).length = 4 * calls.length := by
  induction calls with
  | nil => rfl
  | cons call calls ih =>
      rw [List.flatMap_cons, List.length_append, ih, List.length_cons]
      change 4 + 4 * calls.length = _
      omega

namespace InstructionPath

variable {s : InstructionPath} {t : PathTick} {bursts : List Burst} {calls : List WriteInstr}

/-! ## One cycle -/

/-- At the fourth word the FIFO has room. -/
theorem written_eq : s.written t =
    if s.accepted t = true ∧ s.interface.packCount = 3 then [s.interface.din (s.axiIn t)] else [] := by
  have last : s.interface.acceptingLastPackWord (s.axiIn t) = (s.accepted t && s.interface.packCount == 3) := rfl
  rw [written, last]
  cases accepts : s.accepted t with
  | false => simp
  | true =>
      by_cases fourth : s.interface.packCount = 3
      · have room : t.fifoFull = false := by
          obtain ⟨-, ready⟩ := Bool.and_eq_true_iff.mp accepts
          obtain ⟨-, room⟩ := Bool.and_eq_true_iff.mp ready
          rw [fourth] at room
          exact (Bool.not_eq_true' _).mp room
        rw [fourth, room]
        rfl
      · simp [fourth]

/-- A beat that leaves the FIFO has been emitted. -/
theorem emitted_step : (s.step t).emitted ++ (s.step t).fifo = s.emitted ++ s.fifo ++ s.written t := by
  change s.emitted ++ (if s.leaves t then s.fifo.take 1 else []) ++
    ((if s.leaves t then s.fifo.tail else s.fifo) ++ s.written t) = _
  split_ifs
  · rw [← List.drop_one, List.append_assoc, ← List.append_assoc (s.fifo.take 1), List.take_append_drop,
      List.append_assoc]
  · rw [List.append_nil, List.append_assoc]

theorem accepted_active (accepts : s.accepted t = true) : s.interface.awActive = true ∧ s.words ≠ [] := by
  simp only [accepted, AxiFifoInterface.wready, Bool.and_eq_true, Bool.not_eq_true', List.isEmpty_eq_false_iff] at accepts
  exact ⟨accepts.2.1, accepts.1.2⟩

theorem addressed_idle (addresses : s.addressed t = true) :
    s.interface.awActive = false ∧ s.interface.bvalid = false ∧ s.addresses ≠ [] := by
  simp only [addressed, AxiFifoInterface.awready, Bool.and_eq_true, Bool.not_eq_true', List.isEmpty_eq_false_iff]
    at addresses
  exact ⟨addresses.2.1, addresses.2.2, addresses.1.2⟩

theorem answered_valid (answers : s.answered t = true) : s.interface.bvalid = true :=
  (Bool.and_eq_true_iff.mp answers).1

section Fields

variable (s t)

theorem words_step : (s.step t).words = if s.accepted t then s.words.tail else s.words := rfl

theorem addresses_step : (s.step t).addresses = if s.addressed t then s.addresses.tail else s.addresses := rfl

theorem answers_step : (s.step t).answers = s.answers + (s.answered t).toNat := rfl

theorem packData_step : (s.step t).interface.packData =
    if s.accepted t then Function.update s.interface.packData s.interface.packCount (s.words.headD 0)
    else s.interface.packData := rfl

theorem packCount_step : (s.step t).interface.packCount =
    if s.accepted t then if s.interface.packCount = 3 then 0 else (s.interface.packCount + 1) % 2 ^ 2
    else s.interface.packCount := by
  change (if s.accepted t then if s.accepted t && s.interface.packCount == 3 then 0 else _ else _) = _
  cases s.accepted t <;> simp

theorem awActive_step : (s.step t).interface.awActive =
    if s.accepted t && s.interface.beatsRemaining == 0 then false
    else s.interface.awActive || s.addressed t := rfl

theorem bvalid_step : (s.step t).interface.bvalid =
    (!s.answered t && (s.accepted t && s.interface.beatsRemaining == 0 || s.interface.bvalid)) := rfl

theorem beatsRemaining_step : (s.step t).interface.beatsRemaining =
    if s.accepted t && !(s.accepted t && s.interface.beatsRemaining == 0) then
      (s.interface.beatsRemaining + (2 ^ 8 - 1)) % 2 ^ 8
    else if s.addressed t then (s.axiIn t).awlen % 2 ^ 8
    else s.interface.beatsRemaining := rfl

end Fields

/-! ## What holds of every reached state -/

structure Carries (bursts : List Burst) (s : InstructionPath) : Prop where
  packed : ∃ sent : List WriteInstr, s.emitted ++ s.fifo = sent.map (·.beat) ∧
    sent.flatMap (·.words) ++ (List.range s.interface.packCount).map s.interface.packData ++ s.words =
      bursts.flatMap (·.words)
  lanes : s.interface.packCount < 4
  beats : s.interface.beatsRemaining < 2 ^ 8
  alone : s.interface.awActive = true → s.interface.bvalid = false
  /-- The words of the burst under way come before those of the bursts still to be addressed. -/
  current : ∃ left : List (BitVec 32), s.words = left ++ s.addresses.flatMap (·.words) ∧
    left.length = if s.interface.awActive then s.interface.beatsRemaining + 1 else 0
  ahead : s.words <:+ (bursts.drop (s.answers + s.interface.bvalid.toNat)).flatMap (·.words)
  addresses : s.addresses = bursts.drop (s.answers + s.interface.bvalid.toNat + s.interface.awActive.toNat)
  bounded : s.answers + s.interface.bvalid.toNat + s.interface.awActive.toNat ≤ bursts.length

/-- A word that is accepted goes into its lane, and the fourth one out with the others. -/
theorem packed_step (lanes : s.interface.packCount < 4)
    (packed : ∃ sent : List WriteInstr, s.emitted ++ s.fifo = sent.map (·.beat) ∧
      sent.flatMap (·.words) ++ (List.range s.interface.packCount).map s.interface.packData ++ s.words =
        bursts.flatMap (·.words)) :
    (∃ sent : List WriteInstr, (s.step t).emitted ++ (s.step t).fifo = sent.map (·.beat) ∧
      sent.flatMap (·.words) ++ (List.range (s.step t).interface.packCount).map (s.step t).interface.packData ++
        (s.step t).words = bursts.flatMap (·.words)) ∧ (s.step t).interface.packCount < 4 := by
  obtain ⟨sent, beats, same⟩ := packed
  rw [emitted_step, written_eq, words_step, packData_step, packCount_step, beats]
  cases accepts : s.accepted t with
  | false => exact ⟨⟨sent, by simp, by simpa using same⟩, lanes⟩
  | true =>
      obtain ⟨-, some_word⟩ := accepted_active accepts
      obtain ⟨word, later, words_eq⟩ := List.exists_cons_of_ne_nil some_word
      rw [words_eq] at same ⊢
      simp only [true_and, if_true, List.headD_cons, List.tail_cons]
      by_cases fourth : s.interface.packCount = 3
      · rw [if_pos fourth, if_pos fourth]
        refine ⟨⟨sent ++ [⟨s.interface.packData 0, s.interface.packData 1, s.interface.packData 2, word⟩], ?_, ?_⟩,
          by decide⟩
        · rw [List.map_append]
          have head : (s.axiIn t).wdata = word := by
            change s.words.headD 0 = word
            rw [words_eq]
            rfl
          rw [AxiFifoInterface.din, head]
          rfl
        · rw [← same, fourth]
          simp [WriteInstr.words, List.range_succ]
      · rw [if_neg fourth, if_neg fourth, Nat.mod_eq_of_lt (by omega)]
        refine ⟨⟨sent, List.append_nil _, ?_⟩, by omega⟩
        have before : (List.range s.interface.packCount).map
            (Function.update s.interface.packData s.interface.packCount word) =
              (List.range s.interface.packCount).map s.interface.packData :=
          List.map_congr_left fun lane inside =>
            Function.update_of_ne (Nat.ne_of_lt (List.mem_range.mp inside)) _ _
        rw [List.range_succ, List.map_append, before, ← same]
        simp

/-- A word of the burst under way: the last one ends it and makes the response valid. -/
theorem carries_accepted (carries : Carries bursts s) (accepts : s.accepted t = true) :
    Carries bursts (s.step t) := by
  obtain ⟨packed, lanes, beats, alone, ⟨left, words_eq, length_left⟩, ahead, addresses, bounded⟩ := carries
  obtain ⟨packed', lanes'⟩ := packed_step (t := t) lanes packed
  obtain ⟨active, some_word⟩ := accepted_active accepts
  have unaddressed : s.addressed t = false :=
    Bool.eq_false_iff.mpr fun addressed => Bool.noConfusion (active.symm.trans (addressed_idle addressed).1)
  have unanswered : s.answered t = false :=
    Bool.eq_false_iff.mpr fun answered => Bool.noConfusion ((answered_valid answered).symm.trans (alone active))
  have answers := answers_step s t
  have awActive' := awActive_step s t
  have bvalid' := bvalid_step s t
  have beats' := beatsRemaining_step s t
  rw [unanswered] at answers
  rw [accepts, unaddressed, active] at awActive'
  rw [accepts, unanswered, alone active] at bvalid'
  rw [accepts, unaddressed] at beats'
  rw [active, if_pos rfl] at length_left
  rw [alone active, active] at addresses bounded
  rw [alone active] at ahead
  obtain ⟨word, left, rfl⟩ := List.exists_cons_of_ne_nil (List.ne_nil_of_length_eq_add_one length_left)
  have words' : (s.step t).words = left ++ s.addresses.flatMap (·.words) := by
    rw [words_step, accepts, if_pos rfl, words_eq]
    rfl
  have addresses' : (s.step t).addresses = s.addresses := by
    rw [addresses_step, unaddressed]
    rfl
  rw [List.length_cons] at length_left
  cases last : s.interface.beatsRemaining == 0 with
  | true =>
      have none_left : s.interface.beatsRemaining = 0 := beq_iff_eq.mp last
      simp only [last, Bool.and_self, if_true, Bool.not_true, Bool.and_false, Bool.false_eq_true, if_false] at *
      have left_nil : left = [] := List.length_eq_zero_iff.mp (by omega)
      refine ⟨packed', lanes', by omega, fun active => ?_, ⟨left, ?_, ?_⟩, ?_, ?_, ?_⟩
      · rw [awActive'] at active
        cases active
      · rw [words', addresses']
      · rw [awActive', if_neg Bool.false_ne_true]
        omega
      · rw [words', answers, bvalid', left_nil, addresses]
        exact List.suffix_rfl
      · rw [addresses', answers, awActive', bvalid']
        exact addresses
      · rw [answers, awActive', bvalid']
        exact bounded
  | false =>
      have some_left : s.interface.beatsRemaining ≠ 0 := fun zero => by simp [zero] at last
      simp only [last, Bool.and_false, Bool.false_eq_true, if_false, Bool.not_false, Bool.and_self, if_true,
        Bool.or_false] at *
      refine ⟨packed', lanes', by omega, fun _ => bvalid', ⟨left, ?_, ?_⟩, ?_, ?_, ?_⟩
      · rw [words', addresses']
      · rw [awActive', if_pos rfl]
        omega
      · rw [words', answers, bvalid']
        rw [words_eq] at ahead
        exact (List.suffix_cons word _).trans ahead
      · rw [addresses', answers, awActive', bvalid']
        exact addresses
      · rw [answers, awActive', bvalid']
        exact bounded

/-- The next burst is under way with all of its words. -/
theorem carries_addressed (carries : Carries bursts s) (unaccepted : s.accepted t = false)
    (addressed : s.addressed t = true) : Carries bursts (s.step t) := by
  obtain ⟨packed, lanes, beats, alone, ⟨left, words_eq, length_left⟩, ahead, addresses, bounded⟩ := carries
  obtain ⟨packed', lanes'⟩ := packed_step (t := t) lanes packed
  obtain ⟨idle, silent, some_burst⟩ := addressed_idle addressed
  obtain ⟨burst, later, addresses_eq⟩ := List.exists_cons_of_ne_nil some_burst
  have unanswered : s.answered t = false :=
    Bool.eq_false_iff.mpr fun answered => Bool.noConfusion ((answered_valid answered).symm.trans silent)
  have answers := answers_step s t
  have words' := words_step s t
  have addresses' := addresses_step s t
  have awActive' := awActive_step s t
  have bvalid' := bvalid_step s t
  have beats' := beatsRemaining_step s t
  have awlen : (s.axiIn t).awlen = burst.words.length - 1 := by
    rw [axiIn, addresses_eq]
  have positive := List.length_pos_of_ne_nil burst.nonempty
  have short := burst.short
  rw [unanswered] at answers
  rw [unaccepted, if_neg Bool.false_ne_true] at words'
  rw [addressed, if_pos rfl] at addresses'
  rw [unaccepted, addressed, Bool.or_true] at awActive'
  rw [unaccepted, silent, Bool.or_false, Bool.false_and, Bool.and_false] at bvalid'
  rw [unaccepted, addressed, Bool.false_and, if_neg Bool.false_ne_true, if_pos rfl, awlen,
    Nat.mod_eq_of_lt (by omega)] at beats'
  rw [idle, if_neg Bool.false_ne_true, List.length_eq_zero_iff] at length_left
  rw [silent, idle] at addresses bounded
  rw [silent] at ahead
  have within : s.answers < bursts.length := by
    by_contra past
    rw [List.drop_eq_nil_of_le (by simp only [Bool.toNat_false]; omega)] at addresses
    exact some_burst addresses
  refine ⟨packed', lanes', by omega, fun _ => bvalid', ⟨burst.words, ?_, ?_⟩, ?_, ?_, ?_⟩
  · rw [words', addresses', words_eq, length_left, addresses_eq]
    rfl
  · rw [awActive', beats']
    exact (Nat.sub_add_cancel positive).symm
  · rw [words', answers, bvalid']
    exact ahead
  · rw [addresses', answers, awActive', bvalid', addresses, List.tail_drop]
    rfl
  · rw [answers, awActive', bvalid']
    exact within

theorem carries_waiting (carries : Carries bursts s) (unaccepted : s.accepted t = false)
    (unaddressed : s.addressed t = false) : Carries bursts (s.step t) := by
  obtain ⟨packed, lanes, beats, alone, ⟨left, words_eq, length_left⟩, ahead, addresses, bounded⟩ := carries
  obtain ⟨packed', lanes'⟩ := packed_step (t := t) lanes packed
  have words' := words_step s t
  have addresses' := addresses_step s t
  have awActive' := awActive_step s t
  have bvalid' := bvalid_step s t
  have beats' := beatsRemaining_step s t
  rw [unaccepted, if_neg Bool.false_ne_true] at words'
  rw [unaddressed, if_neg Bool.false_ne_true] at addresses'
  rw [unaccepted, unaddressed, Bool.or_false, Bool.false_and, if_neg Bool.false_ne_true] at awActive'
  rw [unaccepted, Bool.false_and, Bool.false_or] at bvalid'
  rw [unaccepted, unaddressed] at beats'
  have moved : (s.step t).answers + (s.step t).interface.bvalid.toNat = s.answers + s.interface.bvalid.toNat := by
    rw [answers_step, bvalid']
    cases answered : s.answered t with
    | true =>
        rw [answered_valid answered]
        rfl
    | false => rfl
  refine ⟨packed', lanes', beats' ▸ beats, fun active => ?_, ⟨left, ?_, ?_⟩, ?_, ?_, ?_⟩
  · rw [bvalid', alone (awActive' ▸ active), Bool.and_false]
  · rw [words', addresses', words_eq]
  · rw [awActive', beats']
    exact length_left
  · rw [words', moved]
    exact ahead
  · rw [addresses', moved, awActive', addresses]
  · rw [moved, awActive']
    exact bounded

theorem carries_step (carries : Carries bursts s) (t : PathTick) : Carries bursts (s.step t) := by
  cases accepts : s.accepted t with
  | true => exact carries_accepted carries accepts
  | false =>
      cases addressed : s.addressed t with
      | true => exact carries_addressed carries accepts addressed
      | false => exact carries_waiting carries accepts addressed

theorem carries_reset (bursts : List Burst) : Carries bursts (instructionPath bursts).reset where
  packed := ⟨[], rfl, rfl⟩
  lanes := Nat.zero_lt_succ 3
  beats := Nat.zero_lt_succ 255
  alone := nofun
  current := ⟨[], rfl, rfl⟩
  ahead := List.suffix_rfl
  addresses := rfl
  bounded := Nat.zero_le _

/-! ## Progress -/

def rank (s : InstructionPath) : Nat :=
  s.addresses.length + 3 * s.words.length + s.interface.bvalid.toNat + s.fifo.length

/-- Nothing is accepted, answered or emitted. -/
structure Still (s : InstructionPath) (t : PathTick) : Prop where
  unaddressed : s.addressed t = false
  unaccepted : s.accepted t = false
  unanswered : s.answered t = false
  unemitted : s.leaves t = false

theorem rank_step (s : InstructionPath) (t : PathTick) :
    (s.step t).rank ≤ s.rank ∧ ((s.step t).rank = s.rank → s.Still t) := by
  have fifo' : (s.step t).fifo.length + (s.leaves t).toNat ≤ s.fifo.length + (s.accepted t).toNat := by
    have written : (s.written t).length ≤ (s.accepted t).toNat := by
      rw [written_eq]
      cases s.accepted t <;> simp
      split_ifs <;> simp
    change ((if s.leaves t then s.fifo.tail else s.fifo) ++ s.written t).length + _ ≤ _
    rw [List.length_append]
    cases leaves : s.leaves t with
    | true =>
        have some_beat : 0 < s.fifo.length := by
          simp only [InstructionPath.leaves, Bool.and_eq_true, Bool.not_eq_true', List.isEmpty_eq_false_iff] at leaves
          exact List.length_pos_of_ne_nil leaves.1.2
        rw [if_pos rfl, List.length_tail, Bool.toNat_true]
        omega
    | false =>
        rw [if_neg Bool.false_ne_true, Bool.toNat_false]
        omega
  have words' : (s.step t).words.length + (s.accepted t).toNat = s.words.length := by
    rw [words_step]
    cases accepts : s.accepted t with
    | true =>
        have some_word := List.length_pos_of_ne_nil (accepted_active accepts).2
        rw [if_pos rfl, List.length_tail, Bool.toNat_true]
        omega
    | false => rfl
  have addresses' : (s.step t).addresses.length + (s.addressed t).toNat = s.addresses.length := by
    rw [addresses_step]
    cases addressed : s.addressed t with
    | true =>
        have some_burst := List.length_pos_of_ne_nil (addressed_idle addressed).2.2
        rw [if_pos rfl, List.length_tail, Bool.toNat_true]
        omega
    | false => rfl
  have bvalid' : (s.step t).interface.bvalid.toNat + (s.answered t).toNat ≤
      s.interface.bvalid.toNat + (s.accepted t).toNat := by
    rw [bvalid_step]
    cases answered : s.answered t with
    | true =>
        rw [answered_valid answered]
        simp
    | false => cases s.accepted t <;> cases s.interface.bvalid <;> cases s.interface.beatsRemaining == 0 <;> decide
  unfold rank
  refine ⟨by omega, fun same => ⟨?_, ?_, ?_, ?_⟩⟩
  all_goals
    apply Bool.toNat_eq_zero.mp
    omega

/-- What a cycle in which nothing happens leaves as it is. -/
def standing (s : InstructionPath) :=
  (s.words, s.addresses, s.fifo, s.interface.awActive, s.interface.bvalid, s.interface.packCount)

theorem Still.standing_step (still : s.Still t) : (s.step t).standing = s.standing := by
  have written : s.written t = [] := by
    rw [written_eq, still.unaccepted, if_neg (fun both => Bool.noConfusion both.1)]
  have fifo' : (s.step t).fifo = s.fifo := by
    change (if s.leaves t then s.fifo.tail else s.fifo) ++ s.written t = _
    rw [still.unemitted, written, if_neg Bool.false_ne_true, List.append_nil]
  rw [standing, words_step, addresses_step, fifo', awActive_step, bvalid_step, packCount_step, still.unaccepted,
    still.unaddressed, still.unanswered]
  simp [standing]

variable {inputs : Nat → PathTick}

/-- The master offers and takes again and again, and withdraws no word that it has offered; the
FIFO has room again and again, and is emptied. -/
structure Fair (bursts : List Burst) (inputs : Nat → PathTick) : Prop where
  addresses : ∀ n, ∃ k, n ≤ k ∧ (inputs k).awvalid = true
  data : ∀ n, ∃ k, n ≤ k ∧ (inputs k).wvalid = true
  held : ∀ n, (inputs n).wvalid = true →
    ((instructionPath bursts).trace inputs n).accepted (inputs n) = false → (inputs (n + 1)).wvalid = true
  responses : ∀ n, ∃ k, n ≤ k ∧ (inputs k).bready = true
  room : ∀ n, ∃ k, n ≤ k ∧ (inputs k).fifoFull = false
  drains : ∀ n, ∃ k, n ≤ k ∧ (inputs k).shown = true ∧ (inputs k).mAxisTready = true

theorem carries_trace (bursts : List Burst) (inputs : Nat → PathTick) (n : Nat) :
    Carries bursts ((instructionPath bursts).trace inputs n) :=
  (instructionPath bursts).trace_invariant inputs (carries_reset bursts) (fun _ t carries => carries_step carries t) n

/-- Something happens while anything is left. -/
theorem rank_falls (fair : Fair bursts inputs) (n : Nat) (left : 0 < ((instructionPath bursts).trace inputs n).rank) :
    ∃ m, n ≤ m ∧ ((instructionPath bursts).trace inputs (m + 1)).rank < ((instructionPath bursts).trace inputs m).rank := by
  by_contra stuck
  let σ := (instructionPath bursts).trace inputs
  have still (k : Nat) (later : n ≤ k) : (σ k).Still (inputs k) := by
    obtain ⟨falls, same⟩ := rank_step (σ k) (inputs k)
    exact same (Nat.le_antisymm falls (Nat.not_lt.mp fun less => stuck ⟨k, later, less⟩))
  have stands (k : Nat) (later : n ≤ k) : (σ k).standing = (σ n).standing :=
    lasts (P := fun k => (σ k).standing = (σ n).standing) rfl k later
      fun j from_n _ same => (still j from_n).standing_step.trans same
  simp only [standing, Prod.mk.injEq] at stands
  have words_stand (k : Nat) (later : n ≤ k) := (stands k later).1
  have carries := carries_trace bursts inputs n
  obtain ⟨rest, words_eq, length_rest⟩ := carries.current
  by_cases held : (σ n).fifo = []
  · cases shown : (σ n).interface.bvalid with
    | true =>
        obtain ⟨k, later, ready⟩ := fair.responses n
        have unanswered := (still k later).unanswered
        rw [answered, (stands k later).2.2.2.2.1, shown, ready] at unanswered
        cases unanswered
    | false =>
        cases active : (σ n).interface.awActive with
        | true =>
            have some_word : (σ n).words ≠ [] := by
              intro none
              rw [active, if_pos rfl] at length_rest
              rw [words_eq, List.append_eq_nil_iff] at none
              rw [none.1] at length_rest
              exact absurd length_rest (Nat.succ_ne_zero _).symm
            obtain ⟨k, later, offered⟩ := fair.data n
            obtain ⟨m, after, room⟩ := fair.room k
            have offers : (inputs m).wvalid = true :=
              lasts (P := fun m => (inputs m).wvalid = true) offered m after
                fun j from_k _ now => fair.held j now (still j (later.trans from_k)).unaccepted
            have unaccepted := (still m (later.trans after)).unaccepted
            have full : ((σ m).axiIn (inputs m)).fifoFull = false := room
            rw [accepted, offers, AxiFifoInterface.wready, full, (stands m (later.trans after)).2.2.2.1, active,
              words_stand m (later.trans after), List.isEmpty_eq_false_iff.mpr some_word, Bool.not_false,
              Bool.or_true] at unaccepted
            cases unaccepted
        | false =>
            rw [active, if_neg Bool.false_ne_true, List.length_eq_zero_iff] at length_rest
            have some_burst : (σ n).addresses ≠ [] := by
              intro none
              have no_word : (σ n).words = [] := by
                rw [words_eq, length_rest, none]
                rfl
              have empty : (σ n).rank = 0 := by
                rw [rank, none, no_word, shown, held]
                rfl
              exact absurd left (Nat.not_lt.mpr (Nat.le_of_eq empty))
            obtain ⟨k, later, offered⟩ := fair.addresses n
            have unaddressed := (still k later).unaddressed
            rw [addressed, offered, AxiFifoInterface.awready, (stands k later).2.2.2.1, (stands k later).2.2.2.2.1,
              (stands k later).2.1, active, shown, List.isEmpty_eq_false_iff.mpr some_burst] at unaddressed
            cases unaddressed
  · obtain ⟨k, later, shown, ready⟩ := fair.drains n
    have unemitted := (still k later).unemitted
    rw [leaves, (stands k later).2.2.1, shown, ready, List.isEmpty_eq_false_iff.mpr held] at unemitted
    cases unemitted

/-! ## Delivery -/

structure Arriving (calls : List WriteInstr) (bursts : List Burst) (s : InstructionPath) : Prop where
  /-- One beat for every four words that have been accepted. -/
  beats : s.emitted ++ s.fifo = (calls.map (·.beat)).take ((4 * calls.length - s.words.length) / 4)
  /-- A burst is not answered before its last word has been accepted. -/
  ahead : s.words <:+ (bursts.drop (s.answers + s.interface.bvalid.toNat)).flatMap (·.words)
  once : s.answers + s.interface.bvalid.toNat ≤ bursts.length

structure Arrived (calls : List WriteInstr) (bursts : List Burst) (s : InstructionPath) : Prop where
  emitted : s.emitted = calls.map (·.beat)
  answers : s.answers = bursts.length
  silent : s.interface.bvalid = false

theorem Carries.arriving (carries : Carries bursts s)
    (grouped : bursts.flatMap (·.words) = calls.flatMap (·.words)) : Arriving calls bursts s := by
  obtain ⟨⟨sent, beats, same⟩, lanes, -, -, -, ahead, -, bounded⟩ := carries
  refine ⟨?_, ahead, by omega⟩
  rw [grouped, List.append_assoc] at same
  obtain ⟨later, rfl, rest⟩ := words_split same
  have lengths := congrArg List.length rest
  rw [List.length_append, List.length_map, List.length_range, length_words] at lengths
  rw [beats, List.length_append, show (4 * (sent.length + later.length) - s.words.length) / 4 = sent.length by omega,
    List.map_append, List.take_left' (List.length_map _)]

theorem Carries.arrived (carries : Carries bursts s) (done : s.rank = 0)
    (grouped : bursts.flatMap (·.words) = calls.flatMap (·.words)) : Arrived calls bursts s := by
  have arriving := carries.arriving grouped
  simp only [rank, Nat.add_eq_zero_iff, List.length_eq_zero_iff, Nat.mul_eq_zero, Bool.toNat_eq_zero] at done
  obtain ⟨⟨⟨unaddressed, words⟩, silent⟩, empty⟩ := done
  have words_nil : s.words = [] := by
    rcases words with never | words_nil
    · cases never
    · exact words_nil
  have idle : s.interface.awActive = false := by
    obtain ⟨left, words_eq, length_left⟩ := carries.current
    rw [words_nil, eq_comm, List.append_eq_nil_iff] at words_eq
    rw [words_eq.1] at length_left
    cases active : s.interface.awActive with
    | true =>
        rw [active] at length_left
        cases length_left
    | false => rfl
  refine ⟨?_, ?_, silent⟩
  · have beats := arriving.beats
    rw [empty, List.append_nil, words_nil] at beats
    rw [beats]
    apply List.take_of_length_le
    rw [List.length_map, List.length_nil]
    omega
  · have dropped := carries.addresses
    have bounded := carries.bounded
    rw [unaddressed, eq_comm, List.drop_eq_nil_iff] at dropped
    rw [silent, idle] at dropped bounded
    exact Nat.le_antisymm bounded dropped

/-- However the words are grouped into bursts and whatever the handshakes do, one beat leaves for
every call, and its fields are those the call was given; a master and a FIFO that go on bring all
of them through. -/
theorem instructions_arrive (calls : List WriteInstr) (bursts : List Burst)
    (grouped : bursts.flatMap (·.words) = calls.flatMap (·.words)) :
    (∀ ticks : List PathTick,
      Arriving calls bursts ((instructionPath bursts).run (instructionPath bursts).reset ticks)) ∧
    (∀ inputs : Nat → PathTick, Fair bursts inputs →
      ∃ n, Arrived calls bursts ((instructionPath bursts).trace inputs n)) ∧
    (∀ (channel lengthBytes : BitVec 32) (addrOffset : BitVec 64), channel.toNat < 16 →
      ∃ ch : BitVec 4, ch.toNat = channel.toNat ∧
        Instruction.ofBeat (sendPlayInstruction channel lengthBytes addrOffset).beat =
          ⟨2, ch, false, lengthBytes, addrOffset⟩) ∧
    Instruction.ofBeat sendEndInstruction.beat = ⟨3, 15, true, 0, 0⟩ := by
  refine ⟨fun ticks => ?_, fun inputs fair => ?_, fun channel lengthBytes addrOffset named => ?_,
    ofBeat_sendEndInstruction⟩
  · have carries : Carries bursts ((instructionPath bursts).run (instructionPath bursts).reset ticks) :=
      (instructionPath bursts).invariant (carries_reset bursts) (fun _ t carries => carries_step carries t) ticks
    exact carries.arriving grouped
  · have empties : LeadsTo ((instructionPath bursts).trace inputs) (fun _ => True) (fun s => s.rank = 0) := by
      apply leadsTo_of_measure rank
      intro n _
      rcases Nat.eq_zero_or_pos ((instructionPath bursts).trace inputs n).rank with done | left
      · exact ⟨n, le_rfl, .inl done⟩
      · obtain ⟨m, later, falls⟩ := rank_falls fair n left
        have slides : ((instructionPath bursts).trace inputs m).rank ≤
            ((instructionPath bursts).trace inputs n).rank :=
          lasts (P := fun m => ((instructionPath bursts).trace inputs m).rank ≤
            ((instructionPath bursts).trace inputs n).rank) le_rfl m later
            fun k _ _ below => (rank_step _ (inputs k)).1.trans below
        exact ⟨m + 1, Nat.le_succ_of_le later, .inr ⟨trivial, lt_of_lt_of_le falls slides⟩⟩
    obtain ⟨n, -, done⟩ := empties 0 trivial
    exact ⟨n, (carries_trace bursts inputs n).arrived done grouped⟩
  · refine ⟨channel.extractLsb' 0 4, ?_, ofBeat_sendPlayInstruction channel lengthBytes addrOffset⟩
    rw [BitVec.extractLsb'_toNat, Nat.shiftRight_zero, Nat.mod_eq_of_lt named]

def eager : PathTick := ⟨true, true, true, 0, false, false, false, true, true⟩

theorem fair_eager (bursts : List Burst) : Fair bursts fun _ => eager where
  addresses n := ⟨n, le_rfl, rfl⟩
  data n := ⟨n, le_rfl, rfl⟩
  held _ _ _ := rfl
  responses n := ⟨n, le_rfl, rfl⟩
  room n := ⟨n, le_rfl, rfl⟩
  drains n := ⟨n, le_rfl, rfl, rfl⟩

/-- The words of a PLAY and of the END after it, the second burst beginning within the END. -/
def fiveAndThree : List Burst :=
  [⟨[0x12, 64, 0, 0, 0x1f3], by decide, by decide⟩, ⟨[0, 0, 0], by decide, by decide⟩]

theorem instructions_arrive_fiveAndThree :
    ∃ n, Arrived [sendPlayInstruction 1 64 0, sendEndInstruction] fiveAndThree
      ((instructionPath fiveAndThree).trace (fun _ => eager) n) :=
  (instructions_arrive _ fiveAndThree (by decide)).2.1 _ (fair_eager fiveAndThree)

end InstructionPath

end Xczu47dr.Bandwidth
