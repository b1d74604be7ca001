import Xczu47dr.Bandwidth.CommandExecutor
import Xczu47dr.Clocked.Ring

/-! # Returning beats

The return queue of the executor against the commands that the DataMover has not
finished, and the beats in flight of each channel against what these have left.
-/

namespace Xczu47dr.Bandwidth

open Clocked

/-- The channels of the unfinished commands and the beats each has left, oldest first. -/
abbrev Owed := List (ChannelSel × Nat)

def takeBeat : Owed → Owed
  | [] => []
  | (channel, beats) :: rest => if beats = 1 then rest else (channel, beats - 1) :: rest

/-- The beats that the unfinished commands of a channel have left. -/
def owedBeats (owed : Owed) (channel : ChannelSel) : Nat :=
  (owed.map fun entry => if entry.1 = channel then entry.2 else 0).sum

theorem owedBeats_append (owed later : Owed) (channel : ChannelSel) :
    owedBeats (owed ++ later) channel = owedBeats owed channel + owedBeats later channel := by
  rw [owedBeats, List.map_append, List.sum_append]
  rfl

theorem owedBeats_single (channel other : ChannelSel) (beats : Nat) :
    owedBeats [(channel, beats)] other = if channel = other then beats else 0 := rfl

theorem owedBeats_cons (channel other : ChannelSel) (beats : Nat) (rest : Owed) :
    owedBeats ((channel, beats) :: rest) other = (if channel = other then beats else 0) + owedBeats rest other := rfl

/-- A beat is one less of the oldest command's channel. -/
theorem owedBeats_takeBeat {channel : ChannelSel} {beats : Nat} {rest : Owed} (some_beats : 0 < beats)
    (other : ChannelSel) : owedBeats (takeBeat ((channel, beats) :: rest)) other +
      (if channel = other then 1 else 0) = owedBeats ((channel, beats) :: rest) other := by
  rw [takeBeat, owedBeats_cons]
  split_ifs with last same same
  · omega
  · omega
  · rw [owedBeats_cons, if_pos same]
    omega
  · rw [owedBeats_cons, if_neg same, Nat.add_zero]

theorem owedBeats_le {owed : Owed} (short : ∀ entry ∈ owed, entry.2 ≤ chunkBeats) (channel : ChannelSel) :
    owedBeats owed channel ≤ owed.length * chunkBeats := by
  induction owed with
  | nil => exact Nat.zero_le _
  | cons first rest ih =>
    have here := short first List.mem_cons_self
    have later := ih fun entry mem => short entry (List.mem_cons_of_mem _ mem)
    rw [owedBeats_cons, List.length_cons, Nat.succ_mul]
    split_ifs <;> omega

/-- The queue holds the unfinished commands. -/
structure Queued (q : ReturnQueue) (owed : Owed) : Prop where
  held : Ring.contents (fun slot => (q.sel slot, q.beatsLeft slot)) retqDepth q.rdPtr q.count = owed
  inRange : q.rdPtr < retqDepth
  tail : q.wrPtr = (q.rdPtr + q.count) % retqDepth
  few : q.count ≤ outstandingLimit
  beats : ∀ entry ∈ owed, 0 < entry.2 ∧ entry.2 ≤ chunkBeats
  inflight : ∀ channel, q.inflightBeats channel = owedBeats owed channel

variable {q : ReturnQueue} {owed : Owed}

theorem queued_clear (q : ReturnQueue) : Queued q.clear [] where
  held := rfl
  inRange := (by decide : 0 < retqDepth)
  tail := rfl
  few := Nat.zero_le _
  beats := nofun
  inflight _ := rfl

theorem Queued.length (queued : Queued q owed) : owed.length = q.count := by
  rw [← queued.held, Ring.length_contents]

/-- The oldest command is in the head slot. -/
theorem Queued.head {channel : ChannelSel} {beats : Nat} {rest : Owed} (queued : Queued q ((channel, beats) :: rest)) :
    q.empty = false ∧ q.sel q.rdPtr = channel ∧ q.beatsLeft q.rdPtr = beats ∧
      Ring.contents (fun slot => (q.sel slot, q.beatsLeft slot)) retqDepth ((q.rdPtr + 1) % retqDepth) rest.length =
        rest := by
  have count := queued.length
  have held := queued.held
  rw [List.length_cons] at count
  rw [← count, Ring.contents_pop _ _ queued.inRange] at held
  obtain ⟨first, later⟩ := List.cons.inj held
  obtain ⟨sel, left⟩ := Prod.mk.inj first
  refine ⟨?_, sel, left, later⟩
  rw [ReturnQueue.empty, ← count]
  rfl

theorem Queued.streamSel {channel : ChannelSel} {beats : Nat} {rest : Owed}
    (queued : Queued q ((channel, beats) :: rest)) : q.streamSel = channel := by
  obtain ⟨filled, sel, -, -⟩ := queued.head
  rw [ReturnQueue.streamSel, filled, if_neg Bool.false_ne_true, sel]

theorem Queued.small (queued : Queued q owed) (channel : ChannelSel) :
    owedBeats owed channel ≤ outstandingLimit * chunkBeats := by
  have le := owedBeats_le (fun entry mem => (queued.beats entry mem).2) channel
  rw [queued.length] at le
  exact le.trans (Nat.mul_le_mul_right _ queued.few)

/-- A command is pushed behind the others. -/
theorem Queued.push (queued : Queued q owed) (room : q.count < outstandingLimit) (channel : ChannelSel) {beats : Nat}
    (some_beats : 0 < beats) (short : beats ≤ chunkBeats) :
    Queued (q.step true false channel beats) (owed ++ [(channel, beats)]) := by
  have wide : q.count + 1 < 32 := by
    rw [outstandingLimit] at room
    omega
  have count : (q.step true false channel beats).count = q.count + 1 := Nat.mod_eq_of_lt wide
  have slots : (fun slot =>
        ((q.step true false channel beats).sel slot, (q.step true false channel beats).beatsLeft slot)) =
      Function.update (fun slot => (q.sel slot, q.beatsLeft slot)) ((q.rdPtr + q.count) % retqDepth)
        (channel, beats) := by
    funext slot
    change (Function.update q.sel q.wrPtr channel slot, Function.update q.beatsLeft q.wrPtr beats slot) = _
    rw [queued.tail]
    by_cases here : slot = (q.rdPtr + q.count) % retqDepth
    · rw [here, Function.update_self, Function.update_self, Function.update_self]
    · rw [Function.update_of_ne here, Function.update_of_ne here, Function.update_of_ne here]
  refine ⟨?_, queued.inRange, ?_, ?_, ?_, fun other => ?_⟩
  · rw [slots, count]
    refine (Ring.contents_push _ _ ?_ _).trans (congrArg (· ++ _) queued.held)
    exact Nat.lt_succ_of_lt room
  · rw [count]
    change (q.wrPtr + 1) % retqDepth = (q.rdPtr + (q.count + 1)) % retqDepth
    rw [queued.tail, Ring.tail_push]
  · rw [count]
    exact room
  · intro entry mem
    rcases List.mem_append.mp mem with earlier | last
    · exact queued.beats entry earlier
    · rw [List.mem_singleton.mp last]
      exact ⟨some_beats, short⟩
  · have small := queued.small channel
    rw [outstandingLimit] at small
    have narrow : owedBeats owed channel + beats < 2 ^ 32 := by
      rw [chunkBeats] at small short
      omega
    change Function.update q.inflightBeats channel ((q.inflightBeats channel + beats) % 2 ^ 32) other = _
    rw [queued.inflight, Nat.mod_eq_of_lt narrow, owedBeats_append, owedBeats_single]
    by_cases same : other = channel
    · rw [same, Function.update_self, if_pos rfl]
    · rw [Function.update_of_ne same, if_neg (Ne.symm same), queued.inflight, Nat.add_zero]

/-- A beat is taken from the oldest command. -/
theorem Queued.take (queued : Queued q owed) (some_owed : owed ≠ []) (channel : ChannelSel) (beats : Nat) :
    Queued (q.step false true channel beats) (takeBeat owed) := by
  obtain ⟨⟨oldest, left⟩, rest, rfl⟩ := List.exists_cons_of_ne_nil some_owed
  obtain ⟨filled, sel, head, later⟩ := queued.head
  have count := queued.length
  rw [List.length_cons] at count
  have takes : q.takes true = true := by rw [ReturnQueue.takes, filled]; rfl
  obtain ⟨positive, short⟩ : 0 < left ∧ left ≤ chunkBeats := queued.beats _ List.mem_cons_self
  have few := queued.few
  have inflight : ∀ other, (q.step false true channel beats).inflightBeats other =
      owedBeats (takeBeat ((oldest, left) :: rest)) other := by
    intro other
    have one : _ = owedBeats ((oldest, left) :: rest) other := owedBeats_takeBeat positive other
    have small := queued.small oldest
    change (q.nextInflight false true channel beats) other = _
    rw [ReturnQueue.nextInflight, takes, queued.streamSel]
    simp only [Bool.false_and, Bool.false_eq_true, if_false, if_true]
    by_cases same : other = oldest
    · rw [same] at one ⊢
      rw [if_pos rfl] at one
      rw [Function.update_self, queued.inflight]
      rw [outstandingLimit, chunkBeats] at small
      omega
    · rw [if_neg (Ne.symm same)] at one
      rw [Function.update_of_ne same, queued.inflight]
      exact one.symm
  by_cases last : left = 1
  · have pops : q.pop true = true := by rw [ReturnQueue.pop, takes, head, last]; rfl
    have after : (q.step false true channel beats).count = rest.length := by
      change (if (false && !q.pop true) = true then _ else if (q.pop true && !false) = true then _ else _) % 32 = _
      rw [pops]
      change (q.count + 31) % 32 = _
      rw [outstandingLimit] at few
      omega
    rw [takeBeat, if_pos last] at inflight ⊢
    have unchanged : (q.step false true channel beats).beatsLeft = q.beatsLeft := by
      change (if (q.takes true && !q.pop true) = true then _ else q.beatsLeft) = _
      rw [pops, takes]
      rfl
    have moved : (q.step false true channel beats).rdPtr = (q.rdPtr + 1) % retqDepth := by
      change (if q.pop true = true then _ else _) = _
      rw [pops]
      rfl
    refine ⟨?_, ?_, ?_, ?_, fun entry mem => queued.beats entry (List.mem_cons_of_mem _ mem), inflight⟩
    · rw [after, moved, unchanged]
      exact later
    · rw [moved]
      exact Nat.mod_lt _ (by decide)
    · rw [moved, after, Ring.tail_pop]
      change q.wrPtr = _
      rw [queued.tail, count]
    · rw [after]
      omega
  · have pops : q.pop true = false := by
      rw [ReturnQueue.pop, takes, head]
      exact decide_eq_false last
    have after : (q.step false true channel beats).count = rest.length + 1 := by
      change (if (false && !q.pop true) = true then _ else if (q.pop true && !false) = true then _ else _) % 32 = _
      rw [pops]
      change q.count % 32 = _
      rw [outstandingLimit] at few
      omega
    have moved : (q.step false true channel beats).rdPtr = q.rdPtr := by
      change (if q.pop true = true then _ else _) = _
      rw [pops]
      rfl
    have slots : (fun slot =>
          ((q.step false true channel beats).sel slot, (q.step false true channel beats).beatsLeft slot)) =
        Function.update (fun slot => (q.sel slot, q.beatsLeft slot)) q.rdPtr (oldest, left - 1) := by
      funext slot
      change (q.sel slot, (if (q.takes true && !q.pop true) = true then
        Function.update q.beatsLeft q.rdPtr ((q.beatsLeft q.rdPtr + 2 ^ 32 - 1) % 2 ^ 32) else q.beatsLeft) slot) = _
      rw [chunkBeats] at short
      have one_less : (left + 2 ^ 32 - 1) % 2 ^ 32 = left - 1 := by omega
      rw [pops, takes, head, one_less]
      change (q.sel slot, Function.update q.beatsLeft q.rdPtr (left - 1) slot) = _
      by_cases here : slot = q.rdPtr
      · rw [here, Function.update_self, Function.update_self, sel]
      · rw [Function.update_of_ne here, Function.update_of_ne here]
    rw [takeBeat, if_neg last] at inflight ⊢
    refine ⟨?_, ?_, ?_, ?_, ?_, inflight⟩
    · rw [slots, after, moved, Ring.contents_head _ queued.inRange, later]
      rw [outstandingLimit] at few
      rw [retqDepth]
      omega
    · rw [moved]
      exact queued.inRange
    · rw [moved, after]
      change q.wrPtr = _
      rw [queued.tail, count]
    · rw [after, count]
      exact few
    · intro entry mem
      rcases List.mem_cons.mp mem with rfl | other
      · exact ⟨by omega, by omega⟩
      · exact queued.beats entry (List.mem_cons_of_mem _ other)

theorem nextInflight_push (q : ReturnQueue) (channel : ChannelSel) (beats : Nat) :
    q.nextInflight true false channel beats =
      Function.update q.inflightBeats channel ((q.inflightBeats channel + beats) % 2 ^ 32) := by
  simp only [ReturnQueue.nextInflight, ReturnQueue.takes, Bool.false_and, Bool.and_false, Bool.false_eq_true, if_false,
    if_true]

/-- The beats in flight after a beat and a push are those after the beat and then the push. -/
theorem nextInflight_both (q : ReturnQueue) (channel : ChannelSel) (beats : Nat) :
    q.nextInflight true true channel beats = Function.update (q.nextInflight false true channel beats) channel
      ((q.nextInflight false true channel beats channel + beats) % 2 ^ 32) := by
  rw [ReturnQueue.nextInflight, ReturnQueue.nextInflight]
  cases q.takes true with
  | false => simp only [Bool.and_false, Bool.false_and, Bool.false_eq_true, if_false, if_true]
  | true =>
    by_cases same : channel = q.streamSel
    · have swap : q.inflightBeats channel + beats + 2 ^ 32 - 1 = q.inflightBeats channel + 2 ^ 32 - 1 + beats := by
        omega
      rw [← same]
      simp only [beq_self_eq_true, Bool.and_self, Bool.false_and, Bool.false_eq_true, if_false, if_true,
        Function.update_self, Function.update_idem, Nat.mod_add_mod, swap]
    · simp only [beq_eq_false_iff_ne.mpr same, Bool.and_false, Bool.false_and, Bool.false_eq_true, if_false, if_true,
        Function.update_of_ne same]

/-- A beat and a push at one edge are the beat and then the push. -/
theorem step_both (q : ReturnQueue) (channel : ChannelSel) (beats : Nat) :
    q.step true true channel beats = (q.step false true channel beats).step true false channel beats := by
  have idle (r : ReturnQueue) : r.takes false = false ∧ r.pop false = false := ⟨rfl, rfl⟩
  have inflight : (q.step false true channel beats).nextInflight true false channel beats =
      q.nextInflight true true channel beats := by
    rw [nextInflight_both]
    exact nextInflight_push _ _ _
  have count : (if (true && !q.pop true) = true then q.count + 1
      else if (q.pop true && !true) = true then q.count + 31 else q.count) % 32 =
        ((if (false && !q.pop true) = true then q.count + 1
          else if (q.pop true && !false) = true then q.count + 31 else q.count) % 32 + 1) % 32 := by
    cases q.pop true
    · simp only [Bool.not_false, Bool.and_true, Bool.false_and, Bool.false_eq_true, if_false, if_true]
      omega
    · simp only [Bool.not_true, Bool.not_false, Bool.and_true, Bool.and_false, Bool.false_eq_true, if_false, if_true]
      omega
  rw [ReturnQueue.step.eq_def (q.step false true channel beats), inflight]
  simp only [ReturnQueue.step, idle, Bool.not_false, Bool.and_true, Bool.false_and, Bool.false_eq_true,
    if_false, if_true] at count ⊢
  rw [ReturnQueue.mk.injEq]
  refine ⟨rfl, rfl, rfl, rfl, ?_, rfl⟩
  exact count

/-- One edge of the queue, a push and a beat each there or not. -/
theorem Queued.step (queued : Queued q owed) {push beatFire : Bool} (promised : beatFire = true → owed ≠ [])
    (room : push = true → q.count < outstandingLimit) (channel : ChannelSel) {beats : Nat}
    (fits : push = true → 0 < beats ∧ beats ≤ chunkBeats) :
    Queued (q.step push beatFire channel beats)
      ((if beatFire then takeBeat owed else owed) ++ if push then [(channel, beats)] else []) := by
  cases push with
  | false =>
    rw [if_neg Bool.false_ne_true, List.append_nil]
    cases beatFire with
    | false =>
      have few := queued.few
      rw [outstandingLimit] at few
      have count : (q.step false false channel beats).count = q.count := by
        change q.count % 32 = q.count
        omega
      refine ⟨?_, queued.inRange, ?_, ?_, queued.beats, queued.inflight⟩
      · rw [count]
        exact queued.held
      · rw [count]
        exact queued.tail
      · rw [count]
        exact queued.few
    | true => exact queued.take (promised rfl) channel beats
  | true =>
    obtain ⟨positive, short⟩ := fits rfl
    cases beatFire with
    | false => exact queued.push (room rfl) channel positive short
    | true =>
      rw [step_both q channel beats]
      refine (queued.take (promised rfl) channel beats).push ?_ channel positive short
      have taken := (queued.take (promised rfl) channel beats).length
      have before := queued.length
      have fewer : (takeBeat owed).length ≤ owed.length := by
        cases owed with
        | nil => exact Nat.le_refl _
        | cons first rest =>
          obtain ⟨oldest, left⟩ := first
          rw [takeBeat]
          split_ifs
          · exact Nat.le_succ _
          · exact Nat.le_refl _
      have some_room := room rfl
      omega

end Xczu47dr.Bandwidth
