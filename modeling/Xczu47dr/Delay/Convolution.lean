import Mathlib.Tactic.FinCases
import Xczu47dr.Delay.FractionalDelay

/-! # The fractional delay is a convolution

The words after a flush are one stream of samples.  What comes out seven edges after
a word is the convolution at its lanes, rounded and saturated, and nothing from
before the flush.
-/

namespace Xczu47dr.Delay

open Clocked Machine Signed

/-! ## The reference -/

/-- The samples of a rail, with zeros for the cycles that are not valid and before the first word. -/
def stream (rail : Rail) (words : List DelayIn) (m : Int) : Int :=
  if m < 0 then 0 else words[m.toNat / 8]?.elim 0 fun word => (word.sample rail (m.toNat % 8)).toInt

/-- The plain convolution with sixteen coefficients, `delay` samples later. -/
def convolution (c : Nat → Int) (delay : Nat) (x : Int → Int) (m : Int) : Int :=
  ∑ t ∈ Finset.range 16, c t * x (m - delay - t)

section

variable {rail : Rail} {words : List DelayIn} {word : DelayIn}

theorem stream_append (more : List DelayIn) {m : Int} (within : m < 8 * words.length) :
    stream rail (words ++ more) m = stream rail words m := by
  rw [stream, stream]
  by_cases before : m < 0
  · rw [if_pos before, if_pos before]
  · rw [if_neg before, if_neg before, List.getElem?_append_left (by omega)]

theorem stream_last {lane : Nat} (small : lane < 8) :
    stream rail (words ++ [word]) (8 * words.length + lane) = (word.sample rail lane).toInt := by
  have position : (8 * words.length + lane : Int).toNat = 8 * words.length + lane := by omega
  have index : (8 * words.length + lane) / 8 = words.length := by omega
  have rest : (8 * words.length + lane) % 8 = lane := by omega
  rw [stream, if_neg (by omega), position, index, rest, List.getElem?_concat_length]
  rfl

theorem stream_neg {m : Int} (before : m < 0) : stream rail words m = 0 := if_pos before

end

/-! ## Words and lanes -/

theorem laneOf_ofLanes (values : Rail → Nat → BitVec 16) (rail : Rail) {lane : Nat} (small : lane < 8) :
    laneOf rail (ofLanes values) lane = values rail lane := by
  refine BitVec.eq_of_getLsbD_eq fun bit within => ?_
  have offset : rail.offset = 0 ∨ rail.offset = 16 := by cases rail <;> simp [Rail.offset]
  have inside : lane * 32 + rail.offset + bit < 256 := by omega
  rw [laneOf, BitVec.getLsbD_extractLsb', decide_eq_true within, Bool.true_and, ofLanes, BitVec.getLsbD_setWidth,
    decide_eq_true inside, Bool.true_and, BitVec.getLsbD_ofBoolListLE, List.getD_eq_getElem?_getD, List.getElem?_ofFn,
    dif_pos inside]
  change (values (if (lane * 32 + rail.offset + bit) % 32 < 16 then .i else .q)
    ((lane * 32 + rail.offset + bit) / 32)).getLsbD ((lane * 32 + rail.offset + bit) % 16) = _
  cases rail with
  | i =>
    rw [show (lane * 32 + Rail.i.offset + bit) / 32 = lane by simp only [Rail.offset]; omega,
      show (lane * 32 + Rail.i.offset + bit) % 16 = bit by simp only [Rail.offset]; omega,
      if_pos (show (lane * 32 + Rail.i.offset + bit) % 32 < 16 by simp only [Rail.offset]; omega)]
  | q =>
    rw [show (lane * 32 + Rail.q.offset + bit) / 32 = lane by simp only [Rail.offset]; omega,
      show (lane * 32 + Rail.q.offset + bit) % 16 = bit by simp only [Rail.offset]; omega,
      if_neg (show ¬(lane * 32 + Rail.q.offset + bit) % 32 < 16 by simp only [Rail.offset]; omega)]

/-! ## Rounding -/

theorem toInt_rounded (value : BitVec 38) : (rounded value).toInt = roundHalfAway (value.toInt / 2 ^ 16) := by
  have bounds := two_mul_toInt_bounds value
  have extended : (value.signExtend 39).toInt = value.toInt := BitVec.toInt_signExtend_of_le (by decide)
  have half : (32768 : BitVec 39).toInt = 2 ^ 15 := by decide
  have negated : (-value.signExtend 39).toInt = -value.toInt := by
    rw [BitVec.toInt_neg, extended]
    exact Int.bmod_eq_of_le_mul_two (by push_cast; omega) (by push_cast; omega)
  rw [roundHalfAway_div, rounded, BitVec.slt_eq_decide, extended, show (0 : BitVec 39).toInt = 0 from rfl, ite_cond_congr (decide_eq_true_iff.eq)]
  split_ifs with negative
  · have sum : (-value.signExtend 39 + 32768).toInt = -value.toInt + 2 ^ 15 := by
      rw [BitVec.toInt_add, negated, half]
      exact Int.bmod_eq_of_le_mul_two (by push_cast; omega) (by push_cast; omega)
    rw [BitVec.toInt_neg, BitVec.toInt_sshiftRight, sum, Int.shiftRight_eq_div_pow]
    exact Int.bmod_eq_of_le_mul_two (by push_cast; omega) (by push_cast; omega)
  · have sum : (value.signExtend 39 + 32768).toInt = value.toInt + 2 ^ 15 := by
      rw [BitVec.toInt_add, extended, half]
      exact Int.bmod_eq_of_le_mul_two (by push_cast; omega) (by push_cast; omega)
    rw [BitVec.toInt_sshiftRight, sum, Int.shiftRight_eq_div_pow]
    rfl

theorem toInt_saturated (value : BitVec 38) :
    (saturated value).toInt = saturate 16 (roundHalfAway (value.toInt / 2 ^ 16)) := by
  have limit : (2 : Int) ^ (16 - 1) = 32768 := rfl
  rw [← toInt_rounded, saturated, saturate, limit, BitVec.slt_eq_decide, BitVec.slt_eq_decide,
    show (32767 : BitVec 39).toInt = 32767 by decide, show (-32768 : BitVec 39).toInt = -32768 by decide]
  by_cases above : 32767 < (rounded value).toInt
  · rw [if_pos (decide_eq_true above), show (0x7fff : BitVec 16).toInt = 32767 by decide]
    omega
  · rw [if_neg (by simpa using above)]
    by_cases below : (rounded value).toInt < -32768
    · rw [if_pos (decide_eq_true below), show (0x8000 : BitVec 16).toInt = -32768 by decide]
      omega
    · have narrow : ((rounded value).setWidth 16).toInt = (rounded value).toInt := by
        rw [← BitVec.signExtend_eq_setWidth_of_le _ (by decide), BitVec.toInt_signExtend_eq_toInt_bmod_of_le _ (by decide)]
        exact Int.bmod_eq_of_le_mul_two (by push_cast; omega) (by push_cast; omega)
      rw [if_neg (by simpa using below), narrow]
      omega

/-- The rounded value is out of the range of sixteen bits. -/
def OutOfRange (z : Int) : Prop := z < -2 ^ 15 ∨ 2 ^ 15 ≤ z

theorem clips_iff (value : BitVec 38) : clips value = true ↔ OutOfRange (roundHalfAway (value.toInt / 2 ^ 16)) := by
  rw [← toInt_rounded, clips, BitVec.slt_eq_decide, BitVec.slt_eq_decide, Bool.or_eq_true, decide_eq_true_iff,
    decide_eq_true_iff, show (32767 : BitVec 39).toInt = 32767 by decide, show (-32768 : BitVec 39).toInt = -32768 by decide,
    OutOfRange]
  omega

/-! ## One edge -/

section

variable {coefficients : BitVec 6 → BitVec 288} {s : DelayState} {i : DelayIn} {rail : Rail}

/-- The registers behind the samples take no notice of a flush. -/
theorem step_arithmetic : ((s.step coefficients i).rails rail).products =
      (fun g => ((s.rails rail).samples g).signExtend 34 * (s.coefficient coefficients (g % 16)).signExtend 34) ∧
    ((s.step coefficients i).rails rail).sum1 = addPairs (s.rails rail).products ∧
    ((s.step coefficients i).rails rail).sum2 = addPairs (s.rails rail).sum1 ∧
    ((s.step coefficients i).rails rail).sum3 = addPairs (s.rails rail).sum2 ∧
    ((s.step coefficients i).rails rail).sum4 = addPairs (s.rails rail).sum3 := by
  rw [DelayState.step]
  by_cases flushes : i.flushes = true
  · rw [if_pos flushes]
    exact ⟨rfl, rfl, rfl, rfl, rfl⟩
  · rw [if_neg flushes]
    exact ⟨rfl, rfl, rfl, rfl, rfl⟩

theorem step_streams (streams : i.flushes = false) : s.step coefficients i = { s with
    validPipe := s.validPipe.extractLsb' 0 6 ++ BitVec.ofBool (s.workValid i)
    tailCount := if i.sourceValid then 3 else s.tailCount - 1
    rails := fun rail => ((s.rails rail).arithmetic (s.coefficient coefficients)).takeIn s.delayHold.toNat (i.sample rail)
    outData := if s.validPipe.getLsbD 5 then ofLanes fun rail lane => saturated ((s.rails rail).sum4 lane) else 0
    clipPulse := s.validPipe.getLsbD 5 &&
      (List.range 8).any fun lane => clips ((s.rails .i).sum4 lane) || clips ((s.rails .q).sum4 lane) } := by
  rw [DelayState.step, streams, if_neg Bool.false_ne_true]

/-- The bits of `valid_pipe` move up by one. -/
theorem step_validPipe (streams : i.flushes = false) (b : Nat) : (s.step coefficients i).validPipe.getLsbD (b + 1) =
    (decide (b < 6) && s.validPipe.getLsbD b) := by
  rw [step_streams streams]
  change (s.validPipe.extractLsb' 0 6 ++ BitVec.ofBool (s.workValid i)).getLsbD (b + 1) = _
  rw [BitVec.getLsbD_append, if_neg (by omega), BitVec.getLsbD_extractLsb', Nat.zero_add, Nat.add_sub_cancel]

theorem step_workValid (streams : i.flushes = false) :
    (s.step coefficients i).validPipe.getLsbD 0 = s.workValid i := by
  rw [step_streams streams]
  change (s.validPipe.extractLsb' 0 6 ++ BitVec.ofBool (s.workValid i)).getLsbD 0 = _
  rw [BitVec.getLsbD_append, if_pos Nat.one_pos, BitVec.getLsbD_ofBool, decide_eq_true rfl, Bool.true_and]

/-- A filter that is not busy has nothing left to let out. -/
theorem idle_step (streams : i.flushes = false) (idle : s.busy i = false) : (s.step coefficients i).outData = 0 ∧
    (s.step coefficients i).validPipe = 0 ∧ (s.step coefficients i).tailCount = 0 := by
  obtain ⟨⟨invalid, tail⟩, pipe⟩ : (i.sourceValid = false ∧ s.tailCount = 0) ∧ s.validPipe = 0 := by
    simpa [DelayState.busy, streams] using idle
  rw [step_streams streams, pipe, tail, invalid]
  refine ⟨rfl, ?_, rfl⟩
  change BitVec.extractLsb' 0 6 (0 : BitVec 7) ++ BitVec.ofBool (s.workValid i) = 0
  rw [DelayState.workValid, invalid, tail]
  decide

end

/-! ## The history and the samples -/

/-- The words since the flush, the last ones of which are in the history. -/
structure Streaming (held : DelayState) (words : List DelayIn) (s : DelayState) : Prop where
  delay : s.delayHold = held.delayHold
  phase : s.phaseHold = held.phaseHold
  history : ∀ rail h, ((s.rails rail).history h).toInt = stream rail words (8 * words.length - 1 - h)
  tail : s.tailCount ≤ 3
  quiet : ∀ rail (m : Int), 8 * words.length - 8 * (3 - s.tailCount) ≤ m → m < 8 * words.length → stream rail words m = 0
  pipe : ∀ b < 7, words.length ≤ b → s.validPipe.getLsbD b = false
  early : words.length < 7 → s.outData = 0 ∧ s.clipPulse = false

section

variable {coefficients : BitVec 6 → BitVec 288} {held s : DelayState} {words : List DelayIn} {word : DelayIn}

/-- A flush begins a stream, from whatever there was before. -/
theorem streaming_start {start : DelayIn} (flushes : start.flushes = true) (s : DelayState) :
    Streaming (s.step coefficients start) [] (s.step coefficients start) := by
  have dropped : (s.step coefficients start).tailCount = 0 ∧ (s.step coefficients start).validPipe = 0 ∧
      (s.step coefficients start).outData = 0 ∧ (s.step coefficients start).clipPulse = false ∧
        ∀ rail, ((s.step coefficients start).rails rail).history = fun _ => 0 := by
    rw [DelayState.step, if_pos flushes]
    exact ⟨rfl, rfl, rfl, rfl, fun _ => rfl⟩
  obtain ⟨tail, pipe, out, clip, history⟩ := dropped
  refine ⟨rfl, rfl, fun rail h => ?_, ?_, fun rail m from_tail before => ?_, fun b _ _ => ?_, fun _ => ⟨out, clip⟩⟩
  · rw [history, stream_neg (by simp only [List.length_nil]; omega)]
    rfl
  · rw [tail]
    exact Nat.zero_le 3
  · exact stream_neg (by simpa using before)
  · rw [pipe]
    exact BitVec.getLsbD_zero

/-- The history has moved on by the lanes of the word. -/
theorem takeIn_history {r : RailState} {rail : Rail} (delay : Nat)
    (history : ∀ h, (r.history h).toInt = stream rail words (8 * words.length - 1 - h)) (h : Nat) :
    ((r.takeIn delay (word.sample rail)).history h).toInt =
      stream rail (words ++ [word]) (8 * (words ++ [word]).length - 1 - h) := by
  rw [List.length_append, List.length_singleton]
  change (if h < 8 then word.sample rail (7 - h) else r.history (h - 8)).toInt = _
  by_cases fresh : h < 8
  · have position : (8 * (words.length + 1 : Nat) - 1 - h : Int) = 8 * words.length + (7 - h : Nat) := by omega
    rw [if_pos fresh, position, stream_last (by omega)]
  · have position : (8 * (words.length + 1 : Nat) - 1 - h : Int) = 8 * words.length - 1 - (h - 8 : Nat) := by omega
    rw [if_neg fresh, position, stream_append _ (by omega), history]

/-- Every lane has its sixteen samples, from the word or from the history. -/
theorem takeIn_samples {r : RailState} {rail : Rail} (delay : Nat)
    (history : ∀ h, (r.history h).toInt = stream rail words (8 * words.length - 1 - h)) {lane t : Nat} (small : lane < 8)
    (tap : t < 16) : ((r.takeIn delay (word.sample rail)).samples (16 * lane + t)).toInt =
      stream rail (words ++ [word]) (8 * words.length + lane - delay - t) := by
  have index : (16 * lane + t) / 16 = lane := by omega
  have rest : (16 * lane + t) % 16 = t := by omega
  change (if (0 : Int) ≤ ((16 * lane + t) / 16 : Nat) - delay - ((16 * lane + t) % 16 : Nat) then _ else _ : BitVec 16).toInt = _
  rw [index, rest]
  by_cases current : (0 : Int) ≤ lane - delay - t
  · have position : (8 * words.length + lane - delay - t : Int) = 8 * words.length + (lane - delay - t : Int).toNat := by omega
    rw [if_pos current, position, stream_last (by omega)]
  · have position : (8 * words.length + lane - delay - t : Int) =
        8 * words.length - 1 - (-(lane - delay - t : Int) - 1).toNat := by omega
    rw [if_neg current, position, stream_append _ (by omega), history]

theorem streaming_step (streaming : Streaming held words s) (streams : word.flushes = false) :
    Streaming held (words ++ [word]) (s.step coefficients word) := by
  obtain ⟨delay, phase, history, tail, quiet, pipe, early⟩ := streaming
  have length : (words ++ [word]).length = words.length + 1 := by rw [List.length_append, List.length_singleton]
  constructor
  case delay =>
    rw [step_streams streams]
    exact delay
  case phase =>
    rw [step_streams streams]
    exact phase
  case history =>
    intro rail h
    rw [step_streams streams]
    exact takeIn_history (r := (s.rails rail).arithmetic _) s.delayHold.toNat (history rail) h
  case tail =>
    rw [step_streams streams]
    dsimp only
    split_ifs <;> omega
  case quiet =>
    intro rail m from_tail before
    rw [step_streams streams] at from_tail
    dsimp only at from_tail
    rw [length] at from_tail before
    by_cases valid : word.sourceValid = true
    · rw [if_pos valid] at from_tail
      omega
    · rw [if_neg valid] at from_tail
      by_cases within : m < 8 * words.length
      · rw [stream_append _ within]
        exact quiet rail m (by omega) within
      · obtain ⟨lane, small, rfl⟩ : ∃ lane : Nat, lane < 8 ∧ m = 8 * words.length + lane :=
          ⟨(m - 8 * words.length).toNat, by omega, by omega⟩
        rw [stream_last small, DelayIn.sample, if_neg valid]
        rfl
  case pipe =>
    intro b within behind
    rw [length] at behind
    obtain ⟨b, rfl⟩ : ∃ c, b = c + 1 := ⟨b - 1, by omega⟩
    rw [step_validPipe streams, pipe b (by omega) (by omega), Bool.and_false]
  case early =>
    intro short
    rw [length] at short
    rw [step_streams streams]
    dsimp only
    rw [pipe 5 (by omega) (by omega)]
    exact ⟨rfl, rfl⟩

theorem streaming_run (streaming : Streaming held words s) (more : List DelayIn)
    (streams : ∀ word ∈ more, word.flushes = false) :
    Streaming held (words ++ more) ((fractionalDelay coefficients).run s more) := by
  induction more generalizing words s with
  | nil =>
    rw [List.append_nil]
    exact streaming
  | cons word more ih =>
    have first := @streaming_step coefficients _ _ _ _ streaming (streams word List.mem_cons_self)
    rw [← List.singleton_append, ← List.append_assoc]
    exact ih first fun later among => streams later (List.mem_cons_of_mem _ among)

end

/-! ## From the samples to the output -/

section

variable {coefficients : BitVec 6 → BitVec 288}

/-- The products of the samples and the coefficients. -/
def DelayState.tapProducts (coefficients : BitVec 6 → BitVec 288) (s : DelayState) (rail : Rail) (g : Nat) : BitVec 34 :=
  ((s.rails rail).samples g).signExtend 34 * (s.coefficient coefficients (g % 16)).signExtend 34

/-- Six edges add the products up and let the sums out, whatever comes in meanwhile. -/
theorem delivers (s : DelayState) (after : List DelayIn) (length : after.length = 6)
    (streams : ∀ word ∈ after, word.flushes = false) :
    ((fractionalDelay coefficients).run s after).outData = (if s.validPipe.getLsbD 0 then
        ofLanes fun rail lane => saturated (addTree (s.tapProducts coefficients rail) 4 lane) else 0) ∧
      ((fractionalDelay coefficients).run s after).clipPulse = (s.validPipe.getLsbD 0 && (List.range 8).any fun lane =>
        clips (addTree (s.tapProducts coefficients .i) 4 lane) || clips (addTree (s.tapProducts coefficients .q) 4 lane)) := by
  obtain ⟨one, two, three, four, five, six, rfl⟩ : ∃ a b c d e f, after = [a, b, c, d, e, f] := by
    match after, length with
    | [a, b, c, d, e, f], _ => exact ⟨a, b, c, d, e, f, rfl⟩
  simp only [List.forall_mem_cons] at streams
  obtain ⟨streams1, streams2, streams3, streams4, streams5, streams6, -⟩ := streams
  obtain ⟨s1, at1⟩ : ∃ t, s.step coefficients one = t := ⟨_, rfl⟩
  obtain ⟨s2, at2⟩ : ∃ t, s1.step coefficients two = t := ⟨_, rfl⟩
  obtain ⟨s3, at3⟩ : ∃ t, s2.step coefficients three = t := ⟨_, rfl⟩
  obtain ⟨s4, at4⟩ : ∃ t, s3.step coefficients four = t := ⟨_, rfl⟩
  obtain ⟨s5, at5⟩ : ∃ t, s4.step coefficients five = t := ⟨_, rfl⟩
  have ends : (fractionalDelay coefficients).run s [one, two, three, four, five, six] = s5.step coefficients six := by
    rw [← at5, ← at4, ← at3, ← at2, ← at1]
    rfl
  -- one stage of the pipeline for each edge, from the last one back
  have valid : s5.validPipe.getLsbD 5 = s.validPipe.getLsbD 0 := by
    rw [← at5, step_validPipe streams5, ← at4, step_validPipe streams4, ← at3, step_validPipe streams3, ← at2,
      step_validPipe streams2, ← at1, step_validPipe streams1]
    rfl
  have sums (rail : Rail) : (s5.rails rail).sum4 = addTree (s.tapProducts coefficients rail) 4 := by
    rw [← at5, step_arithmetic.2.2.2.2, ← at4, step_arithmetic.2.2.2.1, ← at3, step_arithmetic.2.2.1, ← at2,
      step_arithmetic.2.1, ← at1, step_arithmetic.1]
    rfl
  rw [ends, step_streams streams6]
  simp only [valid, sums]
  exact ⟨trivial, trivial⟩

/-- What comes out of the lane of a word: the convolution of the stream with the coefficients that
    are held, rounded. -/
def reference (coefficients : BitVec 6 → BitVec 288) (held : DelayState) (words : List DelayIn) (rail : Rail)
    (n lane : Nat) : Int :=
  roundHalfAway (convolution (fun t => (held.coefficient coefficients t).toInt) held.delayHold.toNat
    (stream rail words) (8 * n + lane) / 2 ^ 16)

variable {held s : DelayState} {before after : List DelayIn} {word : DelayIn}

/-- The adder tree has the convolution at the lanes of the word that has come in last. -/
theorem toInt_tapProducts (streaming : Streaming held before s) (streams : word.flushes = false) (rail : Rail)
    {lane : Nat} (small : lane < 8) (after : List DelayIn) :
    (addTree ((s.step coefficients word).tapProducts coefficients rail) 4 lane).toInt =
      convolution (fun t => (held.coefficient coefficients t).toInt) held.delayHold.toNat
        (stream rail (before ++ word :: after)) (8 * before.length + lane) := by
  rw [toInt_addTree, convolution]
  refine Finset.sum_congr rfl fun t within => ?_
  have tap : t < 16 := Finset.mem_range.mp within
  have index : (2 ^ 4 * lane + t) % 16 = t := by omega
  have coefficient : (s.step coefficients word).coefficient coefficients t = held.coefficient coefficients t := by
    rw [DelayState.coefficient, DelayState.coefficient, step_streams streams]
    exact congrArg (fun phase => (coefficients phase).extractLsb' (t * 18) 18) streaming.phase
  have sample : (((s.step coefficients word).rails rail).samples (2 ^ 4 * lane + t)).toInt =
      stream rail (before ++ word :: after) (8 * before.length + lane - held.delayHold.toNat - t) := by
    rw [List.append_cons, stream_append, ← streaming.delay, step_streams streams]
    · exact takeIn_samples (r := (s.rails rail).arithmetic _) s.delayHold.toNat (streaming.history rail) small tap
    · rw [List.length_append, List.length_singleton]
      push_cast
      omega
  rw [DelayState.tapProducts, index, coefficient]
  refine (toInt_mul_signExtend (m := 16) (n := 18) _ _).trans ?_
  rw [sample, mul_comm]

/-- Where no word is at work the convolution is zero. -/
theorem convolution_idle (streaming : Streaming held before s) (idle : s.workValid word = false) (c : Nat → Int) (rail : Rail)
    {lane : Nat} (small : lane < 8) (after : List DelayIn) :
    convolution c held.delayHold.toNat (stream rail (before ++ word :: after)) (8 * before.length + lane) = 0 := by
  obtain ⟨invalid, tail⟩ : word.sourceValid = false ∧ s.tailCount = 0 := by
    simpa [DelayState.workValid] using idle
  have delay := held.delayHold.isLt
  refine Finset.sum_eq_zero fun t within => ?_
  have tap : t < 16 := Finset.mem_range.mp within
  rw [List.append_cons, stream_append _ (by rw [List.length_append, List.length_singleton]; push_cast; omega)]
  refine mul_eq_zero_of_right _ ?_
  by_cases current : (8 * before.length + lane - held.delayHold.toNat - t : Int) < 8 * before.length
  · rw [stream_append _ current]
    refine streaming.quiet rail _ ?_ current
    rw [tail]
    omega
  · obtain ⟨other, small', position⟩ : ∃ other : Nat, other < 8 ∧
        (8 * before.length + lane - held.delayHold.toNat - t : Int) = 8 * before.length + other :=
      ⟨(lane - held.delayHold.toNat - t : Int).toNat, by omega, by omega⟩
    rw [position, stream_last small', DelayIn.sample, invalid, if_neg Bool.false_ne_true]
    rfl

theorem roundHalfAway_zero : roundHalfAway ((0 : Int) / 2 ^ 16) = 0 := by
  rw [roundHalfAway_div 0 15]
  decide

/-- Seven edges after a word the output is what the reference says of it. -/
theorem streaming_delivers (streaming : Streaming held before s) (streams : word.flushes = false)
    (length : after.length = 6) (streams' : ∀ later ∈ after, later.flushes = false) :
    (∀ rail, ∀ lane < 8, (laneOf rail ((fractionalDelay coefficients).run s (word :: after)).outData lane).toInt =
        saturate 16 (reference coefficients held (before ++ word :: after) rail before.length lane)) ∧
      (((fractionalDelay coefficients).run s (word :: after)).clipPulse = true ↔ ∃ rail, ∃ lane < 8,
        OutOfRange (reference coefficients held (before ++ word :: after) rail before.length lane)) := by
  obtain ⟨out, clip⟩ := @delivers coefficients (s.step coefficients word) after length streams'
  rw [run_cons]
  change (∀ rail, ∀ lane < 8, (laneOf rail ((fractionalDelay coefficients).run (s.step coefficients word) after).outData
    lane).toInt = _) ∧ (((fractionalDelay coefficients).run (s.step coefficients word) after).clipPulse = true ↔ _)
  rw [out, clip, step_workValid streams]
  cases work : s.workValid word with
  | true =>
    rw [if_pos rfl, Bool.true_and]
    constructor
    · intro rail lane small
      rw [laneOf_ofLanes _ _ small, toInt_saturated, toInt_tapProducts streaming streams rail small after]
      rfl
    · simp only [List.any_eq_true, List.mem_range, Bool.or_eq_true, clips_iff]
      constructor
      · rintro ⟨lane, small, out | out⟩
        · rw [toInt_tapProducts streaming streams .i small after] at out
          exact ⟨.i, lane, small, out⟩
        · rw [toInt_tapProducts streaming streams .q small after] at out
          exact ⟨.q, lane, small, out⟩
      · rintro ⟨rail, lane, small, out⟩
        refine ⟨lane, small, ?_⟩
        cases rail with
        | i =>
          left
          rw [toInt_tapProducts streaming streams .i small after]
          exact out
        | q =>
          right
          rw [toInt_tapProducts streaming streams .q small after]
          exact out
  | false =>
    have silent (rail : Rail) {lane : Nat} (small : lane < 8) :
        reference coefficients held (before ++ word :: after) rail before.length lane = 0 := by
      rw [reference, convolution_idle streaming work _ rail small after, roundHalfAway_zero]
    rw [if_neg Bool.false_ne_true, Bool.false_and]
    constructor
    · intro rail lane small
      rw [silent rail small]
      have zero : laneOf rail 0 lane = 0 := BitVec.extractLsb'_zero
      rw [zero]
      decide
    · refine ⟨fun high => absurd high Bool.false_ne_true, ?_⟩
      rintro ⟨rail, lane, small, out⟩
      rw [silent rail small, OutOfRange] at out
      omega

end

/-- No register of the arithmetic is too narrow. -/
structure Exact (coefficients : BitVec 6 → BitVec 288) (s : DelayState) (i : DelayIn) (rail : Rail) (g : Nat) : Prop where
  products : (((s.step coefficients i).rails rail).products g).toInt =
    ((s.rails rail).samples g).toInt * (s.coefficient coefficients (g % 16)).toInt
  sum1 : (((s.step coefficients i).rails rail).sum1 g).toInt =
    ((s.rails rail).products (2 * g)).toInt + ((s.rails rail).products (2 * g + 1)).toInt
  sum2 : (((s.step coefficients i).rails rail).sum2 g).toInt =
    ((s.rails rail).sum1 (2 * g)).toInt + ((s.rails rail).sum1 (2 * g + 1)).toInt
  sum3 : (((s.step coefficients i).rails rail).sum3 g).toInt =
    ((s.rails rail).sum2 (2 * g)).toInt + ((s.rails rail).sum2 (2 * g + 1)).toInt
  sum4 : (((s.step coefficients i).rails rail).sum4 g).toInt =
    ((s.rails rail).sum3 (2 * g)).toInt + ((s.rails rail).sum3 (2 * g + 1)).toInt
  rounded : (rounded ((s.rails rail).sum4 g)).toInt = roundHalfAway (((s.rails rail).sum4 g).toInt / 2 ^ 16)

theorem exact_step (coefficients : BitVec 6 → BitVec 288) (s : DelayState) (i : DelayIn) (rail : Rail) (g : Nat) :
    Exact coefficients s i rail g where
  products := by
    rw [step_arithmetic.1]
    exact toInt_mul_signExtend (m := 16) (n := 18) _ _
  sum1 := by rw [step_arithmetic.2.1, toInt_addPairs]
  sum2 := by rw [step_arithmetic.2.2.1, toInt_addPairs]
  sum3 := by rw [step_arithmetic.2.2.2.1, toInt_addPairs]
  sum4 := by rw [step_arithmetic.2.2.2.2, toInt_addPairs]
  rounded := toInt_rounded _

/-- From a flush on, and whatever there was before it, the output is zero for seven edges and then
    the convolution of the words that have come in since, rounded and saturated; the clip pulse
    marks the values that are out of range, and no register overflows. -/
theorem fractional_delay_convolves (coefficients : BitVec 6 → BitVec 288) (s : DelayState) (start : DelayIn)
    (flushes : start.flushes = true) (words : List DelayIn) (streams : ∀ word ∈ words, word.flushes = false) :
    (start.rstN = true → start.configValid = true → (s.step coefficients start).delayHold = start.delaySamples ∧
      (s.step coefficients start).phaseHold = start.fractionalPhase) ∧
    (words.length < 7 → ((fractionalDelay coefficients).run (s.step coefficients start) words).outData = 0 ∧
      ((fractionalDelay coefficients).run (s.step coefficients start) words).clipPulse = false) ∧
    (∀ n, words.length = n + 7 →
      (∀ rail, ∀ lane < 8,
        (laneOf rail ((fractionalDelay coefficients).run (s.step coefficients start) words).outData lane).toInt =
          saturate 16 (reference coefficients (s.step coefficients start) words rail n lane)) ∧
      (((fractionalDelay coefficients).run (s.step coefficients start) words).clipPulse = true ↔ ∃ rail, ∃ lane < 8,
        OutOfRange (reference coefficients (s.step coefficients start) words rail n lane))) ∧
    ∀ t i rail g, Exact coefficients t i rail g := by
  have started := @streaming_start coefficients start flushes s
  refine ⟨fun alive configured => ?_, fun short => ?_, fun n length => ?_, exact_step coefficients⟩
  · rw [DelayState.step, if_pos flushes, alive, configured]
    exact ⟨rfl, rfl⟩
  · exact (streaming_run started words streams).early short
  · obtain ⟨before, word, after, rfl, at_n, six⟩ : ∃ before word after, words = before ++ word :: after ∧
        before.length = n ∧ after.length = 6 := by
      refine ⟨words.take n, words[n], words.drop (n + 1), ?_, ?_, ?_⟩
      · rw [← List.drop_eq_getElem_cons, List.take_append_drop]
      · rw [List.length_take]
        omega
      · rw [List.length_drop]
        omega
    rw [← at_n, run_append]
    simp only [List.forall_mem_append, List.forall_mem_cons] at streams
    obtain ⟨streams_before, streams_word, streams_after⟩ := streams
    exact streaming_delivers (streaming_run started before streams_before) streams_word six streams_after

/-- A configuration with a delay of two samples and no fraction. -/
def wholeDelay : DelayIn where
  rstN := true
  clear := false
  configValid := true
  delaySamples := 2
  fractionalPhase := 0
  sourceData := 0
  sourceValid := false

/-- One word, with 1000 in the first lane of I. -/
def oneSample : DelayIn := { wholeDelay with configValid := false, sourceData := 1000, sourceValid := true }

def noSample : DelayIn := { wholeDelay with configValid := false }

/-- The sample comes out nine lanes later: two of the delay, and seven up to the middle coefficient. -/
theorem sample_delayed : (laneOf .i ((fractionalDelay fractionalDelayCoeffs).run
    (DelayState.unknown.step fractionalDelayCoeffs wholeDelay) (oneSample :: List.replicate 7 noSample)).outData 1).toInt = 1000 := by
  have delayed := fractional_delay_convolves fractionalDelayCoeffs .unknown wholeDelay rfl
    (oneSample :: List.replicate 7 noSample) (by decide)
  refine ((delayed.2.2.1 1 rfl).1 .i 1 (by decide)).trans ?_
  decide +kernel

end Xczu47dr.Delay
