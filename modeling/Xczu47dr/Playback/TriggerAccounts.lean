import Xczu47dr.Playback.GateSafety
import Xczu47dr.Playback.TriggerCdc

/-! # The accounts of the external trigger

An episode that is admitted when it is captured is seen, and either fires or is
dropped.  One that is not admitted does not reach the counters that are reported:
only those inside `u_trigger`, which are not connected, have it.
-/

namespace Xczu47dr.Playback

open Clocked Machine

/-- What has become of an episode. -/
inductive Episode
  | fired
  | dropped
  | unreported
  deriving DecidableEq

theorem count_concat (episodes : List Episode) (one e : Episode) :
    (episodes ++ [one]).count e = if one = e then episodes.count e + 1 else episodes.count e := by
  rw [List.count_append, List.count_singleton]
  by_cases same : one = e
  · rw [if_pos same, if_pos (beq_iff_eq.mpr same)]
  · rw [if_neg same, if_neg fun equal => same (beq_iff_eq.mp equal), Nat.add_zero]

theorem PlaybackController.counts_eq {s : PlaybackController} {seen fired dropped : BitVec 32}
    (counts : s.counts = (seen, fired, dropped)) :
    s.triggerSeenCount = seen ∧ s.triggerFireCount = fired ∧ s.triggerDroppedCount = dropped :=
  ⟨congrArg Prod.fst counts, congrArg (·.2.1) counts, congrArg (·.2.2) counts⟩

namespace TriggeredPath

variable (settleCycles : BitVec 8) (s : TriggeredPath) (i : PadIn × DacPathIn)

/-- The session goes from `WAIT_TRIGGER` to `PLAYING` at this edge. -/
def launches : Bool :=
  decide (s.path.controller.state = .waitTrigger) && decide ((s.step settleCycles i).path.controller.state = .playing)

/-- An episode that is captured now is admitted. -/
def admits : Bool := s.trigger.admitted s.waitTrigger

def episodes : List Episode :=
  if s.trigger.captured then
    if s.admits then if s.launches settleCycles i then [.fired] else [.dropped] else [.unreported]
  else []

/-- The counters that are reported take account of the episode of an edge: it is seen, and it has
    fired, or else been dropped.  Where there is no episode they stay as they are. -/
def Accounted : Prop :=
  (s.step settleCycles i).path.controller.counts =
    if s.trigger.captured then
      if s.launches settleCycles i then
        (s.path.controller.triggerSeenCount + 1, s.path.controller.triggerFireCount + 1,
          s.path.controller.triggerDroppedCount)
      else
        (s.path.controller.triggerSeenCount + 1, s.path.controller.triggerFireCount,
          s.path.controller.triggerDroppedCount + 1)
    else s.path.controller.counts

/-- The counters have these episodes: those that are reported those that are, and `u_trigger` all. -/
structure Counted (episodes : List Episode) : Prop where
  seen : s.path.controller.triggerSeenCount = BitVec.ofNat 32 (episodes.count .fired + episodes.count .dropped)
  fired : s.path.controller.triggerFireCount = BitVec.ofNat 32 (episodes.count .fired)
  dropped : s.path.controller.triggerDroppedCount = BitVec.ofNat 32 (episodes.count .dropped)
  captured : s.trigger.triggerSeenCount = BitVec.ofNat 32 episodes.length
  unreported : s.trigger.triggerDroppedCount = BitVec.ofNat 32 (episodes.count .unreported)

variable {settleCycles s i}

/-- The counters of the controller at an edge: an episode that is not admitted leaves them alone. -/
theorem counts_step : (s.step settleCycles i).path.controller.counts =
    if s.trigger.captured && s.admits then
      if s.launches settleCycles i then
        (s.path.controller.triggerSeenCount + 1, s.path.controller.triggerFireCount + 1,
          s.path.controller.triggerDroppedCount)
      else
        (s.path.controller.triggerSeenCount + 1, s.path.controller.triggerFireCount,
          s.path.controller.triggerDroppedCount + 1)
    else s.path.controller.counts := by
  have counted := PlaybackController.step_counts (s := s.path.controller) (i := s.path.controllerIn settleCycles (s.pathIn i))
  have fires := PlaybackController.triggerAdmission_eq (s := s.path.controller)
    (i := s.path.controllerIn settleCycles (s.pathIn i))
  have event : (s.path.controllerIn settleCycles (s.pathIn i)).triggerEvent = (s.trigger.captured && s.admits) := rfl
  refine counted.trans ?_
  rw [PlaybackController.countTrigger, event]
  cases reaches : s.trigger.captured && s.admits with
  | false =>
    rw [if_neg Bool.false_ne_true, if_neg Bool.false_ne_true]
  | true =>
    rw [event, reaches, Bool.true_and] at fires
    have launched : s.path.controller.triggerAdmission (s.path.controllerIn settleCycles (s.pathIn i)) =
        s.launches settleCycles i := fires
    rw [if_pos rfl, if_pos rfl, launched]
    split_ifs <;> rfl

/-- An episode is accounted for exactly if it is admitted when it is captured. -/
theorem accounted_iff : s.Accounted settleCycles i ↔ (s.trigger.captured = true → s.admits = true) := by
  rw [Accounted, counts_step]
  cases s.trigger.captured with
  | false => exact ⟨fun _ captured => absurd captured Bool.false_ne_true, fun _ => rfl⟩
  | true =>
    cases s.admits with
    | true => exact ⟨fun _ _ => rfl, fun _ => rfl⟩
    | false =>
      refine ⟨fun counted => ?_, fun admitted => absurd (admitted rfl) Bool.false_ne_true⟩
      -- the counter of the episodes seen would have to be its own successor
      have seen := congrArg Prod.fst counted
      rw [Bool.and_false, if_neg Bool.false_ne_true, if_pos rfl, apply_ite Prod.fst, ite_self] at seen
      change s.path.controller.triggerSeenCount = s.path.controller.triggerSeenCount + 1 at seen
      bv_omega

/-- One more episode, of one of the three kinds, or none. -/
theorem counted_step {happened : List Episode} (counted : s.Counted happened) :
    (s.step settleCycles i).Counted (happened ++ s.episodes settleCycles i) := by
  obtain ⟨seen, fired, dropped, captured, unreported⟩ := counted
  have counts := @counts_step settleCycles s i
  have own : (s.step settleCycles i).trigger.triggerSeenCount =
      (if s.trigger.captured then s.trigger.triggerSeenCount + 1 else s.trigger.triggerSeenCount) := rfl
  have lost : (s.step settleCycles i).trigger.triggerDroppedCount =
      (if s.trigger.captured && !s.admits then s.trigger.triggerDroppedCount + 1 else s.trigger.triggerDroppedCount) := rfl
  have one_more (n : Nat) : BitVec.ofNat 32 n + 1 = BitVec.ofNat 32 (n + 1) := (BitVec.ofNat_add n 1).symm
  rw [episodes]
  cases now : s.trigger.captured with
  | false =>
    rw [now, Bool.false_and, if_neg Bool.false_ne_true] at counts lost
    rw [now, if_neg Bool.false_ne_true] at own
    obtain ⟨seen', fired', dropped'⟩ := PlaybackController.counts_eq counts
    rw [if_neg Bool.false_ne_true, List.append_nil]
    exact ⟨seen'.trans seen, fired'.trans fired, dropped'.trans dropped, own.trans captured, lost.trans unreported⟩
  | true =>
    rw [now, if_pos rfl, captured, one_more] at own
    rw [now, Bool.true_and] at counts lost
    rw [if_pos rfl]
    cases admitted : s.admits with
    | false =>
      rw [admitted, if_neg Bool.false_ne_true] at counts
      rw [admitted, Bool.not_false, if_pos rfl, unreported, one_more] at lost
      obtain ⟨seen', fired', dropped'⟩ := PlaybackController.counts_eq counts
      rw [if_neg Bool.false_ne_true]
      exact ⟨by rw [seen', seen, count_concat, if_neg nofun, count_concat, if_neg nofun],
        by rw [fired', fired, count_concat, if_neg nofun], by rw [dropped', dropped, count_concat, if_neg nofun],
        by rw [own, List.length_append, List.length_singleton], by rw [lost, count_concat, if_pos rfl]⟩
    | true =>
      rw [admitted, if_pos rfl] at counts
      rw [admitted, Bool.not_true, if_neg Bool.false_ne_true] at lost
      rw [if_pos rfl]
      cases launched : s.launches settleCycles i with
      | true =>
        rw [launched, if_pos rfl] at counts
        obtain ⟨seen', fired', dropped'⟩ := PlaybackController.counts_eq counts
        rw [if_pos rfl]
        exact ⟨by rw [seen', seen, one_more, count_concat, if_pos rfl, count_concat, if_neg nofun, Nat.add_right_comm],
          by rw [fired', fired, one_more, count_concat, if_pos rfl], by rw [dropped', dropped, count_concat, if_neg nofun],
          by rw [own, List.length_append, List.length_singleton],
          by rw [lost, unreported, count_concat, if_neg nofun]⟩
      | false =>
        rw [launched, if_neg Bool.false_ne_true] at counts
        obtain ⟨seen', fired', dropped'⟩ := PlaybackController.counts_eq counts
        rw [if_neg Bool.false_ne_true]
        exact ⟨by rw [seen', seen, one_more, count_concat, if_neg nofun, count_concat, if_pos rfl, Nat.add_assoc],
          by rw [fired', fired, count_concat, if_neg nofun], by rw [dropped', dropped, one_more, count_concat, if_pos rfl],
          by rw [own, List.length_append, List.length_singleton],
          by rw [lost, unreported, count_concat, if_neg nofun]⟩

instance : Decidable (s.Accounted settleCycles i) := inferInstanceAs (Decidable (_ = _))

end TriggeredPath

/-- In every run the counters that are reported have the episodes that were admitted when they were
    captured, each seen once and either fired or dropped, and those of `u_trigger` have them all.
    The accounts are right throughout a run exactly if every episode of it is admitted. -/
theorem external_triggers_accounted (settleCycles : BitVec 8) (inputs : List (PadIn × DacPathIn)) :
    ((triggeredPath settleCycles).run (triggeredPath settleCycles).reset inputs).Counted
        ((triggeredPath settleCycles).log (TriggeredPath.episodes settleCycles) (triggeredPath settleCycles).reset inputs) ∧
      ((triggeredPath settleCycles).Along (fun s i => s.Accounted settleCycles i) (triggeredPath settleCycles).reset inputs ↔
        (triggeredPath settleCycles).Along (fun s _ => s.trigger.captured = true → s.admits = true)
          (triggeredPath settleCycles).reset inputs) := by
  constructor
  · induction inputs using List.reverseRecOn with
    | nil => exact ⟨rfl, rfl, rfl, rfl, rfl⟩
    | append_singleton before i ih =>
      rw [run_append, log_append, log_cons, log_nil, List.append_nil]
      exact TriggeredPath.counted_step ih
  · exact along_congr _ (P := fun _ => True) (fun _ _ _ => TriggeredPath.accounted_iff) (fun _ _ _ => trivial) trivial inputs

/-- Nothing but TRIG_2 happens, which is high from shortly before the edge until after it. -/
def strayTrigger : List (PadIn × DacPathIn) :=
  let rest : DacPathIn := ⟨false, false, false, false, false, false, false, ⟨fun _ => false, 0, 0⟩, false, false, false,
    fun _ => false, fun _ => 0, fun _ => true⟩
  List.replicate 5 (⟨false, false, false, false⟩, rest) ++ [(⟨true, true, true, true⟩, rest)] ++
    List.replicate 3 (⟨false, false, false, false⟩, rest)

/-- An episode of an idle session is captured, and the counters that are reported stay at zero. -/
theorem stray_trigger_unreported : ¬∀ inputs,
    (triggeredPath 16).Along (fun s i => s.Accounted 16 i) (triggeredPath 16).reset inputs := by
  intro accounted
  exact absurd (accounted strayTrigger) (by decide)

end Xczu47dr.Playback
