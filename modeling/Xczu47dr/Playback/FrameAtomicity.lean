import Xczu47dr.Playback.FramePath

/-! # Frame writes across lanes

What each lane FIFO accepts against the frames the reader retires.  A frame
retires when all enabled lanes are ready together, while the valid of a lane
does not depend on the other lanes: a lane that is ready while another stalls
takes the presented frame again in every such cycle.
-/

namespace Xczu47dr.Playback

open Clocked Machine

variable {Word : Type}

namespace FramePath

/-- While a frame is presented, the enabled lanes are ready all together or none
    of them is. -/
def UniformReady (mask : Channel → Bool) (s : FramePath Word) (i : FramePathIn Word) : Prop :=
  s.reader.frameValid = true →
    (∀ ch, mask ch = true → i.fifoReady ch = true) ∨ ∀ ch, mask ch = true → i.fifoReady ch = false

/-! ## One clock edge -/

section Step

variable {mask : Channel → Bool} {s : FramePath Word} (caughtUp : s.reader.frameValid = true → s.creditMask = mask)
  (i : FramePathIn Word)

include caughtUp

theorem laneAccepted_off {ch : Channel} (off : mask ch = false) : s.laneAccepted i ch = [] := by
  cases presented : s.reader.frameValid with
  | false => simp [laneAccepted, AdapterIn.fifoValidLane, adapterIn, presented]
  | true => exact laneAccepted_disabled s i (by rw [caughtUp presented, off])

theorem laneAccepted_on {ch : Channel} (on : mask ch = true) :
    s.laneAccepted i ch =
      if s.reader.frameValid && i.fifoReady ch then [s.reader.assembling ch] else [] := by
  cases presented : s.reader.frameValid with
  | false => simp [laneAccepted, AdapterIn.fifoValidLane, adapterIn, presented]
  | true => rw [laneAccepted_enabled s i (by rw [caughtUp presented, on]), presented]

theorem retired_eq :
    s.retired i =
      if s.reader.frameValid = true ∧ ∀ ch, mask ch = true → i.fifoReady ch = true then
        [s.reader.assembling] else [] := by
  unfold retired
  refine if_congr ?_ rfl rfl
  rw [frameFire_iff]
  exact and_congr_right fun presented => by rw [caughtUp presented]

/-- A retired frame is accepted by every enabled lane. -/
theorem retired_length_le {ch : Channel} (on : mask ch = true) :
    (s.retired i).length ≤ (s.laneAccepted i ch).length := by
  rw [retired_eq caughtUp i, laneAccepted_on caughtUp i on]
  split
  · rename_i fires
    simp [fires.1, fires.2 ch on]
  · exact Nat.zero_le _

/-- Uniform readies are what makes a lane take exactly its slice of the frame. -/
theorem laneAccepted_of_uniform (uniform : UniformReady mask s i) {ch : Channel}
    (on : mask ch = true) : s.laneAccepted i ch = (s.retired i).map (fun frame => frame ch) := by
  rw [retired_eq caughtUp i, laneAccepted_on caughtUp i on]
  cases presented : s.reader.frameValid with
  | false => simp
  | true =>
    rcases uniform presented with ready | stalled
    · simp [ready ch on, if_pos ready]
    · have blocked : ¬ ∀ ch, mask ch = true → i.fifoReady ch = true := fun all => by
        simpa [stalled ch on] using all ch on
      simp [stalled ch on, blocked]

theorem uniform_of_lengths
    (lengths : ∀ ch, mask ch = true → (s.laneAccepted i ch).length = (s.retired i).length) :
    UniformReady mask s i := by
  intro presented
  by_cases ready : ∀ ch, mask ch = true → i.fifoReady ch = true
  · exact Or.inl ready
  · refine Or.inr fun ch on => ?_
    have counts := lengths ch on
    have stuck : s.retired i = [] := by
      rw [retired_eq caughtUp i, if_neg fun fires => ready fires.2]
    rw [stuck, laneAccepted_on caughtUp i on, presented, Bool.true_and] at counts
    cases readyHere : i.fifoReady ch with
    | false => rfl
    | true => simp [readyHere] at counts

end Step

/-! ## Whole runs -/

variable [Inhabited Word] (p : ReaderParams) (mask : Channel → Bool)

/-- The frames retired along a run from reset. -/
def retiredFrames (inputs : List (FramePathIn Word)) : List (Frame Word) :=
  (framePath Word p mask).log retired .reset inputs

/-- The words lane `ch` has accepted along a run from reset. -/
def acceptedWords (ch : Channel) (inputs : List (FramePathIn Word)) : List (LaneWord Word) :=
  (framePath Word p mask).log (fun s i => s.laneAccepted i ch) .reset inputs

/-- Every enabled lane has accepted exactly its slices of the retired frames, a
    disabled lane nothing. -/
def LanesMatch (inputs : List (FramePathIn Word)) : Prop :=
  ∀ ch, acceptedWords p mask ch inputs =
    if mask ch then (retiredFrames p mask inputs).map (fun frame => frame ch) else []

/-- The credit mask lags the descriptor mask by a cycle, but no frame is presented
    before it has caught up. -/
theorem creditMask_of_frameValid (inputs : List (FramePathIn Word)) :
    let s := (framePath Word p mask).run .reset inputs
    s.reader.frameValid = true → s.creditMask = mask :=
  (framePath Word p mask).invariant
    (P := fun s => s.reader.frameValid = true → s.creditMask = mask)
    (fun presented => Bool.noConfusion presented) (fun _ _ _ _ => rfl) inputs

theorem acceptedWords_append (ch : Channel) (is : List (FramePathIn Word)) (i : FramePathIn Word) :
    acceptedWords p mask ch (is ++ [i]) =
      acceptedWords p mask ch is ++ ((framePath Word p mask).run .reset is).laneAccepted i ch := by
  simp [acceptedWords]

theorem retiredFrames_append (is : List (FramePathIn Word)) (i : FramePathIn Word) :
    retiredFrames p mask (is ++ [i]) =
      retiredFrames p mask is ++ ((framePath Word p mask).run .reset is).retired i := by
  simp [retiredFrames]

theorem lanesMatch_of_uniform (inputs : List (FramePathIn Word))
    (uniform : (framePath Word p mask).Along (UniformReady mask) .reset inputs) :
    LanesMatch p mask inputs := by
  refine (framePath Word p mask).run_induction (P := fun is _ => LanesMatch p mask is) ?_ ?_
    inputs uniform
  · intro ch
    cases mask ch <;> rfl
  · intro is i _ matched now ch
    have caughtUp := creditMask_of_frameValid p mask is
    rw [acceptedWords_append, retiredFrames_append, matched ch]
    cases on : mask ch with
    | false => simp [laneAccepted_off caughtUp i on]
    | true => simp [laneAccepted_of_uniform caughtUp i now on]

theorem retiredFrames_length_le (inputs : List (FramePathIn Word)) {ch : Channel}
    (on : mask ch = true) :
    (retiredFrames p mask inputs).length ≤ (acceptedWords p mask ch inputs).length := by
  induction inputs using List.reverseRecOn with
  | nil => exact Nat.le_refl _
  | append_singleton is i ih =>
    have now := retired_length_le (creditMask_of_frameValid p mask is) i on
    rw [acceptedWords_append, retiredFrames_append, List.length_append, List.length_append]
    exact Nat.add_le_add ih now

/-- A lane never falls behind the retired frames, so one surplus word is never made
    up for: equal lengths at the end mean equal lengths in every cycle. -/
theorem uniform_of_acceptedWords_length (inputs : List (FramePathIn Word))
    (lengths : ∀ ch, mask ch = true →
      (acceptedWords p mask ch inputs).length = (retiredFrames p mask inputs).length) :
    (framePath Word p mask).Along (UniformReady mask) .reset inputs := by
  induction inputs using List.reverseRecOn with
  | nil => trivial
  | append_singleton is i ih =>
    have caughtUp := creditMask_of_frameValid p mask is
    have split : ∀ ch, mask ch = true →
        (acceptedWords p mask ch is).length = (retiredFrames p mask is).length ∧
          (((framePath Word p mask).run .reset is).laneAccepted i ch).length =
            (((framePath Word p mask).run .reset is).retired i).length := by
      intro ch on
      have total := lengths ch on
      have before := retiredFrames_length_le p mask is on
      have now := retired_length_le caughtUp i on
      rw [acceptedWords_append, retiredFrames_append, List.length_append,
        List.length_append] at total
      omega
    rw [along_append]
    exact ⟨ih fun ch on => (split ch on).1,
      uniform_of_lengths caughtUp i fun ch on => (split ch on).2, trivial⟩

/-- The lanes receive exactly the retired frames if and only if no presented frame
    ever finds the enabled lanes ready in part. -/
theorem lanesMatch_iff_uniformReady (inputs : List (FramePathIn Word)) :
    LanesMatch p mask inputs ↔
      (framePath Word p mask).Along (UniformReady mask) .reset inputs := by
  constructor
  · intro matched
    refine uniform_of_acceptedWords_length p mask inputs fun ch on => ?_
    rw [matched ch, if_pos on, List.length_map]
  · exact lanesMatch_of_uniform p mask inputs

end FramePath

/-! ## A lane that stalls alone -/

/-- A cycle of a one-frame read from address `0x4800000000`. -/
def oneFrameCycle (start rvalid rlast : Bool) (fifoReady : Channel → Bool) :
    FramePathIn (BitVec 64) where
  start := start
  cancel := false
  baseAddr := 0x4800000000
  totalBeats := 1
  arready := true
  rdata := fun ch => BitVec.ofNat 64 ch.val
  rresp := 0
  rvalid := rvalid
  rlast := rlast
  fifoReady := fifoReady
  fifoWrCounts := fun _ => 0

/-- One frame is read for lanes 0 and 1; lane 1 stalls for one cycle while the frame
    is presented, then both are ready. -/
def stallAlone : List (FramePathIn (BitVec 64)) :=
  List.replicate 6 (oneFrameCycle false false false fun _ => true) ++
  [oneFrameCycle true false false fun _ => true] ++
  List.replicate 2 (oneFrameCycle false false false fun _ => true) ++
  List.replicate 3 (oneFrameCycle false true false fun _ => true) ++
  [oneFrameCycle false true true fun _ => true,
    oneFrameCycle false false false fun ch => ch != 1,
    oneFrameCycle false false false fun _ => true]

/-- Lane 0 takes the only frame twice. -/
theorem stallAlone_not_lanesMatch :
    ¬ FramePath.LanesMatch playbackReaderParams (fun ch => ch = 0 || ch = 1) stallAlone := by
  intro matched
  have twice := congrArg List.length (matched 0)
  revert twice
  decide

end Xczu47dr.Playback
