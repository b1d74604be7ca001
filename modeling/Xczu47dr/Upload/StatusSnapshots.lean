import Xczu47dr.Clocked.Crossing
import Xczu47dr.Clocked.Machine
import Xczu47dr.Clocked.Progress

/-! # Snapshots of the status record

`waveform_status_cdc`: a request flips a toggle on the DDR clock, the DAC side holds its
status record and flips a toggle back, and the held record is passed on once that toggle
has come through.  Edges of the two clocks come in any order; a register whose source has
changed since its last edge may catch anything, a record any mixture.
-/

namespace Xczu47dr.Upload

open Clocked

/-- The registers on `ddr_clk`; `sync` is `data_meta_ddr` and `data_sync_ddr`. -/
structure StatusPort (α : Type) where
  requestToggle : Bool
  snapshotBusy : Bool
  snapshotValid : Bool
  snapshotData : α
  ackSync : Synchronizer
  ackSeen : Bool
  ackPending : Bool
  sync : Passage α

/-- The registers on `dac_clk`. -/
structure StatusSide (α : Type) where
  sourceHold : α
  ackToggle : Bool
  requestSync : Synchronizer
  requestSeen : Bool

namespace StatusPort

variable {α : Type} (s : StatusPort α)

def reset (zero : α) : StatusPort α where
  requestToggle := false
  snapshotBusy := false
  snapshotValid := false
  snapshotData := zero
  ackSync := .reset
  ackSeen := false
  ackPending := false
  sync := ⟨zero, zero, false⟩

def requestReady : Bool := !s.snapshotBusy && !s.ackPending

def notices : Bool := s.snapshotBusy && !s.ackPending && s.ackSync.third != s.ackSeen

/-- One edge of `ddr_clk`. -/
def step (request ackToggle ackCaught : Bool) (sourceHold dataCaught : α) : StatusPort α :=
  let t := { s with
    ackSync := s.ackSync.edge ackToggle ackCaught
    sync := s.sync.edge sourceHold dataCaught
    snapshotValid := false }
  let t := if request && s.requestReady then { t with requestToggle := !s.requestToggle, snapshotBusy := true } else t
  let t := if s.notices then { t with ackSeen := s.ackSync.third, ackPending := true } else t
  if s.ackPending then
    { t with snapshotData := s.sync.back, snapshotValid := true, snapshotBusy := false, ackPending := false }
  else t

end StatusPort

namespace StatusSide

variable {α : Type} (s : StatusSide α)

def reset (zero : α) : StatusSide α where
  sourceHold := zero
  ackToggle := false
  requestSync := .reset
  requestSeen := false

/-- One edge of `dac_clk`. -/
def step (source : α) (requestToggle requestCaught : Bool) : StatusSide α :=
  let t := { s with requestSync := s.requestSync.edge requestToggle requestCaught }
  if s.requestSync.third != s.requestSeen then
    { t with sourceHold := source, requestSeen := s.requestSync.third, ackToggle := s.requestSync.third }
  else t

end StatusSide

structure StatusPath (α : Type) where
  port : StatusPort α
  side : StatusSide α

/-- An edge of `ddr_clk` or of `dac_clk`. -/
inductive StatusTick (α : Type)
  | ddr (request ackCaught : Bool) (dataCaught : α)
  | dac (source : α) (requestCaught : Bool)

namespace StatusPath

variable {α : Type} [DecidableEq α] (s : StatusPath α)

def step : StatusTick α → StatusPath α
  | .ddr request ackCaught dataCaught =>
    let port := s.port.step request s.side.ackToggle ackCaught s.side.sourceHold dataCaught
    { port := port
      side := { s.side with requestSync := s.side.requestSync.disturb s.port.requestToggle port.requestToggle } }
  | .dac source requestCaught =>
    let side := s.side.step source s.port.requestToggle requestCaught
    { port := { s.port with
        ackSync := s.port.ackSync.disturb s.side.ackToggle side.ackToggle
        sync := s.port.sync.disturb s.side.sourceHold side.sourceHold }
      side := side }

def accepts : StatusTick α → Bool
  | .ddr request _ _ => request && s.port.requestReady
  | .dac _ _ => false

/-- The cycle after the edge is one with `snapshot_valid_ddr`. -/
def answers (tick : StatusTick α) : Bool :=
  match tick with
  | .ddr _ _ _ => (s.step tick).port.snapshotValid
  | .dac _ _ => false

end StatusPath

def statusCdc (α : Type) [DecidableEq α] (zero : α) : Machine (StatusTick α) (StatusPath α) where
  reset := ⟨.reset zero, .reset zero⟩
  step := StatusPath.step

/-! ## How far a request is -/

namespace StatusPath

variable {α : Type} (s : StatusPath α)

/-- No request is under way. -/
structure Rests : Prop where
  busy : s.port.snapshotBusy = false
  pending : s.port.ackPending = false
  requestSync : s.side.requestSync.Shows s.port.requestToggle
  requestSeen : s.side.requestSeen = s.port.requestToggle
  ackToggle : s.side.ackToggle = s.port.requestToggle
  ackSync : s.port.ackSync.Shows s.port.requestToggle
  ackSeen : s.port.ackSeen = s.port.requestToggle

/-- The request is on its way to the DAC side. -/
structure Asked : Prop where
  busy : s.port.snapshotBusy = true
  pending : s.port.ackPending = false
  requestSync : s.side.requestSync.Arriving s.port.requestToggle
  requestSeen : s.side.requestSeen = !s.port.requestToggle
  ackToggle : s.side.ackToggle = !s.port.requestToggle
  ackSync : s.port.ackSync.Shows (!s.port.requestToggle)
  ackSeen : s.port.ackSeen = !s.port.requestToggle

/-- The DAC side holds `x`, and its toggle is on the way back. -/
structure Held (x : α) : Prop where
  busy : s.port.snapshotBusy = true
  pending : s.port.ackPending = false
  requestSync : s.side.requestSync.Shows s.port.requestToggle
  requestSeen : s.side.requestSeen = s.port.requestToggle
  ackToggle : s.side.ackToggle = s.port.requestToggle
  ackSync : s.port.ackSync.Arriving s.port.requestToggle
  ackSeen : s.port.ackSeen = !s.port.requestToggle
  sourceHold : s.side.sourceHold = x
  sync : s.port.sync.Follows s.port.ackSync s.port.requestToggle x

/-- The toggle has come through, and `x` with it. -/
structure Due (x : α) : Prop where
  busy : s.port.snapshotBusy = true
  pending : s.port.ackPending = true
  requestSync : s.side.requestSync.Shows s.port.requestToggle
  requestSeen : s.side.requestSeen = s.port.requestToggle
  ackToggle : s.side.ackToggle = s.port.requestToggle
  ackSync : s.port.ackSync.Shows s.port.requestToggle
  ackSeen : s.port.ackSeen = s.port.requestToggle
  sync : s.port.sync.back = x

variable {s} {x : α}

/-! ## How long it takes -/

/-- A bound on the edges it takes until the answer, counted on the clock whose turn it is. -/
def remaining (s : StatusPath α) : Nat :=
  if s.port.ackPending then 0
  else if s.side.requestSeen = s.port.requestToggle then 1 + s.port.ackSync.left s.port.requestToggle
  else 6 + s.side.requestSync.left s.port.requestToggle

def ddrTurn (s : StatusPath α) : Bool := s.port.ackPending || s.side.requestSeen == s.port.requestToggle

theorem Asked.remaining (asked : s.Asked) : s.remaining = 6 + s.side.requestSync.left s.port.requestToggle := by
  rw [StatusPath.remaining, asked.pending, asked.requestSeen, if_neg (by simp), if_neg (by simp)]

theorem Asked.ddrTurn (asked : s.Asked) : s.ddrTurn = false := by
  rw [StatusPath.ddrTurn, asked.pending, asked.requestSeen]
  cases s.port.requestToggle <;> rfl

theorem Held.remaining (held : s.Held x) : s.remaining = 1 + s.port.ackSync.left s.port.requestToggle := by
  rw [StatusPath.remaining, held.pending, held.requestSeen, if_neg (by simp), if_pos rfl]

theorem Held.ddrTurn (held : s.Held x) : s.ddrTurn = true := by
  rw [StatusPath.ddrTurn, held.requestSeen, beq_self_eq_true, Bool.or_true]

theorem Due.remaining (due : s.Due x) : s.remaining = 0 := by
  rw [StatusPath.remaining, due.pending, if_pos rfl]

theorem Due.ddrTurn (due : s.Due x) : s.ddrTurn = true := by
  rw [StatusPath.ddrTurn, due.pending, Bool.true_or]

/-- No request is accepted while one is under way. -/
theorem accepts_busy (busy : s.port.snapshotBusy = true) (tick : StatusTick α) : s.accepts tick = false := by
  cases tick with
  | ddr request ackCaught dataCaught =>
    rw [accepts, StatusPort.requestReady, busy]
    exact Bool.and_false request
  | dac source requestCaught => rfl

variable [DecidableEq α] (source dataCaught : α) (request ackCaught requestCaught : Bool)

/-! ## The edges of the DAC clock -/

/-- Without a new request an edge of the DAC clock moves the toggle on, and nothing else. -/
theorem step_dac_quiet (none : s.side.requestSync.third = s.side.requestSeen) :
    s.step (.dac source requestCaught) =
      { s with side := { s.side with requestSync := s.side.requestSync.edge s.port.requestToggle requestCaught } } := by
  simp only [step, StatusSide.step, none, bne_self_eq_false, Bool.false_eq_true, if_false, Synchronizer.disturb_self,
    Passage.disturb_self]

theorem Rests.dac (rests : s.Rests) : (s.step (.dac source requestCaught)).Rests := by
  rw [step_dac_quiet source requestCaught (rests.requestSync.third.trans rests.requestSeen.symm)]
  exact { rests with requestSync := rests.requestSync.edge requestCaught }

theorem Held.dac (held : s.Held x) : (s.step (.dac source requestCaught)).Held x := by
  rw [step_dac_quiet source requestCaught (held.requestSync.third.trans held.requestSeen.symm)]
  exact { held with requestSync := held.requestSync.edge requestCaught }

theorem Due.dac (due : s.Due x) : (s.step (.dac source requestCaught)).Due x := by
  rw [step_dac_quiet source requestCaught (due.requestSync.third.trans due.requestSeen.symm)]
  exact { due with requestSync := due.requestSync.edge requestCaught }

theorem Asked.dac_early (asked : s.Asked) (early : s.side.requestSync.third ≠ s.port.requestToggle) :
    (s.step (.dac source requestCaught)).Asked ∧
      (s.step (.dac source requestCaught)).side.requestSync.left s.port.requestToggle <
        s.side.requestSync.left s.port.requestToggle := by
  have none : s.side.requestSync.third = s.side.requestSeen :=
    (Bool.eq_not_of_ne early).trans asked.requestSeen.symm
  rw [step_dac_quiet source requestCaught none]
  exact ⟨{ asked with requestSync := asked.requestSync.edge requestCaught }, Synchronizer.left_edge early requestCaught⟩

/-- The toggle has arrived, and the record of this cycle is held. -/
theorem Asked.dac_arrived (asked : s.Asked) (arrived : s.side.requestSync.third = s.port.requestToggle) :
    (s.step (.dac source requestCaught)).Held source := by
  have notices : (s.side.requestSync.third != s.side.requestSeen) = true := by
    rw [arrived, asked.requestSeen]
    cases s.port.requestToggle <;> rfl
  have shows := asked.requestSync.shows arrived
  have taken : s.side.step source s.port.requestToggle requestCaught =
      { sourceHold := source
        ackToggle := s.port.requestToggle
        requestSync := s.side.requestSync.edge s.port.requestToggle requestCaught
        requestSeen := s.port.requestToggle } := by
    rw [StatusSide.step, if_pos notices, arrived]
  rw [step]
  dsimp only
  rw [taken, asked.ackToggle]
  exact {
    busy := asked.busy
    pending := asked.pending
    requestSync := shows.edge requestCaught
    requestSeen := rfl
    ackToggle := rfl
    ackSync := asked.ackSync.changes
    ackSeen := asked.ackSeen
    sourceHold := rfl
    sync := Passage.follows_change asked.ackSync _ }

/-! ## The edges of the DDR clock -/

/-- The registers of the port but for the request and its answer. -/
def shifted (s : StatusPath α) (ackCaught : Bool) (dataCaught : α) : StatusPort α :=
  { s.port with
    ackSync := s.port.ackSync.edge s.side.ackToggle ackCaught
    sync := s.port.sync.edge s.side.sourceHold dataCaught
    snapshotValid := false }

theorem Rests.step_idle (rests : s.Rests) :
    s.step (.ddr false ackCaught dataCaught) = { s with port := s.shifted ackCaught dataCaught } := by
  simp only [step, StatusPort.step, StatusPort.notices, shifted, rests.busy, rests.pending, Bool.false_and,
    Bool.false_eq_true, if_false, Synchronizer.disturb_self]

theorem Rests.idle (rests : s.Rests) : (s.step (.ddr false ackCaught dataCaught)).Rests := by
  rw [rests.step_idle]
  refine { rests with ackSync := ?_ }
  change (s.port.ackSync.edge s.side.ackToggle ackCaught).Shows _
  rw [rests.ackToggle]
  exact rests.ackSync.edge ackCaught

theorem Rests.accept (rests : s.Rests) :
    (s.step (.ddr true ackCaught dataCaught)).Asked ∧
      (s.step (.ddr true ackCaught dataCaught)).port.snapshotValid = false := by
  have moved : s.step (.ddr true ackCaught dataCaught) =
      { port := { s.shifted ackCaught dataCaught with requestToggle := !s.port.requestToggle, snapshotBusy := true }
        side := { s.side with
          requestSync := s.side.requestSync.disturb s.port.requestToggle (!s.port.requestToggle) } } := by
    simp only [step, StatusPort.step, StatusPort.notices, StatusPort.requestReady, shifted, rests.busy, rests.pending,
      Bool.not_false, Bool.and_self, Bool.false_and, Bool.false_eq_true, if_false, if_true]
  rw [moved]
  refine ⟨?_, rfl⟩
  have shows := rests.requestSync
  have acked := rests.ackSync
  exact {
    busy := rfl
    pending := rests.pending
    requestSync := by
      have flips := Synchronizer.Shows.changes (s := s.side.requestSync) (v := !s.port.requestToggle)
        (by rwa [Bool.not_not])
      rwa [Bool.not_not] at flips
    requestSeen := by simpa using rests.requestSeen
    ackToggle := by simpa using rests.ackToggle
    ackSync := by
      change (s.port.ackSync.edge s.side.ackToggle ackCaught).Shows (!!s.port.requestToggle)
      rw [Bool.not_not, rests.ackToggle]
      exact acked.edge ackCaught
    ackSeen := by
      change s.port.ackSeen = !!s.port.requestToggle
      rw [Bool.not_not]
      exact rests.ackSeen }

/-- While a request is under way and not yet acknowledged, the port only shifts. -/
theorem step_ddr_busy (busy : s.port.snapshotBusy = true) (pending : s.port.ackPending = false)
    (early : s.port.ackSync.third = s.port.ackSeen) :
    s.step (.ddr request ackCaught dataCaught) = { s with port := s.shifted ackCaught dataCaught } := by
  simp only [step, StatusPort.step, StatusPort.notices, StatusPort.requestReady, shifted, busy, pending, early,
    Bool.not_true, Bool.false_and, Bool.and_false, bne_self_eq_false, Bool.false_eq_true, if_false,
    Synchronizer.disturb_self]

theorem Asked.ddr (asked : s.Asked) :
    (s.step (.ddr request ackCaught dataCaught)).Asked ∧
      (s.step (.ddr request ackCaught dataCaught)).port.snapshotValid = false ∧
      (s.step (.ddr request ackCaught dataCaught)).side.requestSync = s.side.requestSync ∧
      (s.step (.ddr request ackCaught dataCaught)).port.requestToggle = s.port.requestToggle := by
  rw [step_ddr_busy dataCaught request ackCaught asked.busy asked.pending (asked.ackSync.third.trans asked.ackSeen.symm)]
  refine ⟨{ asked with ackSync := ?_ }, rfl, rfl, rfl⟩
  change (s.port.ackSync.edge s.side.ackToggle ackCaught).Shows _
  rw [asked.ackToggle]
  exact asked.ackSync.edge ackCaught

theorem Held.ddr_early (held : s.Held x) (early : s.port.ackSync.third ≠ s.port.requestToggle) :
    (s.step (.ddr request ackCaught dataCaught)).Held x ∧
      (s.step (.ddr request ackCaught dataCaught)).port.snapshotValid = false ∧
      (s.step (.ddr request ackCaught dataCaught)).port.requestToggle = s.port.requestToggle ∧
      (s.step (.ddr request ackCaught dataCaught)).port.ackSync.left s.port.requestToggle <
        s.port.ackSync.left s.port.requestToggle := by
  rw [step_ddr_busy dataCaught request ackCaught held.busy held.pending ((Bool.eq_not_of_ne early).trans held.ackSeen.symm)]
  have edge : s.port.ackSync.edge s.side.ackToggle ackCaught = s.port.ackSync.edge s.port.requestToggle ackCaught := by
    rw [held.ackToggle]
  have synced : (s.port.sync.edge s.side.sourceHold dataCaught).Follows
      (s.port.ackSync.edge s.port.requestToggle ackCaught) s.port.requestToggle x := by
    rw [held.sourceHold]
    exact held.sync.edge held.ackSync ackCaught dataCaught
  have arriving := held.ackSync.edge ackCaught
  rw [← edge] at synced arriving
  refine ⟨{ held with ackSync := arriving, sync := synced }, rfl, rfl, ?_⟩
  change (s.port.ackSync.edge s.side.ackToggle ackCaught).left _ < _
  rw [edge]
  exact Synchronizer.left_edge early ackCaught

theorem Held.ddr_arrived (held : s.Held x) (arrived : s.port.ackSync.third = s.port.requestToggle) :
    (s.step (.ddr request ackCaught dataCaught)).Due x ∧
      (s.step (.ddr request ackCaught dataCaught)).port.snapshotValid = false := by
  have notices : s.port.notices = true := by
    rw [StatusPort.notices, held.busy, held.pending, arrived, held.ackSeen]
    cases s.port.requestToggle <;> rfl
  have moved : s.step (.ddr request ackCaught dataCaught) =
      { s with port := { s.shifted ackCaught dataCaught with ackSeen := s.port.requestToggle, ackPending := true } } := by
    simp only [step, StatusPort.step, notices, StatusPort.requestReady, shifted, held.busy, held.pending, arrived,
      Bool.not_true, Bool.false_and, Bool.and_false, Bool.false_eq_true, if_false, if_true, Synchronizer.disturb_self]
  have shows := held.ackSync.shows arrived
  rw [moved]
  refine ⟨?_, rfl⟩
  exact {
    busy := held.busy
    pending := rfl
    requestSync := held.requestSync
    requestSeen := held.requestSeen
    ackToggle := held.ackToggle
    ackSync := by
      change (s.port.ackSync.edge s.side.ackToggle ackCaught).Shows _
      rw [held.ackToggle]
      exact shows.edge ackCaught
    ackSeen := rfl
    -- the second register takes what the first one held
    sync := held.sync.front shows.second }

theorem Due.ddr (due : s.Due x) :
    (s.step (.ddr request ackCaught dataCaught)).Rests ∧
      (s.step (.ddr request ackCaught dataCaught)).port.snapshotValid = true ∧
      (s.step (.ddr request ackCaught dataCaught)).port.snapshotData = x := by
  have moved : s.step (.ddr request ackCaught dataCaught) =
      { s with port := { s.shifted ackCaught dataCaught with
          snapshotData := s.port.sync.back, snapshotValid := true, snapshotBusy := false, ackPending := false } } := by
    simp only [step, StatusPort.step, StatusPort.notices, StatusPort.requestReady, shifted, due.busy, due.pending,
      Bool.not_true, Bool.false_and, Bool.and_false, Bool.false_eq_true, if_false, if_true, Synchronizer.disturb_self]
  rw [moved]
  refine ⟨?_, rfl, due.sync⟩
  exact {
    busy := rfl
    pending := rfl
    requestSync := due.requestSync
    requestSeen := due.requestSeen
    ackToggle := due.ackToggle
    ackSync := by
      change (s.port.ackSync.edge s.side.ackToggle ackCaught).Shows _
      rw [due.ackToggle]
      exact due.ackSync.edge ackCaught
    ackSeen := due.ackSeen }

end StatusPath

/-! ## Runs -/

section Runs

variable {α : Type} [DecidableEq α] (zero : α) (ticks : Nat → StatusTick α)

/-- The crossing before the edge `n`. -/
def statusAt (n : Nat) : StatusPath α := (statusCdc α zero).trace ticks n

def acceptsAt (n : Nat) : Bool := (statusAt zero ticks n).accepts (ticks n)

def answersAt (n : Nat) : Bool := (statusAt zero ticks n).answers (ticks n)

/-- The request accepted at the edge `n` has been neither answered nor joined by another
    before the edge `m`. -/
structure Open (n m : Nat) : Prop where
  earlier : n < m
  accepted : acceptsAt zero ticks n = true
  alone : ∀ k, n < k → k < m → acceptsAt zero ticks k = false
  unanswered : ∀ k, n ≤ k → k < m → answersAt zero ticks k = false

/-- The edge `k` is one of the DAC clock with the record `x`. -/
def ShownAt (k : Nat) (x : α) : Prop := ∃ requestCaught, ticks k = .dac x requestCaught

/-- The snapshot at the edge `m` answers the request accepted at the edge `n`: it is the
    record of one cycle of the DAC clock in between. -/
structure Answers (n m : Nat) : Prop where
  unanswered : Open zero ticks n m
  answered : answersAt zero ticks m = true
  sampled : ∃ k, n < k ∧ k < m ∧ ShownAt ticks k (statusAt zero ticks (m + 1)).port.snapshotData

/-- An edge of the DDR clock, or one of the DAC clock. -/
def edgeOf (ddr : Bool) : StatusTick α → Bool
  | .ddr _ _ _ => ddr
  | .dac _ _ => !ddr

def BothRun : Prop := ∀ ddr n, ∃ k, n ≤ k ∧ edgeOf ddr (ticks k) = true

/-- Where the request stands before the edge `m`. -/
inductive Stands (n m : Nat) : Prop
  | asked (asked : (statusAt zero ticks m).Asked)
  | held (k : Nat) (x : α) (later : n < k) (earlier : k < m) (shown : ShownAt ticks k x)
      (held : (statusAt zero ticks m).Held x)
  | due (k : Nat) (x : α) (later : n < k) (earlier : k < m) (shown : ShownAt ticks k x)
      (due : (statusAt zero ticks m).Due x)

def Traced (m : Nat) : Prop :=
  (statusAt zero ticks m).Rests ∨ ∃ n, Open zero ticks n m ∧ Stands zero ticks n m

variable {zero ticks}

theorem statusAt_succ (zero : α) (ticks : Nat → StatusTick α) (n : Nat) : statusAt zero ticks (n + 1) = (statusAt zero ticks n).step (ticks n) := rfl

theorem Open.succ {n m : Nat} (opened : Open zero ticks n m) (refused : acceptsAt zero ticks m = false)
    (silent : answersAt zero ticks m = false) : Open zero ticks n (m + 1) where
  earlier := Nat.lt_succ_of_lt opened.earlier
  accepted := opened.accepted
  alone k later before := by
    rcases Nat.lt_succ_iff_lt_or_eq.mp before with inside | rfl
    · exact opened.alone k later inside
    · exact refused
  unanswered k later before := by
    rcases Nat.lt_succ_iff_lt_or_eq.mp before with inside | rfl
    · exact opened.unanswered k later inside
    · exact silent

/-- What an open request comes to at the next edge. -/
structure Continues (zero : α) (ticks : Nat → StatusTick α) (n m : Nat) : Prop where
  opened : Open zero ticks n (m + 1)
  stands : Stands zero ticks n (m + 1)
  nearer : (statusAt zero ticks (m + 1)).remaining < (statusAt zero ticks m).remaining ∨
    (statusAt zero ticks (m + 1)).remaining = (statusAt zero ticks m).remaining ∧
      (statusAt zero ticks (m + 1)).ddrTurn = (statusAt zero ticks m).ddrTurn ∧
      ¬ edgeOf (statusAt zero ticks m).ddrTurn (ticks m) = true

theorem Open.asked_step {n m : Nat} (opened : Open zero ticks n m) (asked : (statusAt zero ticks m).Asked) :
    Continues zero ticks n m := by
  have refused : acceptsAt zero ticks m = false := StatusPath.accepts_busy asked.busy _
  have after := statusAt_succ zero ticks m
  cases tick : ticks m with
  | ddr request ackCaught dataCaught =>
    rw [tick] at after
    obtain ⟨still, silent, sync, toggle⟩ :=
      asked.ddr dataCaught request ackCaught
    rw [← after] at still sync toggle
    refine ⟨opened.succ refused ?_, .asked still, .inr ⟨?_, ?_, ?_⟩⟩
    · rw [answersAt, tick]
      exact silent
    · rw [still.remaining, asked.remaining, sync, toggle]
    · rw [still.ddrTurn, asked.ddrTurn]
    · rw [asked.ddrTurn, tick]
      nofun
  | dac source requestCaught =>
    rw [tick] at after
    have silent : answersAt zero ticks m = false := by rw [answersAt, tick]; rfl
    by_cases arrived : (statusAt zero ticks m).side.requestSync.third = (statusAt zero ticks m).port.requestToggle
    · have held := asked.dac_arrived source requestCaught arrived
      rw [← after] at held
      refine ⟨opened.succ refused silent,
        .held m source opened.earlier (Nat.lt_succ_self m) ⟨requestCaught, tick⟩ held, .inl ?_⟩
      rw [held.remaining, asked.remaining]
      have bound := (statusAt zero ticks (m + 1)).port.ackSync.left_le (statusAt zero ticks (m + 1)).port.requestToggle
      omega
    · obtain ⟨still, nearer⟩ := asked.dac_early source requestCaught arrived
      have toggle : (statusAt zero ticks (m + 1)).port.requestToggle = (statusAt zero ticks m).port.requestToggle := by
        rw [after]
        rfl
      rw [← after] at still nearer
      refine ⟨opened.succ refused silent, .asked still, .inl ?_⟩
      rw [still.remaining, asked.remaining, toggle]
      omega

theorem Open.held_step {n m k : Nat} {x : α} (opened : Open zero ticks n m) (later : n < k) (earlier : k < m)
    (shown : ShownAt ticks k x) (held : (statusAt zero ticks m).Held x) : Continues zero ticks n m := by
  have refused : acceptsAt zero ticks m = false := StatusPath.accepts_busy held.busy _
  have after := statusAt_succ zero ticks m
  cases tick : ticks m with
  | ddr request ackCaught dataCaught =>
    rw [tick] at after
    have silenced (silent : ((statusAt zero ticks m).step (.ddr request ackCaught dataCaught)).port.snapshotValid = false) :
        answersAt zero ticks m = false := by
      rw [answersAt, tick]
      exact silent
    by_cases arrived : (statusAt zero ticks m).port.ackSync.third = (statusAt zero ticks m).port.requestToggle
    · obtain ⟨due, silent⟩ :=
        held.ddr_arrived dataCaught request ackCaught arrived
      rw [← after] at due
      refine ⟨opened.succ refused (silenced silent), .due k x later (Nat.lt_succ_of_lt earlier) shown due, .inl ?_⟩
      rw [due.remaining, held.remaining]
      omega
    · obtain ⟨still, silent, toggle, nearer⟩ :=
        held.ddr_early dataCaught request ackCaught arrived
      rw [← after] at still toggle nearer
      refine ⟨opened.succ refused (silenced silent), .held k x later (Nat.lt_succ_of_lt earlier) shown still, .inl ?_⟩
      rw [still.remaining, held.remaining, toggle]
      omega
  | dac source requestCaught =>
    rw [tick] at after
    have silent : answersAt zero ticks m = false := by rw [answersAt, tick]; rfl
    have still := held.dac source requestCaught
    have port : (statusAt zero ticks (m + 1)).port = (statusAt zero ticks m).port := by
      rw [after, StatusPath.step_dac_quiet source requestCaught (held.requestSync.third.trans held.requestSeen.symm)]
    rw [← after] at still
    refine ⟨opened.succ refused silent, .held k x later (Nat.lt_succ_of_lt earlier) shown still, .inr ⟨?_, ?_, ?_⟩⟩
    · rw [still.remaining, held.remaining, port]
    · rw [still.ddrTurn, held.ddrTurn]
    · rw [held.ddrTurn, tick]
      nofun

/-- A record that is due is passed on at the next edge of the DDR clock. -/
theorem Open.due_step {n m k : Nat} {x : α} (opened : Open zero ticks n m) (later : n < k) (earlier : k < m)
    (shown : ShownAt ticks k x) (due : (statusAt zero ticks m).Due x) :
    Continues zero ticks n m ∨ (statusAt zero ticks (m + 1)).Rests ∧ Answers zero ticks n m := by
  have refused : acceptsAt zero ticks m = false := StatusPath.accepts_busy due.busy _
  have after := statusAt_succ zero ticks m
  cases tick : ticks m with
  | ddr request ackCaught dataCaught =>
    rw [tick] at after
    obtain ⟨rests, valid, data⟩ :=
      due.ddr dataCaught request ackCaught
    rw [← after] at rests data
    refine .inr ⟨rests, opened, ?_, k, later, earlier, data ▸ shown⟩
    rw [answersAt, tick]
    exact valid
  | dac source requestCaught =>
    rw [tick] at after
    have silent : answersAt zero ticks m = false := by rw [answersAt, tick]; rfl
    have still := due.dac source requestCaught
    rw [← after] at still
    refine .inl ⟨opened.succ refused silent, .due k x later (Nat.lt_succ_of_lt earlier) shown still, .inr ⟨?_, ?_, ?_⟩⟩
    · rw [still.remaining, due.remaining]
    · rw [still.ddrTurn, due.ddrTurn]
    · rw [due.ddrTurn, tick]
      nofun

theorem Open.step {n m : Nat} (opened : Open zero ticks n m) (stands : Stands zero ticks n m) :
    Continues zero ticks n m ∨ (statusAt zero ticks (m + 1)).Rests ∧ Answers zero ticks n m := by
  cases stands with
  | asked asked => exact .inl (opened.asked_step asked)
  | held k x later earlier shown held => exact .inl (opened.held_step later earlier shown held)
  | due k x later earlier shown due => exact opened.due_step later earlier shown due

/-- A path at rest stays at rest without a request, and asks for a record with one. -/
theorem rests_step {m : Nat} (rests : (statusAt zero ticks m).Rests) :
    answersAt zero ticks m = false ∧
      (acceptsAt zero ticks m = false ∧ (statusAt zero ticks (m + 1)).Rests ∨
        Open zero ticks m (m + 1) ∧ (statusAt zero ticks (m + 1)).Asked) := by
  have after := statusAt_succ zero ticks m
  cases tick : ticks m with
  | ddr request ackCaught dataCaught =>
    rw [tick] at after
    cases request with
    | false =>
      refine ⟨?_, .inl ⟨?_, after ▸ rests.idle dataCaught ackCaught⟩⟩
      · rw [answersAt, tick, StatusPath.answers, rests.step_idle]
        rfl
      · rw [acceptsAt, tick]
        rfl
    | true =>
      obtain ⟨asked, silent⟩ := rests.accept dataCaught ackCaught
      have quiet : answersAt zero ticks m = false := by
        rw [answersAt, tick]
        exact silent
      refine ⟨quiet, .inr ⟨⟨Nat.lt_succ_self m, ?_, fun k later before => ?_, fun k later before => ?_⟩, after ▸ asked⟩⟩
      · rw [acceptsAt, tick, StatusPath.accepts, StatusPort.requestReady, rests.busy, rests.pending]
        rfl
      · omega
      · rwa [show k = m by omega]
  | dac source requestCaught =>
    rw [tick] at after
    refine ⟨?_, .inl ⟨?_, after ▸ rests.dac source requestCaught⟩⟩
    · rw [answersAt, tick]
      rfl
    · rw [acceptsAt, tick]
      rfl

theorem traced (zero : α) (ticks : Nat → StatusTick α) (m : Nat) : Traced zero ticks m := by
  induction m with
  | zero => exact .inl ⟨rfl, rfl, ⟨rfl, rfl, rfl, rfl⟩, rfl, rfl, ⟨rfl, rfl, rfl, rfl⟩, rfl⟩
  | succ m ih =>
    rcases ih with rests | ⟨n, opened, stands⟩
    · rcases (rests_step rests).2 with ⟨-, still⟩ | ⟨opened, asked⟩
      · exact .inl still
      · exact .inr ⟨m, opened, .asked asked⟩
    · rcases opened.step stands with continues | ⟨rests, -⟩
      · exact .inr ⟨n, continues.opened, continues.stands⟩
      · exact .inl rests

theorem answers_of_valid {m : Nat} (valid : answersAt zero ticks m = true) : ∃ n, Answers zero ticks n m := by
  rcases traced zero ticks m with rests | ⟨n, opened, stands⟩
  · exact absurd valid (by rw [(rests_step rests).1]; nofun)
  · rcases opened.step stands with continues | ⟨-, answers⟩
    · exact absurd valid (by rw [continues.opened.unanswered m (Nat.le_of_lt opened.earlier) (Nat.lt_succ_self m)]; nofun)
    · exact ⟨n, answers⟩

/-- While both clocks run, an open request is answered. -/
theorem answered_of_open {n m : Nat} (run : BothRun ticks) (opened : Open zero ticks n m)
    (stands : Stands zero ticks n m) : ∃ k, Answers zero ticks n k := by
  have leads : LeadsTo id (fun m => Open zero ticks n m ∧ Stands zero ticks n m) fun m => Answers zero ticks n m := by
    refine leadsTo_of_turns (fun m => (statusAt zero ticks m).remaining) (fun m => (statusAt zero ticks m).ddrTurn)
      (fun ddr m => edgeOf ddr (ticks m) = true) ?_ run
    rintro m ⟨opened, stands⟩
    rcases opened.step stands with continues | ⟨-, answers⟩
    · exact .inr ⟨⟨continues.opened, continues.stands⟩, continues.nearer⟩
    · exact .inl answers
  obtain ⟨k, -, answers⟩ := leads m ⟨opened, stands⟩
  exact ⟨k, answers⟩

/-- Every snapshot answers one request with the record of one cycle after it, and while both
    clocks run every request is answered so. -/
theorem snapshots_coherent (zero : α) (ticks : Nat → StatusTick α) :
    (∀ m, answersAt zero ticks m = true → ∃ n, Answers zero ticks n m) ∧
      (BothRun ticks → ∀ n, acceptsAt zero ticks n = true → ∃ m, Answers zero ticks n m) := by
  refine ⟨fun m valid => answers_of_valid valid, fun run n accepted => ?_⟩
  rcases traced zero ticks n with rests | ⟨k, opened, stands⟩
  · rcases (rests_step rests).2 with ⟨refused, -⟩ | ⟨opened, asked⟩
    · exact absurd accepted (by rw [refused]; nofun)
    · exact answered_of_open run opened (.asked asked)
  · -- while a request is open no other one is accepted
    rcases opened.step stands with continues | ⟨-, answers⟩
    · exact absurd accepted (by rw [continues.opened.alone n opened.earlier (Nat.lt_succ_self n)]; nofun)
    · cases stands with
      | asked asked => exact absurd accepted (by rw [acceptsAt, StatusPath.accepts_busy asked.busy]; nofun)
      | held k x later earlier shown held => exact absurd accepted (by rw [acceptsAt, StatusPath.accepts_busy held.busy]; nofun)
      | due k x later earlier shown due => exact absurd accepted (by rw [acceptsAt, StatusPath.accepts_busy due.busy]; nofun)

end Runs

end Xczu47dr.Upload
