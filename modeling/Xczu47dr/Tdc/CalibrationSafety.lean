import Mathlib.Algebra.BigOperators.Group.Finset.Piecewise
import Mathlib.Algebra.BigOperators.Ring.Finset
import Mathlib.Data.BitVec
import Mathlib.Data.FinEnum
import Mathlib.Tactic.Abel
import Xczu47dr.Clocked.Machine
import Xczu47dr.Tdc.RegisterService

/-! # The safety of the calibration

The register service under any accesses, measurements and resets, with the table
that its writes fill.  A table that is taken as valid has been written from its
first entry to its last, compensation runs on a valid table only, and the bins of
the histogram add up to its count.
-/

namespace Xczu47dr.Tdc

open Clocked

/-! ## The registers and the table -/

structure CalibratedRegisters where
  service : RegisterService
  /-- `calibration` of `tdc_event_capture` -/
  table : BitVec 11 → BitVec 16

/-- An edge of either clock, the DDR half in its reset, or an edge of the other reset. -/
inductive RegisterTick
  | ddr (i : PortIn)
  | ddrReset
  | sample (i : SideIn)
  | sampleReset (asserted : Bool)

/-- What becomes of the table. -/
inductive TableEvent
  | restarted
  | written (index : BitVec 11) (entry : BitVec 16)

/-- The registers of the DDR half in reset; what has changed in front of them stays changed. -/
def RegisterPort.inReset (s : RegisterPort) : RegisterPort :=
  { RegisterPort.reset with
    ackSync := { Synchronizer.reset with unsettled := s.ackSync.unsettled }
    aliveSync := { Synchronizer.reset with unsettled := s.aliveSync.unsettled }
    response := ⟨noReply, noReply, s.response.unsettled⟩ }

/-- The reset of the DDR half is asserted, with or without edges of its clock. -/
def RegisterService.portReset (s : RegisterService) : RegisterService :=
  let port := s.port.inReset
  { s with
    port := port
    side := { s.side with
      requestSync := s.side.requestSync.disturb s.port.requestToggle port.requestToggle
      request := s.side.request.disturb s.port.requestHold port.requestHold } }

namespace RegisterBank

/-- `armed_sync[2]` -/
def armed (s : RegisterBank) : Bool := s.armedSync.getLsbD 2

/-- `compensation_enable` -/
def compensates (s : RegisterBank) : Bool := s.control.getLsbD 0

/-- `calibration_source` -/
def calibrates (s : RegisterBank) : Bool := s.control.getLsbD 1

/-- The table once the write that is under way has reached it. -/
def written (s : RegisterBank) (table : BitVec 11 → BitVec 16) : BitVec 11 → BitVec 16 :=
  if s.calibWrEn then Function.update table s.calibWrAddr s.calibWrData else table

end RegisterBank

/-- What an access does to the table, by the reply it gets: the first entry restarts it. -/
def Access.tableEvents (a : Access) (r : Reply) : List TableEvent :=
  if a.write && r.error == 0 then
    if RegisterBank.isLut a.addr then
      let index := RegisterBank.lutIndex a.addr
      (if index = 0 then [.restarted] else []) ++ [.written index (a.data.extractLsb' 0 16)]
    else if a.addr = 0x0058 ∧ a.data = 4 then [.restarted]
    else []
  else []

namespace CalibratedRegisters

def powerUp (histogram : BitVec 11 → BitVec 32) (table : BitVec 11 → BitVec 16) : CalibratedRegisters where
  service := { RegisterService.reset with side := { RegisterSide.reset with bank := .reset histogram } }
  table := table

variable (s : CalibratedRegisters)

def bank : RegisterBank := s.service.side.bank

def step : RegisterTick → CalibratedRegisters
  | .ddr i => { s with service := s.service.portEdge i }
  | .ddrReset => { s with service := s.service.portReset }
  | .sample i =>
    { service := s.service.sideEdge i
      table := if s.service.alive then s.bank.written s.table else s.table }
  | .sampleReset asserted => { s with service := s.service.resetEdge asserted }

def tableEvents : RegisterTick → List TableEvent
  | .sample i =>
    if s.service.alive && s.service.side.performs then
      s.service.side.request.back.tableEvents (s.service.side.performed i).2
    else []
  | .sampleReset true => [.restarted]
  | _ => []

end CalibratedRegisters

def calibratedRegisters (histogram : BitVec 11 → BitVec 32) (table : BitVec 11 → BitVec 16) :
    Machine RegisterTick CalibratedRegisters where
  reset := .powerUp histogram table
  step := CalibratedRegisters.step

def TableEvent.note (writes : List (BitVec 11 × BitVec 16)) : TableEvent → List (BitVec 11 × BitVec 16)
  | .restarted => []
  | .written index entry => writes ++ [(index, entry)]

/-- The entries written since the table was restarted. -/
def sinceRestart (events : List TableEvent) : List (BitVec 11 × BitVec 16) :=
  events.foldl TableEvent.note []

namespace RegisterBank

/-! ## What an access may do -/

/-- The registers `t` and the reply after an access that found the registers `s`. -/
inductive Outcome (s t : RegisterBank) (i : BankIn) (a : Access) : RegisterBank × Reply → Prop
  | read : a.write = false → Outcome s t i a (t, s.read i a.addr)
  | rejected (r : Reply) : a.write = true → r.error ≠ 0 → Outcome s t i a (t, r)
  | entry : a.write = true → s.armed = false → s.compensates = false → isLut a.addr = true →
      a.data.toNat ≤ 600 →
      (lutIndex a.addr ≠ 0 → (lutIndex a.addr).zeroExtend 12 = s.writtenCount ∧
        s.previousEntry ≤ a.data.extractLsb' 0 16) →
      Outcome s t i a ({ t with
        calibWrEn := true
        calibWrAddr := lutIndex a.addr
        calibWrData := a.data.extractLsb' 0 16
        calibrationValid := false
        previousEntry := a.data.extractLsb' 0 16
        writtenCount := (lutIndex a.addr).zeroExtend 12 + 1 }, ⟨0, a.data⟩)
  | control : a.write = true → s.armed = false → a.addr = 0x0004 → a.data.extractLsb' 3 29 = 0 →
      (a.data.getLsbD 0 = true → s.calibrationValid = true ∧ i.referenceReady = true ∧
        a.data.getLsbD 1 = false ∧ s.histogramClearing = false) →
      Outcome s t i a ({ t with control := a.data.extractLsb' 0 3 }, ⟨0, a.data⟩)
  | offset : a.write = true → s.armed = false → s.compensates = false → a.addr = 0x000c →
      -1999 ≤ a.data.toInt → a.data.toInt ≤ 1999 →
      Outcome s t i a ({ t with phaseOffset := a.data.extractLsb' 0 16 }, ⟨0, a.data⟩)
  | clear : a.write = true → s.armed = false → s.compensates = false → a.addr = 0x0058 → a.data = 1 →
      s.histogramClearing = false →
      Outcome s t i a ({ t with
        histogramClearing := true
        histogramClearAddress := 0
        measuredCount := 0
        invalidCount := 0
        overflowCount := 0
        bubbleCount := 0
        histogramCount := 0
        clearStatisticsToggle := !s.clearStatisticsToggle }, s.read i a.addr)
  | commit : a.write = true → s.armed = false → s.compensates = false → a.addr = 0x0058 → a.data = 2 →
      s.writtenCount.toNat = taps → s.calibrates = false →
      Outcome s t i a ({ t with
        calibrationValid := true
        calibrationRevision := s.calibrationRevision + 1 }, s.read i a.addr)
  | restart : a.write = true → s.armed = false → s.compensates = false → a.addr = 0x0058 → a.data = 4 →
      (s.read i a.addr).error = 0 →
      Outcome s t i a ({ t with
        calibrationValid := false
        writtenCount := 0 }, s.read i a.addr)

variable {s t : RegisterBank} {i : BankIn} {a : Access}

theorem writeLut_outcome (write : a.write = true) (unarmed : s.armed = false) (idle : s.compensates = false)
    (lut : isLut a.addr = true) : Outcome s t i a (s.writeLut t a) := by
  unfold writeLut
  dsimp only
  split_ifs with refused
  · exact .rejected _ write (by decide)
  · rw [not_or, Nat.not_lt, not_and_or, not_or, not_not, not_not, BitVec.not_lt] at refused
    exact .entry write unarmed idle lut refused.1 fun index => refused.2.resolve_left (absurd · index)

theorem writeControl_outcome (write : a.write = true) (unarmed : s.armed = false) (addr : a.addr = 0x0004) :
    Outcome s t i a (s.writeControl t i a) := by
  unfold writeControl
  split_ifs with refused
  · exact .rejected _ write (by decide)
  · rw [not_or, not_and, not_not] at refused
    refine .control write unarmed addr refused.1 fun enables => ?_
    simpa only [not_or, Bool.not_eq_false, Bool.not_eq_true] using refused.2 enables

theorem writePhaseOffset_outcome (write : a.write = true) (unarmed : s.armed = false) (idle : s.compensates = false)
    (addr : a.addr = 0x000c) : Outcome s t i a (t.writePhaseOffset a) := by
  unfold writePhaseOffset
  split_ifs with refused
  · exact .rejected _ write (by decide)
  · rw [not_or, Int.not_lt, Int.not_lt] at refused
    exact .offset write unarmed idle addr refused.1 refused.2

theorem writeCommand_outcome (write : a.write = true) (unarmed : s.armed = false) (idle : s.compensates = false)
    (addr : a.addr = 0x0058) (answered : (s.read i a.addr).error = 0) :
    Outcome s t i a (s.writeCommand t a (s.read i a.addr)) := by
  unfold writeCommand
  split_ifs with clears commits restarts
  · exact .clear write unarmed idle addr clears.1 clears.2
  · exact .commit write unarmed idle addr commits.1 commits.2.1 commits.2.2
  · exact .restart write unarmed idle addr restarts answered
  · exact .rejected _ write (by decide)

theorem perform_outcome (s t : RegisterBank) (i : BankIn) (a : Access) : Outcome s t i a (s.perform t i a) := by
  unfold perform
  dsimp only
  cases write : a.write with
  | false => exact .read write
  | true =>
    by_cases answered : (s.read i a.addr).error = 0
    · rw [answered, Bool.true_and, if_pos (beq_self_eq_true (0 : BitVec 16))]
      by_cases blocked : (s.armedSync.getLsbD 2 || (s.control.getLsbD 0 && a.addr != 0x0004)) = true
      · rw [if_pos blocked]
        exact .rejected _ write (by decide)
      rw [if_neg blocked]
      rw [Bool.not_eq_true, Bool.or_eq_false_iff, Bool.and_eq_false_iff] at blocked
      obtain ⟨unarmed, interlocked⟩ := blocked
      have idle (addr : a.addr ≠ 0x0004) : s.compensates = false :=
        interlocked.resolve_right fun same => addr (by simpa using same)
      by_cases lut : isLut a.addr = true
      · rw [if_pos lut]
        exact writeLut_outcome write unarmed (idle fun addr => by simp [addr, isLut] at lut) lut
      rw [if_neg lut]
      split
      case h_1 addr => exact writeControl_outcome write unarmed addr
      case h_2 addr => exact writePhaseOffset_outcome write unarmed (idle (by rw [addr]; decide)) addr
      case h_3 addr => exact writeCommand_outcome write unarmed (idle (by rw [addr]; decide)) addr answered
      case h_4 => exact .rejected _ write (by decide)
    · rw [Bool.true_and, if_neg (by simpa using answered)]
      exact .rejected _ write answered

end RegisterBank

/-! ## What a write may change -/

namespace RegisterBank

variable {s t : RegisterBank} {i : BankIn} {a : Access}

theorem read_command (addr : a.addr = 0x0058) : (s.read i a.addr).error = 0 := by
  rw [addr, read]
  cases s.histogramClearing <;> rfl

theorem Outcome.rules {after : RegisterBank × Reply} (outcome : Outcome s t i a after) :
    (s.armed = true → after.1 = t) ∧ (s.compensates = true → a.addr ≠ 0x0004 → after.1 = t) ∧
      (s.armed = true ∨ s.compensates = true → after.1.calibWrEn = t.calibWrEn) ∧
      (s.armed = true ∨ s.compensates = true → after.1.phaseOffset = t.phaseOffset) ∧
      (s.armed = true ∨ s.compensates = true → after.1.calibrationValid = t.calibrationValid) ∧
      (after.2.error ≠ 0 → after.1 = t) := by
  have unlocked {P : Prop} (unarmed : s.armed = false) (idle : s.compensates = false)
      (locked : s.armed = true ∨ s.compensates = true) : P := by
    rw [unarmed, idle] at locked
    simp at locked
  cases outcome with
  | read | rejected => exact ⟨fun _ => rfl, fun _ _ => rfl, fun _ => rfl, fun _ => rfl, fun _ => rfl, fun _ => rfl⟩
  | control _ unarmed addr =>
    exact ⟨fun armed => Bool.noConfusion (unarmed.symm.trans armed), fun _ other => absurd addr other,
      fun _ => rfl, fun _ => rfl, fun _ => rfl, fun refused => absurd rfl refused⟩
  | entry _ unarmed idle | offset _ unarmed idle =>
    exact ⟨fun armed => unlocked unarmed idle (.inl armed), fun on _ => unlocked unarmed idle (.inr on),
      unlocked unarmed idle, unlocked unarmed idle, unlocked unarmed idle, fun refused => absurd rfl refused⟩
  | clear _ unarmed idle addr | commit _ unarmed idle addr | restart _ unarmed idle addr =>
    exact ⟨fun armed => unlocked unarmed idle (.inl armed), fun on _ => unlocked unarmed idle (.inr on),
      unlocked unarmed idle, unlocked unarmed idle, unlocked unarmed idle,
      fun refused => absurd (read_command addr) refused⟩

end RegisterBank

/-! ## The table -/

/-- The table `entries` has been filled from its first entry on, the last one being `previous`. -/
structure Filled (writes : List (BitVec 11 × BitVec 16)) (count : Nat) (entries : BitVec 11 → BitVec 16)
    (previous : BitVec 16) : Prop where
  listed : writes = (List.range count).map fun k => (BitVec.ofNat 11 k, entries (BitVec.ofNat 11 k))
  counted : count ≤ taps
  rising : ∀ j k, j ≤ k → k < count → entries (BitVec.ofNat 11 j) ≤ entries (BitVec.ofNat 11 k)
  bounded : ∀ k < count, (entries (BitVec.ofNat 11 k)).toNat ≤ 600
  last : ∀ k < count, entries (BitVec.ofNat 11 k) ≤ previous

section Filling

variable {writes : List (BitVec 11 × BitVec 16)} {count : Nat} {entries : BitVec 11 → BitVec 16}
  {previous entry : BitVec 16}

theorem filled_restarted (entries : BitVec 11 → BitVec 16) (previous : BitVec 16) : Filled [] 0 entries previous where
  listed := rfl
  counted := Nat.zero_le _
  rising _ _ _ within := absurd within (Nat.not_lt_zero _)
  bounded _ within := absurd within (Nat.not_lt_zero _)
  last _ within := absurd within (Nat.not_lt_zero _)

theorem Filled.next (filled : Filled writes count entries previous) (room : count < taps) (follows : previous ≤ entry)
    (small : entry.toNat ≤ 600) :
    Filled (writes ++ [(BitVec.ofNat 11 count, entry)]) (count + 1)
      (Function.update entries (BitVec.ofNat 11 count) entry) entry := by
  have here : Function.update entries (BitVec.ofNat 11 count) entry (BitVec.ofNat 11 count) = entry :=
    Function.update_self ..
  have before (k : Nat) (within : k < count) :
      Function.update entries (BitVec.ofNat 11 count) entry (BitVec.ofNat 11 k) = entries (BitVec.ofNat 11 k) := by
    apply Function.update_of_ne
    intro same
    have apart := congrArg BitVec.toNat same
    rw [taps] at room
    rw [BitVec.toNat_ofNat, BitVec.toNat_ofNat] at apart
    omega
  -- an entry is one of those before or the new one
  have cases (k : Nat) (within : k < count + 1) : k < count ∨ k = count := Nat.lt_succ_iff_lt_or_eq.mp within
  refine ⟨?_, room, ?_, ?_, ?_⟩
  · rw [List.range_succ, List.map_append, List.map_singleton, here, filled.listed]
    congr 1
    apply List.map_congr_left
    intro k within
    rw [before k (List.mem_range.mp within)]
  · intro j k ordered within
    obtain earlier | rfl := cases k within
    · rw [before j (Nat.lt_of_le_of_lt ordered earlier), before k earlier]
      exact filled.rising j k ordered earlier
    · rw [here]
      obtain earlier | rfl := Nat.lt_or_eq_of_le ordered
      · rw [before j earlier]
        exact BitVec.le_trans (filled.last j earlier) follows
      · rw [here]
        exact BitVec.le_refl _
  · intro k within
    obtain earlier | rfl := cases k within
    · rw [before k earlier]
      exact filled.bounded k earlier
    · rw [here]
      exact small
  · intro k within
    obtain earlier | rfl := cases k within
    · rw [before k earlier]
      exact BitVec.le_trans (filled.last k earlier) follows
    · rw [here]
      exact BitVec.le_refl _

/-- A table that is filled has all its entries in order. -/
theorem Filled.complete (filled : Filled writes taps entries previous) :
    writes = (List.range taps).map (fun k => (BitVec.ofNat 11 k, entries (BitVec.ofNat 11 k))) ∧
      (∀ j k : BitVec 11, j ≤ k → entries j ≤ entries k) ∧ ∀ k, (entries k).toNat ≤ 600 := by
  have named (k : BitVec 11) : BitVec.ofNat 11 k.toNat = k := by rw [BitVec.ofNat_toNat, BitVec.setWidth_eq]
  refine ⟨filled.listed, ?_, ?_⟩
  · intro j k ordered
    have rising := filled.rising j.toNat k.toNat ordered k.isLt
    rwa [named, named] at rising
  · intro k
    have bounded := filled.bounded k.toNat k.isLt
    rwa [named] at bounded

end Filling

namespace RegisterBank

variable {s t : RegisterBank} {i : BankIn} {a : Access} {r : Reply} {table : BitVec 11 → BitVec 16}
  {writes : List (BitVec 11 × BitVec 16)}

/-- The table has been filled as far as `written_count` says, and the interlocks hold. -/
structure Calibrated (writes : List (BitVec 11 × BitVec 16)) (table : BitVec 11 → BitVec 16) (s : RegisterBank) :
    Prop where
  filled : Filled writes s.writtenCount.toNat (s.written table) s.previousEntry
  complete : s.calibrationValid = true → s.writtenCount.toNat = taps ∧ s.calibWrEn = false
  enabled : s.compensates = true → s.calibrationValid = true ∧ s.calibrates = false

theorem reset_calibrated (histogram : BitVec 11 → BitVec 32) : (reset histogram).Calibrated [] table where
  filled := filled_restarted ..
  complete valid := absurd valid Bool.false_ne_true
  enabled enabled := absurd enabled (by decide : ¬(0 : BitVec 3).getLsbD 0 = true)

/-- What an edge without an access leaves alone. -/
theorem measure_calibration (s : RegisterBank) (i : BankIn) : (s.measure i).calibWrEn = false ∧
    (s.measure i).control = s.control ∧ (s.measure i).calibrationValid = s.calibrationValid ∧
      (s.measure i).phaseOffset = s.phaseOffset ∧ (s.measure i).writtenCount = s.writtenCount ∧
        (s.measure i).previousEntry = s.previousEntry := by
  unfold measure
  dsimp only
  split_ifs <;> exact ⟨rfl, rfl, rfl, rfl, rfl, rfl⟩

theorem written_quiet (quiet : s.calibWrEn = false) : s.written table = table := by
  rw [written, quiet]
  rfl

theorem measure_calibrated (calibrated : s.Calibrated writes table) :
    (s.measure i).Calibrated writes (s.written table) := by
  obtain ⟨quiet, control, valid, -, count, previous⟩ := s.measure_calibration i
  refine ⟨?_, ?_, ?_⟩
  · rw [written_quiet quiet, count, previous]
    exact calibrated.filled
  · rw [valid, count]
    exact fun held => ⟨(calibrated.complete held).1, quiet⟩
  · rw [compensates, calibrates, control, valid]
    exact calibrated.enabled

/-- What an accepted write of an entry makes of the writes before. -/
theorem lut_events (write : a.write = true) (lut : isLut a.addr = true) :
    (a.tableEvents ⟨0, a.data⟩).foldl TableEvent.note writes =
      (if lutIndex a.addr = 0 then [] else writes) ++ [(lutIndex a.addr, a.data.extractLsb' 0 16)] := by
  rw [Access.tableEvents, write, lut, if_pos (by rfl), if_pos rfl, List.foldl_append]
  by_cases first : lutIndex a.addr = 0
  · rw [if_pos first, if_pos first]
    rfl
  · rw [if_neg first, if_neg first]
    rfl

theorem other_events (other : isLut a.addr = false) (stays : ¬(a.addr = 0x0058 ∧ a.data = 4)) : a.tableEvents r = [] := by
  rw [Access.tableEvents, other, if_neg Bool.false_ne_true, if_neg stays, ite_self]

/-- The registers of the calibration are those of `t`. -/
theorem Calibrated.congr {u : RegisterBank} (calibrated : t.Calibrated writes table)
    (same : u.control = t.control ∧ u.calibrationValid = t.calibrationValid ∧ u.writtenCount = t.writtenCount ∧
      u.previousEntry = t.previousEntry ∧ u.calibWrEn = t.calibWrEn ∧ u.calibWrAddr = t.calibWrAddr ∧
        u.calibWrData = t.calibWrData) : u.Calibrated writes table := by
  obtain ⟨control, valid, count, previous, enable, address, data⟩ := same
  obtain ⟨filled, complete, enabled⟩ := calibrated
  refine ⟨?_, ?_, ?_⟩
  · rw [written, enable, address, data, count, previous]
    exact filled
  · rw [valid, count, enable]
    exact complete
  · rw [compensates, calibrates, control, valid]
    exact enabled

theorem Calibrated.outcome {after : RegisterBank × Reply} (calibrated : s.Calibrated writes table)
    (outcome : Outcome s (s.measure i) i a after) :
    after.1.Calibrated ((a.tableEvents after.2).foldl TableEvent.note writes) (s.written table) := by
  obtain ⟨quiet, control, valid, -, count, previous⟩ := s.measure_calibration i
  have rests : (s.measure i).Calibrated writes (s.written table) := measure_calibrated calibrated
  cases outcome with
  | read reads =>
    rw [Access.tableEvents, reads]
    exact rests
  | rejected r _ refused =>
    have silent : (r.error == 0) = false := by simpa using refused
    rw [Access.tableEvents, silent, Bool.and_false]
    exact rests
  | entry write _ idle lut small ordered =>
    rw [lut_events write lut]
    have entry : (a.data.extractLsb' 0 16).toNat ≤ 600 := by
      rw [BitVec.extractLsb'_toNat, Nat.shiftRight_zero]
      exact Nat.le_trans (Nat.mod_le _ _) small
    have width : ((lutIndex a.addr).zeroExtend 12 + 1).toNat = (lutIndex a.addr).toNat + 1 := by
      have := (lutIndex a.addr).isLt
      simp
      omega
    have named : BitVec.ofNat 11 (lutIndex a.addr).toNat = lutIndex a.addr := by
      rw [BitVec.ofNat_toNat, BitVec.setWidth_eq]
    -- the first entry is written to a table that is empty again
    have base : ∃ last, last ≤ a.data.extractLsb' 0 16 ∧
        Filled (if lutIndex a.addr = 0 then [] else writes) (lutIndex a.addr).toNat (s.written table) last := by
      by_cases first : lutIndex a.addr = 0
      · rw [if_pos first, first]
        exact ⟨0, Nat.zero_le _, filled_restarted ..⟩
      · obtain ⟨counted, follows⟩ := ordered first
        have count : s.writtenCount.toNat = (lutIndex a.addr).toNat := by
          rw [← counted]
          exact BitVec.toNat_setWidth_of_le (by decide)
        rw [if_neg first, ← count]
        exact ⟨_, follows, calibrated.filled⟩
    obtain ⟨last, follows, filled⟩ := base
    refine ⟨?_, nofun, fun enables => ?_⟩
    · have next := filled.next (lutIndex a.addr).isLt follows entry
      rw [named, ← width] at next
      exact next
    · have enables : s.compensates = true := by rwa [compensates, control] at enables
      exact absurd enables (Bool.eq_false_iff.mp idle)
  | control _ _ addr _ allowed =>
    rw [other_events (by rw [addr]; decide) fun restarts => absurd (addr.symm.trans restarts.1) (by decide)]
    refine ⟨rests.filled, rests.complete, fun enables => ?_⟩
    have enables : a.data.getLsbD 0 = true := by simpa [compensates] using enables
    obtain ⟨held, -, source, -⟩ := allowed enables
    refine ⟨valid.trans held, ?_⟩
    simpa [calibrates] using source
  | offset _ _ _ addr =>
    rw [other_events (by rw [addr]; decide) fun restarts => absurd (addr.symm.trans restarts.1) (by decide)]
    exact rests.congr ⟨rfl, rfl, rfl, rfl, rfl, rfl, rfl⟩
  | clear _ _ _ addr command =>
    rw [other_events (by rw [addr]; decide) fun restarts => absurd (command.symm.trans restarts.2) (by decide)]
    exact rests.congr ⟨rfl, rfl, rfl, rfl, rfl, rfl, rfl⟩
  | commit _ _ _ addr command full source =>
    rw [other_events (by rw [addr]; decide) fun restarts => absurd (command.symm.trans restarts.2) (by decide)]
    refine ⟨rests.filled, fun _ => ⟨(congrArg BitVec.toNat count).trans full, quiet⟩, fun _ => ⟨rfl, ?_⟩⟩
    rw [calibrates, control]
    exact source
  | restart write _ idle addr command answered =>
    have events : a.tableEvents (s.read i a.addr) = [.restarted] := by
      rw [Access.tableEvents, write, answered, addr, command]
      rfl
    rw [events]
    refine ⟨filled_restarted .., nofun, fun enables => ?_⟩
    have enables : s.compensates = true := by rwa [compensates, control] at enables
    exact absurd enables (Bool.eq_false_iff.mp idle)

/-! ## The histogram -/

/-- While the histogram is cleared its first bins are empty already; afterwards the bins add
    up to the count. -/
structure Tallied (s : RegisterBank) : Prop where
  clearing : s.histogramClearing = true →
    (∀ tap < s.histogramClearAddress, s.histogram tap = 0) ∧ s.histogramCount = 0
  tallied : s.histogramClearing = false → ∑ tap, s.histogram tap = s.histogramCount

theorem sum_update {Bin Count : Type} [Fintype Bin] [DecidableEq Bin] [AddCommGroup Count] (bins : Bin → Count)
    (bin : Bin) (count : Count) :
    ∑ b, Function.update bins bin count b = ∑ b, bins b + (count - bins bin) := by
  have others := Finset.sum_erase_add Finset.univ bins (Finset.mem_univ bin)
  rw [Finset.sum_update_of_mem (Finset.mem_univ bin), Finset.sdiff_singleton_eq_erase, ← others]
  abel

theorem sum_ofNat {Bin : Type} [Fintype Bin] {w : Nat} (bins : Bin → BitVec w) :
    BitVec.ofNat w (∑ b, (bins b).toNat) = ∑ b, bins b := by
  rw [← BitVec.natCast_eq_ofNat, Nat.cast_sum]
  apply Finset.sum_congr rfl
  intro b _
  rw [BitVec.natCast_eq_ofNat, BitVec.ofNat_toNat, BitVec.setWidth_eq]

theorem reset_tallied (histogram : BitVec 11 → BitVec 32) : (reset histogram).Tallied where
  clearing _ := ⟨fun tap below => absurd below (Nat.not_lt_zero tap.toNat), rfl⟩
  tallied settled := absurd settled.symm Bool.false_ne_true

/-- Only the histogram and its registers matter. -/
theorem Tallied.congr {u : RegisterBank} (tallied : t.Tallied)
    (same : u.histogramClearing = t.histogramClearing ∧ u.histogramClearAddress = t.histogramClearAddress ∧
      u.histogramCount = t.histogramCount ∧ u.histogram = t.histogram) : u.Tallied := by
  obtain ⟨clearing, address, count, histogram⟩ := same
  refine ⟨?_, ?_⟩
  · rw [clearing, address, count, histogram]
    exact tallied.clearing
  · rw [clearing, count, histogram]
    exact tallied.tallied

theorem measure_histogram (s : RegisterBank) (i : BankIn) :
    (s.measure i).histogramClearing = (s.histogramClearing && s.histogramClearAddress.toNat != taps - 1) ∧
      (s.measure i).histogramClearAddress =
        (if s.histogramClearing && s.histogramClearAddress.toNat != taps - 1 then s.histogramClearAddress + 1
          else s.histogramClearAddress) ∧
      (s.measure i).histogramCount =
        (if i.eventValid && s.control.getLsbD 1 && !s.histogramClearing && i.eventGood then s.histogramCount + 1
          else s.histogramCount) ∧
      (s.measure i).histogram = s.stepHistogram i := by
  unfold measure
  cases i.eventValid with
  | true => exact ⟨rfl, rfl, rfl, rfl⟩
  | false => exact ⟨rfl, rfl, rfl, rfl⟩

theorem measure_tallied (tallied : s.Tallied) : (s.measure i).Tallied := by
  obtain ⟨clears, address, count, bins⟩ := s.measure_histogram i
  cases clearing : s.histogramClearing with
  | true =>
    obtain ⟨empty, none⟩ := tallied.clearing clearing
    rw [stepHistogram, clearing, if_pos rfl] at bins
    rw [clearing, Bool.true_and] at clears address
    rw [clearing, Bool.not_true, Bool.and_false, Bool.false_and, if_neg Bool.false_ne_true, none] at count
    -- the bins up to the address are empty after the edge
    have cleared (tap : BitVec 11) (within : tap ≤ s.histogramClearAddress) : (s.measure i).histogram tap = 0 := by
      rw [bins]
      by_cases here : tap = s.histogramClearAddress
      · rw [here, Function.update_self]
      · rw [Function.update_of_ne here]
        exact empty tap (BitVec.lt_of_le_ne within here)
    cases last : s.histogramClearAddress.toNat != taps - 1 with
    | true =>
      rw [last, if_pos rfl] at address
      rw [bne_iff_ne] at last
      refine ⟨fun _ => ⟨fun tap below => cleared tap ?_, count⟩, fun settled => ?_⟩
      · have bound := s.histogramClearAddress.isLt
        have next : (s.histogramClearAddress + 1).toNat = s.histogramClearAddress.toNat + 1 := by
          rw [taps] at last
          rw [BitVec.toNat_add]
          change (s.histogramClearAddress.toNat + 1) % 2 ^ 11 = _
          omega
        rw [address, BitVec.lt_def, next] at below
        exact Nat.le_of_lt_succ below
      · exact absurd (clears.symm.trans settled) (by simpa using last)
    | false =>
      have everywhere (tap : BitVec 11) : tap ≤ s.histogramClearAddress := by
        have bound := tap.isLt
        rw [bne_eq_false_iff_eq, taps] at last
        rw [BitVec.le_def]
        omega
      refine ⟨fun unsettled => ?_, fun _ => ?_⟩
      · rw [clears, last] at unsettled
        contradiction
      · rw [count]
        exact Finset.sum_eq_zero fun tap _ => cleared tap (everywhere tap)
  | false =>
    have sum := tallied.tallied clearing
    rw [clearing, Bool.not_false, Bool.and_true] at count
    rw [stepHistogram, clearing, if_neg Bool.false_ne_true] at bins
    rw [clearing, Bool.false_and] at clears
    refine ⟨fun unsettled => absurd (clears.symm.trans unsettled) Bool.false_ne_true, fun _ => ?_⟩
    rw [count, bins]
    cases i.eventValid && s.control.getLsbD 1 && i.eventGood with
    | true =>
      rw [if_pos rfl, if_pos rfl, sum_update, sum, add_sub_cancel_left]
    | false =>
      rw [if_neg Bool.false_ne_true, if_neg Bool.false_ne_true, sum]

theorem Tallied.outcome {after : RegisterBank × Reply} (tallied : s.Tallied)
    (outcome : Outcome s (s.measure i) i a after) : after.1.Tallied := by
  have rests : (s.measure i).Tallied := measure_tallied tallied
  cases outcome with
  | clear => exact ⟨fun _ => ⟨fun tap below => absurd below (Nat.not_lt_zero tap.toNat), rfl⟩, nofun⟩
  | read | rejected => exact rests
  | entry | control | offset | commit | restart => exact rests.congr ⟨rfl, rfl, rfl, rfl⟩

end RegisterBank

/-! ## Runs -/

namespace CalibratedRegisters

variable {s : CalibratedRegisters} {writes : List (BitVec 11 × BitVec 16)}

/-- What a clock edge with a write may change. -/
structure WriteRules (s : CalibratedRegisters) (i : SideIn) : Prop where
  armed : s.bank.armed = true → (s.step (.sample i)).bank = s.bank.measure i.bank
  compensating : s.bank.compensates = true → s.service.side.request.back.addr ≠ 0x0004 →
    (s.step (.sample i)).bank = s.bank.measure i.bank
  guarded : s.bank.armed = true ∨ s.bank.compensates = true →
    (s.step (.sample i)).bank.calibWrEn = false ∧
      (s.step (.sample i)).bank.phaseOffset = s.bank.phaseOffset ∧
        (s.step (.sample i)).bank.calibrationValid = s.bank.calibrationValid
  rejected : (s.step (.sample i)).service.side.responseHold.error ≠ 0 →
    (s.step (.sample i)).bank = s.bank.measure i.bank

structure Safe (writes : List (BitVec 11 × BitVec 16)) (s : CalibratedRegisters) : Prop where
  calibrated : s.bank.Calibrated writes s.table
  tallied : s.bank.Tallied
  /-- in reset the registers are those of a reset -/
  inReset : s.service.alive = false → s.bank = .reset s.bank.histogram

theorem bank_sample (alive : s.service.alive = true) (i : SideIn) : (s.step (.sample i)).bank =
    if s.service.side.performs then (s.service.side.performed i).1 else s.bank.measure i.bank := by
  change (if s.service.alive then s.service.side.step i s.service.port.requestToggle s.service.port.requestHold
    else s.service.side.hold i).bank = _
  rw [alive]
  rfl

theorem bank_hold (held : s.service.alive = false) (i : SideIn) : (s.step (.sample i)).bank =
    { s.bank with histogram := s.bank.stepHistogram i.bank } := by
  change (if s.service.alive then s.service.side.step i s.service.port.requestToggle s.service.port.requestHold
    else s.service.side.hold i).bank = _
  rw [held]
  rfl

theorem Safe.step (safe : s.Safe writes) (tick : RegisterTick) :
    (s.step tick).Safe ((s.tableEvents tick).foldl TableEvent.note writes) := by
  cases tick with
  | ddr i => exact ⟨safe.calibrated, safe.tallied, safe.inReset⟩
  | ddrReset => exact ⟨safe.calibrated, safe.tallied, safe.inReset⟩
  | sampleReset asserted =>
    cases asserted with
    | true => exact ⟨RegisterBank.reset_calibrated .., RegisterBank.reset_tallied .., fun _ => rfl⟩
    | false => exact ⟨safe.calibrated, safe.tallied, nofun⟩
  | sample i =>
    cases alive : s.service.alive with
    | true =>
      have table : (s.step (.sample i)).table = s.bank.written s.table := if_pos alive
      have bank := bank_sample alive i
      have lives : (s.step (.sample i)).service.alive = false → (s.step (.sample i)).bank =
          .reset (s.step (.sample i)).bank.histogram := fun held => absurd (alive.symm.trans held) (by decide)
      rw [tableEvents, alive, Bool.true_and]
      cases performs : s.service.side.performs with
      | true =>
        rw [performs, if_pos rfl] at bank
        have outcome := RegisterBank.perform_outcome s.bank (s.bank.measure i.bank) i.bank s.service.side.request.back
        have calibrated := safe.calibrated.outcome outcome
        refine ⟨?_, ?_, lives⟩
        · rw [table, bank]
          exact calibrated
        · rw [bank]
          exact safe.tallied.outcome outcome
      | false =>
        rw [performs, if_neg Bool.false_ne_true] at bank
        refine ⟨?_, ?_, lives⟩
        · rw [table, bank]
          exact RegisterBank.measure_calibrated safe.calibrated
        · rw [bank]
          exact RegisterBank.measure_tallied safe.tallied
    | false =>
      have table : (s.step (.sample i)).table = s.table := if_neg (by rw [alive]; exact Bool.false_ne_true)
      have bank := bank_hold alive i
      have reset := safe.inReset alive
      rw [tableEvents, alive, Bool.false_and, if_neg Bool.false_ne_true]
      refine ⟨?_, ?_, fun _ => ?_⟩
      · rw [table, bank]
        exact safe.calibrated.congr ⟨rfl, rfl, rfl, rfl, rfl, rfl, rfl⟩
      · have tallied := RegisterBank.reset_tallied ((RegisterBank.reset s.bank.histogram).stepHistogram i.bank)
        rw [bank, reset]
        exact tallied.congr ⟨rfl, rfl, rfl, rfl⟩
      · rw [bank, reset]
        rfl

theorem writeRules (alive : s.service.alive = true) (performs : s.service.side.performs = true) (i : SideIn) :
    s.WriteRules i := by
  obtain ⟨quiet, -, valid, offset, -, -⟩ := s.bank.measure_calibration i.bank
  have outcome := RegisterBank.perform_outcome s.bank (s.bank.measure i.bank) i.bank s.service.side.request.back
  have bank := bank_sample alive i
  rw [performs, if_pos rfl] at bank
  have reply : (s.step (.sample i)).service.side.responseHold = (s.service.side.performed i).2 := by
    change (if s.service.alive then s.service.side.step i s.service.port.requestToggle s.service.port.requestHold
      else s.service.side.hold i).responseHold = _
    rw [alive]
    exact if_pos performs
  obtain ⟨armed, compensating, enable, offset', valid', rejected⟩ := outcome.rules
  refine ⟨?_, ?_, ?_, ?_⟩
  · rw [bank]
    exact armed
  · rw [bank]
    exact compensating
  · rw [bank]
    intro locked
    exact ⟨(enable locked).trans quiet, (offset' locked).trans offset, (valid' locked).trans valid⟩
  · rw [bank, reply]
    exact rejected

theorem Safe.run (histogram : BitVec 11 → BitVec 32) (table : BitVec 11 → BitVec 16) (ticks : List RegisterTick) :
    ((calibratedRegisters histogram table).run (.powerUp histogram table) ticks).Safe
      (sinceRestart ((calibratedRegisters histogram table).log tableEvents (.powerUp histogram table) ticks)) := by
  have start : (powerUp histogram table).Safe [] :=
    ⟨RegisterBank.reset_calibrated .., RegisterBank.reset_tallied .., fun _ => rfl⟩
  refine (calibratedRegisters histogram table).run_induction (C := fun _ _ => True)
    (P := fun ticks s => s.Safe (sinceRestart ((calibratedRegisters histogram table).log tableEvents _ ticks)))
    start ?_ ticks ((calibratedRegisters histogram table).along_of_forall (fun _ _ => trivial) _ _)
  intro ticks tick _ safe _
  rw [Machine.log_append, sinceRestart, List.foldl_append, Machine.log_cons, Machine.log_nil, List.append_nil]
  exact safe.step tick

end CalibratedRegisters

open CalibratedRegisters

/-- After any accesses, measurements and resets: a valid table has been written from its first
    entry to its last since it was restarted, is not falling and at most 600; compensation is on
    with a valid table and without the calibration source only; a write changes what it may; and
    the bins add up to the count unless they are being cleared. -/
theorem calibration_safe (histogram : BitVec 11 → BitVec 32) (table : BitVec 11 → BitVec 16)
    (ticks : List RegisterTick) :
    let registers := calibratedRegisters histogram table
    let s := registers.run (.powerUp histogram table) ticks
    let writes := sinceRestart (registers.log CalibratedRegisters.tableEvents (.powerUp histogram table) ticks)
    (s.bank.calibrationValid = true →
      writes = (List.range taps).map (fun k => (BitVec.ofNat 11 k, s.table (BitVec.ofNat 11 k))) ∧
        (∀ j k : BitVec 11, j ≤ k → s.table j ≤ s.table k) ∧ ∀ k, (s.table k).toNat ≤ 600) ∧
      (s.bank.compensates = true → s.bank.calibrationValid = true ∧ s.bank.calibrates = false) ∧
      (∀ i, s.service.alive = true → s.service.side.performs = true →
        s.service.side.request.back.write = true → s.WriteRules i) ∧
      (s.bank.histogramClearing = false →
        (∑ tap, (s.bank.histogram tap).toNat) % 2 ^ 32 = s.bank.histogramCount.toNat) := by
  intro registers s writes
  have safe : s.Safe writes := Safe.run histogram table ticks
  refine ⟨fun valid => ?_, safe.calibrated.enabled, fun i alive performs _ => writeRules alive performs i,
    fun settled => ?_⟩
  · obtain ⟨full, quiet⟩ := safe.calibrated.complete valid
    have filled := safe.calibrated.filled
    rw [full, RegisterBank.written_quiet quiet] at filled
    exact filled.complete
  · have sum := congrArg BitVec.toNat (safe.tallied.tallied settled)
    rwa [← RegisterBank.sum_ofNat, BitVec.toNat_ofNat] at sum

end Xczu47dr.Tdc
