import Mathlib.Tactic.Common
import Xczu47dr.Clocked.Machine

/-! # AXI-Lite transactions

`rfdc_axil_transaction`: one 32-bit read or write at a time, given up when no
response has come after `TIMEOUT_CYCLES`.  (`aw_done` and `w_done` are written
and never read, and are left out.)
-/

namespace Xczu47dr.Rfdc

/-- What the owner of `rfdc_axil_transaction` drives: `axi_start` to
    `axi_write_strobe`. -/
structure AxilCommand where
  start : Bool
  write : Bool
  address : BitVec 18
  writeData : BitVec 32
  writeStrobe : BitVec 4
  deriving DecidableEq

/-- What the AXI-Lite slave answers in one cycle. -/
structure AxilIn where
  awready : Bool
  wready : Bool
  bresp : BitVec 2
  bvalid : Bool
  arready : Bool
  rdata : BitVec 32
  rresp : BitVec 2
  rvalid : Bool
  deriving Inhabited

/-- The registers of `rfdc_axil_transaction`. -/
structure AxilTransaction where
  busy : Bool
  done : Bool
  error : BitVec 3
  response : BitVec 2
  readData : BitVec 32
  timeoutCount : Nat
  awaddr : BitVec 18
  awvalid : Bool
  wdata : BitVec 32
  wstrb : BitVec 4
  wvalid : Bool
  bready : Bool
  araddr : BitVec 18
  arvalid : Bool
  rready : Bool

namespace AxilTransaction

def reset : AxilTransaction where
  busy := false
  done := false
  error := 0
  response := 0
  readData := 0
  timeoutCount := 0
  awaddr := 0
  awvalid := false
  wdata := 0
  wstrb := 0
  wvalid := false
  bready := false
  araddr := 0
  arvalid := false
  rready := false

variable (timeoutCycles : Nat) (s : AxilTransaction) (c : AxilCommand) (i : AxilIn)

/-- `start && !busy`: the addresses and the data go out. -/
def begin : AxilTransaction :=
  let t := { s with busy := true, done := false, error := 0, response := 0, timeoutCount := 0 }
  if c.write then
    { t with
      awaddr := c.address
      awvalid := true
      wdata := c.writeData
      wstrb := c.writeStrobe
      wvalid := true
      bready := true }
  else { t with araddr := c.address, arvalid := true, rready := true }

def handshake : AxilTransaction :=
  { s with
    done := false
    timeoutCount := (s.timeoutCount + 1) % 2 ^ 32
    awvalid := s.awvalid && !i.awready
    wvalid := s.wvalid && !i.wready
    arvalid := s.arvalid && !i.arready }

/-- A busy cycle: a write response, a read response, the timeout, or none of these. -/
def wait : AxilTransaction :=
  let t := s.handshake i
  if i.bvalid && s.bready then
    { t with
      response := i.bresp
      error := if i.bresp = 0 then 0 else 1
      bready := false
      busy := false
      done := true }
  else if i.rvalid && s.rready then
    { t with
      readData := i.rdata
      response := i.rresp
      error := if i.rresp = 0 then 0 else 2
      rready := false
      busy := false
      done := true }
  else if timeoutCycles - 1 ≤ s.timeoutCount then
    { t with
      error := 3
      response := 0
      awvalid := false
      wvalid := false
      bready := false
      arvalid := false
      rready := false
      busy := false
      done := true }
  else t

/-- One clock edge of `rfdc_axil_transaction`. -/
def step : AxilTransaction :=
  if c.start && !s.busy then s.begin c
  else if s.busy then s.wait timeoutCycles i
  else { s with done := false }

/-! ## A transaction ends -/

variable {timeoutCycles} {s} {c}

/-- Nothing is asked for and nothing goes on. -/
structure Quiet (c : AxilCommand) (s : AxilTransaction) : Prop where
  start : c.start = false
  busy : s.busy = false
  done : s.done = false

/-- A transaction is asked for, goes on or is over. -/
inductive Open (timeoutCycles : Nat) (c : AxilCommand) (s : AxilTransaction) : Prop
  | asked : c.start = true → s.busy = false → s.done = false → Open timeoutCycles c s
  | running : c.start = false → s.busy = true → s.done = false → s.timeoutCount < timeoutCycles →
      Open timeoutCycles c s
  | ended : c.start = false → s.busy = false → s.done = true → Open timeoutCycles c s

/-- A bound on the cycles the transaction still takes. -/
def left (timeoutCycles : Nat) (c : AxilCommand) (s : AxilTransaction) : Nat :=
  if c.start then timeoutCycles + 1 else if s.busy then timeoutCycles - s.timeoutCount else 0

variable (timeoutCycles) in
theorem Quiet.step (quiet : Quiet c s) : (s.step timeoutCycles c i).busy = false ∧
    (s.step timeoutCycles c i).done = false := by
  have rests : s.step timeoutCycles c i = { s with done := false } := by
    simp [AxilTransaction.step, quiet.start, quiet.busy]
  rw [rests]
  exact ⟨quiet.busy, rfl⟩

theorem Open.step_over (held : Open timeoutCycles c s) (done : s.done = true) :
    (s.step timeoutCycles c i).busy = false ∧ (s.step timeoutCycles c i).done = false := by
  cases held with
  | asked _ _ unfinished | running _ _ unfinished _ => exact absurd done (by simp [unfinished])
  | ended start busy _ =>
    have rests : s.step timeoutCycles c i = { s with done := false } := by
      simp [AxilTransaction.step, start, busy]
    rw [rests]
    exact ⟨busy, rfl⟩

variable (timeoutCycles) in
/-- A busy cycle ends the transaction, or counts up. -/
theorem wait_cases (busy : s.busy = true) : (s.wait timeoutCycles i).busy = false ∧
    (s.wait timeoutCycles i).done = true ∨
      (s.wait timeoutCycles i).busy = true ∧ (s.wait timeoutCycles i).done = false ∧
        (s.wait timeoutCycles i).timeoutCount = (s.timeoutCount + 1) % 2 ^ 32 ∧
          s.timeoutCount < timeoutCycles - 1 := by
  unfold wait
  split
  · exact Or.inl ⟨rfl, rfl⟩
  · split
    · exact Or.inl ⟨rfl, rfl⟩
    · split
      · exact Or.inl ⟨rfl, rfl⟩
      case isFalse early => exact Or.inr ⟨busy, rfl, rfl, Nat.lt_of_not_le early⟩

/-- Every cycle brings an open transaction nearer to its end. -/
theorem Open.step (held : Open timeoutCycles c s) (unfinished : s.done = false)
    (timeout_pos : 0 < timeoutCycles) (timeout_lt : timeoutCycles < 2 ^ 31) {d : AxilCommand}
    (idle : d.start = false) : Open timeoutCycles d (s.step timeoutCycles c i) ∧
      left timeoutCycles d (s.step timeoutCycles c i) < left timeoutCycles c s := by
  cases held with
  | asked start free _ =>
    have begins : s.step timeoutCycles c i = s.begin c := by simp [AxilTransaction.step, start, free]
    have busy : (s.begin c).busy = true := by unfold begin; split <;> rfl
    have unfinished : (s.begin c).done = false := by unfold begin; split <;> rfl
    have count : (s.begin c).timeoutCount = 0 := by unfold begin; split <;> rfl
    rw [begins]
    refine ⟨.running idle busy unfinished (by omega), ?_⟩
    simp [left, start, idle, busy, count]
  | running start busy _ early =>
    have waits : s.step timeoutCycles c i = s.wait timeoutCycles i := by simp [AxilTransaction.step, busy]
    have before : left timeoutCycles c s = timeoutCycles - s.timeoutCount := by simp [left, start, busy]
    rw [waits, before]
    rcases wait_cases timeoutCycles i busy with
      ⟨free, done⟩ | ⟨busy, unfinished, count, before⟩
    · refine ⟨.ended idle free done, ?_⟩
      simp only [left, idle, free, Bool.false_eq_true, if_false]
      omega
    · rw [Nat.mod_eq_of_lt (by omega)] at count
      refine ⟨.running idle busy unfinished (by omega), ?_⟩
      simp only [left, idle, busy, Bool.false_eq_true, if_false, if_true]
      omega
  | ended _ _ done => exact absurd done (by simp [unfinished])

end AxilTransaction

end Xczu47dr.Rfdc
