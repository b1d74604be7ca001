import Mathlib.Logic.Function.Basic
import Xczu47dr.Clocked.Indices

/-! # The TDC registers

The sample-clock half of `tdc_register_service` without its handshake: the
registers of the calibration and of the measurements, what a read returns and
what a write does.
-/

namespace Xczu47dr.Tdc

/-- `TAPS` -/
def taps : Nat := 2048

/-- `{reg_write, reg_addr, reg_wdata}` -/
structure Access where
  write : Bool
  addr : BitVec 16
  data : BitVec 32
  deriving DecidableEq

/-- `{error, rdata}` -/
structure Reply where
  error : BitVec 16
  data : BitVec 32
  deriving DecidableEq

/-- What the registers sample at one edge of the sample clock. -/
structure BankIn where
  armedDac : Bool
  referenceReady : Bool
  monitorToggle : Bool
  monitorData : BitVec 256
  eventValid : Bool
  eventGood : Bool
  eventOverflow : Bool
  eventBubble : Bool
  eventEpoch : BitVec 32
  eventPhase : BitVec 11
  eventTap : BitVec 11
  /-- the calibration table at `calib_rd_addr` -/
  calibRdData : BitVec 16
  deriving Inhabited

structure RegisterBank where
  armedSync : BitVec 3
  monitorSync : BitVec 3
  monitorMeta : BitVec 256
  monitorSampled : BitVec 256
  monitorSnapshot : BitVec 256
  monitorSeen : Bool
  control : BitVec 3
  calibrationValid : Bool
  phaseOffset : BitVec 16
  clearStatisticsToggle : Bool
  writtenCount : BitVec 12
  previousEntry : BitVec 16
  calibrationRevision : BitVec 32
  calibWrEn : Bool
  calibWrAddr : BitVec 11
  calibWrData : BitVec 16
  histogramClearing : Bool
  histogramClearAddress : BitVec 11
  measuredCount : BitVec 32
  invalidCount : BitVec 32
  overflowCount : BitVec 32
  bubbleCount : BitVec 32
  histogramCount : BitVec 32
  lastEpoch : BitVec 32
  lastPhase : BitVec 32
  lastRaw : BitVec 32
  histogram : BitVec 11 → BitVec 32

namespace RegisterBank

/-- The registers in reset; the histogram memory has none. -/
def reset (histogram : BitVec 11 → BitVec 32) : RegisterBank where
  armedSync := 0
  monitorSync := 0
  monitorMeta := 0
  monitorSampled := 0
  monitorSnapshot := 0
  monitorSeen := false
  control := 0
  calibrationValid := false
  phaseOffset := 0
  clearStatisticsToggle := false
  writtenCount := 0
  previousEntry := 0
  calibrationRevision := 0
  calibWrEn := false
  calibWrAddr := 0
  calibWrData := 0
  histogramClearing := true
  histogramClearAddress := 0
  measuredCount := 0
  invalidCount := 0
  overflowCount := 0
  bubbleCount := 0
  histogramCount := 0
  lastEpoch := 0
  lastPhase := 0
  lastRaw := 0
  histogram := histogram

variable (s t : RegisterBank) (i : BankIn) (a : Access)

/-! ## Reading -/

/-- The addresses of the calibration table. -/
def isLut (addr : BitVec 16) : Bool := 0x1000 ≤ addr.toNat && addr.toNat < 0x1000 + taps * 4

def isHistogram (addr : BitVec 16) : Bool := 0x4000 ≤ addr.toNat && addr.toNat < 0x4000 + taps * 4

/-- `lut_index` -/
def lutIndex (addr : BitVec 16) : BitVec 11 := (addr - 0x1000).extractLsb' 2 11

def statusWord : BitVec 32 :=
  0#26 ++ BitVec.ofBool (s.armedSync.getLsbD 2) ++ BitVec.ofBool s.histogramClearing ++
    BitVec.ofBool (s.control.getLsbD 1) ++ BitVec.ofBool (s.control.getLsbD 0) ++
    BitVec.ofBool s.calibrationValid ++ BitVec.ofBool i.referenceReady

/-- `{access_error, read_value}` of the addresses outside the two tables. -/
def readRegister (addr : BitVec 16) : Reply :=
  match addr with
  | 0x0000#16 => ⟨0, 0x54444301⟩
  | 0x0004#16 => ⟨0, s.control.zeroExtend 32⟩
  | 0x0008#16 => ⟨0, s.statusWord i⟩
  | 0x000c#16 => ⟨0, s.phaseOffset.signExtend 32⟩
  | 0x0010#16 => ⟨0, s.measuredCount⟩
  | 0x0014#16 => ⟨0, s.invalidCount⟩
  | 0x0018#16 => ⟨0, s.overflowCount⟩
  | 0x001c#16 => ⟨0, s.bubbleCount⟩
  | 0x0020#16 => ⟨0, s.lastPhase⟩
  | 0x0024#16 => ⟨0, s.lastRaw⟩
  | 0x0028#16 => ⟨0, s.lastEpoch⟩
  | 0x002c#16 => ⟨0, s.histogramCount⟩
  | 0x0030#16 => ⟨0, s.monitorSnapshot.extractLsb' 0 32⟩
  | 0x0034#16 => ⟨0, s.monitorSnapshot.extractLsb' 32 32⟩
  | 0x0038#16 => ⟨0, s.monitorSnapshot.extractLsb' 64 32⟩
  | 0x003c#16 => ⟨0, s.monitorSnapshot.extractLsb' 96 32⟩
  | 0x0040#16 => ⟨0, s.monitorSnapshot.extractLsb' 128 32⟩
  | 0x0044#16 => ⟨0, s.monitorSnapshot.extractLsb' 160 32⟩
  | 0x0048#16 => ⟨0, s.monitorSnapshot.extractLsb' 192 32⟩
  | 0x004c#16 => ⟨0, s.monitorSnapshot.extractLsb' 224 32⟩
  | 0x0050#16 => ⟨0, s.writtenCount.zeroExtend 32⟩
  | 0x0054#16 => ⟨0, s.calibrationRevision⟩
  | 0x0058#16 => ⟨0, 0⟩
  | 0x005c#16 => ⟨0, BitVec.ofNat 16 taps ++ 16#8 ++ 64#8⟩
  | _ => ⟨3, 0⟩

/-- `{access_error, read_value}` -/
def read (addr : BitVec 16) : Reply :=
  let r : Reply :=
    if addr.extractLsb' 0 2 ≠ 0 then ⟨3, 0⟩
    else if isLut addr then ⟨0, i.calibRdData.zeroExtend 32⟩
    else if isHistogram addr then ⟨0, s.histogram (addr.extractLsb' 2 11)⟩
    else s.readRegister i addr
  if s.histogramClearing && isHistogram addr then { r with error := 4 } else r

/-! ## Writing

A write reads the registers `s` of the cycle before and updates `t`, what the
cycle has made of them so far. -/

/-- A write to the calibration table, in the order of its entries and not falling. -/
def writeLut : RegisterBank × Reply :=
  let index := lutIndex a.addr
  let entry := a.data.extractLsb' 0 16
  if 600 < a.data.toNat ∨ (index ≠ 0 ∧ (index.zeroExtend 12 ≠ s.writtenCount ∨ entry < s.previousEntry)) then
    (t, ⟨3, 0⟩)
  else
    ({ t with
        calibWrEn := true
        calibWrAddr := index
        calibWrData := entry
        calibrationValid := false
        previousEntry := entry
        writtenCount := index.zeroExtend 12 + 1 }, ⟨0, a.data⟩)

def writeControl : RegisterBank × Reply :=
  if a.data.extractLsb' 3 29 ≠ 0 ∨ (a.data.getLsbD 0 = true ∧
      (s.calibrationValid = false ∨ i.referenceReady = false ∨ a.data.getLsbD 1 = true ∨
        s.histogramClearing = true)) then
    (t, ⟨3, 0⟩)
  else ({ t with control := a.data.extractLsb' 0 3 }, ⟨0, a.data⟩)

def writePhaseOffset : RegisterBank × Reply :=
  if a.data.toInt < -1999 ∨ 1999 < a.data.toInt then (t, ⟨3, 0⟩)
  else ({ t with phaseOffset := a.data.extractLsb' 0 16 }, ⟨0, a.data⟩)

/-- The command register: clear the statistics, take the table as valid, start the table. -/
def writeCommand (r : Reply) : RegisterBank × Reply :=
  if a.data = 1 ∧ s.histogramClearing = false then
    ({ t with
        histogramClearing := true
        histogramClearAddress := 0
        measuredCount := 0
        invalidCount := 0
        overflowCount := 0
        bubbleCount := 0
        histogramCount := 0
        clearStatisticsToggle := !s.clearStatisticsToggle }, r)
  else if a.data = 2 ∧ s.writtenCount.toNat = taps ∧ s.control.getLsbD 1 = false then
    ({ t with
        calibrationValid := true
        calibrationRevision := s.calibrationRevision + 1 }, r)
  else if a.data = 4 then
    ({ t with
        calibrationValid := false
        writtenCount := 0 }, r)
  else (t, ⟨3, 0⟩)

/-- One access, with the registers and the reply it leaves. -/
def perform : RegisterBank × Reply :=
  let r := s.read i a.addr
  if a.write && r.error == 0 then
    if s.armedSync.getLsbD 2 || (s.control.getLsbD 0 && a.addr != 0x0004) then (t, ⟨4, 0⟩)
    else if isLut a.addr then s.writeLut t a
    else
      match a.addr with
      | 0x0004#16 => s.writeControl t i a
      | 0x000c#16 => t.writePhaseOffset a
      | 0x0058#16 => s.writeCommand t a r
      | _ => (t, ⟨3, 0⟩)
  else (t, r)

/-! ## One clock edge -/

/-- The histogram memory, which no reset reaches. -/
def stepHistogram : BitVec 11 → BitVec 32 :=
  if s.histogramClearing then Function.update s.histogram s.histogramClearAddress 0
  else if i.eventValid && s.control.getLsbD 1 && i.eventGood then
    Function.update s.histogram i.eventTap (s.histogram i.eventTap + 1)
  else s.histogram

def measure : RegisterBank :=
  let t := { s with
    armedSync := s.armedSync.shiftConcat i.armedDac
    monitorSync := s.monitorSync.shiftConcat i.monitorToggle
    monitorMeta := i.monitorData
    monitorSampled := s.monitorMeta
    monitorSeen := s.monitorSync.getLsbD 2
    monitorSnapshot := if s.monitorSync.getLsbD 2 != s.monitorSeen then s.monitorSampled else s.monitorSnapshot
    calibWrEn := false
    histogramClearing := s.histogramClearing && s.histogramClearAddress.toNat != taps - 1
    histogramClearAddress :=
      if s.histogramClearing && s.histogramClearAddress.toNat != taps - 1 then s.histogramClearAddress + 1
      else s.histogramClearAddress
    histogram := s.stepHistogram i }
  if i.eventValid then
    { t with
      measuredCount := s.measuredCount + 1
      lastPhase := i.eventPhase.zeroExtend 32
      lastEpoch := i.eventEpoch
      lastRaw := 0#13 ++ BitVec.ofBool i.eventBubble ++ BitVec.ofBool i.eventOverflow ++
        BitVec.ofBool i.eventGood ++ 0#5 ++ i.eventTap
      invalidCount := if i.eventGood then s.invalidCount else s.invalidCount + 1
      overflowCount := if i.eventOverflow then s.overflowCount + 1 else s.overflowCount
      bubbleCount := if i.eventBubble then s.bubbleCount + 1 else s.bubbleCount
      histogramCount :=
        if s.control.getLsbD 1 && !s.histogramClearing && i.eventGood then s.histogramCount + 1
        else s.histogramCount }
  else t

end RegisterBank

end Xczu47dr.Tdc
