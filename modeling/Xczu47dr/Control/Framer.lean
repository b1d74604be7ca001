import Xczu47dr.Clocked.Machine

/-! # The RFCTRL2 framer

`udp_rvctrl_framer` recognises the RFCTRL2 magic in the UDP word stream, strips it
and re-frames the words behind it for `pl_riscv_control_v1`.  The output is
registered and has no ready.
-/

namespace Xczu47dr.Control

/-- The UDP payload stream in one cycle. -/
structure UdpIn where
  tvalid : Bool
  tdata : BitVec 64
  tlast : Bool

/-- `RFCTRL2_MAGIC`. -/
def rfctrl2Magic : BitVec 64 := 0x00324C5254434652

/-- `RVCTRL_PROTOCOL_RF2`. -/
def rvctrlProtocolRf2 : Nat := 2

inductive FramerState
  | idle
  | hdr0
  | hdr1
  | emitHdr1
  | payload
  | drop
  deriving DecidableEq

/-- The framed stream in one cycle. -/
structure RvctrlWord where
  tdata : BitVec 64
  tfirst : Bool
  tlast : Bool
  wordCount : Nat
  protocol : Nat
  deriving DecidableEq, Inhabited

/-- The registers of `udp_rvctrl_framer`. -/
structure Framer where
  state : FramerState
  rvctrlValid : Bool
  rvctrl : RvctrlWord
  hdr0Word : BitVec 64
  hdr1Word : BitVec 64
  skidWord : BitVec 64
  skidValid : Bool
  payloadWordsLeft : Nat
  wordCount : Nat
  nonzero : Bool
  moreThanOne : Bool

/-- `payload_bytes`: the upper half of the second header word. -/
def payloadBytes (hdr1 : BitVec 64) : Nat := (hdr1.extractLsb' 32 32).toNat

/-- `loaded_words`: the payload in 64-bit words. -/
def loadedWords (hdr1 : BitVec 64) : Nat := (payloadBytes hdr1 + 7) % 2 ^ 32 / 8

/-- `framed_word_count`: header and payload in 32-bit words. -/
def framedWordCount (hdr1 : BitVec 64) : Nat := (4 + (payloadBytes hdr1 + 3) % 2 ^ 32 / 4) % 2 ^ 32

namespace Framer

def reset : Framer where
  state := .idle
  rvctrlValid := false
  rvctrl := ⟨0, false, false, 0, 0⟩
  hdr0Word := 0
  hdr1Word := 0
  skidWord := 0
  skidValid := false
  payloadWordsLeft := 0
  wordCount := 0
  nonzero := false
  moreThanOne := false

variable (s : Framer) (i : UdpIn)

/-- The defaults of every cycle: nothing is emitted, data and counts keep. -/
def quiet : Framer :=
  { s with rvctrlValid := false, rvctrl := { s.rvctrl with tfirst := false, tlast := false } }

def emit (tdata : BitVec 64) (tfirst tlast : Bool) (wordCount : Nat) : Framer :=
  { s with rvctrlValid := true, rvctrl := ⟨tdata, tfirst, tlast, wordCount, rvctrlProtocolRf2⟩ }

def count : Framer :=
  { s with
    payloadWordsLeft := (s.payloadWordsLeft + (2 ^ 32 - 1)) % 2 ^ 32
    nonzero := s.moreThanOne
    moreThanOne := decide (2 < s.payloadWordsLeft) }

/-- `ST_IDLE` -/
def stepIdle : Framer :=
  if i.tvalid && i.tdata == rfctrl2Magic && !i.tlast then { s.quiet with state := .hdr0 } else s.quiet

/-- `ST_HDR0` -/
def stepHdr0 : Framer :=
  if i.tvalid then
    { s.quiet with hdr0Word := i.tdata, state := if i.tlast then .drop else .hdr1 }
  else s.quiet

/-- `ST_HDR1`: the buffered first header word leaves once the length is known. -/
def stepHdr1 : Framer :=
  if i.tvalid then
    { s.quiet.emit s.hdr0Word true false (framedWordCount i.tdata) with
      hdr1Word := i.tdata
      payloadWordsLeft := loadedWords i.tdata
      nonzero := loadedWords i.tdata != 0
      moreThanOne := decide (1 < loadedWords i.tdata)
      wordCount := framedWordCount i.tdata
      state := .emitHdr1 }
  else s.quiet

/-- `ST_EMIT_HDR1`: a payload word that arrives meanwhile goes to the skid register. -/
def stepEmitHdr1 : Framer :=
  let out := s.quiet.emit s.hdr1Word false (!s.nonzero) s.wordCount
  if !s.nonzero then { out with skidValid := false, state := .idle }
  else if i.tvalid then
    { out.count with skidWord := i.tdata, skidValid := true, state := .payload }
  else { out with state := .payload }

/-- `ST_PAYLOAD` -/
def stepPayload : Framer :=
  if s.skidValid then
    let out := s.quiet.emit s.skidWord false (!s.nonzero || (!s.moreThanOne && !i.tvalid)) s.wordCount
    if i.tvalid && s.nonzero then
      { out.count with skidWord := i.tdata, skidValid := true, state := .payload }
    else { out with skidValid := false, state := if !s.nonzero then .idle else .payload }
  else if i.tvalid && s.nonzero then
    let out := s.quiet.emit i.tdata false (!s.moreThanOne) s.wordCount
    if !s.moreThanOne then
      { out with payloadWordsLeft := 0, nonzero := false, moreThanOne := false, state := .idle }
    else { out.count with nonzero := true, state := .payload }
  else s.quiet

/-- `ST_DROP`: drain a truncated packet to its end. -/
def stepDrop : Framer :=
  if i.tvalid && i.tlast then { s.quiet with state := .idle } else s.quiet

/-- One clock edge of `udp_rvctrl_framer`. -/
def step : Framer :=
  match s.state with
  | .idle => s.stepIdle i
  | .hdr0 => s.stepHdr0 i
  | .hdr1 => s.stepHdr1 i
  | .emitHdr1 => s.stepEmitHdr1 i
  | .payload => s.stepPayload i
  | .drop => s.stepDrop i

def output : List RvctrlWord := if s.rvctrlValid then [s.rvctrl] else []

def emitted : List RvctrlWord := (s.step i).output

end Framer

/-- `udp_rvctrl_framer` as a machine. -/
def framer : Clocked.Machine UdpIn Framer where
  reset := .reset
  step := Framer.step

end Xczu47dr.Control
