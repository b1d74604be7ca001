import Mathlib.Data.List.FinRange
import Mathlib.Logic.Function.Basic
import Xczu47dr.Bandwidth.InstructionPath

/-! # The command executor of the bandwidth test

`waveform_bandwidth_top`: programs of PLAY and END instructions, the registers of the
channels, the selection of the next channel, and the pipeline that cuts each region
into commands for the DataMover and accounts for the beats that come back.
-/

namespace Xczu47dr.Bandwidth

/-- CH1 to CH8 as `dma_req_sel_r` numbers them. -/
abbrev ChannelSel := Fin 8

/-- `CHUNK_BEATS` -/
def chunkBeats : Nat := 16384

/-- `OUTSTANDING_LIMIT` -/
def outstandingLimit : Nat := 15

/-- `RETQ_DEPTH` -/
def retqDepth : Nat := 16

structure ExecutorIn where
  clear : Bool
  trigger : Bool
  /-- `main_tdata` while `main_tvalid` -/
  main : Option Instruction
  cmdReady : Bool
  /-- `s_axis_dm_data_tvalid && s_axis_dm_data_tready` -/
  beatFire : Bool
  fifoLevelBeats : ChannelSel → Nat

/-! ## The channels -/

/-- `Waveform_Channel_State`, and the `inter_*` registers, which are of the same kind. -/
structure ChannelState where
  baseAddr : BitVec 64
  bytesLeft : Nat
  activeValid : Bool
  loadTogD : Bool

/-- What is loaded into a channel. -/
structure Load where
  tog : Bool
  addr : BitVec 64
  bytes : Nat

namespace ChannelState

def cleared (tog : Bool) : ChannelState := ⟨0, 0, false, tog⟩

/-- A new value of `load_tog` loads. -/
def load (s : ChannelState) (l : Load) : ChannelState :=
  if s.loadTogD ≠ l.tog then ⟨l.addr, l.bytes, l.bytes ≠ 0, l.tog⟩ else s

/-- One edge while `prefetch_en`, `bytes_left` having `width` bits. -/
def step (width : Nat) (s : ChannelState) (l : Load) (chunkDone : Bool) (chunkBytes : Nat) : ChannelState :=
  if chunkDone then
    { s.load l with
      baseAddr := s.baseAddr + BitVec.ofNat 64 chunkBytes
      bytesLeft := (s.bytesLeft + 2 ^ width - chunkBytes) % 2 ^ width
      activeValid := if s.bytesLeft = chunkBytes then false else (s.load l).activeValid }
  else s.load l

/-- `chN_current_valid` -/
def currentValid (s : ChannelState) : Bool := s.activeValid && s.bytesLeft != 0

/-- `chN_chunk_beats_w` -/
def chunkBeatsW (s : ChannelState) : Nat := min (s.bytesLeft / 64) chunkBeats

/-- `inter_chunk_beats_w` -/
def interChunkBeatsW (s : ChannelState) : Nat :=
  if chunkBeats * 64 ≤ s.bytesLeft then chunkBeats else s.bytesLeft / 64 % 2 ^ 32

end ChannelState

/-! ## The programs -/

inductive ProgramState
  | build
  | prefill
  | waitTrig
  | playing
  deriving DecidableEq

structure Sequencer where
  trigD : Bool
  st : ProgramState
  pendingValid : Bool
  prefillAutoStart : Bool
  loopEnable : Bool
  activeValid : Bool
  /-- `cur_chN_have_play` -/
  havePlay : ChannelSel → Bool
  /-- `chN_load_*` -/
  loads : ChannelSel → Load
  /-- `inter_load_*` -/
  inter : Load

namespace Sequencer

def reset : Sequencer where
  trigD := false
  st := .build
  pendingValid := false
  prefillAutoStart := false
  loopEnable := false
  activeValid := false
  havePlay _ := false
  loads _ := ⟨false, 0, 0⟩
  inter := ⟨false, 0, 0⟩

variable (interleaved : Bool) (s : Sequencer)

/-- `clear`, which leaves `chN_load_*`. -/
def clear : Sequencer :=
  { reset with trigD := s.trigD, loads := s.loads }

/-- The channel of `instr_ch`, which counts from 1. -/
def playChannel (ch : BitVec 4) : Option ChannelSel :=
  if inside : 1 ≤ ch.toNat ∧ ch.toNat ≤ 8 then some ⟨ch.toNat - 1, by omega⟩ else none

def play (channel : ChannelSel) (addr : BitVec 64) (value : BitVec 32) : Sequencer :=
  if s.havePlay channel then s
  else { s with
    havePlay := Function.update s.havePlay channel true
    loads := Function.update s.loads channel ⟨!(s.loads channel).tog, addr, value.toNat⟩
    inter := if channel = 0 then ⟨!s.inter.tog, addr, value.toNat * 8⟩ else s.inter
    activeValid := true }

/-- `CMD_PLAY` and `CMD_END` in `ST_BUILD`. -/
def fetch (main : Option Instruction) : Sequencer :=
  match main with
  | none => s
  | some instr =>
    if instr.cmd = 2 then
      match playChannel instr.ch with
      | none => s
      | some channel => s.play channel instr.addr instr.value
    else if instr.cmd = 3 then
      if (List.finRange 8).any s.havePlay then
        { s with
          st := .prefill
          pendingValid := instr.ch != 15
          prefillAutoStart := instr.ch == 15
          loopEnable := instr.loop }
      else s
    else s

def reload : Sequencer :=
  { s with
    loads := fun channel =>
      if s.havePlay channel then { s.loads channel with tog := !(s.loads channel).tog } else s.loads channel
    inter := if interleaved then { s.inter with tog := !s.inter.tog } else s.inter
    st := .prefill
    prefillAutoStart := true }

/-- `wave_done` -/
def finish : Sequencer :=
  { s with
    st := .build
    pendingValid := false
    prefillAutoStart := false
    loopEnable := false
    activeValid := false }

def advance (i : ExecutorIn) (prefillDone : Bool) : Sequencer :=
  match s.st with
  | .build => s.fetch i.main
  | .prefill =>
    if prefillDone then
      if s.prefillAutoStart then { s with st := .playing, pendingValid := false, prefillAutoStart := false }
      else { s with st := .waitTrig, pendingValid := true, prefillAutoStart := false }
    else s
  | .waitTrig =>
    if i.trigger && !s.trigD && s.pendingValid then { s with st := .playing, pendingValid := false } else s
  | .playing =>
    if prefillDone then if s.loopEnable then s.reload interleaved else s.finish
    else s

def step (i : ExecutorIn) (prefillDone : Bool) : Sequencer :=
  { (if i.clear then s.clear else s.advance interleaved i prefillDone) with trigD := i.trigger }

end Sequencer

/-! ## The selection of a channel -/

/-- The needs of the channels as they were one cycle before. -/
structure Snapshot where
  valid : Bool
  hard : ChannelSel → Bool
  start : ChannelSel → Bool
  soft : ChannelSel → Bool

def Snapshot.none : Snapshot := ⟨false, fun _ => false, fun _ => false, fun _ => false⟩

/-- `try_class` -/
def tryClass (rr : ChannelSel) (need : ChannelSel → Bool) : Option ChannelSel :=
  ((List.finRange 8).map (rr + ·)).find? need

/-- `Waveform_Dma_Selector`, `MAX_CONSECUTIVE_CHUNKS` being 4. -/
def dmaSelect (hard start soft : ChannelSel → Bool) (rr lastGrantSel : ChannelSel) (sameGrantCount : Nat) :
    Option ChannelSel :=
  let otherNeed := (List.finRange 8).any fun channel =>
    (hard channel || start channel || soft channel) && channel != lastGrantSel
  let throttleLast := 4 ≤ sameGrantCount && otherNeed
  let eligible channel := !(throttleLast && channel == lastGrantSel)
  (tryClass rr fun channel => hard channel && eligible channel) <|>
    (tryClass rr fun channel => start channel && eligible channel) <|>
    (tryClass rr fun channel => soft channel && eligible channel) <|>
    tryClass rr hard <|> tryClass rr start <|> tryClass rr soft

/-! ## Commands and returning beats -/

inductive CmdState
  | idle
  | stage
  | prep
  | sendCmd
  deriving DecidableEq

structure Pipeline where
  cmdSt : CmdState
  cmdValid : Bool
  cmdData : BitVec 104
  reqSel : ChannelSel
  reqAbsAddr : BitVec 64
  reqChunkBeats : Nat
  reqChunkBytes : Nat
  lastGrantSel : ChannelSel
  sameGrantCount : Nat

def Pipeline.reset : Pipeline where
  cmdSt := .idle
  cmdValid := false
  cmdData := 0
  reqSel := 0
  reqAbsAddr := 0
  reqChunkBeats := 0
  reqChunkBytes := 0
  lastGrantSel := 0
  sameGrantCount := 0

/-- `make_dm_cmd` -/
def makeDmCmd (absAddr : BitVec 64) (bytes : Nat) : BitVec 104 :=
  0#8 ++ absAddr ++ 0#1 ++ 1#1 ++ 0#6 ++ 1#1 ++ BitVec.ofNat 23 bytes

/-- `beats_to_bytes` -/
def beatsToBytes (beats : Nat) : Nat := beats * 64 % 2 ^ 32

namespace Pipeline

variable (s : Pipeline)

def cmdFire (i : ExecutorIn) : Bool := s.cmdValid && i.cmdReady

/-- `lane` is the state of the channel that `dma_req_sel_r` selects. -/
def step (base : BitVec 64) (i : ExecutorIn) (request : Option ChannelSel) (retqFull : Bool) (lane : ChannelState)
    (beats : Nat) : Pipeline :=
  match s.cmdSt with
  | .idle =>
    match request with
    | some channel =>
      if retqFull then { s with cmdValid := false }
      else { s with cmdValid := false, reqSel := channel, cmdSt := .stage }
    | none => { s with cmdValid := false }
  | .stage =>
    { s with
      reqAbsAddr := base + lane.baseAddr
      reqChunkBeats := beats
      reqChunkBytes := beatsToBytes beats
      cmdSt := .prep }
  | .prep => { s with cmdData := makeDmCmd s.reqAbsAddr s.reqChunkBytes, cmdValid := true, cmdSt := .sendCmd }
  | .sendCmd =>
    if s.cmdFire i then { s with
      cmdValid := false
      lastGrantSel := s.reqSel
      sameGrantCount :=
        if s.reqSel = s.lastGrantSel then
          if s.sameGrantCount ≠ 15 then s.sameGrantCount + 1 else s.sameGrantCount
        else 1
      cmdSt := .idle }
    else s

end Pipeline

/-- `retq_*`, and the beats in flight of each channel. -/
structure ReturnQueue where
  sel : Nat → ChannelSel
  beatsLeft : Nat → Nat
  wrPtr : Nat
  rdPtr : Nat
  count : Nat
  inflightBeats : ChannelSel → Nat

namespace ReturnQueue

def reset : ReturnQueue := ⟨fun _ => 0, fun _ => 0, 0, 0, 0, fun _ => 0⟩

variable (s : ReturnQueue)

def clear : ReturnQueue := { s with wrPtr := 0, rdPtr := 0, count := 0, inflightBeats := fun _ => 0 }

def full : Bool := outstandingLimit ≤ s.count

def empty : Bool := s.count = 0

/-- `retq_stream_sel` -/
def streamSel : ChannelSel := if s.empty then 0 else s.sel s.rdPtr

def takes (beatFire : Bool) : Bool := beatFire && !s.empty

def pop (beatFire : Bool) : Bool := s.takes beatFire && s.beatsLeft s.rdPtr = 1

/-- The beats in flight at the next edge; a push and a beat of one channel are one assignment. -/
def nextInflight (push beatFire : Bool) (reqSel : ChannelSel) (reqChunkBeats : Nat) : ChannelSel → Nat :=
  if push && s.takes beatFire && reqSel == s.streamSel then
    Function.update s.inflightBeats reqSel ((s.inflightBeats reqSel + reqChunkBeats + 2 ^ 32 - 1) % 2 ^ 32)
  else
    let taken :=
      if s.takes beatFire then
        Function.update s.inflightBeats s.streamSel ((s.inflightBeats s.streamSel + 2 ^ 32 - 1) % 2 ^ 32)
      else s.inflightBeats
    if push then Function.update taken reqSel ((s.inflightBeats reqSel + reqChunkBeats) % 2 ^ 32) else taken

def step (push beatFire : Bool) (reqSel : ChannelSel) (reqChunkBeats : Nat) : ReturnQueue where
  sel := if push then Function.update s.sel s.wrPtr reqSel else s.sel
  beatsLeft :=
    let taken :=
      if s.takes beatFire && !s.pop beatFire then
        Function.update s.beatsLeft s.rdPtr ((s.beatsLeft s.rdPtr + 2 ^ 32 - 1) % 2 ^ 32)
      else s.beatsLeft
    if push then Function.update taken s.wrPtr reqChunkBeats else taken
  wrPtr := if push then (s.wrPtr + 1) % retqDepth else s.wrPtr
  rdPtr := if s.pop beatFire then (s.rdPtr + 1) % retqDepth else s.rdPtr
  count := (if push && !s.pop beatFire then s.count + 1
    else if s.pop beatFire && !push then s.count + 31 else s.count) % 32
  inflightBeats := s.nextInflight push beatFire reqSel reqChunkBeats

end ReturnQueue

/-! ## The executor -/

structure Executor where
  seq : Sequencer
  channels : ChannelSel → ChannelState
  /-- `inter_*` -/
  inter : ChannelState
  snapshot : Snapshot
  rr : ChannelSel
  pipe : Pipeline
  retq : ReturnQueue

namespace Executor

def reset : Executor where
  seq := .reset
  channels _ := .cleared false
  inter := .cleared false
  snapshot := .none
  rr := 0
  pipe := .reset
  retq := .reset

variable (interleaved : Bool) (base : BitVec 64) (s : Executor)

/-- `prefill_done` -/
def prefillDone : Bool :=
  s.seq.activeValid && s.pipe.cmdSt == .idle && s.retq.count == 0 &&
    if interleaved then !s.inter.activeValid || s.inter.bytesLeft == 0
    else (List.finRange 8).all fun channel => !s.seq.havePlay channel || (s.channels channel).bytesLeft == 0

/-- `chN_need_*_next` for one watermark. -/
def needNext (i : ExecutorIn) (watermark : Nat) (channel : ChannelSel) : Bool :=
  (s.channels channel).currentValid &&
    (i.fifoLevelBeats channel + s.retq.inflightBeats channel) % 2 ^ 32 < watermark

/-- `LOW_WM`, `START_WM` and `HIGH_WM` -/
def nextSnapshot (i : ExecutorIn) : Snapshot :=
  if i.clear || !s.seq.activeValid then .none
  else ⟨true, s.needNext i 128, s.needNext i 256, s.needNext i 768⟩

/-- `chN_need_*` -/
def need (needQ : ChannelSel → Bool) (channel : ChannelSel) : Bool :=
  s.snapshot.valid && (s.channels channel).currentValid && needQ channel

/-- `dma_req_valid` and `dma_req_sel`, or those of the interleaved region. -/
def request : Option ChannelSel :=
  if interleaved then
    if s.seq.activeValid && s.inter.activeValid && s.inter.bytesLeft != 0 && s.inter.interChunkBeatsW != 0 then some 0
    else none
  else dmaSelect (s.need s.snapshot.hard) (s.need s.snapshot.start) (s.need s.snapshot.soft) s.rr
    s.pipe.lastGrantSel s.pipe.sameGrantCount

def lane (channel : ChannelSel) : ChannelState := if interleaved then s.inter else s.channels channel

def laneLoad (channel : ChannelSel) : Load := if interleaved then s.seq.inter else s.seq.loads channel

def laneBeats (channel : ChannelSel) : Nat :=
  if interleaved then s.inter.interChunkBeatsW else (s.channels channel).chunkBeatsW

def cmdFire (i : ExecutorIn) : Bool := s.pipe.cmdFire i

/-- The interleaved region counts its chunks in `CMD_SENDCMD`. -/
def nextInter (i : ExecutorIn) : ChannelState :=
  if i.clear || !s.seq.activeValid then .cleared s.seq.inter.tog
  else if interleaved then
    s.inter.step 64 s.seq.inter (s.cmdFire i && s.pipe.cmdSt == .sendCmd) s.pipe.reqChunkBytes
  else s.inter

def step (i : ExecutorIn) : Executor where
  seq := s.seq.step interleaved i (s.prefillDone interleaved)
  channels channel :=
    if s.seq.activeValid then
      (s.channels channel).step 32 (s.seq.loads channel) (s.cmdFire i && s.pipe.reqSel == channel)
        s.pipe.reqChunkBytes
    else .cleared (s.seq.loads channel).tog
  inter := s.nextInter interleaved i
  snapshot := s.nextSnapshot i
  rr := if i.clear then 0 else if s.cmdFire i then s.pipe.reqSel + 1 else s.rr
  pipe :=
    if i.clear || !s.seq.activeValid then .reset
    else s.pipe.step base i (s.request interleaved) s.retq.full (s.lane interleaved s.pipe.reqSel)
      (s.laneBeats interleaved s.pipe.reqSel)
  retq :=
    if i.clear || !s.seq.activeValid then s.retq.clear
    else s.retq.step (s.cmdFire i) i.beatFire s.pipe.reqSel s.pipe.reqChunkBeats

end Executor

/-- The executor with `INTERLEAVED_MODE` and `DDR_ADDR_BASE`. -/
def executor (interleaved : Bool) (base : BitVec 64) : Clocked.Machine ExecutorIn Executor where
  reset := .reset
  step := Executor.step interleaved base

end Xczu47dr.Bandwidth
