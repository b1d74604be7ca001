import Xczu47dr.Clocked.Ring
import Xczu47dr.Upload.PacketSteps

/-! # The command mailbox

The commands that the upload writer pulses, on their way to the DAC side: a mailbox of
eight on the DDR clock, and behind it one FIFO for the commands and one for the descriptor
records of `waveform_playback_path`.  A record is not stored before it enters its FIFO, the
words of the descriptor are those that stand in the writer.
-/

namespace Xczu47dr.Upload

open Clocked

/-- `descriptor_wr_data`: what crosses of a descriptor, the words of the writer as they are. -/
structure RecordWords where
  generation : Nat
  loopCount : Nat
  channelMask : Nat
  totalBeats : Nat
  base : Nat
  deriving DecidableEq

def UploadCore.recordWords (c : UploadCore) : RecordWords :=
  ⟨c.descriptor, c.loopCount, c.channelMask, c.totalBeats, c.ddrBaseAddr⟩

/-- The registers of the mailbox. -/
structure CommandMailbox where
  commandMem : Nat → PlaybackCommand
  commandWrPtr : Nat
  commandRdPtr : Nat
  commandCount : Nat
  descriptorPending : Bool
  descriptorAccepted : Bool

namespace CommandMailbox

def reset : CommandMailbox where
  commandMem := fun _ => .begin
  commandWrPtr := 0
  commandRdPtr := 0
  commandCount := 0
  descriptorPending := false
  descriptorAccepted := false

variable (s : CommandMailbox) (pulse : Option PlaybackCommand) (commandWrReady descriptorWrReady : Bool)

/-- `command_ready_ddr` -/
def commandReady : Bool := decide (s.commandCount < 8) && !s.descriptorPending

def head : PlaybackCommand := s.commandMem s.commandRdPtr

def headIsCommit : Bool := decide (s.commandCount ≠ 0) && decide (s.head = .commit)

/-- `command_wr_valid` -/
def wrValid : Bool := decide (s.commandCount ≠ 0) && (!s.headIsCommit || s.descriptorAccepted)

def pushes : Bool := pulse.isSome && s.commandReady

def pops : Bool := s.wrValid && commandWrReady

/-- `descriptor_write_fire` -/
def descriptorFires : Bool := s.descriptorPending && descriptorWrReady

/-- One edge of `ddr_clk`. -/
def step : CommandMailbox where
  commandMem :=
    if s.pushes pulse then Function.update s.commandMem s.commandWrPtr (pulse.getD .begin) else s.commandMem
  commandWrPtr := if s.pushes pulse then (s.commandWrPtr + 1) % 8 else s.commandWrPtr
  commandRdPtr := if s.pops commandWrReady then (s.commandRdPtr + 1) % 8 else s.commandRdPtr
  commandCount :=
    match s.pushes pulse, s.pops commandWrReady with
    | true, false => (s.commandCount + 1) % 16
    | false, true => (s.commandCount + 15) % 16
    | _, _ => s.commandCount
  descriptorPending :=
    if s.descriptorFires descriptorWrReady then false else decide (pulse = some .commit) || s.descriptorPending
  descriptorAccepted :=
    if s.descriptorFires descriptorWrReady then true else decide (pulse ≠ some .commit) && s.descriptorAccepted

/-- The commands in the mailbox, oldest first. -/
def contents : List PlaybackCommand := Ring.contents s.commandMem 8 s.commandRdPtr s.commandCount

end CommandMailbox

/-- The writer, the mailbox and the two FIFOs. -/
structure CommandPath where
  writer : UploadWriter
  mailbox : CommandMailbox
  commandFifo : List PlaybackCommand
  descriptorFifo : List RecordWords

/-- An edge of `ddr_clk`, with whether the FIFOs are ready to be written, or of `dac_clk`,
    with whether they show what they hold; `command_ready` is wired. -/
inductive CommandTick
  | ddr (i : WriterIn) (commandWrReady descriptorWrReady : Bool)
  | dac (commandShown descriptorShown : Bool)

namespace CommandPath

variable (p : WriterParams) (s : CommandPath)

def step : CommandTick → CommandPath
  | .ddr i commandWrReady descriptorWrReady =>
    { writer := s.writer.step p { i with commandReady := s.mailbox.commandReady }
      mailbox := s.mailbox.step s.writer.pulse commandWrReady descriptorWrReady
      commandFifo := if s.mailbox.pops commandWrReady then s.commandFifo ++ [s.mailbox.head] else s.commandFifo
      descriptorFifo :=
        if s.mailbox.descriptorFires descriptorWrReady then s.descriptorFifo ++ [s.writer.core.recordWords]
        else s.descriptorFifo }
  | .dac commandShown descriptorShown =>
    { s with
      commandFifo := if commandShown then s.commandFifo.tail else s.commandFifo
      descriptorFifo := if descriptorShown then s.descriptorFifo.tail else s.descriptorFifo }

def issues : CommandTick → List PlaybackCommand
  | .ddr _ _ _ => s.writer.pulse.toList
  | .dac _ _ => []

/-- The words of the descriptor with the pulse of its `COMMIT`. -/
def captures : CommandTick → List RecordWords
  | .ddr _ _ _ => if s.writer.pulse = some .commit then [s.writer.core.recordWords] else []
  | .dac _ _ => []

def enters : CommandTick → List PlaybackCommand
  | .ddr _ commandWrReady _ => if s.mailbox.pops commandWrReady then [s.mailbox.head] else []
  | .dac _ _ => []

def records : CommandTick → List RecordWords
  | .ddr _ _ descriptorWrReady =>
    if s.mailbox.descriptorFires descriptorWrReady then [s.writer.core.recordWords] else []
  | .dac _ _ => []

/-- A command is delivered to the DAC side. -/
def delivers : CommandTick → List PlaybackCommand
  | .ddr _ _ _ => []
  | .dac commandShown _ => if commandShown then s.commandFifo.take 1 else []

/-- The record that is still to enter its FIFO. -/
def pendingRecord : List RecordWords := if s.mailbox.descriptorPending then [s.writer.core.recordWords] else []

end CommandPath

def commandPath (p : WriterParams) : Machine CommandTick CommandPath where
  reset := ⟨.reset p, .reset, [], []⟩
  step := CommandPath.step p

/-! ## The writer and its pulses -/

section Writer

variable {p : WriterParams} {s : UploadWriter} {i : WriterIn} {c core : UploadCore} {r : UploadRequest}

/-- What is accepted without a pulse leaves the session as it is. -/
theorem judge_unpulsed {playback : Nat} (verdict : r.judge p c playback = .accept core none) : core = c := by
  unfold UploadRequest.judge at verdict
  split_ifs at verdict
  · unfold UploadRequest.judgeBegin at verdict
    split_ifs at verdict <;> cases verdict
    rfl
  · unfold UploadRequest.judgeData at verdict
    split_ifs at verdict
  · unfold UploadRequest.judgeCommit at verdict
    split_ifs at verdict <;> cases verdict
    rfl
  · unfold UploadRequest.judgePlay at verdict
    split_ifs at verdict <;> cases verdict
    rfl
  · unfold UploadRequest.judgeHalt at verdict
    split_ifs at verdict <;> cases verdict
  · cases verdict
  · cases verdict
    rfl

/-- Nothing is pulsed, and the words of the descriptor stay as they are. -/
structure Unpulsed (s t : UploadWriter) : Prop where
  pulse : t.pulse = none
  record : t.core.recordWords = s.core.recordWords

theorem setError_unpulsed {n : UploadWriter} (status offset : Nat) (quiet : Unpulsed s n) :
    Unpulsed s (s.setError n status offset) := by
  unfold UploadWriter.setError
  split_ifs
  · exact ⟨quiet.pulse, quiet.record⟩
  · exact ⟨quiet.pulse, quiet.record⟩

/-- A command is admitted, and with it the words of the descriptor may change. -/
structure Admitted (i : WriterIn) (t : UploadWriter) : Prop where
  ready : i.commandReady = true
  emits : t.state = .emit

/-- What pulses a command is a request for one. -/
theorem judge_pulsed {playback : Nat} {pulse : PlaybackCommand} (verdict : r.judge p c playback = .accept core (some pulse)) :
    r.opcode = opBegin ∨ r.opcode = opCommit ∨ r.opcode = opPlay ∨ r.opcode = opPause ∨ r.opcode = opStop ∨
      r.opcode = opAbort := by
  unfold UploadRequest.judge at verdict
  split_ifs at verdict with begins data differs commits plays halts aborts
  · exact .inl begins
  · unfold UploadRequest.judgeData at verdict
    split_ifs at verdict
  · exact .inr (.inl commits)
  · exact .inr (.inr (.inl plays))
  · rcases halts with pauses | stops
    · exact .inr (.inr (.inr (.inl pauses)))
    · exact .inr (.inr (.inr (.inr (.inl stops))))
  · exact .inr (.inr (.inr (.inr (.inr aborts))))
  · cases verdict

theorem applyVerdict_cases {n : UploadWriter} (quiet : Unpulsed s n) (emits : n.state = .emit)
    (admits : s.requiresAdmission = true → i.commandReady = true) :
    Unpulsed s (s.applyVerdict n (s.request.judge p s.core i.playbackState)) ∨
      Admitted i (s.applyVerdict n (s.request.judge p s.core i.playbackState)) := by
  cases verdict : s.request.judge p s.core i.playbackState with
  | refuse status offset => exact .inl (setError_unpulsed status offset quiet)
  | check duplicate => exact .inl ⟨quiet.pulse, quiet.record⟩
  | accept core pulse =>
    cases pulse with
    | none => exact .inl ⟨rfl, congrArg UploadCore.recordWords (judge_unpulsed verdict)⟩
    | some pulse => exact .inr ⟨admits (decide_eq_true (judge_pulsed verdict)), emits⟩

theorem stepFinal_cases (s : UploadWriter) : Unpulsed s (s.stepFinal p i) ∨ Admitted i (s.stepFinal p i) := by
  unfold UploadWriter.stepFinal
  split_ifs with status unrequested ready snapshot waits refused data
  · exact .inl ⟨rfl, rfl⟩
  · exact .inl ⟨rfl, rfl⟩
  · exact .inl ⟨rfl, rfl⟩
  · exact .inl ⟨rfl, rfl⟩
  · exact .inl ⟨rfl, rfl⟩
  · exact .inl ⟨rfl, rfl⟩
  · exact applyVerdict_cases ⟨rfl, rfl⟩ rfl fun requires => by simpa [requires] using waits
  · exact applyVerdict_cases ⟨rfl, rfl⟩ rfl fun requires => by simpa [requires] using waits

theorem stepWrite_unpulsed : Unpulsed s (s.stepWrite p i) := by
  unfold UploadWriter.stepWrite
  split_ifs <;> exact ⟨rfl, rfl⟩

theorem stepHdr0_unpulsed : Unpulsed s (s.stepHdr0 p i) := by
  unfold UploadWriter.stepHdr0
  split_ifs <;> exact ⟨by simp, by simp⟩

theorem stepHdr1_unpulsed : Unpulsed s (s.stepHdr1 p i) := by
  unfold UploadWriter.stepHdr1
  split_ifs <;> exact ⟨by simp, by simp⟩

theorem stepPayload_unpulsed : Unpulsed s (s.stepPayload p i) := by
  unfold UploadWriter.stepPayload
  split_ifs <;> exact ⟨by simp, by simp⟩

/-- A step pulses nothing, or it admits a command in `ST_FINAL`. -/
theorem step_cases (s : UploadWriter) :
    Unpulsed s (s.step p i) ∨ s.state = .final ∧ Admitted i (s.step p i) := by
  unfold UploadWriter.step
  cases state : s.state with
  | final => exact (stepFinal_cases s).imp id fun admitted => ⟨rfl, admitted⟩
  | idle =>
    left
    unfold UploadWriter.stepIdle
    split_ifs <;> exact ⟨rfl, rfl⟩
  | hdr0 => exact .inl stepHdr0_unpulsed
  | hdr1 => exact .inl stepHdr1_unpulsed
  | payload => exact .inl stepPayload_unpulsed
  | write => exact .inl stepWrite_unpulsed
  | crc =>
    left
    unfold UploadWriter.stepCrc
    split_ifs <;> exact ⟨rfl, rfl⟩
  | crcDone =>
    left
    unfold UploadWriter.stepCrcDone
    split_ifs <;> exact ⟨rfl, rfl⟩
  | emit =>
    left
    unfold UploadWriter.stepEmit
    split_ifs <;> exact ⟨rfl, rfl⟩
  | drop =>
    left
    dsimp only
    split_ifs <;> exact ⟨rfl, rfl⟩
  | readWait => exact .inl ⟨rfl, rfl⟩
  | readLoad =>
    left
    unfold UploadWriter.stepReadLoad
    split_ifs <;> exact ⟨rfl, rfl⟩

end Writer

end Xczu47dr.Upload
