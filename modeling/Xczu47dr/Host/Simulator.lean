import Mathlib.Logic.Function.Basic
import Xczu47dr.Host.PackedWaves
import Xczu47dr.Playback.PlaybackController

/-! # The simulated board

The waveform requests of `SimulatedDr47Device`: the session protocol of the upload writer,
written a second time in Python.  The numbers of the requests do not reach it, and the
playback is simulated as far as its state.
-/

namespace Xczu47dr.Host

open Playback (SessionState)

def waveStatusOk : Nat := 0
def waveStatusBadRequest : Nat := 2
def waveStatusIncomplete : Nat := 4
def waveStatusSequence : Nat := 5
def waveStatusOffset : Nat := 6
def waveStatusCrc : Nat := 7

/-- What is remembered of an accepted fragment. -/
structure Fragment where
  byteOffset : Int
  length : Nat
  crc : Nat
  deriving DecidableEq

/-- The `_wave_*` fields; `_wave_error` is never set. -/
structure SimulatedDr47Device where
  waveState : SessionState
  waveSession : Nat
  waveDescriptor : Nat
  waveGeneration : Nat
  waveFragments : Int → Option Fragment
  waveTotalBytes : Nat
  waveTotalBeats : Nat
  waveChannelMask : Nat
  waveLoopCount : Nat
  waveReceived : List Wire.Byte
  waveNextPacket : Nat
  waveReceivedBytes : Nat
  waveErrorOffset : Int
  wavePrefetchComplete : Bool
  wavePlayPending : Bool

/-- The fields a DATA adds to its response. -/
structure SimulatedProgress where
  ackPacketSeq : Option Int
  nextExpectedSequence : Nat
  receivedBytes : Nat
  firstErrorOffset : Int
  deriving DecidableEq

structure SimulatedResponse where
  opcode : Nat
  status : Nat
  session : Nat
  state : SessionState
  descriptor : Nat
  progress : Option SimulatedProgress
  deriving DecidableEq

namespace SimulatedDr47Device

def reset : SimulatedDr47Device where
  waveState := .idle
  waveSession := 0
  waveDescriptor := 0
  waveGeneration := 0
  waveFragments := fun _ => none
  waveTotalBytes := 0
  waveTotalBeats := 0
  waveChannelMask := 0
  waveLoopCount := 0
  waveReceived := []
  waveNextPacket := 0
  waveReceivedBytes := 0
  waveErrorOffset := 0
  wavePrefetchComplete := false
  wavePlayPending := false

variable (m : SimulatedDr47Device)

/-- `_wave_response` -/
def waveResponse (opcode status : Nat) (progress : Option SimulatedProgress) : SimulatedResponse where
  opcode := opcode
  status := status
  session := m.waveSession
  state := m.waveState
  descriptor := m.waveDescriptor
  progress := progress

/-- `begin_waveform` -/
def beginWaveform (session totalBytes channelMask totalBeats loopCount layout : Int) :
    SimulatedResponse × SimulatedDr47Device :=
  match packWaveBegin ⟨session, totalBytes, channelMask, totalBeats, loopCount, layout, 1⟩ with
  | .error _ => (m.waveResponse waveOpBegin waveStatusBadRequest none, m)
  | .ok _ =>
    let m := { m with
      waveSession := (session % 2 ^ 32).toNat
      waveTotalBytes := totalBytes.toNat
      waveTotalBeats := totalBeats.toNat
      waveChannelMask := (channelMask % 2 ^ 8).toNat
      waveLoopCount := (loopCount % 2 ^ 32).toNat
      waveReceived := []
      waveFragments := fun _ => none
      waveDescriptor := 0
      wavePlayPending := false
      wavePrefetchComplete := false
      waveNextPacket := 0
      waveReceivedBytes := 0
      waveState := .upload }
    (m.waveResponse waveOpBegin waveStatusOk none, m)

/-- The progress a DATA reports; `first` is its `first_error_offset`. -/
def waveProgress (ack : Option Int) (first : Int) : Option SimulatedProgress :=
  some ⟨ack, m.waveNextPacket, m.waveReceivedBytes, first⟩

/-- `data_waveform` -/
def dataWaveform (session packetSeq byteOffset : Int) (raw : List Wire.Byte) (payloadCrc : Option Int) :
    SimulatedResponse × SimulatedDr47Device :=
  if byteOffset < 0 ∨ byteOffset % 32 ≠ 0 then
    (m.waveResponse waveOpData waveStatusOffset (m.waveProgress none byteOffset), m)
  else
    match packWaveData ⟨session, packetSeq, byteOffset, raw, 1⟩ with
    | .error _ => (m.waveResponse waveOpData waveStatusBadRequest none, m)
    | .ok _ =>
      if payloadCrc.any fun crc => crc % 2 ^ 32 ≠ (crc32 raw : Int) then
        let m := { m with waveErrorOffset := byteOffset }
        (m.waveResponse waveOpData waveStatusCrc (m.waveProgress none byteOffset), m)
      else if session ≠ m.waveSession ∨ m.waveState ≠ .upload then
        (m.waveResponse waveOpData waveStatusBadRequest none, m)
      else if packetSeq < m.waveNextPacket then
        if m.waveFragments packetSeq ≠ some ⟨byteOffset, raw.length, crc32 raw⟩ then
          (m.waveResponse waveOpData waveStatusSequence none, m)
        else (m.waveResponse waveOpData waveStatusOk (m.waveProgress (some packetSeq) m.waveErrorOffset), m)
      else if packetSeq ≠ m.waveNextPacket then
        (m.waveResponse waveOpData waveStatusSequence (m.waveProgress none byteOffset), m)
      else if byteOffset ≠ m.waveReceivedBytes ∨ m.waveTotalBytes < byteOffset + raw.length then
        let m := { m with waveErrorOffset := byteOffset }
        (m.waveResponse waveOpData waveStatusOffset (m.waveProgress none byteOffset), m)
      else
        let m := { m with
          waveReceived := m.waveReceived.take byteOffset.toNat ++ raw ++
            m.waveReceived.drop (byteOffset.toNat + raw.length)
          waveReceivedBytes := m.waveReceivedBytes + raw.length
          waveFragments := Function.update m.waveFragments packetSeq (some ⟨byteOffset, raw.length, crc32 raw⟩)
          waveNextPacket := m.waveNextPacket + 1 }
        (m.waveResponse waveOpData waveStatusOk (m.waveProgress (some packetSeq) 0), m)

/-- `(generation + 1) & 0xFFFFFFFF or 1` -/
def nextGeneration : Nat := if (m.waveGeneration + 1) % 2 ^ 32 = 0 then 1 else (m.waveGeneration + 1) % 2 ^ 32

/-- `commit_waveform` -/
def commitWaveform (session : Int) : SimulatedResponse × SimulatedDr47Device :=
  if session = m.waveSession ∧ m.waveDescriptor ≠ 0 then (m.waveResponse waveOpCommit waveStatusOk none, m)
  else if session ≠ m.waveSession ∨ m.waveState ≠ .upload then
    (m.waveResponse waveOpCommit waveStatusBadRequest none, m)
  else if m.waveReceivedBytes ≠ m.waveTotalBytes then (m.waveResponse waveOpCommit waveStatusIncomplete none, m)
  else
    let m := { m with
      waveGeneration := m.nextGeneration
      waveDescriptor := m.nextGeneration
      waveState := .prefetch
      wavePrefetchComplete := false }
    (m.waveResponse waveOpCommit waveStatusOk none, m)

/-- `session and session != self._wave_session` -/
def namesAnother (session : Int) : Bool := decide (session ≠ 0 ∧ session ≠ m.waveSession)

def pause (session : Int) : SimulatedResponse × SimulatedDr47Device :=
  if m.namesAnother session then (m.waveResponse waveOpPause waveStatusBadRequest none, m)
  else
    match m.waveState with
    | .ready | .done | .playing | .waitTrigger | .prefetch =>
      let m := { m with waveState := .ready, wavePrefetchComplete := false, wavePlayPending := false }
      (m.waveResponse waveOpPause waveStatusOk none, m)
    | _ => (m.waveResponse waveOpPause waveStatusBadRequest none, m)

def abort (session : Int) : SimulatedResponse × SimulatedDr47Device :=
  if m.namesAnother session then (m.waveResponse waveOpAbort waveStatusBadRequest none, m)
  else
    let m := { m with
      waveState := .idle
      waveSession := 0
      waveDescriptor := 0
      waveReceived := []
      waveReceivedBytes := 0
      waveNextPacket := 0
      waveErrorOffset := 0
      wavePlayPending := false
      wavePrefetchComplete := false
      waveFragments := fun _ => none }
    (m.waveResponse waveOpAbort waveStatusOk none, m)

/-- A STOP drops an upload, and pauses what is committed. -/
def stop (session : Int) : SimulatedResponse × SimulatedDr47Device :=
  if m.namesAnother session then (m.waveResponse waveOpStop waveStatusBadRequest none, m)
  else if m.waveState = .upload then
    let m := (m.abort session).2
    (m.waveResponse waveOpStop waveStatusOk none, m)
  else
    let (result, m) := m.pause session
    ({ result with opcode := waveOpStop }, m)

end SimulatedDr47Device

end Xczu47dr.Host
