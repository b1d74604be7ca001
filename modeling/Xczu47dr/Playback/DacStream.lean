import Mathlib.Data.List.FinRange
import Mathlib.Tactic.SplitIfs
import Xczu47dr.Playback.DdrReader

/-! # The DAC stream

`waveform_dac_stream`: each enabled lane sends its word of the common beat once,
and the beat is over when all of them have.  Outside a session every lane offers
a valid zero beat.  (The words themselves and the counts of each lane, which
nothing here reads, are left out.)
-/

namespace Xczu47dr.Playback

/-- What the stream samples at one clock edge. -/
structure DacStreamIn where
  playing : Bool
  clear : Bool
  channelMask : Channel → Bool
  totalBeats : BitVec 32
  fifoValid : Channel → Bool
  dacReady : Channel → Bool

/-- The registers of `waveform_dac_stream`. -/
structure DacStream where
  sent : Channel → Bool
  firstSent : Bool
  silencePending : Channel → Bool
  beatPosition : BitVec 32
  underflowCount : BitVec 32

namespace DacStream

def reset : DacStream where
  sent := fun _ => false
  firstSent := false
  silencePending := fun _ => false
  beatPosition := 0
  underflowCount := 0

variable (s : DacStream) (i : DacStreamIn)

/-- Some lane satisfies `p`. -/
def anyLane (p : Channel → Bool) : Bool := (List.finRange 8).any p

theorem anyLane_iff (p : Channel → Bool) : anyLane p = true ↔ ∃ ch, p ch = true := by
  simp [anyLane]

theorem anyLane_eq_false (p : Channel → Bool) : anyLane p = false ↔ ∀ ch, p ch = false := by
  simp [anyLane]

def active : Bool := i.playing && decide (s.beatPosition < i.totalBeats) && anyLane i.channelMask

def need (ch : Channel) : Bool := i.channelMask ch && !s.sent ch

def fire (ch : Channel) : Bool :=
  s.active i && s.need i ch && !s.silencePending ch && i.fifoValid ch && i.dacReady ch

def beatFire : Bool := s.active i && !anyLane fun ch => !(s.sent ch || s.fire i ch || !i.channelMask ch)

def beatLast : Bool := s.beatPosition + 1 = i.totalBeats

def underflow : Bool := s.active i && anyLane fun ch => s.need i ch && !i.fifoValid ch

def firstTransfer : Bool := anyLane (s.fire i) && !s.firstSent

def dacValid (ch : Channel) : Bool :=
  if !i.playing || !i.channelMask ch || s.silencePending ch then true
  else s.active i && !s.sent ch && i.fifoValid ch

def step : DacStream :=
  let silencePending := fun ch =>
    if !i.playing then !i.dacReady ch
    else if s.silencePending ch && i.dacReady ch then false
    else s.silencePending ch
  if i.clear then { DacStream.reset with silencePending := silencePending }
  else
    { sent := if s.beatFire i then fun _ => false else fun ch => s.sent ch || s.fire i ch
      firstSent := s.firstTransfer i || s.firstSent
      silencePending := silencePending
      beatPosition := if s.beatFire i then s.beatPosition + 1 else s.beatPosition
      underflowCount :=
        if s.underflow i && s.underflowCount ≠ 0xffffffff then s.underflowCount + 1 else s.underflowCount }

end DacStream

end Xczu47dr.Playback
