import Mathlib.Algebra.BigOperators.Group.List.Basic
import Xczu47dr.Effects.Refusals
import Xczu47dr.Host.InterleavedLayout

/-! # The waveform formats of the host

`waveforms.py`: the forms in which a caller may hand over the I and Q samples of a channel, and
the interleaved 16-bit lanes and packed 32-bit words they are converted to.
-/

namespace Xczu47dr.Host

open Refusals

/-- `np.asarray(wave)` of whole numbers: its shape, and its items in row-major order. -/
structure WaveArray where
  shape : List Nat
  items : List Int
  complete : items.length = shape.prod

inductive WaveformFormatError
  | format (text : String)
  deriving DecidableEq

abbrev PackedWord := BitVec 32

/-- The cast to `<i2`, which keeps the low bits. -/
def int16 (item : Int) : Sample := BitVec.ofInt 16 item

/-- The cast to `<i4` -/
def int32 (item : Int) : PackedWord := BitVec.ofInt 32 item

/-- `values[0::2]` -/
def everyOther {α : Type} : List α → List α
  | [] => []
  | [a] => [a]
  | a :: _ :: rest => a :: everyOther rest

/-- `out[0::2], out[1::2] = i_data, q_data` -/
def interleave (iData qData : List Sample) : List Sample := (iData.zip qData).flatMap fun (i, q) => [i, q]

/-- `packed.view("<i2")` -/
def PackedWord.lanes (word : PackedWord) : List Sample := [word.extractLsb' 0 16, word.extractLsb' 16 16]

def iqMatrixFormats : List String := ["iq_matrix", "iq", "matrix"]
def packedFormats : List String := ["packed_iq", "packed"]
def interleavedFormats : List String := ["interleaved_iq", "interleaved", "iq_interleaved"]
def realFormats : List String := ["z", "real", "z_real"]

/-- The rows, or else the columns, of a matrix. -/
def WaveArray.iq (wave : WaveArray) : Except WaveformFormatError (List Int × List Int) :=
  match wave.shape with
  | [rows, columns] =>
    if rows = 2 then .ok (wave.items.take columns, wave.items.drop columns)
    else if columns = 2 then .ok (everyOther wave.items, everyOther (wave.items.drop 1))
    else .error (.format "iq_matrix wave must have exactly two I/Q axes")
  | _ => .error (.format "iq_matrix wave must be 2-D with row/column I and Q")

def ezqWaveToInterleavedInt16 (wave : WaveArray) (waveFormat : String) : Except WaveformFormatError (List Sample) := do
  if waveFormat ∈ iqMatrixFormats then
    let (iRow, qRow) ← wave.iq
    let iData := iRow.map int16
    let qData := qRow.map int16
    if iData.length ≠ qData.length then
      throw (.format "I and Q vectors must have the same length")
    return interleave iData qData
  else if waveFormat ∈ packedFormats then
    return (wave.items.map int32).flatMap PackedWord.lanes
  else if waveFormat ∈ interleavedFormats then
    let interleaved := wave.items.map int16
    if interleaved.length % 2 ≠ 0 then
      throw (.format "interleaved_iq wave must contain an even number of int16 lanes")
    return interleaved
  else if waveFormat ∈ realFormats then
    let real := wave.items.map int16
    return interleave real (List.replicate real.length 0)
  else throw (.format s!"unsupported waveform format: {waveFormat}")

/-- `waveform_length_bytes` of so many samples -/
def waveformLengthBytes (size : Nat) : Nat := alignBytesToBeat (size * 2)

/-! ## Words and lanes -/

def WaveArray.row (items : List Int) : WaveArray := ⟨[items.length], items, (List.prod_singleton).symm⟩

end Xczu47dr.Host
