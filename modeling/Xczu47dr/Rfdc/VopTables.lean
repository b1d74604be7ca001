import Mathlib.Data.BitVec
import Xczu47dr.Clocked.Indices

/-! # The VOP coefficient tables

The analog settings `rfdc_runtime_config_pl` writes for an output current, by
`vop_opt_index`; an AC-coupled channel and a DC-coupled one have their own.
-/

namespace Xczu47dr.Rfdc

/-- `bldr_ac` -/
def bldrAc (index : Nat) : BitVec 16 :=
  BitVec.ofNat 16 <| [
    22542, 26637, 27661, 27661, 28686, 28686, 29710, 29711, 30735, 30735, 31760, 31760, 32784, 32785,
    33809, 33809, 34833, 34833, 35857, 36881, 37906, 38930, 38930, 39954, 40978, 42003, 43027, 43027,
    44051, 45075, 46100, 47124, 48148, 49172, 50196, 51220, 52245, 53269, 53269, 54293, 55317, 56342,
    57366, 58390, 58390, 58390, 59415, 59415, 59415, 59415, 60439, 60439, 60439, 60439, 60439, 60440,
    62489, 62489, 63514, 63514, 63514, 64539, 64539, 64539].getD index 0

/-- `bldr_dc` -/
def bldrDc (index : Nat) : BitVec 16 :=
  if index < 7 then 0
  else if index < 16 then BitVec.ofNat 16 (21526 + (index - 7) * 1024)
  else if index < 44 then BitVec.ofNat 16 (30742 + (index - 16) * 1024)
  else 0

/-- `csc_bldr_ac` -/
def cscBldrAc (index : Nat) : BitVec 16 :=
  if index < 16 then 0xC000 else if index < 32 then 0xA000 else if index < 48 then 0x8000 else 0x6000

/-- `csc_bldr_dc` -/
def cscBldrDc (index : Nat) : BitVec 16 :=
  if index < 7 then 0
  else if index < 16 then 0xC000
  else if index < 24 then 0xA000
  else if index < 32 then 0x8000
  else if index < 40 then 0x6000
  else if index < 44 then 0x4000
  else 0

/-- `csc_bias_ac` -/
def cscBiasAc (index : Nat) : BitVec 5 :=
  BitVec.ofNat 5 <| [
    0, 0, 0, 0, 0, 0, 1, 1, 1, 1, 1, 1, 2, 2, 2, 2, 2, 2, 3, 3, 3, 3, 5, 5, 5, 5, 5, 5, 6, 7, 8, 9, 10, 11,
    11, 12, 12, 13, 13, 14, 14, 15, 15, 16, 16, 17, 18, 19, 20, 21, 22, 23, 24, 25, 26, 27, 28, 29, 30, 31,
    31, 31, 31, 31].getD index 0

/-- `csc_bias_dc` -/
def cscBiasDc (index : Nat) : BitVec 5 := if index < 44 then cscBiasAc index else 0

/-- The channels that take the `_dc` tables. -/
def dcCoupled (channel : Fin 8) : Bool := channel == 4 || channel == 5

end Xczu47dr.Rfdc
