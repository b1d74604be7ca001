import Xczu47dr.Clocked.Machine
import Xczu47dr.Signed.FixedPoint

/-! # The fractional delay

`iq_fractional_delay_8ppc`: eight pairs of I and Q a cycle through sixteen
coefficients, which a ROM holds for every phase.  An array of registers is a
function of the index, of which the source has the first ones.
-/

namespace Xczu47dr.Delay

open Clocked Signed

/-- The inputs at an edge of `clk`. -/
structure DelayIn where
  rstN : Bool
  clear : Bool
  configValid : Bool
  delaySamples : BitVec 3
  fractionalPhase : BitVec 6
  sourceData : BitVec 256
  sourceValid : Bool

/-- The two halves of a pair. -/
inductive Rail
  | i
  | q
  deriving DecidableEq

def Rail.offset : Rail → Nat
  | .i => 0
  | .q => 16

/-- `data[lane*32 + offset +: 16]` -/
def laneOf (rail : Rail) (data : BitVec 256) (lane : Nat) : BitVec 16 := data.extractLsb' (lane * 32 + rail.offset) 16

/-- The word whose lanes are `values`. -/
def ofLanes (values : Rail → Nat → BitVec 16) : BitVec 256 :=
  (BitVec.ofBoolListLE (List.ofFn fun bit : Fin 256 =>
    (values (if bit.val % 32 < 16 then .i else .q) (bit / 32)).getLsbD (bit % 16))).setWidth 256

/-- The registers of one rail. -/
structure RailState where
  history : Nat → BitVec 16
  samples : Nat → BitVec 16
  products : Nat → BitVec 34
  sum1 : Nat → BitVec 35
  sum2 : Nat → BitVec 36
  sum3 : Nat → BitVec 37
  sum4 : Nat → BitVec 38

structure DelayState where
  delayHold : BitVec 3
  phaseHold : BitVec 6
  rails : Rail → RailState
  validPipe : BitVec 7
  tailCount : Nat
  outData : BitVec 256
  clipPulse : Bool

/-- `rounded` -/
def rounded (value : BitVec 38) : BitVec 39 :=
  let extended := value.signExtend 39
  if extended.slt 0 then -((-extended + 32768).sshiftRight 16) else (extended + 32768).sshiftRight 16

/-- `saturate` -/
def saturated (value : BitVec 38) : BitVec 16 :=
  if BitVec.slt 32767 (rounded value) then 0x7fff
  else if (rounded value).slt (-32768) then 0x8000
  else (rounded value).setWidth 16

/-- `clips` -/
def clips (value : BitVec 38) : Bool := BitVec.slt 32767 (rounded value) || (rounded value).slt (-32768)

/-- A sample of the source, and zero in a cycle that is not valid. -/
def DelayIn.sample (i : DelayIn) (rail : Rail) (lane : Nat) : BitVec 16 :=
  if i.sourceValid then laneOf rail i.sourceData lane else 0

/-- Everything that was under way is dropped. -/
def DelayIn.flushes (i : DelayIn) : Bool := !i.rstN || i.clear || i.configValid

namespace RailState

variable (r : RailState)

/-- The registers behind the samples, which no reset clears. -/
def arithmetic (coefficient : Nat → BitVec 18) : RailState :=
  { r with
    products := fun g => (r.samples g).signExtend 34 * (coefficient (g % 16)).signExtend 34
    sum1 := addPairs r.products
    sum2 := addPairs r.sum1
    sum3 := addPairs r.sum2
    sum4 := addPairs r.sum3 }

/-- A word comes in: the history moves on by eight, and every lane takes its sixteen samples. -/
def takeIn (delay : Nat) (source : Nat → BitVec 16) : RailState :=
  { r with
    history := fun h => if h < 8 then source (7 - h) else r.history (h - 8)
    samples := fun g =>
      let index : Int := (g / 16 : Nat) - (delay : Int) - (g % 16 : Nat)
      if 0 ≤ index then source index.toNat else r.history (-index - 1).toNat }

end RailState

namespace DelayState

variable (coefficients : BitVec 6 → BitVec 288) (s : DelayState) (i : DelayIn)

/-- `coefficients[k*18 +: 18]` -/
def coefficient (k : Nat) : BitVec 18 := (coefficients s.phaseHold).extractLsb' (k * 18) 18

/-- `work_valid` -/
def workValid : Bool := i.sourceValid || s.tailCount != 0

/-- `busy` -/
def busy : Bool := !i.flushes && (i.sourceValid || s.tailCount != 0 || s.validPipe != 0)

/-- One edge of `clk`. -/
def step : DelayState :=
  let t := { s with rails := fun rail => (s.rails rail).arithmetic (s.coefficient coefficients) }
  if i.flushes then
    { t with
      delayHold := if !i.rstN then 0 else if i.configValid then i.delaySamples else s.delayHold
      phaseHold := if !i.rstN then 0 else if i.configValid then i.fractionalPhase else s.phaseHold
      outData := 0
      clipPulse := false
      validPipe := 0
      tailCount := 0
      rails := fun rail => { t.rails rail with history := fun _ => 0 } }
  else
    { t with
      validPipe := s.validPipe.extractLsb' 0 6 ++ BitVec.ofBool (s.workValid i)
      tailCount := if i.sourceValid then 3 else s.tailCount - 1
      rails := fun rail => (t.rails rail).takeIn s.delayHold.toNat (i.sample rail)
      outData := if s.validPipe.getLsbD 5 then ofLanes fun rail lane => saturated ((s.rails rail).sum4 lane) else 0
      clipPulse := s.validPipe.getLsbD 5 &&
        (List.range 8).any fun lane => clips ((s.rails .i).sum4 lane) || clips ((s.rails .q).sum4 lane) }

end DelayState

/-- The rows of `iq_fractional_delay_coeffs`, sixteen coefficients of 18 bits each. -/
def coefficientTable : List (BitVec 288) :=
  [ 0x000000000000000000000000000000000000400000000000000000000000000000000000,
    0x000000003fffc8002affe6400dcff908040f3fe77fc990051bff78000d3fff00000c0000,
    0x000000006fff940054ffcc801b9ff200083a3fc17f95100a17fef2001a3ffe00001c0000,
    0xffffc0009fff5c007effb280297feae40c813f90bf62800ef7fe6e0026bffd00002bffff,
    0xffffc000cfff2800a8ff98c0375fe3bc10e33f52bf31d013b7fded00333ffc000037ffff,
    0xffffc000effef000d2ff7f00454fdc8c155e3f087f03301857fd6e003f7ffb100043ffff,
    0xffffc0011ffebc00fbff6540531fd55419f13eb23ed6901cd7fcf3004b7ffa20004fffff,
    0xffffc0014ffe880124ff4c0060efce201e9c3e4e7eac00212ffc7b00573ff940005fffff,
    0xffffc0017ffe54014dff32c06e8fc6ec235c3de0fe83702563fc0600627ff850006bfffe,
    0xffff80019ffe200174ff1a007c1fbfc028313d673e5d00296ffb95006d7ff7800073fffe,
    0xffff8001cffdf0019cff0180897fb89c2d183ce17e38a02d4ffb2900783ff6a0007ffffe,
    0xffff8001fffdbc01c2fee980969fb18832123c50be16603107fac000827ff5d0008bfffe,
    0xffff80021ffd9001e8fed240a38faa88371c3bb3fdf640348ffa5c008c3ff5100097fffe,
    0xffff80024ffd60020cfebb40b03fa3a03c353b0d3dd83037ebf9fc0095bff450009ffffe,
    0xffff80026ffd340230fea500bc9f9cd4415c3a5b7dbc403b17f9a1009ebff39000a7fffe,
    0xffff80028ffd080252fe8f40c89f9628468f399f3da2703e17f94b00a77ff2e000b3fffd,
    0xffff4002bffcdc0273fe7a40d45f8fa04bcc38d8fd8ac040dff8fa00af7ff24000bbfffd,
    0xffff4002dffcb40293fe6640dfaf8940511238087d7520437bf8ae00b6fff1a000c3fffd,
    0xffff4002fffc9002b1fe5300ea8f830c565f372ebd619045dff86700be3ff11000cbfffd,
    0xffff40031ffc6802cefe4080f4ff7d0c5bb2364bbd50104813f82500c4bff09000d3fffd,
    0xffff40032ffc4802eafe2f00feff773c6109355f3d40b04a13f7e900cafff01000d7fffd,
    0xffff40034ffc280304fe1e81087f71a8666334697d33504bdff7b300d07fefa000dffffd,
    0xffff40036ffc08031cfe0f01116f6c546bbe336c3d27e04d77f78200d57fef3000e3fffd,
    0xffff40037ffbec0332fe008119cf673c71183266bd1e804edbf75700d9ffeed000ebfffd,
    0xffff40038ffbd40347fdf34121af626c76703158fd17105007f73100ddffee8000effffd,
    0xffff4003affbbc0359fde70128df5de47bc33044bd11905103f71100e13fee4000f3fffc,
    0xffff0003bffba8036afddc012f7f59a881112f297d0df051c7f6f700e3ffee0000f3fffc,
    0xffff0003cffb940379fdd201356f55c086582e073d0c305257f6e200e63fedd000f7fffc,
    0xffff0003cffb840386fdc9813abf522c8b962cddfd0c3052b7f6d400e7ffedb000fbfffc,
    0xffff0003dffb780391fdc2413f4f4ef090c82baf7d0e1052dff6cb00e93fed9000fbfffc,
    0xffff0003effb700399fdbc41433f4c0c95ef2a7bbd119052d7f6c700e9bfed8000fbfffc,
    0xffff0003effb6803a0fdb781465f498c9b072942bd16d0529ff6c900e9bfed8000fbfffc,
    0xffff0003effb6003a4fdb44148cf4770a0102804bd1dc05233f6d100e93fed8000fbfffc,
    0xffff0003effb6003a6fdb2414a7f45b4a50a26c1fd26305197f6de00e83feda000fbfffc,
    0xffff0003effb6003a6fdb1c14b5f4464a9ee257bfd303050cff6f100e67fedc000fbfffc,
    0xffff0003effb6403a4fdb2c14b7f4384aebd24323d3bc04fd3f70900e47fede000f7fffc,
    0xffff0003effb6c039ffdb5014adf430cb37722e5bd48b04eaff72600e1bfee1000f3fffc,
    0xffff0003dffb740398fdb881495f430cb81c21963d57004d5bf74800de7fee5000f3fffc,
    0xffff0003cffb80038ffdbdc1471f437cbca520447d66a04bdff77000dabfeea000effffc,
    0xffff0003cffb900384fdc441440f4464c1121ef0fd77904a37f79c00d67feef000ebfffd,
    0xffff4003bffba00377fdcc41401f45c4c5631d9c3d89b0486bf7cd00d1ffef5000e3fffd,
    0xffff4003affbb40367fdd5c13b6f47a0c99a1c463d9cf04673f80200ccbfefb000dffffd,
    0xffff40038ffbcc0355fde08135df49f8cdb01aefbdb150445bf83c00c73ff02000dbfffd,
    0xffff40037ffbe80341fdecc12f7f4cd4d1a51998fdc6a0421ff87a00c13ff0a000d3fffd,
    0xffff40035ffc04032bfdfa41284f502cd57c18427ddcf03fbff8bc00babff12000cbfffd,
    0xffff40034ffc240312fe0941204f5404d92e16ecbdf4303d3ff90200b3bff1a000c7fffd,
    0xffff40032ffc4402f8fe19c1177f5864dcba1597fe0c303aa3f94c00ac7ff24000bffffd,
    0xffff40030ffc6802dbfe2b810def5d48e0211444be250037ebf99900a4fff2d000b7fffd,
    0xffff4002effc9002bdfe3e81037f62b0e36312f33e3e803517f9e9009cfff37000affffd,
    0xffff4002cffcb8029dfe52c0f85f689ce67c11a3fe58a03227fa3d0094bff42000a3fffe,
    0xffff80029ffce4027afe6840ec5f6f10e96d10573e73502f27fa94008c3ff4d0009bfffe,
    0xffff80027ffd140256fe7f00dfaf760cec340f0d7e8e802c0ffaed00833ff5800093fffe,
    0xffff80025ffd440230fe9700d23f7d90eecf0dc73eaa2028e3fb49007a3ff6400087fffe,
    0xffff80022ffd740209feb000c41f8598f1420c84bec62025a7fba60070bff6f0007ffffe,
    0xffff8001fffda801e0feca40b53f8e28f3850b463ee270225ffc0600673ff7c00073fffe,
    0xffff8001cffde001b5fee540a5bf9740f59c0a0c7eff001f07fc68005d3ff8800067fffe,
    0xffff8001affe140189ff0180958fa0dcf78308d73f1bb01ba3fccb00537ff950005fffff,
    0xffffc0017ffe50015cff1ec084bfab00f93907a73f3880183bfd3000493ffa200053ffff,
    0xffffc0013ffe88012dff3cc0735fb5a4fac8067c7f555014c7fd95003efffaf00047ffff,
    0xffffc0010ffec400fdff5b80615fc0ccfc210557bf72301153fdfc0034bffbc0003bffff,
    0xffffc000dfff0000ccff7b404edfcc74fd4a0438ff8ef00dd7fe63002a3ffca00033ffff,
    0xffffc000afff40009aff9b803bdfd8a0fe4203207fab900a5ffeca001fbffd700027ffff,
    0x000000007fff800068ffbc80285fe544ff05020ebfc80006e7ff3200153ffe5000180000,
    0x000000003fffc00034ffde00146ff264ff9d0103ffe4200373ff99000abfff20000c0000 ]

/-- `iq_fractional_delay_coeffs` -/
def fractionalDelayCoeffs (phase : BitVec 6) : BitVec 288 := coefficientTable.getD phase.toNat 0

/-- Registers before the first edge, of which nothing is known. -/
def DelayState.unknown : DelayState where
  delayHold := 0
  phaseHold := 0
  rails _ := ⟨fun _ => 0, fun _ => 0, fun _ => 0, fun _ => 0, fun _ => 0, fun _ => 0, fun _ => 0⟩
  validPipe := 0
  tailCount := 0
  outData := 0
  clipPulse := false

/-- `iq_fractional_delay_8ppc` as a machine. -/
def fractionalDelay (coefficients : BitVec 6 → BitVec 288) : Machine DelayIn DelayState where
  reset := .unknown
  step := DelayState.step coefficients

end Xczu47dr.Delay
