import Mathlib.Data.BitVec
import Mathlib.Tactic.SplitIfs
import Xczu47dr.Bandwidth.CommandExecutor

/-! # The commands of a lane

A lane, which is a channel or the one interleaved region, against the region it was
loaded with and the commands it has sent of it.
-/

namespace Xczu47dr.Bandwidth

/-- A transfer of the DataMover. -/
structure DmCommand where
  addr : BitVec 64
  bytes : Nat
  deriving DecidableEq

namespace DmCommand

def ofCmdData (data : BitVec 104) : DmCommand := ⟨data.extractLsb' 32 64, (data.extractLsb' 0 23).toNat⟩

def beats (c : DmCommand) : List (BitVec 64) :=
  (List.range (c.bytes / 64)).map fun j => c.addr + BitVec.ofNat 64 (64 * j)

def Fits (c : DmCommand) : Prop := 0 < c.bytes ∧ c.bytes ≤ 64 * chunkBeats ∧ 64 ∣ c.bytes

end DmCommand

/-- A region of the memory that a PLAY names. -/
structure Region where
  addr : BitVec 64
  bytes : Nat
  deriving DecidableEq

namespace Region

def none : Region := ⟨0, 0⟩

def beats (base : BitVec 64) (r : Region) (count : Nat) : List (BitVec 64) :=
  (List.range count).map fun j => base + r.addr + BitVec.ofNat 64 (64 * j)

end Region

theorem ofCmdData_makeDmCmd (absAddr : BitVec 64) {bytes : Nat} (fits : bytes < 2 ^ 23) :
    DmCommand.ofCmdData (makeDmCmd absAddr bytes) = ⟨absAddr, bytes⟩ := by
  have length : ((makeDmCmd absAddr bytes).extractLsb' 0 23).toNat = bytes := by
    rw [makeDmCmd, BitVec.extractLsb'_append_eq_right, BitVec.toNat_ofNat, Nat.mod_eq_of_lt fits]
  have address : (makeDmCmd absAddr bytes).extractLsb' 32 64 = absAddr := by
    -- below the address lie the length and four constant fields
    rw [makeDmCmd, BitVec.extractLsb'_append_eq_of_le (by decide), BitVec.extractLsb'_append_eq_of_le (by decide),
      BitVec.extractLsb'_append_eq_of_le (by decide), BitVec.extractLsb'_append_eq_of_le (by decide),
      BitVec.extractLsb'_append_eq_of_le (by decide)]
    exact BitVec.extractLsb'_append_eq_right
  rw [DmCommand.ofCmdData, length, address]

/-- The beats of a command that starts where the others end are the next ones. -/
theorem beats_append (base : BitVec 64) (r : Region) (count more : Nat) :
    r.beats base count ++ DmCommand.beats ⟨base + (r.addr + BitVec.ofNat 64 (64 * count)), 64 * more⟩ =
      r.beats base (count + more) := by
  rw [Region.beats, Region.beats, DmCommand.beats, List.range_add, List.map_append, List.map_map,
    Nat.mul_div_cancel_left more (by decide : 0 < 64)]
  congr 1
  apply List.map_congr_left
  intro j _
  change base + (r.addr + BitVec.ofNat 64 (64 * count)) + BitVec.ofNat 64 (64 * j) = _
  rw [Function.comp_apply, Nat.mul_add, BitVec.ofNat_add, ← BitVec.add_assoc, ← BitVec.add_assoc]

/-! ## A lane and its region -/

/-- What a loaded lane has sent, and what it has left. -/
structure Sent (base : BitVec 64) (lane : ChannelState) (r : Region) (issued : List DmCommand) (count : Nat) :
    Prop where
  tiles : issued.flatMap DmCommand.beats = r.beats base count
  fit : ∀ c ∈ issued, c.Fits
  left : 64 * count + lane.bytesLeft = r.bytes
  next : lane.baseAddr = r.addr + BitVec.ofNat 64 (64 * count)
  active : lane.activeValid = (lane.bytesLeft != 0)

/-- A lane has taken its load over, or will at the next edge. -/
inductive Lane (base : BitVec 64) (lane : ChannelState) (l : Load) (r : Region) (issued : List DmCommand) : Prop
  | settled (count : Nat) (edge : lane.loadTogD = l.tog) (sent : Sent base lane r issued count)
  | awaiting (edge : lane.loadTogD ≠ l.tog) (addr : l.addr = r.addr) (bytes : l.bytes = r.bytes)
      (empty : issued = []) (idle : lane.bytesLeft = 0)

variable {base : BitVec 64} {lane : ChannelState} {l : Load} {r : Region} {issued : List DmCommand} {count : Nat}

theorem sent_cleared (tog : Bool) : Sent base (.cleared tog) .none [] 0 where
  tiles := rfl
  fit := nofun
  left := rfl
  next := by simp [ChannelState.cleared, Region.none]
  active := rfl

theorem sent_loaded (addr : l.addr = r.addr) (bytes : l.bytes = r.bytes) (edge : lane.loadTogD ≠ l.tog) :
    Sent base (lane.load l) r [] 0 := by
  rw [ChannelState.load, if_pos edge]
  refine ⟨rfl, nofun, ?_, ?_, ?_⟩
  · exact (Nat.zero_add _).trans bytes
  · simpa using addr
  · by_cases none : l.bytes = 0 <;> simp [none]

theorem load_settled (edge : lane.loadTogD = l.tog) : lane.load l = lane := by
  rw [ChannelState.load, if_neg (not_not.mpr edge)]

theorem load_tog : (lane.load l).loadTogD = l.tog := by
  rw [ChannelState.load]
  split_ifs with edge
  · rfl
  · exact not_not.mp edge

/-- A lane that sends nothing only takes its load over. -/
theorem Lane.rests (held : Lane base lane l r issued) (width bytes : Nat) :
    ∃ count, Sent base (lane.step width l false bytes) r issued count ∧
      (lane.step width l false bytes).loadTogD = l.tog := by
  rw [ChannelState.step, if_neg Bool.false_ne_true]
  cases held with
  | settled count edge sent => exact ⟨count, by rwa [load_settled edge], load_tog⟩
  | awaiting edge addr bytes empty _ => exact ⟨0, empty ▸ sent_loaded addr bytes edge, load_tog⟩

theorem Sent.sends (sent : Sent base lane r issued count) (edge : lane.loadTogD = l.tog) {width : Nat}
    (narrow : r.bytes < 2 ^ width) {beats : Nat} (some_beats : 0 < beats) (short : beats ≤ chunkBeats)
    (within : 64 * beats ≤ lane.bytesLeft) :
    Sent base (lane.step width l true (64 * beats)) r (issued ++ [⟨base + lane.baseAddr, 64 * beats⟩])
        (count + beats) ∧
      (lane.step width l true (64 * beats)).loadTogD = l.tog := by
  have left := sent.left
  have remains : (lane.bytesLeft + 2 ^ width - 64 * beats) % 2 ^ width = lane.bytesLeft - 64 * beats := by
    rw [show lane.bytesLeft + 2 ^ width - 64 * beats = lane.bytesLeft - 64 * beats + 2 ^ width by omega,
      Nat.add_mod_right, Nat.mod_eq_of_lt (by omega)]
  rw [ChannelState.step, if_pos rfl, load_settled edge, remains]
  refine ⟨⟨?_, ?_, ?_, ?_, ?_⟩, edge⟩
  · rw [List.flatMap_append, sent.tiles, List.flatMap_cons, List.flatMap_nil, List.append_nil, sent.next, beats_append]
  · intro c mem
    rcases List.mem_append.mp mem with earlier | last
    · exact sent.fit c earlier
    · rw [List.mem_singleton.mp last]
      exact ⟨by dsimp only; omega, Nat.mul_le_mul_left 64 short, Nat.dvd_mul_right 64 beats⟩
  · dsimp only
    omega
  · change lane.baseAddr + BitVec.ofNat 64 (64 * beats) = _
    rw [sent.next, Nat.mul_add, BitVec.ofNat_add, BitVec.add_assoc]
  · change (if lane.bytesLeft = 64 * beats then false else lane.activeValid) = (lane.bytesLeft - 64 * beats != 0)
    split_ifs with last
    · rw [last, Nat.sub_self]
      rfl
    · rw [sent.active]
      have before : lane.bytesLeft ≠ 0 := by omega
      have after : lane.bytesLeft - 64 * beats ≠ 0 := by omega
      rw [bne_iff_ne.mpr before, bne_iff_ne.mpr after]

theorem beats_ne_nil {c : DmCommand} (fits : c.Fits) : c.beats ≠ [] := by
  obtain ⟨positive, -, whole⟩ := fits
  rw [DmCommand.beats, Ne, List.map_eq_nil_iff, List.range_eq_nil]
  omega

theorem Sent.of_empty (sent : Sent base lane r issued count) (empty : r.bytes = 0) :
    issued = [] ∧ lane.bytesLeft = 0 ∧ count = 0 := by
  have left := sent.left
  obtain rfl : count = 0 := by omega
  refine ⟨?_, by omega, rfl⟩
  have tiles := sent.tiles
  rw [Region.beats, List.range_zero, List.map_nil, List.flatMap_eq_nil_iff] at tiles
  exact List.eq_nil_iff_forall_not_mem.mpr fun c mem => beats_ne_nil (sent.fit c mem) (tiles c mem)

end Xczu47dr.Bandwidth
