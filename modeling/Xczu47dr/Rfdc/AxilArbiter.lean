import Xczu47dr.Rfdc.AxilTransaction

/-! # The AXI-Lite arbiter

`axilite_arbiter_2to1`: two masters before one slave.  A grant is held from the
first request through the response, and in an idle cycle it goes to the first
request at once.
-/

namespace Xczu47dr.Rfdc

/-- What an AXI-Lite master drives in one cycle. -/
structure AxilDrive where
  awaddr : BitVec 18
  awvalid : Bool
  wdata : BitVec 32
  wstrb : BitVec 4
  wvalid : Bool
  bready : Bool
  araddr : BitVec 18
  arvalid : Bool
  rready : Bool
  deriving DecidableEq, Inhabited

/-- The masters of `axilite_arbiter_2to1`. -/
inductive Master
  | s0
  | s1
  deriving DecidableEq

/-- `S0_WRITE` is `write s0`, and so on. -/
inductive Grant
  | idle
  | write (m : Master)
  | read (m : Master)
  deriving DecidableEq

namespace Grant

variable (g : Grant) (d : Master → AxilDrive) (i : AxilIn)

/-- `use_s0_write` to `use_s1_read`: the grant, or what `idle_s0_write` to
    `idle_s1_read` make of an idle one. -/
def use : Grant :=
  if g = idle then
    if (d .s0).awvalid || (d .s0).wvalid then write .s0
    else if (d .s0).arvalid then read .s0
    else if (d .s1).awvalid || (d .s1).wvalid then write .s1
    else if (d .s1).arvalid then read .s1
    else idle
  else g

def drive : AxilDrive :=
  let u := g.use d
  { awaddr := if u = write .s1 then (d .s1).awaddr else (d .s0).awaddr
    awvalid := if u = write .s0 then (d .s0).awvalid else if u = write .s1 then (d .s1).awvalid else false
    wdata := if u = write .s1 then (d .s1).wdata else (d .s0).wdata
    wstrb := if u = write .s1 then (d .s1).wstrb else (d .s0).wstrb
    wvalid := if u = write .s0 then (d .s0).wvalid else if u = write .s1 then (d .s1).wvalid else false
    bready := if u = write .s0 then (d .s0).bready else if u = write .s1 then (d .s1).bready else false
    araddr := if u = read .s1 then (d .s1).araddr else (d .s0).araddr
    arvalid := if u = read .s0 then (d .s0).arvalid else if u = read .s1 then (d .s1).arvalid else false
    rready := if u = read .s0 then (d .s0).rready else if u = read .s1 then (d .s1).rready else false }

/-- The outputs towards the master `m`. -/
def reply (m : Master) : AxilIn where
  awready := g.use d = write m && i.awready
  wready := g.use d = write m && i.wready
  bresp := i.bresp
  bvalid := g.use d = write m && i.bvalid
  arready := g.use d = read m && i.arready
  rdata := i.rdata
  rresp := i.rresp
  rvalid := g.use d = read m && i.rvalid

/-- One clock edge of `axilite_arbiter_2to1`. -/
def step : Grant :=
  match g with
  | idle => g.use d
  | write m => if i.bvalid && (d m).bready then idle else g
  | read m => if i.rvalid && (d m).rready then idle else g

/-! ## What a grant lets through -/

variable {g} {d} {m : Master}

@[simp] theorem use_write : (write m).use d = write m := rfl

@[simp] theorem use_read : (read m).use d = read m := rfl

/-- The masters' requests decide where an idle grant goes. -/
theorem use_cases (free : g = idle) :
    g.use d = idle ∧ (∀ m, (d m).awvalid = false ∧ (d m).wvalid = false ∧ (d m).arvalid = false) ∨
      (∃ m, g.use d = write m ∧ ((d m).awvalid || (d m).wvalid) = true) ∨
        ∃ m, g.use d = read m ∧ (d m).arvalid = true := by
  unfold use
  rw [if_pos free]
  split_ifs with write0 read0 write1 read1
  · exact .inr (.inl ⟨.s0, rfl, write0⟩)
  · exact .inr (.inr ⟨.s0, rfl, read0⟩)
  · exact .inr (.inl ⟨.s1, rfl, write1⟩)
  · exact .inr (.inr ⟨.s1, rfl, read1⟩)
  · rw [Bool.not_eq_true, Bool.or_eq_false_iff] at write0 write1
    refine .inl ⟨rfl, fun m => ?_⟩
    cases m with
    | s0 => exact ⟨write0.1, write0.2, eq_false_of_ne_true read0⟩
    | s1 => exact ⟨write1.1, write1.2, eq_false_of_ne_true read1⟩

/-- A write grant lets the channels of its master through, and no read. -/
structure Writes (u d : AxilDrive) : Prop where
  awaddr : u.awaddr = d.awaddr
  awvalid : u.awvalid = d.awvalid
  wdata : u.wdata = d.wdata
  wstrb : u.wstrb = d.wstrb
  wvalid : u.wvalid = d.wvalid
  bready : u.bready = d.bready
  arvalid : u.arvalid = false
  rready : u.rready = false

/-- A read grant lets the channels of its master through, and no write. -/
structure Reads (u d : AxilDrive) : Prop where
  araddr : u.araddr = d.araddr
  arvalid : u.arvalid = d.arvalid
  rready : u.rready = d.rready
  awvalid : u.awvalid = false
  wvalid : u.wvalid = false
  bready : u.bready = false

theorem drive_write (used : g.use d = write m) : Writes (g.drive d) (d m) := by
  cases m <;> constructor <;> simp [drive, used]

theorem drive_read (used : g.use d = read m) : Reads (g.drive d) (d m) := by
  cases m <;> constructor <;> simp [drive, used]

/-- Without a request nothing goes to the slave. -/
theorem drive_idle (unused : g.use d = idle) : (g.drive d).awvalid = false ∧ (g.drive d).wvalid = false ∧
    (g.drive d).arvalid = false := by
  simp [drive, unused]

end Grant

end Xczu47dr.Rfdc
