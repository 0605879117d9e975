/-!
# Words and addresses on the management bus

A management frame names a PHY and one of its registers and carries one 16-bit word.  The address
fields of a frame are five bits wide, but callers hold addresses in a byte; whether one fits is
checked by `checkAddress` in `EthernetPhy.Bus.Basic`.

* `Word.test` asks for any bit of a mask;
* `Word.update` clears some bits and then sets others, the only way this library changes a
  register that it does not overwrite as a whole.
-/

namespace EthernetPhy

/-- Address of a PHY on the bus. -/
abbrev PhyAddress := UInt8

/-- Number of a register inside a PHY. -/
abbrev RegAddress := UInt8

/-- Content of a register, or a mask that selects some of its bits. -/
abbrev Word := BitVec 16

/-- The highest PHY address that a frame can carry. -/
def PhyAddress.max : PhyAddress := 31

/-- The number of PHY addresses on one bus. -/
def PhyAddress.count : Nat := 32

/-- Every PHY address of the bus, in increasing order. -/
def PhyAddress.all : List PhyAddress := (List.range PhyAddress.count).map UInt8.ofNat

theorem PhyAddress.pairwise_all : PhyAddress.all.Pairwise (· < ·) := by decide

theorem PhyAddress.mem_all {phy : PhyAddress} : phy ∈ PhyAddress.all ↔ phy ≤ PhyAddress.max := by
  constructor
  · exact (by decide +kernel : ∀ phy ∈ PhyAddress.all, phy ≤ PhyAddress.max) phy
  · intro h
    have hlt : phy.toNat < PhyAddress.count := Nat.lt_succ_of_le (UInt8.le_iff_toNat_le.1 h)
    exact List.mem_map.2 ⟨phy.toNat, List.mem_range.2 hlt, UInt8.ofNat_toNat⟩

/-- The highest register number that a frame can carry. -/
def RegAddress.max : RegAddress := 31

namespace Word

/-- Whether at least one bit of `mask` is set in `v`. -/
def test (v mask : Word) : Bool := v &&& mask != 0

/-- `v` with the bits of `clear` cleared and then the bits of `set` set. -/
def update (v clear set : Word) : Word := (v &&& ~~~clear) ||| set

/-- Bit `i` after an update: set if `set` has it, else kept unless `clear` has it. -/
theorem getLsbD_update (v clear set : Word) (i : Nat) :
    (v.update clear set).getLsbD i = (set.getLsbD i || v.getLsbD i && !clear.getLsbD i) := by
  by_cases h : i < 16
  · simp [update, h, Bool.or_comm]
  · simp [update, BitVec.getLsbD_of_ge _ i (Nat.le_of_not_lt h)]

theorem test_eq_false_iff (v mask : Word) : v.test mask = false ↔ v &&& mask = 0 := by
  simp [test]

end Word

end EthernetPhy
