import EthernetPhy.Proofs.Footprints

/-!
# Operations that only look at the link

The operations that follow the link read basic mode status and the status word, wait and log, and
ask for nothing else.  So they write nothing, and they see of a PHY no more than these two registers.
-/

namespace EthernetPhy

/-- What may be asked by who only looks at the link. -/
def Request.looks : Request → Bool
  | .read _ reg => reg = Register.bmsr || reg = Register.physr
  | .write .. => false
  | .delay _ | .drive _ | .log _ => true

/-- A request of an operation that only looks at the link. -/
abbrev Looking (q : Request) : Prop := q.looks = true

section

open Footprint

variable {phy : PhyAddress}

theorem Footprint.Allows.looking {q : Request} (h : (status ++ speed ++ waiting).Allows phy q) :
    Looking q := by
  refine h.elim (P := Looking) (fun reg hreg => ?_) (fun reg hreg => ?_) (fun _ _ => rfl)
    fun _ => rfl
  · have hreg : reg ∈ [Register.bmsr, Register.physr] := hreg
    obtain rfl | rfl : reg = Register.bmsr ∨ reg = Register.physr := by simpa using hreg
    · rfl
    · rfl
  · cases hreg

namespace Transceiver

theorem linkMode_asks : PhyM.Asks Looking (linkMode phy) :=
  linkMode_within.mono fun _ h => (h.mono subset_append_left).looking

theorem newLink_asks : RecordM.Asks Looking newLink := fun r =>
  (newLink_within r rfl).mono fun _ _ h e he => ((h.1 e he).mono subset_append_left).looking

theorem settledState_asks (settings : Settings) : RecordM.Asks Looking (settledState settings) :=
  fun r => (settledState_within settings r rfl).mono fun _ _ h e he => (h.1 e he).looking

end Transceiver

end

end EthernetPhy
