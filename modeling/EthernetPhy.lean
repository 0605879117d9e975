import EthernetPhy.Bench.Step
import EthernetPhy.Register.Catalogue
import EthernetPhy.Proofs.Ensures
import EthernetPhy.Proofs.Events
import EthernetPhy.Proofs.Waits
import EthernetPhy.Proofs.SettledState
import EthernetPhy.Proofs.SimulatedFrames
import EthernetPhy.Proofs.Actions
import EthernetPhy.Proofs.LinkEdges
import EthernetPhy.Proofs.FirstFault
import EthernetPhy.Proofs.SweepAndReset
import EthernetPhy.Proofs.FailFast
import EthernetPhy.Proofs.PageKeeping
import EthernetPhy.Proofs.PhyTraces
import EthernetPhy.Proofs.SteadyLink
import EthernetPhy.Proofs.NestedPages
import EthernetPhy.Proofs.Landing
import EthernetPhy.Proofs.UpdatesInOrder
import EthernetPhy.Proofs.Footprints
import EthernetPhy.Proofs.ReplyVerdicts
import EthernetPhy.Proofs.ResetCountdown
import EthernetPhy.Proofs.Installation
import EthernetPhy.Proofs.BringUp
import EthernetPhy.Proofs.ForcedLink
import EthernetPhy.Proofs.HealthyBringUp
import EthernetPhy.Proofs.BringUpOrder
import EthernetPhy.Proofs.Retry
import EthernetPhy.Proofs.PendingReset
import EthernetPhy.Proofs.PartialInstallation
import EthernetPhy.Proofs.RecordKeeping
import EthernetPhy.Proofs.Provenance
import EthernetPhy.Proofs.SinglePhy
import EthernetPhy.Proofs.FlatStore
import EthernetPhy.Proofs.SharedBus
import EthernetPhy.Proofs.AddressDiscipline
import EthernetPhy.Proofs.HarmlessWrites
import EthernetPhy.Proofs.SweepVerdict
import EthernetPhy.Proofs.NegotiationFrames
import EthernetPhy.Proofs.ModeCommands
import EthernetPhy.Proofs.RaisedBounds
import EthernetPhy.Proofs.Budgets
import EthernetPhy.Proofs.NewLinkWaits
import EthernetPhy.Proofs.SharedModes
import EthernetPhy.Proofs.SeparateLine
import EthernetPhy.Proofs.Warnings
import EthernetPhy.Proofs.BorrowedBuses
import EthernetPhy.Proofs.PreparedReads
import EthernetPhy.Program.Part
import EthernetPhy.Transceiver.Driver
import EthernetPhy.Proofs.KeyedMaps
