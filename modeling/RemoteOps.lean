import RemoteOps.Operation.FromText
import RemoteOps.ComponentRegistry
import RemoteOps.Platform.Scripted
import RemoteOps.Worker.System
import RemoteOps.Main
import RemoteOps.Proofs.Schedule
import RemoteOps.Proofs.Journal
import RemoteOps.Proofs.Platform.Hosted
import RemoteOps.Proofs.Worker.Moves
import RemoteOps.Proofs.Worker.Cycle
import RemoteOps.Proofs.Worker.Ledger
import RemoteOps.Proofs.Worker.Tracked
import RemoteOps.Proofs.Worker.WriteProtocol
import RemoteOps.Proofs.Worker.SingleLoop
import RemoteOps.Proofs.Service.Startup
import RemoteOps.Proofs.Service.Settling
import RemoteOps.Proofs.Service.Reconciliation
import RemoteOps.Proofs.Service.Recovery
import RemoteOps.Proofs.Platform.Faulty
import RemoteOps.Proofs.Service.Settlements
import RemoteOps.Proofs.Service.Interruption
import RemoteOps.Proofs.Service.Runs
import RemoteOps.Proofs.Service.Resumption
import RemoteOps.Proofs.Worker.Steps
import RemoteOps.Proofs.Worker.Engaged
import RemoteOps.Proofs.Worker.Trace
import RemoteOps.Proofs.Worker.GracefulStop
import RemoteOps.Proofs.Service.Moves
import RemoteOps.Proofs.Service.Life
import RemoteOps.Proofs.Shutdown
import RemoteOps.Proofs.Service.Roster
import RemoteOps.Proofs.Service.Serving
import RemoteOps.Proofs.Worker.Manned
import RemoteOps.Proofs.Service.Bracket
import RemoteOps.Proofs.Inevitable
import RemoteOps.Proofs.Worker.InHand
import RemoteOps.Proofs.Worker.Abort
import RemoteOps.Proofs.Service.Attempts
import RemoteOps.Proofs.Service.Outcome
import RemoteOps.Proofs.Service.Crowd
import RemoteOps.Proofs.Service.Overlap
import RemoteOps.Proofs.Worker.Quiescence
import RemoteOps.Proofs.Dispatching
import RemoteOps.Proofs.StopCall
import RemoteOps.Proofs.BoundedShutdown
import RemoteOps.Proofs.ComponentRegistry
import RemoteOps.Proofs.TurningBack
import RemoteOps.Proofs.Conversion
import RemoteOps.Proofs.Worker.Deeds
import RemoteOps.Proofs.Worker.Records
import RemoteOps.Proofs.Worker.IssueOrder
import RemoteOps.Proofs.Worker.Isolation
import RemoteOps.Proofs.OperationText
import RemoteOps.Proofs.Worker.Reasons
import RemoteOps.Proofs.Service.Reasons
import RemoteOps.Proofs.Worker.Tally
import RemoteOps.Proofs.Worker.Counting
import RemoteOps.Proofs.Worker.Cadence
import RemoteOps.Proofs.Worker.Drain
import RemoteOps.Proofs.Service.Selection
import RemoteOps.Proofs.Platform.Record
import RemoteOps.Proofs.Lockstep
import RemoteOps.Proofs.Normalization
import RemoteOps.Proofs.Config
import RemoteOps.Proofs.ComponentFailures
import RemoteOps.Proofs.Service.Pagination
import RemoteOps.Proofs.Worker.Faults
import RemoteOps.Proofs.Service.Provision
import RemoteOps.Proofs.Service.Takedown
