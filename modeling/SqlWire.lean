import SqlWire.Client.Guarded
import SqlWire.Client.Script
import SqlWire.Loopback
import SqlWire.Settings.Conninfo
import SqlWire.Settings.FromToml
import SqlWire.Wire.FrameBuffer
import SqlWire.Proofs.Triples
import SqlWire.Proofs.Client.Lockstep
import SqlWire.Proofs.Client.Chunking
import SqlWire.Proofs.Client.Rows
import SqlWire.Proofs.Joint.Commit
import SqlWire.Proofs.Server.Failures
import SqlWire.Proofs.Server.Synchrony
import SqlWire.Proofs.Client.Finality
import SqlWire.Proofs.Client.Aborted
import SqlWire.Proofs.Server.Placeholders
import SqlWire.Proofs.Server.Preparations
import SqlWire.Proofs.Server.Shielding
import SqlWire.Proofs.Server.Beginnings
import SqlWire.Proofs.Joint.Prepared
import SqlWire.Proofs.Wire.Framing
import SqlWire.Proofs.Wire.Carried
import SqlWire.Proofs.Wire.Survival
import SqlWire.Proofs.Wire.Truncation
import SqlWire.Proofs.Client.Verdicts
import SqlWire.Proofs.Joint.Scopes
import SqlWire.Proofs.Client.Pending
import SqlWire.Proofs.Client.Abandoning
import SqlWire.Proofs.Client.Interspersing
import SqlWire.Proofs.Client.Decisions
import SqlWire.Proofs.Server.PasswordGate
import SqlWire.Proofs.Client.Parameters
import SqlWire.Proofs.Client.Secrecy
import SqlWire.Proofs.Client.Accounts
import SqlWire.Proofs.Server.Perseverance
import SqlWire.Proofs.Client.Dispatch
import SqlWire.Proofs.Server.Comments
import SqlWire.Proofs.Sql.Markers
import SqlWire.Proofs.Sql.Splitting
import SqlWire.Proofs.Sql.Readings
import SqlWire.Proofs.Server.Savepoints
import SqlWire.Proofs.Server.Portals
import SqlWire.Proofs.Value.Texts
import SqlWire.Proofs.Server.Binding
import SqlWire.Proofs.Server.Courses
import SqlWire.Proofs.Server.Streaming
import SqlWire.Proofs.Joint.Columns
import SqlWire.Proofs.Client.Exhaustion
import SqlWire.Proofs.Client.Schedules
import SqlWire.Proofs.Client.Deadlines
import SqlWire.Proofs.Client.Tallies
import SqlWire.Proofs.Settings.Renderings
import SqlWire.Proofs.Wire.Reproduction
import SqlWire.Proofs.Server.Arrivals
import SqlWire.Proofs.Client.Buffering
