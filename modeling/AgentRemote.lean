import AgentRemote.Library.Outcome
import AgentRemote.Library.Worklist
import AgentRemote.Library.Components
import AgentRemote.Library.Keyed
import AgentRemote.Library.Machine
import AgentRemote.Library.Tally
import AgentRemote.Library.UnionFind
import AgentRemote.Library.Utf8
import AgentRemote.Text
import AgentRemote.Manifest.Entry
import AgentRemote.Manifest.Link
import AgentRemote.Manifest.Tree
import AgentRemote.Manifest.Forms
import AgentRemote.Merge.Scopes
import AgentRemote.Merge.ThreeWay
import AgentRemote.Merge.Directory
import AgentRemote.Merge.Units
import AgentRemote.Merge.Symmetry
import AgentRemote.Merge.Guarantees
import AgentRemote.Merge.Turns
import AgentRemote.Merge.Choice
import AgentRemote.Merge.Resolution
import AgentRemote.Merge.Permutation
import AgentRemote.Merge.MigrationResolution
import AgentRemote.Merge.Compaction
import AgentRemote.Merge.Materialization
import AgentRemote.Retention.Key
import AgentRemote.Retention.Groups
import AgentRemote.Storage.Records
import AgentRemote.Storage.Uploads
import AgentRemote.Storage.Reclamation
import AgentRemote.Storage.Deletion
import AgentRemote.Storage.Release
import AgentRemote.Storage.Accounting
import AgentRemote.Storage.Runs
import AgentRemote.Storage.Disk
import AgentRemote.Storage.Safety
import AgentRemote.Storage.Interleaving
import AgentRemote.Storage.Validation
import AgentRemote.Retention.Graph
import AgentRemote.Retention.Insertions
import AgentRemote.Retention.Index
import AgentRemote.Retention.Roots
import AgentRemote.Retention.Reclamation
import AgentRemote.Retention.Deployments
import AgentRemote.Retention.Protection
import AgentRemote.Retention.History
import AgentRemote.Retention.Retirement
import AgentRemote.Retention.Update
import AgentRemote.Retention.Agreement
import AgentRemote.Library.Fencing
import AgentRemote.Json
import AgentRemote.Values
import AgentRemote.EgoBrowser.Records
import AgentRemote.EgoBrowser.Profile
import AgentRemote.EgoBrowser.Generation
import AgentRemote.EgoBrowser.Lifecycle
import AgentRemote.EgoBrowser.Devices
import AgentRemote.EgoBrowser.Requests
import AgentRemote.EgoBrowser.Moves
import AgentRemote.EgoBrowser.Operations
import AgentRemote.EgoBrowser.Revocation
import AgentRemote.EgoBrowser.Ledger
import AgentRemote.EgoBrowser.Lease
import AgentRemote.EgoBrowser.Lapse
import AgentRemote.EgoBrowser.Ending
import AgentRemote.EgoBrowser.Activation
import AgentRemote.EgoBrowser.Resumption
import AgentRemote.EgoBrowser.Recovery
import AgentRemote.DeviceControl.Records
import AgentRemote.DeviceControl.Sessions
import AgentRemote.DeviceControl.Moves
import AgentRemote.DeviceControl.Operations
import AgentRemote.DeviceControl.Answers
import AgentRemote.DeviceControl.Lifecycle
import AgentRemote.DeviceControl.Tasks
import AgentRemote.DeviceControl.Endpoints
import AgentRemote.Library.History
import AgentRemote.PortForwards.Records
import AgentRemote.PortForwards.Policy
import AgentRemote.PortForwards.Service
import AgentRemote.PortForwards.Moves
import AgentRemote.PortForwards.System
import AgentRemote.PortForwards.Lifecycle
import AgentRemote.PortForwards.Settlement
import AgentRemote.PortForwards.Traffic
import AgentRemote.Identity.Records
import AgentRemote.Identity.Devices
import AgentRemote.Identity.System
import AgentRemote.Identity.Finality
import AgentRemote.Identity.Addresses
import AgentRemote.Identity.Rotation
import AgentRemote.Logins.Records
import AgentRemote.Logins.Service
import AgentRemote.Logins.System
import AgentRemote.Logins.Codes
import AgentRemote.Logins.Tokens
import AgentRemote.Logins.Sessions
import AgentRemote.Logins.Rotation
import AgentRemote.Logins.Finality
import AgentRemote.Enrollment.Records
import AgentRemote.Enrollment.Service
import AgentRemote.Enrollment.System
import AgentRemote.Enrollment.Exchange
import AgentRemote.Enrollment.Guarantees
import AgentRemote.Runtimes.Records
import AgentRemote.Runtimes.Guards
import AgentRemote.Library.Below
import AgentRemote.ConfigImports.Plan
import AgentRemote.ConfigImports.Guarantees
import AgentRemote.Attachments.Records
import AgentRemote.Attachments.Service
import AgentRemote.Attachments.Guarantees
import AgentRemote.Runtimes.Queue
import AgentRemote.SyncSessions.Records
import AgentRemote.SyncSessions.Service
import AgentRemote.SyncSessions.Invariant
import AgentRemote.SyncSessions.Moves
import AgentRemote.SyncSessions.Operations
import AgentRemote.SyncSessions.Guarantees
import AgentRemote.KeySync.Records
import AgentRemote.KeySync.Service
import AgentRemote.KeySync.Invariant
import AgentRemote.KeySync.Operations
import AgentRemote.KeySync.Guarantees
import AgentRemote.AccountRuntime.Records
import AgentRemote.AccountRuntime.Service
import AgentRemote.AccountRuntime.Migration
import AgentRemote.AccountRuntime.System
import AgentRemote.AccountRuntime.Invariant
import AgentRemote.AccountRuntime.Operations
import AgentRemote.AccountRuntime.Settling
import AgentRemote.AccountRuntime.Placement
import AgentRemote.AccountRuntime.Tracking
import AgentRemote.AccountRuntime.Guarantees
import AgentRemote.Relay.Pairing
import AgentRemote.Relay.Revocation
import AgentRemote.Library.Delimited
import AgentRemote.Manifest.Digest
import AgentRemote.Library.Codes
import AgentRemote.Library.Sorting
import AgentRemote.Prune.Guarantees
import AgentRemote.Pop.Transcript
import AgentRemote.Relay.Format
import AgentRemote.Manifest.Resolution
import AgentRemote.Relay.Distributed.Unmixed
import AgentRemote.DeviceRelay.Agreement
import AgentRemote.Library.Expiring
import AgentRemote.Library.FixedWindow
import AgentRemote.Tickets.Stores
import AgentRemote.Tickets.Guarantees
import AgentRemote.Library.Provenance
import AgentRemote.Signed.Tokens
import AgentRemote.Prune.Disclosure
import AgentRemote.Prune.Commands
import AgentRemote.NodeExport.Service
import AgentRemote.Signed.System
import AgentRemote.Prune.Confirmed
import AgentRemote.NodeExport.Guarantees
