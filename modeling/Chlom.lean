import Chlom.Library.Checked
import Chlom.Library.StorageMap
import Chlom.Library.Scale
import Chlom.Library.Dispatch
import Chlom.Library.Coupling
import Chlom.Library.Runs
import Chlom.Library.HashChain
import Chlom.Library.VersionTable
import Chlom.Library.History
import Chlom.Library.Succession
import Chlom.Library.Spans
import Chlom.Library.Trails
import Chlom.Library.Lineage
import Chlom.Primitives
import Chlom.Frame
import Chlom.VersionedPallet
import Chlom.VersionedRecord
import Chlom.Authority.Pallet
import Chlom.Identity.Pallet
import Chlom.Utility.Pallet
import Chlom.Utility.Effects
import Chlom.Utility.Records
import Chlom.Utility.Conservation
import Chlom.Utility.Reservations
import Chlom.Utility.ReceiptLog
import Chlom.Utility.Isolation
import Chlom.Utility.Replay
import Chlom.Utility.Services
import Chlom.Utility.LockedTerms
import Chlom.Policy.Pallet
import Chlom.Policy.Versions
import Chlom.ActiveVersions
import Chlom.Rights.Pallet
import Chlom.Rights.Records
import Chlom.Rights.Supersession
import Chlom.Licensing.Pallet
import Chlom.Licensing.Versions
import Chlom.Licensing.Bindings
import Chlom.Licensing.Guards
import Chlom.Access.Chain
import Chlom.Access.Histories
import Chlom.Histories
import Chlom.Access.Effective
import Chlom.Access.Grounds
import Chlom.Access.ShutOff
import Chlom.Checkpoint.Pallet
import Chlom.Checkpoint.Log
import Chlom.Oracle.Pallet
import Chlom.Oracle.Reviews
import Chlom.Tokenization.Pallet
import Chlom.Tokenization.Effects
import Chlom.Tokenization.Lifecycle
import Chlom.Settlement.Pallet
import Chlom.Settlement.Split
import Chlom.Settlement.Previews
import Chlom.Settlement.ZeroShares
import Chlom.Runtime.Chain
import Chlom.Runtime.Filter
import Chlom.Runtime.Roles
import Chlom.Runtime.Accountability
import Chlom.Runtime.Projections
import Chlom.Runtime.Permanence
import Chlom.Rejected
import Chlom.Assurance.Tables
import Chlom.Assurance.Functions
import Chlom.Assurance.Effects
import Chlom.Assurance.Interleaving
import Chlom.Assurance.Readiness
import Chlom.Library.Python.Numerals
import Chlom.Library.Python.DateTime
import Chlom.Library.Python.Json
import Chlom.Library.Python.JsonRoundTrip
import Chlom.Library.Python.JsonCanonical
import Chlom.Library.Python.JsonOrder
import Chlom.Dail.Ledger
import Chlom.Library.Reports
import Chlom.Library.Raises
import Chlom.Dail.Raises
import Chlom.Dail.Verification
import Chlom.Dail.Checks
import Chlom.Dail.Acceptance
import Chlom.Dail.HeadHash
import Chlom.Dail.Appending
import Chlom.Dail.Jsonb
import Chlom.Dail.Index
import Chlom.Dail.Writer
import Chlom.Library.Python.JsonUnicode
import Chlom.Dail.Restore
import Chlom.Dail.Recovery
import Chlom.Library.Js.JsonOrder
import Chlom.Library.Js.Numerals
import Chlom.Library.Js.Date
import Chlom.Library.Numeric
import Chlom.Library.Apportion
import Chlom.Library.Table
import Chlom.Ballot.Counting
import Chlom.Ballot.Outcome
import Chlom.SelfFunding.Partition
import Chlom.Cost.Accounting
import Chlom.Cost.Refunds
import Chlom.Dispatcher.Authorisation
import Chlom.Judicial.Guards
import Chlom.Judicial.Panels
import Chlom.Police.Effects
import Chlom.Police.Ratified
import Chlom.Police.Receipts
import Chlom.Workspace.Drafts
import Chlom.Workspace.Effects
import Chlom.Workspace.History
import Chlom.Evidence.Canonicalize
import Chlom.Evidence.Envelope
import Chlom.Protocol.Validation
import Chlom.Library.Results
import Chlom.Protocol.Proofs
import Chlom.Protocol.Binding
import Chlom.Library.Selection
import Chlom.Protocol.Versions
import Chlom.Protocol.Utility
import Chlom.Protocol.Policy
import Chlom.Protocol.RegistryOrder
import Chlom.Protocol.Tenants
import Chlom.Library.RecentWindow
import Chlom.Protocol.Zk
import Chlom.Protocol.Verifier
import Chlom.Dail.Escapes
import Chlom.Dail.ColdExport
import Chlom.Dail.ColdContract
import Chlom.Dail.ColdRoundTrip
import Chlom.Snapshot.Functions
import Chlom.Library.Python.JsonScanned
import Chlom.Snapshot.Contract
import Chlom.Dail.Contracts
import Chlom.Core.Limiter
import Chlom.Core.Windows
import Chlom.Workforce.Pay
import Chlom.Workforce.SelfApproval
import Chlom.Autonomy.Cycle
import Chlom.Autonomy.Records
import Chlom.Library.Locking.Quota
import Chlom.Library.Locking.Caps
import Chlom.Dispatcher.Rates
import Chlom.Workspace.Caps
import Chlom.Gateway.Attestation
import Chlom.Gateway.Routing
