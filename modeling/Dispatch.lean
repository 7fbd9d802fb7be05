import Dispatch.Api.Endpoint
import Dispatch.Dependency.Cycle
import Dispatch.GitHub.Client
import Dispatch.Main
import Dispatch.Proofs.Accounting
import Dispatch.Proofs.BestEffort
import Dispatch.Proofs.Calls
import Dispatch.Proofs.Cancellation
import Dispatch.Proofs.Cascade
import Dispatch.Proofs.Coherence
import Dispatch.Proofs.Concurrency.Retirement
import Dispatch.Proofs.Concurrency.Starting
import Dispatch.Proofs.Consistency
import Dispatch.Proofs.Declaration
import Dispatch.Proofs.Dependency.Cycle
import Dispatch.Proofs.Dictionary
import Dispatch.Proofs.Directory
import Dispatch.Proofs.Directory.NormalForm
import Dispatch.Proofs.Execution
import Dispatch.Proofs.Finality
import Dispatch.Proofs.Git.BranchRef
import Dispatch.Proofs.GitHub.Overriding
import Dispatch.Proofs.GitHub.RepositoryAddress
import Dispatch.Proofs.Guarantee
import Dispatch.Proofs.History
import Dispatch.Proofs.Identifier
import Dispatch.Proofs.Interruption
import Dispatch.Proofs.Json.Record
import Dispatch.Proofs.Json.RoundTrip
import Dispatch.Proofs.Naming
import Dispatch.Proofs.Outage
import Dispatch.Proofs.PartialCancellation
import Dispatch.Proofs.Precedence
import Dispatch.Proofs.Queue.Claims
import Dispatch.Proofs.Queue.Offset
import Dispatch.Proofs.Queue.Outcome
import Dispatch.Proofs.Queue.Paging
import Dispatch.Proofs.Queue.Stranding
import Dispatch.Proofs.Reporting.Bookkeeping
import Dispatch.Proofs.Reporting.Chronicle
import Dispatch.Proofs.Reporting.Delivery
import Dispatch.Proofs.Reporting.Trail
import Dispatch.Proofs.Selection
import Dispatch.Proofs.Selection.Discovery
import Dispatch.Proofs.Selection.Ignoring
import Dispatch.Proofs.Selection.Nearest
import Dispatch.Proofs.Store.Atomicity
import Dispatch.Proofs.Store.Conclusion
import Dispatch.Proofs.Store.Effect
import Dispatch.Proofs.Store.Integrity
import Dispatch.Proofs.Store.Service
import Dispatch.Proofs.Store.Step
import Dispatch.Proofs.Submission.BlankBase
import Dispatch.Proofs.Submission.Closure
import Dispatch.Proofs.Submission.Compensation
import Dispatch.Proofs.Submission.Creation
import Dispatch.Proofs.Submission.Credentials
import Dispatch.Proofs.Submission.Failure
import Dispatch.Proofs.Submission.Footing
import Dispatch.Proofs.Submission.Intake
import Dispatch.Proofs.Submission.Leftovers
import Dispatch.Proofs.Submission.Listing
import Dispatch.Proofs.Submission.Loading
import Dispatch.Proofs.Submission.MainBranch
import Dispatch.Proofs.Submission.Outage
import Dispatch.Proofs.Submission.Picking
import Dispatch.Proofs.Submission.Policy
import Dispatch.Proofs.Submission.Recording
import Dispatch.Proofs.Submission.Resolution
import Dispatch.Proofs.Submission.RunNames
import Dispatch.Proofs.Submission.Supersession
import Dispatch.Proofs.Submission.Validation
import Dispatch.Proofs.Text.ByteOrder
import Dispatch.Proofs.Text.Digits
import Dispatch.Proofs.Timestamp
import Dispatch.Server.Options
import Dispatch.Session.Basic
