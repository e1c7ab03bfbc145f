import SignInFlow.Json.Reader
import SignInFlow.Completion
import SignInFlow.Settings.Loading
import SignInFlow.Replay.Queue
import SignInFlow.TokenCache
import SignInFlow.Metric
import SignInFlow.Registry
import SignInFlow.Gateway
import SignInFlow.Replay.Worker
import SignInFlow.Rehearsal.Script
import SignInFlow.Cancellation
import SignInFlow.Rehearsal.StateScript
import SignInFlow.Rehearsal.ReplayScript
import SignInFlow.Proofs.Conduct
import SignInFlow.Proofs.Outcome
import SignInFlow.Proofs.Operations
import SignInFlow.Proofs.Calendar
import SignInFlow.Proofs.Timestamp
import SignInFlow.Proofs.Codec
import SignInFlow.Proofs.Records
import SignInFlow.Proofs.Turns
import SignInFlow.Proofs.Provenance
import SignInFlow.Proofs.Erasure
import SignInFlow.Proofs.Sessions
import SignInFlow.Proofs.WholeFlows
import SignInFlow.Proofs.Durability
import SignInFlow.Proofs.Ledger
import SignInFlow.Proofs.Conservation
import SignInFlow.Proofs.Tokens
import SignInFlow.Proofs.Coherence
import SignInFlow.Proofs.Replays
import SignInFlow.Proofs.Withdrawal
import SignInFlow.Proofs.Preservation
import SignInFlow.Proofs.Overlap
import SignInFlow.Proofs.Agreement
import SignInFlow.Proofs.Parallel
import SignInFlow.Proofs.Households
import SignInFlow.Proofs.Isolation
import SignInFlow.Proofs.Failures
import SignInFlow.Proofs.Outlets
import SignInFlow.Proofs.Draining
import SignInFlow.Proofs.Accounting
import SignInFlow.Proofs.Processing
import SignInFlow.Proofs.Identity
import SignInFlow.Proofs.Verdicts
import SignInFlow.Proofs.Successes
import SignInFlow.Proofs.Returns
import SignInFlow.Proofs.WriteBack
import SignInFlow.Proofs.Clearing
import SignInFlow.Proofs.Pending
import SignInFlow.Proofs.Addresses
import SignInFlow.Proofs.TokenTree
import SignInFlow.Proofs.Lookups
import SignInFlow.Proofs.Assembly
import SignInFlow.Proofs.Counters
import SignInFlow.Proofs.Balances
import SignInFlow.Proofs.Keeping
import SignInFlow.Proofs.Messages
import SignInFlow.Proofs.Overrides
import SignInFlow.Proofs.Readers
