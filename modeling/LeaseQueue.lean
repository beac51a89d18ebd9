import LeaseQueue.Backoff.Codec
import LeaseQueue.Conformance.Defect
import LeaseQueue.Conformance.Expectation
import LeaseQueue.Filter.Codec
import LeaseQueue.Job.Codec
import LeaseQueue.Proofs.Backoff.Jitter
import LeaseQueue.Proofs.Backoff.Policies
import LeaseQueue.Proofs.Encoding
import LeaseQueue.Proofs.Overflow
import LeaseQueue.Proofs.Queue.Lifecycle
import LeaseQueue.Proofs.Queue.Listing
import LeaseQueue.Proofs.Queue.Producing
import LeaseQueue.Proofs.Queue.Retrying
import LeaseQueue.Proofs.Sql.Atomicity
import LeaseQueue.Proofs.Sql.Decoding
import LeaseQueue.Proofs.Sql.Refinement
import LeaseQueue.Proofs.Sql.Selection
import LeaseQueue.Proofs.Sql.Wording
import LeaseQueue.Proofs.Store.Accounts
import LeaseQueue.Proofs.Store.Budget
import LeaseQueue.Proofs.Store.Choice
import LeaseQueue.Proofs.Store.Chronology
import LeaseQueue.Proofs.Store.Drain
import LeaseQueue.Proofs.Store.Evolution
import LeaseQueue.Proofs.Store.Exclusive
import LeaseQueue.Proofs.Store.Isolation
import LeaseQueue.Proofs.Store.Refusal
import LeaseQueue.Proofs.Worker.Accounting
import LeaseQueue.Proofs.Worker.Calls
import LeaseQueue.Proofs.Worker.Crew
import LeaseQueue.Proofs.Worker.Draining
import LeaseQueue.Proofs.Worker.Fencing
import LeaseQueue.Proofs.Worker.Shift
import LeaseQueue.Proofs.Worker.Shutdown
import LeaseQueue.Queue.Describe
import LeaseQueue.Sql.Column
import LeaseQueue.Sql.Migration
import LeaseQueue.Sql.Scripted
import LeaseQueue.Stats.Codec
