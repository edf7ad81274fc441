import CaseHerald.Config.Written
import CaseHerald.Failure.Written
import CaseHerald.Main
import CaseHerald.Rehearsal.Machine
import CaseHerald.Rehearsal.Recorded
import CaseHerald.Rehearsal.Retries
import CaseHerald.Proofs.Closing
import CaseHerald.Proofs.Race
import CaseHerald.Proofs.Rounds
import CaseHerald.Proofs.StaleFetch
import CaseHerald.Watch.Written
import CaseHerald.Proofs.Chronicle
import CaseHerald.Proofs.Recovery
import CaseHerald.Proofs.Results
import CaseHerald.Proofs.Newcomers
import CaseHerald.Proofs.Discipline
import CaseHerald.Proofs.Serial
import CaseHerald.Proofs.Deletion
import CaseHerald.Proofs.Convergence
import CaseHerald.Proofs.Codec
import CaseHerald.Proofs.Refinement
import CaseHerald.Proofs.Buckets
import CaseHerald.Proofs.CarryOut
import CaseHerald.Proofs.Independence
import CaseHerald.Proofs.Comments
import CaseHerald.Proofs.Purge
import CaseHerald.Proofs.Queue
import CaseHerald.Proofs.Ancestry
import CaseHerald.Proofs.Subscription
import CaseHerald.Proofs.Retries
import CaseHerald.Proofs.Crashes
import CaseHerald.Proofs.Listing
import CaseHerald.Proofs.Fetches
import CaseHerald.Proofs.Normalization
import CaseHerald.Proofs.Subscribers
import CaseHerald.Proofs.Accounts
import CaseHerald.Proofs.Registry
import CaseHerald.Proofs.Deliveries
import CaseHerald.Proofs.Versions
