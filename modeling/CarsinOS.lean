import CarsinOS.Lib.Run
import CarsinOS.Lib.Entries
import CarsinOS.Lib.JsonUnique
import CarsinOS.Lib.Sha256
import CarsinOS.Lib.Replace
import CarsinOS.Canonical.Stored
import CarsinOS.Actor.Mint
import CarsinOS.Manifest.Expansion
import CarsinOS.Manifest.Request
import CarsinOS.Manifest.Storage
import CarsinOS.Plugin.Consistency
import CarsinOS.Recorder.Crash
import CarsinOS.Recorder.Faults
import CarsinOS.Recorder.Request
import CarsinOS.Recovery.Bounds
import CarsinOS.Receipt.Boundary
import CarsinOS.Receipt.Pinned
import CarsinOS.Receipt.Append
import CarsinOS.Integrity.Rollback
import CarsinOS.Delegation.Quota
import CarsinOS.Delegation.Retry
import CarsinOS.Danger.Admission
import CarsinOS.Routine.Occurrences
import CarsinOS.Runtime.Fencing
import CarsinOS.Transport.Delivery
import CarsinOS.Overwrite.Agreement
import CarsinOS.Routine.Admitted
import CarsinOS.Completion.Completable
import CarsinOS.Actor.Provenance
import CarsinOS.Danger.Signing
import CarsinOS.Manifest.Pinned
import CarsinOS.Recorder.Torn
import CarsinOS.Delegation.Available
import CarsinOS.Policy.Identity
import CarsinOS.Tools.Confinement
import CarsinOS.Tools.Exec
import CarsinOS.Tools.Extraction
import CarsinOS.Confirmation.Carried
import CarsinOS.Notification.Reminders
import CarsinOS.Routine.Inherited
import CarsinOS.Recorder.Closed
import CarsinOS.Confirmation.Claimable
import CarsinOS.Recorder.Truthful
import CarsinOS.Delegation.Dispatch
import CarsinOS.Receipt.Reachable
