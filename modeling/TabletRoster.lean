import TabletRoster.StalePaths
import TabletRoster.Delta
import TabletRoster.Framing
import TabletRoster.Roster.Tracking
import TabletRoster.Rehearsal.World
import TabletRoster.Rehearsal.Cluster
import TabletRoster.Lease
import TabletRoster.Settings.Record
import TabletRoster.Main
import TabletRoster.Proofs.Following.Rehearsed
import TabletRoster.Proofs.Replay
import TabletRoster.Proofs.NetChange
import TabletRoster.Proofs.Readers
import TabletRoster.Proofs.Grace.Safety
import TabletRoster.Proofs.Checks
import TabletRoster.Proofs.Eviction
import TabletRoster.Proofs.LockQueue
import TabletRoster.Proofs.Chunks
import TabletRoster.Proofs.Fencing
import TabletRoster.Proofs.Stores
import TabletRoster.Proofs.Mirror
import TabletRoster.Proofs.Conversations
import TabletRoster.Proofs.Lending
import TabletRoster.Proofs.Strikes
import TabletRoster.Proofs.Separation
import TabletRoster.Proofs.Spellings
import TabletRoster.Proofs.Lessons
import TabletRoster.Proofs.Layering
import TabletRoster.Proofs.Precedence
import TabletRoster.Proofs.Watching
import TabletRoster.Proofs.Setbacks
import TabletRoster.Proofs.Leftovers
import TabletRoster.Proofs.Errands
import TabletRoster.Proofs.Reuse
import TabletRoster.Proofs.Breakdowns
import TabletRoster.Proofs.Interruptions
import TabletRoster.Proofs.Sightings
import TabletRoster.Proofs.Finding
import TabletRoster.Proofs.Hosting
import TabletRoster.Proofs.Lookups
import TabletRoster.Proofs.Publications
import TabletRoster.Proofs.Renewals
import TabletRoster.Proofs.Rereading
import TabletRoster.Proofs.Acceptance
import TabletRoster.Proofs.Renewals
