import CacheDirectory.Connection.Callback
import CacheDirectory.Connection.Client
import CacheDirectory.Connection.Listener
import CacheDirectory.Main
import CacheDirectory.Proofs.Holdings
import CacheDirectory.Proofs.Operations
import CacheDirectory.Proofs.Access
import CacheDirectory.Proofs.Runs
import CacheDirectory.Proofs.Effects
import CacheDirectory.Proofs.MutualExclusion
import CacheDirectory.Proofs.Outstanding
import CacheDirectory.Proofs.HiddenReleases
import CacheDirectory.Proofs.StuckReleases
import CacheDirectory.Proofs.SilentRevocation
import CacheDirectory.Proofs.Schedule
import CacheDirectory.Proofs.DeadNodes
import CacheDirectory.Proofs.FailedRemoval
import CacheDirectory.Proofs.Layouts
import CacheDirectory.Proofs.Messages
import CacheDirectory.Proofs.FrameGrammar
import CacheDirectory.Proofs.Streams
import CacheDirectory.Proofs.Transparency
import CacheDirectory.Proofs.Laws
import CacheDirectory.Proofs.SteadyStore
import CacheDirectory.Proofs.Resolution
import CacheDirectory.Proofs.Gaps
import CacheDirectory.Proofs.StableLookups
import CacheDirectory.Proofs.Conversations
import CacheDirectory.Proofs.LostReplies
import CacheDirectory.Proofs.Registrations
import CacheDirectory.Proofs.Retirement
import CacheDirectory.Proofs.Truncation
import CacheDirectory.Proofs.Parallels
import CacheDirectory.Proofs.Verdicts
import CacheDirectory.Proofs.Timing
import CacheDirectory.Proofs.DeliveryOrder
import CacheDirectory.Proofs.SettledDeliveries
import CacheDirectory.Proofs.ByteOrder
import CacheDirectory.Proofs.Scans
import CacheDirectory.Proofs.Refusals
import CacheDirectory.Proofs.Displacement
import CacheDirectory.Proofs.ConflictFlags
import CacheDirectory.Proofs.Membership
import CacheDirectory.Proofs.Notation
import CacheDirectory.Proofs.Addresses
import CacheDirectory.Proofs.StoredNumbers
import CacheDirectory.Proofs.WrittenLines
import CacheDirectory.Proofs.SettingsRoundTrip
import CacheDirectory.Proofs.NameLookups
import CacheDirectory.Proofs.ReaderAgreement
import CacheDirectory.Proofs.Repetition
import CacheDirectory.Proofs.ReleaseReplies
import CacheDirectory.Proofs.ReleaseSessions
import CacheDirectory.Proofs.Interning
import CacheDirectory.Proofs.ObjectBlocks
import CacheDirectory.Proofs.TrackedKeys
import CacheDirectory.Proofs.Footprints
import CacheDirectory.Proofs.Independence
