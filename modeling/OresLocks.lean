import OresLocks.AdvisoryKey
import OresLocks.AuthorityAlarms
import OresLocks.AuthorityExclusion
import OresLocks.BeamScale.TokenCustody
import OresLocks.CloudflareRetries
import OresLocks.ConfigUse
import OresLocks.CoordinatedPlan
import OresLocks.CoordinatedRetries
import OresLocks.CoordinatedSession
import OresLocks.DartWireDuplicates
import OresLocks.EndToEndFencing
import OresLocks.FencedWriteRefinement
import OresLocks.Fencing.Agreement
import OresLocks.Fencing.WireAgreement
import OresLocks.Fencing.WireDefects
import OresLocks.FiduciaTimeouts
import OresLocks.FiduciaWire
import OresLocks.Formal.MaintainedGo
import OresLocks.Formal.MaintainedRust
import OresLocks.Formal.MaintainedTs
import OresLocks.Formal.FencingModel
import OresLocks.Formal.FencingCompletion
import OresLocks.Gleam.Polling
import OresLocks.LocalFile.CompromisedRelease
import OresLocks.LocalFile.ConcurrentRelease
import OresLocks.LocalFile.FailedAcquire
import OresLocks.LocalFile.InspectionRuns
import OresLocks.LocalFile.MixedExclusion
import OresLocks.LocalFile.OwnerRoundTrip
import OresLocks.LocalFile.RecoveryExclusion
import OresLocks.LockKeyAgreement
import OresLocks.MaintainedGoOutcomes
import OresLocks.MaintainedRustRuns
import OresLocks.MaintainedTsOutcomes
import OresLocks.MaintainedTsRelease
import OresLocks.PoolHygiene
import OresLocks.PooledGoPlan
import OresLocks.PooledPlan
import OresLocks.Postgres.FencingSerial
import OresLocks.Postgres.TokenOrder
import OresLocks.RedisLeaseAtomicity
import OresLocks.RedisLeaseCounter
import OresLocks.RedisLeaseHistories
import OresLocks.RedisLeaseRefinement
import OresLocks.Redlock.Accounting
import OresLocks.Redlock.RustReleases
import OresLocks.Redlock.TsReleases
import OresLocks.RenewalAuthority
import OresLocks.RenewalLossReasons
import OresLocks.UpstashExpiry
import OresLocks.Worker.Layers
