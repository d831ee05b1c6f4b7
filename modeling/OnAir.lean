import OnAir.AudioOrder
import OnAir.AuditHistory
import OnAir.BreakAds
import OnAir.ClearedCache
import OnAir.Convergence
import OnAir.CrashedBatch
import OnAir.EnqueueCalls
import OnAir.ExclusiveCapture
import OnAir.FinishedAudio
import OnAir.GuestTurns
import OnAir.HaLease
import OnAir.HostItems
import OnAir.IdempotentApply
import OnAir.ImportJobs
import OnAir.ImportedMedia
import OnAir.LateAcks
import OnAir.LockDiscipline
import OnAir.LoginThrottle
import OnAir.MirroredTree
import OnAir.MixMinus
import OnAir.MountOwnership
import OnAir.MutationGate
import OnAir.OneOnAir
import OnAir.OperatorSkip
import OnAir.OperatorStop
import OnAir.OutboxRepository
import OnAir.PlayoutCheckpoint
import OnAir.PlayoutGuard
import OnAir.PublicMirror
import OnAir.RecorderAgreement
import OnAir.RecordingOutcomes
import OnAir.RecoveryPacing
import OnAir.RefreshTokens
import OnAir.Reliability
import OnAir.ReloadRequests
import OnAir.RescanRequests
import OnAir.RestartSuppression
import OnAir.ScheduleWindow
import OnAir.SecretKeeping
import OnAir.SentMarker
import OnAir.SetupCertificate
import OnAir.ShowGrants
import OnAir.ShowStatuses
import OnAir.SilenceOverlap
import OnAir.SingleProducer
import OnAir.SongCompletion
import OnAir.SpeechLock
import OnAir.SpotsHeard
import OnAir.StaleAudio
import OnAir.StandbyCopy
import OnAir.StandbyOutput
import OnAir.StartStop
import OnAir.StoredTerm
import OnAir.StudioCalls
import OnAir.SupervisedChildren
import OnAir.SweeperCadence
import OnAir.TamperEvidence
import OnAir.VaultReads
import OnAir.VerifiedSync
import OnAir.ViewOwnership
import OnAir.ViewPublication
import OnAir.WorkerLease
import OnAir.WorkspaceClaims
