import OvcaCore.ExecutionInvariant
import OvcaCore.ExecutionAgreement
import OvcaCore.ExecutionHistory
import OvcaCore.ApprovalHistory
import OvcaCore.EvidenceOrder
import OvcaCore.BoundedRetries
import OvcaCore.TerminalStates
import OvcaCore.ExactlyOnce
import OvcaCore.FencedBrokers
import OvcaCore.VerdictExactness
import OvcaCore.ReplayLanguage
import OvcaCore.StaleRevival
import OvcaCore.ArchiveRecovery
import OvcaCore.ExecutionAccounting
import OvcaCore.WaveExecution
import OvcaCore.BootstrapGap
import OvcaCore.BrainCache
import OvcaCore.TraceAgreement
import OvcaCore.RouterAgreement
import OvcaCore.BrainRoundTrip
import OvcaCore.BrainPrivacy
import OvcaCore.DispatchParity
import OvcaCore.HeartbeatFencing
import OvcaCore.StrandedTasks
import OvcaCore.RestoredInvariants
import OvcaCore.ChainTampering
import OvcaCore.GuardPolicy
import OvcaCore.ScheduleExactness
import OvcaCore.TailReads
import OvcaCore.LoneQuotes
import OvcaCore.RerunExactness
import OvcaCore.DeadEnds
import OvcaCore.DigestExactness
import OvcaCore.SnapshotExactness
import OvcaCore.ReviewResolutions
import OvcaCore.ReviewGuarantees
import OvcaCore.ReviewTermination
