import Nidavellir.Condemnation
import Nidavellir.CrashCondemnation
import Nidavellir.SafeLoopRuns
import Nidavellir.F2Descent
import Nidavellir.F2TransactionProtocol
import Nidavellir.F2MotorsAgree
import Nidavellir.ClockDiscoverySchedule
import Nidavellir.BootFlagApply
import Nidavellir.FloorDominance
import Nidavellir.F2FrontierAppend
import Nidavellir.ForgeIncidentLatch
import Nidavellir.GpuSweepFinished
import Nidavellir.TornAppend
import Nidavellir.StartupAccounting
import Nidavellir.ReapplySuppression
import Nidavellir.StartupDamage
import Nidavellir.StartupApply
import Nidavellir.ForgeWorkers
import Nidavellir.ForgePause
import Nidavellir.GpuLeaseRuns
import Nidavellir.SentinelCursor
import Nidavellir.SentinelFallback
import Nidavellir.ConfirmedPaths
import Nidavellir.UnionGuard
import Nidavellir.UnionGuardPaths
import Nidavellir.ForgePublication
import Nidavellir.ForgeRepair
import Nidavellir.GracefulStop
import Nidavellir.HardFailureMemory
import Nidavellir.TuningRequests
import Nidavellir.RecoveryLatch
import Nidavellir.RestoreTrust
import Nidavellir.WarmStartRuns
import Nidavellir.ProbeEvidence
import Nidavellir.KnownAnswer
import Nidavellir.ApplyHistory
import Nidavellir.MemPeakRoute
import Nidavellir.Benchmark
import Nidavellir.FrontierBracket
import Nidavellir.LegacyBootFlag
import Nidavellir.ProfileOrder
import Nidavellir.RealisablePairs
import Nidavellir.DetectorLabRuns
import Nidavellir.Rehammering
import Nidavellir.AttemptDecision
import Nidavellir.PersistOrder
import Nidavellir.AnchoredSound
import Nidavellir.AnchoredWord
import Nidavellir.DescentPlan
import Nidavellir.FailureRefused
import Nidavellir.BisectionRuns
import Nidavellir.ApplyPower
import Nidavellir.ClaimEpoch
import Nidavellir.AtomicApply
import Nidavellir.StageBuffers
import Nidavellir.GoldenChecksum
import Nidavellir.GateDebt
import Nidavellir.FloorWord
import Nidavellir.RepairExact
import Nidavellir.SynthesisOptimal
import Nidavellir.TdrLearned
import Nidavellir.AnchoredVerify
import Nidavellir.CeilingEvidence
import Nidavellir.FrontierTrace
import Nidavellir.FrameTimeGate
import Nidavellir.FieldCanary
import Nidavellir.ReadbackVerdict
import Nidavellir.QualificationPass
import Nidavellir.CoreDomain
import Nidavellir.CrashAttribution
import Nidavellir.RegimeReconciliation
import Nidavellir.ClockFrontier
import Nidavellir.StageAgreement
import Nidavellir.FlagForge
import Nidavellir.MulticlockForge
import Nidavellir.ForgePrologue
import Nidavellir.LadderSweep
import Nidavellir.PipeServer
import Nidavellir.CommandLine
