import ZnsBench.Core.GuardedRun
import ZnsBench.Core.CommandCounter
import ZnsBench.Core.ByteString
import ZnsBench.Core.PaddedDecimal
import ZnsBench.Core.SortedPosition
import ZnsBench.Core.SortedPairing
import ZnsBench.Core.RoundRobin
import ZnsBench.Core.Getopt
import ZnsBench.Core.GreedyPattern
import ZnsBench.Core.IntegerDouble
import ZnsBench.Store.ObjectStore
import ZnsBench.Store.TrailSimulation
import ZnsBench.Store.ExtentInvariant
import ZnsBench.Store.MapBehaviour
import ZnsBench.Store.AtomicPut
import ZnsBench.Zookeeper.ZnodeServer
import ZnsBench.Zookeeper.Sessions
import ZnsBench.Zookeeper.LockProtocol
import ZnsBench.Zookeeper.LockWakeup
import ZnsBench.Zookeeper.LockScan
import ZnsBench.Zookeeper.LockPhases
import ZnsBench.Zookeeper.LockMutualExclusion
import ZnsBench.Zookeeper.LockRelease
import ZnsBench.Zookeeper.LockHerd
import ZnsBench.Zookeeper.LockSelection
import ZnsBench.Zookeeper.LeaderElection
import ZnsBench.Zookeeper.LeaderAgreement
import ZnsBench.Zookeeper.LeaderSuccession
import ZnsBench.Zookeeper.LeaderSelection
import ZnsBench.Multipath.NamespaceRegistration
import ZnsBench.Multipath.SpdkInterface
import ZnsBench.Multipath.VerificationEngine
import ZnsBench.Multipath.VerifierAccounting
import ZnsBench.Multipath.VerifierHistory
import ZnsBench.Multipath.NoFalseAlarm
import ZnsBench.Multipath.DrainingBacklog
import ZnsBench.Multipath.LostVerification
import ZnsBench.Multipath.PatternComparison
import ZnsBench.Multipath.ImmediateVerification
import ZnsBench.Multipath.ClosedLoopEngine
import ZnsBench.Multipath.CompletionStatus
import ZnsBench.Multipath.WorkerInterleaving
import ZnsBench.Multipath.TaskLeak
import ZnsBench.Multipath.PoolDemand
import ZnsBench.Multipath.ContextAssignment
import ZnsBench.Multipath.CommandStream
import ZnsBench.Multipath.ReadAddresses
import ZnsBench.Multipath.AdminCommands
import ZnsBench.Multipath.AdminAccounting
import ZnsBench.Multipath.ArbitrationFeature
import ZnsBench.Multipath.ParseArgs
import ZnsBench.Multipath.OptionValues
import ZnsBench.Multipath.OptionFaithfulness
import ZnsBench.Multipath.OptionOrder
import ZnsBench.Arbitration.ContextLoop
import ZnsBench.Arbitration.IoAddresses
import ZnsBench.Arbitration.ZoneWrites
import ZnsBench.Arbitration.TransferSize
import ZnsBench.Arbitration.LatencySamples
import ZnsBench.Arbitration.LatencyStatistics
import ZnsBench.ZoneTest.ReadWriteTest
import ZnsBench.ZoneTest.PhaseOrder
import ZnsBench.ZoneTest.ReleaseOnce
import ZnsBench.ZoneTest.ZonedDevice
import ZnsBench.ZoneTest.DevicePhases
import ZnsBench.ZoneTest.ReadsBack
import ZnsBench.ZoneTest.NvmeTest
import ZnsBench.ZoneTest.NvmeAccounting
import ZnsBench.ZoneTest.AppendComparison
import ZnsBench.Workload.ConsistencyWorkload
import ZnsBench.Workload.WorkloadFile
import ZnsBench.Workload.CyclicReplay
import ZnsBench.Workload.ThreadReport
import ZnsBench.Nvmf.AdvanceState
import ZnsBench.Nvmf.LifecycleTurns
import ZnsBench.Nvmf.PollGroupCensus
import ZnsBench.Nvmf.CensusRuns
import ZnsBench.Nvmf.PollGroupOwnership
import ZnsBench.Nvmf.TeardownOrder
import ZnsBench.Nvmf.ShutdownRequest
import ZnsBench.Nvmf.GivenUp
import ZnsBench.Nvmf.LostRequest
import ZnsBench.Nvmf.ShutdownCompletes
import ZnsBench.Core.Exchange
import ZnsBench.Nvmf.ReactorScheduler
import ZnsBench.Nvmf.ReactorTurns
import ZnsBench.Nvmf.ReactorPlacement
import ZnsBench.Nvmf.ReactorAffinity
import ZnsBench.Nvmf.ReactorConservation
import ZnsBench.Nvmf.ReactorDrain
import ZnsBench.Nvmf.ReactorRounds
import ZnsBench.Nvmf.PollGroupMigration
import ZnsBench.Workload.Json
import ZnsBench.Core.Fallible
import ZnsBench.Workload.JsonStringLanguage
import ZnsBench.Workload.JsonTables
import ZnsBench.Workload.JsonAcceptance
import ZnsBench.Workload.JsonRoundTrip
import ZnsBench.Workload.JsonUnicode
import ZnsBench.Core.LexicalPath
import ZnsBench.Http.HttpServer
import ZnsBench.Http.SessionRuns
import ZnsBench.Http.ServedFiles
