import DistributedComputing.TransitionRuns
import DistributedComputing.KeyedTable
import DistributedComputing.CallProgram
import DistributedComputing.RetryLoop
import DistributedComputing.JsonValue
import DistributedComputing.IsoTime
import DistributedComputing.BrokerRecords
import DistributedComputing.BrokerStore
import DistributedComputing.BrokerInterface
import DistributedComputing.PgBroker
import DistributedComputing.MongoBroker
import DistributedComputing.ApiMappers
import DistributedComputing.ControlService
import DistributedComputing.AssignmentLedger
import DistributedComputing.StoreLedger
import DistributedComputing.BrokerEvents
import DistributedComputing.PgBrokerEvents
import DistributedComputing.MongoRuns
import DistributedComputing.MongoBrokerEvents
import DistributedComputing.Deployment
import DistributedComputing.RequestEvents
import DistributedComputing.MasterRuns
import DistributedComputing.AssignmentConsistency
import DistributedComputing.AgentReachability
import DistributedComputing.OperationFrames
import DistributedComputing.TerminalStates
import DistributedComputing.ThreadPool
import DistributedComputing.ClaimInterleaving
import DistributedComputing.OfflineSweepFaults
import DistributedComputing.PollClaims
import DistributedComputing.PollDelivery
import DistributedComputing.SubmissionCount
import DistributedComputing.WorkerApp
import DistributedComputing.WorkerFleet
import DistributedComputing.LeaseHistory
import DistributedComputing.FinishedByHolder
import DistributedComputing.FailureFreeRequests
import DistributedComputing.WorkerBatches
import DistributedComputing.ExactlyOnce
import DistributedComputing.AssignmentRaces
import DistributedComputing.MongoModes
import DistributedComputing.BrokerPasses
import DistributedComputing.BrokerLoops
import DistributedComputing.StepCalls
import DistributedComputing.FinishTimes
import DistributedComputing.FinishedOutcomes
import DistributedComputing.RequestFrames
import DistributedComputing.TruthfulAnswers
import DistributedComputing.FileSystem
import DistributedComputing.LogStore
import DistributedComputing.LogStoreRefinement
import DistributedComputing.SubmittedTasks
import DistributedComputing.HttpHandlers
import DistributedComputing.UnifiedErrors
import DistributedComputing.BackendMirror
import DistributedComputing.IsoTimeTexts
import DistributedComputing.BackendPasses
import DistributedComputing.BackendEquivalence
import DistributedComputing.CreatedTasks
import DistributedComputing.OversizedConstraints
import DistributedComputing.AtomicFailures
import DistributedComputing.SweepEffects
import DistributedComputing.InterruptedCancel
import DistributedComputing.WireIntegers
import DistributedComputing.CallTraces
import DistributedComputing.PosixExecutor
import DistributedComputing.CanceledBeforeStart
import DistributedComputing.Utf8
import DistributedComputing.StringUtils
import DistributedComputing.UploadLimits
import DistributedComputing.LogWriteFaults
import DistributedComputing.DecimalTexts
import DistributedComputing.LogFollow
import DistributedComputing.Pagination
import DistributedComputing.TaskPages
import DistributedComputing.ConnInfo
import DistributedComputing.MongoUri
import DistributedComputing.ConnectionStrings
import DistributedComputing.HttpTargets
import DistributedComputing.AgentPaths
import DistributedComputing.CommandLines
import DistributedComputing.WindowsExecutor
import DistributedComputing.WindowsArguments
import DistributedComputing.WindowsEnvironment
import DistributedComputing.WindowsTimeout
import DistributedComputing.OptionArguments
import DistributedComputing.GlobalOptions
import DistributedComputing.SubmittedArguments
import DistributedComputing.LastBindings
import DistributedComputing.Trimming
import DistributedComputing.EnvFiles
import DistributedComputing.EnvFileLines
import DistributedComputing.EnvFileAgreement
import DistributedComputing.Strtol
import DistributedComputing.IntegerTexts
import DistributedComputing.LinkFreeTrees
import DistributedComputing.LogContainment
import DistributedComputing.PgSessions
import DistributedComputing.PgSessionsAlone
import DistributedComputing.RowLockFacts
import DistributedComputing.PgCommits
import DistributedComputing.PgStatements
import DistributedComputing.PgTransactions
import DistributedComputing.PgPolls
import DistributedComputing.PgSweeps
import DistributedComputing.PgInterleaving
import DistributedComputing.PgDurability
import DistributedComputing.QueryStrings
import DistributedComputing.Routes
import DistributedComputing.ClientRequests
import DistributedComputing.ListCommands
