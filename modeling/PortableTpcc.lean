import PortableTpcc.ObAtomicity
import PortableTpcc.ObPool
import PortableTpcc.ObRollback
import PortableTpcc.ObConnectionPoolLaws
import PortableTpcc.PgAtMostOnce
import PortableTpcc.YdbPaymentCommit
import PortableTpcc.HistogramFamilies
import PortableTpcc.TaskQueueWakeup
import PortableTpcc.LockFilesLaws
import PortableTpcc.TimerQueueLaws
import PortableTpcc.SchedulerQueues
import PortableTpcc.DrainLoop
import PortableTpcc.AssignmentBalance
import PortableTpcc.SpscQueueLaws
import PortableTpcc.SharedStateLaws
import PortableTpcc.ProcessLogs
import PortableTpcc.StopPeers
import PortableTpcc.ClockCalibration
import PortableTpcc.StandaloneConsolidate
import PortableTpcc.MergeInPlace
import PortableTpcc.CollectInstance
import PortableTpcc.InstanceNames
import PortableTpcc.SchedulerStats
import PortableTpcc.PacingCredit
import PortableTpcc.DecimalAmounts
import PortableTpcc.RedactYaml
import PortableTpcc.PathContainment
import PortableTpcc.RetryDelays
import PortableTpcc.HistoryIds
import PortableTpcc.CanonicalJsonRfc
import PortableTpcc.WaitProcessesSuccess
