import QuorumReport.Basic
import QuorumReport.Hex
import QuorumReport.Rpc.Types
import QuorumReport.Rpc.StorageHistory
import QuorumReport.Rpc.Transaction
import QuorumReport.Rpc.Events
import QuorumReport.Monitor.Types
import QuorumReport.Monitor.AbiMatch
import QuorumReport.Monitor.TokenMonitor
import QuorumReport.Monitor.Outcomes
