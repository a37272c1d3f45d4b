import MotionBridge.Properties.MotionPermission
import MotionBridge.Properties.StopDominance
import MotionBridge.Properties.Latching
import MotionBridge.Properties.Completion
import MotionBridge.Properties.CommunicationLoss
import MotionBridge.Properties.Delivery
import MotionBridge.Properties.Contention
import MotionBridge.Properties.AntiWindup
import MotionBridge.Properties.HistoryIndependence
import MotionBridge.Properties.SupervisorsAgree
import MotionBridge.Control.TrajectoryProfile
import MotionBridge.Properties.ClosedForm
import MotionBridge.Properties.Arrival
import MotionBridge.Properties.Retargeting
import MotionBridge.Properties.MotionLimits
import MotionBridge.Communication.S7DbLayout
import MotionBridge.Properties.DbCodec
import MotionBridge.Foundation.Binary64
import MotionBridge.Properties.MalformedCommands
import MotionBridge.Communication.StatusChannel
import MotionBridge.Properties.StatusDelivery
import MotionBridge.Properties.Coasting
import MotionBridge.Properties.Polling
import MotionBridge.Properties.SteadyCommunication
import MotionBridge.Properties.HandOver
import MotionBridge.Properties.StatusCoherence
import MotionBridge.Properties.Pacing
import MotionBridge.Foundation.Numeral
import MotionBridge.Communication.OpcUaConfig
import MotionBridge.Foundation.LastBinding
import MotionBridge.Properties.ConfigurationGrammar
import MotionBridge.Properties.ConfigurationRoundTrip
import MotionBridge.Properties.NamespaceNumeral
import MotionBridge.Communication.OpcUaPlc
import MotionBridge.Properties.HeartbeatOrder
import MotionBridge.Foundation.Aggregate
import MotionBridge.Properties.StreamingStatistics
import MotionBridge.Communication.MockPlc
import MotionBridge.Communication.S7Plc
import MotionBridge.Properties.S7Link
import MotionBridge.Communication.OpcUaServer
import MotionBridge.Properties.OpcUaLink
import MotionBridge.Runtime.PlcClients
import MotionBridge.Properties.AdaptersAgree
import MotionBridge.Properties.EndToEnd
import MotionBridge.Properties.WorkerSession
import MotionBridge.Properties.Recovery
import MotionBridge.Demo.Options
import MotionBridge.Properties.CommandLine
import MotionBridge.Demo.Main
import MotionBridge.Properties.DemoRun
import MotionBridge.Properties.RoundTrip
import MotionBridge.Properties.EmergencyResponse
import MotionBridge.Properties.PollRate
import MotionBridge.Properties.SynchronousEndToEnd
import MotionBridge.Foundation.Rounds
import MotionBridge.Properties.TerminalSpeed
import MotionBridge.Properties.TornReads
import MotionBridge.Properties.RealTime
import MotionBridge.Properties.AsyncRecovery
import MotionBridge.Properties.S7RoundTrip
