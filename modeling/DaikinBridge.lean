import DaikinBridge.Lib.Runs
import DaikinBridge.Lib.Requests
import DaikinBridge.S21.DataLinkOnce
import DaikinBridge.S21.Capture
import DaikinBridge.Sync.LastReport
import DaikinBridge.Sync.Sensors
import DaikinBridge.Sync.Reports
import DaikinBridge.Sync.InFlight
import DaikinBridge.Bridge.Wire
import DaikinBridge.Bridge.System
import DaikinBridge.Sync.Guard
import DaikinBridge.Sync.Dropped
import DaikinBridge.Bridge.Shadows
import DaikinBridge.Sync.CommandRouter
import DaikinBridge.Sync.Encodable
import DaikinBridge.S21.Manager
import DaikinBridge.S21.ManagerReads
import DaikinBridge.S21.Setters
import DaikinBridge.S21.Steps
import DaikinBridge.S21.Capabilities
import DaikinBridge.S21.Staleness
import DaikinBridge.Bridge.AirConditionerManager
import DaikinBridge.Bridge.Reachability
import DaikinBridge.Bridge.Readings
import DaikinBridge.S21.Decoders
import DaikinBridge.Bridge.Codes
import DaikinBridge.Sync.Intents
import DaikinBridge.Sync.Redundant
import DaikinBridge.Sync.Attribution
import DaikinBridge.Sync.FanConsistency
import DaikinBridge.Sync.RunningMode
import DaikinBridge.Sync.Repeats
import DaikinBridge.Sync.RelativeCommands
import DaikinBridge.Lib.Midpoint
import DaikinBridge.Sync.Bundles
import DaikinBridge.Sync.ChangePublisher
import DaikinBridge.Sync.AttributeAccess
import DaikinBridge.Lib.Publication
import DaikinBridge.Bridge.Coordinator
import DaikinBridge.Bridge.Reporting
import DaikinBridge.Bridge.PowerIndicator
import DaikinBridge.Bridge.CommandPump
import DaikinBridge.S21.SyncCalls
import DaikinBridge.Bridge.WorkQueue
import DaikinBridge.Bridge.Retries
import DaikinBridge.Lib.Refinement
import DaikinBridge.Sync.OperationalPart
import DaikinBridge.Bridge.Installation
import DaikinBridge.Bridge.Coordinated
import DaikinBridge.Bridge.UnitReadings
import DaikinBridge.S21.Conversation
