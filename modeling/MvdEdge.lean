import MvdEdge.Lib.Binary64
import MvdEdge.Lib.InsertionDict
import MvdEdge.Lib.Effect
import MvdEdge.Lib.Alternating
import MvdEdge.Lib.Records
import MvdEdge.Lib.Firsts
import MvdEdge.Lib.Ghost
import MvdEdge.Lib.Within
import MvdEdge.Lib.Agreement
import MvdEdge.Lib.Raising
import MvdEdge.Lib.Journal
import MvdEdge.Lib.Dialogue
import MvdEdge.Lib.ShiftRegister
import MvdEdge.Lib.DelimitedText
import MvdEdge.Lib.SortedDict
import MvdEdge.Lib.JsonText
import MvdEdge.Lib.FixedWidth
import MvdEdge.Lib.Simulation
import MvdEdge.Numerals
import MvdEdge.EventEngine.State
import MvdEdge.EventEngine.Presence
import MvdEdge.EventEngine.StateProperties
import MvdEdge.EventEngine.Outage
import MvdEdge.EventEngine.Readers
import MvdEdge.Adapters.Frame
import MvdEdge.Adapters.FrameProperties
import MvdEdge.Adapters.DecoderLanguage
import MvdEdge.Adapters.InventoryReport
import MvdEdge.Adapters.ErrorDetection
import MvdEdge.Health.Status
import MvdEdge.Adapters.Idt85
import MvdEdge.Adapters.Idt85Properties
import MvdEdge.Discovery.Serial
import MvdEdge.Discovery.Selection
import MvdEdge.Storage.Queue
import MvdEdge.Storage.Batch
import MvdEdge.Storage.QueueRuns
import MvdEdge.Storage.Timestamps
import MvdEdge.Storage.Sqlite
import MvdEdge.Transport.Cloud
import MvdEdge.App.Inventory
import MvdEdge.App.Connect
import MvdEdge.App.LineRules
import MvdEdge.App.Handshake
import MvdEdge.App.Scanning
import MvdEdge.App.Delivery
import MvdEdge.App.DeliveryProperties
import MvdEdge.App.SqliteDelivery
import MvdEdge.App.DeliveryOrder
import MvdEdge.App.DeliveryRound
import MvdEdge.App.DeliveryRounds
import MvdEdge.App.Run
import MvdEdge.App.Pause
import MvdEdge.App.RunProperties
import MvdEdge.App.Surveying
import MvdEdge.App.CloudAnswers
import MvdEdge.App.Discipline
import MvdEdge.App.History
import MvdEdge.App.Journaled
import MvdEdge.App.Chronicle
import MvdEdge.App.ChronicleProperties
import MvdEdge.App.HealthReports
import MvdEdge.App.Schedule
import MvdEdge.App.ScheduleProperties
import MvdEdge.App.Concerns
import MvdEdge.App.TimelineProperties
import MvdEdge.App.Punctuality
import MvdEdge.App.Bounds
import MvdEdge.App.StoreAndForward
import MvdEdge.App.Draining
import MvdEdge.App.Shutdown
import MvdEdge.App.Interruptions
import MvdEdge.Config.FromEnv
import MvdEdge.Config.Timings
import MvdEdge.App.Main
import MvdEdge.Health.Network
import MvdEdge.Health.NetworkProperties
import MvdEdge.App.FieldToQueue
