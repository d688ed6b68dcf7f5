import IotMonitoring.Machine.Labelled
import IotMonitoring.Machine.Slots
import IotMonitoring.Machine.Tagged
import IotMonitoring.Machine.Answering
import IotMonitoring.Machine.Window
import IotMonitoring.Machine.Parties
import IotMonitoring.Machine.Mutexes
import IotMonitoring.Machine.Ownership
import IotMonitoring.Text.CString
import IotMonitoring.Text.Tokens
import IotMonitoring.Text.Listing
import IotMonitoring.Text.Buffer
import IotMonitoring.Text.Lines
import IotMonitoring.Text.LineReader
import IotMonitoring.Text.Fields
import IotMonitoring.Text.Charset
import IotMonitoring.Text.Escaping
import IotMonitoring.Text.Pieces
import IotMonitoring.Server.Protocol
import IotMonitoring.Server.Grammar
import IotMonitoring.Server.SharedTokenizer
import IotMonitoring.Server.SharedWords
import IotMonitoring.Server.Thresholds
import IotMonitoring.Server.Double
import IotMonitoring.Server.SensorManager
import IotMonitoring.Server.SensorRuns
import IotMonitoring.Server.SensorHistory
import IotMonitoring.Server.SensorInvariant
import IotMonitoring.Server.AlertEngine
import IotMonitoring.Server.Listings
import IotMonitoring.Server.AlertLog
import IotMonitoring.Auth.AuthServer
import IotMonitoring.Auth.Utf8
import IotMonitoring.Server.AuthClient
import IotMonitoring.Auth.AcceptLoop
import IotMonitoring.Server.OperatorRegistry
import IotMonitoring.Server.HandleClient
import IotMonitoring.Server.EventLog
import IotMonitoring.Server.Effects
import IotMonitoring.Server.Connections
import IotMonitoring.Server.ClientRuns
import IotMonitoring.Server.ClientSteps
import IotMonitoring.Server.Pairing
import IotMonitoring.Server.Segmentation
import IotMonitoring.Server.ReplyFraming
import IotMonitoring.Server.AlertLine
import IotMonitoring.Server.RegisteredType
import IotMonitoring.Server.Threads
import IotMonitoring.Server.SharedReply
import IotMonitoring.Server.Interleaving
import IotMonitoring.Server.OperatorStream
import IotMonitoring.Server.LockOrder
import IotMonitoring.Server.Capacity
import IotMonitoring.Server.OperatorMessages
import IotMonitoring.Server.Logger
import IotMonitoring.Server.LogCalls
import IotMonitoring.Server.LogFile
import IotMonitoring.Server.AuditTrail
import IotMonitoring.Server.StartServer
import IotMonitoring.Auth.InitDb
import IotMonitoring.Sensors.SensorBase
import IotMonitoring.Sensors.Decoding
import IotMonitoring.Sensors.Response
import IotMonitoring.Sensors.Answers
import IotMonitoring.Sensors.RunLoop
import IotMonitoring.Sensors.Session
import IotMonitoring.Sensors.Values
import IotMonitoring.Sensors.Generators
import IotMonitoring.Sensors.RunSensors
import IotMonitoring.Operator.Handshake
import IotMonitoring.Operator.ParseSensors
import IotMonitoring.Server.WholeRecords
import IotMonitoring.Server.NewestAlert
import IotMonitoring.Operator.ServerConnection
import IotMonitoring.Operator.RenderSensors
import IotMonitoring.Operator.EscHtml
import IotMonitoring.Operator.Dashboard
import IotMonitoring.Operator.Link
import IotMonitoring.Operator.Browser
import IotMonitoring.Operator.Console
import IotMonitoring.Operator.Tables
import IotMonitoring.Operator.Alarms
import IotMonitoring.Operator.WebLogin
