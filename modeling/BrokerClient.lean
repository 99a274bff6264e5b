import BrokerClient.Amqp.Address
import BrokerClient.Amqp.Link
import BrokerClient.Amqp.Method
import BrokerClient.Amqp.ReplyCode
import BrokerClient.Amqp.Session
import BrokerClient.Amqp.Table
import BrokerClient.Backoff
import BrokerClient.Broker.Basic
import BrokerClient.Broker.Operations
import BrokerClient.CloseNotice
import BrokerClient.Consumer.Config
import BrokerClient.Consumer.Consuming
import BrokerClient.Consumer.Handler
import BrokerClient.Decimal.Reading
import BrokerClient.Decimal.Shortest
import BrokerClient.Delivery
import BrokerClient.Duration
import BrokerClient.Endpoint
import BrokerClient.Error
import BrokerClient.Event
import BrokerClient.FairLock
import BrokerClient.Fields
import BrokerClient.FileTree
import BrokerClient.Json.Basic
import BrokerClient.Json.Fault
import BrokerClient.Json.Print
import BrokerClient.Json.Scan
import BrokerClient.Json.Shape
import BrokerClient.Log
import BrokerClient.Machine
import BrokerClient.Main
import BrokerClient.NoticeBoard
import BrokerClient.Proofs.Amqp.Closing
import BrokerClient.Proofs.Amqp.Confirmation
import BrokerClient.Proofs.Backoff
import BrokerClient.Proofs.Broker.Channels
import BrokerClient.Proofs.Broker.Connections
import BrokerClient.Proofs.Broker.DeadChannels
import BrokerClient.Proofs.Broker.Orphans
import BrokerClient.Proofs.Broker.Record
import BrokerClient.Proofs.Consumer.Cancellation
import BrokerClient.Proofs.Consumer.Channels
import BrokerClient.Proofs.Consumer.Circuit
import BrokerClient.Proofs.Consumer.Loop
import BrokerClient.Proofs.Consumer.Path
import BrokerClient.Proofs.Consumer.Protocol
import BrokerClient.Proofs.Consumer.Requests
import BrokerClient.Proofs.Consumer.Settling
import BrokerClient.Proofs.Consumer.Stopping
import BrokerClient.Proofs.Endpoint
import BrokerClient.Proofs.EndpointList
import BrokerClient.Proofs.Fallible
import BrokerClient.Proofs.Fields
import BrokerClient.Proofs.FileTree
import BrokerClient.Proofs.Json.Depth
import BrokerClient.Proofs.Json.Reading
import BrokerClient.Proofs.Json.Shapes
import BrokerClient.Proofs.Json.Spelling
import BrokerClient.Proofs.Json.Token
import BrokerClient.Proofs.Json.Value
import BrokerClient.Proofs.NoticeBoard
import BrokerClient.Proofs.Payload
import BrokerClient.Proofs.Publisher.Discard
import BrokerClient.Proofs.Publisher.Lock
import BrokerClient.Proofs.Publisher.OneChannel
import BrokerClient.Proofs.Publisher.Publications
import BrokerClient.Proofs.Publisher.Retrying
import BrokerClient.Proofs.Publisher.Turn
import BrokerClient.Proofs.Settings.Arguments
import BrokerClient.Proofs.Settings.Checking
import BrokerClient.Proofs.Settings.Document
import BrokerClient.Proofs.Settings.Environment
import BrokerClient.Proofs.Settings.Naming
import BrokerClient.Proofs.Settings.RoundTrip
import BrokerClient.Proofs.Settings.Sources
import BrokerClient.Proofs.Settings.Usable
import BrokerClient.Proofs.Supervisor.AfterShutdown
import BrokerClient.Proofs.Supervisor.Connecting
import BrokerClient.Proofs.Supervisor.DialHistory
import BrokerClient.Proofs.Supervisor.Handover
import BrokerClient.Proofs.Supervisor.Lifecycle
import BrokerClient.Proofs.Supervisor.OneConnection
import BrokerClient.Proofs.Supervisor.Reconnecting
import BrokerClient.Proofs.Supervisor.Rounds
import BrokerClient.Proofs.Supervisor.Termination
import BrokerClient.Proofs.Supervisor.Turn
import BrokerClient.Proofs.Supervisor.Watching
import BrokerClient.Proofs.System.Publishing
import BrokerClient.Proofs.System.Recording
import BrokerClient.Proofs.System.Run
import BrokerClient.Proofs.System.Supervision
import BrokerClient.Proofs.System.Tokens
import BrokerClient.Proofs.System.Traffic
import BrokerClient.Proofs.Text.Blank
import BrokerClient.Proofs.Text.Bytes
import BrokerClient.Proofs.Text.Decimal
import BrokerClient.Proofs.Url.Host
import BrokerClient.Proofs.Url.Password
import BrokerClient.Proofs.Uuid
import BrokerClient.Publisher.Basic
import BrokerClient.Publisher.Channel
import BrokerClient.Publisher.Publish
import BrokerClient.Report
import BrokerClient.Service
import BrokerClient.Settings.Basic
import BrokerClient.Settings.Codec
import BrokerClient.Settings.Environment
import BrokerClient.Settings.File
import BrokerClient.Settings.VariableFile
import BrokerClient.Supervisor.Basic
import BrokerClient.Supervisor.Failover
import BrokerClient.Supervisor.Lifecycle
import BrokerClient.Supervisor.Watcher
import BrokerClient.System.Basic
import BrokerClient.System.Schedule
import BrokerClient.Text.Alphanumeric
import BrokerClient.Text.Blank
import BrokerClient.Text.Decimal
import BrokerClient.Text.Hex
import BrokerClient.Text.LowerCase
import BrokerClient.Text.Quoted
import BrokerClient.Text.Unprintable
import BrokerClient.Text.Utf8
import BrokerClient.Url.Basic
import BrokerClient.Url.Host
import BrokerClient.Url.Idna
import BrokerClient.Url.Path
import BrokerClient.Url.Percent
import BrokerClient.Uuid
