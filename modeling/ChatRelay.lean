import ChatRelay.Broker.Basic
import ChatRelay.Broker.Journal
import ChatRelay.ByteQueue.Basic
import ChatRelay.ByteQueue.Framing
import ChatRelay.ByteQueue.Transfer
import ChatRelay.CommandLine.Arguments
import ChatRelay.CommandLine.Grammar
import ChatRelay.Endpoint.Basic
import ChatRelay.Endpoint.Journal
import ChatRelay.Frame
import ChatRelay.Hosting.Basic
import ChatRelay.Hosting.Event
import ChatRelay.Hosting.Program
import ChatRelay.Log
import ChatRelay.Loopback.Basic
import ChatRelay.Loopback.Link
import ChatRelay.Loopback.Scenario
import ChatRelay.Main
import ChatRelay.Memory
import ChatRelay.Message
import ChatRelay.MessageQueue
import ChatRelay.Multiplexer
import ChatRelay.Peer.Basic
import ChatRelay.Peer.Id
import ChatRelay.Peer.Table
import ChatRelay.Proofs.Broker.Account
import ChatRelay.Proofs.Broker.Aside
import ChatRelay.Proofs.Broker.Authorship
import ChatRelay.Proofs.Broker.Backlog
import ChatRelay.Proofs.Broker.Batch
import ChatRelay.Proofs.Broker.HostLines
import ChatRelay.Proofs.Broker.Interest
import ChatRelay.Proofs.Broker.Invariant
import ChatRelay.Proofs.Broker.Isolation
import ChatRelay.Proofs.Broker.Reassembly
import ChatRelay.Proofs.Broker.Refusal
import ChatRelay.Proofs.Broker.Relay
import ChatRelay.Proofs.Broker.RelayLog
import ChatRelay.Proofs.Broker.SenderOrder
import ChatRelay.Proofs.Broker.Serve
import ChatRelay.Proofs.Broker.Session
import ChatRelay.Proofs.Broker.Traffic
import ChatRelay.Proofs.Broker.Watch
import ChatRelay.Proofs.ByteQueue.Fifo
import ChatRelay.Proofs.ByteQueue.Framing
import ChatRelay.Proofs.ByteQueue.Growth
import ChatRelay.Proofs.ByteQueue.Reception
import ChatRelay.Proofs.ByteQueue.Region
import ChatRelay.Proofs.ByteQueue.Transfer
import ChatRelay.Proofs.ByteQueue.Transmission
import ChatRelay.Proofs.Delivery
import ChatRelay.Proofs.DisplayName
import ChatRelay.Proofs.Endpoint.Inbound
import ChatRelay.Proofs.Endpoint.Lifecycle
import ChatRelay.Proofs.Endpoint.Operations
import ChatRelay.Proofs.Endpoint.Outbound
import ChatRelay.Proofs.Endpoint.Session
import ChatRelay.Proofs.Framing
import ChatRelay.Proofs.Hosting
import ChatRelay.Proofs.Message
import ChatRelay.Proofs.MessageQueue.Fifo
import ChatRelay.Proofs.MessageQueue.Intake
import ChatRelay.Proofs.MessageQueue.Ring
import ChatRelay.Proofs.Multiplexer
import ChatRelay.Proofs.Network
import ChatRelay.Proofs.Peer.History
import ChatRelay.Proofs.Peer.Occupancy
import ChatRelay.Proofs.Peer.Packing
import ChatRelay.Proofs.Peer.Reuse
import ChatRelay.Proofs.Peer.Table
import ChatRelay.Proofs.Peer.Token
import ChatRelay.Proofs.Text.Lossy
import ChatRelay.Proofs.Text.Subparts
import ChatRelay.RelayError
import ChatRelay.Settings.Basic
import ChatRelay.Settings.File
import ChatRelay.SocketAddress
import ChatRelay.System.Errno
import ChatRelay.System.ErrorKind
import ChatRelay.System.IoError
import ChatRelay.Text.Digit
import ChatRelay.Text.Invisible
import ChatRelay.Text.Quoted
import ChatRelay.Text.Utf8
import ChatRelay.Toml.Document
import ChatRelay.Toml.Scalar
import ChatRelay.Toml.Value
