import SwapBridge.Amount
import SwapBridge.Archive.Bits
import SwapBridge.Archive.Checksum
import SwapBridge.Archive.Deflate
import SwapBridge.Archive.Gzip
import SwapBridge.Archive.Huffman
import SwapBridge.Archive.Tar
import SwapBridge.Broker
import SwapBridge.CommandLine
import SwapBridge.Daemon.Basic
import SwapBridge.Daemon.Message
import SwapBridge.Deployment
import SwapBridge.Feed
import SwapBridge.FileTree
import SwapBridge.Invoice
import SwapBridge.Json.Basic
import SwapBridge.Json.Codec
import SwapBridge.Json.Forms
import SwapBridge.Json.Pretty
import SwapBridge.Json.Reader
import SwapBridge.Json.Token
import SwapBridge.Json.Writer
import SwapBridge.Ledger
import SwapBridge.Mailbox
import SwapBridge.Main
import SwapBridge.Node.Config
import SwapBridge.Node.Lightning
import SwapBridge.PartialPayment
import SwapBridge.Path
import SwapBridge.Payment
import SwapBridge.Platform
import SwapBridge.Poll
import SwapBridge.Proofs.Archive.Stored
import SwapBridge.Proofs.Broker
import SwapBridge.Proofs.Broker.Rebalance
import SwapBridge.Proofs.CatchUp
import SwapBridge.Proofs.Json.Codec
import SwapBridge.Proofs.Json.Forms
import SwapBridge.Proofs.FileTree
import SwapBridge.Proofs.Ledger
import SwapBridge.Proofs.PartialPayment.Redelivery
import SwapBridge.Proofs.Poll.Overlap
import SwapBridge.Proofs.Poll.Published
import SwapBridge.Proofs.Reconciler.Notifications
import SwapBridge.Proofs.Reconciler.SharedLockup
import SwapBridge.Proofs.Release.Install
import SwapBridge.Proofs.Release.Place
import SwapBridge.Proofs.Rotation.SingleUse
import SwapBridge.Proofs.Session.Credentials
import SwapBridge.Proofs.Store
import SwapBridge.Proofs.Store.Writes
import SwapBridge.Reconciler
import SwapBridge.Release.Extract
import SwapBridge.Release.Install
import SwapBridge.Release.Server
import SwapBridge.Release.Target
import SwapBridge.Report
import SwapBridge.Rotation
import SwapBridge.Rpc.Address
import SwapBridge.Rpc.Connection
import SwapBridge.Rpc.HostName
import SwapBridge.Rpc.Status
import SwapBridge.Service
import SwapBridge.Settings
import SwapBridge.Shell.External
import SwapBridge.Shell.Interpreter
import SwapBridge.Shell.Run
import SwapBridge.Shell.Script
import SwapBridge.Shell.Word
import SwapBridge.Signal
import SwapBridge.Storage
import SwapBridge.Store
import SwapBridge.Supervisor.Config
import SwapBridge.Supervisor.Host
import SwapBridge.Supervisor.Machine
import SwapBridge.Supervisor.Program
import SwapBridge.Supervisor.State
import SwapBridge.Swap.Event
import SwapBridge.Swap.Report
import SwapBridge.Table
import SwapBridge.Tenant
import SwapBridge.Text.Blank
import SwapBridge.Text.Decimal
import SwapBridge.Text.Duration
import SwapBridge.Text.Hex
import SwapBridge.Text.Percent
import SwapBridge.Text.Split
import SwapBridge.Text.Utf8
import SwapBridge.Toml.Document
import SwapBridge.Tool.Answer
import SwapBridge.Tool.Command
import SwapBridge.Tool.Run
import SwapBridge.World
import SwapBridge.Proofs.Release.Replace
import SwapBridge.Proofs.Release.History
import SwapBridge.Proofs.Supervisor.Machine
import SwapBridge.Proofs.Supervisor.Run
import SwapBridge.Proofs.Supervisor.Host
import SwapBridge.Proofs.Supervisor.Move
import SwapBridge.Proofs.Supervisor.Lifecycle
import SwapBridge.Proofs.PartialPayment.Stranding
import SwapBridge.Proofs.Reconciler.Unheard
import SwapBridge.Proofs.Store.Payments
import SwapBridge.Proofs.Feed.Parts
import SwapBridge.Proofs.Feed.Interference
import SwapBridge.Proofs.Amount.Conversion
import SwapBridge.Proofs.Amount.Text
import SwapBridge.Proofs.Node.Config
import SwapBridge.Proofs.Rotation.Decision
import SwapBridge.Proofs.Release.Confinement
import SwapBridge.Proofs.Text
import SwapBridge.Proofs.Node.ConnectionString
import SwapBridge.Proofs.Json.AnyForm
import SwapBridge.Proofs.Amount.Satoshis
