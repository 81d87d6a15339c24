import RustdeskCli.Foundation.Machine
import RustdeskCli.Foundation.Bytes
import RustdeskCli.Foundation.Sextets
import RustdeskCli.Foundation.Text
import RustdeskCli.Foundation.Lines
import RustdeskCli.Foundation.HereDocument
import RustdeskCli.Foundation.Utf8
import RustdeskCli.Foundation.ByteOffsets
import RustdeskCli.Foundation.Overlaps
import RustdeskCli.Transport.BytesCodec
import RustdeskCli.Transport.RoundTrip
import RustdeskCli.Transport.Decoding
import RustdeskCli.Transport.RecvFuture
import RustdeskCli.Crypto.EncryptedStream
import RustdeskCli.Crypto.Channel
import RustdeskCli.Crypto.Cancellation
import RustdeskCli.Crypto.Network
import RustdeskCli.Crypto.RefusedSends
import RustdeskCli.Session.Response
import RustdeskCli.Terminal.Protocol
import RustdeskCli.Exec.Sentinel
import RustdeskCli.Exec.SentinelSearch
import RustdeskCli.Exec.Output
import RustdeskCli.Exec.Command
import RustdeskCli.Exec.Chunking
import RustdeskCli.Exec.Agreement
import RustdeskCli.Exec.Isolation
import RustdeskCli.Daemon.ExecRequest
import RustdeskCli.Cli.Streaming
import RustdeskCli.Exec.StreamedText
import RustdeskCli.Foundation.Log
import RustdeskCli.Foundation.Insertion
import RustdeskCli.Foundation.Rounds
import RustdeskCli.Session.Command
import RustdeskCli.Session.Input
import RustdeskCli.Daemon.Stream
import RustdeskCli.Transfer.RemoteTarget
import RustdeskCli.Transfer.Push
import RustdeskCli.Capture.Screenshot
import RustdeskCli.Daemon.Handlers
import RustdeskCli.Daemon.TerminalCleanup
import RustdeskCli.Terminal.Session
import RustdeskCli.Daemon.SessionEnds
import RustdeskCli.Daemon.ShellInput
import RustdeskCli.Daemon.ClipboardScript
import RustdeskCli.Daemon.Loop
import RustdeskCli.Daemon.Reconnecting
import RustdeskCli.Daemon.SessionRuns
import RustdeskCli.Daemon.Answers
import RustdeskCli.Daemon.Modes
import RustdeskCli.Daemon.Closing
import RustdeskCli.Connection.Rendezvous
import RustdeskCli.Connection.Relay
import RustdeskCli.Connection.Address
import RustdeskCli.Connection.PunchHole
import RustdeskCli.Connection.Upgrade
import RustdeskCli.Connection.KeyExchange
import RustdeskCli.Connection.Base64
import RustdeskCli.Capture.Canonical
import RustdeskCli.Connection.Handshake
import RustdeskCli.Daemon.Heartbeats
import RustdeskCli.Daemon.HeartbeatRuns
import RustdeskCli.Daemon.ForeignMessages
import RustdeskCli.Daemon.PushErrors
import RustdeskCli.Daemon.Lifecycle
import RustdeskCli.Daemon.Startup
import RustdeskCli.Cli.Responses
import RustdeskCli.Cli.DaemonArgs
import RustdeskCli.Cli.Permissions
import RustdeskCli.Cli.Sandbox
import RustdeskCli.Cli.Batch
import RustdeskCli.Cli.BatchParsing
import RustdeskCli.Cli.BatchMeaning
import RustdeskCli.Cli.BatchLookup
import RustdeskCli.Cli.Commands
import RustdeskCli.Cli.Served
import RustdeskCli.Cli.Cropping
import RustdeskCli.Daemon.RetryBackoffs
import RustdeskCli.Connection.HeartbeatTask
import RustdeskCli.Daemon.Farewell
import RustdeskCli.Foundation.Records
import RustdeskCli.Session.JsonText
import RustdeskCli.Session.Wire
import RustdeskCli.Cli.Wire
import RustdeskCli.Cli.ShellCommand
import RustdeskCli.Cli.DirectPush
import RustdeskCli.Daemon.Pipes
import RustdeskCli.Cli.DirectExec
import RustdeskCli.Cli.Invocations
import RustdeskCli.Connection.Login
import RustdeskCli.Foundation.Ticker
import RustdeskCli.Daemon.Clock
import RustdeskCli.Connection.Registration
import RustdeskCli.Cli.CaptureFile
import RustdeskCli.Cli.PushFile
import RustdeskCli.Daemon.RequestLines
import RustdeskCli.Daemon.ExecBranch
