import Blockwise.Address
import Blockwise.Address.Reader
import Blockwise.Address.Text
import Blockwise.Block
import Blockwise.BlockSize
import Blockwise.Bytes
import Blockwise.Client
import Blockwise.Client.Script
import Blockwise.Command
import Blockwise.ControlTraffic
import Blockwise.Controller
import Blockwise.Duration
import Blockwise.Endpoint
import Blockwise.Failure
import Blockwise.Gate
import Blockwise.History
import Blockwise.Message
import Blockwise.Message.Code
import Blockwise.Message.Options
import Blockwise.Message.Wire
import Blockwise.Path
import Blockwise.Poll
import Blockwise.Proofs.Block.Value
import Blockwise.Proofs.Endpoint.Turn
import Blockwise.Proofs.Gate
import Blockwise.Proofs.Message.Options
import Blockwise.Proofs.Message.Wire
import Blockwise.Proofs.Path.Canonical
import Blockwise.Proofs.Server.Answer
import Blockwise.Proofs.Server.Background
import Blockwise.Proofs.Server.Cases
import Blockwise.Proofs.Server.Download
import Blockwise.Proofs.Server.Fetch
import Blockwise.Proofs.Server.Loop
import Blockwise.Proofs.Server.Reply
import Blockwise.Proofs.Server.Serve
import Blockwise.Proofs.Server.Stream
import Blockwise.Proofs.Text.Pieces
import Blockwise.Proofs.Transfer.Blocks
import Blockwise.Proofs.Transfer.Handle
import Blockwise.Proofs.Transfer.Run
import Blockwise.Scenario
import Blockwise.Scenario.Scene
import Blockwise.Security
import Blockwise.Server
import Blockwise.Server.Loop
import Blockwise.Settings
import Blockwise.Socket
import Blockwise.Store
import Blockwise.Text.Blank
import Blockwise.Text.Pieces
import Blockwise.Text.Printable
import Blockwise.Text.Quoted
import Blockwise.Text.Utf8
import Blockwise.Transfer
import Blockwise.Transfer.Mismatch
import Blockwise.Proofs.Server.Loss
import Blockwise.Proofs.Server.LastAnswer
import Blockwise.Proofs.Server.Copies
import Blockwise.Proofs.Server.Events
import Blockwise.Proofs.Server.Retransmission
import Blockwise.Proofs.Server.Isolation
import Blockwise.Proofs.Server.Interleaving
import Blockwise.Proofs.Server.Noise
import Blockwise.Proofs.Server.Failures
import Blockwise.Proofs.Server.Bookkeeping
import Blockwise.Proofs.Socket.Reading
import Blockwise.Proofs.Endpoint.Waits
import Blockwise.Proofs.Endpoint.Messages
import Blockwise.Proofs.Endpoint.Attribution
import Blockwise.Proofs.Controller.Interruption
import Blockwise.Proofs.Controller.Reconnection
import Blockwise.Proofs.Controller.Silence
import Blockwise.Proofs.Endpoint.Requests
import Blockwise.Proofs.Poll
import Blockwise.Proofs.Steps
import Blockwise.Proofs.Controller.Answering
import Blockwise.Proofs.Controller.Operations
import Blockwise.Proofs.Controller.Continuity
import Blockwise.Proofs.Controller.Retransmission
import Blockwise.Proofs.Server.Repetition
import Blockwise.Proofs.Scenario.Resumption
import Blockwise.Proofs.Scenario.Trial
import Blockwise.Proofs.Scenario.Backoff
import Blockwise.Proofs.Text.Utf8
import Blockwise.Proofs.Transfer.InPlace
import Blockwise.Proofs.Transfer.Completion
import Blockwise.Proofs.Controller.Boundary
import Blockwise.Proofs.Gate.Screening
import Blockwise.Proofs.Gate.Total
import Blockwise.Proofs.Block.Codec
import Blockwise.Proofs.Message.Truncation
import Blockwise.Proofs.Message.Edits
import Blockwise.Proofs.Controller.Finishing
import Blockwise.Proofs.Path.Agreement
import Blockwise.Proofs.Store.Calls
import Blockwise.Proofs.Store.Keyed
import Blockwise.Proofs.Command.Grammar
import Blockwise.Proofs.Text.Words
import Blockwise.Proofs.Poll.Schedule
import Blockwise.Proofs.Endpoint.Numbering
import Blockwise.Proofs.Endpoint.Recognition
import Blockwise.Proofs.ControlTraffic
