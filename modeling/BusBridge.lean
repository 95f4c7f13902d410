import BusBridge.Wire.Bytes
import BusBridge.Wire.Hex
import BusBridge.Wire.Layout
import BusBridge.Wire.Code
import BusBridge.Wire.Message
import BusBridge.Wire.Cursor
import BusBridge.Command.Payload
import BusBridge.Command.Info
import BusBridge.Command.I2c
import BusBridge.Command.Spi
import BusBridge.Command.Request
import BusBridge.Port.I2c
import BusBridge.Port.Spi
import BusBridge.Journal.Counter
import BusBridge.Journal.Duration
import BusBridge.Journal.Notice
import BusBridge.Journal.Fault
import BusBridge.Journal.Trace
import BusBridge.Journal.Run
import BusBridge.Journal.Loop
import BusBridge.Line.Medium
import BusBridge.Line.Stream
import BusBridge.Line.Link
import BusBridge.Line.Endpoint
import BusBridge.Line.Feed
import BusBridge.Service.Router
import BusBridge.Service.Board
import BusBridge.Service.I2cPorts
import BusBridge.Service.SpiPorts
import BusBridge.Service.Serving
import BusBridge.Caller.Clock
import BusBridge.Caller.ResponseSlot
import BusBridge.Caller.Call
import BusBridge.Caller.Inquiry
import BusBridge.Caller.Dialogue
import BusBridge.Caller.Single
import BusBridge.Caller.LightMeter
import BusBridge.Caller.Timed
import BusBridge.Bench.DraftOp
import BusBridge.Bench.Device
import BusBridge.Bench.Listener
import BusBridge.Bench.Peer
import BusBridge.Bench.Script
import BusBridge.Bench.Timetable
import BusBridge.Proofs.Journal
import BusBridge.Proofs.Blocks
import BusBridge.Proofs.Framing
import BusBridge.Proofs.Streams
import BusBridge.Proofs.Emission
import BusBridge.Proofs.Reception
import BusBridge.Proofs.Polling
import BusBridge.Proofs.Delivery
import BusBridge.Proofs.Drafts
import BusBridge.Proofs.Dispatch
import BusBridge.Proofs.Exchange
import BusBridge.Proofs.Calls
import BusBridge.Proofs.Failures
import BusBridge.Proofs.Agreement
import BusBridge.Proofs.Codecs
import BusBridge.Proofs.Cursors
import BusBridge.Proofs.Feeding
import BusBridge.Proofs.Replies
import BusBridge.Proofs.Answers
import BusBridge.Proofs.Transparency
import BusBridge.Proofs.Hearing
import BusBridge.Proofs.Metering
import BusBridge.Proofs.TimedCalls
import BusBridge.Proofs.LateResponses
import BusBridge.Proofs.Lifetime
import BusBridge.Proofs.Transfers
import BusBridge.Proofs.Serving
import BusBridge.Proofs.Sequential
import BusBridge.Proofs.Watching
import BusBridge.Proofs.Waiting
import BusBridge.Proofs.Writing
import BusBridge.Proofs.Returning
import BusBridge.Proofs.RoundTrip
import BusBridge.Proofs.Settlement
import BusBridge.Proofs.Outgoing
import BusBridge.Proofs.Detaching
import BusBridge.Proofs.Hosting
import BusBridge.Proofs.Dialogues
import BusBridge.Proofs.Collisions
import BusBridge.Proofs.Erasure
import BusBridge.Proofs.Correlation
import BusBridge.Proofs.PayloadTable
import BusBridge.Proofs.Forgetting
import BusBridge.Proofs.Minutes
import BusBridge.Proofs.Contract
import BusBridge.Proofs.Outlets
import BusBridge.Proofs.Accesses
import BusBridge.Proofs.Channels
import BusBridge.Proofs.Residue
import BusBridge.Proofs.Rounding
import BusBridge.Proofs.LightScript
import BusBridge.Proofs.CallForms
import BusBridge.Proofs.Halting
import BusBridge.Proofs.Routines
import BusBridge.Proofs.DumpLines
import BusBridge.Proofs.FrameDump
import BusBridge.Proofs.Expectations
