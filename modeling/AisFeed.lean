import AisFeed.Text.Blank
import AisFeed.Text.Html
import AisFeed.Text.Quoted
import AisFeed.Text.Utf8
import AisFeed.Time.Basic
import AisFeed.Time.Calendar
import AisFeed.Time.Timestamp
import AisFeed.Number.Binary64
import AisFeed.Number.Decimal
import AisFeed.Json.Basic
import AisFeed.Json.Printer
import AisFeed.Json.Reader
import AisFeed.Armor
import AisFeed.Codec
import AisFeed.Event
import AisFeed.Network.Address
import AisFeed.Record
import AisFeed.Sentence.Grammar
import AisFeed.Sentence.Reader
import AisFeed.Decoder.Basic
import AisFeed.Reassembly.Run
import AisFeed.Proofs.Reassembly.Refinement
import AisFeed.Proofs.Sentence.Acceptance
import AisFeed.Proofs.Sentence.Verdict
import AisFeed.Proofs.Decoder.Transparency
import AisFeed.Proofs.Text.Utf8
import AisFeed.Lines.Buffer
import AisFeed.Proofs.Lines.Delivery
import AisFeed.Pipeline.Basic
import AisFeed.Source.Datagram
import AisFeed.Source.Serial
import AisFeed.Source.Settings
import AisFeed.Forms
import AisFeed.Capture.Replay
import AisFeed.Capture.Survey
import AisFeed.Listen
import AisFeed.CommandLine.Arguments
import AisFeed.CommandLine.Command
import AisFeed.Main
import AisFeed.Proofs.Reassembly.Isolation
import AisFeed.Proofs.Decoder.Bookkeeping
import AisFeed.Proofs.Queue.Keeping
import AisFeed.Queue.Run
import AisFeed.Queue.Race
import AisFeed.Proofs.Queue.Race
import AisFeed.Proofs.Queue.Account
import AisFeed.Proofs.Queue.Consumers
import AisFeed.Pipeline.Schedule
import AisFeed.Proofs.Pipeline.Sinks
import AisFeed.Proofs.Pipeline.Decoding
import AisFeed.Proofs.Pipeline.Reader
import AisFeed.Proofs.Pipeline.Delivery
import AisFeed.Proofs.Pipeline.Sequence
import AisFeed.Proofs.Queue.Hub
import AisFeed.Proofs.Pipeline.Alone
import AisFeed.Proofs.Reassembly.Attempts
import AisFeed.Proofs.Time.Order
import AisFeed.Proofs.Reassembly.Eviction
import AisFeed.Decoder.InPlace
import AisFeed.Proofs.Decoder.Attempts
import AisFeed.Proofs.Reassembly.Waiting
import AisFeed.Proofs.Reassembly.Gaps
import AisFeed.Proofs.Decoder.Handed
import AisFeed.Proofs.Decoder.Bounds
import AisFeed.Proofs.Decoder.Noise
import AisFeed.Proofs.Decoder.Corruption
import AisFeed.Proofs.Decoder.Ledger
import AisFeed.Proofs.Source.Runs
import AisFeed.Proofs.Source.Serial
import AisFeed.Proofs.Time.Calendar
import AisFeed.Decoder.Feed
import AisFeed.Pipeline.Codecs
import AisFeed.Proofs.Pipeline.Codecs
import AisFeed.Proofs.Listening.TimeToLive
import AisFeed.Proofs.Pipeline.Signals
import AisFeed.Proofs.Pipeline.Advance
import AisFeed.Proofs.Pipeline.Failing
import AisFeed.Proofs.Pipeline.Flushing
import AisFeed.Proofs.Pipeline.Crash
import AisFeed.Proofs.Text.Numeral
import AisFeed.Proofs.Time.Timestamp
import AisFeed.Proofs.Json.Reading
import AisFeed.Proofs.Json.Form
import AisFeed.Proofs.Json.OneLine
import AisFeed.Proofs.Forms
import AisFeed.Proofs.Output.JsonLines
import AisFeed.Proofs.Decoder.Framing
import AisFeed.Proofs.Armor.Armoring
import AisFeed.Proofs.Armor.Header
import AisFeed.Proofs.Queue.Discards
import AisFeed.Proofs.Queue.Passing
import AisFeed.Proofs.Queue.Roll
import AisFeed.Proofs.Reassembly.Keyings
import AisFeed.Proofs.Text.Parts
import AisFeed.Proofs.Capture.Lines
import AisFeed.Proofs.Capture.Live
import AisFeed.Proofs.Capture.Tally
import AisFeed.Proofs.Capture.Statistics
import AisFeed.Proofs.Capture.Replay
import AisFeed.Proofs.Armor.Unpacking
import AisFeed.Proofs.Storage
import AisFeed.Proofs.Output.TimeColumn
import AisFeed.Proofs.Output.RawLog
