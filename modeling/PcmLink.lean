import PcmLink.Address
import PcmLink.Capture
import PcmLink.CapturedFrame
import PcmLink.Command
import PcmLink.CommandLine
import PcmLink.CommandLine.Host
import PcmLink.CommandLine.LogDirective
import PcmLink.CommandLine.LogFilter
import PcmLink.CommandLine.LogLine
import PcmLink.CommandLine.Record
import PcmLink.CommandLine.Send
import PcmLink.Datagram
import PcmLink.Disk
import PcmLink.Disk.Path
import PcmLink.Document
import PcmLink.Document.Key
import PcmLink.Document.Layout
import PcmLink.Document.Moment
import PcmLink.Document.Number
import PcmLink.Document.Quotation
import PcmLink.Document.Shape
import PcmLink.Document.Table
import PcmLink.Document.Value
import PcmLink.Error
import PcmLink.Frame
import PcmLink.Interface
import PcmLink.Interface.Machine
import PcmLink.IoError
import PcmLink.IpAddress
import PcmLink.Link.Channel
import PcmLink.Link.Inbound
import PcmLink.Link.Memory
import PcmLink.Link.Outbound
import PcmLink.Main
import PcmLink.Octets.Endian
import PcmLink.Octets.Hex
import PcmLink.Octets.Sink
import PcmLink.Octets.Source
import PcmLink.Proofs.Address
import PcmLink.Proofs.Capture.Account
import PcmLink.Proofs.Capture.Audit
import PcmLink.Proofs.Capture.Bounds
import PcmLink.Proofs.Capture.Delivery
import PcmLink.Proofs.Capture.Foreign
import PcmLink.Proofs.Capture.Polling
import PcmLink.Proofs.Capture.Steps
import PcmLink.Proofs.Capture.Stopping
import PcmLink.Proofs.Capture.Verdict
import PcmLink.Proofs.CommandLine
import PcmLink.Proofs.Disk.Drafts
import PcmLink.Proofs.Disk.Finding
import PcmLink.Proofs.Disk.Naming
import PcmLink.Proofs.Disk.Path
import PcmLink.Proofs.Document.Shape
import PcmLink.Proofs.Frame
import PcmLink.Proofs.Link.Answers
import PcmLink.Proofs.Octets.Sink
import PcmLink.Proofs.ProtocolType
import PcmLink.Proofs.Reassembly.Limits
import PcmLink.Proofs.Reassembly.Recovery
import PcmLink.Proofs.Recording.Foreign
import PcmLink.Proofs.Recording.Gathering
import PcmLink.Proofs.Recording.Leftovers
import PcmLink.Proofs.Recording.Loopback
import PcmLink.Proofs.Recording.ReadingBack
import PcmLink.Proofs.Recording.Report
import PcmLink.Proofs.Recording.Stages
import PcmLink.Proofs.Recording.Stream
import PcmLink.Proofs.Samples
import PcmLink.Proofs.Text.Blank
import PcmLink.Proofs.Text.Numeral
import PcmLink.Proofs.Trace
import PcmLink.Proofs.Transmitter.Attempts
import PcmLink.Proofs.Transmitter.Ending
import PcmLink.Proofs.Transmitter.Endurance
import PcmLink.Proofs.Transmitter.Interleaving
import PcmLink.Proofs.Transmitter.Limit
import PcmLink.Proofs.Transmitter.Lines
import PcmLink.Proofs.Transmitter.Listening
import PcmLink.Proofs.Transmitter.Noise
import PcmLink.Proofs.Transmitter.Sending
import PcmLink.Proofs.Transmitter.Session
import PcmLink.Proofs.Transmitter.Speeds
import PcmLink.Proofs.Transmitter.Turns
import PcmLink.Proofs.Wave.Delivery
import PcmLink.Proofs.Wave.Grammar
import PcmLink.Proofs.Wave.HeaderWords
import PcmLink.Proofs.Wave.LastSaved
import PcmLink.Proofs.Wave.Reading
import PcmLink.Proofs.Wave.RoundTrip
import PcmLink.Proofs.Wave.Saving
import PcmLink.Proofs.Wave.Truncation
import PcmLink.Proofs.Wave.Writing
import PcmLink.ProtocolType
import PcmLink.Real.Rounding
import PcmLink.Real.Shortest
import PcmLink.Reassembly
import PcmLink.Recording
import PcmLink.Samples
import PcmLink.Settings.Capture
import PcmLink.Settings.Read
import PcmLink.Settings.Sender
import PcmLink.Shutdown
import PcmLink.Speed
import PcmLink.Speed.Tool
import PcmLink.Station
import PcmLink.Text.Alphanumeric
import PcmLink.Text.Blank
import PcmLink.Text.Front
import PcmLink.Text.Numeral
import PcmLink.Text.Pattern
import PcmLink.Text.Quoted
import PcmLink.Text.Shown
import PcmLink.Text.Split
import PcmLink.Text.Utf8
import PcmLink.TimeSpan
import PcmLink.Trace
import PcmLink.Transmitter
import PcmLink.Warning
import PcmLink.Wave.Format
import PcmLink.Wave.Reader
import PcmLink.Wave.Writer
