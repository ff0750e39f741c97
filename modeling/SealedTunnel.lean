import SealedTunnel.MasterKey
import SealedTunnel.Salt
import SealedTunnel.Target
import SealedTunnel.Packet
import SealedTunnel.Json.Parser
import SealedTunnel.Json.Printer
import SealedTunnel.Stream.Wire
import SealedTunnel.Stream.Lock
import SealedTunnel.Stream.Sealer
import SealedTunnel.Stream.Drain
import SealedTunnel.Stream.Writer
import SealedTunnel.Stream.Copy
import SealedTunnel.Stream.Reader
import SealedTunnel.Stream.Duplex
import SealedTunnel.Scripted.Source
import SealedTunnel.Scripted.Sink
import SealedTunnel.Scripted.Writing
import SealedTunnel.Scripted.Conversing
import SealedTunnel.Timeline
import SealedTunnel.Dialer
import SealedTunnel.Scripted.Line
import SealedTunnel.Scripted.Attempt
import SealedTunnel.Scripted.Dialing
import SealedTunnel.Datagram.Sealed
import SealedTunnel.Datagram.Carrier
import SealedTunnel.Datagram.Tunnel
import SealedTunnel.Scripted.Mailbox
import SealedTunnel.Scripted.Mailing
import SealedTunnel.Dns.Name
import SealedTunnel.Dns.Query
import SealedTunnel.Dns.Message
import SealedTunnel.Connectivity.Failure
import SealedTunnel.Connectivity.Probe
import SealedTunnel.Connectivity.Framing
import SealedTunnel.Connectivity.Route
import SealedTunnel.Scripted.Probing
import SealedTunnel.Time.Calendar
import SealedTunnel.Time.Timestamp
import SealedTunnel.Report.Basic
import SealedTunnel.Report.Record
import SealedTunnel.Report.CollectorError
import SealedTunnel.Report.Collector
import SealedTunnel.Report.LineWriter
import SealedTunnel.Report.Upload
import SealedTunnel.Scripted.Collecting
import SealedTunnel.Text.Utf8
import SealedTunnel.Text.Percent
import SealedTunnel.Base64
import SealedTunnel.Url.Punycode
import SealedTunnel.Url.DomainName
import SealedTunnel.Url.Host
import SealedTunnel.Url.Basic
import SealedTunnel.Url.Parser
import SealedTunnel.Url.Query
import SealedTunnel.AccessKey
import SealedTunnel.Toml.Basic
import SealedTunnel.Toml.Number
import SealedTunnel.Toml.Quoted
import SealedTunnel.Toml.Table
import SealedTunnel.Toml.Parser
import SealedTunnel.Toml.Printer
import SealedTunnel.Config.Basic
import SealedTunnel.Config.Document
import SealedTunnel.CommandLine.Options
import SealedTunnel.CommandLine.Help
import SealedTunnel.CommandLine.Survey
import SealedTunnel.Scripted.Offline
import SealedTunnel.Machine
import SealedTunnel.Main
import SealedTunnel.Proofs.Crypto.Counter
import SealedTunnel.Proofs.Crypto.Opening
import SealedTunnel.Proofs.Wire.Encoding
import SealedTunnel.Proofs.Wire.Cutting
import SealedTunnel.Proofs.Stream.Hearing
import SealedTunnel.Proofs.Stream.Following
import SealedTunnel.Proofs.Stream.Refinement
import SealedTunnel.Proofs.Scripted.Source
import SealedTunnel.Proofs.Stream.Turns
import SealedTunnel.Proofs.Stream.Readiness
import SealedTunnel.Proofs.Stream.Deadlock
import SealedTunnel.Proofs.Scripted.Sink
import SealedTunnel.Proofs.Stream.Recording
import SealedTunnel.Proofs.Stream.Sealing
import SealedTunnel.Proofs.Stream.Flow
import SealedTunnel.Proofs.Stream.Behaviour
import SealedTunnel.Proofs.Stream.RoundTrip
import SealedTunnel.Proofs.Stream.Taking
import SealedTunnel.Proofs.Stream.Carrying
import SealedTunnel.Proofs.Stream.Delivery
import SealedTunnel.Proofs.Stream.Resalting
import SealedTunnel.Proofs.Stream.Floating
import SealedTunnel.Proofs.Dialing.Keeping
import SealedTunnel.Proofs.Dialing.Usage
import SealedTunnel.Proofs.Stream.Lock
import SealedTunnel.Proofs.Stream.Noting
import SealedTunnel.Proofs.Stream.Transit
import SealedTunnel.Proofs.Stream.Sharing
import SealedTunnel.Proofs.Stream.NonceUse
import SealedTunnel.Proofs.Stream.Gaps
import SealedTunnel.Proofs.Stream.Settling
import SealedTunnel.Proofs.Stream.Flushing
import SealedTunnel.Proofs.Dialing.Background
import SealedTunnel.Proofs.Wire.Slots
import SealedTunnel.Proofs.Crypto.Detached
import SealedTunnel.Proofs.Datagram.Buffers
import SealedTunnel.Proofs.Datagram.Packing
import SealedTunnel.Proofs.Datagram.InPlace
import SealedTunnel.Proofs.Datagram.Strangers
import SealedTunnel.Proofs.Stream.Attending
import SealedTunnel.Proofs.Stream.Overtaking
import SealedTunnel.Proofs.Stream.Merging
import SealedTunnel.Proofs.Address.Encoding
import SealedTunnel.Proofs.Timeline.Course
import SealedTunnel.Proofs.Timeline.Instant
import SealedTunnel.Proofs.Timeline.Waiting
import SealedTunnel.Proofs.Datagram.Lossless
import SealedTunnel.Proofs.Datagram.Answers
import SealedTunnel.Proofs.Connectivity.Messages
import SealedTunnel.Proofs.Connectivity.Sites
import SealedTunnel.Proofs.Report.Retrying
import SealedTunnel.Proofs.Text.Base64
import SealedTunnel.Proofs.Text.Separators
import SealedTunnel.Proofs.Text.Numerals
import SealedTunnel.Proofs.Text.Percent
import SealedTunnel.Proofs.Address.Reading
import SealedTunnel.Proofs.Url.Authority
import SealedTunnel.Proofs.AccessKey.Forms
import SealedTunnel.Proofs.AccessKey.Salts
import SealedTunnel.Proofs.Address.Writing
import SealedTunnel.Proofs.Address.Canonical
import SealedTunnel.Proofs.Address.Printing
import SealedTunnel.Proofs.Address.Stability
import SealedTunnel.Proofs.Report.Delivering
import SealedTunnel.Proofs.Stream.Transcript
import SealedTunnel.Proofs.Dialing.Coalescing
import SealedTunnel.Proofs.Report.Pacing
import SealedTunnel.Proofs.Stream.SaltFailure
import SealedTunnel.Proofs.Stream.Reporting
import SealedTunnel.Proofs.Stream.Telling
import SealedTunnel.Proofs.Scripted.Faults
import SealedTunnel.Proofs.Timeline.Obeying
import SealedTunnel.Proofs.Dialing.Candour
import SealedTunnel.Proofs.Connectivity.Candour
import SealedTunnel.Proofs.Connectivity.Revealing
import SealedTunnel.Proofs.Connectivity.Codes
import SealedTunnel.Proofs.Address.Spelling
import SealedTunnel.Proofs.Address.Joining
import SealedTunnel.Proofs.Text.Utf8
import SealedTunnel.Proofs.Url.Query
import SealedTunnel.Proofs.Url.Hosts
import SealedTunnel.Proofs.AccessKey.Redaction
import SealedTunnel.Proofs.Time.Calendar
import SealedTunnel.Proofs.Time.Timestamp
import SealedTunnel.Proofs.Json.Reading
import SealedTunnel.Proofs.Report.Record
import SealedTunnel.Proofs.Stream.Raising
import SealedTunnel.Proofs.Crypto.Internal
import SealedTunnel.Proofs.Crypto.Stretching
import SealedTunnel.Proofs.Json.OneLine
import SealedTunnel.Proofs.Report.Lines
import SealedTunnel.Proofs.Stream.Guarding
import SealedTunnel.Proofs.Stream.Invariant
import SealedTunnel.Proofs.Text.Unambiguous
