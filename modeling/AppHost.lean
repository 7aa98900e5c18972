import AppHost.Dictionary
import AppHost.Decimal
import AppHost.Text.Utf8
import AppHost.Text.Quoted
import AppHost.Text.Blank
import AppHost.Text.Alphanumeric
import AppHost.Json.Printer
import AppHost.Json.Reader
import AppHost.Json.Record
import AppHost.Calendar.Rfc3339
import AppHost.Contract.Json
import AppHost.Wire.Json
import AppHost.ManifestFile
import AppHost.Admin.Error
import AppHost.Endpoint
import AppHost.EventStream
import AppHost.Procedure
import AppHost.Admin.Service
import AppHost.Admin.Frames
import AppHost.ManifestDirectory
import AppHost.Environment
import AppHost.Settings.Load
import AppHost.Settings.Location
import AppHost.Yaml.Printer
import AppHost.CommandLine.Command
import AppHost.Main
import AppHost.Proofs.Hub.Backlog
import AppHost.Proofs.Hub.Standing
import AppHost.Proofs.Hub.Delivery
import AppHost.Proofs.Instance.PageCalls
import AppHost.Proofs.Instance.Pages
import AppHost.Proofs.Host.Applications
import AppHost.Proofs.Host.Operation
import AppHost.Proofs.Host.Steps
import AppHost.Proofs.Host.Launching
import AppHost.Proofs.Host.Soundness
import AppHost.Proofs.Host.History
import AppHost.Proofs.Host.Serving
import AppHost.Proofs.Host.Streams
import AppHost.Proofs.Host.StreamEnd
import AppHost.Proofs.Wire.Reading
import AppHost.Proofs.Wire.Rows
import AppHost.Proofs.Wire.Size
import AppHost.Proofs.Wire.RoundTrip
import AppHost.Proofs.Calendar.Timestamp
import AppHost.Proofs.Host.Announcements
import AppHost.Proofs.Host.Demands
import AppHost.Proofs.Host.Instances
import AppHost.Proofs.Host.Naming
import AppHost.Proofs.Host.PageAnswers
import AppHost.Proofs.Host.Watching
import AppHost.Proofs.Instance.Shutdown
import AppHost.Proofs.Instance.Subscribing
import AppHost.Proofs.Instance.Arguments
import AppHost.Proofs.Host.Reactions
import AppHost.Proofs.Stream.Moves
import AppHost.Proofs.Stream.Forwarding
import AppHost.Proofs.Stream.Rounds
import AppHost.Proofs.Host.RecentLogs
import AppHost.Proofs.Host.Answers
import AppHost.Proofs.Host.Isolation
import AppHost.Proofs.Host.Autostart
import AppHost.Proofs.Host.Failures
import AppHost.Proofs.Wire.Merging
import AppHost.Proofs.Wire.Concatenation
import AppHost.Proofs.Wire.Conversion
import AppHost.Proofs.Wire.Truncation
import AppHost.Proofs.Host.Succession
import AppHost.Proofs.Host.Renewal
import AppHost.Proofs.Json.Scalars
import AppHost.Proofs.Json.Values
import AppHost.Proofs.Json.Reading
import AppHost.Proofs.Json.Records
import AppHost.Proofs.Json.Results
import AppHost.Proofs.Calendar.Days
import AppHost.Proofs.Calendar.Reading
import AppHost.Proofs.Contract.Json
import AppHost.Proofs.Contract.Manifest
import AppHost.Proofs.Contract.RoundTrip
import AppHost.Proofs.Admin.Events
import AppHost.Proofs.Host.Carrying
import AppHost.Proofs.Json.Nesting
import AppHost.Proofs.Host.Echoing
import AppHost.Proofs.Host.Logs
import AppHost.Proofs.Host.LogLookup
import AppHost.Proofs.Admin.LogRequest
import AppHost.Proofs.Host.Chronicle
import AppHost.Proofs.Host.Registering
import AppHost.Proofs.Calendar.Exchange
import AppHost.Proofs.Files.Entries
import AppHost.Proofs.Files.Loading
import AppHost.Proofs.Files.Writing
import AppHost.Proofs.Text.Lossy
import AppHost.Proofs.Toml.Comments
import AppHost.Proofs.Settings.Variables
import AppHost.Proofs.Settings.Layers
import AppHost.Proofs.Settings.Sections
import AppHost.Proofs.Settings.Documents
import AppHost.Proofs.Settings.Layering
import AppHost.Proofs.Settings.Overriding
import AppHost.Proofs.Settings.FirstFile
import AppHost.Proofs.CommandLine.Resetting
import AppHost.Proofs.Pages.Publications
import AppHost.Proofs.CommandLine.Keeping
import AppHost.Proofs.Admin.Listening
import AppHost.Proofs.Endpoint.WrittenForm
