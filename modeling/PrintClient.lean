import PrintClient.Action
import PrintClient.CommandLine.Arguments
import PrintClient.CommandLine.Command
import PrintClient.CommandLine.Login
import PrintClient.CommandLine.Problem
import PrintClient.CommandLine.Program
import PrintClient.CommandLine.Resolved
import PrintClient.Config.Environment
import PrintClient.Config.Fault
import PrintClient.Config.Location
import PrintClient.Config.Profile
import PrintClient.Config.Reading
import PrintClient.Config.Setting
import PrintClient.Connection.Basic
import PrintClient.Connection.Link
import PrintClient.Connection.Run
import PrintClient.Decimal.Binary64
import PrintClient.Decimal.Layout
import PrintClient.Decimal.Reading
import PrintClient.Decimal.Shortest
import PrintClient.Dict
import PrintClient.Endpoint
import PrintClient.Failure
import PrintClient.Files.Path
import PrintClient.Files.Tree
import PrintClient.Frame
import PrintClient.Json.Fault
import PrintClient.Json.Printer
import PrintClient.Json.Reader
import PrintClient.Json.Token
import PrintClient.Json.Value
import PrintClient.Main
import PrintClient.Multipart.Encoder
import PrintClient.Multipart.Form
import PrintClient.Proofs.CommandLine.FirstLogin
import PrintClient.Proofs.CommandLine.Resolution
import PrintClient.Proofs.CommandLine.ShownConfig
import PrintClient.Proofs.Config.Layers
import PrintClient.Proofs.Config.Loading
import PrintClient.Proofs.Config.Overlay
import PrintClient.Proofs.Config.Records
import PrintClient.Proofs.Config.Seconds
import PrintClient.Proofs.Config.Sources
import PrintClient.Proofs.Config.TextKeys
import PrintClient.Proofs.Config.Variables
import PrintClient.Proofs.Config.Veil
import PrintClient.Proofs.Config.Words
import PrintClient.Proofs.Connection.Batches
import PrintClient.Proofs.Connection.Books
import PrintClient.Proofs.Connection.Deeds
import PrintClient.Proofs.Connection.Demultiplexing
import PrintClient.Proofs.Connection.Forwarders
import PrintClient.Proofs.Connection.Messages
import PrintClient.Proofs.Connection.Moves
import PrintClient.Proofs.Connection.Outcomes
import PrintClient.Proofs.Connection.Reading
import PrintClient.Proofs.Connection.Reports
import PrintClient.Proofs.Connection.Slot
import PrintClient.Proofs.Connection.Steps
import PrintClient.Proofs.Connection.Stopping
import PrintClient.Proofs.Json.Compact
import PrintClient.Proofs.Json.Documents
import PrintClient.Proofs.Json.Numerals
import PrintClient.Proofs.Json.Spelling
import PrintClient.Proofs.Multipart.FileNames
import PrintClient.Proofs.Multipart.Pulls
import PrintClient.Proofs.Multipart.Reader
import PrintClient.Proofs.Multipart.Recovery
import PrintClient.Proofs.Multipart.Streams
import PrintClient.Proofs.Multipart.Uploading
import PrintClient.Proofs.Request.Encoding
import PrintClient.Proofs.Session.Additions
import PrintClient.Proofs.Session.Arrivals
import PrintClient.Proofs.Session.Attribution
import PrintClient.Proofs.Session.Awaited
import PrintClient.Proofs.Session.Backoff
import PrintClient.Proofs.Session.Coherence
import PrintClient.Proofs.Session.Conservation
import PrintClient.Proofs.Session.Delivery
import PrintClient.Proofs.Session.Discarded
import PrintClient.Proofs.Session.Dues
import PrintClient.Proofs.Session.Exchange
import PrintClient.Proofs.Session.Fates
import PrintClient.Proofs.Session.FirstFailure
import PrintClient.Proofs.Session.Forwarding
import PrintClient.Proofs.Session.Generations
import PrintClient.Proofs.Session.History
import PrintClient.Proofs.Session.Ledger
import PrintClient.Proofs.Session.Links
import PrintClient.Proofs.Session.Login
import PrintClient.Proofs.Session.Operations
import PrintClient.Proofs.Session.Progress
import PrintClient.Proofs.Session.Secrecy
import PrintClient.Proofs.Session.Shutdown
import PrintClient.Proofs.Session.Stale
import PrintClient.Proofs.Session.Stances
import PrintClient.Proofs.Session.StateMachine
import PrintClient.Proofs.Session.Subscriptions
import PrintClient.Proofs.Session.Teardowns
import PrintClient.Proofs.Session.Turns
import PrintClient.Proofs.Session.Writes
import PrintClient.Proofs.Text.Utf8
import PrintClient.Proofs.Url.HostCharacters
import PrintClient.Proofs.Url.Percent
import PrintClient.Proofs.Url.SameServer
import PrintClient.Proofs.Url.UploadPath
import PrintClient.Rehearsal.OfCommand
import PrintClient.Rehearsal.OfConnection
import PrintClient.Rehearsal.OfSession
import PrintClient.Rehearsal.OfUpload
import PrintClient.Rehearsal.Server
import PrintClient.Rehearsal.Status
import PrintClient.Request
import PrintClient.Session.Basic
import PrintClient.Session.Calls
import PrintClient.Session.Settings
import PrintClient.Session.World
import PrintClient.Text.Blank
import PrintClient.Text.Escape
import PrintClient.Text.Hidden
import PrintClient.Text.Quoted
import PrintClient.Text.Utf8
import PrintClient.Toml.Document
import PrintClient.Toml.Scalar
import PrintClient.Toml.Table
import PrintClient.Upload
import PrintClient.Url.Basic
import PrintClient.Url.CodePoints
import PrintClient.Url.Composition
import PrintClient.Url.CompositionTable
import PrintClient.Url.Direction
import PrintClient.Url.DirectionTable
import PrintClient.Url.Domain
import PrintClient.Url.DomainTable
import PrintClient.Url.Host
import PrintClient.Url.Joining
import PrintClient.Url.Percent
import PrintClient.Url.Punycode
import PrintClient.Word
