import Farcall.Arguments
import Farcall.Codec
import Farcall.CommandLine.Options
import Farcall.CommandLine.Page
import Farcall.CommandLine.Run
import Farcall.CommandLine.Source
import Farcall.Description
import Farcall.Emission.Literal
import Farcall.Emission.Target
import Farcall.Events.Hub
import Farcall.Events.Listeners
import Farcall.Failure
import Farcall.Failure.Construction
import Farcall.Json.Reader
import Farcall.Json.Writer
import Farcall.Main
import Farcall.Name
import Farcall.Number.Double
import Farcall.Number.Integer
import Farcall.Number.Reading
import Farcall.Number.Shortest
import Farcall.Proofs.Actions
import Farcall.Proofs.Callers
import Farcall.Proofs.Chunks
import Farcall.Proofs.Codecs
import Farcall.Proofs.Comments
import Farcall.Proofs.Configuration
import Farcall.Proofs.Docstrings
import Farcall.Proofs.DocumentKeys
import Farcall.Proofs.Documents
import Farcall.Proofs.Emissions
import Farcall.Proofs.Generation
import Farcall.Proofs.Hubs
import Farcall.Proofs.Listening
import Farcall.Proofs.LiteralReading
import Farcall.Proofs.LiteralTexts
import Farcall.Proofs.Literals
import Farcall.Proofs.LiveCalls
import Farcall.Proofs.LiveHubs
import Farcall.Proofs.LiveServices
import Farcall.Proofs.LiveTrees
import Farcall.Proofs.MemberPaths
import Farcall.Proofs.Names
import Farcall.Proofs.NamespacePaths
import Farcall.Proofs.Notifications
import Farcall.Proofs.ProxyCalls
import Farcall.Proofs.ProxyClasses
import Farcall.Proofs.Recovery
import Farcall.Proofs.References
import Farcall.Proofs.Registration
import Farcall.Proofs.RegistrationOrder
import Farcall.Proofs.RootMembers
import Farcall.Proofs.Session.Addresses
import Farcall.Proofs.Session.Arrivals
import Farcall.Proofs.Session.Calls
import Farcall.Proofs.Session.Changes
import Farcall.Proofs.Session.Closing
import Farcall.Proofs.Session.Conclusions
import Farcall.Proofs.Session.Connections
import Farcall.Proofs.Session.Correlation
import Farcall.Proofs.Session.Departures
import Farcall.Proofs.Session.Entries
import Farcall.Proofs.Session.Links
import Farcall.Proofs.Session.Losses
import Farcall.Proofs.Session.Messages
import Farcall.Proofs.Session.Moves
import Farcall.Proofs.Session.Order
import Farcall.Proofs.Session.Progress
import Farcall.Proofs.Session.Readers
import Farcall.Proofs.Session.Receiving
import Farcall.Proofs.Session.Release
import Farcall.Proofs.Session.Reports
import Farcall.Proofs.Session.Responses
import Farcall.Proofs.Session.Schedule
import Farcall.Proofs.Session.Sending
import Farcall.Proofs.Session.Steadiness
import Farcall.Proofs.Session.Transports
import Farcall.Proofs.Session.Wiring
import Farcall.Proofs.Session.Work
import Farcall.Proofs.Shapes
import Farcall.Proofs.Spacing
import Farcall.Proofs.StatementCodes
import Farcall.Proofs.Subscriptions
import Farcall.Proofs.Success
import Farcall.Proofs.ToldFailures
import Farcall.Proofs.TreeReplay
import Farcall.Proofs.Trees
import Farcall.Proofs.Turns
import Farcall.Proxy.Definition
import Farcall.Proxy.Proxy
import Farcall.Proxy.Station
import Farcall.Service.Definition
import Farcall.Service.Document
import Farcall.Service.Reading
import Farcall.Service.Registry
import Farcall.Service.Scope
import Farcall.Session.Address
import Farcall.Session.Alarm
import Farcall.Session.Carrier
import Farcall.Session.Guard
import Farcall.Session.Message
import Farcall.Session.Network
import Farcall.Session.Reader
import Farcall.Session.Run
import Farcall.Session.State
import Farcall.Session.Status
import Farcall.Settings
import Farcall.Target.Catalog
import Farcall.Target.JavaScript
import Farcall.Target.Python
import Farcall.Text.Base64
import Farcall.Text.Blank
import Farcall.Text.CharSet
import Farcall.Text.Compatibility
import Farcall.Text.Composition
import Farcall.Text.Digit
import Farcall.Text.Encoding
import Farcall.Text.Identifier
import Farcall.Text.Lowercase
import Farcall.Text.Printable
import Farcall.Text.Quoted
import Farcall.Text.Similarity
import Farcall.Tree
import Farcall.Value
import Farcall.Value.Calendar
import Farcall.Value.Text
import Farcall.Yaml.Block
import Farcall.Yaml.Cursor
import Farcall.Yaml.Document
import Farcall.Yaml.Label
import Farcall.Yaml.Layout
import Farcall.Yaml.Node
import Farcall.Yaml.Plain
import Farcall.Yaml.Quoted
import Farcall.Yaml.Scalar
import Farcall.Yaml.Tag
import Farcall.Yaml.Timestamp
import Farcall.Yaml.Token
