import Teller.Call
import Teller.Client
import Teller.CommandLine.Flag
import Teller.CommandLine.Help
import Teller.CommandLine.Read
import Teller.ConfirmationPath
import Teller.Decimal.Nearest
import Teller.Decimal.Shortest
import Teller.Decision
import Teller.Domain.Ascii
import Teller.Domain.Direction
import Teller.Domain.Joining
import Teller.Domain.Mapping
import Teller.Domain.Punycode
import Teller.Endpoints
import Teller.Event
import Teller.Http.Content
import Teller.Http.Fetch
import Teller.Http.Message
import Teller.Json.Decode
import Teller.Json.Fault
import Teller.Json.Node
import Teller.Json.Token
import Teller.Json.Value
import Teller.LogFilter
import Teller.Main
import Teller.Metrics
import Teller.Payment
import Teller.Program
import Teller.Proofs.BehindBase
import Teller.Proofs.Client
import Teller.Proofs.CommandLine.Spelling
import Teller.Proofs.Confirmation
import Teller.Proofs.ConfirmationUrl
import Teller.Proofs.Decision
import Teller.Proofs.Domain.Blank
import Teller.Proofs.Ending
import Teller.Proofs.Endpoints
import Teller.Proofs.Http.Dialogue
import Teller.Proofs.Http.Exchange
import Teller.Proofs.Json.Declared
import Teller.Proofs.Json.Decode
import Teller.Proofs.Json.Decoding
import Teller.Proofs.Json.Document
import Teller.Proofs.Json.Giving
import Teller.Proofs.Json.Lexing
import Teller.Proofs.Json.Meaning
import Teller.Proofs.Json.Rearranged
import Teller.Proofs.Json.Spelling
import Teller.Proofs.Json.Syntax
import Teller.Proofs.Json.Token
import Teller.Proofs.Json.Tree
import Teller.Proofs.Leniency
import Teller.Proofs.Log.Echo
import Teller.Proofs.Log.Wording
import Teller.Proofs.PaymentDocument
import Teller.Proofs.PaymentUrl
import Teller.Proofs.Program
import Teller.Proofs.Refusal
import Teller.Proofs.RequestBody
import Teller.Proofs.RoundTrip
import Teller.Proofs.Session.Accounts
import Teller.Proofs.Session.Addressing
import Teller.Proofs.Session.Blind
import Teller.Proofs.Session.ByText
import Teller.Proofs.Session.Credentials
import Teller.Proofs.Session.Deciding
import Teller.Proofs.Session.Destination
import Teller.Proofs.Session.Exposure
import Teller.Proofs.Session.Heap
import Teller.Proofs.Session.Id
import Teller.Proofs.Session.Manager
import Teller.Proofs.Session.Pending
import Teller.Proofs.Session.Records
import Teller.Proofs.Session.Register
import Teller.Proofs.Session.Run
import Teller.Proofs.Settings.Base
import Teller.Proofs.Settings.InForce
import Teller.Proofs.Settings.Partial
import Teller.Proofs.Settings.Rule
import Teller.Proofs.Text.Infix
import Teller.Proofs.Text.Octets
import Teller.Proofs.Text.Trim
import Teller.Proofs.Text.Utf8
import Teller.Proofs.Toml.Decoding
import Teller.Proofs.Toml.Lines
import Teller.Proofs.Toml.Names
import Teller.Proofs.Toml.Path
import Teller.Proofs.Url.Authority
import Teller.Proofs.Url.Characters
import Teller.Proofs.Url.Inner
import Teller.Proofs.Url.Padding
import Teller.Proofs.Url.Reread
import Teller.Proofs.Url.Segment
import Teller.Proofs.Url.Trim
import Teller.Proofs.Url.Web
import Teller.Proofs.Usable
import Teller.Record
import Teller.Schema.Mismatch
import Teller.Schema.Shape
import Teller.Session.Id
import Teller.Session.Manager
import Teller.Session.World
import Teller.Settings.Basic
import Teller.Settings.Load
import Teller.Settings.Problem
import Teller.Text.Alphanumeric
import Teller.Text.Base64
import Teller.Text.Blank
import Teller.Text.Charset
import Teller.Text.CodePoints
import Teller.Text.Composition
import Teller.Text.Hex
import Teller.Text.Hidden
import Teller.Text.Quoted
import Teller.Text.Utf8
import Teller.Toml.Decode
import Teller.Toml.Document
import Teller.Toml.Item
import Teller.Toml.Number
import Teller.Toml.Statement
import Teller.Toml.Text
import Teller.Url.Address
import Teller.Url.Basic
import Teller.Url.Error
import Teller.Url.Host
import Teller.Url.Path
import Teller.Url.Percent
import Teller.Url.Read
