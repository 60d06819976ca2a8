import CallWire.Call.Decoder
import CallWire.Call.Desk
import CallWire.Call.Id
import CallWire.Call.Ledger
import CallWire.Call.Table
import CallWire.Client.Basic
import CallWire.Client.Call
import CallWire.Client.Dispatch
import CallWire.Client.Exchange
import CallWire.Client.Journal
import CallWire.Client.Lifecycle
import CallWire.Config.Document
import CallWire.Config.Environment
import CallWire.Config.Load
import CallWire.Config.Mentions
import CallWire.Config.Settings
import CallWire.Connection.Address
import CallWire.Connection.Line
import CallWire.Connection.Message
import CallWire.Connection.Network
import CallWire.Connection.Transport
import CallWire.Duration
import CallWire.Envelope.Basic
import CallWire.Envelope.Codec
import CallWire.Failure.Classify
import CallWire.Failure.ClientError
import CallWire.Failure.Kind
import CallWire.Files
import CallWire.Json.Basic
import CallWire.Json.Double
import CallWire.Json.Fault
import CallWire.Json.Numeral
import CallWire.Json.Printer
import CallWire.Json.Reader
import CallWire.Json.Shape
import CallWire.Json.Shortest
import CallWire.Log.Filter
import CallWire.Log.Level
import CallWire.Log.Line
import CallWire.Log.Rule
import CallWire.Main
import CallWire.Path
import CallWire.Program.Arguments
import CallWire.Program.Command
import CallWire.Program.Log
import CallWire.Program.Run
import CallWire.Proofs.Attempts
import CallWire.Proofs.Books
import CallWire.Proofs.Classification
import CallWire.Proofs.Client
import CallWire.Proofs.ClientIdentity
import CallWire.Proofs.ConnectDefault
import CallWire.Proofs.Conservation
import CallWire.Proofs.Course
import CallWire.Proofs.Dispatch
import CallWire.Proofs.Expiry
import CallWire.Proofs.Flow
import CallWire.Proofs.ForgottenHandles
import CallWire.Proofs.FrameLimit
import CallWire.Proofs.Framing
import CallWire.Proofs.FreshIds
import CallWire.Proofs.Ids
import CallWire.Proofs.Interleaving
import CallWire.Proofs.Journals
import CallWire.Proofs.JsonForm
import CallWire.Proofs.JsonGrammar
import CallWire.Proofs.JsonReading
import CallWire.Proofs.JsonSteps
import CallWire.Proofs.JsonText
import CallWire.Proofs.Lifecycle
import CallWire.Proofs.ListDecoding
import CallWire.Proofs.Lock
import CallWire.Proofs.MessageForms
import CallWire.Proofs.Moves
import CallWire.Proofs.NumberLiteral
import CallWire.Proofs.NumberRange
import CallWire.Proofs.Numeral
import CallWire.Proofs.Outline
import CallWire.Proofs.Phases
import CallWire.Proofs.Precedence
import CallWire.Proofs.ProgramSettings
import CallWire.Proofs.Replies
import CallWire.Proofs.ReplyShapes
import CallWire.Proofs.RequestFrame
import CallWire.Proofs.ResponseFrame
import CallWire.Proofs.ResponseGrammar
import CallWire.Proofs.Results
import CallWire.Proofs.Rounding
import CallWire.Proofs.Routes
import CallWire.Proofs.SavedSettings
import CallWire.Proofs.SessionEnd
import CallWire.Proofs.SettingsKept
import CallWire.Proofs.SettingsNode
import CallWire.Proofs.SettingsText
import CallWire.Proofs.Settled
import CallWire.Proofs.Texts
import CallWire.Proofs.UnsentCalls
import CallWire.Proofs.WrittenFiles
import CallWire.Proofs.YamlBlock
import CallWire.Proofs.YamlCursor
import CallWire.Proofs.YamlMapping
import CallWire.Proofs.YamlNodes
import CallWire.Proofs.YamlPlain
import CallWire.Proofs.YamlQuoted
import CallWire.Proofs.YamlSteps
import CallWire.Proofs.YamlTexts
import CallWire.Proofs.YamlValues
import CallWire.Text.Alphanumeric
import CallWire.Text.Blank
import CallWire.Text.Bytes
import CallWire.Text.Colour
import CallWire.Text.Hidden
import CallWire.Text.Quoted
import CallWire.Text.Ranges
import CallWire.Tls.Base64
import CallWire.Tls.Certificate
import CallWire.Tls.Curve
import CallWire.Tls.CurveKey
import CallWire.Tls.Der
import CallWire.Tls.Edwards
import CallWire.Tls.Modular
import CallWire.Tls.NameConstraints
import CallWire.Tls.Pem
import CallWire.Tls.PrivateKey
import CallWire.Tls.PublicKey
import CallWire.Tls.RsaKey
import CallWire.Tls.Setup
import CallWire.Tls.Sha512
import CallWire.Yaml.Cursor
import CallWire.Yaml.Node
import CallWire.Yaml.Plain
import CallWire.Yaml.Printer
import CallWire.Yaml.Reading
import CallWire.Yaml.Scalar
import CallWire.Yaml.Token
import CallWire.Proofs.Traffic
