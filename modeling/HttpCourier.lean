import HttpCourier.Assembly
import HttpCourier.Auth.Conversation
import HttpCourier.Auth.Digest
import HttpCourier.Auth.Flow
import HttpCourier.Auth.Ntlm
import HttpCourier.Auth.Selection
import HttpCourier.Bytes.Base64
import HttpCourier.Bytes.Basic
import HttpCourier.Bytes.Utf8
import HttpCourier.Cache.Basic
import HttpCourier.Cache.Control
import HttpCourier.Cache.Storage
import HttpCourier.Charset.Basic
import HttpCourier.Charset.Pages
import HttpCourier.Charset.Registry
import HttpCourier.Charset.Wide
import HttpCourier.Cipher.Aes
import HttpCourier.Cli.Command
import HttpCourier.Cli.Help
import HttpCourier.Cli.Options
import HttpCourier.Cli.Run
import HttpCourier.Cli.Summary
import HttpCourier.Client.Basic
import HttpCourier.Client.Capture
import HttpCourier.Client.Redirect
import HttpCourier.Config.Basic
import HttpCourier.Config.Data
import HttpCourier.Config.DataSize
import HttpCourier.Config.Document
import HttpCourier.Config.Dotenv
import HttpCourier.Config.Loading
import HttpCourier.Config.Reading
import HttpCourier.Config.Scalar
import HttpCourier.Config.Secrets
import HttpCourier.Config.Verdict
import HttpCourier.Cookie
import HttpCourier.Failure
import HttpCourier.Fault
import HttpCourier.Files
import HttpCourier.Hash.Block
import HttpCourier.Hash.Keyed
import HttpCourier.Hash.Md5
import HttpCourier.Hash.Sha1
import HttpCourier.Hash.Sha256
import HttpCourier.Hash.Sha512
import HttpCourier.Header.Basic
import HttpCourier.Header.Redaction
import HttpCourier.Holder
import HttpCourier.HttpDate
import HttpCourier.Item.Basic
import HttpCourier.Item.Expression
import HttpCourier.Lifecycle
import HttpCourier.Log.Data
import HttpCourier.Log.Json
import HttpCourier.Log.Record
import HttpCourier.Log.Render
import HttpCourier.Main
import HttpCourier.Message.Draft
import HttpCourier.Message.Fields
import HttpCourier.Message.Request
import HttpCourier.Message.Response
import HttpCourier.Metrics
import HttpCourier.Network
import HttpCourier.Number.Binary64
import HttpCourier.Number.Parse
import HttpCourier.Number.Round
import HttpCourier.Number.Shortest
import HttpCourier.OrderedMap
import HttpCourier.Outcome
import HttpCourier.Pattern.Basic
import HttpCourier.Pattern.Matching
import HttpCourier.Pattern.Reading
import HttpCourier.Processor
import HttpCourier.Proofs.Accounts
import HttpCourier.Proofs.Attributes
import HttpCourier.Proofs.Authorization
import HttpCourier.Proofs.Bookkeeping
import HttpCourier.Proofs.Challenges
import HttpCourier.Proofs.Charsets
import HttpCourier.Proofs.Cycle
import HttpCourier.Proofs.Delivery
import HttpCourier.Proofs.Digest
import HttpCourier.Proofs.Effects
import HttpCourier.Proofs.Errands
import HttpCourier.Proofs.Handover
import HttpCourier.Proofs.Lease
import HttpCourier.Proofs.Classifying
import HttpCourier.Proofs.Credentials
import HttpCourier.Proofs.Encodings
import HttpCourier.Proofs.Legs
import HttpCourier.Proofs.Merging
import HttpCourier.Proofs.NonceCount
import HttpCourier.Proofs.Rounding
import HttpCourier.Proofs.Routing
import HttpCourier.Proofs.Sending
import HttpCourier.Proofs.Sizes
import HttpCourier.Proofs.Sources
import HttpCourier.Proofs.Step
import HttpCourier.Proofs.Streams
import HttpCourier.Proofs.Trigger
import HttpCourier.Provenance
import HttpCourier.Router
import HttpCourier.Session
import HttpCourier.Stream.Body
import HttpCourier.Stream.Buffer
import HttpCourier.Stream.Drain
import HttpCourier.Stream.Pieces
import HttpCourier.Stream.Source
import HttpCourier.Stream.Tee
import HttpCourier.Stream.Wire
import HttpCourier.Text.Blank
import HttpCourier.Text.Case
import HttpCourier.Text.Digit
import HttpCourier.Text.Printable
import HttpCourier.Text.Quoted
import HttpCourier.Text.Ranges
import HttpCourier.Text.Word
import HttpCourier.Tls.Basic
import HttpCourier.Tls.Der
import HttpCourier.Tls.Key
import HttpCourier.Tls.Pem
import HttpCourier.Transport
import HttpCourier.Trigger
import HttpCourier.Url.Address
import HttpCourier.Url.Basic
import HttpCourier.Url.Join
import HttpCourier.Url.Percent
import HttpCourier.Url.Punycode
import HttpCourier.Yaml.Cursor
import HttpCourier.Yaml.Error
import HttpCourier.Yaml.Moment
import HttpCourier.Yaml.Node
import HttpCourier.Yaml.Scalar
import HttpCourier.Yaml.Tag
import HttpCourier.Yaml.Token
import HttpCourier.Yaml.TokenStream
import HttpCourier.Yaml.Value
import HttpCourier.Proofs.Storage
import HttpCourier.Proofs.Closing
import HttpCourier.Proofs.Origins
import HttpCourier.Proofs.Planning
import HttpCourier.Proofs.Transparency
import HttpCourier.Proofs.Linearity
import HttpCourier.Proofs.Verdicts
import HttpCourier.Proofs.Schedules
import HttpCourier.Proofs.Assembling
import HttpCourier.Proofs.Retries
import HttpCourier.Proofs.LetterCase
import HttpCourier.Proofs.Framing
import HttpCourier.Proofs.Resending
import HttpCourier.Proofs.Redacting
import HttpCourier.Proofs.Breakage
import HttpCourier.Proofs.Loading
import HttpCourier.Proofs.Journal
import HttpCourier.Proofs.Counting
import HttpCourier.Proofs.Opening
import HttpCourier.Proofs.Lineage
import HttpCourier.Proofs.Draining
import HttpCourier.Proofs.Foresight
import HttpCourier.Proofs.FirstBytes
import HttpCourier.Proofs.Building
import HttpCourier.Proofs.Growth
import HttpCourier.Proofs.Filling
import HttpCourier.Proofs.Cuts
import HttpCourier.Proofs.Expansion
import HttpCourier.Proofs.Grouping
import HttpCourier.Proofs.Listing
import HttpCourier.Proofs.Naming
import HttpCourier.Proofs.Readers
