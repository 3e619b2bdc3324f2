import CloudAccess.Assembly
import CloudAccess.Base64
import CloudAccess.CommandLine.Arguments
import CloudAccess.CommandLine.Grammar
import CloudAccess.CommandLine.Program
import CloudAccess.Component
import CloudAccess.Configuration.Defaults
import CloudAccess.Configuration.Environment
import CloudAccess.Configuration.File
import CloudAccess.Configuration.Layers
import CloudAccess.Configuration.Stack
import CloudAccess.Console.Emoji
import CloudAccess.Console.Emoji.Table
import CloudAccess.Console.Markup
import CloudAccess.Console.Sheet
import CloudAccess.Console.Style
import CloudAccess.Console.Width
import CloudAccess.Console.Width.Table
import CloudAccess.Console.Wrap
import CloudAccess.Context
import CloudAccess.Dictionary
import CloudAccess.Digest.Hmac
import CloudAccess.Digest.Sha1
import CloudAccess.Factory
import CloudAccess.Failure
import CloudAccess.Fault
import CloudAccess.Json.Reader
import CloudAccess.Json.Value
import CloudAccess.Log
import CloudAccess.Main
import CloudAccess.Proofs.Assembly.Law
import CloudAccess.Proofs.Assembly.Outcome
import CloudAccess.Proofs.Assembly.Secrecy
import CloudAccess.Proofs.Assembly.Steps
import CloudAccess.Proofs.Base64
import CloudAccess.Proofs.CommandLine.Endings
import CloudAccess.Proofs.CommandLine.Grammar
import CloudAccess.Proofs.CommandLine.Secrecy
import CloudAccess.Proofs.CommandLine.Signing
import CloudAccess.Proofs.CommandLine.Words
import CloudAccess.Proofs.Configuration.Effective
import CloudAccess.Proofs.Configuration.File
import CloudAccess.Proofs.Configuration.Interchange
import CloudAccess.Proofs.Configuration.Layers
import CloudAccess.Proofs.Configuration.LineEnds
import CloudAccess.Proofs.Configuration.Loading
import CloudAccess.Proofs.Configuration.Views
import CloudAccess.Proofs.Console.Line
import CloudAccess.Proofs.Console.Markup
import CloudAccess.Proofs.Console.Page
import CloudAccess.Proofs.Context.Build
import CloudAccess.Proofs.Context.Run
import CloudAccess.Proofs.Dictionary
import CloudAccess.Proofs.Factory.Agreement
import CloudAccess.Proofs.Factory.Chosen
import CloudAccess.Proofs.Factory.Isolation
import CloudAccess.Proofs.Factory.Properties
import CloudAccess.Proofs.Factory.Resolved
import CloudAccess.Proofs.Factory.Secrecy
import CloudAccess.Proofs.Factory.Slots
import CloudAccess.Proofs.Failure.Search
import CloudAccess.Proofs.Failure.Walk
import CloudAccess.Proofs.Json.Document
import CloudAccess.Proofs.Json.Grammar
import CloudAccess.Proofs.Json.Reading
import CloudAccess.Proofs.Json.Soundness
import CloudAccess.Proofs.Properties.Run
import CloudAccess.Proofs.Properties.Setters
import CloudAccess.Proofs.Provider.Acceptance
import CloudAccess.Proofs.Provider.Atmos
import CloudAccess.Proofs.Provider.Share
import CloudAccess.Proofs.Registry.History
import CloudAccess.Proofs.Signing.Answered
import CloudAccess.Proofs.Signing.Content
import CloudAccess.Proofs.Signing.Grant
import CloudAccess.Proofs.Signing.Issued
import CloudAccess.Proofs.Signing.LetterCase
import CloudAccess.Proofs.Signing.Refused
import CloudAccess.Proofs.Signing.RoundTrip
import CloudAccess.Proofs.Signing.SignedText
import CloudAccess.Proofs.Spec.Sheet
import CloudAccess.Proofs.Text.Case
import CloudAccess.Proofs.Text.Characters
import CloudAccess.Proofs.Text.Decimal
import CloudAccess.Proofs.Text.Order
import CloudAccess.Proofs.Text.Pieces
import CloudAccess.Proofs.Text.Utf8
import CloudAccess.Proofs.Url.Escape
import CloudAccess.Proofs.Url.Form
import CloudAccess.Proofs.Url.Host
import CloudAccess.Proofs.Url.Idna
import CloudAccess.Proofs.Url.Target
import CloudAccess.Proofs.Url.Written
import CloudAccess.Properties
import CloudAccess.Provider.Atmos
import CloudAccess.Provider.S3
import CloudAccess.Registry
import CloudAccess.Signing.Clock
import CloudAccess.Signing.Signer
import CloudAccess.Signing.Spec
import CloudAccess.Spec
import CloudAccess.Spec.Sheet
import CloudAccess.Storage
import CloudAccess.Text.Basic
import CloudAccess.Text.Blank
import CloudAccess.Text.Case
import CloudAccess.Text.Case.Table
import CloudAccess.Text.Digit
import CloudAccess.Text.Integer
import CloudAccess.Text.Quoted
import CloudAccess.Text.Quoted.Table
import CloudAccess.Text.Ranges
import CloudAccess.Text.Utf8
import CloudAccess.Url.Address
import CloudAccess.Url.Basic
import CloudAccess.Url.Escape
import CloudAccess.Url.Form
import CloudAccess.Url.Idna
import CloudAccess.Url.Idna.Table
import CloudAccess.Url.Punycode
