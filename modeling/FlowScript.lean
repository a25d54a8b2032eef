import FlowScript.Assistant.Chat
import FlowScript.Assistant.Client
import FlowScript.Assistant.Settings
import FlowScript.Cli.Command
import FlowScript.Cli.Help
import FlowScript.Cli.Option
import FlowScript.Cli.Run
import FlowScript.Cli.Usage
import FlowScript.Cli.VariableFile
import FlowScript.Conversion
import FlowScript.Folder
import FlowScript.Http.Dialogue
import FlowScript.Http.Host
import FlowScript.Http.Message
import FlowScript.Http.Percent
import FlowScript.Http.Punycode
import FlowScript.Http.Url
import FlowScript.Http.Wire
import FlowScript.Json.Decoder
import FlowScript.Json.Fault
import FlowScript.Json.Printer
import FlowScript.Json.Reader
import FlowScript.Json.Schema
import FlowScript.Json.Value
import FlowScript.Main
import FlowScript.Number.Binary64
import FlowScript.Number.Shortest
import FlowScript.OrderedMap
import FlowScript.Proofs.Assistant.Request
import FlowScript.Proofs.Cli.AllOrNothing
import FlowScript.Proofs.Cli.CommandLine
import FlowScript.Proofs.Cli.FileOrStore
import FlowScript.Proofs.Cli.Keys
import FlowScript.Proofs.Cli.OneSource
import FlowScript.Proofs.Cli.Options
import FlowScript.Proofs.Cli.RefactorLater
import FlowScript.Proofs.Cli.Stages
import FlowScript.Proofs.Cli.VariableFile
import FlowScript.Proofs.Exchanges
import FlowScript.Proofs.Folder
import FlowScript.Proofs.Http.Base
import FlowScript.Proofs.Http.Form
import FlowScript.Proofs.Http.Percent
import FlowScript.Proofs.Http.Replies
import FlowScript.Proofs.Http.Transcript
import FlowScript.Proofs.Http.Url
import FlowScript.Proofs.Json.Admission
import FlowScript.Proofs.Json.Agreement
import FlowScript.Proofs.Json.Edits
import FlowScript.Proofs.Json.Fields
import FlowScript.Proofs.Json.Members
import FlowScript.Proofs.Json.Parts
import FlowScript.Proofs.Json.Record
import FlowScript.Proofs.Json.Shapes
import FlowScript.Proofs.Json.Text.NumberForm
import FlowScript.Proofs.Json.Text.Numbers
import FlowScript.Proofs.Json.Text.Skipping
import FlowScript.Proofs.Json.Text.Strings
import FlowScript.Proofs.Json.Text.Values
import FlowScript.Proofs.Json.Text.Visible
import FlowScript.Proofs.Number.Finite
import FlowScript.Proofs.OrderedMap
import FlowScript.Proofs.Redaction
import FlowScript.Proofs.Refactor.FailOpen
import FlowScript.Proofs.Refactor.LineByLine
import FlowScript.Proofs.Refactor.WholeWords
import FlowScript.Proofs.Script.Bindings
import FlowScript.Proofs.Script.Comments
import FlowScript.Proofs.Script.Constants
import FlowScript.Proofs.Script.Identifier
import FlowScript.Proofs.Script.Layout
import FlowScript.Proofs.Script.LineCount
import FlowScript.Proofs.Script.Registration
import FlowScript.Proofs.Script.Registry
import FlowScript.Proofs.Script.Scope
import FlowScript.Proofs.Session
import FlowScript.Proofs.Similarity.Distance
import FlowScript.Proofs.Similarity.Suggestion
import FlowScript.Proofs.Store.Addressing
import FlowScript.Proofs.Store.Listing
import FlowScript.Proofs.Store.Replies
import FlowScript.Proofs.Text.Lines
import FlowScript.Proofs.Text.Utf8
import FlowScript.Proofs.Validation.Collisions
import FlowScript.Proofs.Validation.Connections
import FlowScript.Proofs.Validation.Names
import FlowScript.Proofs.Validation.Order
import FlowScript.Proofs.Validation.Redeclaration
import FlowScript.Proofs.Validation.Subjects
import FlowScript.Proofs.Validation.Unhandled
import FlowScript.Proofs.Workflow.Building
import FlowScript.Proofs.Workflow.Grammar
import FlowScript.Proofs.Workflow.Overlooked
import FlowScript.Proofs.Workflow.RoundTrip
import FlowScript.Proofs.Workflow.SchemaBounds
import FlowScript.Proofs.Workflow.TextAndValue
import FlowScript.Refactor.Rule
import FlowScript.Script.Emission
import FlowScript.Script.Program
import FlowScript.Session
import FlowScript.Settings
import FlowScript.Similarity
import FlowScript.Store.Client
import FlowScript.Store.Page
import FlowScript.Store.Settings
import FlowScript.Text.CharClass
import FlowScript.Text.Lines
import FlowScript.Text.LowerCase
import FlowScript.Text.Quoted
import FlowScript.Text.Utf8
import FlowScript.Time.Calendar
import FlowScript.Time.Instant
import FlowScript.Validation
import FlowScript.Workflow.Basic
import FlowScript.Workflow.Decoding
import FlowScript.Workflow.Encoding
import FlowScript.Workflow.Schema
