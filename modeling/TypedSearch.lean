import TypedSearch.Annotation.Attribute
import TypedSearch.Annotation.Binding
import TypedSearch.Annotation.Call
import TypedSearch.Annotation.Expression
import TypedSearch.Annotation.Function
import TypedSearch.Annotation.Layout
import TypedSearch.Annotation.Lexeme
import TypedSearch.Annotation.Making
import TypedSearch.Annotation.Meaning
import TypedSearch.Annotation.Member
import TypedSearch.Annotation.Method
import TypedSearch.Annotation.Operator
import TypedSearch.Annotation.Pieces
import TypedSearch.Annotation.Resolution
import TypedSearch.Annotation.Runner
import TypedSearch.Annotation.Scope
import TypedSearch.Annotation.Slot
import TypedSearch.Annotation.Syntax
import TypedSearch.Annotation.Template
import TypedSearch.Annotation.Walk
import TypedSearch.Assembly
import TypedSearch.Calendar.Date
import TypedSearch.Calendar.Moment
import TypedSearch.Calendar.Pattern
import TypedSearch.Calendar.Timestamp
import TypedSearch.Client.Operation
import TypedSearch.Client.Session
import TypedSearch.Client.Transport
import TypedSearch.CommandLine.Arguments
import TypedSearch.CommandLine.Catalogue
import TypedSearch.CommandLine.Run
import TypedSearch.CommandLine.Switch
import TypedSearch.Conversion
import TypedSearch.Declared.Basic
import TypedSearch.Declared.Construction
import TypedSearch.Declared.Elements
import TypedSearch.Declared.Item
import TypedSearch.Declared.Kind
import TypedSearch.Declared.Likeness
import TypedSearch.Declared.Name
import TypedSearch.Declared.Signature
import TypedSearch.Declared.Standard
import TypedSearch.Document.Caller
import TypedSearch.Document.Instance
import TypedSearch.Document.Mapping
import TypedSearch.Document.Registry
import TypedSearch.Document.Role
import TypedSearch.Document.Schema
import TypedSearch.Document.Type
import TypedSearch.Fault
import TypedSearch.Http
import TypedSearch.Journal.Basic
import TypedSearch.Journal.Threshold
import TypedSearch.Json
import TypedSearch.Main
import TypedSearch.Markup.Character
import TypedSearch.Markup.Codepage
import TypedSearch.Markup.Content
import TypedSearch.Markup.Declarations
import TypedSearch.Markup.Doctype
import TypedSearch.Markup.Document
import TypedSearch.Markup.Element
import TypedSearch.Markup.Encoding
import TypedSearch.Markup.Expansion
import TypedSearch.Markup.Lexeme
import TypedSearch.Markup.Namespace
import TypedSearch.Markup.Printer
import TypedSearch.Markup.Tag
import TypedSearch.Named
import TypedSearch.Number.Arithmetic
import TypedSearch.Number.Binary64
import TypedSearch.Number.Complex
import TypedSearch.Number.Decimal
import TypedSearch.Number.Exponential
import TypedSearch.Number.Numeral
import TypedSearch.Number.Power
import TypedSearch.Number.Precision
import TypedSearch.Number.Quotient
import TypedSearch.Number.Ratio
import TypedSearch.Number.Whole
import TypedSearch.Proofs.Annotation.Binding
import TypedSearch.Proofs.Annotation.Layout
import TypedSearch.Proofs.Annotation.Names
import TypedSearch.Proofs.Assembly
import TypedSearch.Proofs.Calendar.Reading
import TypedSearch.Proofs.Calendar.Timestamp
import TypedSearch.Proofs.Client.Histories
import TypedSearch.Proofs.Client.Messages
import TypedSearch.Proofs.Client.Plans
import TypedSearch.Proofs.Client.Search
import TypedSearch.Proofs.Client.Silence
import TypedSearch.Proofs.CommandLine.Contract
import TypedSearch.Proofs.CommandLine.Documents
import TypedSearch.Proofs.CommandLine.Endings
import TypedSearch.Proofs.CommandLine.Timeout
import TypedSearch.Proofs.Conversion.Classes
import TypedSearch.Proofs.Conversion.Decimals
import TypedSearch.Proofs.Conversion.Literal
import TypedSearch.Proofs.Conversion.Moments
import TypedSearch.Proofs.Declared.Classification
import TypedSearch.Proofs.Declared.Content
import TypedSearch.Proofs.Document.Containers
import TypedSearch.Proofs.Document.Faults
import TypedSearch.Proofs.Document.Fields
import TypedSearch.Proofs.Document.Lookup
import TypedSearch.Proofs.Document.Mapping
import TypedSearch.Proofs.Document.Members
import TypedSearch.Proofs.Document.Registry
import TypedSearch.Proofs.Document.Replies
import TypedSearch.Proofs.Document.RoundTrip
import TypedSearch.Proofs.Document.Strictness
import TypedSearch.Proofs.Document.Typing
import TypedSearch.Proofs.Json.Grammar
import TypedSearch.Proofs.Json.Numbers
import TypedSearch.Proofs.Json.Printing
import TypedSearch.Proofs.Markup.Content
import TypedSearch.Proofs.Markup.Printing
import TypedSearch.Proofs.Markup.Reading
import TypedSearch.Proofs.Markup.Tags
import TypedSearch.Proofs.Named
import TypedSearch.Proofs.Number.Numeral
import TypedSearch.Proofs.Number.RoundTrip
import TypedSearch.Proofs.Outcome
import TypedSearch.Proofs.Query.Escapes
import TypedSearch.Proofs.Query.Examples
import TypedSearch.Proofs.Query.Requests
import TypedSearch.Proofs.Query.Sorting
import TypedSearch.Proofs.Query.Stages
import TypedSearch.Proofs.Query.Toggles
import TypedSearch.Proofs.Query.Trace
import TypedSearch.Proofs.Response.Skipping
import TypedSearch.Proofs.Settings.Dotenv
import TypedSearch.Proofs.Text.Words
import TypedSearch.Proofs.Update.Bodies
import TypedSearch.Proofs.Update.Identifiers
import TypedSearch.Proofs.Value.Zero
import TypedSearch.Query.Builder
import TypedSearch.Query.Clause
import TypedSearch.Query.Literal
import TypedSearch.Query.Request
import TypedSearch.Query.Sort
import TypedSearch.Response
import TypedSearch.Settings.Dotenv
import TypedSearch.Settings.Environment
import TypedSearch.Text.Blank
import TypedSearch.Text.Case
import TypedSearch.Text.Digit
import TypedSearch.Text.Identifier
import TypedSearch.Text.Line
import TypedSearch.Text.Printable
import TypedSearch.Text.Quoted
import TypedSearch.Text.Utf8
import TypedSearch.Update
import TypedSearch.Value.Arithmetic
import TypedSearch.Value.Basic
import TypedSearch.Value.Display
import TypedSearch.Value.Equality
import TypedSearch.Value.Order
