import Clippings.Text.CodePoint
import Clippings.Calendar.Date
import Clippings.Calendar.Iso
import Clippings.Calendar.Mail
import Clippings.Calendar.Moment
import Clippings.Calendar.Reading
import Clippings.Calendar.Written
import Clippings.Command.Arguments
import Clippings.Command.Clip
import Clippings.Command.Filters
import Clippings.Command.Misuse
import Clippings.Command.Render
import Clippings.Command.Run
import Clippings.Command.Session
import Clippings.Command.Validate
import Clippings.Expression.Basic
import Clippings.Expression.Scan
import Clippings.Failure
import Clippings.File.Error
import Clippings.File.Path
import Clippings.File.System
import Clippings.File.Tree
import Clippings.Filter.Action
import Clippings.Filter.Basic
import Clippings.Filter.Builtin
import Clippings.Json.Reader
import Clippings.Json.Writer
import Clippings.Library.Loading
import Clippings.Library.Refusal
import Clippings.Main
import Clippings.Note.Basic
import Clippings.Note.Builder
import Clippings.Note.Clip
import Clippings.Note.Context
import Clippings.Note.Insertion
import Clippings.Note.Naming
import Clippings.Note.Property
import Clippings.Note.Template
import Clippings.Number.Binary64
import Clippings.Number.Power
import Clippings.Number.Reading
import Clippings.Number.Shortest
import Clippings.Page.Content
import Clippings.Pattern.Class
import Clippings.Pattern.Escape
import Clippings.Pattern.Flags
import Clippings.Pattern.Group
import Clippings.Pattern.Matcher
import Clippings.Pattern.Node
import Clippings.Pattern.Parser
import Clippings.Pattern.Problem
import Clippings.Pattern.Reader
import Clippings.Pattern.Repetition
import Clippings.Pattern.Replacement
import Clippings.Proofs.Calendar.Notation
import Clippings.Proofs.Calendar.Validity
import Clippings.Proofs.Command.Adding
import Clippings.Proofs.Command.Clip
import Clippings.Proofs.Command.Endings
import Clippings.Proofs.Command.Making
import Clippings.Proofs.Command.Run
import Clippings.Proofs.Command.Saving
import Clippings.Proofs.Command.Session
import Clippings.Proofs.Command.Templates
import Clippings.Proofs.Command.Vault
import Clippings.Proofs.Expression.Arguments
import Clippings.Proofs.Expression.FilterName
import Clippings.Proofs.Expression.Pieces
import Clippings.Proofs.Expression.Rereading
import Clippings.Proofs.Expression.Writing
import Clippings.Proofs.File.Flat
import Clippings.Proofs.File.Tree
import Clippings.Proofs.File.Walk
import Clippings.Proofs.Filter.Chain
import Clippings.Proofs.Filter.Data
import Clippings.Proofs.Filter.Dates
import Clippings.Proofs.Filter.Identifiers
import Clippings.Proofs.Filter.Repeats
import Clippings.Proofs.Filter.Replacing
import Clippings.Proofs.Filter.Slicing
import Clippings.Proofs.Filter.Splitting
import Clippings.Proofs.Filter.Tags
import Clippings.Proofs.Json.Data
import Clippings.Proofs.Json.Leaves
import Clippings.Proofs.Json.RoundTrip
import Clippings.Proofs.Library.Adding
import Clippings.Proofs.Library.Describing
import Clippings.Proofs.Library.Files
import Clippings.Proofs.Library.Folder
import Clippings.Proofs.Note.Adding
import Clippings.Proofs.Note.Building
import Clippings.Proofs.Note.Clipping
import Clippings.Proofs.Note.Folder
import Clippings.Proofs.Note.Frontmatter
import Clippings.Proofs.Note.Insertion
import Clippings.Proofs.Note.Lines
import Clippings.Proofs.Note.Lists
import Clippings.Proofs.Note.Naming
import Clippings.Proofs.Note.Numbers
import Clippings.Proofs.Note.Properties
import Clippings.Proofs.Note.Saving
import Clippings.Proofs.Note.Templates
import Clippings.Proofs.Note.Titles
import Clippings.Proofs.Number.Digits
import Clippings.Proofs.Number.Limits
import Clippings.Proofs.Number.Nearest
import Clippings.Proofs.Number.Rounding
import Clippings.Proofs.Outcome
import Clippings.Proofs.Page.Data
import Clippings.Proofs.Page.Parts
import Clippings.Proofs.Pattern.Matching
import Clippings.Proofs.Pattern.Plain
import Clippings.Proofs.Record.Fields
import Clippings.Proofs.Record.Outcomes
import Clippings.Proofs.Record.RoundTrip
import Clippings.Proofs.Screen.Frame
import Clippings.Proofs.Screen.Markup
import Clippings.Proofs.Template.Batch
import Clippings.Proofs.Template.Chain
import Clippings.Proofs.Template.Checking
import Clippings.Proofs.Template.Delimiters
import Clippings.Proofs.Template.Failing
import Clippings.Proofs.Template.History
import Clippings.Proofs.Template.KnownVariables
import Clippings.Proofs.Template.Memory
import Clippings.Proofs.Template.Parentheses
import Clippings.Proofs.Template.Prompts
import Clippings.Proofs.Template.Reading
import Clippings.Proofs.Template.Rendering
import Clippings.Proofs.Template.Strictness
import Clippings.Proofs.Template.Totality
import Clippings.Proofs.Template.UnknownFilters
import Clippings.Proofs.Template.Workers
import Clippings.Proofs.Text.CaseForms
import Clippings.Proofs.Text.Cutting
import Clippings.Proofs.Text.Identifier
import Clippings.Proofs.Text.Lowering
import Clippings.Proofs.Text.Nesting
import Clippings.Proofs.Text.Order
import Clippings.Proofs.Text.Replacing
import Clippings.Proofs.Text.Spacing
import Clippings.Proofs.Text.Spelling
import Clippings.Proofs.Text.Trim
import Clippings.Proofs.Text.Utf8
import Clippings.Proofs.Value.Entries
import Clippings.Proofs.Value.Nesting
import Clippings.Proofs.Value.PageData
import Clippings.Proofs.Value.Sameness
import Clippings.Proofs.Variable.Composition
import Clippings.Proofs.Variable.ContextKeys
import Clippings.Proofs.Variable.Path
import Clippings.Proofs.Variable.Places
import Clippings.Proofs.Variable.Resolution
import Clippings.Proofs.Variable.Schema
import Clippings.Proofs.Yaml.Lines
import Clippings.Record.Check
import Clippings.Record.Issue
import Clippings.Record.Number
import Clippings.Runtime
import Clippings.Screen.Frame
import Clippings.Screen.Line
import Clippings.Screen.Markup
import Clippings.Template.Basic
import Clippings.Template.Batch
import Clippings.Template.Cache
import Clippings.Template.Engine
import Clippings.Template.Validation
import Clippings.Text.Basic
import Clippings.Text.Blank
import Clippings.Text.Case
import Clippings.Text.CaseTable
import Clippings.Text.Digit
import Clippings.Text.FileName
import Clippings.Text.Identifier
import Clippings.Text.Letter
import Clippings.Text.Markup
import Clippings.Text.Printable
import Clippings.Text.Quoted
import Clippings.Text.Ranges
import Clippings.Text.Similarity
import Clippings.Text.Utf8
import Clippings.Value.Basic
import Clippings.Value.Display
import Clippings.Value.Print
import Clippings.Variable.Namespace
import Clippings.Variable.Path
import Clippings.Yaml.BlockText
import Clippings.Yaml.Cursor
import Clippings.Yaml.Document
import Clippings.Yaml.Error
import Clippings.Yaml.Name
import Clippings.Yaml.Node
import Clippings.Yaml.PlainText
import Clippings.Yaml.QuotedText
import Clippings.Yaml.Scalar
import Clippings.Yaml.ScalarValue
import Clippings.Yaml.Tag
import Clippings.Yaml.Token
import Clippings.Yaml.Writer
