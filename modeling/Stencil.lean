import Stencil.Bindings
import Stencil.Command.Arguments
import Stencil.Command.Assignment
import Stencil.Command.Colour
import Stencil.Command.Help
import Stencil.Command.Run
import Stencil.Command.Script
import Stencil.Context.Basic
import Stencil.Context.Coding
import Stencil.Decimal.Basic
import Stencil.Decimal.Binary64
import Stencil.Decimal.Reader
import Stencil.Decimal.Shortest
import Stencil.Decimal.Style
import Stencil.Dictionary
import Stencil.Engine
import Stencil.Environment
import Stencil.Event
import Stencil.Json.Basic
import Stencil.Json.Decode
import Stencil.Json.Nesting
import Stencil.Json.Printer
import Stencil.Json.Reader
import Stencil.Log.Filter
import Stencil.Log.Line
import Stencil.Logged
import Stencil.Main
import Stencil.Moment.Basic
import Stencil.Moment.Calendar
import Stencil.Moment.Printer
import Stencil.Moment.Reader
import Stencil.Processor
import Stencil.Program
import Stencil.Proofs.Announcements
import Stencil.Proofs.Command.Arguments
import Stencil.Proofs.Command.Assignment
import Stencil.Proofs.Command.Help
import Stencil.Proofs.Command.Likeness
import Stencil.Proofs.Command.Output
import Stencil.Proofs.Command.Quoting
import Stencil.Proofs.Command.Render
import Stencil.Proofs.Command.Script
import Stencil.Proofs.Command.Sink
import Stencil.Proofs.Context.Coding
import Stencil.Proofs.Dictionary
import Stencil.Proofs.Json.Integers
import Stencil.Proofs.Json.Literals
import Stencil.Proofs.Json.Quoting
import Stencil.Proofs.Json.Records
import Stencil.Proofs.Json.Strings
import Stencil.Proofs.Json.Structures
import Stencil.Proofs.Moment.Calendar
import Stencil.Proofs.Moment.Text
import Stencil.Proofs.Program.Configuration
import Stencil.Proofs.Session.Account
import Stencil.Proofs.Session.Actions
import Stencil.Proofs.Session.Binding
import Stencil.Proofs.Session.History
import Stencil.Proofs.Session.Interleaving
import Stencil.Proofs.Session.Masking
import Stencil.Proofs.Session.OneShot
import Stencil.Proofs.Session.Ownership
import Stencil.Proofs.Session.Places
import Stencil.Proofs.Session.Runs
import Stencil.Proofs.Settings.Decoding
import Stencil.Proofs.Settings.Extraction
import Stencil.Proofs.Settings.Keys
import Stencil.Proofs.Settings.Layers
import Stencil.Proofs.Settings.Merging
import Stencil.Proofs.Settings.Precedence
import Stencil.Proofs.Settings.Restating
import Stencil.Proofs.Settings.VariableFile
import Stencil.Proofs.Template.Braces
import Stencil.Proofs.Template.Canonical
import Stencil.Proofs.Template.Concatenation
import Stencil.Proofs.Template.Cuts
import Stencil.Proofs.Template.Diagnostics
import Stencil.Proofs.Template.Grammar
import Stencil.Proofs.Template.Independence
import Stencil.Proofs.Template.Names
import Stencil.Proofs.Template.Offences
import Stencil.Proofs.Template.Outcomes
import Stencil.Proofs.Template.Precheck
import Stencil.Proofs.Template.Reading
import Stencil.Proofs.Template.Rendering
import Stencil.Proofs.Template.Slices
import Stencil.Proofs.Template.Spans
import Stencil.Proofs.Template.Validity
import Stencil.Proofs.Text.Ascii
import Stencil.Proofs.Text.Slices
import Stencil.Proofs.Text.Utf16
import Stencil.Session
import Stencil.Settings.Basic
import Stencil.Settings.Coding
import Stencil.Settings.Entry
import Stencil.Settings.Environment
import Stencil.Settings.Extract
import Stencil.Settings.File
import Stencil.Settings.Load
import Stencil.Settings.Path
import Stencil.Settings.VariableFile
import Stencil.Template.Basic
import Stencil.Template.Names
import Stencil.Template.Parser
import Stencil.Template.Substitution
import Stencil.Template.Validity
import Stencil.TemplateId
import Stencil.Text.Alphanumeric
import Stencil.Text.Blank
import Stencil.Text.Cased
import Stencil.Text.LowerCase
import Stencil.Text.Pieces
import Stencil.Text.Quoted
import Stencil.Text.Range
import Stencil.Text.Slice
import Stencil.Text.Unprintable
import Stencil.Text.Utf8
import Stencil.Toml.Basic
import Stencil.Toml.Calendar
import Stencil.Toml.Reader
import Stencil.Toml.Scalar
import Stencil.Toml.Text
