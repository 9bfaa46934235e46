import Stencil.Dictionary
import Stencil.Inflection.Noun
import Stencil.Inflection.WordCase
import Stencil.Text.Printable
import Stencil.Decimal.Binary
import Stencil.Decimal.Shortest
import Stencil.Decimal.Style
import Stencil.Error
import Stencil.Value
import Stencil.Document.Fault
import Stencil.Document.Json.Number
import Stencil.Document.Json.Reader
import Stencil.Filter.Basic
import Stencil.Filter.Builtin
import Stencil.Filter.Set
import Stencil.Config
import Stencil.Token.Basic
import Stencil.Token.Pattern
import Stencil.Engine.Basic
import Stencil.Engine.Plan
import Stencil.Settings.Basic
import Stencil.Settings.Record
import Stencil.Surroundings
import Stencil.Document.Toml.Moment
import Stencil.Document.Toml.Number
import Stencil.Document.Toml.Reader
import Stencil.Document.Yaml.Cursor
import Stencil.Failure
import Stencil.Parts.Assignment
import Stencil.Parts.File
import Stencil.Settings.Source
import Stencil.Command.Listing
import Stencil.Command.Terminal
import Stencil.Command.Arguments
import Stencil.Command.Invocation
import Stencil.Command.Program
import Stencil.Main
import Stencil.Settings.Layer
import Stencil.Text.Identifier
import Stencil.Text.Lenient
import Stencil.Document.Ini
import Stencil.Document.Json5.Number
import Stencil.Document.Json5.Reader
import Stencil.Document.Ron.Number
import Stencil.Document.Ron.Reader
import Stencil.Proofs.Dictionary
import Stencil.Proofs.Token.Grammar
import Stencil.Proofs.Token.Expression
import Stencil.Proofs.Token.Scanning
import Stencil.Proofs.Token.Agreement
import Stencil.Proofs.Engine.History
import Stencil.Proofs.Engine.Retention
import Stencil.Proofs.Engine.Transparency
import Stencil.Proofs.Engine.Settled
import Stencil.Proofs.Token.Printing
import Stencil.Proofs.Engine.Splicing
import Stencil.Proofs.Engine.Failure
import Stencil.Proofs.Settings
import Stencil.Proofs.Engine.Rejection
import Stencil.Proofs.Engine.Mention
import Stencil.Proofs.Command.Rendering
import Stencil.Proofs.Recording
import Stencil.Proofs.Engine.Calls
import Stencil.Proofs.Engine.Accounting
import Stencil.Proofs.Engine.Reachability
import Stencil.Proofs.Engine.Batch
import Stencil.Proofs.Command.Statistics
import Stencil.Proofs.Engine.Planning
import Stencil.Proofs.Inflection.Irregular
import Stencil.Proofs.Inflection.Stability
import Stencil.Proofs.Inflection.LastWord
import Stencil.Proofs.Inflection.Capital
import Stencil.Proofs.Memo.Log
import Stencil.Proofs.Filter.Chain
import Stencil.Proofs.Settings.Bindings
import Stencil.Proofs.Command.Preparation
