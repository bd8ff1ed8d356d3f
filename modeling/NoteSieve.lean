import NoteSieve.Unicode.Blank
import NoteSieve.Unicode.Mark
import NoteSieve.Unicode.Visible
import NoteSieve.Unicode.Normal
import NoteSieve.Unicode.Lower
import NoteSieve.Text.Quoted
import NoteSieve.Filter.Compile
import NoteSieve.Filter.Display
import NoteSieve.Json.Reader
import NoteSieve.Json.Writer
import NoteSieve.Output.Document
import NoteSieve.Output.Table
import NoteSieve.Toml.Reader
import NoteSieve.Config.File
import NoteSieve.Record.Load
import NoteSieve.CommandLine.Basic
import NoteSieve.CommandLine.Grammar
import NoteSieve.CommandLine.Reader
import NoteSieve.Command.Outcome
import NoteSieve.Command.Run
import NoteSieve.Main
import NoteSieve.Proofs.Unicode.Inert
import NoteSieve.Proofs.Unicode.Cut
import NoteSieve.Proofs.Text.Fold
import NoteSieve.Proofs.Tags.Written
import NoteSieve.Proofs.Json.Spelling
import NoteSieve.Proofs.Json.Number
import NoteSieve.Proofs.Json.Grammar
import NoteSieve.Proofs.Json.Names
import NoteSieve.Proofs.Tags.Stored
import NoteSieve.Proofs.Tags.Exact
import NoteSieve.Proofs.Text.Words
import NoteSieve.Proofs.Query.Operator
import NoteSieve.Proofs.Query.Completion
import NoteSieve.Proofs.Unicode.Index
import NoteSieve.Proofs.Unicode.Code
import NoteSieve.Proofs.Unicode.Order
import NoteSieve.Proofs.Unicode.Hangul
import NoteSieve.Proofs.Unicode.Character
import NoteSieve.Proofs.Unicode.Canonical
import NoteSieve.Proofs.Unicode.Composed
import NoteSieve.Proofs.Unicode.Front
import NoteSieve.Proofs.Text.Spelling
import NoteSieve.Proofs.Text.Folded
import NoteSieve.Proofs.Text.Sigma
import NoteSieve.Proofs.Search.Spelling
import NoteSieve.Proofs.Search.Verbatim
import NoteSieve.Proofs.Search.Whole
import NoteSieve.Proofs.Query.Grammar
import NoteSieve.Proofs.Config.Operator
import NoteSieve.Proofs.Toml.Reader
import NoteSieve.Proofs.Config.Written
import NoteSieve.Proofs.Disk.Directories
import NoteSieve.Proofs.Disk.File
import NoteSieve.Proofs.Disk.Content
import NoteSieve.Proofs.Config.Run
import NoteSieve.Proofs.Filter.Search
import NoteSieve.Proofs.Text.Quoted
import NoteSieve.Proofs.Filter.Rendered
import NoteSieve.Proofs.Filter.Algebra
import NoteSieve.Proofs.Json.Written
import NoteSieve.Proofs.Record.Forms
import NoteSieve.Proofs.Record.Exported
import NoteSieve.Proofs.Command.Dispatch
import NoteSieve.Proofs.Command.Failure
import NoteSieve.Proofs.Command.Listing
import NoteSieve.Proofs.Command.Notes
import NoteSieve.Proofs.Command.Tags
import NoteSieve.Proofs.CommandLine.Front
import NoteSieve.Proofs.Command.Presentation
import NoteSieve.Proofs.Text.Respelling
import NoteSieve.Proofs.Filter.Suggestion
import NoteSieve.Proofs.Search.Respelling
import NoteSieve.Proofs.Filter.Shape
import NoteSieve.Proofs.Tags.Untagged
import NoteSieve.Proofs.Search.Title
import NoteSieve.Proofs.Unicode.Blank
import NoteSieve.Proofs.Text.FinalSigma
import NoteSieve.Proofs.Query.OperatorCase
import NoteSieve.Proofs.Query.WholeCharacters
import NoteSieve.Proofs.Text.LastWord
import NoteSieve.Proofs.Tags.Quoted
import NoteSieve.Proofs.Text.Lines
import NoteSieve.Proofs.Output.Style
import NoteSieve.Proofs.Output.Rows
import NoteSieve.Proofs.Command.NotesTable
import NoteSieve.Proofs.Output.Color
import NoteSieve.Proofs.Output.Tokens
import NoteSieve.Proofs.Output.TokensDocument
