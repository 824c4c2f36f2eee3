import SourceDocs.Archive
import SourceDocs.CommandLine.Program
import SourceDocs.Extraction.File
import SourceDocs.Extraction.Symbols
import SourceDocs.Failure.Basic
import SourceDocs.Files.Disk
import SourceDocs.Files.Listing
import SourceDocs.Files.Lookup
import SourceDocs.Json.Chunks
import SourceDocs.Json.Indented
import SourceDocs.Json.Reader
import SourceDocs.Log.Excerpt
import SourceDocs.Main
import SourceDocs.Matcher
import SourceDocs.Output
import SourceDocs.Plugin.Loading
import SourceDocs.Plugin.Publishing
import SourceDocs.Proofs.Acting
import SourceDocs.Proofs.Action
import SourceDocs.Proofs.Files.Growth
import SourceDocs.Proofs.Files.LinkFree
import SourceDocs.Proofs.Looking
import SourceDocs.Proofs.Path
import SourceDocs.Record.Duplicates
import SourceDocs.Record.Synthetic
import SourceDocs.Settings.Reader
import SourceDocs.Source.Coding
import SourceDocs.Source.Docstring
import SourceDocs.Source.Grammar
import SourceDocs.Source.Grammar.Parameters
import SourceDocs.Source.Grammar.Pattern
import SourceDocs.Source.Lexer
import SourceDocs.Source.Literal.Formatted
import SourceDocs.Source.Literal.Number
import SourceDocs.Source.Parser
import SourceDocs.Source.Printer
import SourceDocs.Source.Word
import SourceDocs.Text.Alphanumeric
import SourceDocs.Text.Case
import SourceDocs.Text.Codec
import SourceDocs.Text.Compatibility
import SourceDocs.Text.Identifier
import SourceDocs.Text.Lines
import SourceDocs.Text.Printable
import SourceDocs.Walk
import SourceDocs.World
import SourceDocs.Proofs.Walk.Reachable
import SourceDocs.Proofs.Walk.Walked
import SourceDocs.Proofs.Walk.Events
import SourceDocs.Proofs.Walk.Exact
import SourceDocs.Proofs.Archive.Sequential
import SourceDocs.Proofs.Archive.Faithful
import SourceDocs.Proofs.Extraction.Numbering
import SourceDocs.Proofs.Extraction.Scope
import SourceDocs.Proofs.Writing
import SourceDocs.Proofs.Walk.Alongside
import SourceDocs.Proofs.Record.Duplicates
import SourceDocs.Proofs.Run.Handling
import SourceDocs.Proofs.Run.Sample
import SourceDocs.Proofs.Run.Numbered
import SourceDocs.Proofs.Run.Blind
import SourceDocs.Proofs.Run.Isolated
import SourceDocs.Proofs.Files.Placing
import SourceDocs.Proofs.Archive.Placed
import SourceDocs.Proofs.Archive.Holding
import SourceDocs.Proofs.Walk.Distinct
import SourceDocs.Proofs.Run.Archiving
import SourceDocs.Proofs.Json.Recursive
import SourceDocs.Proofs.Extraction.Longnames
import SourceDocs.Proofs.Extraction.Links
import SourceDocs.Proofs.Archive.Outside
import SourceDocs.Proofs.Run.Quiet
import SourceDocs.Proofs.Record.Blocks
import SourceDocs.Proofs.Record.Survivors
import SourceDocs.Proofs.Record.Unwritten
import SourceDocs.Proofs.Files.Tidy
import SourceDocs.Proofs.Run.Collecting
import SourceDocs.Proofs.Run.Found
import SourceDocs.Proofs.Run.Local
import SourceDocs.Proofs.Run.Contained
import SourceDocs.Proofs.Run.Lifecycle
import SourceDocs.Proofs.Tree.Expanded
import SourceDocs.Proofs.Record.Index
import SourceDocs.Proofs.Source.Types
import SourceDocs.Proofs.Archive.Aborting
import SourceDocs.Proofs.Walk.Listed
import SourceDocs.Proofs.Record.SinglePackage
import SourceDocs.Proofs.Settings.Accepted
import SourceDocs.Proofs.Plugin.Loaded
import SourceDocs.Proofs.Plugin.Published
import SourceDocs.Proofs.Pattern.Chosen
import SourceDocs.Proofs.Log.Excerpt
import SourceDocs.Proofs.Extraction.Annotations
import SourceDocs.Proofs.Log.Rows
import SourceDocs.Proofs.Extraction.Shown
import SourceDocs.Proofs.Extraction.Documented
