import GrammarArtifact.Bundled.Artifact
import GrammarArtifact.Bundled.Language
import GrammarArtifact.Command.LogFilter
import GrammarArtifact.Command.Options
import GrammarArtifact.Command.Run
import GrammarArtifact.File.Directory
import GrammarArtifact.Grammar.Basic
import GrammarArtifact.Grammar.Family
import GrammarArtifact.Grammar.Reader
import GrammarArtifact.Grammar.Worklist
import GrammarArtifact.Json.Container
import GrammarArtifact.Json.Number
import GrammarArtifact.Json.Problem
import GrammarArtifact.Json.Reader
import GrammarArtifact.Json.Record
import GrammarArtifact.Json.Skip
import GrammarArtifact.Json.Writer
import GrammarArtifact.Language.Basic
import GrammarArtifact.Language.Event
import GrammarArtifact.Language.Handle
import GrammarArtifact.Language.Session
import GrammarArtifact.Main
import GrammarArtifact.NodeType.Basic
import GrammarArtifact.NodeType.Expansion
import GrammarArtifact.NodeType.Summary
import GrammarArtifact.NodeType.Table
import GrammarArtifact.NodeType.Writer
import GrammarArtifact.Pattern.Bracket
import GrammarArtifact.Pattern.Escape
import GrammarArtifact.Pattern.Expr
import GrammarArtifact.Pattern.Group
import GrammarArtifact.Pattern.Parser
import GrammarArtifact.Pattern.Problem
import GrammarArtifact.Pattern.Program
import GrammarArtifact.Pattern.Report
import GrammarArtifact.Pattern.Scanner
import GrammarArtifact.Pattern.Tree
import GrammarArtifact.Proofs.Expansion.Chain
import GrammarArtifact.Proofs.Expansion.Consistency
import GrammarArtifact.Proofs.Expansion.Derivation
import GrammarArtifact.Proofs.Expansion.Exact
import GrammarArtifact.Proofs.Expansion.Kinds
import GrammarArtifact.Proofs.Expansion.Laws
import GrammarArtifact.Proofs.Expansion.Reentry
import GrammarArtifact.Proofs.Expansion.Shape
import GrammarArtifact.Proofs.Expansion.Slot
import GrammarArtifact.Proofs.Grammar.Decoding
import GrammarArtifact.Proofs.Grammar.Failure
import GrammarArtifact.Proofs.Grammar.Listing
import GrammarArtifact.Proofs.Grammar.Rearranging
import GrammarArtifact.Proofs.Grammar.Rules
import GrammarArtifact.Proofs.Grammar.Start
import GrammarArtifact.Proofs.Grammar.Worklist
import GrammarArtifact.Proofs.Json.Container
import GrammarArtifact.Proofs.Json.Decoding
import GrammarArtifact.Proofs.Json.Exact
import GrammarArtifact.Proofs.Json.Failure
import GrammarArtifact.Proofs.Json.Layout
import GrammarArtifact.Proofs.Json.Marks
import GrammarArtifact.Proofs.Json.Numeral
import GrammarArtifact.Proofs.Json.Rearranging
import GrammarArtifact.Proofs.Json.Skip
import GrammarArtifact.Proofs.Json.Tree
import GrammarArtifact.Proofs.Json.Unique
import GrammarArtifact.Proofs.Json.Writing
import GrammarArtifact.Proofs.Language.Enumeration
import GrammarArtifact.Proofs.Language.Field
import GrammarArtifact.Proofs.Language.Kinds
import GrammarArtifact.Proofs.Language.Loading
import GrammarArtifact.Proofs.Language.Symbol
import GrammarArtifact.Proofs.NodeType.Alias
import GrammarArtifact.Proofs.NodeType.Closed
import GrammarArtifact.Proofs.NodeType.Consistency
import GrammarArtifact.Proofs.NodeType.Entry
import GrammarArtifact.Proofs.NodeType.Exact
import GrammarArtifact.Proofs.NodeType.Independence
import GrammarArtifact.Proofs.NodeType.Leaf
import GrammarArtifact.Proofs.NodeType.Precedence
import GrammarArtifact.Proofs.NodeType.Reach
import GrammarArtifact.Proofs.NodeType.Reading
import GrammarArtifact.Proofs.NodeType.Refactoring
import GrammarArtifact.Proofs.NodeType.Run
import GrammarArtifact.Proofs.NodeType.Table
import GrammarArtifact.Proofs.Rule.Decoding
import GrammarArtifact.Proofs.Rule.Literals
import GrammarArtifact.Proofs.Rule.Precedence
import GrammarArtifact.Proofs.Rule.Tree
import GrammarArtifact.Proofs.Rule.Walk
import GrammarArtifact.Proofs.Text.ByteOrder
import GrammarArtifact.Proofs.Text.CharSet
import GrammarArtifact.Proofs.Text.Plain
import GrammarArtifact.Proofs.Validation.EmptyLiteral
import GrammarArtifact.Proofs.Validation.Exact
import GrammarArtifact.Proofs.Validation.Fault
import GrammarArtifact.Proofs.Validation.Finds
import GrammarArtifact.Proofs.Validation.LeftRecursion
import GrammarArtifact.Proofs.Validation.Reachable
import GrammarArtifact.Proofs.Validation.References
import GrammarArtifact.Proofs.Validation.Report
import GrammarArtifact.Proofs.Validation.Search
import GrammarArtifact.Rule.Basic
import GrammarArtifact.Rule.Build
import GrammarArtifact.Rule.Reader
import GrammarArtifact.Rule.Writer
import GrammarArtifact.Text.CharSet
import GrammarArtifact.Text.Decimal
import GrammarArtifact.Text.Edit
import GrammarArtifact.Text.Location
import GrammarArtifact.Text.Quoted
import GrammarArtifact.Text.Utf8
import GrammarArtifact.Text.Words
import GrammarArtifact.Unicode.Age
import GrammarArtifact.Unicode.Boundary
import GrammarArtifact.Unicode.Casing
import GrammarArtifact.Unicode.Category
import GrammarArtifact.Unicode.Lookup
import GrammarArtifact.Unicode.Property
import GrammarArtifact.Unicode.Script
import GrammarArtifact.Unicode.Table
import GrammarArtifact.Validation.Basic
import GrammarArtifact.Validation.Check
import GrammarArtifact.Validation.Errors
import GrammarArtifact.Validation.Warnings
