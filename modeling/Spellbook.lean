import Spellbook.Chapter.Basic
import Spellbook.Chapter.Catalog
import Spellbook.CommandLine.Arguments
import Spellbook.CommandLine.Respond
import Spellbook.Grammar.Expression
import Spellbook.Grammar.Pattern
import Spellbook.Grammar.Rule
import Spellbook.Grammar.Statement
import Spellbook.Grammar.Token
import Spellbook.Main
import Spellbook.Proofs.Grammar.Completeness
import Spellbook.Proofs.Grammar.Layout
import Spellbook.Proofs.Grammar.Reading
import Spellbook.Proofs.Grammar.Recognition
import Spellbook.Proofs.Grammar.Scanner
import Spellbook.Proofs.Grammar.Soundness
import Spellbook.Proofs.Run.StepLimit
import Spellbook.Proofs.Run.Visits
import Spellbook.Proofs.Session.CleanBuffer
import Spellbook.Proofs.Session.Reachable
import Spellbook.Proofs.Store.Bisimulation
import Spellbook.Proofs.Text.Join
import Spellbook.Proofs.Text.Trim
import Spellbook.Run.Evaluate
import Spellbook.Run.Evaluation
import Spellbook.Run.Execute
import Spellbook.Run.Expectation
import Spellbook.Run.Failure
import Spellbook.Run.RunError
import Spellbook.Run.Scope
import Spellbook.Session.Basic
import Spellbook.Session.Console
import Spellbook.Source.Clause
import Spellbook.Source.Line
import Spellbook.Source.Program
import Spellbook.Source.SyntaxError
import Spellbook.Store.Basic
import Spellbook.Store.Equality
import Spellbook.Store.Render
import Spellbook.Syntax.Basic
import Spellbook.Syntax.Outline
import Spellbook.Syntax.SExpr
import Spellbook.Syntax.Span
import Spellbook.Text.Basic
import Spellbook.Text.Blank
import Spellbook.Text.BreakClass
import Spellbook.Text.Conjunct
import Spellbook.Text.Extender
import Spellbook.Text.Grapheme
import Spellbook.Text.Lines
import Spellbook.Text.Pictograph
import Spellbook.Text.Printable
import Spellbook.Text.Quoted
import Spellbook.Text.Ranges
import Spellbook.Proofs.Run.Places
import Spellbook.Proofs.Text.Lines
import Spellbook.Proofs.Source.Joined
import Spellbook.Proofs.Run.Sequence
import Spellbook.Proofs.Session.Display
import Spellbook.Proofs.Session.Continuation
import Spellbook.Proofs.Source.Clipped
import Spellbook.Proofs.Session.Batch
import Spellbook.Proofs.Syntax.Nodes
import Spellbook.Proofs.Text.Slice
import Spellbook.Proofs.Grammar.Placement
import Spellbook.Proofs.Grammar.Spans
import Spellbook.Proofs.Source.Spans
import Spellbook.Proofs.Source.Statements
import Spellbook.Proofs.Grammar.Frontier
import Spellbook.Proofs.Source.Blame
import Spellbook.Proofs.Run.Blame
import Spellbook.Proofs.Run.Growth
import Spellbook.Proofs.Source.FirstBlame
import Spellbook.Proofs.Source.Guard
import Spellbook.Proofs.Store.Rendering
import Spellbook.Proofs.Text.Cut
import Spellbook.Proofs.Text.Quoted
import Spellbook.Proofs.Syntax.Tree
import Spellbook.Proofs.Syntax.Plain
import Spellbook.Proofs.Syntax.SExpr
import Spellbook.Proofs.Source.SExpr
import Spellbook.Proofs.Source.Lines
import Spellbook.Proofs.Source.LineEndings
import Spellbook.Proofs.Syntax.Rename
import Spellbook.Proofs.Run.Renaming
import Spellbook.Proofs.Grammar.Shape
import Spellbook.Proofs.Grammar.Progress
import Spellbook.Proofs.Grammar.Lexemes
import Spellbook.Proofs.Grammar.Entry
import Spellbook.Proofs.Grammar.Integers
import Spellbook.Proofs.Grammar.Depth
import Spellbook.Proofs.Grammar.Report
import Spellbook.Proofs.Run.Append
import Spellbook.Proofs.Run.Failing
import Spellbook.Proofs.Source.Order
import Spellbook.Proofs.Run.Leftmost
import Spellbook.Proofs.Session.Seam
import Spellbook.Proofs.Text.Occurrences
import Spellbook.Proofs.Chapter.Filling
import Spellbook.Proofs.Chapter.Attempt
import Spellbook.Proofs.Chapter.Acceptance
import Spellbook.Proofs.Session.Headers
import Spellbook.Proofs.Syntax.Lists
import Spellbook.Proofs.Run.Lengths
import Spellbook.Proofs.Source.Partition
