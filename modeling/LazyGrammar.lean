import LazyGrammar.Arith
import LazyGrammar.CharSet.Basic
import LazyGrammar.CharSet.ClassText
import LazyGrammar.CharSet.Scalar
import LazyGrammar.CharSet.Span
import LazyGrammar.Cursor
import LazyGrammar.Enumeration
import LazyGrammar.Expr.Basic
import LazyGrammar.Expr.Parses
import LazyGrammar.Grammar
import LazyGrammar.GrammarError
import LazyGrammar.Lexical
import LazyGrammar.NameSet
import LazyGrammar.Regex.Match
import LazyGrammar.Regex.Meaning
import LazyGrammar.Regex.Program
import LazyGrammar.Regex.Reader
import LazyGrammar.Regex.Reader.Class
import LazyGrammar.Regex.Reader.Pattern
import LazyGrammar.Regex.Resolved
import LazyGrammar.Regex.Tree
import LazyGrammar.Rules
import LazyGrammar.Session
import LazyGrammar.Text.Blank
import LazyGrammar.Text.Hexadecimal
import LazyGrammar.Text.Location
import LazyGrammar.Text.Outline
import LazyGrammar.Text.Quoted
import LazyGrammar.Unicode.Additions
import LazyGrammar.Unicode.CaseFolding
import LazyGrammar.Unicode.CodePoints
import LazyGrammar.Unicode.GeneralCategory
import LazyGrammar.Unicode.GraphemeBreak
import LazyGrammar.Unicode.Lookup
import LazyGrammar.Unicode.Property
import LazyGrammar.Unicode.Script
import LazyGrammar.Unicode.SentenceBreak
import LazyGrammar.Unicode.Version
import LazyGrammar.Unicode.WordBreak
import LazyGrammar.Value
import LazyGrammar.Proofs.Expr.Parts
import LazyGrammar.Proofs.References
import LazyGrammar.Proofs.Ending
import LazyGrammar.Proofs.ListSemantics
import LazyGrammar.Proofs.Agreement
import LazyGrammar.Proofs.BoundRules
import LazyGrammar.Proofs.Derivations
import LazyGrammar.Proofs.Matching
import LazyGrammar.Proofs.Consumption
import LazyGrammar.Proofs.Termination
import LazyGrammar.Proofs.Lossless
import LazyGrammar.Proofs.Ambiguity
import LazyGrammar.Proofs.Peg
import LazyGrammar.Proofs.Laziness
import LazyGrammar.Proofs.Definitions
import LazyGrammar.Proofs.Transforms
import LazyGrammar.Proofs.Incremental
import LazyGrammar.Proofs.CharacterRuns
import LazyGrammar.Proofs.Arith.Language
import LazyGrammar.Proofs.Arith.Tokens
import LazyGrammar.Proofs.Arith.Results
import LazyGrammar.Proofs.Arith.Parsing
import LazyGrammar.Proofs.Arith.Evaluation
import LazyGrammar.Proofs.ClassNotation
import LazyGrammar.Proofs.Reachability
import LazyGrammar.Proofs.Extension
import LazyGrammar.Proofs.Text.Runs
import LazyGrammar.Proofs.Text.Legible
import LazyGrammar.Proofs.Text.Form
import LazyGrammar.Proofs.ValueTexts
import LazyGrammar.Proofs.Chains
import LazyGrammar.Proofs.LongestRuns
import LazyGrammar.Proofs.Arith.PartialParses
import LazyGrammar.Proofs.Anchors
import LazyGrammar.Proofs.ClassDefects
import LazyGrammar.Proofs.Inlining
import LazyGrammar.Proofs.Locality
import LazyGrammar.Proofs.Optionals
import LazyGrammar.Proofs.Arith.Rendering
import LazyGrammar.Proofs.Shapes
import LazyGrammar.Proofs.CharacterSets
import LazyGrammar.Proofs.CodePointRuns
import LazyGrammar.Proofs.ClassWriting
import LazyGrammar.Proofs.Entrances
import LazyGrammar.Proofs.Words
import LazyGrammar.Proofs.ExprTexts
import LazyGrammar.Proofs.Adapters
import LazyGrammar.Proofs.Resumption
import LazyGrammar.Proofs.Iterators
import LazyGrammar.Proofs.Interleaving
