import OutlineQuery.Command.Arguments
import OutlineQuery.Command.Report
import OutlineQuery.CompileError
import OutlineQuery.Compiled
import OutlineQuery.Condition
import OutlineQuery.Config
import OutlineQuery.Datalog.Clause
import OutlineQuery.Datalog.Printer
import OutlineQuery.Datalog.Query
import OutlineQuery.Datalog.StringLiteral
import OutlineQuery.Diagnostic
import OutlineQuery.Engine
import OutlineQuery.Expansion
import OutlineQuery.Group
import OutlineQuery.Group.Collapse
import OutlineQuery.Group.Tier
import OutlineQuery.Hierarchy.Operator
import OutlineQuery.Hierarchy.Relation
import OutlineQuery.Json.Printer
import OutlineQuery.Json.Reader
import OutlineQuery.Json.Record
import OutlineQuery.Json.Value
import OutlineQuery.Main
import OutlineQuery.Number.Binary64
import OutlineQuery.Number.Numeral
import OutlineQuery.Pattern
import OutlineQuery.Plan
import OutlineQuery.Proofs.Compiled.Acceptance
import OutlineQuery.Proofs.Compiled.Annotations
import OutlineQuery.Proofs.Compiled.Injection
import OutlineQuery.Proofs.Compiled.Inversion
import OutlineQuery.Proofs.Compiled.Noninterference
import OutlineQuery.Proofs.Compiled.Scoping
import OutlineQuery.Proofs.Compiled.Shape
import OutlineQuery.Proofs.Compiled.Sources
import OutlineQuery.Proofs.Datalog.Lexing
import OutlineQuery.Proofs.Datalog.Names
import OutlineQuery.Proofs.Datalog.Renaming
import OutlineQuery.Proofs.Datalog.Rendering
import OutlineQuery.Proofs.Datalog.Scoping
import OutlineQuery.Proofs.Datalog.Semantics
import OutlineQuery.Proofs.Datalog.Skeleton
import OutlineQuery.Proofs.Datalog.Token
import OutlineQuery.Proofs.Datalog.WellFormed
import OutlineQuery.Proofs.Engine.Search
import OutlineQuery.Proofs.Expansion.Terms
import OutlineQuery.Proofs.Expansion.Widening
import OutlineQuery.Proofs.Group.Accounting
import OutlineQuery.Proofs.Group.Meaning
import OutlineQuery.Proofs.Group.Origin
import OutlineQuery.Proofs.Group.Shape
import OutlineQuery.Proofs.Hierarchy.Relation
import OutlineQuery.Proofs.Hierarchy.Spelling
import OutlineQuery.Proofs.Json.Numbers
import OutlineQuery.Proofs.Json.Presentation
import OutlineQuery.Proofs.Pattern.Acceptance
import OutlineQuery.Proofs.Pattern.Alternation
import OutlineQuery.Proofs.Pattern.Literal
import OutlineQuery.Proofs.Pattern.PageReference
import OutlineQuery.Proofs.Pattern.Phrases
import OutlineQuery.Proofs.Plan.Additions
import OutlineQuery.Proofs.Plan.Answer
import OutlineQuery.Proofs.Plan.Matching
import OutlineQuery.Proofs.Plan.Relate
import OutlineQuery.Proofs.Plan.Scoping
import OutlineQuery.Proofs.Plan.Select
import OutlineQuery.Proofs.Plan.Skeleton
import OutlineQuery.Proofs.Plan.Sources
import OutlineQuery.Proofs.Plan.Variables
import OutlineQuery.Proofs.Plan.Vocabulary
import OutlineQuery.Proofs.Plan.Within
import OutlineQuery.Proofs.Regex.Brackets
import OutlineQuery.Proofs.Regex.Continuation
import OutlineQuery.Proofs.Regex.Framing
import OutlineQuery.Proofs.Regex.GroupNames
import OutlineQuery.Proofs.Regex.Grouping
import OutlineQuery.Proofs.Regex.Matching
import OutlineQuery.Proofs.Regex.Moves
import OutlineQuery.Proofs.Regex.Phrase
import OutlineQuery.Proofs.Request.Acceptance
import OutlineQuery.Proofs.Request.Annotations
import OutlineQuery.Proofs.Request.Compilation
import OutlineQuery.Proofs.Request.Conservation
import OutlineQuery.Proofs.Request.Patterns
import OutlineQuery.Proofs.Request.Presentation
import OutlineQuery.Proofs.Request.Records
import OutlineQuery.Proofs.Request.RoundTrip
import OutlineQuery.Proofs.Scope.Brackets
import OutlineQuery.Proofs.Scope.Enclosing
import OutlineQuery.Proofs.Scope.Grounding
import OutlineQuery.Proofs.Scope.Identifiers
import OutlineQuery.Proofs.Scope.Insertion
import OutlineQuery.Proofs.Scope.Literals
import OutlineQuery.Proofs.Scope.Outcome
import OutlineQuery.Proofs.Scope.Places
import OutlineQuery.Proofs.Scope.QueryText
import OutlineQuery.Proofs.Scope.Restriction
import OutlineQuery.Proofs.Scope.Scanning
import OutlineQuery.Proofs.Scope.Vector
import OutlineQuery.Proofs.Text.CodePoints
import OutlineQuery.Regex.AsciiClass
import OutlineQuery.Regex.Atom
import OutlineQuery.Regex.Automaton
import OutlineQuery.Regex.Bracket
import OutlineQuery.Regex.CaseFolding
import OutlineQuery.Regex.Escape
import OutlineQuery.Regex.Mode
import OutlineQuery.Regex.Normal
import OutlineQuery.Regex.Property
import OutlineQuery.Regex.Reader
import OutlineQuery.Regex.Syntax
import OutlineQuery.Regex.Valid
import OutlineQuery.Request
import OutlineQuery.Request.Codec
import OutlineQuery.Request.Compilation
import OutlineQuery.Request.Resolution
import OutlineQuery.RequestSchema
import OutlineQuery.Scope
import OutlineQuery.Scope.QueryText
import OutlineQuery.Scope.Restriction
import OutlineQuery.Search
import OutlineQuery.Text.Alphanumeric
import OutlineQuery.Text.Blank
import OutlineQuery.Text.CodePoints
import OutlineQuery.Text.Lowercase
import OutlineQuery.Text.Name
import OutlineQuery.Text.StringSet
import OutlineQuery.Text.Utf8
import OutlineQuery.Unicode.Age
import OutlineQuery.Unicode.BinaryProperty
import OutlineQuery.Unicode.Category
import OutlineQuery.Unicode.CharacterSet
import OutlineQuery.Unicode.Script
import OutlineQuery.Unicode.Segmentation
