import CustomElement.Build.CommandLine
import CustomElement.Build.FileTree
import CustomElement.Build.Path
import CustomElement.Build.Plan
import CustomElement.Build.Run
import CustomElement.Component.Compile
import CustomElement.Component.Options
import CustomElement.Component.Parse
import CustomElement.Component.Parts
import CustomElement.Component.Property
import CustomElement.Component.Regions
import CustomElement.Component.Skeleton
import CustomElement.Component.Synthesis
import CustomElement.Diagnostic.Basic
import CustomElement.Diagnostic.Encode
import CustomElement.Emit.Document
import CustomElement.Emit.Precedence
import CustomElement.Emit.Printer
import CustomElement.Emit.Program
import CustomElement.Emit.Quoted
import CustomElement.Json.Basic
import CustomElement.Json.Fields
import CustomElement.Json.Reader
import CustomElement.Json.Text
import CustomElement.Main
import CustomElement.Markup.Body
import CustomElement.Markup.Builder
import CustomElement.Markup.ElementClass
import CustomElement.Markup.EntityTable
import CustomElement.Markup.Foreign
import CustomElement.Markup.Formatting
import CustomElement.Markup.Lexer
import CustomElement.Markup.Modes
import CustomElement.Markup.Node
import CustomElement.Markup.Parse
import CustomElement.Markup.Reference
import CustomElement.Markup.TagText
import CustomElement.Markup.Token
import CustomElement.Number.Double
import CustomElement.Number.Notation
import CustomElement.Number.Shortest
import CustomElement.Proofs.Component.Accessors
import CustomElement.Proofs.Component.ElementModule
import CustomElement.Proofs.Component.Hygiene
import CustomElement.Proofs.Component.Projection
import CustomElement.Proofs.Component.Stages
import CustomElement.Proofs.Json.ReadBack
import CustomElement.Proofs.Text.CamelCase
import CustomElement.Proofs.Tree.Numbers
import CustomElement.Proofs.Tree.Scope
import CustomElement.Script.Arrow
import CustomElement.Script.Classes
import CustomElement.Script.Context
import CustomElement.Script.Cursor
import CustomElement.Script.Declarations
import CustomElement.Script.Escape
import CustomElement.Script.Expression
import CustomElement.Script.Functions
import CustomElement.Script.Gap
import CustomElement.Script.Lowering
import CustomElement.Script.Modifiers
import CustomElement.Script.Modules
import CustomElement.Script.NumberText
import CustomElement.Script.Objects
import CustomElement.Script.Parse
import CustomElement.Script.QuotedText
import CustomElement.Script.Scan
import CustomElement.Script.Statement
import CustomElement.Script.Syntax
import CustomElement.Script.Target
import CustomElement.Script.Token
import CustomElement.Script.TypeMembers
import CustomElement.Script.Types
import CustomElement.Script.Word
import CustomElement.Template.Braces
import CustomElement.Template.Elements
import CustomElement.Template.Parse
import CustomElement.Template.Placeholder
import CustomElement.Text.CamelCase
import CustomElement.Text.CharClass
import CustomElement.Text.IdentifierRanges
import CustomElement.Text.Ranges
import CustomElement.Text.UpperCase
import CustomElement.Text.UpperCaseTable
import CustomElement.Text.WordRanges
import CustomElement.Tree.Basic
import CustomElement.Tree.Build
import CustomElement.Tree.Decode
import CustomElement.Tree.DecodeProgram
import CustomElement.Tree.Encode
import CustomElement.Tree.Operator
import CustomElement.Proofs.Tree.Rounds
import CustomElement.Proofs.Tree.Codec
import CustomElement.Proofs.Number.Digits
import CustomElement.Proofs.Number.Positional
import CustomElement.Proofs.Script.NumberText
import CustomElement.Proofs.Grammar.Lexeme
import CustomElement.Proofs.Grammar.Expression
import CustomElement.Proofs.Grammar.Reader
import CustomElement.Proofs.Grammar.Unambiguous
import CustomElement.Proofs.Emit.Spelling
import CustomElement.Proofs.Emit.OperatorTree
import CustomElement.Proofs.Build.Path
import CustomElement.Proofs.Build.Locate
import CustomElement.Proofs.Build.Plan
import CustomElement.Proofs.Build.Discover
import CustomElement.Proofs.Build.Order
import CustomElement.Proofs.Component.Influence
import CustomElement.Proofs.Component.Reports
import CustomElement.Proofs.Emit.Printable
import CustomElement.Proofs.Script.Fit
import CustomElement.Proofs.Script.FitExpressions
import CustomElement.Proofs.Script.FitStatements
import CustomElement.Proofs.Component.Printing
import CustomElement.Proofs.Template.Substitution
import CustomElement.Proofs.Script.TemplateText
import CustomElement.Proofs.Script.Leads
import CustomElement.Proofs.Script.TextPlaces
import CustomElement.Proofs.Script.LeadsExpressions
import CustomElement.Proofs.Script.ChainText
import CustomElement.Proofs.Script.ChainArrow
import CustomElement.Proofs.Script.ChainReading
import CustomElement.Proofs.Emit.Chains
import CustomElement.Proofs.Emit.Laid
import CustomElement.Proofs.Emit.LaidTrees
import CustomElement.Proofs.Emit.LayoutOptions
import CustomElement.Proofs.Emit.Positions
import CustomElement.Proofs.Grammar.StringLiteral
import CustomElement.Proofs.Markup.Reference
import CustomElement.Proofs.Markup.Paragraph
import CustomElement.Proofs.Template.Pieces
import CustomElement.Proofs.Template.Paragraph
import CustomElement.Proofs.Template.Nesting
import CustomElement.Proofs.Component.Regions
import CustomElement.Proofs.Component.Clashes
import CustomElement.Proofs.Component.Extraction
import CustomElement.Proofs.Template.Offsets
import CustomElement.Proofs.Template.Normalized
import CustomElement.Proofs.Script.Wrappers
import CustomElement.Proofs.Json.Additions
import CustomElement.Proofs.Tree.SourcePositions
import CustomElement.Proofs.Text.CamelNormalForm
import CustomElement.Proofs.Emit.ControlModules
