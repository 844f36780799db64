import CustomElement.Emit.Quoted

/-!
# Printed documents

A program is printed in two steps. The first lays it out as a document: pieces of text, string
literals, line breaks, and the places where a semicolon may stand. The second renders the document
under the layout options. The options choose quotes, indentation and semicolons, and nothing else.
-/

namespace CustomElement.Emit

/-- The layout options of the emitter. -/
structure Options where
  /-- String literals are quoted with `'` rather than `"`. -/
  singleQuote : Bool := true
  /-- Statements end with a semicolon. -/
  semicolons : Bool := false
  /-- The number of spaces for each level of indentation. -/
  indent : Nat := 2
deriving DecidableEq, Repr

/-- A piece of a document. -/
inductive Piece where
  /-- Text that is written as it is. -/
  | text (s : String)
  /-- A string literal. -/
  | string (value : String)
  /-- A line break, followed by the indentation of a level. -/
  | line (level : Nat)
  /-- The end of a statement, where a semicolon stands if statements have one. -/
  | stop
  /-- The start of a statement that would continue the previous line, where a semicolon stands if
  statements have none. -/
  | guard
deriving DecidableEq, Repr

/-- A sequence of pieces. -/
abbrev Doc := List Piece

/-- The characters of a piece. -/
def Piece.render (o : Options) : Piece → List Char
  | text s => s.toList
  | string value => quoted (if o.singleQuote then '\'' else '"') value.toList
  | line level => '\n' :: List.replicate (level * o.indent) ' '
  | stop => if o.semicolons then [';'] else []
  | guard => if o.semicolons then [] else [';']

/-- The characters of a document. -/
def Doc.render (o : Options) (d : Doc) : List Char :=
  d.flatMap (·.render o)

/-- The characters of a document under the default options. How a document starts, up to its first
string, line break or semicolon, does not depend on the options. -/
def Doc.chars (d : Doc) : List Char :=
  d.render {}

/-- A document of one piece of text. -/
def word (s : String) : Doc :=
  [.text s]

/-- A document between parentheses. -/
def parens (d : Doc) : Doc :=
  word "(" ++ d ++ word ")"

/-- Documents with commas between them. -/
def commaSeparated : List Doc → Doc
  | [] => []
  | [d] => d
  | d :: rest => d ++ word ", " ++ commaSeparated rest

end CustomElement.Emit
