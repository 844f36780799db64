import CustomElement.Script.Lowering
import CustomElement.Script.Statement

/-!
# Parsing scripts

The rounds of readers, and with them the trees of a module and of a single expression. A text is
refused if its readers fail, if a fault was noted, or if a name with a default stands outside of a
pattern.
-/

namespace CustomElement.Script

open CustomElement.Text

/-- The readers of the next round. -/
def Readers.next (r : Readers) : Readers where
  limit := r.limit
  assign := Reader.assignExpression r
  binary := Reader.binaryExpression r
  unary := Reader.unaryExpression r
  chain := Reader.callChain r
  access := Reader.accessChain r
  binding := Reader.bindingPattern r
  statement := Reader.statementOf r
  type := Reader.typeOf r
  operandType := Reader.operandTypeOf r

/-- The readers after so many rounds. -/
def readers (limit : Nat) : Nat → Readers
  | 0 => Readers.none limit
  | rounds + 1 => (readers limit rounds).next

/-- Readers for a text. -/
def readersFor (text : List Char) : Readers :=
  readers (text.length + 1) (text.length + 4)

/-- The report on a script that is not well formed. -/
def malformed : Diagnostic :=
  .ofKind .scriptSyntax "Failed to parse script"

/-- What a reader gives for a text, and the text after it; none if the text is refused. -/
def accepted {α : Type} (place : GapPlace) (text : List Char) (r : Reader α) :
    Option (α × List Char) := do
  let (a, c) ← r (Cursor.start place text)
  if c.faulty || c.pending > 0 then none else some (a, c.behind)

/-- The trees of lowered parts, or a report on what has none. -/
def reported {α : Type} (l : Lowered α) : Except Diagnostic α :=
  l.mapError Unsupported.diagnostic

/-- Where the gap in front of a module starts: in a comment if its first line is one for the shell. -/
def modulePlace (text : List Char) : GapPlace :=
  if "#!".toList.isPrefixOf text then .lineComment else .blank

/-- The items of a module. -/
def parseModule (text : List Char) : Except Diagnostic (List Tree.Item) :=
  let items := Reader.moduleItems (readersFor text) .module (text.length + 1)
  match accepted (modulePlace text) text items with
  | some (items, _) => reported (lowerItems items)
  | none => throw malformed

/-- The report on text after an expression. -/
def leftover (text rest : List Char) : Diagnostic :=
  (Diagnostic.ofKind .scriptSyntax
    ("Unexpected `" ++ String.ofList (trim rest) ++ "` after expression")).withContext
      (String.ofList (trim text))

/-- The tree of an expression that is the whole text. -/
def parseExpression (text : List Char) : Except Diagnostic Tree.Expr :=
  match accepted .blank text (Reader.expression (readersFor text) .module) with
  | some (e, rest) =>
    if (trim rest).isEmpty then reported e.lower else throw (leftover text rest)
  | none => throw malformed

end CustomElement.Script
