import CustomElement.Markup.Parse
import CustomElement.Script.Parse
import CustomElement.Template.Elements

/-!
# Parsing templates

The elements of a template text. Its bindings are read first, in order, and then its markup.
-/

namespace CustomElement.Template

open CustomElement.Text

/-- The report on a template that uses the words reserved for placeholders. -/
def reservedWord : Diagnostic :=
  (Diagnostic.ofKind .templateSyntax
    ("`" ++ placeholderStart ++ "` is reserved for binding placeholders")).withContext
      placeholderStart

/-- The report on a binding that is no expression, from the report on its source. -/
def invalidBinding (source : List Char) (cause : Diagnostic) : Diagnostic :=
  let code := String.ofList (trim source)
  { (Diagnostic.ofKind .templateSyntax
      ("Invalid binding expression `\x7b" ++ code ++ "\x7d`")).withContext code with
    hints := cause.hints }

/-- The expression of a binding. Reports on what components do not support are passed on. -/
def parseBinding (source : List Char) : Except Diagnostic Tree.Expr :=
  match Script.parseExpression source with
  | .ok e => .ok e
  | .error cause =>
    if cause.kind == .scriptSyntax then .error (invalidBinding source cause) else .error cause

/-- Whether a text holds another one. -/
def holds (word : List Char) : List Char → Bool
  | [] => word.isEmpty
  | c :: rest => word.isPrefixOf (c :: rest) || holds word rest

/-- The elements of pieces of a template text with the expressions of its bindings. -/
def elements (pieces : List Segment) (bindings : List Tree.Expr) : List Tree.Element :=
  topElementsOfAll bindings (Markup.parse (withPlaceholders 0 pieces))

/-- The elements of a template text. -/
def parse (text : List Char) : Except Diagnostic (List Tree.Element) :=
  if (trim text).isEmpty then .ok []
  else if holds placeholderStart.toList text then .error reservedWord
  else
    let pieces := segments text
    match (sources pieces).mapM parseBinding with
    | .ok bindings => .ok (elements pieces bindings)
    | .error d => .error d

end CustomElement.Template
