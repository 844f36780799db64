import CustomElement.Emit.Document
import CustomElement.Tree.Basic
import CustomElement.Text.CharClass

/-!
# Precedence and parentheses

Parentheses are not part of a tree. They are put around an expression that binds less tightly than
its place asks for, and around text that would be read as something else where it starts.
-/

namespace CustomElement.Emit

open CustomElement.Tree

namespace Precedence

/-- How tightly the forms of expressions bind, from comma lists to single tokens. -/
def sequence : Nat := 1
def assignment : Nat := 2
def conditional : Nat := 3
def coalesce : Nat := 4
def logicalOr : Nat := 4
def logicalAnd : Nat := 5
def bitOr : Nat := 6
def bitXor : Nat := 7
def bitAnd : Nat := 8
def equality : Nat := 9
def relational : Nat := 10
def shift : Nat := 11
def additive : Nat := 12
def multiplicative : Nat := 13
def power : Nat := 14
def unary : Nat := 15
def update : Nat := 16
def call : Nat := 17
def member : Nat := 18
def primary : Nat := 19

end Precedence

/-- How tightly a binary operator binds. -/
def binaryPrecedence : BinaryOp → Nat
  | .bitOr => Precedence.bitOr
  | .bitXor => Precedence.bitXor
  | .bitAnd => Precedence.bitAnd
  | .equal | .notEqual | .strictEqual | .strictNotEqual => Precedence.equality
  | .lessThan | .lessEqual | .greaterThan | .greaterEqual | .inside | .instanceof =>
    Precedence.relational
  | .shiftLeft | .shiftRight | .shiftRightUnsigned => Precedence.shift
  | .add | .subtract => Precedence.additive
  | .multiply | .divide | .remainder => Precedence.multiplicative
  | .power => Precedence.power

/-- How tightly a logical operator binds. -/
def logicalPrecedence : LogicalOp → Nat
  | .coalesce => Precedence.coalesce
  | .or => Precedence.logicalOr
  | .and => Precedence.logicalAnd

/-- How tightly an expression binds. A negative number is written with a sign in front. -/
def precedence : Expr → Nat
  | .sequence _ => Precedence.sequence
  | .assign .. | .arrow .. | .arrowBlock .. | .yield .. | .spread _ => Precedence.assignment
  | .conditional .. => Precedence.conditional
  | .logical op _ _ => logicalPrecedence op
  | .binary op _ _ => binaryPrecedence op
  | .unary .. | .await _ => Precedence.unary
  | .update _ before _ => if before then Precedence.unary else Precedence.update
  | .call .. | .new .. | .chain _ | .importCall _ => Precedence.call
  | .member .. | .tagged .. => Precedence.member
  | .literal { value := .number x, .. } =>
    if x.negative then Precedence.unary else Precedence.primary
  | _ => Precedence.primary

/-- Whether a call stands in the chain of a callee; a `new` in front would take its arguments. -/
def hasCall : Expr → Bool
  | .call .. | .chain _ => true
  | .member object _ _ _ => hasCall object
  | .tagged tag _ _ => hasCall tag
  | _ => false

/-- Whether an expression is an `in` comparison. -/
def isIn : Expr → Bool
  | .binary .inside _ _ => true
  | _ => false

/-- An expression's document in a place that asks for `least` precedence. With `noIn` set, in the
head of a `for` loop, an `in` comparison is always parenthesized. -/
def enclose (noIn : Bool) (least : Nat) (e : Expr) (d : Doc) : Doc :=
  if (noIn && isIn e) || precedence e < least then parens d else d

/-- An expression's document as callee, tag, superclass or object of a member access. An optional
chain is closed off there, so that it does not extend over what follows. -/
def encloseCallee (noIn : Bool) (e : Expr) (d : Doc) : Doc :=
  match e with
  | .chain _ => parens d
  | _ => enclose noIn Precedence.call e d

/-- Whether text starts with a keyword that ends there. -/
def startsWithKeyword (keyword text : List Char) : Bool :=
  keyword.isPrefixOf text &&
    match text.drop keyword.length with
    | [] => true
    | c :: _ => !(Text.isAlphanumeric c || c == '_' || c == '$')

/-- Whether text at the start of a statement would not be read as an expression. -/
def isAmbiguousStart (text : List Char) : Bool :=
  "\x7b".toList.isPrefixOf text || startsWithKeyword "function".toList text ||
    startsWithKeyword "class".toList text || "async function".toList.isPrefixOf text ||
    "let[".toList.isPrefixOf text

/-- Whether text at the start of a line would be read on from the line before. -/
def continuesLine (text : List Char) : Bool :=
  match text with
  | [] => false
  | c :: _ => ['(', '[', '`', '+', '-', '/'].contains c

/-- Whether a key, written without brackets, would be read as a modifier of the next member. -/
def isModifierKey (key : Expr) (computed : Bool) : Bool :=
  match key with
  | .identifier name => !computed && (name == "get" || name == "set" || name == "static")
  | _ => false

/-- Whether a key would be read on from the expression before it. -/
def continuesField (key : Expr) (computed : Bool) : Bool :=
  computed ||
    match key with
    | .identifier name => name == "in" || name == "instanceof"
    | _ => false

/-- Whether a class field has to be closed with a semicolon, whatever the options: its name alone
reads as a modifier, or the next member would be read as part of it. -/
def fieldNeedsStop (key : Expr) (value : Option Expr) (computed isStatic : Bool)
    (next : Option ClassMember) : Bool :=
  (value.isNone && !isStatic && isModifierKey key computed) ||
    match next with
    | some (.method key f kind computed isStatic) =>
      !isStatic && (f.generator || (kind == .method && !f.async && continuesField key computed))
    | some (.field key _ computed isStatic) => !isStatic && continuesField key computed
    | _ => false

end CustomElement.Emit
