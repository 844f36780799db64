import CustomElement.Proofs.Grammar.Lexeme
import CustomElement.Script.Context

/-!
# The grammar of expressions

The context-free grammar of expressions, down to accesses, calls, names, literals and parentheses,
with the tree of every production. `Derives goal allowIn ts e` says that lexemes are derived from a
nonterminal with tree `e`; without `allowIn`, in the head of a loop, `in` is no operator. An `await`
is always an operator. Operands that begin or end with other tokens (functions, classes, object and
array literals, templates, regular expressions, `new`, optional chains) have no production.

The operators that group from the left are one production over a table of levels. Nothing here
refers to how expressions are printed.
-/

namespace CustomElement.Grammar

open CustomElement.Text CustomElement.Tree
open CustomElement.Script (Token isNameWord)

/-! ## Operators -/

/-- The token of an operator: a keyword or a punctuator. -/
def operatorToken (symbol : String) : Token :=
  if isIdentifierName symbol.toList then .word symbol false else .punct symbol

/-- The classes of operators that group from the left. -/
inductive Level where
  | coalesce
  | logicalOr
  | logicalAnd
  | bitOr
  | bitXor
  | bitAnd
  | equality
  | relational
  | shift
  | additive
  | multiplicative
deriving DecidableEq, Repr

/-- An operator between two operands. -/
inductive Connective where
  | binary (op : BinaryOp)
  | logical (op : LogicalOp)
deriving DecidableEq, Repr

namespace Connective

/-- The token of an operator. -/
def token : Connective → Token
  | binary op => operatorToken op.symbol
  | logical op => operatorToken op.symbol

/-- The tree of an operator and its operands. -/
def apply : Connective → Expr → Expr → Expr
  | binary op => .binary op
  | logical op => .logical op

/-- The class of an operator; the power groups from the right and has none. -/
def level : Connective → Option Level
  | logical .coalesce => some .coalesce
  | logical .or => some .logicalOr
  | logical .and => some .logicalAnd
  | binary .bitOr => some .bitOr
  | binary .bitXor => some .bitXor
  | binary .bitAnd => some .bitAnd
  | binary .equal | binary .notEqual | binary .strictEqual | binary .strictNotEqual =>
    some .equality
  | binary .lessThan | binary .lessEqual | binary .greaterThan | binary .greaterEqual
  | binary .inside | binary .instanceof => some .relational
  | binary .shiftLeft | binary .shiftRight | binary .shiftRightUnsigned => some .shift
  | binary .add | binary .subtract => some .additive
  | binary .multiply | binary .divide | binary .remainder => some .multiplicative
  | binary .power => none

end Connective

/-! ## Nonterminals -/

/-- The nonterminals. -/
inductive Goal where
  | expression
  | assignment
  | conditional
  | shortCircuit
  | level (l : Level)
  | exponent
  | unary
  | update
  | leftHandSide
  | primary
deriving DecidableEq, Repr

/-- The nonterminal of the right operand of an operator. -/
def Level.operand : Level → Goal
  | coalesce => .level bitOr
  | logicalOr => .level logicalAnd
  | logicalAnd => .level bitOr
  | bitOr => .level bitXor
  | bitXor => .level bitAnd
  | bitAnd => .level equality
  | equality => .level relational
  | relational => .level shift
  | shift => .level additive
  | additive => .level multiplicative
  | multiplicative => .exponent

/-- The nonterminals that are a production of a nonterminal by themselves. A chain of `??` starts with
an operand of its own, so it does not mix with the other logical operators. -/
def Goal.units : Goal → List Goal
  | expression => [assignment]
  | assignment => [conditional]
  | conditional => [shortCircuit]
  | shortCircuit => [level .logicalOr, level .coalesce]
  | level l => [l.operand]
  | exponent => [unary]
  | unary => [update]
  | update => [leftHandSide]
  | leftHandSide => [primary]
  | primary => []

/-- The nonterminals that so many unit productions lead to. -/
def Goal.closure : Nat → Goal → List Goal
  | 0, g => [g]
  | n + 1, g => g :: g.units.flatMap (closure n)

/-- Unit productions lead from `g` to `h`; eighteen of them lead from one end to the other. -/
def Within (h g : Goal) : Prop :=
  h ∈ g.closure 18

instance (h g : Goal) : Decidable (Within h g) :=
  inferInstanceAs (Decidable (h ∈ g.closure 18))

/-! ## Productions -/

/-- Whether a word is a name where `await` is an operator. -/
def isReference (name : String) : Bool :=
  isNameWord name && name != "await"

/-- The tree of a name or literal. -/
def atom? : Token → Option Expr
  | .word name escaped =>
    if isReference name then some (.identifier name)
    else if escaped then none
    else
      match name with
      | "this" => some .thisRef
      | "null" => some (.literal { value := .null })
      | "true" => some (.literal { value := .boolean true })
      | "false" => some (.literal { value := .boolean false })
      | _ => none
  | .number x => some (.literal { value := .number x })
  | .bigint digits => some (.literal { value := .null, bigint := some digits })
  | .string value _ => some (.literal { value := .string value })
  | _ => none

/-- What is stored into by an assignment to an expression, if it is a name or an access. -/
def target? : Expr → Option Pattern
  | .identifier name => some (.identifier name)
  | .member object property computed false => some (.member object property computed false)
  | _ => none

/-- An item of a list after its first one, and whether a line ends in front of its comma. -/
structure ListItem where
  newline : Bool
  lexemes : List Lexeme
  tree : Expr

/-- The lexemes of the items after the first one, with their commas. -/
def itemLexemes (items : List ListItem) : List Lexeme :=
  items.flatMap fun item => ⟨.punct ",", item.newline⟩ :: item.lexemes

/-- The lexemes are derived from the nonterminal, with that tree. -/
inductive Derives : Goal → Bool → List Lexeme → Expr → Prop
  | unit {g h : Goal} {allowIn : Bool} {ts : List Lexeme} {e : Expr} (hunit : h ∈ g.units)
      (he : Derives h allowIn ts e) : Derives g allowIn ts e
  | sequence {allowIn : Bool} {ts : List Lexeme} {e : Expr} {items : List ListItem}
      (he : Derives .assignment allowIn ts e) (hne : items ≠ [])
      (hitems : ∀ item ∈ items, Derives .assignment allowIn item.lexemes item.tree) :
      Derives .expression allowIn (ts ++ itemLexemes items) (.sequence (e :: items.map ListItem.tree))
  | assign {allowIn newline : Bool} {ls rs : List Lexeme} {l r : Expr} {p : Pattern} (op : AssignOp)
      (hl : Derives .leftHandSide allowIn ls l) (hp : target? l = some p)
      (hr : Derives .assignment allowIn rs r) :
      Derives .assignment allowIn (ls ++ ⟨operatorToken op.symbol, newline⟩ :: rs) (.assign op p r)
  | conditional {allowIn newline newline' : Bool} {ts cs as : List Lexeme} {t c a : Expr}
      (ht : Derives .shortCircuit allowIn ts t) (hc : Derives .assignment true cs c)
      (ha : Derives .assignment allowIn as a) :
      Derives .conditional allowIn
        (ts ++ ⟨.punct "?", newline⟩ :: (cs ++ ⟨.punct ":", newline'⟩ :: as)) (.conditional t c a)
  | connect {allowIn newline : Bool} {ls rs : List Lexeme} {l r : Expr} {level : Level}
      (op : Connective) (hlevel : op.level = some level)
      (hin : op = .binary .inside → allowIn = true) (hl : Derives (.level level) allowIn ls l)
      (hr : Derives level.operand allowIn rs r) :
      Derives (.level level) allowIn (ls ++ ⟨op.token, newline⟩ :: rs) (op.apply l r)
  | power {allowIn newline : Bool} {ls rs : List Lexeme} {l r : Expr}
      (hl : Derives .update allowIn ls l) (hr : Derives .exponent allowIn rs r) :
      Derives .exponent allowIn (ls ++ ⟨.punct "**", newline⟩ :: rs) (.binary .power l r)
  | unary {allowIn newline : Bool} {ts : List Lexeme} {e : Expr} (op : UnaryOp)
      (he : Derives .unary allowIn ts e) :
      Derives .unary allowIn (⟨operatorToken op.symbol, newline⟩ :: ts) (.unary op true e)
  | await {allowIn newline : Bool} {ts : List Lexeme} {e : Expr} (he : Derives .unary allowIn ts e) :
      Derives .unary allowIn (⟨.word "await" false, newline⟩ :: ts) (.await e)
  | stepBefore {allowIn newline : Bool} {ts : List Lexeme} {e : Expr} (op : UpdateOp)
      (he : Derives .unary allowIn ts e) (hp : (target? e).isSome = true) :
      Derives .update allowIn (⟨operatorToken op.symbol, newline⟩ :: ts) (.update op true e)
  -- A line must not end in front of an operator that follows its operand.
  | stepAfter {allowIn : Bool} {ts : List Lexeme} {e : Expr} (op : UpdateOp)
      (he : Derives .leftHandSide allowIn ts e) (hp : (target? e).isSome = true) :
      Derives .update allowIn (ts ++ [⟨operatorToken op.symbol, false⟩]) (.update op false e)
  | property {allowIn newline newline' escaped : Bool} {ts : List Lexeme} {e : Expr} (name : String)
      (he : Derives .leftHandSide allowIn ts e) :
      Derives .leftHandSide allowIn (ts ++ [⟨.punct ".", newline⟩, ⟨.word name escaped, newline'⟩])
        (.member e (.identifier name) false false)
  | privateProperty {allowIn newline newline' : Bool} {ts : List Lexeme} {e : Expr} (name : String)
      (he : Derives .leftHandSide allowIn ts e) :
      Derives .leftHandSide allowIn (ts ++ [⟨.punct ".", newline⟩, ⟨.privateName name, newline'⟩])
        (.member e (.privateName name) false false)
  | index {allowIn newline newline' : Bool} {ts us : List Lexeme} {e p : Expr}
      (he : Derives .leftHandSide allowIn ts e) (hp : Derives .expression true us p) :
      Derives .leftHandSide allowIn (ts ++ ⟨.punct "[", newline⟩ :: (us ++ [⟨.punct "]", newline'⟩]))
        (.member e p true false)
  | callEmpty {allowIn newline newline' : Bool} {ts : List Lexeme} {e : Expr}
      (he : Derives .leftHandSide allowIn ts e) :
      Derives .leftHandSide allowIn (ts ++ [⟨.punct "(", newline⟩, ⟨.punct ")", newline'⟩])
        (.call e [] false)
  | call {allowIn newline newline' : Bool} {ts us : List Lexeme} {e a : Expr} {items : List ListItem}
      (he : Derives .leftHandSide allowIn ts e) (ha : Derives .assignment true us a)
      (hitems : ∀ item ∈ items, Derives .assignment true item.lexemes item.tree) :
      Derives .leftHandSide allowIn
        (ts ++ ⟨.punct "(", newline⟩ :: (us ++ itemLexemes items ++ [⟨.punct ")", newline'⟩]))
        (.call e (a :: items.map ListItem.tree) false)
  | atom {allowIn newline : Bool} {t : Token} {e : Expr} (h : atom? t = some e) :
      Derives .primary allowIn [⟨t, newline⟩] e
  | parenthesized {allowIn newline newline' : Bool} {ts : List Lexeme} {e : Expr}
      (he : Derives .expression true ts e) :
      Derives .primary allowIn (⟨.punct "(", newline⟩ :: (ts ++ [⟨.punct ")", newline'⟩])) e

theorem Derives.of_closure {n : Nat} {g h : Goal} {allowIn : Bool} {ts : List Lexeme} {e : Expr}
    (hmem : h ∈ g.closure n) (he : Derives h allowIn ts e) : Derives g allowIn ts e := by
  induction n generalizing g with
  | zero =>
    obtain rfl := List.mem_singleton.1 hmem
    exact he
  | succ n ih =>
    rcases List.mem_cons.1 hmem with rfl | hmem
    · exact he
    · obtain ⟨k, hk, hmem⟩ := List.mem_flatMap.1 hmem
      exact .unit hk (ih hmem)

/-- A derivation from a nonterminal is one from every looser nonterminal. -/
theorem Derives.within {g h : Goal} {allowIn : Bool} {ts : List Lexeme} {e : Expr}
    (he : Derives h allowIn ts e) (hwithin : Within h g) : Derives g allowIn ts e :=
  .of_closure hwithin he

/-- A text reads as an expression. -/
def ReadsAs (allowIn : Bool) (text : List Char) (e : Expr) : Prop :=
  ∃ ts, Lexes text ts ∧ Derives .expression allowIn ts e

end CustomElement.Grammar
