/-!
# Operators

The operator tables of expressions. Each table has a symbol for every operator and finds the
operator of a symbol.
-/

namespace CustomElement.Tree

/-- Operators in front of one operand. -/
inductive UnaryOp where
  | minus
  | plus
  | not
  | bitNot
  | typeof
  | void
  | delete
deriving DecidableEq, Repr

/-- Operators that step a variable. -/
inductive UpdateOp where
  | increment
  | decrement
deriving DecidableEq, Repr

/-- Operators between two operands that are both evaluated. -/
inductive BinaryOp where
  | equal
  | notEqual
  | strictEqual
  | strictNotEqual
  | lessThan
  | lessEqual
  | greaterThan
  | greaterEqual
  | shiftLeft
  | shiftRight
  | shiftRightUnsigned
  | add
  | subtract
  | multiply
  | divide
  | remainder
  | bitOr
  | bitXor
  | bitAnd
  | inside
  | instanceof
  | power
deriving DecidableEq, Repr

/-- Operators that may leave their second operand alone. -/
inductive LogicalOp where
  | or
  | and
  | coalesce
deriving DecidableEq, Repr

/-- Operators that store into a target. -/
inductive AssignOp where
  | assign
  | add
  | subtract
  | multiply
  | divide
  | remainder
  | shiftLeft
  | shiftRight
  | shiftRightUnsigned
  | bitOr
  | bitXor
  | bitAnd
  | power
  | or
  | and
  | coalesce
deriving DecidableEq, Repr

namespace UnaryOp

/-- The operator as it is written. -/
def symbol : UnaryOp → String
  | minus => "-"
  | plus => "+"
  | not => "!"
  | bitNot => "~"
  | typeof => "typeof"
  | void => "void"
  | delete => "delete"

/-- All operators of the table. -/
def all : List UnaryOp :=
  [minus, plus, not, bitNot, typeof, void, delete]

/-- The operator that is written as the symbol. -/
def ofSymbol? (s : String) : Option UnaryOp :=
  all.find? (·.symbol == s)

end UnaryOp

namespace UpdateOp

/-- The operator as it is written. -/
def symbol : UpdateOp → String
  | increment => "++"
  | decrement => "--"

/-- All operators of the table. -/
def all : List UpdateOp :=
  [increment, decrement]

/-- The operator that is written as the symbol. -/
def ofSymbol? (s : String) : Option UpdateOp :=
  all.find? (·.symbol == s)

end UpdateOp

namespace BinaryOp

/-- The operator as it is written. -/
def symbol : BinaryOp → String
  | equal => "=="
  | notEqual => "!="
  | strictEqual => "==="
  | strictNotEqual => "!=="
  | lessThan => "<"
  | lessEqual => "<="
  | greaterThan => ">"
  | greaterEqual => ">="
  | shiftLeft => "<<"
  | shiftRight => ">>"
  | shiftRightUnsigned => ">>>"
  | add => "+"
  | subtract => "-"
  | multiply => "*"
  | divide => "/"
  | remainder => "%"
  | bitOr => "|"
  | bitXor => "^"
  | bitAnd => "&"
  | inside => "in"
  | instanceof => "instanceof"
  | power => "**"

/-- All operators of the table. -/
def all : List BinaryOp :=
  [equal, notEqual, strictEqual, strictNotEqual, lessThan, lessEqual, greaterThan, greaterEqual,
    shiftLeft, shiftRight, shiftRightUnsigned, add, subtract, multiply, divide, remainder, bitOr,
    bitXor, bitAnd, inside, instanceof, power]

/-- The operator that is written as the symbol. -/
def ofSymbol? (s : String) : Option BinaryOp :=
  all.find? (·.symbol == s)

end BinaryOp

namespace LogicalOp

/-- The operator as it is written. -/
def symbol : LogicalOp → String
  | or => "||"
  | and => "&&"
  | coalesce => "??"

/-- All operators of the table. -/
def all : List LogicalOp :=
  [or, and, coalesce]

/-- The operator that is written as the symbol. -/
def ofSymbol? (s : String) : Option LogicalOp :=
  all.find? (·.symbol == s)

end LogicalOp

namespace AssignOp

/-- The operator as it is written. -/
def symbol : AssignOp → String
  | assign => "="
  | add => "+="
  | subtract => "-="
  | multiply => "*="
  | divide => "/="
  | remainder => "%="
  | shiftLeft => "<<="
  | shiftRight => ">>="
  | shiftRightUnsigned => ">>>="
  | bitOr => "|="
  | bitXor => "^="
  | bitAnd => "&="
  | power => "**="
  | or => "||="
  | and => "&&="
  | coalesce => "??="

/-- All operators of the table. -/
def all : List AssignOp :=
  [assign, add, subtract, multiply, divide, remainder, shiftLeft, shiftRight, shiftRightUnsigned,
    bitOr, bitXor, bitAnd, power, or, and, coalesce]

/-- The operator that is written as the symbol. -/
def ofSymbol? (s : String) : Option AssignOp :=
  all.find? (·.symbol == s)

end AssignOp

end CustomElement.Tree
