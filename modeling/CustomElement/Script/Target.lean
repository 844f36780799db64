import CustomElement.Script.Functions

/-!
# Targets

What can be assigned to. Assignment patterns are first read as objects and arrays; an assignment then
requires that they make sense as patterns.

A name with a default, as in `{ a = 1 }`, makes sense in a pattern only. Each one that is read is
counted, each one that turns out to stand in a pattern is counted off, and a script in which some are
left is refused.
-/

namespace CustomElement.Script

/-- Whether the expression is a name or a member, inside of any wrappers. -/
def Expr.isNameOrMember : Expr → Bool
  | .identifier _ => true
  | .member .. => true
  | .wrapped _ e => e.isNameOrMember
  | _ => false

/-- Whether the expression is a name or a member, inside of parentheses and type assertions maybe. -/
def Expr.isSimpleTarget : Expr → Bool
  | .identifier _ => true
  | .member .. => true
  | .wrapped .parens e => e.isSimpleTarget
  | .wrapped .instantiation _ => false
  | .wrapped _ e => e.isNameOrMember
  | _ => false

mutual
/-- Whether the expression can be assigned to, as a name, a member or a pattern. -/
def Expr.isTarget : Expr → Bool
  | .identifier _ => true
  | .member .. => true
  | .array elements trailingComma =>
    areTargetElements elements && !Reader.misplacedSpread elements trailingComma
  | .object members trailingComma =>
    areTargetMembers members && !Reader.misplacedRest members trailingComma
  | .wrapped wrapper e => (Expr.wrapped wrapper e).isSimpleTarget
  | _ => false

/-- Whether the expression is a target with a default maybe, or the rest of an array. -/
def Expr.isTargetElement : Expr → Bool
  | .assign .assign _ _ => true
  | .spread e => e.isTarget
  | .identifier _ => true
  | .member .. => true
  | .array elements trailingComma =>
    areTargetElements elements && !Reader.misplacedSpread elements trailingComma
  | .object members trailingComma =>
    areTargetMembers members && !Reader.misplacedRest members trailingComma
  | .wrapped wrapper e => (Expr.wrapped wrapper e).isSimpleTarget
  | _ => false

/-- Whether an element of an array may stand in a pattern. -/
def isTargetOption : Option Expr → Bool
  | none => true
  | some e => e.isTargetElement

/-- Whether the elements of an array may stand in a pattern. -/
def areTargetElements : List (Option Expr) → Bool
  | [] => true
  | e :: rest => isTargetOption e && areTargetElements rest

/-- Whether a member of an object may stand in a pattern. -/
def Member.isTarget : Member → Bool
  | .property _ value kind method _ _ => kind == .init && !method && value.isTargetElement
  | .defaulted .. => true
  | .spread e => e.isSimpleTarget

/-- Whether the members of an object may stand in a pattern. -/
def areTargetMembers : List Member → Bool
  | [] => true
  | m :: rest => m.isTarget && areTargetMembers rest
end

mutual
/-- The number of names with defaults in the objects of a pattern. The patterns of assignments inside
of it have been counted off before. -/
def Expr.defaults : Expr → Nat
  | .array elements _ => elementDefaults elements
  | .object members _ => memberDefaults members
  | .spread e => e.defaults
  | _ => 0

/-- The number of names with defaults in an element. -/
def optionDefaults : Option Expr → Nat
  | none => 0
  | some e => e.defaults

/-- The number of names with defaults in elements. -/
def elementDefaults : List (Option Expr) → Nat
  | [] => 0
  | e :: rest => optionDefaults e + elementDefaults rest

/-- The number of names with defaults in a member. -/
def Member.defaults : Member → Nat
  | .property _ value _ _ _ _ => value.defaults
  | .defaulted .. => 1
  | .spread _ => 0

/-- The number of names with defaults in members. -/
def memberDefaults : List Member → Nat
  | [] => 0
  | m :: rest => m.defaults + memberDefaults rest
end

namespace Reader

/-- Takes an expression as what is assigned to; fails if it cannot be. -/
def asTarget (e : Expr) : Reader Unit := do
  if !e.isTarget then fail
  modify fun c => { c with pending := c.pending - e.defaults }

/-- Takes an expression as a name or member that is assigned to; fails if it is none. -/
def asSimpleTarget (e : Expr) : Reader Unit :=
  if e.isSimpleTarget then pure () else fail

end Reader

end CustomElement.Script
