import CustomElement.Script.Types

/-!
# Arrays, objects and templates

Literals that contain expressions, and the arguments of calls.
-/

namespace CustomElement.Script

namespace Reader

/-- An expression after three dots, or an expression. -/
def spreadOrAssign (r : Readers) (c : Context) : Reader Expr := do
  if ← eat "..." then return .spread (← r.assign c true) else r.assign c true

/-- Arguments with their parentheses. -/
def arguments (r : Readers) (c : Context) : Reader (List Expr) := do
  expect "("
  let (given, _) ← separated ")" "," (spreadOrAssign r c) (r.limit + 1)
  expect ")"
  return given

/-- The arguments of a call, with their parentheses. -/
def callArguments (r : Readers) (c : Context) : Reader (List Expr) :=
  arguments r c.enclosed

/-- An element of an array; none for a gap. -/
def arrayElement (r : Readers) (c : Context) : Reader (Option Expr) := do
  if ← atPunct "," then return none else return some (← spreadOrAssign r c)

/-- An array. -/
def arrayLiteral (r : Readers) (c : Context) : Reader Expr := do
  expect "["
  let (elements, trailing) ← separated "]" "," (arrayElement r c.withIn) (r.limit + 1)
  expect "]"
  return .array elements trailing

/-- An expression after a comma, if there is a comma. -/
def anotherExpression (r : Readers) (c : Context) : Reader (Option Expr) := do
  if ← eat "," then return some (← r.assign c true) else return none

/-- Expressions with commas between them. Brackets after an expression belong to it, also in a
decorator. -/
def expression (r : Readers) (c : Context) : Reader Expr := do
  let c := { c with inDecorator := false }
  let first ← r.assign c true
  let others ← many (anotherExpression r c) (r.limit + 1)
  if others.isEmpty then return first else return .sequence (first :: others)

/-- The pieces of a template and the expressions between them. -/
def templateLiteral (r : Readers) (c : Context) :
    Reader (List Tree.TemplateElement × List Expr) := do
  match (← get).token with
  | .template raw cooked tail =>
    advance
    let piece : Tree.TemplateElement := ⟨tail, raw, cooked⟩
    if tail then return ([piece], [])
    let (expressions, pieces) ← templateParts (expression r c.withIn) (r.limit + 1)
    return (piece :: pieces, expressions)
  | _ => fail

/-- A template without a tag, in which every escape has to be well formed. -/
def plainTemplate (r : Readers) (c : Context) : Reader Expr := do
  let (quasis, expressions) ← templateLiteral r c
  faultIf (quasis.any (·.cooked.isNone))
  return .template quasis expressions

/-- A method of an object, after its key. -/
def objectMethod (r : Readers) (c : Context) (key : Expr) (computed : Bool)
    (kind : Tree.PropertyKind) (async generator : Bool) : Reader Member := do
  let (f, complete) ← methodFunction r c async generator
  if !complete then fail
  match kind with
  | .init => pure ()
  | .get => checkAccessor true f.params
  | .set => checkAccessor false f.params
  return .property key (.function f) kind (kind == .init) computed false

/-- Whether the current token is a name that an object may hold without a value. -/
def atShorthand (c : Context) : Reader Bool := do
  match (← get).token with
  | .word w _ =>
    return isNameWord w && !c.takesAsKeyword w
  | _ => return false

/-- A name with a default after it. -/
def defaultedMember (r : Readers) (c : Context) (name : String) : Reader Member := do
  let value ← r.assign c true
  modify fun c => { c with pending := c.pending + 1 }
  return .defaulted name value

/-- A member of an object that is neither an accessor nor spread. -/
def plainMember (r : Readers) (c : Context) (async : Bool) : Reader Member := do
  let generator ← eat "*"
  let shorthand ← atShorthand c
  let (key, computed) ← propertyKey r c
  if generator || (← atAnyPunct ["(", "<"]) then
    objectMethod r c key computed .init async generator
  else
    faultIf async
    if shorthand && !(← atPunct ":") then
      match key with
      | .identifier name =>
        if ← eat "=" then defaultedMember r c name
        else return .property key key .init false false true
      | _ => fail
    else
      expect ":"
      let value ← r.assign c true
      return .property key value .init false computed false

/-- A getter or setter of an object, after its keyword. -/
def objectAccessor (r : Readers) (c : Context) (kind : Tree.PropertyKind) : Reader Member := do
  let (key, computed) ← propertyKey r c
  objectMethod r c key computed kind false false

/-- A member of an object. -/
def objectMember (r : Readers) (c : Context) : Reader Member := do
  if ← eat "..." then return .spread (← r.assign c true)
  let given ← modifiers r false false
  allowModifiers ["async"] given
  if ← eatModifier "get" then
    faultIf !given.isEmpty
    objectAccessor r c .get
  else if ← eatModifier "set" then
    faultIf !given.isEmpty
    objectAccessor r c .set
  else plainMember r c (given.contains "async")

/-- An object. -/
def objectLiteral (r : Readers) (c : Context) : Reader Expr := do
  let c := c.withIn
  expect "\x7b"
  let (members, trailing) ← separated "\x7d" "," (objectMember r c) (r.limit + 1)
  expect "\x7d"
  return .object members trailing

end Reader

end CustomElement.Script
