import CustomElement.Script.Modifiers

/-!
# Names, patterns and functions

The keys of members, the patterns that bind names, the parameters and bodies of functions, and the
types that are written beside them.
-/

namespace CustomElement.Script

open CustomElement.Tree (Literal)

namespace Reader

/-- Any type. -/
def anyType (r : Readers) (c : Context) : Reader Unit := do
  let _ ← r.type c

/-- A type after a colon, if there is one. -/
def typeAnnotation (r : Readers) (c : Context) : Reader Unit := do
  if ← eat ":" then anyType r c

/-- The `x is` in front of a type that is tested for. -/
def predicateStart : Reader Unit := do
  if !(← atFreeName) then fail
  advance
  if (← atWord "is") && !(← onNewLine) then bump else fail

/-- A type that may be a statement about a parameter. -/
def returnType (r : Readers) (c : Context) : Reader Unit := do
  let _ ← attempt predicateStart
  anyType r c

/-- The type of a function's result after a colon, if there is one. -/
def returnAnnotation (r : Readers) (c : Context) : Reader Unit := do
  if ← eat ":" then returnType r c

/-- A parameter of a generic type or function. -/
def typeParameter (r : Readers) (c : Context) : Reader Unit := do
  let given ← modifiers r true false
  allowModifiers ["const", "in", "out"] given
  let _ ← name c
  if ← eatWord "extends" then anyType r c
  if ← eat "=" then anyType r c

/-- The parameters of a generic type or function, if there are any. -/
def typeParameters (r : Readers) (c : Context) : Reader Unit := do
  if ← eat "<" then
    let (params, _) ← separated ">" "," (typeParameter r c) (r.limit + 1)
    faultIf params.isEmpty
    expect ">"

/-- An expression in brackets as a key. -/
def computedKey (r : Readers) (c : Context) : Reader Expr := do
  expect "["
  let e ← r.assign c.withIn true
  expect "]"
  return e

/-- The key of a member, and whether it is computed. -/
def propertyKey (r : Readers) (c : Context) : Reader (Expr × Bool) := do
  match (← get).token with
  | .string value _ =>
    advance
    return (.literal ⟨.string value, none, none⟩, false)
  | .number value =>
    advance
    return (.literal ⟨.number value, none, none⟩, false)
  | .bigint digits =>
    advance
    return (.literal ⟨.null, none, some digits⟩, false)
  | .punct _ => return (← computedKey r c, true)
  | _ => return (.identifier (← anyName), false)

/-- A pattern with a default after it, if there is one. -/
def withDefault (r : Readers) (c : Context) (target : Expr) : Reader Expr := do
  if ← eat "=" then return .assign .assign target (← r.assign c.withIn true) else return target

/-- The rest of a pattern after its three dots. -/
def restBinding (r : Readers) (c : Context) : Reader Expr := do
  advance
  r.binding c

/-- A member of an object pattern that binds names. -/
def bindingMember (r : Readers) (c : Context) : Reader Member := do
  if ← atPunct "..." then
    let target ← restBinding r c
    match target with
    | .identifier _ => pure ()
    | _ => fault
    return .spread target
  let shorthand ← atName
  let (key, computed) ← propertyKey r c
  if shorthand && !(← atPunct ":") then
    match key with
    | .identifier name =>
      faultIf (c.takesAsKeyword name)
      if ← eat "=" then return .defaulted name (← r.assign c.withIn true)
      else return .property key key .init false false true
    | _ => fail
  else
    expect ":"
    let target ← r.binding c
    return .property key (← withDefault r c target) .init false computed false

/-- An element of an array pattern that binds names. -/
def bindingElement (r : Readers) (c : Context) : Reader (Option Expr) := do
  if ← atPunct "," then return none
  if ← atPunct "..." then return some (.spread (← restBinding r c))
  let target ← r.binding c
  return some (← withDefault r c target)

/-- Whether a spread stands in front of the last element, or has a comma after it. -/
def misplacedSpread (elements : List (Option Expr)) (trailingComma : Bool) : Bool :=
  let isSpread : Option Expr → Bool
    | some (.spread _) => true
    | _ => false
  elements.dropLast.any isSpread || (trailingComma && elements.getLast?.any isSpread)

/-- Whether a spread stands in front of the last member, or has a comma after it. -/
def misplacedRest (members : List Member) (trailingComma : Bool) : Bool :=
  let isSpread : Member → Bool
    | .spread _ => true
    | _ => false
  members.dropLast.any isSpread || (trailingComma && members.getLast?.any isSpread)

/-- A pattern that binds names. Only where it describes what exists elsewhere, a comma may follow the
rest of it. -/
def bindingPattern (r : Readers) (c : Context) : Reader Expr := do
  if ← eat "\x7b" then
    let (members, trailing) ← separated "\x7d" "," (bindingMember r c) (r.limit + 1)
    expect "\x7d"
    faultIf (misplacedRest members (trailing && !c.ambient))
    return .object members trailing
  else if ← eat "[" then
    let (elements, trailing) ← separated "]" "," (bindingElement r c) (r.limit + 1)
    expect "]"
    faultIf (misplacedSpread elements (trailing && !c.ambient))
    return .array elements trailing
  else return .identifier (← name c)

/-- Whether a pattern is more than a name. -/
def isDestructuring : Expr → Bool
  | .identifier _ => false
  | _ => true

/-- Whether an expression is a chain with an optional link, with type arguments after it maybe. -/
def isOptionalChain : Expr → Bool
  | .chain _ => true
  | .wrapped .instantiation e => isOptionalChain e
  | _ => false

/-- A decorator and its text. A chain with an optional link needs parentheses. -/
def decorator (r : Readers) (c : Context) : Reader (Option String) := do
  let start := (← get).here
  if ← eat "@" then
    let e ← r.chain { c with inDecorator := true }
    faultIf (isOptionalChain e)
    return some (← textSince start)
  else return none

/-- The texts of the decorators at this place. -/
def decorators (r : Readers) (c : Context) : Reader (List String) :=
  many (decorator r c) (r.limit + 1)

/-- What parameters belong to. -/
inductive Callable where
  /-- A function or method, or a signature of one, which may have a parameter `this`. -/
  | function
  /-- The constructor of a class, whose parameters may be properties too. -/
  | constructor
  /-- An arrow function, or a signature of constructors. -/
  | other
deriving DecidableEq, Repr

/-- The modifiers that a parameter may have. Each turns it into a property. -/
def Callable.parameterWords : Callable → List String
  | .constructor => ["override", "private", "protected", "public", "readonly"]
  | _ => ["readonly"]

/-- A rest parameter after its modifiers. -/
def restParameter (r : Readers) (c : Context) : Reader Expr := do
  let target ← restBinding r c
  typeAnnotation r c
  return .spread target

/-- The pattern of a parameter, unless it is a property, whose text is given, or has decorators. -/
def supportedParameter (target : Expr) (decorated : List String) (property : Option String) : Expr :=
  match property, decorated with
  | some text, _ => .unsupported ⟨"Parameter properties", text⟩
  | none, text :: _ => .unsupported ⟨"Decorators", text⟩
  | none, [] => target

/-- A parameter of a function. A property has a plain name, and a rest parameter has neither modifiers
nor decorators. -/
def parameter (r : Readers) (c : Context) (owner : Callable) : Reader Expr := do
  let start := (← get).here
  let decorated ← decorators r c
  let given ← modifiers r false false
  allowModifiers owner.parameterWords given
  if ← atPunct "..." then
    faultIf (!given.isEmpty || !decorated.isEmpty)
    restParameter r c
  else
    let target ← r.binding c
    faultIf (!given.isEmpty && isDestructuring target)
    let optional ← eat "?"
    typeAnnotation r c
    let value ← if ← eat "=" then some <$> r.assign c.withIn true else pure none
    faultIf (optional && value.isSome)
    let text ← textSince start
    let bound := supportedParameter target decorated (if given.isEmpty then none else some text)
    return value.elim bound (.assign .assign bound)

/-- Whether a rest parameter stands in front of the last, or has a comma after it. -/
def misplacedParameter (params : List Expr) (trailingComma : Bool) : Bool :=
  misplacedSpread (params.map some) trailingComma

/-- The parameter `this`, which only has a type, and a comma after it if there is one. -/
def thisParameter (r : Readers) (c : Context) : Reader Bool := do
  if ← eatWord "this" then
    typeAnnotation r c
    let _ ← eat ","
    return true
  else return false

/-- The parameters of a function. Only where it describes what exists elsewhere, a comma may follow its
rest parameter. -/
def parameters (r : Readers) (c : Context) (owner : Callable) : Reader (List Expr) := do
  expect "("
  let given ← thisParameter r c
  faultIf (given && owner != .function)
  let (params, trailing) ← separated ")" "," (parameter r c owner) (r.limit + 1)
  expect ")"
  faultIf (misplacedParameter params (trailing && !c.ambient))
  return params

/-- Whether a list of statements ends here. -/
def atListEnd : Reader Bool := do
  match (← get).token with
  | .eof => return true
  | .punct s => return s == "\x7d"
  | _ => return false

/-- A statement of a list, if the list does not end here. -/
def listStatement (r : Readers) (c : Context) : Reader (Option Stmt) := do
  if ← atListEnd then return none else return some (← r.statement c .list)

/-- The statements of a list. -/
def statements (r : Readers) (c : Context) : Reader (List Stmt) :=
  many (listStatement r c) (r.limit + 1)

/-- The statements of a body. Strings that stand alone at its start are directives. -/
def bodyStatements (r : Readers) (c : Context) : Nat → Reader (List Stmt)
  | 0 => fail
  | limit + 1 => do
    match (← get).token with
    | .string value raw =>
      match ← r.statement c .list with
      | .expression (.literal _) => return .directive value raw :: (← bodyStatements r c limit)
      | other => return other :: (← statements r c)
    | _ => statements r c

/-- The body of a function. -/
def functionBody (r : Readers) (c : Context) : Reader (List Stmt) := do
  expect "\x7b"
  let body ← bodyStatements r { c with inFunction := true } (r.limit + 1)
  expect "\x7d"
  return body

/-- What follows the type parameters of a function: its parameters, and its body unless it only
describes a function. A constructor has no return type. -/
def functionRest (r : Readers) (c : Context) (owner : Callable) :
    Reader (List Expr × Option (List Stmt)) := do
  let params ← parameters r c owner
  faultIf ((← atPunct ":") && owner == .constructor)
  returnAnnotation r c
  if ← atPunct "\x7b" then return (params, some (← functionBody r c))
  else
    endStatement
    return (params, none)

/-- What follows the name of a function. -/
def functionTail (r : Readers) (c : Context) (async generator : Bool) :
    Reader (List Expr × Option (List Stmt)) := do
  let c := c.ofFunction async generator
  typeParameters r c
  functionRest r c .function

/-- The parameters and the body of a method, as a function. -/
def methodFunction (r : Readers) (c : Context) (async generator : Bool) :
    Reader (Func × Bool) := do
  let (params, body) ← functionTail r c async generator
  return (⟨none, params, body.getD [], generator, async⟩, body.isSome)

/-- The parameters and the body of a constructor, as a function. A constructor is not generic. -/
def constructorFunction (r : Readers) (c : Context) : Reader (Func × Bool) := do
  let c := c.ofFunction false false
  faultIf (← atPunct "<")
  typeParameters r c
  let (params, body) ← functionRest r c .constructor
  return (⟨none, params, body.getD [], false, false⟩, body.isSome)

/-- Whether a parameter is the rest of the arguments. -/
def isRestParameter : Expr → Bool
  | .spread _ => true
  | _ => false

/-- A getter has no parameters, unless they are the rest, and a setter exactly one, which is not the
rest and has no default. -/
def checkAccessor (isGetter : Bool) (params : List Expr) : Reader Unit :=
  if isGetter then faultIf !(params.all isRestParameter)
  else
    match params with
    | [.spread _] => fault
    | [.assign ..] => fault
    | [_] => pure ()
    | _ => fault

end Reader

end CustomElement.Script
