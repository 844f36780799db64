import CustomElement.Script.Objects

/-!
# Classes

Class bodies. Members that exist for types only leave no trace: index signatures, methods without a
body, and abstract or declared fields.
-/

namespace CustomElement.Script

namespace Reader

/-- The modifiers that a member of a class may have beside others. -/
def memberWords (others : List String) : List String :=
  accessWords ++ ["static", "abstract", "override", "accessor"] ++ others

/-- The modifiers that a constructor may have. -/
def constructorWords : List String :=
  accessWords ++ ["override", "readonly", "accessor"]

/-- What stands in front of a class member. -/
structure Heading where
  /-- The text of the class body from the member on. -/
  start : List Char
  /-- The texts of its decorators. -/
  decorated : List String
  modifiers : List String

namespace Heading

/-- Whether a member has a modifier. -/
def has (h : Heading) (w : String) : Bool :=
  h.modifiers.contains w

/-- Whether a field exists for types only. -/
def isErased (h : Heading) : Bool :=
  h.has "abstract" || h.has "declare"

/-- A member that the tree of a class holds, unless it has decorators. -/
def complete (h : Heading) (m : ClassMember) : Option ClassMember :=
  match h.decorated with
  | text :: _ => some (.unsupported ⟨"Decorators", text⟩)
  | [] => some m

end Heading

/-- Whether a key is the given name and not computed. -/
def isKey (key : Expr) (computed : Bool) (name : String) : Bool :=
  !computed &&
    match key with
    | .identifier n => n == name
    | .literal ⟨.string n, _, _⟩ => n == name
    | _ => false

/-- Whether a key is `constructor`, written as a word. -/
def isConstructorWord (key : Expr) (computed : Bool) : Bool :=
  !computed &&
    match key with
    | .identifier n => n == "constructor"
    | _ => false

/-- The key of a class member, and whether it is computed. A private name takes no modifier of access,
and is not `#constructor`. -/
def memberKey (r : Readers) (c : Context) (h : Heading) : Reader (Expr × Bool) := do
  match (← get).token with
  | .privateName name =>
    faultIf (name == "constructor" || h.modifiers.any accessWords.contains)
    advance
    return (.privateName name, false)
  | _ => propertyKey r c

/-- A method, constructor or accessor with its function; nothing if it has no body. An abstract one has
no body, and without a body there are no decorators. -/
def methodMember (h : Heading) (key : Expr) (f : Func) (hasBody : Bool) (kind : Tree.MethodKind)
    (computed : Bool) : Reader (Option ClassMember) := do
  if hasBody then
    faultIf (h.has "abstract")
    return h.complete (.method key f kind computed (h.has "static"))
  else
    faultIf !h.decorated.isEmpty
    return none

/-- A method after its key. Only a string makes `constructor` the name of a method, and not of a
generator. -/
def classMethod (r : Readers) (c : Context) (h : Heading) (key : Expr) (computed generator : Bool) :
    Reader (Option ClassMember) := do
  allowModifiers (memberWords ["async"]) h.modifiers
  faultIf (h.has "static" && isKey key computed "prototype")
  let misnamed := isConstructorWord key computed || (generator && isKey key computed "constructor")
  faultIf (!h.has "static" && misnamed)
  let (f, hasBody) ← methodFunction r c (h.has "async") generator
  methodMember h key f hasBody .method computed

/-- A constructor after its name. -/
def classConstructor (r : Readers) (c : Context) (h : Heading) (key : Expr) :
    Reader (Option ClassMember) := do
  allowModifiers constructorWords h.modifiers
  let (f, hasBody) ← constructorFunction r c
  methodMember h key f hasBody .constructor false

/-- A getter or setter after its keyword. -/
def classAccessor (r : Readers) (c : Context) (h : Heading) (kind : Tree.MethodKind) :
    Reader (Option ClassMember) := do
  allowModifiers (memberWords ["readonly"]) h.modifiers
  let (key, computed) ← memberKey r c h
  faultIf (h.has "static" && isKey key computed "prototype")
  faultIf (!h.has "static" && isKey key computed "constructor")
  let (f, hasBody) ← methodFunction r c false false
  checkAccessor (kind == .get) f.params
  methodMember h key f hasBody kind computed

/-- The value of a field, if there is one. -/
def fieldValue (r : Readers) (c : Context) : Reader (Option Expr) := do
  if ← eat "=" then
    some <$> expression r { c.withIn with inAsync := false, inGenerator := false }
  else return none

/-- A field after its key. An abstract one has no value. -/
def classField (r : Readers) (c : Context) (h : Heading) (key : Expr) (computed : Bool) :
    Reader (Option ClassMember) := do
  allowModifiers (memberWords ["declare", "readonly", "async"]) h.modifiers
  faultIf (isKey key computed "constructor" || (h.has "static" && isKey key computed "prototype"))
  typeAnnotation r c
  let value ← fieldValue r c
  faultIf (h.has "abstract" && value.isSome)
  endStatement
  if h.isErased then return none
  else return h.complete (.field key value computed (h.has "static"))

/-- A field with accessors after its key, which has no tree. -/
def accessorField (r : Readers) (c : Context) (h : Heading) : Reader (Option ClassMember) := do
  allowModifiers (memberWords []) h.modifiers
  typeAnnotation r c
  if ← eat "=" then
    let _ ← r.assign c true
  endStatement
  if h.isErased then return none
  else return some (.unsupported ⟨"`accessor` fields", ← textSince h.start⟩)

/-- A static block after `static`. -/
def staticBlock (r : Readers) (c : Context) : Reader ClassMember := do
  expect "\x7b"
  let body ← statements r { c with inAsync := true, inGenerator := false, inFunction := false }
  expect "\x7d"
  return .staticBlock body

/-- Whether a constructor follows: its name as a word, with parameters or type parameters after it, or as
a string with parameters after it. -/
def atConstructor : Reader Bool :=
  looksLike do
    match (← get).token with
    | .word "constructor" _ =>
      advance
      atAnyPunct ["(", "<"]
    | .string "constructor" _ =>
      advance
      atPunct "("
    | _ => return false

/-- A field that is no method, after its key. It is not both optional and assigned elsewhere, and
optional only without accessors. -/
def fieldAfterKey (r : Readers) (c : Context) (h : Heading) (key : Expr) (computed optional : Bool) :
    Reader (Option ClassMember) := do
  let definite ← eat "!"
  faultIf (optional && (definite || h.has "accessor"))
  if h.has "accessor" then accessorField r c h else classField r c h key computed

/-- A field or method that is no accessor and no constructor. -/
def fieldOrMethod (r : Readers) (c : Context) (h : Heading) : Reader (Option ClassMember) := do
  let c := { c with ambient := c.ambient || h.has "declare" }
  let generator ← eat "*"
  let (key, computed) ← memberKey r c h
  let optional ← eat "?"
  if generator || (← atAnyPunct ["(", "<"]) then classMethod r c h key computed generator
  else fieldAfterKey r c h key computed optional

/-- A member after its heading. -/
def classMemberOf (r : Readers) (c : Context) (h : Heading) : Reader (Option ClassMember) := do
  if (← atWord "static") && (← beforeBrace) then
    faultIf (!h.modifiers.isEmpty || !h.decorated.isEmpty)
    bump
    return some (← staticBlock r c)
  else if ← eatModifier "get" then classAccessor r c h .get
  else if ← eatModifier "set" then classAccessor r c h .set
  else if !h.has "static" && (← atConstructor) then
    let (key, _) ← propertyKey r c
    classConstructor r c h key
  else if ← atIndexSignature then
    faultIf !h.decorated.isEmpty
    indexSignature r c h.modifiers
    return none
  else fieldOrMethod r c h

/-- A member of a class body, or a lone semicolon, if the body does not end here. -/
def classMember? (r : Readers) (c : Context) : Reader (Option (Option ClassMember)) := do
  if ← atListEnd then return none
  else if ← eat ";" then return some none
  else
    let start := (← get).here
    let decorated ← decorators r c
    let given ← modifiers r true true
    return some (← classMemberOf r c ⟨start, decorated, given⟩)

/-- The members of a class body, with its braces. -/
def classBody (r : Readers) (c : Context) : Reader (List ClassMember) := do
  expect "\x7b"
  let members ← many (classMember? r c) (r.limit + 1)
  expect "\x7d"
  return members.filterMap id

/-- The superclass, with its type arguments taken off. -/
def superclass (r : Readers) (c : Context) : Reader Expr := do
  let e ← r.chain c
  match e with
  | .wrapped .instantiation inner => return inner
  | _ =>
    if ← atTypeArguments then typeArguments r c
    return e

/-- What a class extends and which interfaces it implements. -/
def heritage (r : Readers) (c : Context) : Reader (Option Expr) := do
  let parent ← if ← eatWord "extends" then some <$> superclass r c else pure none
  if ← eatWord "implements" then typeReferences r c
  return parent

/-- A class after its keyword. -/
def classTail (r : Readers) (c : Context) : Reader ClassDef := do
  let named ← if ← atWord "implements" then pure false else atName
  let name ← if named then some <$> name c else pure none
  typeParameters r c
  let parent ← heritage r c
  let members ← classBody r c
  return ⟨name, parent, members⟩

end Reader

end CustomElement.Script
