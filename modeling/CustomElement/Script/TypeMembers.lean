import CustomElement.Script.Functions

/-!
# Members of types

What stands in the braces of an object type and in the brackets of a tuple type: signatures, the keys
of indexes, mapped types, and the elements of tuples. Nothing has to stand between two members of an
object type.
-/

namespace CustomElement.Script

namespace Reader

/-! ## Signatures -/

/-- Whether brackets after an opening one declare the keys of an index. -/
def atIndexSignature : Reader Bool :=
  looksLike do
    if !(← eat "[") then return false
    if ← atAnyPunct ["...", "]"] then return true
    match (← get).token with
    | .word w _ =>
      advance
      if modifierWords.contains w && (← atFreeName) then return true
      else if !isFreeWord w then return false
      else if ← atAnyPunct [":", ","] then return true
      else if ← eat "?" then atAnyPunct [":", ",", "]"]
      else return false
    | _ => return false

/-- What may stand after a member of an object type. -/
def endTypeMember : Reader Unit := do
  if ← eat "," then return
  let _ ← eat ";"

/-- The name and the type of the keys of an index. -/
def indexKey (r : Readers) (c : Context) : Reader Unit := do
  let _ ← anyName
  expect ":"
  anyType r c

/-- The keys and the type of an index, after its modifiers. There is exactly one name for the keys. -/
def indexSignature (r : Readers) (c : Context) (given : List String) : Reader Unit := do
  allowModifiers ["readonly", "static"] given
  expect "["
  let (keys, trailing) ← separated "]" "," (indexKey r c) (r.limit + 1)
  faultIf (keys.length != 1 || trailing)
  expect "]"
  expect ":"
  anyType r c
  endTypeMember

/-- The parameters and the result of a signature. -/
def callSignature (r : Readers) (c : Context) (owner : Callable) : Reader Unit := do
  typeParameters r c
  let _ ← parameters r c owner
  returnAnnotation r c

/-- Whether `new` and parameters follow. -/
def atConstructSignature : Reader Bool :=
  looksLike do
    expectWord "new"
    atAnyPunct ["(", "<"]

/-- An accessor of an object type after its keyword. It is not generic, and a setter has no return
type. -/
def accessorSignature (r : Readers) (c : Context) (isSetter : Bool) : Reader Unit := do
  let _ ← propertyKey r c
  let _ ← parameters r c .function
  faultIf ((← atPunct ":") && isSetter)
  returnAnnotation r c

/-- A property or method of an object type. A method has no modifiers. -/
def propertySignature (r : Readers) (c : Context) (modified : Bool) : Reader Unit := do
  let _ ← propertyKey r c
  let _ ← eat "?"
  if ← atAnyPunct ["(", "<"] then
    faultIf modified
    callSignature r c .function
  else typeAnnotation r c

/-- A named member of an object type after its modifiers. -/
def namedTypeMember (r : Readers) (c : Context) (modified : Bool) : Reader Unit := do
  if ← eatModifier "get" then
    faultIf modified
    accessorSignature r c false
  else if ← eatModifier "set" then
    faultIf modified
    accessorSignature r c true
  else propertySignature r c modified
  endTypeMember

/-- A member of an object type. -/
def typeMember (r : Readers) (c : Context) : Reader Unit := do
  if ← atAnyPunct ["(", "<"] then
    callSignature r c .function
    endTypeMember
  else if ← atConstructSignature then
    bump
    callSignature r c .other
    endTypeMember
  else
    let given ← modifiers r false false
    if ← atIndexSignature then indexSignature r c given
    else
      allowModifiers ["readonly"] given
      namedTypeMember r c !given.isEmpty

/-- A member of an object type, if its list does not end here. -/
def typeMember? (r : Readers) (c : Context) : Reader (Option Unit) := do
  if ← atListEnd then return none else return some (← typeMember r c)

/-- The members of an object type in braces. -/
def typeMembers (r : Readers) (c : Context) : Reader Unit := do
  expect "\x7b"
  let _ ← many (typeMember? r c) (r.limit + 1)
  expect "\x7d"

/-! ## Mapped types -/

/-- Whether a mapped type follows: in braces, a key that runs through a type. -/
def atMappedType : Reader Bool :=
  looksLike do
    expect "\x7b"
    if ← atAnyPunct ["+", "-"] then
      advance
      atWord "readonly"
    else
      let _ ← eatWord "readonly"
      expect "["
      let _ ← anyName
      atWord "in"

/-- A word or symbol after a plus or minus that may be left out. -/
def signed (item : Reader Bool) : Reader Unit := do
  if ← atAnyPunct ["+", "-"] then
    advance
    if !(← item) then fail
  else
    let _ ← item

/-- A mapped type. -/
def mappedType (r : Readers) (c : Context) : Reader Unit := do
  expect "\x7b"
  signed (eatWord "readonly")
  expect "["
  let _ ← name c
  expectWord "in"
  anyType r c
  if ← eatWord "as" then anyType r c
  expect "]"
  signed (eat "?")
  typeAnnotation r c
  let _ ← eat ";"
  expect "\x7d"

/-! ## Tuples -/

/-- What an element of a tuple type stands for. -/
inductive ElementForm where
  | required
  | optional
  /-- Any number of elements of one type. -/
  | rest
  /-- The elements of another tuple type. -/
  | spread
deriving DecidableEq, Repr

/-- The form of an element: whether it is spread and whether it may be absent, and its type. -/
def ElementForm.of (isSpread isOptional : Bool) (type : TypeForm) : ElementForm :=
  if isSpread then (if type == .array then .rest else .spread)
  else if isOptional then .optional
  else .required

/-- Whether elements may stand in this order: no required one after an optional one, and neither an
optional one nor the rest after the rest. The flags tell what stands before them. -/
def areOrdered (afterOptional afterRest : Bool) : List ElementForm → Bool
  | [] => true
  | .required :: others => !afterOptional && areOrdered afterOptional afterRest others
  | .optional :: others => !afterRest && areOrdered true afterRest others
  | .rest :: others => !afterRest && areOrdered afterOptional true others
  | .spread :: others => areOrdered afterOptional afterRest others

/-- Whether a name, after three dots maybe, and a colon follow: an element of a tuple type with a
name. -/
def atNamedElement : Reader Bool :=
  looksLike do
    let _ ← eat "..."
    let _ ← anyName
    let _ ← eat "?"
    atPunct ":"

/-- An element of a tuple type after its dots. With a name, the question mark stands after the name, and
not beside the dots. -/
def elementAfterDots (r : Readers) (c : Context) (isNamed isSpread : Bool) : Reader ElementForm := do
  if isNamed then
    let _ ← anyName
    let isOptional ← eat "?"
    expect ":"
    let type ← r.type c
    faultIf (type == .optional || (isSpread && isOptional))
    return .of isSpread isOptional type
  else
    let type ← r.type c
    return .of isSpread (type == .optional) type

/-- An element of a tuple type. -/
def tupleElement (r : Readers) (c : Context) : Reader ElementForm := do
  let isNamed ← atNamedElement
  let isSpread ← eat "..."
  elementAfterDots r c isNamed isSpread

/-- A tuple type. -/
def tupleType (r : Readers) (c : Context) : Reader Unit := do
  expect "["
  let (elements, _) ← separated "]" "," (tupleElement r c) (r.limit + 1)
  faultIf !(areOrdered false false elements)
  expect "]"

end Reader

end CustomElement.Script
