import CustomElement.Script.TypeMembers

/-!
# Types

Types leave no trace in a tree, so they are only recognised. From loose to tight: conditional and
function types, unions, intersections, operators such as `keyof`, the brackets after a type, and
types that stand alone.
-/

namespace CustomElement.Script

namespace Reader

/-! ## Types that stand alone -/

/-- The pieces of a template after its first, with what `part` reads in front of each. -/
def templateParts {α : Type} (part : Reader α) :
    Nat → Reader (List α × List Tree.TemplateElement)
  | 0 => fail
  | limit + 1 => do
    let first ← part
    if !(← atPunct "\x7d") then fail
    let c ← get
    match readTemplate c.rest with
    | some (.template raw cooked tail, rest) =>
      set { c with rest := rest }
      advance
      let piece : Tree.TemplateElement := ⟨tail, raw, cooked⟩
      if tail then return ([first], [piece])
      let (others, pieces) ← templateParts part limit
      return (first :: others, piece :: pieces)
    | _ => fail

/-- A template as a type, in which every escape has to be well formed. -/
def templateType (r : Readers) (c : Context) : Reader Unit := do
  match (← get).token with
  | .template _ cooked tail =>
    faultIf cooked.isNone
    advance
    if !tail then
      let (_, pieces) ← templateParts (r.type c) (r.limit + 1)
      faultIf (pieces.any (·.cooked.isNone))
  | _ => fail

/-- The arguments of a generic type or function. -/
def typeArguments (r : Readers) (c : Context) : Reader Unit := do
  splitLeftAngle
  expect "<"
  let (arguments, _) ← separated ">" "," (r.type c) (r.limit + 1)
  faultIf arguments.isEmpty
  expect ">"

/-- Whether the current token opens type arguments. -/
def atTypeArguments : Reader Bool :=
  atAnyPunct ["<", "<<", "<<="]

/-- Type arguments on the same line, if there are any. -/
def typeArgumentsHere (r : Readers) (c : Context) : Reader Unit := do
  if !(← onNewLine) && (← atTypeArguments) then typeArguments r c

/-- A dot and a name, if they are there. -/
def qualifier : Reader (Option Unit) := do
  if ← eat "." then
    let _ ← anyName
    return some ()
  else return none

/-- A name with qualifiers. -/
def qualifiedName (r : Readers) : Reader Unit := do
  let _ ← anyName
  let _ ← many qualifier (r.limit + 1)

/-- A reference to a type by name. -/
def typeReference (r : Readers) (c : Context) : Reader Unit := do
  qualifiedName r
  typeArgumentsHere r c

/-- A reference to a type after a comma, if there is a comma. -/
def anotherReference (r : Readers) (c : Context) : Reader (Option Unit) := do
  if ← eat "," then return some (← typeReference r c) else return none

/-- References to types with commas between them. -/
def typeReferences (r : Readers) (c : Context) : Reader Unit := do
  typeReference r c
  let _ ← many (anotherReference r c) (r.limit + 1)

/-- An object, as the options of an import. -/
def importOptions (r : Readers) (c : Context) : Reader Unit := do
  match ← r.access c with
  | (.object .., _) => pure ()
  | _ => fail

/-- The type of what a module holds. -/
def importType (r : Readers) (c : Context) : Reader Unit := do
  expectWord "import"
  expect "("
  let _ ← stringLiteral
  if ← eat "," then importOptions r c
  expect ")"
  let _ ← many qualifier (r.limit + 1)
  typeArgumentsHere r c

/-- The type of a value. -/
def valueType (r : Readers) (c : Context) : Reader Unit := do
  bump
  if ← atWord "import" then importType r c else typeReference r c

/-- A type in parentheses. -/
def parenthesizedType (r : Readers) (c : Context) : Reader Unit := do
  expect "("
  anyType r c
  expect ")"

/-- A statement that a parameter is true or has a type. -/
def assertedType (r : Readers) (c : Context) : Reader Unit := do
  bump
  let _ ← anyName
  if ← eatWord "is" then anyType r c

/-- Whether `asserts` and a name on the same line follow. -/
def atAssertedType : Reader Bool :=
  looksLike do
    expectWord "asserts"
    return (← atAnyName) && !(← onNewLine)

/-- A negative number as a type. -/
def negativeType : Reader Unit := do
  expect "-"
  match (← get).token with
  | .number _ | .bigint _ => advance
  | _ => fail

/-- The words that are types by themselves. -/
def loneTypeWords : List String :=
  ["true", "false", "void"]

/-- The words that are types unless a dot makes them the start of a qualified name. -/
def basicTypeWords : List String := [
  "any", "bigint", "boolean", "never", "null", "number", "object", "string", "symbol", "undefined",
  "unknown"]

/-- Whether a dot follows the current token. -/
def beforeDot : Reader Bool :=
  looksLike do
    advance
    atPunct "."

/-- Whether a word is a type that takes no arguments. -/
def isBareType (w : String) : Reader Bool := do
  if loneTypeWords.contains w then return true
  else if basicTypeWords.contains w then return !(← beforeDot)
  else return false

/-- The type of the object that a method belongs to, or a statement about it. -/
def thisType (r : Readers) (c : Context) : Reader Unit := do
  bump
  if (← atWord "is") && !(← onNewLine) then
    bump
    anyType r c

/-- A type that is a word or starts with one. -/
def wordType (r : Readers) (c : Context) (w : String) : Reader Unit := do
  if w == "typeof" then valueType r c
  else if w == "import" then importType r c
  else if w == "this" then thisType r c
  else if ← atAssertedType then assertedType r c
  else if ← isBareType w then bump
  else typeReference r c

/-- The type of a nullable value, or of any value, after a question mark. -/
def nullableType (r : Readers) (c : Context) : Reader Unit := do
  expect "?"
  if !(← atAnyPunct [",", "\x7d", ")", ">", "=", "|"]) then anyType r c

/-- A type that stands alone and is no tuple. -/
def simpleType (r : Readers) (c : Context) : Reader Unit := do
  match (← get).token with
  | .word w _ => wordType r c w
  | .string _ _ | .number _ | .bigint _ => advance
  | .template .. => templateType r c
  | .punct "-" => negativeType
  | .punct "(" => parenthesizedType r c
  | .punct "?" => nullableType r c
  | .punct "\x7b" => if ← atMappedType then mappedType r c else typeMembers r c
  | _ => fail

/-- An exclamation mark, if there is one. -/
def mark : Reader (Option Unit) := do
  if ← eat "!" then return some () else return none

/-- A type that stands alone, with exclamation marks in front of it maybe. -/
def plainType (r : Readers) (c : Context) : Reader TypeForm := do
  let marks ← many mark (r.limit + 1)
  if ← atPunct "[" then
    tupleType r c
    return if marks.isEmpty then .tuple else .other
  else
    simpleType r c
    return .other

/-! ## What a type may start with -/

/-- The reserved words that a type may start with. -/
def typeWords : List String :=
  ["break", "false", "function", "import", "new", "null", "this", "true", "typeof", "void"]

/-- The punctuators that a type may start with. -/
def typeSymbols : List String :=
  ["\x7b", "[", "<", "|", "&", "*", "?", "..."]

/-- Whether a parameter may start with the token, or a list of parameters end at it. -/
def canOpenParameters : Token → Bool
  | .word w _ => isNameWord w || modifierWords.contains w
  | .privateName _ => true
  | .punct s => [")", "...", "\x7b", "[", "@"].contains s
  | _ => false

/-- Whether a type may start here, behind at most so many opening parentheses. -/
def isTypeStart : Nat → Reader Bool
  | 0 => return false
  | limit + 1 => do
    match (← get).token with
    | .word w _ => return isFreeWord w || typeWords.contains w
    | .string _ _ | .number _ | .bigint _ | .template .. => return true
    | .punct "-" => return (← lookahead negativeType).isSome
    | .punct "(" =>
      advance
      if canOpenParameters (← get).token then return true else isTypeStart limit
    | .punct s => return typeSymbols.contains s
    | _ => return false

/-- Whether a type may start here. -/
def atType (r : Readers) : Reader Bool :=
  looksLike (isTypeStart (r.limit + 1))

/-! ## Types with operators -/

/-- Brackets or a mark after a type on the same line, if there are any, and what they make of it. -/
def typeSuffix (r : Readers) (c : Context) : Reader (Option TypeForm) := do
  if ← onNewLine then return none
  else if ← eat "!" then return some .other
  else if ← atPunct "?" then
    let continues ← looksLike do
      advance
      atType r
    if continues then return none
    advance
    return some .optional
  else if ← eat "[" then
    let isIndexed ← atType r
    if isIndexed then anyType r c
    expect "]"
    return some (if isIndexed then .other else .array)
  else return none

/-- A type that stands alone and what follows it. -/
def suffixedType (r : Readers) (c : Context) : Reader TypeForm := do
  let form ← plainType r c
  let suffixes ← many (typeSuffix r c) (r.limit + 1)
  return suffixes.getLast?.getD form

/-- The type that an inferred type extends. In front of a question mark, `extends` belongs to the
conditional type around. -/
def inferConstraint (r : Readers) (c : Context) : Reader Unit := do
  expectWord "extends"
  anyType r { c with noConditionalType := true }
  if !c.noConditionalType && (← atPunct "?") then fail

/-- A type without operators between types. Only arrays and tuples can be `readonly`. -/
def operandTypeOf (r : Readers) (c : Context) : Reader TypeForm := do
  if ← atAnyWord ["keyof", "unique"] then
    bump
    let _ ← r.operandType c
    return .other
  else if ← eatWord "readonly" then
    let form ← r.operandType c
    faultIf (form != .array && form != .tuple)
    return .other
  else if ← eatWord "infer" then
    let _ ← name c
    let _ ← attempt (inferConstraint r c)
    return .other
  else suffixedType r c.withConditionalTypes

/-- An operator and another operand, if the operator is there. -/
def anotherType (operator : String) (operand : Reader TypeForm) : Reader (Option TypeForm) := do
  if ← eat operator then return some (← operand) else return none

/-- Operands with an operator between them, and in front of the first maybe. -/
def typesJoined (operator : String) (operand : Reader TypeForm) (limit : Nat) :
    Reader TypeForm := do
  let leading ← eat operator
  let first ← operand
  let others ← many (anotherType operator operand) limit
  return if leading || !others.isEmpty then .other else first

/-- A union of intersections. -/
def unionType (r : Readers) (c : Context) : Reader TypeForm :=
  typesJoined "|" (typesJoined "&" (operandTypeOf r c) (r.limit + 1)) (r.limit + 1)

/-- The start of a parameter after its modifiers; fails if there is none. -/
def parameterStart (r : Readers) (c : Context) : Reader Unit := do
  if (← atFreeName) || (← atWord "this") then advance
  else if ← atAnyPunct ["[", "\x7b"] then
    let _ ← r.binding c
    if (← get).faulty then fail
  else fail

/-- Whether a parameter and what may follow it stand after an opening parenthesis. -/
def atParameters (r : Readers) (c : Context) : Reader Bool :=
  looksLike do
    expect "("
    if ← atAnyPunct [")", "..."] then return true
    let _ ← modifiers r false false
    parameterStart r c
    if ← atAnyPunct [":", ",", "?", "="] then return true
    expect ")"
    atPunct "=>"

/-- Whether `abstract` and `new` follow. -/
def atAbstractNew : Reader Bool :=
  looksLike do
    expectWord "abstract"
    atWord "new"

/-- Whether a function type starts here. -/
def atFunctionType (r : Readers) (c : Context) : Reader Bool := do
  if (← atPunct "<") || (← atWord "new") then return true
  if ← atPunct "(" then atParameters r c else atAbstractNew

/-- The type of functions or of constructors. Its parameters tell it apart from other types, so it does
not matter which token stands between them and the result. -/
def functionType (r : Readers) (c : Context) : Reader Unit := do
  let _ ← eatWord "abstract"
  let constructs ← eatWord "new"
  typeParameters r c
  let _ ← parameters r c (if constructs then .other else .function)
  bump
  returnType r c

/-- What follows a type that is tested: the type it may extend, and the two outcomes. -/
def conditionalTail (r : Readers) (c : Context) : Reader Unit := do
  bump
  anyType r { c with noConditionalType := true }
  expect "?"
  anyType r c.withConditionalTypes
  expect ":"
  anyType r c.withConditionalTypes

/-- A type. -/
def typeOf (r : Readers) (c : Context) : Reader TypeForm := do
  if ← atFunctionType r c then
    functionType r c
    return .other
  let form ← unionType r c
  if !c.noConditionalType && (← atWord "extends") && !(← onNewLine) then
    conditionalTail r c
    return .other
  return form

end Reader

end CustomElement.Script
