import CustomElement.Script.Cursor
import CustomElement.Script.Syntax

/-!
# Contexts and rounds

How a part of a script is read depends on what it stands in: whether `in` is an operator there,
whether `await` and `yield` are keywords, whether a `return` may stand there.

Expressions, statements and types contain each other, so their readers are built in rounds: a reader
of one round reads the parts of what it reads with the readers of the round before. Each of these
starts after at least one character, so a text never needs more rounds than it has characters.
-/

namespace CustomElement.Script

/-- What a part of a script stands in. -/
structure Context where
  /-- An `in` is an operator. -/
  allowIn : Bool
  /-- The body of a generator, where `yield` is a keyword. -/
  inGenerator : Bool
  /-- A place where `await` is a keyword. -/
  inAsync : Bool
  /-- The body of a function. -/
  inFunction : Bool
  /-- A declaration that only describes what exists elsewhere. -/
  ambient : Bool
  /-- A decorator, which a `[` ends. -/
  inDecorator : Bool
  /-- A type that an `extends` does not continue. -/
  noConditionalType : Bool
deriving DecidableEq, Repr

namespace Context

/-- The context of a module. -/
def module : Context where
  allowIn := true
  inGenerator := false
  inAsync := true
  inFunction := false
  ambient := false
  inDecorator := false
  noConditionalType := false

/-- The context with `in` as an operator. -/
def withIn (c : Context) : Context :=
  { c with allowIn := true }

/-- The context without `in` as an operator. -/
def withoutIn (c : Context) : Context :=
  { c with allowIn := false }

/-- The context in which types may test what they extend. -/
def withConditionalTypes (c : Context) : Context :=
  { c with noConditionalType := false }

/-- The context of the parameters and the body of a function. -/
def ofFunction (c : Context) (async generator : Bool) : Context :=
  { c with allowIn := true, inAsync := async, inGenerator := generator }

/-- The context of expressions inside of parentheses. -/
def enclosed (c : Context) : Context :=
  { c with allowIn := true, inDecorator := false }

end Context

/-- Where a statement stands. Only a list of statements takes every kind of declaration. -/
inductive Place where
  | list
  | label
  | clause
deriving DecidableEq, Repr

/-- What a type is, as far as a type around it asks. -/
inductive TypeForm where
  /-- The type of the elements, and empty brackets after it. -/
  | array
  | tuple
  /-- A type with a question mark after it. -/
  | optional
  | other
deriving DecidableEq, Repr

/-- The readers of one round. -/
structure Readers where
  /-- No list in the text is longer than this. -/
  limit : Nat
  /-- An assignment, or what binds tighter. The flag tells whether an arrow function may have a
  return type without a colon after it. -/
  assign : Context → Bool → Reader Expr
  /-- A binary expression of operators that bind tighter than the given one. -/
  binary : Context → Nat → Reader Expr
  /-- A unary expression. -/
  unary : Context → Reader Expr
  /-- A chain of accesses and calls. -/
  chain : Context → Reader Expr
  /-- A chain of accesses, and whether it has an optional link. -/
  access : Context → Reader (Expr × Bool)
  /-- A pattern that binds names. -/
  binding : Context → Reader Expr
  /-- A statement. -/
  statement : Context → Place → Reader Stmt
  /-- A type. -/
  type : Context → Reader TypeForm
  /-- A type without operators between types. -/
  operandType : Context → Reader TypeForm

/-- Readers that read nothing. -/
def Readers.none (limit : Nat) : Readers where
  limit := limit
  assign _ _ := Reader.fail
  binary _ _ := Reader.fail
  unary _ := Reader.fail
  chain _ := Reader.fail
  access _ := Reader.fail
  binding _ := Reader.fail
  statement _ _ := Reader.fail
  type _ := Reader.fail
  operandType _ := Reader.fail

/-- The words that are never names. -/
def reservedWords : List String := [
  "break", "case", "catch", "class", "const", "continue", "debugger", "default", "delete", "do",
  "else", "enum", "export", "extends", "false", "finally", "for", "function", "if", "import", "in",
  "instanceof", "new", "null", "return", "super", "switch", "this", "throw", "true", "try",
  "typeof", "var", "void", "while", "with"]

/-- Whether a word can be a name, in some context at least. -/
def isNameWord (w : String) : Bool :=
  !reservedWords.contains w

/-- Whether a word can be a name in every context. -/
def isFreeWord (w : String) : Bool :=
  isNameWord w && w != "await" && w != "yield"

/-- The words that are names and yet mean something by themselves in some places. -/
def contextualWords : List String := [
  "abstract", "accessor", "any", "as", "assert", "asserts", "async", "await", "bigint", "boolean",
  "constructor", "declare", "defer", "from", "get", "global", "implements", "infer", "interface",
  "intrinsic", "is", "keyof", "let", "meta", "module", "namespace", "never", "number", "object", "of",
  "out", "override", "package", "private", "protected", "public", "readonly", "require", "satisfies",
  "set", "source", "static", "string", "symbol", "target", "type", "undefined", "unique", "unknown",
  "using", "yield"]

/-- Whether a word is nothing but a name. -/
def isPlainWord (w : String) : Bool :=
  isNameWord w && !contextualWords.contains w

/-- Whether a word that can be a name is a keyword in the context. -/
def Context.takesAsKeyword (c : Context) (w : String) : Bool :=
  (c.inAsync && w == "await") || (c.inGenerator && w == "yield")

namespace Reader

/-- Whether the current token is a word. -/
def atAnyName : Reader Bool := do
  match (← get).token with
  | .word _ _ => return true
  | _ => return false

/-- Whether the current token is a word that fulfils the condition. -/
def atWordLike (condition : String → Bool) : Reader Bool := do
  match (← get).token with
  | .word w _ => return condition w
  | _ => return false

/-- Whether the current token is a word that can be a name. -/
def atName : Reader Bool :=
  atWordLike isNameWord

/-- Whether the current token is a word that can be a name in every context. -/
def atFreeName : Reader Bool :=
  atWordLike isFreeWord

/-- Any word, taken as a name. -/
def anyName : Reader String := do
  match (← get).token with
  | .word w _ =>
    advance
    return w
  | _ => fail

/-- A word as a name. In an asynchronous function `await` is none, and in a generator `yield`. -/
def name (c : Context) : Reader String := do
  match (← get).token with
  | .word w _ =>
    if isNameWord w then
      faultIf (c.takesAsKeyword w)
      advance
      return w
    else fail
  | _ => fail

/-- A string literal. -/
def stringLiteral : Reader String := do
  match (← get).token with
  | .string value _ =>
    advance
    return value
  | _ => fail

/-- Whether the next token is on the same line and is a literal, or a word that is no operator. One of
the further punctuators may stand there too. -/
def beforeOperand (symbols : List String) : Reader Bool :=
  looksLike do
    advance
    let c ← get
    if c.newline then return false
    match c.token with
    | .word w _ => return w != "in" && w != "instanceof"
    | .number _ | .bigint _ | .string _ _ => return true
    | .punct s => return symbols.contains s
    | _ => return false

/-- Joins a `>` with what follows to the longest operator. -/
def joinRightAngle : Reader Unit := do
  let c ← get
  match c.token with
  | .punct ">" =>
    match firstPunct rightAngles c.here with
    | some (symbol, rest) => set { c with token := .punct symbol, rest := rest, genuine := .punct symbol }
    | none => pure ()
  | _ => pure ()

/-- Splits the first `<` off an operator that starts with it. -/
def splitLeftAngle : Reader Unit := do
  let c ← get
  match c.token with
  | .punct s =>
    if s == "<<" || s == "<<=" then
      set { c with token := .punct "<", rest := c.here.drop 1, genuine := .punct "<" }
  | _ => pure ()

end Reader

end CustomElement.Script
