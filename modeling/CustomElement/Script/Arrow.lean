import CustomElement.Script.Objects

/-!
# Arrow functions

The parameters of an arrow function look like an expression in parentheses. A few tokens often settle
which of the two it is; where they do not, the parameters are tried first.
-/

namespace CustomElement.Script

/-- What the first tokens say about an arrow function. -/
inductive ArrowGuess where
  | yes
  | no
  | maybe
deriving DecidableEq, Repr

namespace Reader

/-- Whether a name follows, which is not `as`; none if no name follows. -/
def nameAfter : Reader (Option Bool) :=
  lookahead do
    advance
    match (← get).token with
    | .word w _ => if isNameWord w then return w != "as" else fail
    | _ => fail

/-- What the tokens after a first parameter say. -/
def guessAfterName : Reader ArrowGuess := do
  if ← eat ":" then return .yes
  else if ← eat "?" then
    if ← atAnyPunct [":", ",", "=", ")"] then return .yes else return .no
  else if ← atAnyPunct [",", "=", ")"] then return .maybe
  else return .no

/-- What the tokens after an opening parenthesis say. -/
def guessAfterParen : Reader ArrowGuess := do
  match (← get).token with
  | .punct ")" =>
    advance
    if ← atAnyPunct ["=>", ":", "\x7b"] then return .yes else return .no
  | .punct "[" | .punct "\x7b" => return .maybe
  | .punct "..." =>
    advance
    match (← get).token with
    | .string _ _ | .number _ | .bigint _ => return .no
    | .word w _ =>
      if ["null", "true", "false"].contains w then return .no
      else if isPlainWord w then return .yes
      else return .maybe
    | _ => return .maybe
  | .word w _ =>
    let modified ← if modifierWords.contains w && w != "async" then nameAfter else pure none
    match modified with
    | some known => if known then return .yes else return .no
    | none =>
      if isNameWord w || w == "this" then
        advance
        guessAfterName
      else return .no
  | _ => return .no

/-- What the tokens at this place say. -/
def guessArrow : Reader ArrowGuess := do
  let guess ← lookahead do
    if ← eatWord "async" then
      if ← onNewLine then fail
    if ← eat "(" then guessAfterParen
    else if ← eat "<" then
      if (← atName) || (← atWord "const") then return .maybe else return .no
    else return .no
  return guess.getD .no

/-- What stands in front of the body of an arrow function with parentheses: its parameters, whether
it is asynchronous, and whether it has a return type. -/
def arrowHead (r : Readers) (c : Context) : Reader (List Expr × Bool × Bool) := do
  let async ← eatWord "async"
  let c := { c with inAsync := c.inAsync || async }
  typeParameters r c
  let params ← parameters r c .other
  let hasReturnType ← atPunct ":"
  returnAnnotation r c
  faultIf (← onNewLine)
  expect "=>"
  return (params, async, hasReturnType)

/-- The body of an arrow function, joined with its parameters. -/
def arrowBody (r : Readers) (c : Context) (params : List Expr) (async allowReturnType : Bool) :
    Reader Expr := do
  let c := { c with inAsync := async, inGenerator := false }
  if ← atPunct "\x7b" then return .arrowBlock params (← functionBody r c) async
  else return .arrow params (← r.assign c allowReturnType) async

/-- An arrow function with parentheses. -/
def arrowFunction (r : Readers) (c : Context) : Reader Expr := do
  let (params, async, _) ← arrowHead r c
  arrowBody r c params async true

/-- What may be an arrow function with parentheses. Inside of a conditional expression, one with a
return type needs a colon after it. -/
def possibleArrow (r : Readers) (c : Context) (allowReturnType : Bool) : Reader Expr := do
  let (params, async, hasReturnType) ← arrowHead r c
  let e ← arrowBody r c params async allowReturnType
  if hasReturnType && !allowReturnType && !(← atPunct ":") then fail
  return e

/-- Whether `async`, a name and an arrow follow on one line. -/
def atAsyncArrow : Reader Bool :=
  looksLike do
    expectWord "async"
    if (← onNewLine) || !(← atName) then fail
    advance
    return (← atPunct "=>") && !(← onNewLine)

/-- An arrow function with one parameter without parentheses, after that parameter. -/
def simpleArrow (r : Readers) (c : Context) (param : String) (async allowReturnType : Bool) :
    Reader Expr := do
  faultIf (← onNewLine)
  expect "=>"
  arrowBody r c [.identifier param] async allowReturnType

/-- An arrow function that can be told by what it starts with; none if there is none. -/
def arrow? (r : Readers) (c : Context) (allowReturnType : Bool) : Reader (Option Expr) := do
  match ← guessArrow with
  | .yes => return some (← arrowFunction r c)
  | .maybe => attempt (possibleArrow r c allowReturnType)
  | .no =>
    if ← atAsyncArrow then
      bump
      let param ← name { c with inAsync := true }
      return some (← simpleArrow r c param true allowReturnType)
    else return none

end Reader

end CustomElement.Script
