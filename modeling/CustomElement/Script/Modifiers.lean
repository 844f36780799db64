import CustomElement.Script.Context

/-!
# Modifiers

Words such as `static` or `readonly` in front of a member, a parameter or a declaration. Each is also
an ordinary name; it is a modifier if what it could modify follows.
-/

namespace CustomElement.Script

namespace Reader

/-- The words that can be modifiers. -/
def modifierWords : List String := [
  "abstract", "accessor", "async", "const", "declare", "default", "export", "in", "out", "override",
  "private", "protected", "public", "readonly", "static"]

/-- The modifiers of access. -/
def accessWords : List String :=
  ["private", "protected", "public"]

/-- Whether the current token can follow a modifier. -/
def canFollowModifier : Reader Bool := do
  match (← get).token with
  | .word _ _ | .privateName _ | .string _ _ | .number _ | .bigint _ => return true
  | .punct s => return ["[", "\x7b", "*", "..."].contains s
  | _ => return false

/-- Whether the current token can follow the keyword of an accessor. -/
def canFollowAccessor : Reader Bool := do
  match (← get).token with
  | .word _ _ | .privateName _ | .string _ _ | .number _ | .bigint _ => return true
  | .punct s => return s == "["
  | _ => return false

/-- Whether the given word follows the current token on the same line. -/
def beforeWordHere (w : String) : Reader Bool :=
  looksLike do
    advance
    return (← atWord w) && !(← onNewLine)

/-- Whether the current token can follow `default` as a modifier. -/
def canFollowDefault : Reader Bool := do
  if ← atAnyWord ["class", "function", "interface"] then return true
  else if ← atWord "abstract" then beforeWordHere "class"
  else if ← atWord "async" then beforeWordHere "function"
  else atPunct "@"

/-- Whether the current token can follow `export`, or `export type`, as a modifier. -/
def canFollowExport : Reader Bool := do
  if (← atAnyPunct ["*", "\x7b"]) || (← atWord "as") then return false else canFollowModifier

/-- Whether `export` is a modifier in front of the current token. -/
def exportsHere : Reader Bool := do
  if ← atWord "default" then
    looksLike do
      advance
      canFollowDefault
  else if ← atWord "type" then
    looksLike do
      advance
      canFollowExport
  else canFollowExport

/-- Moves over a word that is a modifier here; fails if it is not. -/
def takeModifier (w : String) : Reader Unit := do
  bump
  if w == "const" then
    if !(← atWord "enum") then fail
  else if w == "static" then
    if !(← canFollowModifier) then fail
  else if w == "export" then
    if !(← exportsHere) then fail
  else if w == "default" then
    if !(← canFollowDefault) then fail
  else if w == "get" || w == "set" then
    if !(← canFollowAccessor) then fail
  else if (← onNewLine) || !(← canFollowModifier) then fail

/-- Moves over the word if it is a modifier here. -/
def eatModifier (w : String) : Reader Bool := do
  if ← atWord w then return (← attempt (takeModifier w)).isSome else return false

/-- Moves over `const` as a modifier of a type parameter or member; fails if it is none. -/
def takeConst : Reader Unit := do
  bump
  if (← onNewLine) || !(← canFollowModifier) then fail

/-- Whether the next token is an opening brace. -/
def beforeBrace : Reader Bool :=
  looksLike do
    advance
    atPunct "\x7b"

/-- The modifier at this place, if there is one, after those already read. -/
def modifier? (constAllowed inClass : Bool) (seen : List String) : Reader (Option String) := do
  match (← get).token with
  | .word w _ =>
    if w == "const" then
      if constAllowed then return (← attempt takeConst).map fun _ => w else return none
    else if w == "static" && (seen.contains w || (inClass && (← beforeBrace))) then return none
    else if modifierWords.contains w then return (← attempt (takeModifier w)).map fun _ => w
    else return none
  | _ => return none

/-- Whether a modifier does not go with those already read: it is one of them, or both it and one of
them are modifiers of access. -/
def isRepeated (seen : List String) (w : String) : Bool :=
  seen.contains w || (accessWords.contains w && seen.any accessWords.contains)

/-- The modifiers at this place, after those already read. A modifier cannot be repeated, and there
is at most one of access. -/
def modifiersFrom (constAllowed inClass : Bool) : Nat → List String → Reader (List String)
  | 0, _ => fail
  | limit + 1, seen => do
    match ← modifier? constAllowed inClass seen with
    | none => return seen
    | some w =>
      faultIf (isRepeated seen w)
      modifiersFrom constAllowed inClass limit (seen ++ [w])

/-- The modifiers at this place. -/
def modifiers (r : Readers) (constAllowed inClass : Bool) : Reader (List String) :=
  modifiersFrom constAllowed inClass (r.limit + 1) []

/-- Notes a fault unless all modifiers are allowed. -/
def allowModifiers (allowed given : List String) : Reader Unit :=
  faultIf (given.any fun w => !allowed.contains w)

end Reader

end CustomElement.Script
