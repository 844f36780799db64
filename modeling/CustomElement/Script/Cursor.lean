import CustomElement.Script.Scan

/-!
# Reading tokens

A reader takes a cursor, which stands on a token, and gives a result and the cursor after it, or
fails. Some faults do not keep a reader from going on; they are only noted, and a script with such a
fault is refused in the end. Both are undone when a reader is tried and given up.
-/

namespace CustomElement.Script

/-- A token that can stand in a text: one that is read off its start, or a punctuator, which may be cut
out of a longer one. -/
inductive Token.Genuine : Token → Prop
  | read {t : Token} {text rest : List Char} (h : readToken text = some (t, rest)) : Genuine t
  | punct (symbol : String) : Genuine (.punct symbol)
  | invalid : Genuine .invalid

/-- A place in a script. -/
structure Cursor where
  /-- The token at this place. -/
  token : Token
  /-- A line ends in front of the token. -/
  newline : Bool
  /-- The text from the token on. -/
  here : List Char
  /-- The text after the token. -/
  rest : List Char
  /-- The text after the previous token. -/
  behind : List Char
  /-- A fault has been noted. -/
  faulty : Bool
  /-- The number of names with defaults in objects that are not known to be patterns. -/
  pending : Nat
  genuine : token.Genuine
  /-- No gap stands in front of the token. -/
  clear : skipGap .blank false here = some (false, here)

namespace Cursor

/-- The cursor on the token after a gap in `text`. Text that is no token is a fault. -/
def land (place : GapPlace) (text : List Char) (c : Cursor) : Cursor :=
  match hgap : skipGap place false text with
  | some (newline, here) =>
    match hread : readToken here with
    | some (token, rest) =>
      { c with
        token := token, newline := newline, here := here, rest := rest, behind := text
        genuine := .read hread, clear := skipGap_here hgap }
    | none =>
      { c with
        token := .invalid, newline := newline, here := here, rest := here, behind := text
        faulty := true, genuine := .invalid, clear := skipGap_here hgap }
  | none =>
    { c with
      token := .invalid, newline := false, here := [], rest := [], behind := text, faulty := true
      genuine := .invalid, clear := rfl }

section Land

variable {place : GapPlace} {newline : Bool} {text here rest : List Char} {token : Token}

/-- The cursor in front of a token. -/
theorem land_eq (c : Cursor) (hgap : skipGap place false text = some (newline, here))
    (hread : readToken here = some (token, rest)) :
    c.land place text =
      { c with
        token := token, newline := newline, here := here, rest := rest, behind := text
        genuine := .read hread, clear := skipGap_here hgap } := by
  unfold land
  split
  · next newline' here' hgap' =>
    cases hgap.symm.trans hgap'
    split
    · next token' rest' hread' =>
      cases hread.symm.trans hread'
      rfl
    · next hnone => cases hread.symm.trans hnone
  · next hnone => cases hgap.symm.trans hnone

/-- The cursor in front of text that is no token. -/
theorem land_eq_of_invalid (c : Cursor) (hgap : skipGap place false text = some (newline, here))
    (hread : readToken here = none) :
    c.land place text =
      { c with
        token := .invalid, newline := newline, here := here, rest := here, behind := text
        faulty := true, genuine := .invalid, clear := skipGap_here hgap } := by
  unfold land
  split
  · next newline' here' hgap' =>
    cases hgap.symm.trans hgap'
    split
    · next hread' => cases hread.symm.trans hread'
    · rfl
  · next hnone => cases hgap.symm.trans hnone

/-- The cursor in front of a comment that does not end. -/
theorem land_eq_of_open (c : Cursor) (hgap : skipGap place false text = none) :
    c.land place text =
      { c with
        token := .invalid, newline := false, here := [], rest := [], behind := text, faulty := true
        genuine := .invalid, clear := rfl } := by
  unfold land
  split
  · next hsome => cases hgap.symm.trans hsome
  · rfl

end Land

/-- The cursor on the next token. -/
def next (c : Cursor) : Cursor :=
  land .blank c.rest c

/-- The cursor on the first token of a text. -/
def start (place : GapPlace) (text : List Char) : Cursor :=
  land place text ⟨.eof, false, [], [], [], false, 0, .read (rfl : readToken [] = _), rfl⟩

end Cursor

/-- A reader of part of a script. -/
abbrev Reader := StateT Cursor Option

namespace Reader

/-- Failure. -/
def fail {α : Type} : Reader α :=
  fun _ => none

/-- Notes a fault. -/
def fault : Reader Unit :=
  modify ({ · with faulty := true })

/-- Notes a fault if the condition holds. -/
def faultIf (condition : Bool) : Reader Unit :=
  if condition then fault else pure ()

/-- Moves on to the next token. -/
def advance : Reader Unit :=
  modify Cursor.next

/-- The current token. -/
def token : Reader Token := do
  return (← get).token

/-- Whether a line ends in front of the current token. -/
def onNewLine : Reader Bool := do
  return (← get).newline

/-- Whether the current token is the punctuator. -/
def atPunct (symbol : String) : Reader Bool := do
  match (← get).token with
  | .punct s => return s == symbol
  | _ => return false

/-- Whether the current token is one of the punctuators. -/
def atAnyPunct (symbols : List String) : Reader Bool := do
  match (← get).token with
  | .punct s => return symbols.contains s
  | _ => return false

/-- Whether the current token is the word. -/
def atWord (name : String) : Reader Bool := do
  match (← get).token with
  | .word w _ => return w == name
  | _ => return false

/-- Whether the current token is one of the words. -/
def atAnyWord (names : List String) : Reader Bool := do
  match (← get).token with
  | .word w _ => return names.contains w
  | _ => return false

/-- Whether the current token is the end of the text. -/
def atEnd : Reader Bool := do
  return (← get).token == .eof

/-- Moves over a token that is taken as a keyword or punctuator. A keyword cannot have escapes. -/
def bump : Reader Unit := do
  match (← get).token with
  | .word _ escaped => faultIf escaped
  | _ => pure ()
  advance

/-- Moves over the punctuator if it is there. -/
def eat (symbol : String) : Reader Bool := do
  if ← atPunct symbol then
    advance
    return true
  else return false

/-- Moves over the keyword if it is there. -/
def eatWord (name : String) : Reader Bool := do
  if ← atWord name then
    bump
    return true
  else return false

/-- Moves over a punctuator that has to be there. -/
def expect (symbol : String) : Reader Unit := do
  if ← atPunct symbol then advance else fail

/-- Moves over a keyword that has to be there. -/
def expectWord (name : String) : Reader Unit := do
  if ← atWord name then bump else fail

/-- What a reader would give at this place; none if it would fail. Nothing is read. -/
def lookahead {α : Type} (r : Reader α) : Reader (Option α) :=
  fun c => some ((r c).map (·.1), c)

/-- Whether a condition holds at this place. Nothing is read. -/
def looksLike (r : Reader Bool) : Reader Bool := do
  return (← lookahead r) == some true

/-- What a reader gives, if it does not fail; else nothing is read. -/
def attempt {α : Type} (r : Reader α) : Reader (Option α) :=
  fun c =>
    match r c with
    | some (a, after) => some (some a, after)
    | none => some (none, c)

/-- The text that has been read since the cursor stood on the first character of `start`. -/
def textSince (start : List Char) : Reader String := do
  let behind := (← get).behind
  return String.ofList (start.take (start.length - behind.length))

/-- Whether a statement may end here: at a semicolon, a closing brace, the end of the text or in
front of a new line. -/
def canEnd : Reader Bool := do
  let c ← get
  match c.token with
  | .eof => return true
  | .punct s => return s == ";" || s == "\x7d" || c.newline
  | _ => return c.newline

/-- The end of a statement. -/
def endStatement : Reader Unit := do
  if ← eat ";" then return
  if ← canEnd then return
  fail

/-- What a reader gives again and again until it gives nothing, at most `limit` times. -/
def many {α : Type} (r : Reader (Option α)) : Nat → Reader (List α)
  | 0 => fail
  | limit + 1 => do
    match ← r with
    | none => return []
    | some a => return a :: (← many r limit)

/-- The items of a list up to a closing punctuator, which is not read, with a separator between
them; and whether a separator follows the last one. At most `limit` items. -/
def separated {α : Type} (close separator : String) (item : Reader α) :
    Nat → Reader (List α × Bool)
  | 0 => fail
  | limit + 1 => do
    if ← atPunct close then return ([], false)
    let first ← item
    if ← atPunct close then return ([first], false)
    expect separator
    if ← atPunct close then return ([first], true)
    let (others, trailing) ← separated close separator item limit
    return (first :: others, trailing)

end Reader

end CustomElement.Script
