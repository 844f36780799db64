import CustomElement.Text.CharClass

/-!
# Bindings in braces

A template holds expressions in braces. The braces of one are matched without reading it: braces in
strings and templates do not count, and a backslash takes the character after it along.

`segments` cuts a text into characters and bindings. Comments are left as they are, and so is a brace
that nothing closes. Putting the braces back gives the text again (`unbraced_segments`).
-/

namespace CustomElement.Template

/-- Where a character of a binding stands. -/
inductive BracePlace where
  | code
  | string (quote : Char)
  /-- Inside of a template literal, with the number of substitutions that are open in it. -/
  | template (substitutions : Nat)
deriving DecidableEq, Repr

/-- The source of a binding up to the brace that closes it, and the text after that brace. `depth` is
the number of braces that are open. None if the text ends before. -/
def matchBrace : BracePlace → Nat → List Char → Option (List Char × List Char)
  | _, _, [] => none
  | _, _, ['\\'] => none
  | place, depth, '\\' :: c :: rest =>
    (matchBrace place depth rest).map fun (source, after) => ('\\' :: c :: source, after)
  | .string quote, depth, c :: rest =>
    (matchBrace (if c == quote then .code else .string quote) depth rest).map
      fun (source, after) => (c :: source, after)
  | .template n, depth, '$' :: '\x7b' :: rest =>
    (matchBrace (.template (n + 1)) depth rest).map
      fun (source, after) => ('$' :: '\x7b' :: source, after)
  | .template n, depth, c :: rest =>
    let place :=
      if c == '`' && n == 0 then .code
      else if c == '\x7d' then .template (n - 1)
      else .template n
    (matchBrace place depth rest).map fun (source, after) => (c :: source, after)
  | .code, depth, c :: rest =>
    if c == '\x7d' && depth ≤ 1 then some ([], rest)
    else
      let place := if c == '"' || c == '\'' then .string c else if c == '`' then .template 0 else .code
      let depth := if c == '\x7b' then depth + 1 else if c == '\x7d' then depth - 1 else depth
      (matchBrace place depth rest).map fun (source, after) => (c :: source, after)

/-- The source and the text after it make up the text, apart from the closing brace. -/
theorem eq_of_matchBrace {place : BracePlace} {depth : Nat} {text source after : List Char}
    (h : matchBrace place depth text = some (source, after)) : text = source ++ '\x7d' :: after := by
  fun_induction matchBrace place depth text generalizing source after with
  | case1 | case2 => simp at h
  | case7 => simp_all
  | case3 | case4 | case5 | case6 | case8 =>
    simp_all
    grind

/-- A comment from its start on, up to and with its end, and the text after it. -/
def splitComment : List Char → List Char × List Char
  | [] => ([], [])
  | '-' :: '-' :: '>' :: rest => (['-', '-', '>'], rest)
  | c :: rest =>
    let (comment, after) := splitComment rest
    (c :: comment, after)

/-- A comment and the text after it make up the text. -/
theorem splitComment_append (text : List Char) :
    (splitComment text).1 ++ (splitComment text).2 = text := by
  fun_induction splitComment text <;> simp_all

/-- A comment has at least one character. -/
theorem splitComment_length (c : Char) (rest : List Char) :
    (splitComment (c :: rest)).2.length < (c :: rest).length := by
  have h := congrArg List.length (splitComment_append (c :: rest))
  have : (splitComment (c :: rest)).1 ≠ [] := by
    rw [splitComment.eq_def]
    split <;> simp_all
  have := List.length_pos_iff.2 this
  simp only [List.length_append] at h
  omega

/-- A piece of a template text. -/
inductive Segment where
  | char (c : Char)
  | binding (source : List Char)
deriving DecidableEq, Repr

/-- Whether a comment starts here. -/
def startsComment (text : List Char) : Bool :=
  "<!--".toList.isPrefixOf text

/-- The pieces of a template text. -/
def segments : List Char → List Segment
  | [] => []
  | c :: rest =>
    if startsComment (c :: rest) then
      (splitComment (c :: rest)).1.map .char ++ segments (splitComment (c :: rest)).2
    else if c == '\x7b' then
      match _h : matchBrace .code 1 rest with
      | some (source, after) => .binding source :: segments after
      | none => .char c :: segments rest
    else .char c :: segments rest
termination_by text => text.length
decreasing_by
  · exact splitComment_length c rest
  · rw [eq_of_matchBrace _h]
    simp only [List.length_cons, List.length_append]
    omega
  · exact Nat.lt_succ_self _
  · exact Nat.lt_succ_self _

/-- A piece as it was written. -/
def Segment.written : Segment → List Char
  | .char c => [c]
  | .binding source => '\x7b' :: source ++ ['\x7d']

/-- The text of pieces as it was written. -/
def unbraced (pieces : List Segment) : List Char :=
  pieces.flatMap Segment.written

theorem flatMap_written_chars (text : List Char) :
    (text.map Segment.char).flatMap Segment.written = text := by
  induction text with
  | nil => rfl
  | cons c rest ih => simp [Segment.written, ih]

/-- Nothing is lost when a text is cut into pieces. -/
theorem unbraced_segments (text : List Char) : unbraced (segments text) = text := by
  fun_induction segments text with
  | case1 => rfl
  | case2 c rest _ ih =>
    rw [unbraced, List.flatMap_append, flatMap_written_chars, ← unbraced, ih, splitComment_append]
  | case3 c rest _ hc source after h ih =>
    simp_all [unbraced, Segment.written, eq_of_matchBrace h]
  | case4 c rest _ hc h ih | case5 c rest _ hc ih =>
    simp_all [unbraced, Segment.written]

end CustomElement.Template
