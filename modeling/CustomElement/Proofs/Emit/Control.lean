import CustomElement.Proofs.Emit.Sets
import CustomElement.Proofs.Script.ReadsControl

/-!
# Conditionals, loops and labels

`Control` holds the statements that are built, to any depth, from conditionals, loops, labels, blocks,
functions, empty statements, names and lists of one name. The printer puts the first branch of a
conditional in a block if it is a conditional without `else`, and looks no deeper, and it prints the
strings at the start of a function from their values: `printed` is the statement with these blocks and
directives.

The lexemes of a statement are read as the statement (`isRead`) if no first branch would take the `else`
behind it and, without semicolons, no semicolon changes sides: an empty statement behind a name would be
read as the end of that one, and the semicolon that guards a list behind a block as an empty statement
(`areKept`).
-/

namespace CustomElement.Emit

open CustomElement.Text CustomElement.Grammar
open CustomElement.Script (Reads Sees Reader Place Stops Context readers stop inParens optionalName
  isStatementName endsLine front)

/-- A name that is printed and read by itself wherever a statement may start. -/
structure Name where
  word : String
  isName : isStatementName word = true
  isClear : isAmbiguousStart word.toList = false

/-- A string as a statement, with the text of the directive that it is. -/
abbrev Directive := String × Option String

/-- The strings as directives, as they are spelled. -/
def spelled (quote : Char) (strings : List Directive) : List Directive :=
  strings.map fun s => (s.1, some (spelling quote s.1))

/-- A statement of conditionals, loops, labels and functions over names. -/
inductive Control where
  | name (w : Name)
  | list (item : Name)
  | empty
  | block (body : List Control)
  | labeled (label : Name) (body : Control)
  | if (test : Name) (consequent : Control)
  | ifElse (test : Name) (consequent alternate : Control)
  | while (test : Name) (body : Control)
  | doWhile (test : Name) (body : Control)
  | for (init test update : Option Name) (body : Control)
  | forIn (left right : Name) (body : Control)
  | function (f : Name) (strings : List Directive) (body : List Control)

namespace Control

/-! ## Trees -/

/-- The trees of strings. -/
def stringTrees (strings : List Directive) : List Tree.Stmt :=
  strings.map fun s => .expression (.string s.1) s.2

mutual

/-- The tree of a statement. -/
def tree : Control → Tree.Stmt
  | name w => .expression (.identifier w.word) none
  | list item => .expression (.array [some (.identifier item.word)]) none
  | empty => .empty
  | block body => .block (trees body)
  | labeled label body => .labeled label.word body.tree
  | .if test consequent => .if (.identifier test.word) consequent.tree
  | ifElse test consequent alternate =>
    .ifElse (.identifier test.word) consequent.tree alternate.tree
  | .while test body => .while (.identifier test.word) body.tree
  | doWhile test body => .doWhile (.identifier test.word) body.tree
  | .for init test update body =>
    .for (init.map (.identifier ·.word)) (test.map (.identifier ·.word))
      (update.map (.identifier ·.word)) body.tree
  | forIn left right body =>
    .forEach .keys (.identifier left.word) (.identifier right.word) body.tree false
  | function f strings body => .function ⟨some f.word, [], stringTrees strings ++ trees body, false, false⟩

/-- The trees of statements. -/
def trees : List Control → List Tree.Stmt
  | [] => []
  | s :: rest => s.tree :: trees rest

end

/-- The items of a module of strings and statements. -/
def items (strings : List Directive) (body : List Control) : List Tree.Item :=
  (stringTrees strings ++ trees body).map .statement

/-- What strings at the start of a body are read as. -/
def stringsParsed (o : Options) (strings : List Directive) : List Script.Stmt :=
  strings.map fun s => .directive s.1 (spelling o.quote s.1)

mutual

/-- What a statement is read as before it is lowered. -/
def parsed (o : Options) : Control → Script.Stmt
  | name w => .expression (.identifier w.word)
  | list item => .expression (.array [some (.identifier item.word)] false)
  | empty => .empty
  | block body => .block (parsedAll o body)
  | labeled label body => .labeled label.word (body.parsed o)
  | .if test consequent => .if (.identifier test.word) (consequent.parsed o)
  | ifElse test consequent alternate =>
    .ifElse (.identifier test.word) (consequent.parsed o) (alternate.parsed o)
  | .while test body => .while (.identifier test.word) (body.parsed o)
  | doWhile test body => .doWhile (.identifier test.word) (body.parsed o)
  | .for init test update body =>
    .for ((init.map (·.word)).map .identifier) ((test.map (·.word)).map .identifier)
      ((update.map (·.word)).map .identifier) (body.parsed o)
  | forIn left right body =>
    .forEach .keys (.identifier left.word) (.identifier right.word) (body.parsed o) false
  | function f strings body =>
    .function ⟨some f.word, [], stringsParsed o strings ++ parsedAll o body, false, false⟩

/-- What statements are read as. -/
def parsedAll (o : Options) : List Control → List Script.Stmt
  | [] => []
  | s :: rest => s.parsed o :: parsedAll o rest

end

/-! ## Statements that are read back -/

/-- Whether a statement is a block. -/
def isBlock : Control → Bool
  | block _ => true
  | _ => false

/-- Whether a statement is empty. -/
def isEmpty : Control → Bool
  | empty => true
  | _ => false

/-- Whether a statement is a conditional. -/
def isIf : Control → Bool
  | .if .. | ifElse .. => true
  | _ => false

/-- Whether a statement takes an `else` behind it. -/
def isOpen : Control → Bool
  | .if .. => true
  | ifElse _ _ alternate => alternate.isOpen
  | labeled _ body | .while _ body | .for _ _ _ body | forIn _ _ body => body.isOpen
  | _ => false

/-- Whether a statement ends with an expression, so that a semicolon behind it is part of it. -/
def endsBare : Control → Bool
  | name _ | list _ | doWhile .. => true
  | ifElse _ _ alternate => alternate.endsBare
  | .if _ body | labeled _ body | .while _ body | .for _ _ _ body | forIn _ _ body => body.endsBare
  | _ => false

/-- Whether each semicolon between statements stays where it is if there are no others. The statement in
front ends with an expression if `bare` is set. -/
def keeps (bare : Bool) : List Control → Bool
  | empty :: _ => !bare
  | list _ :: _ => bare
  | _ => true

/-- Whether this holds at the end of strings in front of statements. -/
def keepsStrings (semicolons : Bool) (strings : List Directive) (body : List Control) : Bool :=
  strings.isEmpty || semicolons || keeps true body

mutual

/-- Whether every `else` of a statement stays with its conditional, and every semicolon in its place. -/
def isKept (semicolons : Bool) : Control → Bool
  | name _ | list _ | empty => true
  | block body => areKept semicolons body
  | function _ strings body => keepsStrings semicolons strings body && areKept semicolons body
  | ifElse _ consequent alternate =>
    !consequent.isOpen && consequent.isKept semicolons && alternate.isKept semicolons
  | .if _ body | labeled _ body | .while _ body | doWhile _ body | .for _ _ _ body | forIn _ _ body =>
    body.isKept semicolons

/-- Whether this holds for statements of a list. -/
def areKept (semicolons : Bool) : List Control → Bool
  | [] => true
  | s :: rest =>
    s.isKept semicolons && (semicolons || keeps s.endsBare rest) && areKept semicolons rest

end

theorem keepsStrings_semicolons {strings : List Directive} {body : List Control}
    (h : keepsStrings false strings body = true) (semicolons : Bool) :
    keepsStrings semicolons strings body = true := by
  simp only [keepsStrings, Bool.or_eq_true, Bool.false_eq_true, or_false] at h ⊢
  exact h.elim (fun h => .inl (.inl h)) .inr

mutual

/-- What is kept without semicolons is kept with them. -/
theorem isKept_semicolons : ∀ s : Control, s.isKept false = true → ∀ semicolons, s.isKept semicolons = true
  | name _ | list _ | empty => fun _ _ => rfl
  | block body => areKept_semicolons body
  | function _ strings body => fun h semicolons => by
    simp only [isKept, Bool.and_eq_true] at h ⊢
    exact ⟨keepsStrings_semicolons h.1 semicolons, areKept_semicolons body h.2 semicolons⟩
  | ifElse _ consequent alternate => fun h semicolons => by
    simp only [isKept, Bool.and_eq_true] at h ⊢
    exact ⟨⟨h.1.1, isKept_semicolons consequent h.1.2 semicolons⟩, isKept_semicolons alternate h.2 semicolons⟩
  | .if _ body | labeled _ body | .while _ body | doWhile _ body | .for _ _ _ body | forIn _ _ body =>
    isKept_semicolons body

theorem areKept_semicolons : ∀ body : List Control, areKept false body = true →
    ∀ semicolons, areKept semicolons body = true
  | [] => fun _ _ => rfl
  | s :: rest => fun h semicolons => by
    simp only [areKept, Bool.and_eq_true, Bool.false_or] at h ⊢
    exact ⟨⟨isKept_semicolons s h.1.1 semicolons, by rw [h.1.2, Bool.or_true]⟩,
      areKept_semicolons rest h.2 semicolons⟩

end

/-- A conditional without `else` in a block. -/
def inBraces : Control → Control
  | .if test body => block [.if test body]
  | s => s

mutual

/-- The statement as it is printed: with a block around each first branch that is a conditional without
`else`, and with the strings of functions as they are spelled. -/
def printed (quote : Char) : Control → Control
  | name w => name w
  | list item => list item
  | empty => empty
  | block body => block (printedAll quote body)
  | labeled label body => labeled label (body.printed quote)
  | .if test consequent => .if test (consequent.printed quote)
  | ifElse test consequent alternate =>
    ifElse test (consequent.printed quote).inBraces (alternate.printed quote)
  | .while test body => .while test (body.printed quote)
  | doWhile test body => doWhile test (body.printed quote)
  | .for init test update body => .for init test update (body.printed quote)
  | forIn left right body => forIn left right (body.printed quote)
  | function f strings body => function f (spelled quote strings) (printedAll quote body)

/-- The statements as they are printed. -/
def printedAll (quote : Char) : List Control → List Control
  | [] => []
  | s :: rest => s.printed quote :: printedAll quote rest

end

variable {o : Options}

theorem spelled_spelled (quote : Char) (strings : List Directive) :
    spelled quote (spelled quote strings) = spelled quote strings := by
  simp [spelled]

theorem lower_optionalName (w : Option Name) :
    Gives (Script.lowerOption ((w.map (·.word)).map .identifier)) (· = w.map (.identifier ·.word)) := by
  cases w <;> exact .pure rfl

theorem lower_inBraces {s : Control} (h : Gives (s.parsed o).lower (· = some s.tree)) :
    Gives (s.inBraces.parsed o).lower (· = some s.inBraces.tree) := by
  cases s with
  | «if» test body =>
    exact Gives.last (h.bind fun _ hs => .pure (P := (· = trees [.if test body])) (hs ▸ rfl)) fun _ hb => hb ▸ rfl
  | _ => exact h

/-- Statements behind strings are lowered to theirs. -/
theorem lower_strings {sts : List Script.Stmt} {trees : List Tree.Stmt}
    (h : Gives (Script.lowerStmts sts) (· = trees)) (strings : List Directive) :
    Gives (Script.lowerStmts (stringsParsed o strings ++ sts))
      (· = stringTrees (spelled o.quote strings) ++ trees) := by
  induction strings with
  | nil => exact h
  | cons s rest ih => exact (Gives.pure rfl).bind fun _ hs => ih.last fun _ hss => hs ▸ hss ▸ rfl

mutual

theorem lower_printed : ∀ s : Control,
    Gives ((s.printed o.quote).parsed o).lower (· = some (s.printed o.quote).tree)
  | name _ | list _ | empty => .pure rfl
  | block body => (lower_printedAll body).last fun _ hb => hb ▸ rfl
  | labeled _ body => (lower_printed body).last fun _ hb => hb ▸ rfl
  | .if _ consequent =>
    (Gives.pure rfl).bind fun _ ht => (lower_printed consequent).last fun _ hc => ht ▸ hc ▸ rfl
  | ifElse _ consequent alternate =>
    (Gives.pure rfl).bind fun _ ht => (lower_inBraces (lower_printed consequent)).bind fun _ hc =>
      (lower_printed alternate).last fun _ ha => ht ▸ hc ▸ ha ▸ rfl
  | .while _ body =>
    (Gives.pure rfl).bind fun _ ht => (lower_printed body).last fun _ hb => ht ▸ hb ▸ rfl
  | doWhile _ body =>
    (Gives.pure rfl).bind fun _ ht => (lower_printed body).last fun _ hb => ht ▸ hb ▸ rfl
  | .for init test update body =>
    (lower_optionalName init).bind fun _ hi => (lower_optionalName test).bind fun _ ht =>
      (lower_optionalName update).bind fun _ hu => (lower_printed body).last fun _ hb =>
        hi ▸ ht ▸ hu ▸ hb ▸ rfl
  | forIn _ _ body =>
    (Gives.pure rfl).bind fun _ hl => (Gives.pure rfl).bind fun _ hr =>
      (lower_printed body).last fun _ hb => hl ▸ hr ▸ hb ▸ rfl
  | function f strings body => by
    have hbody := lower_strings (o := o) (lower_printedAll body) (spelled o.quote strings)
    rw [spelled_spelled] at hbody
    exact Gives.last (hbody.bind fun _ hb => .pure (by rw [hb]))
      fun _ hf => congrArg (some <| Tree.Stmt.function ·) hf

theorem lower_printedAll : ∀ body : List Control,
    Gives (Script.lowerStmts (parsedAll o (printedAll o.quote body))) (· = trees (printedAll o.quote body))
  | [] => .pure rfl
  | s :: rest =>
    (lower_printed s).bind fun _ hs => (lower_printedAll rest).last fun _ hss => hs ▸ hss ▸ rfl

end

/-! ## Lexemes -/

/-- Whether a statement stands on a line of its own in a loop or conditional. -/
def onLine (s : Control) : Bool :=
  !(s.isBlock || s.isEmpty)

/-- The end of a statement, which ends with an expression if the flag is set. -/
def stopOf (o : Options) : Bool → List Lexeme
  | true => stop o.semicolons
  | false => []

/-- The semicolon in front of a list that would be read on from the line before. -/
def guardOf (semicolons : Bool) : List Control → List Lexeme
  | list _ :: _ => if semicolons then [] else [.punct ";" true]
  | _ => []

/-- What stands behind a string: the next one, or the semicolon in front of other lexemes. -/
def guardBehind (guard : List Lexeme) : List Directive → List Lexeme
  | [] => guard
  | _ :: _ => []

/-- The lexemes of strings in front of others, which may have a semicolon in front of them. -/
def withStrings (o : Options) (guard : List Lexeme) (rest : Bool → List Lexeme) (newline : Bool) :
    List Directive → List Lexeme
  | [] => rest newline
  | s :: strings =>
    ⟨.string s.1 (spelling o.quote s.1), newline⟩ :: (stopOf o true ++ (guardBehind guard strings ++
      withStrings o guard rest (guardBehind guard strings).isEmpty strings))

mutual

/-- The lexemes of a statement without the semicolon at its end. A line starts in front of the first if
`newline` is set. -/
def lexemes (o : Options) (newline : Bool) : Control → List Lexeme
  | name w => [.word w.word newline]
  | list item => [.punct "[" newline, .word item.word false, .punct "]" false]
  | empty => [.punct ";" newline]
  | block body =>
    .punct "\x7b" newline :: (lexemesAll o true body ++ [.punct "\x7d" (!body.isEmpty)])
  | labeled label body =>
    .word label.word newline :: .punct ":" false :: body.lexemes o false
  | .if test body =>
    .word "if" newline :: inParens test.word (body.lexemes o body.onLine)
  | ifElse test body alternate =>
    .word "if" newline :: inParens test.word (body.lexemes o body.onLine ++
      (stopOf o body.endsBare ++ .word "else" (!body.isBlock) ::
        alternate.lexemes o (!alternate.isIf && alternate.onLine)))
  | .while test body =>
    .word "while" newline :: inParens test.word (body.lexemes o body.onLine)
  | doWhile test body =>
    .word "do" newline :: (body.lexemes o body.onLine ++
      (stopOf o body.endsBare ++ .word "while" (!body.isBlock) :: inParens test.word []))
  | .for init test update body =>
    .word "for" newline :: .punct "(" false ::
      (optionalName (init.map (·.word)) ++ .punct ";" false ::
        (optionalName (test.map (·.word)) ++ .punct ";" false ::
          (optionalName (update.map (·.word)) ++ .punct ")" false :: body.lexemes o body.onLine)))
  | forIn left right body =>
    .word "for" newline :: .punct "(" false :: .word left.word false ::
      .word "in" false :: .word right.word false :: .punct ")" false :: body.lexemes o body.onLine
  | function f strings body =>
    .word "function" newline :: .word f.word false :: .punct "(" false :: .punct ")" false ::
      .punct "\x7b" false :: (withStrings o (guardOf o.semicolons body) (fun n => lexemesAll o n body) true
        strings ++ [.punct "\x7d" (!(strings.isEmpty && body.isEmpty))])

/-- The lexemes of statements, each on a line of its own. -/
def lexemesAll (o : Options) (newline : Bool) : List Control → List Lexeme
  | [] => []
  | s :: rest =>
    s.lexemes o newline ++ (stopOf o s.endsBare ++ (guardOf o.semicolons rest ++
      lexemesAll o (guardOf o.semicolons rest).isEmpty rest))

end

/-- The lexemes of a body of strings and statements. -/
abbrev bodyLexemes (o : Options) (newline : Bool) (strings : List Directive) (body : List Control) :
    List Lexeme :=
  withStrings o (guardOf o.semicolons body) (fun n => lexemesAll o n body) newline strings

/-! ## Reading -/

/-- A statement ends with the lexemes `last` in front of others. One that ends with an expression needs an
end, and another one has none. -/
def Closes (bare : Bool) (last ts : List Lexeme) : Prop :=
  match bare with
  | true => Stops last ts
  | false => last = []

/-- A statement ends with the lexemes `last` in front of others, which give it no `else`. -/
def EndsAt (s : Control) (last ts : List Lexeme) : Prop :=
  (s.isOpen = true → (front ts).isWord "else" = false) ∧ Closes s.endsBare last ts

variable {limit k : Nat} {last ts : List Lexeme} {n m : Bool}

theorem length_lexemes (s : Control) (o : Options) (n m : Bool) :
    (s.lexemes o n).length = (s.lexemes o m).length := by
  cases s <;> rfl

theorem length_lexemes_pos (s : Control) (o : Options) (n : Bool) : 0 < (s.lexemes o n).length := by
  cases s <;> exact Nat.succ_pos _

theorem lexemes_le_lexemesAll {body : List Control} {s : Control} (h : s ∈ body) (o : Options) (n m : Bool) :
    (s.lexemes o n).length ≤ (lexemesAll o m body).length := by
  induction body generalizing m with
  | nil => cases h
  | cons b rest ih =>
    simp only [lexemesAll, List.length_append]
    rcases List.mem_cons.1 h with rfl | h
    · rw [length_lexemes s o n m]
      omega
    · have := ih h (guardOf o.semicolons rest).isEmpty
      omega

theorem length_le_lexemesAll (body : List Control) (o : Options) (n : Bool) :
    body.length ≤ (lexemesAll o n body).length := by
  induction body generalizing n with
  | nil => exact Nat.zero_le _
  | cons s rest ih =>
    have hpos := length_lexemes_pos s o n
    have hrest := ih (guardOf o.semicolons rest).isEmpty
    simp only [lexemesAll, List.length_append, List.length_cons]
    omega

theorem length_bodyLexemes (strings : List Directive) (body : List Control) (o : Options) (n m : Bool) :
    (lexemesAll o m body).length + strings.length ≤ (bodyLexemes o n strings body).length := by
  induction strings generalizing n with
  | nil =>
    cases body with
    | nil => exact Nat.le_refl 0
    | cons s rest => simp [bodyLexemes, withStrings, lexemesAll, length_lexemes s o n m]
  | cons s strings ih =>
    have hrest := ih (guardBehind (guardOf o.semicolons body) strings).isEmpty
    simp only [bodyLexemes, withStrings, List.length_cons, List.length_append] at hrest ⊢
    omega

/-- Whether a token starts a statement. -/
def startsStatement : Script.Token → Bool
  | .word w _ => !(["else", "import", "export"].contains w)
  | .punct p => [";", "\x7b", "["].contains p
  | _ => false

theorem startsStatement_name {w : String} (h : isStatementName w = true) :
    startsStatement (.word w false) = true := by
  have hne := Script.ne_of_isStatementName h
  simp [startsStatement, hne "else" rfl, hne "import" rfl, hne "export" rfl]

theorem startsStatement_lexemes (s : Control) (o : Options) (n : Bool) (ts : List Lexeme) :
    startsStatement (front (s.lexemes o n ++ ts)) = true := by
  cases s with
  | name w => exact startsStatement_name w.isName
  | labeled label body => exact startsStatement_name label.isName
  | _ => rfl

theorem isWord_of_startsStatement {t : Script.Token} (h : startsStatement t = true) {w : String}
    (hw : startsStatement (.word w false) = false) : t.isWord w = false := by
  cases t with
  | word v escaped =>
    refine beq_eq_false_iff_ne.2 ?_
    rintro rfl
    cases h.symm.trans hw
  | _ => rfl

theorem ne_eof_of_startsStatement {t : Script.Token} (h : startsStatement t = true) :
    (t == .eof) = false := by
  cases t with
  | eof => cases h
  | _ => rfl

theorem ne_string_of_startsStatement {t : Script.Token} (h : startsStatement t = true) (value raw : String) :
    t ≠ .string value raw := by
  rintro rfl
  cases h

/-- Statements in front of other lexemes start with none of those that these do not start with. -/
theorem front_lexemesAll {P : Script.Token → Prop} (hstatement : ∀ t, startsStatement t = true → P t)
    (hts : P (front ts)) (o : Options) (n : Bool) (body : List Control) :
    P (front (lexemesAll o n body ++ ts)) := by
  cases body with
  | nil => exact hts
  | cons s rest =>
    rw [lexemesAll, List.append_assoc]
    exact hstatement _ (startsStatement_lexemes ..)

theorem word_optionalName {w : Option Name} : ∀ v ∈ w.map (·.word), isStatementName v = true := by
  cases w with
  | none => rintro _ ⟨⟩
  | some w =>
    rintro _ ⟨⟩
    exact w.isName

/-- A statement ends with its semicolon, or in front of what ends a line. -/
theorem closes_stopOf {bare : Bool} (h : o.semicolons = false → bare = true → endsLine ts = true) :
    Closes bare (stopOf o bare) ts := by
  cases bare with
  | false => rfl
  | true =>
    cases hsemicolons : o.semicolons with
    | false =>
      simp only [stopOf, hsemicolons]
      exact .line (h hsemicolons rfl)
    | true =>
      simp only [stopOf, hsemicolons]
      exact .semicolon false ts

/-- The word behind a statement in a conditional or loop ends it. -/
theorem closes_keyword {w : String} {us : List Lexeme} (s : Control)
    (h : endsLine (.word w true :: us) = true) :
    Closes s.endsBare (stopOf o s.endsBare) (.word w (!s.isBlock) :: us) := by
  cases s with
  | block body => rfl
  | _ => exact closes_stopOf fun _ _ => h

theorem closes_unguarded {bare : Bool} {rest : List Control} (hguard : guardOf o.semicolons rest = [])
    (h : o.semicolons = false → bare = true → endsLine (lexemesAll o true rest ++ ts) = true) :
    Closes bare (stopOf o bare ++ guardOf o.semicolons rest)
      (lexemesAll o (guardOf o.semicolons rest).isEmpty rest ++ ts) := by
  rw [hguard, List.append_nil]
  exact closes_stopOf h

/-- A statement of a list ends in front of the next one, if each semicolon stays where it is. -/
theorem closes_rest {bare : Bool} {rest : List Control}
    (h : (o.semicolons || keeps bare rest) = true) (hts : endsLine ts = true) :
    Closes bare (stopOf o bare ++ guardOf o.semicolons rest)
      (lexemesAll o (guardOf o.semicolons rest).isEmpty rest ++ ts) := by
  cases rest with
  | nil => exact closes_unguarded rfl fun _ _ => hts
  | cons next rest =>
    cases next with
    | list item =>
      cases hsemicolons : o.semicolons with
      | true =>
        rw [← hsemicolons]
        refine closes_unguarded (by rw [hsemicolons]; rfl) fun hnone => ?_
        cases hsemicolons.symm.trans hnone
      | false =>
        rw [hsemicolons] at h
        obtain rfl : bare = true := h
        simp only [stopOf, hsemicolons]
        exact .semicolon true _
    | empty =>
      refine closes_unguarded rfl fun hsemicolons hbare => ?_
      rw [hsemicolons, hbare] at h
      cases h
    | name w => exact closes_unguarded rfl fun _ _ => Script.endsLine_name w.isName
    | labeled label body => exact closes_unguarded rfl fun _ _ => Script.endsLine_name label.isName
    | _ => exact closes_unguarded rfl fun _ _ => rfl

/-- Statements of a list are read one after the other. -/
theorem reads_list {α : Type} {item : Reader (Option α)} {f : Control → α} {body : List Control}
    (hitem : ∀ s ∈ body, ∀ n last us, s.isKept o.semicolons = true → s.EndsAt last us →
      Reads item (s.lexemes o n ++ (last ++ us)) (some (f s)) us)
    (hstop : Sees item ts none) (hts : endsLine ts = true) (helse : (front ts).isWord "else" = false)
    (hkept : areKept o.semicolons body = true) {limit : Nat} (hlimit : body.length < limit) :
    Reads (Reader.many item limit) (lexemesAll o n body ++ ts) (body.map f) ts := by
  induction body generalizing n limit with
  | nil =>
    obtain ⟨limit, rfl⟩ := Nat.exists_eq_add_of_lt hlimit
    exact Script.Leads.many_nil hstop _
  | cons s rest ih =>
    obtain ⟨limit, rfl⟩ : ∃ l, limit = l + 1 := ⟨limit - 1, by simp at hlimit; omega⟩
    simp only [areKept, Bool.and_eq_true] at hkept
    obtain ⟨⟨hs, hkeeps⟩, hrest⟩ := hkept
    have hclosed := front_lexemesAll (P := (·.isWord "else" = false))
      (fun t ht => isWord_of_startsStatement ht rfl) helse o (guardOf o.semicolons rest).isEmpty rest
    have hfirst := hitem s List.mem_cons_self n _ _ hs ⟨fun _ => hclosed, closes_rest hkeeps hts⟩
    simp only [lexemesAll, List.append_assoc] at hfirst ⊢
    exact .many_cons hfirst
      (ih (fun s hs => hitem s (List.mem_cons_of_mem _ hs)) hrest (by simpa using hlimit))

/-- Strings in front of statements are read as directives. -/
theorem reads_strings {α : Type} {r : Nat → Reader (List α)} {f : Script.Stmt → α} {as : List α}
    {strings : List Directive} {body : List Control}
    (hbase : ∀ limit n, Reads (r (limit + 1)) (lexemesAll o n body ++ ts) as ts)
    (hstep : ∀ limit value n last us bs, Stops last us → Reads (r limit) us bs ts →
      Reads (r (limit + 1)) (⟨.string value (spelling o.quote value), n⟩ :: (last ++ us))
        (f (.directive value (spelling o.quote value)) :: bs) ts)
    (hts : endsLine ts = true) (hkeeps : keepsStrings o.semicolons strings body = true)
    (hlimit : strings.length ≤ limit) :
    Reads (r (limit + 1)) (bodyLexemes o n strings body ++ ts) ((stringsParsed o strings).map f ++ as) ts := by
  induction strings generalizing n limit with
  | nil => exact hbase limit n
  | cons s strings ih =>
    obtain ⟨limit, rfl⟩ : ∃ l, limit = l + 1 := ⟨limit - 1, by simp at hlimit; omega⟩
    have hkeeps' : (o.semicolons || keeps true body) = true := hkeeps
    have hends : Closes true (stopOf o true ++ guardBehind (guardOf o.semicolons body) strings)
        (bodyLexemes o (guardBehind (guardOf o.semicolons body) strings).isEmpty strings body ++ ts) := by
      cases strings with
      | nil => exact closes_rest hkeeps' hts
      | cons next strings =>
        rw [guardBehind, List.append_nil]
        exact closes_stopOf fun _ _ => rfl
    have hrest := ih (n := (guardBehind (guardOf o.semicolons body) strings).isEmpty)
      (by rw [keepsStrings, Bool.or_assoc, hkeeps', Bool.or_true]) (by simpa using hlimit)
    have hread := hstep _ s.1 n _ _ _ hends hrest
    simp only [bodyLexemes, withStrings, List.cons_append, List.append_assoc] at hread ⊢
    exact hread

theorem parsedAll_eq_map (body : List Control) : parsedAll o body = body.map (parsed o) := by
  induction body with
  | nil => rfl
  | cons s rest ih => rw [parsedAll, ih, List.map_cons]

/-- A statement is read as what it was printed from, in front of lexemes at which it ends. The rounds of
readers it takes are fewer than its lexemes. -/
def IsRead (o : Options) (limit : Nat) (s : Control) : Prop :=
  ∀ (c : Context) (last ts : List Lexeme) (n : Bool) (k : Nat) (place : Place), c.allowIn = true →
    s.isKept o.semicolons = true → s.EndsAt last ts →
    (s.lexemes o n).length ≤ limit → (s.lexemes o n).length ≤ k + 1 →
    Reads (Reader.statementOf (readers limit k).next c place) (s.lexemes o n ++ (last ++ ts))
      (s.parsed o) ts

/-- A part of a statement is read by the readers of the round before. -/
theorem IsRead.part {s : Control} (h : IsRead o limit s) {c : Context} {place : Place}
    (hc : c.allowIn = true) (hkept : s.isKept o.semicolons = true) (hend : s.EndsAt last ts)
    (hlimit : (s.lexemes o n).length ≤ limit) (hk : (s.lexemes o n).length ≤ k) :
    Reads ((readers limit k).next.statement c place) (s.lexemes o n ++ (last ++ ts))
      (s.parsed o) ts := by
  have hpos := length_lexemes_pos s o n
  obtain ⟨k, rfl⟩ : ∃ j, k = j + 1 := ⟨k - 1, by omega⟩
  exact h c last ts n k place hc hkept hend hlimit hk

/-- The statements of a block or function are read. -/
theorem reads_statements {body : List Control} (h : ∀ s ∈ body, IsRead o limit s) {c : Context}
    (hc : c.allowIn = true) (hkept : areKept o.semicolons body = true)
    (hlimit : (lexemesAll o n body).length ≤ limit) (hk : (lexemesAll o n body).length ≤ k) :
    Reads (Reader.statements (readers limit k).next c) (lexemesAll o n body ++ .punct "\x7d" m :: ts)
      (parsedAll o body) (.punct "\x7d" m :: ts) := by
  have hlength := length_le_lexemesAll body o n
  have hmem : ∀ s ∈ body, ∀ m, (s.lexemes o m).length ≤ (lexemesAll o n body).length :=
    fun s hs m => lexemes_le_lexemesAll hs o m n
  have hreaders : (readers limit k).next.limit = limit := Script.limit_readers limit (k + 1)
  rw [parsedAll_eq_map]
  refine reads_list (fun s hs n last us hkept hend => ?_) .listStatement_end rfl rfl hkept (by omega)
  have hlexemes := hmem s hs n
  have hfront := startsStatement_lexemes s o n (last ++ us)
  exact .listStatement (ne_eof_of_startsStatement hfront) (Script.Token.isPunct_eq_false hfront rfl)
    ((h s hs).part hc hkept hend (by omega) (by omega))

theorem IsRead.block {body : List Control} (h : ∀ s ∈ body, IsRead o limit s) :
    IsRead o limit (.block body) := by
  intro c last ts n k place hc hkept hend hlimit hk
  obtain rfl : last = [] := hend.2
  simp only [lexemes, List.length_cons, List.length_append, List.length_nil] at hlimit hk
  rw [lexemes, List.cons_append, List.append_assoc]
  exact .statement_block (reads_statements h hc hkept (by omega) (by omega))

theorem IsRead.function {body : List Control} (f : Name) (strings : List Directive)
    (h : ∀ s ∈ body, IsRead o limit s) : IsRead o limit (.function f strings body) := by
  intro c last ts n k place hc hkept hend hlimit hk
  obtain rfl : last = [] := hend.2
  simp only [isKept, Bool.and_eq_true] at hkept
  simp only [lexemes, List.length_cons, List.length_append, List.length_nil] at hlimit hk
  obtain ⟨k, rfl⟩ : ∃ j, k = j + 1 := ⟨k - 1, by omega⟩
  have hreaders : (readers limit (k + 1)).next.limit = limit := Script.limit_readers limit (k + 2)
  have hlength := length_bodyLexemes strings body o true
  simp only [bodyLexemes] at hlength
  have hread : Reads (Reader.bodyStatements (readers limit (k + 1)).next
      { c.ofFunction false false with inFunction := true } ((readers limit (k + 1)).next.limit + 1))
      (bodyLexemes o true strings body ++ .punct "\x7d" (!(strings.isEmpty && body.isEmpty)) :: ts)
      ((stringsParsed o strings).map id ++ parsedAll o body)
      (.punct "\x7d" (!(strings.isEmpty && body.isEmpty)) :: ts) := by
    refine reads_strings (fun _ n => ?_)
      (fun _ _ _ _ _ _ hstops hsts => .bodyStatements_string (.statement_string rfl hstops) hsts) rfl
      hkept.1 ?_
    · have := hlength n
      exact .bodyStatements_statements (front_lexemesAll (P := fun t => ∀ value raw, t ≠ .string value raw)
          (fun _ => ne_string_of_startsStatement) (fun _ _ heq => by cases heq) o n body)
        (reads_statements h rfl hkept.2 (by omega) (by omega))
    · have := hlength n
      omega
  rw [List.map_id] at hread
  simp only [lexemes, List.cons_append, List.append_assoc]
  exact .statement_function f.isName hread

mutual

theorem isRead : ∀ s : Control, IsRead o limit s
  | name w => fun _ _ _ _ _ _ hc _ hend _ _ => .statement_name hc w.isName hend.2
  | list item => fun _ _ _ _ k _ hc _ hend _ hk => by
    obtain ⟨k, rfl⟩ : ∃ j, k = j + 1 := ⟨k - 1, by simp [lexemes] at hk; omega⟩
    exact .statement_list hc item.isName hend.2
  | empty => fun _ _ _ _ _ _ _ _ hend _ _ => by
    obtain rfl := hend.2
    exact .statement_empty
  | block body => IsRead.block (areRead body)
  | function f strings body => IsRead.function f strings (areRead body)
  | labeled label body => fun _ _ _ _ _ _ hc hkept hend hlimit hk => by
    simp only [lexemes, List.length_cons] at hlimit hk
    exact .statement_label label.isName ((isRead body).part hc hkept hend (by omega) (by omega))
  | .if test body => fun _ _ _ _ _ _ hc hkept hend hlimit hk => by
    simp only [lexemes, inParens, List.length_cons] at hlimit hk
    exact .statement_if test.isName
      ((isRead body).part hc hkept ⟨fun _ => hend.1 rfl, hend.2⟩ (by omega) (by omega)) (hend.1 rfl)
  | ifElse test body alternate => fun _ _ _ _ _ _ hc hkept hend hlimit hk => by
    simp only [lexemes, inParens, List.length_cons, List.length_append] at hlimit hk
    simp only [isKept, Bool.and_eq_true, Bool.not_eq_true'] at hkept
    obtain ⟨⟨hopen, hbody⟩, halternate⟩ := hkept
    simp only [lexemes, inParens, List.cons_append, List.append_assoc]
    exact .statement_ifElse test.isName
      ((isRead body).part hc hbody
        ⟨fun h => absurd h (Bool.eq_false_iff.1 hopen), closes_keyword body rfl⟩ (by omega) (by omega))
      ((isRead alternate).part hc halternate hend (by omega) (by omega))
  | .while test body => fun _ _ _ _ _ _ hc hkept hend hlimit hk => by
    simp only [lexemes, inParens, List.length_cons] at hlimit hk
    exact .statement_while test.isName ((isRead body).part hc hkept hend (by omega) (by omega))
  | doWhile test body => fun _ _ _ _ _ _ hc hkept hend hlimit hk => by
    simp only [lexemes, inParens, List.length_cons, List.length_append] at hlimit hk
    simp only [lexemes, inParens, List.cons_append, List.append_assoc]
    exact .statement_do test.isName ((isRead body).part hc hkept
      ⟨fun _ => rfl, closes_keyword body rfl⟩ (by omega) (by omega)) hend.2
  | .for init test update body => fun _ _ _ _ _ _ hc hkept hend hlimit hk => by
    simp only [lexemes, List.length_cons, List.length_append] at hlimit hk
    simp only [lexemes, List.cons_append, List.append_assoc]
    exact .statement_for word_optionalName word_optionalName word_optionalName
      ((isRead body).part hc hkept hend (by omega) (by omega))
  | forIn left right body => fun _ _ _ _ _ _ hc hkept hend hlimit hk => by
    simp only [lexemes, List.length_cons] at hlimit hk
    exact .statement_forIn left.isName right.isName
      ((isRead body).part hc hkept hend (by omega) (by omega))

theorem areRead : ∀ body : List Control, ∀ s ∈ body, IsRead o limit s
  | [] => List.forall_mem_nil _
  | s :: rest => List.forall_mem_cons.2 ⟨isRead s, areRead rest⟩

end

end Control

end CustomElement.Emit
