import CustomElement.Proofs.Grammar.Lexeme
import CustomElement.Proofs.Script.Leads
import CustomElement.Script.Parse

/-!
# Reading lexemes

A cursor stands in a text, but what a reader does depends on the lexemes ahead only. `Stands ts` is the
place in front of the lexemes `ts`, where no fault has been noted. `Reads r ts a us` says that a reader
gives `a` there and leaves the cursor in front of `us`. Since `Stands ts` is a place, the laws are those
for runs between places; what they ask of the token ahead is closed by evaluation wherever the lexemes
are known.
-/

/-- The lexeme of a word without escapes. -/
abbrev CustomElement.Grammar.Lexeme.word (w : String) (newline : Bool) : Lexeme :=
  ⟨.word w false, newline⟩

/-- The lexeme of a punctuator. -/
abbrev CustomElement.Grammar.Lexeme.punct (symbol : String) (newline : Bool) : Lexeme :=
  ⟨.punct symbol, newline⟩

namespace CustomElement.Script

open CustomElement.Grammar

/-! ## Places in front of lexemes -/

/-- A text is cut into lexemes. -/
inductive Cuts : List Char → List Lexeme → Prop
  | done {text : List Char} {newline : Bool}
      (hgap : skipGap .blank false text = some (newline, [])) : Cuts text []
  | token {text here rest : List Char} {newline : Bool} {t : Token} {ts : List Lexeme}
      (hgap : skipGap .blank false text = some (newline, here))
      (hread : readToken here = some (t, rest)) (hrest : Cuts rest ts) :
      Cuts text (⟨t, newline⟩ :: ts)

/-- The first token of lexemes. -/
def front : List Lexeme → Token
  | [] => .eof
  | l :: _ => l.token

/-- Whether a statement may end in front of lexemes. -/
def endsHere : List Lexeme → Bool
  | [] => true
  | l :: _ =>
    match l.token with
    | .eof => true
    | .punct p => p == ";" || p == "\x7d" || l.newline
    | _ => l.newline

/-- The place in front of lexemes. No fault is noted, and no name with a default waits for its pattern. -/
structure Stands (ts : List Lexeme) (c : Cursor) : Prop where
  token : c.token = front ts
  newline : ∀ l ∈ ts.head?, c.newline = l.newline
  sound : c.faulty = false
  settled : c.pending = 0
  rest : Cuts c.rest ts.tail

theorem stands_land {c : Cursor} {text : List Char} {ts : List Lexeme} (h : Cuts text ts)
    (hsound : c.faulty = false) (hsettled : c.pending = 0) : Stands ts (c.land .blank text) := by
  cases h with
  | done hgap =>
    rw [Cursor.land_eq c hgap (rfl : readToken [] = some (.eof, []))]
    exact ⟨rfl, by rintro _ ⟨⟩, hsound, hsettled, .done rfl⟩
  | token hgap hread hrest =>
    rw [Cursor.land_eq c hgap hread]
    refine ⟨rfl, ?_, hsound, hsettled, hrest⟩
    rintro _ ⟨⟩
    rfl

/-- Moving on from lexemes leads behind the first one. -/
theorem stands_passes (ts : List Lexeme) : Passes (Stands ts) (front ts) (Stands ts.tail) :=
  ⟨fun _ hc => hc.token, fun _ hc => stands_land hc.rest hc.sound hc.settled⟩

theorem stands_shows (ts : List Lexeme) : Shows (Stands ts) (front ts) :=
  (stands_passes ts).shows

@[simp] theorem limit_readers (limit rounds : Nat) : (readers limit rounds).limit = limit := by
  induction rounds with
  | zero => rfl
  | succ rounds ih => exact ih

/-- A reader gives `a` in front of the lexemes `ts`, and leaves the cursor in front of `us`. -/
def Reads {α : Type} (r : Reader α) (ts : List Lexeme) (a : α) (us : List Lexeme) : Prop :=
  Leads (Stands ts) r a (Stands us)

/-- A reader gives `a` in front of the lexemes `ts`, and leaves the cursor there. -/
abbrev Sees {α : Type} (r : Reader α) (ts : List Lexeme) (a : α) : Prop :=
  Reads r ts a ts

namespace Reads

variable {α β : Type} {r : Reader α} {k : α → Reader β} {a : α} {b : β} {ts us vs : List Lexeme}
  {l : Lexeme}

theorem pure : Reads (pure a) ts a ts :=
  Leads.pure

theorem bind (h : Reads r ts a us) (hk : Reads (k a) us b vs) : Reads (r >>= k) ts b vs :=
  Leads.bind h hk

theorem pos {p : Prop} [Decidable p] {r' : Reader α} (hp : p) (h : Reads r ts a us) :
    Reads (if p then r else r') ts a us :=
  Leads.pos hp h

theorem neg {p : Bool} {r' : Reader α} (hp : p = false) (h : Reads r' ts a us) :
    Reads (if p = true then r else r') ts a us :=
  Leads.neg hp h

/-- A reader that looks at the cursor. -/
theorem get {k : Cursor → Reader β} (h : ∀ c, Stands ts c → Reads (k c) ts b us) :
    Reads (MonadState.get >>= k) ts b us :=
  Leads.get h

/-! ## Looking at the token -/

theorem atPunct (ts : List Lexeme) (symbol : String) :
    Reads (Reader.atPunct symbol) ts ((front ts).isPunct symbol) ts :=
  Leads.atPunct (stands_shows ts) symbol

theorem atWord (ts : List Lexeme) (name : String) :
    Reads (Reader.atWord name) ts ((front ts).isWord name) ts :=
  Leads.atWord (stands_shows ts) name

theorem onNewLine : Reads Reader.onNewLine (l :: ts) l.newline (l :: ts) := by
  refine .get fun c hc => ?_
  rw [hc.newline l rfl]
  exact .pure

theorem atEnd (ts : List Lexeme) : Reads Reader.atEnd ts (front ts == .eof) ts := by
  refine .get fun c hc => ?_
  rw [hc.token]
  exact .pure

theorem canEnd (ts : List Lexeme) : Reads Reader.canEnd ts (endsHere ts) ts := by
  refine .get fun c hc => ?_
  rw [hc.token]
  obtain _ | ⟨⟨t, newline⟩, ts⟩ := ts
  · exact .pure
  · rw [hc.newline ⟨t, newline⟩ rfl]
    cases t <;> exact .pure

/-! ## Moving on -/

theorem advance : Reads Reader.advance (l :: ts) () ts :=
  Leads.advance (stands_passes (l :: ts))

theorem bump (h : l.token.isEscaped = false) : Reads Reader.bump (l :: ts) () ts :=
  Leads.bump (stands_passes (l :: ts)) h

theorem eat {symbol : String} (h : l.token.isPunct symbol = true) :
    Reads (Reader.eat symbol) (l :: ts) true ts :=
  Leads.eat (stands_passes (l :: ts)) h

theorem eat_not {symbol : String} (h : (front ts).isPunct symbol = false) :
    Reads (Reader.eat symbol) ts false ts :=
  Leads.eat_not (stands_shows ts) h

theorem expect {symbol : String} (h : l.token.isPunct symbol = true) :
    Reads (Reader.expect symbol) (l :: ts) () ts :=
  Leads.expect (stands_passes (l :: ts)) h

theorem eatWord {name : String} (h : l.token.isWord name = true) (hplain : l.token.isEscaped = false) :
    Reads (Reader.eatWord name) (l :: ts) true ts :=
  Leads.eatWord (stands_passes (l :: ts)) h hplain

theorem eatWord_not {name : String} (h : (front ts).isWord name = false) :
    Reads (Reader.eatWord name) ts false ts :=
  Leads.eatWord_not (stands_shows ts) h

theorem expectWord {name : String} (h : l.token.isWord name = true)
    (hplain : l.token.isEscaped = false) : Reads (Reader.expectWord name) (l :: ts) () ts :=
  Leads.expectWord (stands_passes (l :: ts)) h hplain

/-- The end of a statement at its semicolon. -/
theorem endStatement (h : l.token.isPunct ";" = true) : Reads Reader.endStatement (l :: ts) () ts :=
  .bind (.eat h) .pure

/-- The end of a statement without a semicolon. -/
theorem endStatement_here (hstop : (front ts).isPunct ";" = false) (h : endsHere ts = true) :
    Reads Reader.endStatement ts () ts :=
  .bind (.eat_not hstop) <| .bind (.canEnd ts) <| .pos h .pure

/-! ## Lists of statements -/

theorem many_cons {r : Reader (Option α)} {as : List α} {limit : Nat} (h : Reads r ts (some a) us)
    (hrest : Reads (Reader.many r limit) us as vs) :
    Reads (Reader.many r (limit + 1)) ts (a :: as) vs :=
  h.bind <| hrest.bind .pure

/-! ## Modules -/

/-- A statement as an item of a module. -/
theorem item_statement {r : Readers} {c : Context} {st : Stmt} (hend : (front ts == .eof) = false)
    (himport : (front ts).isWord "import" = false) (hexport : (front ts).isWord "export" = false)
    (hat : (front ts).isPunct "@" = false) (h : Reads (r.statement c .list) ts st us) :
    Reads (Reader.item? r c) ts (some (.statement st)) us := by
  have hmodule : Reads Reader.atModuleItem ts false ts := by
    refine .bind (.atWord ts "import") <| .neg himport ?_
    rw [← hexport]
    exact .atWord ts "export"
  exact .bind (.atEnd ts) <| .neg hend <| hmodule.bind <| .neg rfl <| .bind (.atPunct ts "@") <|
    .neg hat <| h.bind .pure

theorem item_end {r : Readers} {c : Context} : Reads (Reader.item? r c) [] none [] :=
  .bind (.atEnd []) <| .pos rfl .pure

/-- A module without a string at its start. -/
theorem moduleItems_items {text : List Char} {c : Context} {items : List Item} {limit : Nat}
    (hstring : ∀ value raw, front ts ≠ .string value raw)
    (h : Reads (Reader.many (Reader.item? (readersFor text) c) (text.length + 2)) ts items us) :
    Reads (Reader.moduleItems (readersFor text) c (limit + 1)) ts items us := by
  refine .get fun cursor hc => ?_
  rw [hc.token]
  split
  · exact absurd ‹_› (hstring _ _)
  · rw [readersFor, limit_readers]
    exact h

/-- A string at the start of a module is a directive. -/
theorem moduleItems_string {r : Readers} {c : Context} {items : List Item} {limit : Nat} {n : Bool}
    {value raw : String} {literal : Tree.Literal}
    (h : Reads (r.statement c .list) (⟨.string value raw, n⟩ :: ts) (.expression (.literal literal)) us)
    (hitems : Reads (Reader.moduleItems r c limit) us items vs) :
    Reads (Reader.moduleItems r c (limit + 1)) (⟨.string value raw, n⟩ :: ts)
      (.statement (.directive value raw) :: items) vs := by
  refine .get fun cursor hc => ?_
  rw [hc.token]
  exact h.bind <| hitems.bind .pure

end Reads

/-- A text that is cut into lexemes has no first line for the shell. -/
theorem modulePlace_of_cuts {text : List Char} {ts : List Lexeme} (h : Cuts text ts) :
    modulePlace text = .blank := by
  refine if_neg fun hshell => ?_
  obtain ⟨rest, rfl⟩ := List.isPrefixOf_iff_prefix.1 hshell
  cases h with
  | done hgap => cases hgap
  | token hgap hread =>
    cases hgap
    cases hread

/-- The tree of a module from what its items are read as. -/
theorem parseModule_of_reads {text : List Char} {ts : List Lexeme} {items : List Item}
    {trees : List Tree.Item} (hcuts : Cuts text ts)
    (hitems : Reads (Reader.moduleItems (readersFor text) .module (text.length + 1)) ts items [])
    (hlower : lowerItems items = .ok trees) : parseModule text = .ok trees := by
  have hstart : Stands ts (Cursor.start .blank text) := stands_land hcuts rfl rfl
  obtain ⟨c, hc, hend⟩ := hitems _ hstart
  have haccepted : accepted .blank text
      (Reader.moduleItems (readersFor text) .module (text.length + 1)) = some (items, c.behind) := by
    simp [accepted, hc, hend.sound, hend.settled]
  rw [parseModule, modulePlace_of_cuts hcuts]
  simp only [haccepted, hlower]
  rfl

end CustomElement.Script
