import CustomElement.Proofs.Emit.Marks
import CustomElement.Proofs.Grammar.Terminal
import Mathlib.Data.List.SplitBy

/-!
# Documents whose terminals do not depend on the layout

`Laid b ends d` says that the terminals of a document `d`, in front of texts at which `ends` holds, are the
same under all options that agree on semicolons. Documents are put together by `Laid.append`: what a part
ends with must not run into what the next one starts with. Most parts only have to be followed by one of a
few characters (`Breaks`), and `Follows` says that a part starts with one of them, or is empty and leaves
it to the next part. The texts that are always the same are split by `groups`, so that the condition is
computed (`isFixed`, `isEnding`).
-/

namespace CustomElement.Emit

open CustomElement.Text CustomElement.Grammar CustomElement.Tree
open CustomElement.Script (NumberEnds FractionEnds punctuators rightAngles isRegex isFlagChar)

/-! ## Texts that end a part -/

/-- Characters that no printed part runs into. -/
def breaks : List Char :=
  [' ', '\n', '(', ')', '[', ']', '\x7d', ',', ';', ':', '?', '+', '-', '`']

/-- Text that starts with a character that no printed part runs into. -/
def Breaks (rest : List Char) : Prop :=
  ∀ c ∈ rest.head?, c ∈ breaks

theorem breaks_cons {c : Char} (hc : c ∈ breaks) (rest : List Char) : Breaks (c :: rest) := by
  rintro _ ⟨⟩
  exact hc

theorem Breaks.wordEnds {rest : List Char} (h : Breaks rest) : WordEnds rest := by
  have hall : ∀ c ∈ breaks, isIdentifierPart c = false ∧ c ≠ '\\' := List.all_iff_forall_prop.1 (by decide)
  exact fun c hc => hall c (h c hc)

theorem Breaks.numberEnds {rest : List Char} (h : Breaks rest) : NumberEnds rest := by
  have hall : ∀ c ∈ breaks, isAsciiDigit c = false ∧ isIdentifierStart c = false ∧ c ≠ '.' :=
    List.all_iff_forall_prop.1 (by decide)
  exact fun c hc => hall c (h c hc)

/-! ## Documents -/

/-- The terminals of a document, in front of texts at which `ends` holds, are the same under all options
that agree on semicolons. -/
def Laid (b : Bool) (ends : List Char → Prop) (d : Doc) : Prop :=
  ∃ f : List Terminal → List Terminal, ∀ o : Options, o.semicolons = b →
    ∀ rest ts, ends rest → Splits rest ts → Splits (d.render o ++ rest) (f ts)

/-- A document that may stand behind any part. -/
structure Follows (b : Bool) (ends : List Char → Prop) (d : Doc) : Prop where
  laid : Laid b ends d
  starts : ∀ o rest, ends rest → Breaks (d.render o ++ rest)

variable {b : Bool} {ends ends' : List Char → Prop} {d d' : Doc} {level : Nat}

namespace Laid

theorem nil : Laid b ends [] :=
  ⟨id, fun _ _ _ _ _ h => h⟩

theorem mono (h : Laid b ends d) (hends : ∀ rest, ends' rest → ends rest) : Laid b ends' d := by
  obtain ⟨f, hf⟩ := h
  exact ⟨f, fun o ho rest ts hrest => hf o ho rest ts (hends rest hrest)⟩

/-- What anything may follow on. -/
theorem any (h : Laid b AnyText d) : Laid b ends d :=
  h.mono fun _ _ => trivial

/-- What only must not continue a word. -/
theorem broken (h : Laid b WordEnds d) : Laid b Breaks d :=
  h.mono fun _ hrest => hrest.wordEnds

theorem append (h : Laid b ends d) (h' : Laid b ends' d')
    (hends : ∀ o rest, ends' rest → ends (d'.render o ++ rest)) : Laid b ends' (d ++ d') := by
  obtain ⟨f, hf⟩ := h
  obtain ⟨f', hf'⟩ := h'
  refine ⟨f ∘ f', fun o ho rest ts hrest hts => ?_⟩
  rw [render_append, List.append_assoc]
  exact hf o ho _ _ (hends o rest hrest) (hf' o ho rest ts hrest hts)

theorem before (h : Laid b AnyText d) (h' : Laid b ends d') : Laid b ends (d ++ d') :=
  h.append h' fun _ _ _ => trivial

theorem followed (h : Laid b Breaks d) (h' : Follows b ends d') : Laid b ends (d ++ d') :=
  h.append h'.laid h'.starts

/-- A symbol that does not run into a document. -/
theorem symbol {symbol : String} (hs : symbol ∈ rightAngles ++ punctuators) (h : Laid b ends d)
    (hends : ∀ o rest, ends rest → ∀ c ∈ (d.render o ++ rest).head?, c ∉ followers symbol) :
    Laid b ends (word symbol ++ d) := by
  obtain ⟨f, hf⟩ := h
  refine ⟨fun ts => ⟨.plain, .punct symbol, false⟩ :: f ts, fun o ho rest ts hrest hts => ?_⟩
  rw [render_append, render_word, List.append_assoc]
  exact .punct hs (hends o rest hrest) (hf o ho rest ts hrest hts)

/-- Only the text of a document counts. -/
theorem congr (h : Laid b ends d) (hd : ∀ o : Options, o.semicolons = b → d'.render o = d.render o) :
    Laid b ends d' := by
  obtain ⟨f, hf⟩ := h
  refine ⟨f, fun o ho rest ts hrest hts => ?_⟩
  rw [hd o ho]
  exact hf o ho rest ts hrest hts

end Laid

namespace Follows

theorem nil : Follows b Breaks [] :=
  ⟨.nil, fun _ _ h => h⟩

theorem append (h : Follows b Breaks d) (h' : Follows b ends d') : Follows b ends (d ++ d') := by
  refine ⟨h.laid.followed h', fun o rest hrest => ?_⟩
  rw [render_append, List.append_assoc]
  exact h.starts o _ (h'.starts o rest hrest)

theorem before (h : Follows b AnyText d) (h' : Laid b ends d') : Follows b ends (d ++ d') := by
  refine ⟨h.laid.before h', fun o rest _ => ?_⟩
  rw [render_append, List.append_assoc]
  exact h.starts o _ trivial

theorem any (h : Follows b AnyText d) : Follows b ends d :=
  ⟨h.laid.any, fun o rest _ => h.starts o rest trivial⟩

/-- A line break is kept, whatever the indentation. -/
theorem line (h : Laid b ends d) : Follows b ends (.line level :: d) := by
  constructor
  · obtain ⟨f, hf⟩ := h
    refine ⟨fun ts => Splits.onLine (f ts), fun o ho rest ts hrest hts => ?_⟩
    rw [render_line, List.append_assoc]
    exact (hf o ho rest ts hrest hts).line (level * o.indent)
  · exact fun o rest _ => breaks_cons (by decide) _

end Follows

/-! ## Fixed texts -/

/-- Characters that stand together in the tokens of fixed texts. -/
def together (c c' : Char) : Bool :=
  (isIdentifierPart c && isIdentifierPart c') ||
    (['=', '>', '.', '?', '+', '-'].contains c && ['=', '>', '.', '?', '+', '-'].contains c')

/-- The tokens and blanks of a fixed text. -/
def groups (s : String) : List (List Char) :=
  s.toList.splitBy together

/-- The token that a group is. -/
def groupSign (w : List Char) : Sign :=
  if isIdentifierName w then .word (String.ofList w) else .punct (String.ofList w)

theorem render_groupSign (o : Options) (w : List Char) : (groupSign w).render o = w := by
  unfold groupSign
  split <;> exact String.toList_ofList

/-- Whether groups are blanks and tokens, and no token runs into the next one. -/
def areApart : List (List Char) → Bool
  | [] => true
  | w :: ws =>
    (w == [' '] || ((groupSign w).isToken &&
      ws.head?.all fun next => next == [' '] || (groupSign next).isToken && (groupSign w).mayFollow (groupSign next))) &&
      areApart ws

/-- Text that a group does not run into. -/
def GroupEnds (w rest : List Char) : Prop :=
  w = [' '] ∨ (groupSign w).Ends rest

/-- The symbol of a token. -/
def Sign.symbol : Sign → Symbol
  | word w => .word w
  | punct symbol => .punct symbol
  | string value => .string value

theorem splits_sign {s : Sign} (hs : s.isToken = true) {rest : List Char} {ts : List Terminal} (o : Options)
    (hends : s.Ends rest) (h : Splits rest ts) :
    Splits (s.render o ++ rest) (⟨.plain, s.symbol, false⟩ :: ts) := by
  cases s with
  | word w => exact .word hs hends h
  | punct symbol =>
    simp only [Sign.isToken, Bool.and_eq_true, List.contains_iff_mem] at hs
    exact .punct (List.mem_append_right _ hs.1) hends h
  | string value => exact .string (isQuote_quote o) value h

/-- A group ends in front of the next one. -/
theorem groupEnds_head {w : List Char} {ws : List (List Char)} {rest : List Char}
    (hw : (groupSign w).isToken = true)
    (h : (ws.head?.all fun next => next == [' '] ||
      (groupSign next).isToken && (groupSign w).mayFollow (groupSign next)) = true)
    (hrest : ws = [] → (groupSign w).Ends rest) : (groupSign w).Ends (ws.flatten ++ rest) := by
  cases ws with
  | nil => exact hrest rfl
  | cons next ws =>
    simp only [List.head?_cons, Option.all_some, Bool.or_eq_true, beq_iff_eq, Bool.and_eq_true] at h
    rw [List.flatten_cons, List.append_assoc]
    rcases h with rfl | ⟨hnext, hfollow⟩
    · exact Gap.ends {} (show Gap.blank ≠ .none by decide) hw _
    · have hends := Sign.ends_of_mayFollow hw hnext hfollow {} (ws.flatten ++ rest)
      rwa [render_groupSign] at hends

theorem splits_groups {ws : List (List Char)} (h : areApart ws = true) :
    ∃ f : List Terminal → List Terminal, ∀ rest ts, (∀ w ∈ ws.getLast?, GroupEnds w rest) →
      Splits rest ts → Splits (ws.flatten ++ rest) (f ts) := by
  induction ws with
  | nil => exact ⟨id, fun _ _ _ h => h⟩
  | cons w ws ih =>
    simp only [areApart, Bool.and_eq_true, Bool.or_eq_true, beq_iff_eq] at h
    obtain ⟨f, hf⟩ := ih h.2
    have hmore : ∀ rest ts, (∀ w' ∈ (w :: ws).getLast?, GroupEnds w' rest) → Splits rest ts →
        Splits (ws.flatten ++ rest) (f ts) := by
      intro rest ts hends hts
      refine hf rest ts (fun w' hw' => hends w' ?_) hts
      rw [List.getLast?_cons, hw', Option.getD_some]
      exact rfl
    by_cases hblank : w = [' ']
    · refine ⟨f, fun rest ts hends hts => ?_⟩
      rw [hblank, List.flatten_cons, List.append_assoc]
      exact (hmore rest ts hends hts).blank
    · obtain ⟨htoken, hnext⟩ := h.1.resolve_left hblank
      refine ⟨fun ts => ⟨.plain, (groupSign w).symbol, false⟩ :: f ts, fun rest ts hends hts => ?_⟩
      have hlast : ws = [] → (groupSign w).Ends rest := by
        rintro rfl
        exact (hends w rfl).resolve_left hblank
      have hsplits := splits_sign htoken {} (groupEnds_head htoken hnext hlast) (hmore rest ts hends hts)
      rwa [render_groupSign, ← List.append_assoc, ← List.flatten_cons] at hsplits

/-- Whether a fixed text is a list of tokens, the last of which nothing continues. -/
def isFixed (s : String) : Bool :=
  areApart (groups s) && (groups s).getLast?.all fun w => w == [' '] || (groupSign w).isClosed

/-- Whether a fixed text is a list of tokens, the last of which is a word. -/
def isEnding (s : String) : Bool :=
  areApart (groups s) && (groups s).getLast?.all fun w => (groupSign w).isWord

/-- Whether a fixed text starts with a character that no printed part runs into. -/
def startsBreak (s : String) : Bool :=
  s.toList.head?.any breaks.contains

theorem Laid.groups {s : String} (h : areApart (groups s) = true)
    (hends : ∀ rest, ends rest → ∀ w ∈ (Emit.groups s).getLast?, GroupEnds w rest) : Laid b ends (word s) := by
  obtain ⟨f, hf⟩ := splits_groups h
  refine ⟨f, fun o _ rest ts hrest hts => ?_⟩
  have hsplits := hf rest ts (hends rest hrest) hts
  rwa [Emit.groups, List.flatten_splitBy, ← render_word o] at hsplits

theorem Laid.fixed (s : String) (h : isFixed s = true) : Laid b AnyText (word s) := by
  simp only [isFixed, Bool.and_eq_true] at h
  refine groups h.1 fun rest _ w hw => ?_
  have hlast := (Option.all_eq_true _ _).1 h.2 w hw
  simp only [Bool.or_eq_true, beq_iff_eq] at hlast
  exact hlast.imp_right fun hclosed => Sign.ends_of_isClosed hclosed rest

theorem Laid.ending (s : String) (h : isEnding s = true) : Laid b WordEnds (word s) := by
  simp only [isEnding, Bool.and_eq_true] at h
  exact groups h.1 fun rest hrest w hw =>
    .inr (Sign.ends_of_isWord ((Option.all_eq_true _ _).1 h.2 w hw) hrest)

/-- Text that a star does not run into. -/
def StarEnds (rest : List Char) : Prop :=
  ∀ c ∈ rest.head?, c ∉ followers "*"

theorem Breaks.starEnds {rest : List Char} (h : Breaks rest) : StarEnds rest := by
  have hall : ∀ c ∈ breaks, c ∉ followers "*" := List.all_iff_forall_prop.1 (by decide)
  exact fun c hc => hall c (h c hc)

theorem Laid.starred (s : String) (h : areApart (Emit.groups s) = true)
    (hlast : (Emit.groups s).getLast? = some ['*']) : Laid b StarEnds (word s) := by
  refine groups h fun rest hrest w hw => .inr ?_
  rw [hlast] at hw
  cases hw
  exact hrest

theorem Follows.fixed (s : String) (h : isFixed s = true) (hstart : startsBreak s = true) :
    Follows b AnyText (word s) := by
  refine ⟨.fixed s h, fun o rest _ => ?_⟩
  obtain ⟨c, hc, hmem⟩ := (Option.any_eq_true _ _).1 hstart
  rw [render_word, List.head?_eq_some_iff.1 hc |>.choose_spec]
  exact breaks_cons (List.contains_iff_mem.1 hmem) _

/-! ## Semicolons -/

/-- A semicolon that may stand in front of a statement. -/
theorem Laid.guard (h : Laid b ends d) : Laid b ends (.guard :: d) := by
  cases b with
  | true => exact h.congr fun o ho => by simp [render_guard, ho]
  | false => exact ((fixed ";" (by decide)).before h).congr fun o ho => by simp [render_guard, ho]

/-- The end of a statement. -/
theorem Follows.stop : Follows b Breaks [.stop] := by
  constructor
  · cases b with
    | true => exact (Laid.fixed ";" (by decide)).any.congr fun o ho => by simp [render_stop, ho]
    | false => exact Laid.nil.congr fun o ho => by simp [render_stop, ho]
  · intro o rest hrest
    rw [render_stop]
    split
    · exact breaks_cons (by decide) _
    · exact hrest

/-! ## Names, brackets and lists -/

namespace Laid

theorem name {w : String} (hw : isIdentifierName w.toList = true) : Laid b WordEnds (word w) :=
  ⟨fun ts => ⟨.plain, .word w, false⟩ :: ts, fun o _ rest ts hrest hts => by
    rw [render_word]
    exact .word hw hrest hts⟩

theorem privateName {w : String} (hw : isIdentifierName w.toList = true) :
    Laid b WordEnds (word "#" ++ word w) :=
  ⟨fun ts => ⟨.plain, .privateName w, false⟩ :: ts, fun o _ rest ts hrest hts => by
    rw [render_append, render_word, render_word]
    exact .privateName hw hrest hts⟩

theorem parens (h : Laid b Breaks d) : Laid b AnyText (parens d) :=
  ((fixed "(" (by decide)).before h).followed (.fixed ")" (by decide) (by decide))

theorem commaSeparated {ds : List Doc} (h : ∀ d ∈ ds, Laid b Breaks d) :
    Laid b Breaks (commaSeparated ds) := by
  fun_induction Emit.commaSeparated ds with
  | case1 => exact nil
  | case2 d => exact h d List.mem_cons_self
  | case3 d rest _ ih =>
    obtain ⟨hd, hrest⟩ := List.forall_mem_cons.1 h
    exact (hd.followed (.fixed ", " (by decide) (by decide))).before (ih hrest)

/-- Printed lines between braces. -/
theorem block (h : Follows b Breaks d) : Laid b AnyText (blockDoc level d) := by
  unfold blockDoc
  split
  · exact fixed "\x7b\x7d" (by decide)
  · have hclose : Follows b AnyText ([.line level] ++ word "\x7d") := .line (fixed "\x7d" (by decide))
    rw [List.append_assoc]
    exact ((fixed "\x7b" (by decide)).before h.laid).followed hclose

end Laid

theorem Follows.parens (h : Laid b Breaks d) : Follows b AnyText (parens d) :=
  ⟨h.parens, fun _ _ _ => breaks_cons (by decide) _⟩

/-! ## How parts start -/

/-- Whether a document starts with a string or with text that a star or another operator does not run
into. -/
def isLead : Doc → Bool
  | .text s :: _ => s.toList.head?.any fun c => c != '=' && c != '*'
  | .string _ :: _ => true
  | _ => false

theorem isLead_append (h : isLead d = true) (d' : Doc) : isLead (d ++ d') = true := by
  unfold isLead at h
  split at h
  · exact h
  · exact h
  · cases h

theorem isLead_name {w : String} (hw : isIdentifierName w.toList = true) : isLead (word w) = true := by
  obtain ⟨c, more, hcons, hc⟩ := head_of_identifierName hw
  have hother : ∀ c ∈ ['=', '*'], isIdentifierStart c = false := List.all_iff_forall_prop.1 (by decide)
  simp only [isLead, word, hcons, List.head?_cons, Option.any_some, Bool.and_eq_true, bne_iff_ne]
  constructor <;> rintro rfl
  · cases (hother '=' (by decide)).symm.trans hc
  · cases (hother '*' (by decide)).symm.trans hc

theorem isLead_block (level : Nat) (d : Doc) : isLead (blockDoc level d) = true := by
  unfold blockDoc
  split <;> rfl

theorem isLead_commaSeparated {ds : List Doc} (hne : ds ≠ []) (h : ∀ d ∈ ds, isLead d = true) :
    isLead (commaSeparated ds) = true := by
  unfold commaSeparated
  split
  · exact absurd rfl hne
  · exact h _ List.mem_cons_self
  · exact isLead_append (isLead_append (h _ List.mem_cons_self) _) _

theorem opens_of_isLead (h : isLead d = true) : Opens d := by
  unfold isLead at h
  split at h
  · obtain ⟨c, hc, hother⟩ := (Option.any_eq_true _ _).1 h
    obtain ⟨more, hmore⟩ := List.head?_eq_some_iff.1 hc
    simp only [Bool.and_eq_true, bne_iff_ne] at hother
    exact ⟨c, more, hmore, hother.1⟩
  · trivial
  · cases h

theorem starEnds_of_isLead (h : isLead d = true) (o : Options) (rest : List Char) :
    StarEnds (d.render o ++ rest) := by
  have hfollowers : ∀ c ∈ followers "*", c ∈ ['=', '*'] := List.all_iff_forall_prop.1 (by decide)
  unfold isLead at h
  split at h
  · rename_i s ds
    obtain ⟨c, hc, hother⟩ := (Option.any_eq_true _ _).1 h
    obtain ⟨more, hmore⟩ := List.head?_eq_some_iff.1 hc
    simp only [Bool.and_eq_true, bne_iff_ne] at hother
    have hrender : Doc.render o (.text s :: ds) = c :: (more ++ Doc.render o ds) := by
      rw [Doc.render, List.flatMap_cons, Piece.render, hmore, List.cons_append]
      rfl
    rw [hrender]
    rintro _ ⟨⟩ hmem
    rcases List.mem_pair.1 (hfollowers c hmem) with rfl | rfl
    · exact hother.1 rfl
    · exact hother.2 rfl
  · rw [render_string]
    rintro _ ⟨⟩
    unfold Options.quote
    split <;> decide
  · cases h

/-! ## Operators -/

namespace Laid

theorem symbolBlank {symbol : String} (hs : IsSymbol symbol) (h : Laid b ends d) :
    Laid b ends (word symbol ++ (word " " ++ d)) := by
  have hblank : Laid b ends (word " " ++ d) := (fixed " " (by decide)).before h
  rcases hs with hname | hmem
  · exact (name hname).append hblank fun o rest _ => wordEnds_blank _
  · refine Laid.symbol hmem hblank fun o rest _ => ?_
    have hnone : ∀ s ∈ rightAngles ++ punctuators, ' ' ∉ followers s := by decide
    rintro _ ⟨⟩
    exact hnone symbol hmem

/-- An operator between blanks. -/
theorem between {symbol : String} (h : Laid b Breaks d) (hs : IsSymbol symbol) (h' : Laid b ends d') :
    Laid b ends (d ++ word " " ++ word symbol ++ word " " ++ d') := by
  rw [List.append_assoc, List.append_assoc, List.append_assoc]
  exact h.followed ((Follows.fixed " " (by decide) (by decide)).before (h'.symbolBlank hs))

/-- A sign is kept apart from an operand that starts with the same sign. -/
theorem sign {symbol : String} {c : Char} (h : Laid b Breaks d) (hd : Opens d) (hs : symbol.toList = [c])
    (hmem : symbol ∈ rightAngles ++ punctuators) (hc : c ∈ ['+', '-'])
    (hfollowers : followers symbol = [c, '=']) :
    Laid b Breaks (word symbol ++ if symbol.toList.isPrefixOf d.chars then word " " ++ d else d) := by
  split
  · exact h.symbolBlank (.inr hmem)
  · rename_i hother
    refine Laid.symbol hmem h fun o rest _ => ?_
    obtain ⟨first, more, hrender, hequals, hinitial⟩ := hd.head o
    rw [hs, hinitial c hc, beq_iff_eq] at hother
    rw [hrender, hfollowers]
    rintro _ ⟨⟩
    simp [hequals, Ne.symm hother]

theorem unary (h : Laid b Breaks d) (hd : Opens d) (op : UnaryOp) :
    Laid b Breaks (word op.symbol ++ operandDoc op d) := by
  cases op with
  | minus | plus => exact h.sign hd rfl (by decide) (by decide) (by decide)
  | not =>
    change Laid b Breaks (word "!" ++ d)
    refine Laid.symbol (by decide) h fun o rest _ => ?_
    obtain ⟨first, more, hrender, hequals, -⟩ := hd.head o
    rw [hrender, show followers "!" = ['=', '='] by decide]
    rintro _ ⟨⟩
    simp [hequals]
  | bitNot => exact (fixed "~" (by decide)).before h
  | typeof | void | delete => exact h.symbolBlank (by decide)

end Laid

/-! ## Literals and templates -/

/-- A number that is not finite is written as a name. -/
theorem render_of_infinite {x : Double} (hfinite : x.isFinite = false) (hpos : x.negative = false) :
    x.render = "NaN" ∨ x.render = "Infinity" := by
  unfold Double.render
  split
  · exact .inl rfl
  · simp [hfinite, hpos]

namespace Laid

theorem string (value : String) : Laid b AnyText [.string value] := by
  refine ⟨fun ts => ⟨.plain, .string value, false⟩ :: ts, fun o _ rest ts _ hts => ?_⟩
  have hsplits := Splits.string (isQuote_quote o) value hts
  rwa [← List.append_nil (quoted o.quote value.toList)] at hsplits

theorem regex {r : Tree.Regex} (hr : isRegex r = true) :
    Laid b WordEnds (word "/" ++ word r.pattern ++ word "/" ++ word r.flags) := by
  refine ⟨fun ts => ⟨.regex, .regex r, false⟩ :: ts, fun o _ rest ts hrest hts => ?_⟩
  simpa using Splits.regex hr hrest.flagsEnd hts

theorem bigint (n : Nat) : Laid b WordEnds (word (toString n) ++ word "n") := by
  refine ⟨fun ts => ⟨.plain, .bigint (toString n), false⟩ :: ts, fun o _ rest ts hrest hts => ?_⟩
  simpa using Splits.bigint n hrest.fractionEnds hts

/-- A number, in front of texts that start with no dot if it is written in digits alone. -/
theorem number {x : Double} (hpos : x.negative = false) (hends : ∀ rest, ends rest → WordEnds rest)
    (hwhole : x.render.toList.all isAsciiDigit = true → ∀ rest, ends rest → NumberEnds rest) :
    Laid b ends (word x.render) := by
  cases hfinite : x.isFinite with
  | true =>
    refine ⟨fun ts => ⟨.plain, .number x, false⟩ :: ts, fun o _ rest ts hrest hts => ?_⟩
    rw [render_word]
    exact .number hfinite hpos (hends rest hrest).fractionEnds (fun h => hwhole h rest hrest) hts
  | false =>
    rcases render_of_infinite hfinite hpos with hname | hname <;> rw [hname] <;> exact (ending _ (by decide)).mono hends

/-- The text from the start of a template, or from the end of an expression in it, to the end of the next
piece. -/
theorem piece {q : TemplateElement} (hq : q.isPiece = true) {opening : String} (hopening : opening ∈ ["`", "\x7d"]) :
    Laid b AnyText (word opening ++ (word q.raw ++ word (String.ofList (Script.pieceEnd q.tail)))) := by
  rcases List.mem_pair.1 hopening with rfl | rfl
  · refine ⟨fun ts => ⟨.plain, .template q.raw false q.tail, false⟩ :: ts, fun o _ rest ts _ hts => ?_⟩
    simpa using Splits.template hq hts
  · refine ⟨fun ts => ⟨.piece, .template q.raw true q.tail, false⟩ :: ts, fun o _ rest ts _ hts => ?_⟩
    simpa using Splits.piece hq hts

end Laid

end CustomElement.Emit
