import CustomElement.Proofs.Emit.Marks
import CustomElement.Proofs.Script.Reads

/-!
# Documents as lexemes ahead

A printed text is a list of marks: tokens, each with the gap in front of it. If no mark runs into the next
one (`isApart`), the text is cut into the lexemes of the marks (`cuts_marks`). Whether two marks run into
each other depends on their kinds and on the gap between them only, so that it is checked where the marks
are listed.

`Sets ends o d ls` says that a document is set in the lexemes `ls`, in front of texts at which `ends`
holds. Documents are put together by `Sets.append`.
-/

namespace CustomElement.Emit

open CustomElement.Text CustomElement.Grammar
open CustomElement.Script (Cuts Begins punctuators skipGap)

/-! ## Marks -/

/-- Whether a line ends in the gap. -/
def Gap.isLine : Gap → Bool
  | line _ => true
  | _ => false

/-- The gap as a document. -/
def Gap.doc : Gap → Doc
  | none => []
  | blank => word " "
  | line level => [.line level]

/-- How a string is spelled between its quotes. -/
def spelling (quote : Char) (value : String) : String :=
  String.ofList (value.toList.flatMap (escapeChar quote))

/-- What a token is read as. -/
def Sign.token (o : Options) : Sign → Script.Token
  | word w => .word w false
  | punct symbol => .punct symbol
  | string value => .string value (spelling o.quote value)

/-- A token with the gap in front of it. -/
structure Mark where
  gap : Gap
  sign : Sign
deriving DecidableEq, Repr

namespace Mark

/-- The text of a mark. -/
def render (o : Options) (m : Mark) : List Char :=
  m.gap.render o ++ m.sign.render o

/-- The lexeme of a mark. -/
def lexeme (o : Options) (m : Mark) : Lexeme :=
  ⟨m.sign.token o, m.gap.isLine⟩

/-- Whether a mark may stand behind a token. -/
def mayFollow (m : Mark) (s : Sign) : Bool :=
  m.gap != .none || s.mayFollow m.sign

end Mark

/-- The text of marks. -/
def markText (o : Options) (ms : List Mark) : List Char :=
  ms.flatMap (Mark.render o)

/-- Whether all marks are tokens and none runs into the next one. -/
def isApart : List Mark → Bool
  | [] => true
  | m :: ms => m.sign.isToken && ms.head?.all (·.mayFollow m.sign) && isApart ms

section Simp

variable {o : Options} {ms : List Mark}

@[simp] theorem markText_nil : markText o [] = [] :=
  rfl

@[simp] theorem markText_cons {gap : Gap} {sign : Sign} :
    markText o (⟨gap, sign⟩ :: ms) = gap.render o ++ (sign.render o ++ markText o ms) := by
  rw [markText, List.flatMap_cons, Mark.render, List.append_assoc]
  rfl

@[simp] theorem render_gap (gap : Gap) : Doc.render o gap.doc = gap.render o := by
  cases gap with
  | line level => exact List.append_nil _
  | _ => rfl

@[simp] theorem render_none : Gap.render o .none = [] :=
  rfl

@[simp] theorem render_blank : Gap.render o .blank = [' '] :=
  rfl

@[simp] theorem render_sign_word {w : String} : Sign.render o (.word w) = w.toList :=
  rfl

@[simp] theorem render_sign_punct {symbol : String} : Sign.render o (.punct symbol) = symbol.toList :=
  rfl

@[simp] theorem render_sign_string {value : String} :
    Sign.render o (.string value) = quoted o.quote value.toList :=
  rfl

end Simp

theorem skipGap_gap {text : List Char} (h : skipGap .blank false text = some (false, text)) (o : Options)
    (gap : Gap) : skipGap .blank false (gap.render o ++ text) = some (gap.isLine, text) := by
  cases gap with
  | none => exact h
  | blank => exact h
  | line level => exact (skipGap_blanks (level * o.indent) true text).trans (skipGap_true h)

theorem begins_sign {s : Sign} (hs : s.isToken = true) {rest : List Char} (o : Options)
    (hends : s.Ends rest) : Begins (s.render o ++ rest) (s.token o) rest := by
  cases s with
  | word w => exact .word hs hends
  | punct symbol =>
    simp only [Sign.isToken, Bool.and_eq_true, List.contains_iff_mem, bne_iff_ne] at hs
    exact .punct hs.1 hs.2 hends
  | string value => exact .string (isQuote_quote o) value rest

theorem Mark.ends_of_mayFollow {s : Sign} {m : Mark} (hs : s.isToken = true) (hm : m.sign.isToken = true)
    (h : m.mayFollow s = true) (o : Options) (rest : List Char) : s.Ends (m.render o ++ rest) := by
  rw [Mark.render, List.append_assoc]
  by_cases hgap : m.gap = .none
  · rw [Mark.mayFollow, hgap] at h
    rw [hgap]
    exact Sign.ends_of_mayFollow hs hm h o rest
  · exact Gap.ends o hgap hs _

theorem cuts_mark {m : Mark} (hm : m.sign.isToken = true) {rest : List Char} {ts : List Lexeme}
    (o : Options) (hends : m.sign.Ends rest) (h : Cuts rest ts) :
    Cuts (m.render o ++ rest) (m.lexeme o :: ts) := by
  have hbegins := begins_sign hm o hends
  rw [Mark.render, List.append_assoc]
  exact .token (skipGap_gap hbegins.gap o m.gap) hbegins.token h

/-- Marks are cut into their lexemes. -/
theorem cuts_marks {ms : List Mark} (hms : isApart ms = true) {rest : List Char} {ts : List Lexeme}
    (o : Options) (hends : ∀ m ∈ ms.getLast?, m.sign.Ends rest) (h : Cuts rest ts) :
    Cuts (markText o ms ++ rest) (ms.map (Mark.lexeme o) ++ ts) := by
  induction ms with
  | nil => exact h
  | cons m ms ih =>
    simp only [isApart, Bool.and_eq_true] at hms
    obtain ⟨⟨htoken, hnext⟩, hapart⟩ := hms
    rw [markText, List.flatMap_cons, List.append_assoc]
    cases ms with
    | nil => exact cuts_mark htoken o (hends m rfl) h
    | cons next ms =>
      refine cuts_mark htoken o ?_ (ih hapart hends)
      simp only [isApart, Bool.and_eq_true] at hapart
      rw [List.flatMap_cons, List.append_assoc]
      exact Mark.ends_of_mayFollow htoken hapart.1.1 hnext o _

/-- There are no more marks than characters. -/
theorem length_le_markText {ms : List Mark} (h : isApart ms = true) (o : Options) :
    ms.length ≤ (markText o ms).length := by
  induction ms with
  | nil => exact Nat.zero_le _
  | cons m ms ih =>
    simp only [isApart, Bool.and_eq_true] at h
    have hpos : 0 < (m.sign.render o).length := by
      have hm := h.1.1
      cases hsign : m.sign with
      | word w =>
        rw [hsign] at hm
        obtain ⟨c, more, hcons, -⟩ := head_of_identifierName hm
        simp [Sign.render, hcons]
      | punct symbol =>
        simp only [hsign, Sign.isToken, Bool.and_eq_true, List.contains_iff_mem] at hm
        obtain ⟨c, more, hcons, -⟩ := head_punct hm.1
        simp [Sign.render, hcons]
      | string value => simp [Sign.render, quoted]
    have hrest := ih h.2
    simp only [markText, List.flatMap_cons, List.length_append, List.length_cons, Mark.render] at hrest ⊢
    omega

/-! ## Documents -/

/-- A document is set in lexemes, in front of texts at which `ends` holds. -/
structure Sets (ends : List Char → Prop) (o : Options) (d : Doc) (ls : List Lexeme) : Prop where
  cuts : ∀ rest ts, ends rest → Cuts rest ts → Cuts (d.render o ++ rest) (ls ++ ts)
  length : ls.length ≤ (d.render o).length

namespace Sets

variable {o : Options} {d d' : Doc} {ls ls' : List Lexeme} {ends ends' : List Char → Prop} {ms : List Mark}

theorem append (h : Sets ends o d ls) (h' : Sets ends' o d' ls')
    (hends : ∀ rest, ends' rest → ends (d'.render o ++ rest)) : Sets ends' o (d ++ d') (ls ++ ls') where
  cuts rest ts hrest hts := by
    rw [render_append, List.append_assoc, List.append_assoc]
    exact h.cuts _ _ (hends rest hrest) (h'.cuts rest ts hrest hts)
  length := by
    have := h.length
    have := h'.length
    rw [render_append, List.length_append, List.length_append]
    omega

/-- Behind a token that nothing continues, any document may stand. -/
theorem before (h : Sets AnyText o d ls) (h' : Sets ends o d' ls') : Sets ends o (d ++ d') (ls ++ ls') :=
  h.append h' fun _ _ => trivial

/-- Only the text of a document counts. -/
theorem congr (h : Sets ends o d ls) (hd : d'.render o = d.render o) : Sets ends o d' ls where
  cuts rest ts hrest hts := by
    rw [hd]
    exact h.cuts rest ts hrest hts
  length := by
    rw [hd]
    exact h.length

theorem mono (h : Sets ends o d ls) (hends : ∀ rest, ends' rest → ends rest) : Sets ends' o d ls where
  cuts rest ts hrest := h.cuts rest ts (hends rest hrest)
  length := h.length

theorem nil : Sets ends o [] [] where
  cuts _ _ _ hts := hts
  length := Nat.le_refl 0

/-- A document that is the text of marks. -/
theorem of_marks (hd : d.render o = markText o ms) (hms : isApart ms = true)
    (hends : ∀ rest, ends rest → ∀ m ∈ ms.getLast?, m.sign.Ends rest) :
    Sets ends o d (ms.map (Mark.lexeme o)) where
  cuts rest ts hrest hts := by
    rw [hd]
    exact cuts_marks hms o (hends rest hrest) hts
  length := by
    rw [hd, List.length_map]
    exact length_le_markText hms o

/-- The last mark is a token that nothing continues. -/
theorem closed (ms : List Mark) (hd : d.render o = markText o ms) (hms : isApart ms = true)
    (hlast : ms.getLast?.all (·.sign.isClosed) = true) : Sets AnyText o d (ms.map (Mark.lexeme o)) :=
  of_marks hd hms fun rest _ m hm => Sign.ends_of_isClosed ((Option.all_eq_true _ _).1 hlast m hm) rest

/-- The last mark is a word. -/
theorem word (ms : List Mark) (hd : d.render o = markText o ms) (hms : isApart ms = true)
    (hlast : ms.getLast?.all (·.sign.isWord) = true) : Sets WordEnds o d (ms.map (Mark.lexeme o)) :=
  of_marks hd hms fun _ hrest m hm => Sign.ends_of_isWord ((Option.all_eq_true _ _).1 hlast m hm) hrest

/-- A line break ends a word. -/
theorem line (h : Sets WordEnds o d ls) {level : Nat} (h' : Sets ends o (.line level :: d') ls') :
    Sets ends o (d ++ .line level :: d') (ls ++ ls') := by
  refine h.append h' fun rest _ => ?_
  rintro c ⟨⟩
  decide

end Sets

end CustomElement.Emit
