import CustomElement.Proofs.Emit.Operators
import CustomElement.Proofs.Markup.Paragraph
import CustomElement.Proofs.Script.ChainReading
import CustomElement.Proofs.Template.Pieces

/-!
# A binding in a paragraph

What a template makes of a paragraph with one binding, for all texts around it.

* `text_before_binding`: the text in front of a binding is decoded before placeholders are looked for in
  it. If what is shown of it is free of the reserved word, it stays text and the binding comes last; a
  text without references cannot show the word unless it uses it. A reference to one of its characters
  is enough to forge the binding.
* `title_before_binding`: a title is kept as it is. The binding after it is one exactly if the title
  leaves no comment open, though comments do not start in titles.
-/

namespace CustomElement.Template

open CustomElement.Text CustomElement.Tree
open CustomElement.Markup (shown textNodes TagAttribute normalizeLineEnds)
open CustomElement.Emit (IsName)

/-! ## Texts without the reserved word -/

/-- The reserved word does not reach over a character that it does not have. -/
theorem holds_reserved_stop {c : Char} (hc : c ∉ placeholderStart.toList) (text rest : List Char) :
    holds placeholderStart.toList (text ++ c :: rest) =
      (holds placeholderStart.toList text || holds placeholderStart.toList rest) :=
  holds_append_stop hc (by decide) text

/-- A text without references shows the reserved word only if it uses it. -/
theorem holds_shown {text : List Char} (hplain : ∀ c ∈ text, c ≠ '&' ∧ c.toNat ≠ 0)
    (hfree : holds placeholderStart.toList text = false) :
    holds placeholderStart.toList (shown text) = false := by
  have hlines : ∀ c ∈ normalizeLineEnds text, c ≠ '&' ∧ c.toNat ≠ 0 := fun c hc =>
    (Markup.mem_normalizeLineEnds hc).elim (hplain c) fun h => h ▸ by decide
  have hshown : shown text = normalizeLineEnds text := by
    rw [shown, Markup.decoded_plain fun c hc => (hlines c hc).1]
    exact List.filter_eq_self.2 fun c hc => by simpa using (hlines c hc).2
  rw [hshown, Bool.eq_false_iff, ne_eq, holds_iff_infix]
  intro h
  have hword := holds_iff_infix.2 (Markup.infix_of_infix_normalizeLineEnds (by decide) h)
  cases hfree.symm.trans hword

/-! ## Paragraphs -/

theorem trim_cons {c : Char} (hc : isBlank c = false) (rest : List Char) :
    (trim (c :: rest)).isEmpty = false := by
  have hstart : trimStart (c :: rest) = c :: rest := List.dropWhile_cons_of_neg (by rw [hc]; decide)
  rw [trim, hstart, trimEnd, List.reverse_cons, Markup.dropWhile_append_stop hc]
  simp

/-- The element of a paragraph. -/
theorem topElements_paragraph (bindings : List Expr) (attributes : List TagAttribute) (text : List Char) :
    topElementsOfAll bindings [.element ⟨.html, "p"⟩ attributes (textNodes text)] =
      [⟨"p", attributes.map (attributeOf bindings), (fragments bindings text).filterMap childOf?⟩] := by
  cases text with
  | nil =>
    rw [fragments]
    rfl
  | cons c text =>
    rw [textNodes, if_neg (by simp)]
    simp only [topElementsOfAll, topElements, childrenOfAll, childrenOf, List.append_nil]
    rfl

/-- The elements of pieces of a template, if its bindings can be read. -/
theorem parse_of_sources {rest : List Char} {bindings : List Expr}
    (hfree : holds placeholderStart.toList ('<' :: rest) = false)
    (hread : (sources (segments ('<' :: rest))).mapM parseBinding = .ok bindings) :
    parse ('<' :: rest) = .ok (elements (segments ('<' :: rest)) bindings) := by
  rw [parse, if_neg (by rw [trim_cons (by decide)]; decide), if_neg (by rw [hfree]; decide)]
  simp only [hread]

theorem parse_reserved {rest : List Char} (h : holds placeholderStart.toList ('<' :: rest) = true) :
    parse ('<' :: rest) = .error reservedWord := by
  rw [parse, if_neg (by rw [trim_cons (by decide)]; decide), if_pos h]

section Paragraph

variable {attributes : List TagAttribute} {tag text source : List Char}
  (htag : ∀ rest, Markup.readMarkup false (tag ++ rest) = ⟨[.startTag ⟨"p", attributes, false⟩], rest⟩)
  (hreturn : ∀ c ∈ tag, c ≠ '\r')

/-- A paragraph with a text and then a binding in braces. -/
def paragraph (tag text source : List Char) : List Char :=
  '<' :: (tag ++ text ++ '\x7b' :: (source ++ '\x7d' :: "</p>".toList))

include htag hreturn

/-- A paragraph outside of comments holds its binding. -/
theorem parse_paragraph {e : Expr} (hangle : '<' ∉ text) (hbrace : '\x7b' ∉ '<' :: (tag ++ text))
    (hclosed : leavesComment false ('<' :: (tag ++ text)) = false)
    (hfree : holds placeholderStart.toList (paragraph tag text source) = false)
    (he : Script.parseExpression source = .ok e)
    (hmatch : matchBrace .code 1 (source ++ ['\x7d']) = some (source, [])) :
    parse (paragraph tag text source) =
      .ok [⟨"p", attributes.map (attributeOf [e]),
        (fragments [e] (shown (text ++ placeholder 0))).filterMap childOf?⟩] := by
  have hpieces : segments (paragraph tag text source) =
      ('<' :: (tag ++ text)).map .char ++ .binding source :: ("</p>".toList.map .char ++ []) := by
    have hrun := segmentsFrom_run false hbrace (c := '\x7b') (by decide) (source ++ '\x7d' :: "</p>".toList)
    rw [hclosed] at hrun
    refine hrun.trans (congrArg (List.map Segment.char _ ++ ·) ((segments_binding hmatch _).trans ?_))
    simp [segments, startsComment]
  have hread : (sources (segments (paragraph tag text source))).mapM parseBinding = .ok [e] := by
    rw [hpieces, sources_chars]
    change (source :: sources ("</p>".toList.map .char ++ [])).mapM parseBinding = _
    rw [sources_chars, List.mapM_cons, parseBinding, he]
    rfl
  have hangle : '<' ∉ text ++ placeholder 0 := fun h => (List.mem_append.1 h).elim hangle (by decide)
  rw [← topElements_paragraph, ← Markup.parse_paragraph htag hreturn hangle, paragraph,
    parse_of_sources hfree hread, ← paragraph, elements, hpieces, withPlaceholders_run,
    withPlaceholders_chars]
  simp only [withPlaceholders, List.cons_append, List.append_assoc, List.append_nil]

/-- A paragraph behind a comment that is not ended holds its binding as it is written. -/
theorem parse_commented (hbrace : '\x7b' ∉ '<' :: tag) (hopen : leavesComment false ('<' :: tag) = true)
    (hfree : holds placeholderStart.toList (paragraph tag [] source) = false)
    (hsource : ∀ c ∈ ['<', '-'], c ∉ source) :
    parse (paragraph tag [] source) =
      .ok [⟨"p", attributes.map (attributeOf []),
        (fragments [] (shown ('\x7b' :: (source ++ ['\x7d'])))).filterMap childOf?⟩] := by
  have hend : holds "-->".toList ('\x7b' :: (source ++ '\x7d' :: "</p>".toList)) = false := by
    rw [Bool.eq_false_iff, ne_eq, holds_iff_infix]
    intro h
    have hdash : '-' ∈ '\x7b' :: (source ++ '\x7d' :: "</p>".toList) := h.subset (by decide)
    have hdash : '-' ∈ source := by simpa using hdash
    exact hsource '-' (by decide) hdash
  have hpieces : segments (paragraph tag [] source) = (paragraph tag [] source).map .char ++ [] := by
    have hrun := segmentsFrom_run false hbrace (c := '\x7b') (by decide) (source ++ '\x7d' :: "</p>".toList)
    rw [hopen, segmentsFrom_unended hend, ← List.map_append] at hrun
    rw [paragraph, List.append_nil, List.append_nil]
    exact hrun
  have hread : (sources (segments (paragraph tag [] source))).mapM parseBinding = .ok [] := by
    rw [hpieces, sources_chars]
    rfl
  have hangle : '<' ∉ '\x7b' :: (source ++ ['\x7d']) := by
    simpa using hsource '<' (by decide)
  rw [← topElements_paragraph, ← Markup.parse_paragraph htag hreturn hangle, paragraph,
    parse_of_sources hfree hread, ← paragraph, elements, hpieces, withPlaceholders_chars]
  simp only [withPlaceholders, paragraph, List.cons_append, List.append_assoc, List.append_nil,
    List.nil_append]

end Paragraph

/-! ## Text in front of a binding -/

theorem parseExpression_name {name : String} (h : IsName name) :
    Script.parseExpression name.toList = .ok (.identifier name) := by
  obtain ⟨hname, hawait⟩ : Script.isNameWord name = true ∧ name ≠ "await" := by
    simpa [Grammar.isReference] using h.reference
  exact (Script.ChainText.name h.identifier hname hawait).parses rfl

theorem shown_placeholder : shown (placeholder 0) = placeholder 0 :=
  Markup.shown_plain (List.all_iff_forall_prop.1 (by decide))

theorem shown_append_placeholder (text : List Char) :
    shown (text ++ placeholder 0) = shown text ++ placeholder 0 :=
  (Markup.shown_append (x := '_') rfl).trans (congrArg (shown text ++ ·) shown_placeholder)

/-- A comment does not start without an angle. -/
theorem leavesComment_of_not_mem {text : List Char} (h : '<' ∉ text) :
    leavesComment false text = false := by
  induction text with
  | nil => rfl
  | cons c text ih =>
    have hstart : startsComment (c :: text) = false := by
      rw [startsComment, Bool.eq_false_iff, ne_eq, List.isPrefixOf_iff_prefix]
      exact fun hc => h ((List.cons_prefix_cons.1 hc).1 ▸ List.mem_cons_self)
    rw [leavesComment, hstart, ih fun hc => h (List.mem_cons_of_mem _ hc)]

theorem children_textFragments (text : List Char) :
    (textFragments text).filterMap childOf? = (childOf? (.text text)).toList := by
  cases text with
  | nil => rfl
  | cons c text =>
    rw [textFragments, if_neg (by simp), List.filterMap_cons]
    cases childOf? (.text (c :: text)) <;> rfl

theorem fragments_first (e : Expr) (rest : List Char) :
    fragments [e] (placeholder 0 ++ rest) = .binding e :: fragments [e] rest :=
  fragments_placeholder rfl rest

theorem fragments_last (e : Expr) : fragments [e] (placeholder 0) = [.binding e] := by
  have h := fragments_first e []
  rwa [List.append_nil, fragments] at h

/-- A text that does not use the reserved word is no binding. -/
theorem fragments_text_last {text : List Char} (h : holds placeholderStart.toList text = false) (e : Expr) :
    fragments [e] (text ++ placeholder 0) = textFragments text ++ [.binding e] := by
  have hpieces : holds placeholderStart.toList (text ++ unbraced [.binding []]) = false := by
    change holds placeholderStart.toList (text ++ '\x7b' :: ['\x7d']) = false
    rw [holds_reserved_stop (by decide), h]
    rfl
  have hrun := fragments_run [e] 0 hpieces
  rwa [withPlaceholders, withPlaceholders, List.append_nil, fragments_last, foldr_pushChar_binding] at hrun

/-- A text in front of a binding is decoded before placeholders are looked for. -/
theorem text_before_binding {text source : List Char} {e : Expr} (hangle : '<' ∉ text)
    (hbrace : '\x7b' ∉ text) (htext : holds placeholderStart.toList text = false)
    (he : Script.parseExpression source = .ok e) (hsource : holds placeholderStart.toList source = false)
    (hmatch : matchBrace .code 1 (source ++ ['\x7d']) = some (source, [])) :
    parse (paragraph "p>".toList text source) =
        .ok [⟨"p", [], (fragments [e] (shown text ++ placeholder 0)).filterMap childOf?⟩] ∧
      (holds placeholderStart.toList (shown text) = false →
        (fragments [e] (shown text ++ placeholder 0)).filterMap childOf? =
          (childOf? (.text (shown text))).toList ++ [.binding e]) ∧
      ((∀ c ∈ text, c ≠ '&' ∧ c.toNat ≠ 0) → holds placeholderStart.toList (shown text) = false) ∧
      (shown text = placeholder 0 →
        (fragments [e] (shown text ++ placeholder 0)).filterMap childOf? = [.binding e, .binding e]) := by
  refine ⟨?_, fun hshown => ?_, fun hplain => holds_shown hplain htext, fun hshown => ?_⟩
  · have hclosed : leavesComment false ("<p>".toList ++ text) = false :=
      (leavesComment_of_not_mem hangle : leavesComment false text = false)
    have hfree : holds placeholderStart.toList (paragraph "p>".toList text source) = false := by
      change holds placeholderStart.toList
        ("<p>".toList ++ text ++ '\x7b' :: (source ++ '\x7d' :: "</p>".toList)) = false
      rw [holds_reserved_stop (by decide), holds_reserved_stop (by decide), hsource]
      change (holds placeholderStart.toList text || _) = _
      rw [htext]
      rfl
    have htag : ∀ rest, Markup.readMarkup false ("p>".toList ++ rest) =
        ⟨[.startTag ⟨"p", [], false⟩], rest⟩ := fun _ => rfl
    rw [← shown_append_placeholder]
    exact parse_paragraph htag (List.all_iff_forall_prop.1 (by decide)) hangle
      (fun h => hbrace (by simpa using h)) hclosed hfree he hmatch
  · rw [fragments_text_last hshown, List.filterMap_append, children_textFragments]
    rfl
  · rw [hshown, fragments_first, fragments_last]
    rfl

/-- A text that shows a placeholder, though it does not use the reserved word. -/
def forgedText : List Char :=
  "&#95;_LAZY_BINDING_0__".toList

theorem shown_forgedText : shown forgedText = placeholder 0 := by
  decide +kernel

theorem forgedText_binds :
    '<' ∉ forgedText ∧ '\x7b' ∉ forgedText ∧ holds placeholderStart.toList forgedText = false ∧
      parse (paragraph "p>".toList forgedText "b".toList) =
        .ok [⟨"p", [], [.binding (.identifier "b"), .binding (.identifier "b")]⟩] := by
  have hangle : '<' ∉ forgedText := by decide
  have hbrace : '\x7b' ∉ forgedText := by decide
  have hfree : holds placeholderStart.toList forgedText = false := by decide
  have hname : IsName "b" := ⟨by decide, by decide⟩
  obtain ⟨hparse, -, -, hforged⟩ := text_before_binding hangle hbrace hfree (parseExpression_name hname)
    (by decide) (by decide)
  rw [hforged shown_forgedText] at hparse
  exact ⟨hangle, hbrace, hfree, hparse⟩

/-! ## A title in front of a binding -/

theorem not_mem_name {name : String} (h : IsName name) {c : Char} (hc : isIdentifierPart c = false) :
    c ∉ name.toList :=
  fun hmem => Bool.noConfusion (hc.symm.trans (all_isIdentifierPart h.identifier c hmem))

theorem matchBrace_name {name : String} (h : IsName name) :
    matchBrace .code 1 (name.toList ++ ['\x7d']) = some (name.toList, []) := by
  have hpart : ∀ c ∈ delimiters, isIdentifierPart c = false := List.all_iff_forall_prop.1 (by decide)
  exact matchBrace_inert (fun c hmem hc => not_mem_name h (hpart c hc) hmem) []

/-- A name in braces is shown as it is. -/
theorem shown_braced {name : String} (h : IsName name) :
    shown ('\x7b' :: (name.toList ++ ['\x7d'])) = '\x7b' :: (name.toList ++ ['\x7d']) := by
  have hpart : ∀ c, isIdentifierPart c = true → c ≠ '\r' ∧ c ≠ '&' ∧ c.toNat ≠ 0 := by
    intro c hc
    refine ⟨?_, ?_, fun hzero => ?_⟩
    · rintro rfl
      cases hc
    · rintro rfl
      cases hc
    · rw [← Char.ofNat_toNat c, hzero] at hc
      cases hc
  refine Markup.shown_plain fun c hc => ?_
  rcases List.mem_cons.1 hc with rfl | hc
  · decide
  rcases List.mem_append.1 hc with hc | hc
  · exact hpart c (all_isIdentifierPart h.identifier c hc)
  · rw [List.mem_singleton.1 hc]
    decide

/-- The start tag of a paragraph with a title, without its first angle. -/
def titleTag (title : List Char) : List Char :=
  "p title=\"".toList ++ (title ++ "\">".toList)

theorem readMarkup_titleTag {title : List Char} (hquote : ∀ c ∈ title, c ≠ '"')
    (hplain : ∀ c ∈ title, c ≠ '&' ∧ c.toNat ≠ 0) (rest : List Char) :
    Markup.readMarkup false (titleTag title ++ rest) =
      ⟨[.startTag ⟨"p", [⟨"title", title⟩], false⟩], rest⟩ := by
  change Markup.readMarkup false ("p title=\"".toList ++ (title ++ "\">".toList) ++ rest) = _
  rw [List.append_assoc, List.append_assoc]
  exact Markup.readMarkup_title hquote hplain rest

/-- A title leaves a comment open whether it stands in its tag or not. -/
theorem leavesComment_titleTag (title : List Char) :
    leavesComment false ('<' :: titleTag title) = leavesComment false title := by
  have htitle : leavesComment false (title ++ '"' :: ['>']) = leavesComment false title := by
    rw [leavesComment_append (by decide)]
    cases leavesComment false title <;> rfl
  exact htitle

theorem holds_titled (title source : List Char) :
    holds placeholderStart.toList (paragraph (titleTag title) [] source) =
      (holds placeholderStart.toList title || holds placeholderStart.toList source) := by
  have htag : holds placeholderStart.toList ('<' :: titleTag title) =
      holds placeholderStart.toList title := by
    have htitle : holds placeholderStart.toList (title ++ '"' :: ['>']) =
        holds placeholderStart.toList title := by
      rw [holds_reserved_stop (by decide)]
      exact Bool.or_false _
    exact htitle
  have hsource : holds placeholderStart.toList (source ++ '\x7d' :: "</p>".toList) =
      holds placeholderStart.toList source := by
    rw [holds_reserved_stop (by decide)]
    exact Bool.or_false _
  rw [paragraph, List.append_nil, ← List.cons_append, holds_reserved_stop (by decide), htag, hsource]

theorem fragments_plain {text : List Char} (h : holds placeholderStart.toList text = false)
    (bindings : List Expr) : fragments bindings text = textFragments text := by
  have hfree : holds placeholderStart.toList (text ++ unbraced []) = false := by
    rwa [unbraced, List.flatMap_nil, List.append_nil]
  have hrun := fragments_run bindings 0 hfree
  rwa [withPlaceholders, List.append_nil, fragments, foldr_pushChar_nil] at hrun

theorem attributeOf_title {title : List Char} (hfree : holds placeholderStart.toList title = false)
    (bindings : List Expr) :
    attributeOf bindings ⟨"title", title⟩ =
      ⟨"title", if title.isEmpty then [] else [.literal (Literal.string (String.ofList title))]⟩ := by
  rw [attributeOf, fragments_plain hfree, textFragments]
  split <;> rfl

/-- A name in braces that does not use the reserved word is a child as it is. -/
theorem children_braced {source : List Char} (hfree : holds placeholderStart.toList source = false) :
    (fragments [] ('\x7b' :: (source ++ ['\x7d']))).filterMap childOf? =
      [.literal (Literal.string (String.ofList ('\x7b' :: (source ++ ['\x7d']))))] := by
  have hfree : holds placeholderStart.toList ('\x7b' :: (source ++ ['\x7d'])) = false := by
    change holds placeholderStart.toList (source ++ '\x7d' :: []) = false
    rw [holds_reserved_stop (by decide), hfree]
    rfl
  rw [fragments_plain hfree, children_textFragments, childOf?,
    if_neg (by rw [trim_cons (by decide)]; decide)]
  rfl

/-- A title is kept as it is. The binding after it is one exactly if the title leaves no comment open. -/
theorem title_before_binding {title : List Char} {name : String}
    (htitle : ∀ c ∈ title, c ∉ ['"', '&', '\x7b', '\r'] ∧ c.toNat ≠ 0)
    (hfree : holds placeholderStart.toList title = false) (hname : IsName name) :
    parse (paragraph (titleTag title) [] name.toList) =
      if holds placeholderStart.toList name.toList then .error reservedWord
      else .ok [⟨"p", [⟨"title", if title.isEmpty then []
          else [.literal (Literal.string (String.ofList title))]⟩],
        if leavesComment false title then
          [.literal (Literal.string (String.ofList ('\x7b' :: (name.toList ++ ['\x7d']))))]
        else [.binding (.identifier name)]⟩] := by
  simp only [List.mem_cons, List.not_mem_nil, or_false, not_or] at htitle
  have htag : ∀ rest, Markup.readMarkup false (titleTag title ++ rest) =
      ⟨[.startTag ⟨"p", [⟨"title", title⟩], false⟩], rest⟩ :=
    readMarkup_titleTag (fun c hc => (htitle c hc).1.1) fun c hc => ⟨(htitle c hc).1.2.1, (htitle c hc).2⟩
  have hchars : ∀ c ∈ titleTag title, c ≠ '\r' ∧ c ≠ '\x7b' := by
    have hstart : ∀ c ∈ "p title=\"".toList, c ≠ '\r' ∧ c ≠ '\x7b' := List.all_iff_forall_prop.1 (by decide)
    have hend : ∀ c ∈ "\">".toList, c ≠ '\r' ∧ c ≠ '\x7b' := List.all_iff_forall_prop.1 (by decide)
    intro c hc
    rcases List.mem_append.1 hc with hc | hc
    · exact hstart c hc
    rcases List.mem_append.1 hc with hc | hc
    · exact ⟨(htitle c hc).1.2.2.2, (htitle c hc).1.2.2.1⟩
    · exact hend c hc
  have hreturn : ∀ c ∈ titleTag title, c ≠ '\r' := fun c hc => (hchars c hc).1
  have hbrace : '\x7b' ∉ '<' :: titleTag title := fun h =>
    (List.mem_cons.1 h).elim (by decide) fun h => (hchars _ h).2 rfl
  have hholds := holds_titled title name.toList
  rw [hfree, Bool.false_or] at hholds
  cases hreserved : holds placeholderStart.toList name.toList with
  | true =>
    rw [hreserved] at hholds
    rw [if_pos rfl]
    exact parse_reserved hholds
  | false =>
    rw [hreserved] at hholds
    rw [if_neg (by decide)]
    cases hleaves : leavesComment false title with
    | true =>
      have hpart : ∀ c ∈ ['<', '-'], isIdentifierPart c = false := List.all_iff_forall_prop.1 (by decide)
      have hsource : ∀ c ∈ ['<', '-'], c ∉ name.toList := fun c hc => not_mem_name hname (hpart c hc)
      rw [parse_commented htag hreturn hbrace (by rwa [leavesComment_titleTag]) hholds hsource,
        shown_braced hname, children_braced hreserved, List.map_singleton, attributeOf_title hfree]
      rfl
    | false =>
      rw [parse_paragraph htag hreturn List.not_mem_nil (by rwa [List.append_nil])
        (by rwa [List.append_nil, leavesComment_titleTag]) hholds (parseExpression_name hname)
        (matchBrace_name hname), List.nil_append, shown_placeholder, fragments_last, List.map_singleton,
        attributeOf_title hfree]
      rfl

/-- A title that leaves a comment open. -/
def openTitle : List Char :=
  "a <!-- b --> <!--".toList

theorem openTitle_hides_binding :
    (∀ c ∈ openTitle, c ∉ ['"', '&', '\x7b', '\r'] ∧ c.toNat ≠ 0) ∧
      parse (paragraph (titleTag openTitle) [] "b".toList) =
        .ok [⟨"p", [⟨"title", [.literal (Literal.string "a <!-- b --> <!--")]⟩],
          [.literal (Literal.string "\x7bb\x7d")]⟩] := by
  have htitle : ∀ c ∈ openTitle, c ∉ ['"', '&', '\x7b', '\r'] ∧ c.toNat ≠ 0 :=
    List.all_iff_forall_prop.1 (by decide)
  have hname : IsName "b" := ⟨by decide, by decide⟩
  exact ⟨htitle, title_before_binding htitle (by decide) hname⟩

end CustomElement.Template
