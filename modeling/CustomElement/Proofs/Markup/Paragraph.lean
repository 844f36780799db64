import CustomElement.Markup.Parse
import CustomElement.Proofs.Markup.Reference

/-!
# The markup of a paragraph

A paragraph that holds nothing but text is read as one element with that text as its only child
(`parse_paragraph`). The text is what is shown of it: line ends are line feeds, references are decoded,
and the character with code zero is left out (`shown`). The states of tree building on the way are
known exactly (`Builder.inParagraph`), and each token adds its characters to the text.
-/

namespace CustomElement.Markup

open CustomElement.Text

/-- What is shown of a text. -/
def shown (text : List Char) : List Char :=
  (decoded (normalizeLineEnds text)).filter (·.toNat != 0)

/-- The text node of a text, if it has characters. -/
def textNodes (text : List Char) : List Node :=
  if text.isEmpty then [] else [.text text]

/-! ## Line ends -/

theorem normalizeLineEnds_append {text rest : List Char} (h : rest.head? ≠ some '\n') :
    normalizeLineEnds (text ++ rest) = normalizeLineEnds text ++ normalizeLineEnds rest := by
  fun_induction normalizeLineEnds text with
  | case1 => rfl
  | case2 text ih => rw [List.cons_append, List.cons_append, normalizeLineEnds, ih, List.cons_append]
  | case3 text hpair ih =>
    have hnext : ∀ after, text ++ rest ≠ '\n' :: after := by
      intro after hafter
      cases text with
      | nil => exact h (by rw [List.nil_append] at hafter; rw [hafter]; rfl)
      | cons c text => exact hpair text (by rw [(List.cons.inj hafter).1])
    rw [List.cons_append, normalizeLineEnds.eq_3 _ hnext, ih, List.cons_append]
  | case4 c text hpair hreturn ih =>
    rw [List.cons_append, normalizeLineEnds.eq_4 _ _ (fun _ hc _ => hreturn hc) hreturn, ih,
      List.cons_append]

theorem normalizeLineEnds_run {run : List Char} (h : ∀ c ∈ run, c ≠ '\r') (rest : List Char) :
    normalizeLineEnds (run ++ rest) = run ++ normalizeLineEnds rest := by
  induction run with
  | nil => rfl
  | cons c run ih =>
    have hc := h c List.mem_cons_self
    rw [List.cons_append, normalizeLineEnds.eq_4 _ _ (fun _ hc' _ => hc hc') hc,
      ih fun c hc => h c (List.mem_cons_of_mem _ hc), List.cons_append]

theorem mem_normalizeLineEnds {text : List Char} {c : Char} (h : c ∈ normalizeLineEnds text) :
    c ∈ text ∨ c = '\n' := by
  fun_induction normalizeLineEnds text with
  | case1 => cases h
  | case2 text ih =>
    rcases List.mem_cons.1 h with rfl | h
    · exact .inr rfl
    · exact (ih h).imp_left fun h => List.mem_cons_of_mem _ (List.mem_cons_of_mem _ h)
  | case3 text _ ih =>
    rcases List.mem_cons.1 h with rfl | h
    · exact .inr rfl
    · exact (ih h).imp_left (List.mem_cons_of_mem _)
  | case4 d text _ _ ih =>
    rcases List.mem_cons.1 h with rfl | h
    · exact .inl List.mem_cons_self
    · exact (ih h).imp_left (List.mem_cons_of_mem _)

/-- Line ends only become line feeds. -/
theorem prefix_of_prefix_normalizeLineEnds {word text : List Char} (hword : '\n' ∉ word)
    (h : word <+: normalizeLineEnds text) : word <+: text := by
  induction word generalizing text with
  | nil => exact List.nil_prefix
  | cons w word ih =>
    have htail : '\n' ∉ word := fun h => hword (List.mem_cons_of_mem _ h)
    have hhead : w ≠ '\n' := fun h => hword (h ▸ List.mem_cons_self)
    fun_cases normalizeLineEnds text with
    | case1 => exact h
    | case2 text => exact absurd (List.cons_prefix_cons.1 h).1 hhead
    | case3 text hpair =>
      rw [normalizeLineEnds.eq_3 _ hpair] at h
      exact absurd (List.cons_prefix_cons.1 h).1 hhead
    | case4 c text hpair hreturn =>
      rw [normalizeLineEnds.eq_4 _ _ hpair hreturn] at h
      obtain ⟨rfl, hrest⟩ := List.cons_prefix_cons.1 h
      exact List.cons_prefix_cons.2 ⟨rfl, ih htail hrest⟩

theorem infix_of_infix_normalizeLineEnds {word text : List Char} (hword : '\n' ∉ word)
    (h : word <:+: normalizeLineEnds text) : word <:+: text := by
  fun_induction normalizeLineEnds text with
  | case1 => exact h
  | case2 text ih =>
    rcases List.infix_cons_iff.1 h with hstart | hrest
    · rw [← normalizeLineEnds.eq_2] at hstart
      exact (prefix_of_prefix_normalizeLineEnds hword hstart).isInfix
    · exact List.infix_cons (List.infix_cons (ih hrest))
  | case3 text hpair ih =>
    rcases List.infix_cons_iff.1 h with hstart | hrest
    · rw [← normalizeLineEnds.eq_3 _ hpair] at hstart
      exact (prefix_of_prefix_normalizeLineEnds hword hstart).isInfix
    · exact List.infix_cons (ih hrest)
  | case4 c text hpair hreturn ih =>
    rcases List.infix_cons_iff.1 h with hstart | hrest
    · rw [← normalizeLineEnds.eq_4 _ _ hpair hreturn] at hstart
      exact (prefix_of_prefix_normalizeLineEnds hword hstart).isInfix
    · exact List.infix_cons (ih hrest)

/-! ## What is shown -/

/-- A text in front of a barrier is shown by itself. -/
theorem shown_append {text rest : List Char} {x : Char} (hx : isBarrier x = true) :
    shown (text ++ x :: rest) = shown text ++ shown (x :: rest) := by
  have hline : x ≠ '\n' := by
    rintro rfl
    cases hx
  have hreturn : x ≠ '\r' := by
    rintro rfl
    cases hx
  have hrest : normalizeLineEnds (x :: rest) = x :: normalizeLineEnds rest :=
    normalizeLineEnds_run (List.forall_mem_singleton.2 hreturn) rest
  simp only [shown]
  rw [normalizeLineEnds_append (by simpa using hline), hrest, decoded_append hx, List.filter_append]

/-- Without line ends, references and the character with code zero, a text is shown as it is. -/
theorem shown_plain {text : List Char} (h : ∀ c ∈ text, c ≠ '\r' ∧ c ≠ '&' ∧ c.toNat ≠ 0) :
    shown text = text := by
  have hlines : normalizeLineEnds text = text := by
    have hrun := normalizeLineEnds_run (fun c hc => (h c hc).1) []
    rwa [List.append_nil, normalizeLineEnds, List.append_nil] at hrun
  rw [shown, hlines, decoded_plain fun c hc => (h c hc).2.1]
  exact List.filter_eq_self.2 fun c hc => by simpa using (h c hc).2.2

/-! ## Start tags -/

/-- Without an ampersand and the character with code zero, the value of an attribute is its text. -/
theorem decode_plain {text : List Char} (h : ∀ c ∈ text, c ≠ '&' ∧ c.toNat ≠ 0) :
    decode true text = text := by
  unfold decode
  induction text with
  | nil => rfl
  | cons c text ih =>
    obtain ⟨hand, hzero⟩ := h c List.mem_cons_self
    rw [List.length_cons, decodeUpTo.eq_4 _ _ _ _ hand, ih fun c hc => h c (List.mem_cons_of_mem _ hc),
      textChar, if_neg (by simpa using hzero)]

theorem quotedValue_plain {text : List Char} (hquote : ∀ c ∈ text, c ≠ '"')
    (hplain : ∀ c ∈ text, c ≠ '&' ∧ c.toNat ≠ 0) (rest : List Char) :
    quotedValue '"' (text ++ '"' :: rest) = some (text, rest) := by
  have hall : ∀ c ∈ text, (c != '"') = true := fun c hc => bne_iff_ne.2 (hquote c hc)
  have htake : (text ++ '"' :: rest).takeWhile (· != '"') = text := by
    rw [List.takeWhile_append_of_pos hall, List.takeWhile_cons_of_neg (by decide), List.append_nil]
  have hdrop : (text ++ '"' :: rest).dropWhile (· != '"') = '"' :: rest := by
    rw [List.dropWhile_append_of_pos hall, List.dropWhile_cons_of_neg (by decide)]
  rw [quotedValue, hdrop, htake, decode_plain hplain]

theorem readAttributes_step {limit : Nat} {attributes : List TagAttribute} {text rest after : List Char}
    {c : Char} {a : TagAttribute} (hskip : skipBlank text = c :: rest) (hangle : c ≠ '>')
    (hslash : c ≠ '/') (hread : readAttribute c rest = some (a, after)) :
    readAttributes (limit + 1) attributes text =
      readAttributes limit (addAttribute attributes a) after := by
  rw [readAttributes]
  split
  · rename_i h
    cases hskip.symm.trans h
  · rename_i h
    exact absurd (List.cons.inj (hskip.symm.trans h)).1 hangle
  · rename_i h
    exact absurd (List.cons.inj (hskip.symm.trans h)).1 hslash
  · rename_i h
    exact absurd (List.cons.inj (hskip.symm.trans h)).1 hslash
  · rename_i h
    cases hskip.symm.trans h
    rw [hread]

/-- The start tag of a paragraph with a title. -/
theorem readMarkup_title {value : List Char} (hquote : ∀ c ∈ value, c ≠ '"')
    (hplain : ∀ c ∈ value, c ≠ '&' ∧ c.toNat ≠ 0) (rest : List Char) :
    readMarkup false ("p title=\"".toList ++ (value ++ '"' :: '>' :: rest)) =
      ⟨[.startTag ⟨"p", [⟨"title", value⟩], false⟩], rest⟩ := by
  have hattribute : readAttribute 't' ("itle=\"".toList ++ (value ++ '"' :: '>' :: rest)) =
      some (⟨"title", value⟩, '>' :: rest) := by
    change (quotedValue '"' (value ++ '"' :: '>' :: rest)).map
      (fun read => ((⟨"title", read.1⟩ : TagAttribute), read.2)) = _
    rw [quotedValue_plain hquote hplain]
    rfl
  have hattributes : ∀ limit, readAttributes (limit + 2) []
      (" title=\"".toList ++ (value ++ '"' :: '>' :: rest)) = some ([⟨"title", value⟩], false, rest) :=
    fun limit => readAttributes_step rfl (by decide) (by decide) hattribute
  have htag : readTag ("p title=\"".toList ++ (value ++ '"' :: '>' :: rest)) =
      some (⟨"p", [⟨"title", value⟩], false⟩, rest) := by
    change (readAttributes (_ + 2) [] (" title=\"".toList ++ (value ++ '"' :: '>' :: rest))).map
      (fun read => ((⟨"p", read.1, read.2.1⟩ : Tag), read.2.2)) = _
    rw [hattributes]
    rfl
  change readStartTag ("p title=\"".toList ++ (value ++ '"' :: '>' :: rest)) = _
  rw [readStartTag, htag]

/-! ## States of tree building -/

namespace Builder

variable (attributes : List TagAttribute)

/-- The nodes of a paragraph at the top with its text. -/
def paragraphNodes (text : List Char) : Arena :=
  match text with
  | [] => ⟨#[⟨.element rootName [], none, [1]⟩, ⟨.element ⟨.html, "p"⟩ attributes, some 0, []⟩]⟩
  | text =>
    ⟨#[⟨.element rootName [], none, [1]⟩, ⟨.element ⟨.html, "p"⟩ attributes, some 0, [2]⟩,
      ⟨.text text, some 1, []⟩]⟩

/-- The state inside of a paragraph at the top that holds the text so far. -/
def inParagraph (text : List Char) : Builder :=
  { start with
    nodes := paragraphNodes attributes text
    mode := .body
    stack := [⟨1, ⟨.html, "p"⟩, false⟩, ⟨0, rootName, false⟩]
    templateModes := [.body] }

theorem process_startParagraph :
    start.process (.startTag ⟨"p", attributes, false⟩) = inParagraph attributes [] :=
  rfl

theorem process_text (before : List Char) (c : Char) (text : List Char) :
    (inParagraph attributes before).process (.text (c :: text)) =
      inParagraph attributes (before ++ c :: text) := by
  cases before <;> rfl

theorem process_blank (before : List Char) (c : Char) (text : List Char) :
    (inParagraph attributes before).process (.blank (c :: text)) =
      inParagraph attributes (before ++ c :: text) := by
  cases before <;> rfl

theorem process_null (before : List Char) :
    (inParagraph attributes before).process .null = inParagraph attributes before := by
  cases before <;> rfl

/-- A run of characters with the tokens after it is read as the tokens alone, with the first character in
the text already. -/
theorem foldl_process_pushChar (before : List Char) (c : Char) (tokens : List Token)
    (htokens : ∀ t ∈ tokens.head?, t ≠ .text [] ∧ t ≠ .blank []) :
    (pushChar c tokens).foldl process (inParagraph attributes before) =
      tokens.foldl process (inParagraph attributes (before ++ [c].filter (·.toNat != 0))) := by
  unfold pushChar
  by_cases hzero : c.toNat = 0
  · rw [if_pos (beq_iff_eq.2 hzero), List.foldl_cons, process_null,
      List.filter_cons_of_neg (by simp [hzero]), List.filter_nil, List.append_nil]
  rw [if_neg (by simpa using hzero), List.filter_cons_of_pos (by simpa using hzero), List.filter_nil]
  split
  · split
    · rename_i text rest
      cases text with
      | nil => exact absurd rfl (htokens _ rfl).2
      | cons d text =>
        rw [List.foldl_cons, process_blank, List.foldl_cons, process_blank, List.append_assoc]
        rfl
    · rw [List.foldl_cons, process_blank]
  · split
    · rename_i text rest
      cases text with
      | nil => exact absurd rfl (htokens _ rfl).1
      | cons d text =>
        rw [List.foldl_cons, process_text, List.foldl_cons, process_text, List.append_assoc]
        rfl
    · rw [List.foldl_cons, process_text]

theorem head_charTokens (chars : List Char) :
    ∀ t ∈ (charTokens chars).head?, t ≠ .text [] ∧ t ≠ .blank [] := by
  cases chars with
  | nil => rintro _ ⟨⟩
  | cons c chars =>
    change ∀ t ∈ (pushChar c (charTokens chars)).head?, _
    fun_cases pushChar c (charTokens chars) <;> rintro _ ⟨⟩ <;> exact ⟨nofun, nofun⟩

/-- The characters of a run are added to the text of the paragraph. -/
theorem foldl_process_charTokens (before chars : List Char) :
    (charTokens chars).foldl process (inParagraph attributes before) =
      inParagraph attributes (before ++ chars.filter (·.toNat != 0)) := by
  induction chars generalizing before with
  | nil => rw [List.filter_nil, List.append_nil]; rfl
  | cons c chars ih =>
    change (pushChar c (charTokens chars)).foldl process _ = _
    rw [foldl_process_pushChar attributes before c _ (head_charTokens chars), ih, List.append_assoc,
      ← List.filter_append, List.singleton_append]

/-! ## Reading the text -/

theorem readIn_markup {steps : Nat} {text : List Char} (hne : text ≠ []) (before : List Char) :
    readIn (steps + 1) text (inParagraph attributes before) =
      readIn steps (readTokens false text).rest
        ((readTokens false text).tokens.foldl process (inParagraph attributes before)) := by
  change (if text.isEmpty then _ else _) = _
  rw [if_neg (by simpa using hne)]
  rfl

/-- A character that is no ampersand starts a run of characters that stand for themselves. -/
theorem readTokens_plain {c : Char} (hangle : c ≠ '<') (hand : c ≠ '&') (text : List Char) :
    readTokens false (c :: text) =
      ⟨charTokens ((c :: text).takeWhile isPlain), (c :: text).dropWhile isPlain⟩ :=
  readTokens.eq_4 _ _ (by simp) (fun _ h => hangle (List.cons.inj h).1) fun _ h => hand (List.cons.inj h).1

theorem decoded_run {run text : List Char} (h : ∀ c ∈ run, isPlain c = true) :
    decoded (run ++ text) = run ++ decoded text := by
  induction run with
  | nil => rfl
  | cons c run ih =>
    have hc : c ≠ '&' := by
      rintro rfl
      cases h '&' List.mem_cons_self
    rw [List.cons_append, decoded_char hc, ih fun c hc => h c (List.mem_cons_of_mem _ hc),
      List.cons_append]

/-- Text up to a tag is added to the text of the paragraph, decoded and without the character with code
zero. Each step takes at least one of its characters. -/
theorem readIn_text {text : List Char} (hangle : '<' ∉ text) (rest before : List Char) {steps : Nat}
    (hsteps : text.length ≤ steps) :
    ∃ left, steps - text.length ≤ left ∧
      readIn steps (text ++ '<' :: rest) (inParagraph attributes before) =
        readIn left ('<' :: rest)
          (inParagraph attributes (before ++ (decoded text).filter (·.toNat != 0))) := by
  induction hlength : text.length using Nat.strongRecOn generalizing text before steps with
  | ind length ih =>
    subst hlength
    cases text with
    | nil =>
      refine ⟨steps, Nat.sub_le .., ?_⟩
      rw [decoded, List.filter_nil, List.append_nil]
      rfl
    | cons c text =>
      obtain ⟨steps, rfl⟩ : ∃ n, steps = n + 1 :=
        Nat.exists_eq_succ_of_ne_zero (Nat.ne_of_gt (Nat.lt_of_lt_of_le (Nat.succ_pos _) hsteps))
      have hc : c ≠ '<' := fun h => hangle (h ▸ List.mem_cons_self)
      have htail : '<' ∉ text := fun h => hangle (List.mem_cons_of_mem _ h)
      rw [List.length_cons] at hsteps
      -- what is left after the first tokens is shorter
      have hgo : ∀ (chars : List Char) {after : List Char}, after.length ≤ text.length → '<' ∉ after →
          readTokens false (c :: (text ++ '<' :: rest)) = ⟨charTokens chars, after ++ '<' :: rest⟩ →
          decoded (c :: text) = chars ++ decoded after →
          ∃ left, steps + 1 - (text.length + 1) ≤ left ∧
            readIn (steps + 1) (c :: (text ++ '<' :: rest)) (inParagraph attributes before) =
              readIn left ('<' :: rest)
                (inParagraph attributes (before ++ (decoded (c :: text)).filter (·.toNat != 0))) := by
        intro chars after hlen hafter hread hdecoded
        obtain ⟨left, hleft, heq⟩ := ih after.length (Nat.lt_succ_of_le hlen) hafter
          (before ++ chars.filter (·.toNat != 0)) (Nat.le_trans hlen (Nat.le_of_succ_le_succ hsteps)) rfl
        refine ⟨left, by omega, ?_⟩
        rw [readIn_markup attributes (by simp), hread, foldl_process_charTokens, heq, hdecoded,
          List.filter_append, List.append_assoc]
      by_cases hand : c = '&'
      · subst hand
        have hreference := readReference_append (x := '<') rfl text rest
        cases hread : readReference false text with
        | none =>
          rw [hread] at hreference
          refine hgo ['&'] (Nat.le_refl _) htail ?_ (decoded_ampersand hread)
          rw [readTokens, hreference]
          rfl
        | some read =>
          obtain ⟨chars, after⟩ := read
          rw [hread] at hreference
          have hafter := readReference_suffix hread
          refine hgo chars hafter.length_le (fun h => htail (hafter.subset h)) ?_ (decoded_reference hread)
          rw [readTokens, hreference]
          rfl
      · have hplain : isPlain c = true := by simp [isPlain, hc, hand]
        have hdrop := List.dropWhile_suffix (l := text) isPlain
        refine hgo (c :: text.takeWhile isPlain) hdrop.length_le
          (fun h => htail (hdrop.subset h)) ?_ ?_
        · rw [readTokens_plain hc hand, List.takeWhile_cons_of_pos hplain,
            List.dropWhile_cons_of_pos hplain, takeWhile_append_stop rfl, dropWhile_append_stop rfl]
        · have hrun : ∀ d ∈ c :: text.takeWhile isPlain, isPlain d = true :=
            List.forall_mem_cons.2 ⟨hplain, List.all_eq_true.1 List.all_takeWhile⟩
          rw [← decoded_run hrun, List.cons_append, List.takeWhile_append_dropWhile]

theorem readIn_nil (steps : Nat) {b : Builder} (hb : b.content = .markup) : readIn steps [] b = b := by
  cases steps with
  | zero => rfl
  | succ steps =>
    rw [readIn, hb]
    rfl

/-- The state behind a paragraph that is closed. -/
def afterParagraph (text : List Char) : Builder :=
  { inParagraph attributes text with stack := [⟨0, rootName, false⟩] }

theorem process_endParagraph (text : List Char) :
    (inParagraph attributes text).process (.endTag "p") = afterParagraph attributes text := by
  cases text <;> rfl

/-- A start tag of a paragraph, text, and its end tag. -/
theorem readIn_paragraph {tag : List Char}
    (htag : ∀ rest, readMarkup false (tag ++ rest) = ⟨[.startTag ⟨"p", attributes, false⟩], rest⟩)
    {text : List Char} (hangle : '<' ∉ text) {steps : Nat} (hsteps : text.length + 2 ≤ steps) :
    readIn steps ('<' :: (tag ++ (text ++ "</p>".toList))) start =
      afterParagraph attributes ((decoded text).filter (·.toNat != 0)) := by
  obtain ⟨steps, rfl⟩ : ∃ n, steps = n + 1 := Nat.exists_eq_succ_of_ne_zero (by omega)
  have hopen : readIn (steps + 1) ('<' :: (tag ++ (text ++ "</p>".toList))) start =
      readIn steps (text ++ "</p>".toList) (inParagraph attributes []) := by
    change readIn steps (readMarkup false _).rest ((readMarkup false _).tokens.foldl process start) = _
    rw [htag, List.foldl_cons, process_startParagraph]
    rfl
  obtain ⟨left, hleft, htext⟩ := readIn_text attributes hangle "/p>".toList []
    (show text.length ≤ steps by omega)
  obtain ⟨left, rfl⟩ : ∃ n, left = n + 1 := Nat.exists_eq_succ_of_ne_zero (by omega)
  rw [hopen]
  refine htext.trans ?_
  have hclose : readTokens false ('<' :: "/p>".toList) = ⟨[.endTag "p"], []⟩ := rfl
  rw [readIn_markup attributes (by simp), List.nil_append, hclose, List.foldl_cons, process_endParagraph]
  exact readIn_nil left rfl

theorem toNode_afterParagraph (text : List Char) :
    (afterParagraph attributes text).finish.nodes.toNode
        ((afterParagraph attributes text).finish.nodes.next + 1) 0 =
      some (.element rootName [] [.element ⟨.html, "p"⟩ attributes (textNodes text)]) := by
  cases text <;> rfl

end Builder

/-- A paragraph with text in it is read as one element with what is shown of the text. -/
theorem parse_paragraph {attributes : List TagAttribute} {tag text : List Char}
    (htag : ∀ rest, readMarkup false (tag ++ rest) = ⟨[.startTag ⟨"p", attributes, false⟩], rest⟩)
    (hreturn : ∀ c ∈ tag, c ≠ '\r') (hangle : '<' ∉ text) :
    parse ('<' :: (tag ++ (text ++ "</p>".toList))) =
      [.element ⟨.html, "p"⟩ attributes (textNodes (shown text))] := by
  have hlines : normalizeLineEnds (dropByteOrderMark ('<' :: (tag ++ (text ++ "</p>".toList)))) =
      '<' :: (tag ++ (normalizeLineEnds text ++ "</p>".toList)) := by
    change normalizeLineEnds (('<' :: tag) ++ (text ++ "</p>".toList)) = _
    rw [normalizeLineEnds_run (List.forall_mem_cons.2 ⟨by decide, hreturn⟩),
      normalizeLineEnds_append (by decide)]
    rfl
  have hangle : '<' ∉ normalizeLineEnds text := fun h => (mem_normalizeLineEnds h).elim hangle (by decide)
  simp only [parse, hlines]
  rw [Builder.readIn_paragraph attributes htag hangle
    (by simp only [List.length_cons, List.length_append]; omega), Builder.toNode_afterParagraph]
  rfl

end CustomElement.Markup
