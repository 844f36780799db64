import CustomElement.Proofs.Template.Substitution

/-!
# The pieces of a template around a binding

What `segments` makes of a run of characters and of a binding depends on the text in front of them only
through a comment that it leaves open:

* `matchBrace_local`: the source of a binding is found from its own characters, whatever follows it;
* `segmentsFrom_run`: a run without braces is cut into characters, and what comes after it is cut inside
  or outside of a comment as the run leaves it (`leavesComment`);
* `fragments_run`: the characters of a run are found again as text.
-/

namespace CustomElement.Template

open CustomElement.Text CustomElement.Tree

/-! ## Words in a text -/

/-- A word does not reach over a character that it does not have. -/
theorem prefix_append_stop {word : List Char} {c : Char} (hc : c ∉ word) (text rest : List Char) :
    word <+: text ++ c :: rest ↔ word <+: text := by
  constructor
  · intro h
    rcases Nat.lt_or_ge text.length word.length with hlen | hlen
    · have hstop : text ++ [c] <+: word :=
        List.prefix_of_prefix_length_le (by simp) h (by simpa using Nat.succ_le_of_lt hlen)
      exact absurd (hstop.subset (by simp)) hc
    · exact List.prefix_of_prefix_length_le h (List.prefix_append ..) hlen
  · exact fun h => h.trans (List.prefix_append ..)

theorem isPrefixOf_append_stop {word : List Char} {c : Char} (hc : c ∉ word) (text rest : List Char) :
    word.isPrefixOf (text ++ c :: rest) = word.isPrefixOf text := by
  rw [Bool.eq_iff_iff, List.isPrefixOf_iff_prefix, List.isPrefixOf_iff_prefix, prefix_append_stop hc]

theorem holds_iff_infix {word text : List Char} : holds word text = true ↔ word <:+: text := by
  induction text with
  | nil => rw [holds, List.isEmpty_iff, List.infix_nil]
  | cons c text ih => rw [holds, Bool.or_eq_true, List.isPrefixOf_iff_prefix, ih, List.infix_cons_iff]

theorem holds_append_stop {word rest : List Char} {c : Char} (hc : c ∉ word) (hne : word ≠ [])
    (text : List Char) :
    holds word (text ++ c :: rest) = (holds word text || holds word rest) := by
  induction text with
  | nil =>
    cases word with
    | nil => exact absurd rfl hne
    | cons w word =>
      have hw : (w == c) = false := beq_eq_false_iff_ne.2 fun h => hc (h ▸ List.mem_cons_self)
      rw [List.nil_append, holds, holds, List.isPrefixOf, hw]
      rfl
  | cons d text ih =>
    rw [List.cons_append, holds, ih, ← List.cons_append, isPrefixOf_append_stop hc, holds, Bool.or_assoc]

/-! ## Bindings -/

theorem matchBrace_string {c : Char} (hc : c ≠ '\\') (quote : Char) (depth : Nat) (rest : List Char) :
    matchBrace (.string quote) depth (c :: rest) =
      (matchBrace (if c == quote then .code else .string quote) depth rest).map
        fun found => (c :: found.1, found.2) :=
  matchBrace.eq_4 _ _ _ _ (fun h _ => hc h) fun _ _ h _ => hc h

theorem matchBrace_text {c : Char} (hc : c ≠ '\\') (n depth : Nat) {rest : List Char}
    (hopen : c = '$' → rest.head? ≠ some '\x7b') :
    matchBrace (.template n) depth (c :: rest) =
      (matchBrace (if c == '`' && n == 0 then .code
        else if c == '\x7d' then .template (n - 1) else .template n) depth rest).map
        fun found => (c :: found.1, found.2) :=
  matchBrace.eq_6 _ _ _ _ (fun h _ => hc h) (fun _ _ h _ => hc h) fun _ h hrest =>
    hopen h (by rw [hrest]; rfl)

theorem matchBrace_code {c : Char} (hc : c ≠ '\\') {depth : Nat} (hdepth : c = '\x7d' → 1 < depth)
    (rest : List Char) :
    matchBrace .code depth (c :: rest) =
      (matchBrace (if c == '"' || c == '\'' then .string c else if c == '`' then .template 0 else .code)
        (if c == '\x7b' then depth + 1 else if c == '\x7d' then depth - 1 else depth) rest).map
        fun found => (c :: found.1, found.2) := by
  rw [matchBrace.eq_7 _ _ _ (fun h _ => hc h) fun _ _ h _ => hc h, if_neg]
  rw [Bool.and_eq_true, beq_iff_eq, decide_eq_true_eq]
  exact fun h => Nat.not_le_of_lt (hdepth h.1) h.2

theorem ne_backslash {c : Char} {text : List Char} (hend : c = '\\' → text = [] → False)
    (hescape : ∀ d rest, c = '\\' → text = d :: rest → False) : c ≠ '\\' := by
  intro h
  cases text with
  | nil => exact hend h rfl
  | cons d rest => exact hescape d rest h rfl

/-- The source of a binding is found from its own characters. -/
theorem matchBrace_local {place : BracePlace} {depth : Nat} {text source after : List Char}
    (h : matchBrace place depth text = some (source, after)) (rest : List Char) :
    matchBrace place depth (source ++ '\x7d' :: rest) = some (source, rest) := by
  fun_induction matchBrace place depth text generalizing source after with
  | case1 | case2 => cases h
  | case3 place depth c text ih | case5 n depth text ih =>
    obtain ⟨⟨source, after⟩, hfound, heq⟩ := Option.map_eq_some_iff.1 h
    cases heq
    rw [List.cons_append, List.cons_append, matchBrace, ih hfound]
    rfl
  | case4 quote depth c text hend hescape ih =>
    obtain ⟨⟨source, after⟩, hfound, heq⟩ := Option.map_eq_some_iff.1 h
    cases heq
    rw [List.cons_append, matchBrace_string (ne_backslash hend hescape), ih hfound]
    rfl
  | case6 n depth c text hend hescape hopen place =>
    rename_i ih
    obtain ⟨⟨source, after⟩, hfound, heq⟩ := Option.map_eq_some_iff.1 h
    cases heq
    -- the source is the start of the text up to a closing brace, so no substitution opens here either
    have hnext : c = '$' → (source ++ '\x7d' :: rest).head? ≠ some '\x7b' := by
      intro hdollar hbrace
      cases source with
      | nil => cases hbrace
      | cons d source =>
        cases hbrace
        exact hopen _ hdollar (eq_of_matchBrace hfound)
    rw [List.cons_append, matchBrace_text (ne_backslash hend hescape) _ _ hnext, ih hfound]
    rfl
  | case7 depth c text hend hescape hclose =>
    cases h
    rw [Bool.and_eq_true, beq_iff_eq, decide_eq_true_eq] at hclose
    rw [List.nil_append, matchBrace.eq_7 _ _ _ (by simp) (by simp), if_pos (by simpa using hclose.2)]
  | case8 depth c text hend hescape hclose place =>
    rename_i ih
    obtain ⟨⟨source, after⟩, hfound, heq⟩ := Option.map_eq_some_iff.1 h
    cases heq
    have hdepth : c = '\x7d' → 1 < depth := fun hc => by simpa [hc] using hclose
    rw [List.cons_append, matchBrace_code (ne_backslash hend hescape) hdepth, ih hfound]
    rfl

/-- The characters that open or close something in a binding. -/
def delimiters : List Char :=
  ['\\', '"', '\'', '`', '\x7b', '\x7d']

theorem matchBrace_inert {text : List Char} (h : ∀ c ∈ text, c ∉ delimiters) (rest : List Char) :
    matchBrace .code 1 (text ++ '\x7d' :: rest) = some (text, rest) := by
  induction text with
  | nil => rfl
  | cons c text ih =>
    have hc := h c List.mem_cons_self
    simp only [delimiters, List.mem_cons, List.not_mem_nil, or_false, not_or] at hc
    obtain ⟨hescape, hquote, hquote', htemplate, hopen, hclose⟩ := hc
    rw [List.cons_append, matchBrace_code hescape fun h => absurd h hclose,
      if_neg (by simp [hquote, hquote']), if_neg (by simpa using htemplate), if_neg (by simpa using hopen), if_neg (by simpa using hclose),
      ih fun d hd => h d (List.mem_cons_of_mem _ hd)]
    rfl

theorem segments_binding {source : List Char}
    (h : matchBrace .code 1 (source ++ ['\x7d']) = some (source, [])) (rest : List Char) :
    segments ('\x7b' :: (source ++ '\x7d' :: rest)) = .binding source :: segments rest := by
  rw [segments, if_neg (by simp [startsComment]), if_pos (beq_self_eq_true _)]
  split
  · rename_i found after hfound
    rw [matchBrace_local h rest] at hfound
    cases hfound
    rfl
  · rename_i hfound
    cases (matchBrace_local h rest).symm.trans hfound

/-! ## Runs and comments -/

/-- Whether a text ends inside of a comment, if it starts inside or outside of one. -/
def leavesComment : Bool → List Char → Bool
  | inside, [] => inside
  | true, '-' :: '-' :: '>' :: rest => leavesComment false rest
  | true, _ :: rest => leavesComment true rest
  | false, c :: rest => leavesComment (startsComment (c :: rest)) rest

/-- The pieces of a text that starts inside or outside of a comment. -/
def segmentsFrom (inside : Bool) (text : List Char) : List Segment :=
  if inside then (splitComment text).1.map .char ++ segments (splitComment text).2 else segments text

theorem segmentsFrom_start {c : Char} (hc : c ≠ '\x7b') (rest : List Char) :
    segmentsFrom false (c :: rest) = .char c :: segmentsFrom (startsComment (c :: rest)) rest := by
  change segments (c :: rest) = _
  rw [segments]
  split
  · rename_i hstart
    have hopen : c = '<' := by
      simp only [startsComment, List.isPrefixOf_iff_prefix] at hstart
      exact (List.cons_prefix_cons.1 hstart).1.symm
    subst hopen
    rw [hstart, segmentsFrom, if_pos rfl, splitComment.eq_3 _ _ (by simp)]
    rfl
  · rename_i hstart
    rw [if_neg (by simpa using hc), Bool.eq_false_iff.2 hstart]
    rfl

theorem segmentsFrom_inside {c : Char} {rest : List Char}
    (h : ∀ after, c = '-' → rest = '-' :: '>' :: after → False) :
    segmentsFrom true (c :: rest) = .char c :: segmentsFrom true rest := by
  simp only [segmentsFrom, if_true, splitComment.eq_3 c rest h]
  rfl

/-- A comment starts in a run by the characters of the run, if the character after it can be no part of
the start of one. -/
theorem startsComment_append {d c : Char} {run rest : List Char} (hc : c ∉ "<!-->".toList) :
    startsComment (d :: (run ++ c :: rest)) = startsComment (d :: run) :=
  isPrefixOf_append_stop (fun h => hc (List.mem_append_left ['>'] h)) (d :: run) rest

theorem unended_append {d c : Char} {run rest : List Char} (hc : c ∉ "<!-->".toList)
    (hend : ∀ after, d = '-' → run = '-' :: '>' :: after → False) :
    ∀ after, d = '-' → run ++ c :: rest = '-' :: '>' :: after → False := by
  intro after hd h
  have hword : ['-', '>'] <+: run :=
    (prefix_append_stop (fun hc' => hc (List.mem_append_right "<!-".toList hc')) run rest).1
      ⟨after, h.symm⟩
  obtain ⟨after, rfl⟩ := hword
  exact hend after hd rfl

/-- A run without braces is cut into its characters. The character after it can be no part of the start
or end of a comment. -/
theorem segmentsFrom_run (inside : Bool) {run : List Char} (hbrace : '\x7b' ∉ run) {c : Char}
    (hc : c ∉ "<!-->".toList) (rest : List Char) :
    segmentsFrom inside (run ++ c :: rest) =
      run.map .char ++ segmentsFrom (leavesComment inside run) (c :: rest) := by
  fun_induction leavesComment inside run with
  | case1 => rfl
  | case2 run ih =>
    have hrun : '\x7b' ∉ run := fun h => hbrace (by simp [h])
    exact congrArg (['-', '-', '>'].map Segment.char ++ ·) (ih hrun)
  | case3 d run hend ih =>
    have hrun : '\x7b' ∉ run := fun h => hbrace (List.mem_cons_of_mem _ h)
    rw [List.cons_append, segmentsFrom_inside (unended_append hc hend), ih hrun, List.map_cons,
      List.cons_append]
  | case4 d run ih =>
    obtain ⟨hd, hrun⟩ := not_or.1 (fun h => hbrace (List.mem_cons.2 h))
    rw [List.cons_append, segmentsFrom_start (Ne.symm hd), startsComment_append hc, ih hrun, List.map_cons,
      List.cons_append]

/-- What a text leaves of a comment depends on the text in front of it only through a comment that it is
in. -/
theorem leavesComment_append {inside : Bool} {run rest : List Char} {c : Char} (hc : c ∉ "<!-->".toList) :
    leavesComment inside (run ++ c :: rest) = leavesComment (leavesComment inside run) (c :: rest) := by
  fun_induction leavesComment inside run with
  | case1 => rfl
  | case2 run ih => exact ih
  | case3 d run hend ih =>
    rw [List.cons_append, leavesComment.eq_3 _ _ (unended_append hc hend), ih]
  | case4 d run ih =>
    rw [List.cons_append, leavesComment, startsComment_append hc, ih]

/-- Inside of a comment that nothing ends there are no bindings. -/
theorem segmentsFrom_unended {text : List Char} (h : holds "-->".toList text = false) :
    segmentsFrom true text = text.map .char := by
  induction text with
  | nil => simp [segmentsFrom, splitComment, segments]
  | cons c text ih =>
    rw [holds, Bool.or_eq_false_iff] at h
    rw [segmentsFrom_inside, ih h.2, List.map_cons]
    rintro after rfl rfl
    cases h.1

theorem withPlaceholders_chars (index : Nat) (text : List Char) (rest : List Segment) :
    withPlaceholders index (text.map .char ++ rest) = text ++ withPlaceholders index rest := by
  induction text with
  | nil => rfl
  | cons c text ih => exact congrArg (c :: ·) ih

theorem sources_chars (text : List Char) (rest : List Segment) :
    sources (text.map .char ++ rest) = sources rest := by
  induction text with
  | nil => rfl
  | cons c text ih => exact ih

/-! ## Fragments of a run -/

/-- The fragment of a text, if it has characters. -/
def textFragments (text : List Char) : List Fragment :=
  if text.isEmpty then [] else [.text text]

/-- The characters of a run that does not use the reserved word are found again, whatever pieces come
after it. -/
theorem fragments_run (bindings : List Expr) (index : Nat) {run : List Char} {pieces : List Segment}
    (h : holds placeholderStart.toList (run ++ unbraced pieces) = false) :
    fragments bindings (run ++ withPlaceholders index pieces) =
      run.foldr pushChar (fragments bindings (withPlaceholders index pieces)) := by
  induction run with
  | nil => rfl
  | cons c run ih =>
    have hpieces : unbraced (.char c :: (run.map .char ++ pieces)) = c :: run ++ unbraced pieces := by
      rw [← List.cons_append, ← List.map_cons (f := Segment.char), unbraced, List.flatMap_append,
        flatMap_written_chars, unbraced]
    have hnone : readPlaceholder (c :: withPlaceholders index (run.map .char ++ pieces)) = none :=
      readPlaceholder_char (hpieces ▸ h)
    rw [withPlaceholders_chars] at hnone
    have hrun : holds placeholderStart.toList (run ++ unbraced pieces) = false :=
      (Bool.or_eq_false_iff.1 h).2
    rw [List.cons_append, fragments_char hnone, ih hrun, List.foldr_cons]

theorem foldr_pushChar_nil (run : List Char) : run.foldr pushChar [] = textFragments run := by
  induction run with
  | nil => rfl
  | cons c run ih =>
    rw [List.foldr_cons, ih]
    cases run <;> rfl

theorem foldr_pushChar_binding (run : List Char) (e : Expr) (rest : List Fragment) :
    run.foldr pushChar (.binding e :: rest) = textFragments run ++ .binding e :: rest := by
  induction run with
  | nil => rfl
  | cons c run ih =>
    rw [List.foldr_cons, ih]
    cases run <;> rfl

end CustomElement.Template
