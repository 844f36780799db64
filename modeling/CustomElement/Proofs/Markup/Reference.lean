import CustomElement.Markup.Reference

/-!
# Where references end

A reference is over where a bracket or an underscore follows, since neither stands in a name or a number
(`namesOf_letters`). What comes from there on makes no difference to it (`readReference_append`), so a
text can be decoded piece by piece (`decoded_append`).
-/

namespace CustomElement.Markup

open CustomElement.Text

/-- The characters of which it matters here that no reference has them. -/
def isBarrier (c : Char) : Bool :=
  c == '<' || c == '_'

/-! ## Names -/

/-- Whether no byte of a text is the code of a barrier. Bytes are much faster to check than characters. -/
def lacksBarrierBytes (s : String) : Bool :=
  s.toByteArray.data.toList.all fun b => !(b.toNat.beq 60 || b.toNat.beq 95)

theorem all_lacksBarrierBytes (c : Char) : ((namesOf c).all fun e => lacksBarrierBytes e.1) = true := by
  unfold namesOf
  split <;> decide +kernel

theorem isBarrier_of_lacksBarrierBytes {s : String} (h : lacksBarrierBytes s = true) :
    ∀ c ∈ s.toList, isBarrier c = false := by
  intro c hc
  rw [← String.ofList_toList (s := s), lacksBarrierBytes, String.toByteArray_ofList, List.utf8Encode,
    List.toList_data_toByteArray, List.all_eq_true] at h
  refine Bool.eq_false_iff.2 fun hbarrier => ?_
  simp only [isBarrier, Bool.or_eq_true, beq_iff_eq] at hbarrier
  rcases hbarrier with rfl | rfl
  · cases h 60 (List.mem_flatMap.2 ⟨'<', hc, by decide⟩)
  · cases h 95 (List.mem_flatMap.2 ⟨'_', hc, by decide⟩)

theorem isBarrier_of_mem_namesOf {c : Char} {e : String × String} (he : e ∈ namesOf c) :
    ∀ x ∈ e.1.toList, isBarrier x = false :=
  isBarrier_of_lacksBarrierBytes (List.all_eq_true.1 (all_lacksBarrierBytes c) e he)

theorem longer_cases {a b : Option (String × String)} {e : String × String} (h : longer a b = some e) :
    a = some e ∨ b = some e := by
  cases a with
  | none => exact .inr h
  | some x =>
    cases b with
    | none => exact .inl h
    | some y =>
      simp only [longer] at h
      split at h
      · exact .inr h
      · exact .inl h

/-- The longest name is one of the names, and the text starts with it. -/
theorem longestName_spec {names : List (String × String)} {text : List Char} {e : String × String}
    (h : longestName names text = some e) : e ∈ names ∧ e.1.toList <+: text := by
  have hfold : ∀ found, names.foldl (fun found e =>
        longer found (if e.1.toList.isPrefixOf text then some e else none)) found = some e →
      found = some e ∨ e ∈ names ∧ e.1.toList <+: text := by
    clear h
    induction names with
    | nil => exact fun found h => .inl h
    | cons first names ih =>
      intro found h
      rcases ih _ h with hlonger | ⟨hmem, hstart⟩
      · refine (longer_cases hlonger).imp_right fun hfirst => ?_
        split at hfirst
        · rename_i hstart
          cases hfirst
          exact ⟨List.mem_cons_self, List.isPrefixOf_iff_prefix.1 hstart⟩
        · cases hfirst
      · exact .inr ⟨List.mem_cons_of_mem _ hmem, hstart⟩
  exact (hfold none h).resolve_left (by rintro ⟨⟩)

/-- A word without barriers starts a text if it does so in front of a barrier. -/
theorem isPrefixOf_append {word text rest : List Char} {x : Char} (hx : isBarrier x = true)
    (hword : ∀ c ∈ word, isBarrier c = false) :
    word.isPrefixOf (text ++ x :: rest) = word.isPrefixOf text := by
  induction word generalizing text with
  | nil => rfl
  | cons w word ih =>
    have hw : (w == x) = false := by
      rw [beq_eq_false_iff_ne]
      rintro rfl
      cases (hword w List.mem_cons_self).symm.trans hx
    cases text with
    | nil =>
      change (w == x && word.isPrefixOf rest) = false
      rw [hw, Bool.false_and]
    | cons c text =>
      change (w == c && word.isPrefixOf (text ++ x :: rest)) = (w == c && word.isPrefixOf text)
      rw [ih fun c hc => hword c (List.mem_cons_of_mem _ hc)]

theorem longestName_append {names : List (String × String)} {text rest : List Char} {x : Char}
    (hx : isBarrier x = true) (hnames : ∀ e ∈ names, ∀ c ∈ e.1.toList, isBarrier c = false) :
    longestName names (text ++ x :: rest) = longestName names text := by
  have hfold : ∀ found : Option (String × String),
      names.foldl (fun found e =>
        longer found (if e.1.toList.isPrefixOf (text ++ x :: rest) then some e else none)) found =
      names.foldl (fun found e =>
        longer found (if e.1.toList.isPrefixOf text then some e else none)) found := by
    induction names with
    | nil => exact fun _ => rfl
    | cons e names ih =>
      intro found
      rw [List.foldl_cons, List.foldl_cons, isPrefixOf_append hx (hnames e List.mem_cons_self),
        ih fun e he => hnames e (List.mem_cons_of_mem _ he)]
  exact hfold none

/-! ## References -/

theorem readNamed_append {x : Char} (hx : isBarrier x = true) (text rest : List Char) :
    readNamed false (text ++ x :: rest) =
      (readNamed false text).map fun read => (read.1, read.2 ++ x :: rest) := by
  have hhead : namesOf ((text ++ x :: rest).headD ' ') = namesOf (text.headD ' ') := by
    cases text with
    | nil =>
      simp only [isBarrier, Bool.or_eq_true, beq_iff_eq] at hx
      rcases hx with rfl | rfl <;> rfl
    | cons => rfl
  unfold readNamed
  rw [hhead, longestName_append hx fun e he => isBarrier_of_mem_namesOf he]
  cases hname : longestName (namesOf (text.headD ' ')) text with
  | none => rfl
  | some e =>
    have hlen : e.1.length ≤ text.length := (longestName_spec hname).2.length_le
    simp only [Bool.false_and, Bool.false_eq_true, if_false, Option.map_some,
      List.drop_append_of_le_length hlen]

theorem takeWhile_append_stop {p : Char → Bool} {x : Char} (hx : p x = false) (text rest : List Char) :
    (text ++ x :: rest).takeWhile p = text.takeWhile p := by
  induction text with
  | nil => exact List.takeWhile_cons_of_neg (Bool.eq_false_iff.1 hx)
  | cons c text ih => rw [List.cons_append, List.takeWhile_cons, List.takeWhile_cons, ih]

theorem dropWhile_append_stop {p : Char → Bool} {x : Char} (hx : p x = false) (text rest : List Char) :
    (text ++ x :: rest).dropWhile p = text.dropWhile p ++ x :: rest := by
  induction text with
  | nil => exact List.dropWhile_cons_of_neg (Bool.eq_false_iff.1 hx)
  | cons c text ih =>
    rw [List.cons_append, List.dropWhile_cons, List.dropWhile_cons, ih]
    split <;> rfl

theorem skipSemicolon_append {x : Char} (hx : x ≠ ';') (text rest : List Char) :
    skipSemicolon (text ++ x :: rest) = skipSemicolon text ++ x :: rest := by
  cases text with
  | nil => exact skipSemicolon.eq_2 _ fun _ h => hx (List.cons.inj h).1
  | cons c text =>
    by_cases hc : c = ';'
    · rw [hc]
      rfl
    · rw [List.cons_append, skipSemicolon.eq_2 _ fun _ h => hc (List.cons.inj h).1,
        skipSemicolon.eq_2 _ fun _ h => hc (List.cons.inj h).1, List.cons_append]

theorem readDigits_append {isDigit : Char → Bool} {value : List Char → Nat} {x : Char}
    (hdigit : isDigit x = false) (hsemicolon : x ≠ ';') (text rest : List Char) :
    readDigits isDigit value (text ++ x :: rest) =
      (readDigits isDigit value text).map fun read => (read.1, read.2 ++ x :: rest) := by
  simp only [readDigits, takeWhile_append_stop hdigit, dropWhile_append_stop hdigit,
    skipSemicolon_append hsemicolon]
  split <;> rfl

theorem readNumbered_append {x : Char} (hx : isBarrier x = true) (text rest : List Char) :
    readNumbered (text ++ x :: rest) =
      (readNumbered text).map fun read => (read.1, read.2 ++ x :: rest) := by
  have hplain : isHexDigit x = false ∧ isAsciiDigit x = false ∧ x ≠ ';' ∧ x ≠ 'x' ∧ x ≠ 'X' := by
    simp only [isBarrier, Bool.or_eq_true, beq_iff_eq] at hx
    rcases hx with rfl | rfl <;> decide
  obtain ⟨hhex, hdigit, hsemicolon, hlower, hupper⟩ := hplain
  cases text with
  | nil =>
    rw [List.nil_append, readNumbered.eq_3 _ (fun _ h => hlower (List.cons.inj h).1)
      fun _ h => hupper (List.cons.inj h).1]
    exact readDigits_append hdigit hsemicolon [] rest
  | cons c text =>
    by_cases hc : c = 'x'
    · subst hc
      exact readDigits_append hhex hsemicolon text rest
    by_cases hc' : c = 'X'
    · subst hc'
      exact readDigits_append hhex hsemicolon text rest
    · rw [readNumbered.eq_3 (c :: text) (fun _ h => hc (List.cons.inj h).1)
        fun _ h => hc' (List.cons.inj h).1, List.cons_append,
        readNumbered.eq_3 _ (fun _ h => hc (List.cons.inj h).1) fun _ h => hc' (List.cons.inj h).1]
      exact readDigits_append hdigit hsemicolon (c :: text) rest

/-- A reference does not reach over a barrier, and does not depend on what is behind it. -/
theorem readReference_append {x : Char} (hx : isBarrier x = true) (text rest : List Char) :
    readReference false (text ++ x :: rest) =
      (readReference false text).map fun read => (read.1, read.2 ++ x :: rest) := by
  cases text with
  | nil =>
    rw [List.nil_append, readReference.eq_2 _ _ fun _ h => ?_]
    · exact readNamed_append hx [] rest
    · obtain ⟨rfl, -⟩ := List.cons.inj h
      cases hx
  | cons c text =>
    by_cases hc : c = '#'
    · subst hc
      exact readNumbered_append hx text rest
    · rw [List.cons_append, readReference.eq_2 _ _ fun _ h => hc (List.cons.inj h).1,
        readReference.eq_2 _ _ fun _ h => hc (List.cons.inj h).1]
      exact readNamed_append hx (c :: text) rest

theorem readDigits_suffix {isDigit : Char → Bool} {value : List Char → Nat} {text chars after : List Char}
    (h : readDigits isDigit value text = some (chars, after)) : after <:+ text := by
  have hskip : ∀ text : List Char, skipSemicolon text <:+ text := by
    intro text
    fun_cases skipSemicolon text
    · exact List.suffix_cons ..
    · exact List.suffix_rfl
  simp only [readDigits] at h
  split at h
  · cases h
  · cases h
    exact (hskip _).trans (List.dropWhile_suffix _)

/-- What is left behind a reference is an end of the text. -/
theorem readReference_suffix {inAttribute : Bool} {text chars after : List Char}
    (h : readReference inAttribute text = some (chars, after)) : after <:+ text := by
  unfold readReference at h
  split at h
  · refine List.IsSuffix.trans ?_ (List.suffix_cons ..)
    unfold readNumbered at h
    split at h
    · exact (readDigits_suffix h).trans (List.suffix_cons ..)
    · exact (readDigits_suffix h).trans (List.suffix_cons ..)
    · exact readDigits_suffix h
  · simp only [readNamed] at h
    split at h
    · cases h
    · split at h
      · cases h
      · cases h
        exact List.drop_suffix ..

/-! ## Decoded texts -/

/-- A text with its references decoded. -/
def decoded : List Char → List Char
  | [] => []
  | c :: rest =>
    if c == '&' then
      match _h : readReference false rest with
      | some (chars, after) => chars ++ decoded after
      | none => c :: decoded rest
    else c :: decoded rest
termination_by text => text.length
decreasing_by
  · exact Nat.lt_succ_of_le (readReference_suffix _h).length_le
  · exact Nat.lt_succ_self _
  · exact Nat.lt_succ_self _

theorem decoded_reference {rest chars after : List Char}
    (h : readReference false rest = some (chars, after)) :
    decoded ('&' :: rest) = chars ++ decoded after := by
  rw [decoded, if_pos (beq_self_eq_true _)]
  split
  · rename_i h'
    cases h.symm.trans h'
    rfl
  · rename_i h'
    cases h.symm.trans h'

theorem decoded_ampersand {rest : List Char} (h : readReference false rest = none) :
    decoded ('&' :: rest) = '&' :: decoded rest := by
  rw [decoded, if_pos (beq_self_eq_true _)]
  split
  · rename_i h'
    cases h.symm.trans h'
  · rfl

theorem decoded_char {c : Char} (hc : c ≠ '&') (rest : List Char) :
    decoded (c :: rest) = c :: decoded rest := by
  rw [decoded, if_neg (by simpa using hc)]

/-- A text in front of a barrier is decoded by itself. -/
theorem decoded_append {text rest : List Char} {x : Char} (hx : isBarrier x = true) :
    decoded (text ++ x :: rest) = decoded text ++ decoded (x :: rest) := by
  fun_induction decoded text with
  | case1 => rfl
  | case2 c text hc chars after h ih =>
    obtain rfl := eq_of_beq hc
    have hread := readReference_append hx text rest
    rw [h, Option.map_some] at hread
    rw [List.cons_append, decoded_reference hread, ih, List.append_assoc]
  | case3 c text hc h ih =>
    obtain rfl := eq_of_beq hc
    have hread := readReference_append hx text rest
    rw [h, Option.map_none] at hread
    rw [List.cons_append, decoded_ampersand hread, ih, List.cons_append]
  | case4 c text hc ih =>
    rw [List.cons_append, decoded_char (by simpa using hc), ih, List.cons_append]

/-- Without an ampersand, a text stands for itself. -/
theorem decoded_plain {text : List Char} (h : ∀ c ∈ text, c ≠ '&') : decoded text = text := by
  induction text with
  | nil => rw [decoded]
  | cons c text ih =>
    rw [decoded_char (h c List.mem_cons_self), ih fun c hc => h c (List.mem_cons_of_mem _ hc)]

end CustomElement.Markup
