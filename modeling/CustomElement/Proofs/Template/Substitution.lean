import CustomElement.Template.Parse
import CustomElement.Proofs.Number.Positional

/-!
# Bindings survive substitution

Bindings are replaced by placeholders, and placeholders are found again in the text that results.
Nothing is lost on the way: in a template that does not use the reserved word, exactly the
placeholders that were put there are found, in order.

* `readPlaceholder_placeholder`: a placeholder is read as its number, whatever follows it;
* `readPlaceholder_char`: no placeholder is read at a character of the template. A run of characters
  of the template may end in a part of the reserved word that the next placeholder completes, but only
  its first fourteen characters, and then an underscore stands where the digits should be;
* `fragments_withPlaceholders`: what is found in a text with placeholders, piece by piece.
-/

namespace CustomElement.Template

open CustomElement.Text CustomElement.Tree

/-- The binding that a fragment is. -/
def Fragment.binding? : Fragment → Option Expr
  | .text _ => none
  | .binding e => some e

/-- The text of fragments, with the sources of bindings put back in braces in order. -/
def rebraced : List Fragment → List (List Char) → List Char
  | [], _ => []
  | .text text :: rest, sources => text ++ rebraced rest sources
  | .binding _ :: rest, source :: sources => (Segment.binding source).written ++ rebraced rest sources
  | .binding _ :: rest, [] => rebraced rest []

/-! ## Placeholders are found -/

theorem isDecimalDigit_of_isAsciiDigit {c : Char} (h : isAsciiDigit c = true) :
    isDecimalDigit c = true := by
  have hlt : c.toNat < 0x80 := by
    have hle : c ≤ '9' := of_decide_eq_true (Bool.and_eq_true .. ▸ h).2
    exact Nat.lt_of_le_of_lt (Char.le_def.1 hle) (by decide)
  rw [isDecimalDigit, if_pos hlt, h]

/-- A placeholder is read as its number. -/
theorem readPlaceholder_placeholder (index : Nat) (rest : List Char) :
    readPlaceholder (placeholder index ++ rest) = some (Nat.toDigits 10 index, rest) := by
  have hdigits : ∀ c ∈ Nat.toDigits 10 index, isDecimalDigit c = true := fun c hc =>
    isDecimalDigit_of_isAsciiDigit (Double.isAsciiDigit_of_mem_toDigits hc)
  have hstart : placeholderStart.length = placeholderStart.toList.length := by decide
  have hstop : (placeholderEnd.toList ++ rest).takeWhile isDecimalDigit = [] :=
    List.takeWhile_cons_of_neg (l := '_' :: rest) (by decide)
  have hread : (Nat.toDigits 10 index ++ (placeholderEnd.toList ++ rest)).takeWhile isDecimalDigit =
      Nat.toDigits 10 index := by
    rw [List.takeWhile_append_of_pos hdigits, hstop, List.append_nil]
  simp only [readPlaceholder, placeholder, List.append_assoc]
  rw [if_pos (List.isPrefixOf_iff_prefix.2 (List.prefix_append ..)), hstart, List.drop_left, hread,
    List.drop_left, if_pos]
  · rw [show placeholderEnd.length = placeholderEnd.toList.length from rfl, List.drop_left]
  · rw [Bool.and_eq_true, List.isPrefixOf_iff_prefix]
    exact ⟨by simp, List.prefix_append ..⟩

/-- The number of a placeholder names its binding. -/
theorem bindingOf_toDigits (bindings : List Expr) (index : Nat) :
    bindingOf? bindings (Nat.toDigits 10 index) = bindings[index]? := by
  have hdigits : (Nat.toDigits 10 index).all isAsciiDigit = true :=
    List.all_eq_true.2 fun _ hc => Double.isAsciiDigit_of_mem_toDigits hc
  rw [bindingOf?, if_pos hdigits, Double.decimalNumber_toDigits]

theorem fragments_placeholder {bindings : List Expr} {index : Nat} {e : Expr}
    (he : bindings[index]? = some e) (rest : List Char) :
    fragments bindings (placeholder index ++ rest) = .binding e :: fragments bindings rest := by
  have hcons : placeholder index ++ rest =
      '_' :: (placeholder index ++ rest).tail := rfl
  rw [hcons, fragments.eq_2, ← hcons]
  split
  · rename_i digits after hread
    rw [readPlaceholder_placeholder] at hread
    obtain ⟨rfl, rfl⟩ : Nat.toDigits 10 index = digits ∧ rest = after := by simpa using hread
    rw [bindingOf_toDigits, he]
  · rename_i hread
    simp [readPlaceholder_placeholder] at hread

theorem fragments_char {bindings : List Expr} {c : Char} {rest : List Char}
    (h : readPlaceholder (c :: rest) = none) :
    fragments bindings (c :: rest) = pushChar c (fragments bindings rest) := by
  rw [fragments.eq_2]
  split
  · rename_i hread
    simp [h] at hread
  · rfl

/-! ## Nothing else is found -/

theorem holds_of_starts {word text : List Char} (h : word <+: text) : holds word text = true := by
  cases text with
  | nil => simpa [holds] using h
  | cons c rest => rw [holds, List.isPrefixOf_iff_prefix.2 h, Bool.true_or]

/-- A text that does not hold a word does not hold it after some of its characters. -/
theorem holds_append {word before text : List Char} (h : holds word (before ++ text) = false) :
    holds word text = false := by
  induction before with
  | nil => exact h
  | cons c before ih =>
    rw [List.cons_append, holds, Bool.or_eq_false_iff] at h
    exact ih h.2

/-- A word at the start of a text with placeholders stands at the start of the template, or reaches
into the first placeholder. -/
theorem prefix_withPlaceholders {word : List Char} {pieces : List Segment} {index : Nat}
    (h : word <+: withPlaceholders index pieces) :
    word <+: unbraced pieces ∨ ∃ (run source : List Char) (rest : List Segment),
      pieces = run.map .char ++ .binding source :: rest ∧ run.length < word.length := by
  induction pieces generalizing word with
  | nil => exact .inl h
  | cons piece rest ih =>
    cases word with
    | nil => exact .inl List.nil_prefix
    | cons w word =>
      cases piece with
      | binding source => exact .inr ⟨[], source, rest, rfl, by simp⟩
      | char c =>
        obtain ⟨rfl, htail⟩ := List.cons_prefix_cons.1 h
        rcases ih htail with hword | ⟨run, source, more, rfl, hlen⟩
        · exact .inl (List.cons_prefix_cons.2 ⟨rfl, hword⟩)
        · exact .inr ⟨w :: run, source, more, rfl, by simpa using hlen⟩

theorem withPlaceholders_run (index : Nat) (run source : List Char) (rest : List Segment) :
    withPlaceholders index (run.map .char ++ .binding source :: rest) =
      run ++ (placeholder index ++ withPlaceholders (index + 1) rest) := by
  induction run with
  | nil => rfl
  | cons c run ih => exact congrArg (c :: ·) ih

/-- The only proper end of the reserved word that it also starts with is its last underscore. -/
theorem border_placeholderStart : ∀ n < 15, 0 < n →
    placeholderStart.toList.drop n <+: placeholderStart.toList → n = 14 := by
  decide

/-- An underscore stands where the digits should be if a placeholder is read one character early. -/
theorem readPlaceholder_early {before : List Char} (hlen : before.length = 14) (index : Nat)
    (rest : List Char) : readPlaceholder (before ++ (placeholder index ++ rest)) = none := by
  have hdrop : (before ++ (placeholder index ++ rest)).drop placeholderStart.length =
      '_' :: (placeholder index ++ rest).drop 2 := by
    rw [List.drop_append, hlen, List.drop_eq_nil_of_le (by rw [hlen]; decide)]
    rfl
  have hdigits : ('_' :: (placeholder index ++ rest).drop 2).takeWhile isDecimalDigit = [] :=
    List.takeWhile_cons_of_neg (by decide)
  simp only [readPlaceholder, hdrop, hdigits, List.isEmpty_nil, Bool.not_true, Bool.false_and]
  split <;> rfl

/-- No placeholder is read at a character of a template without the reserved word. -/
theorem readPlaceholder_char {c : Char} {pieces : List Segment} {index : Nat}
    (h : holds placeholderStart.toList (unbraced (.char c :: pieces)) = false) :
    readPlaceholder (c :: withPlaceholders index pieces) = none := by
  by_cases hstart : placeholderStart.toList.isPrefixOf (c :: withPlaceholders index pieces)
  · have hstart : placeholderStart.toList <+: withPlaceholders index (.char c :: pieces) :=
      List.isPrefixOf_iff_prefix.1 hstart
    rcases prefix_withPlaceholders hstart with hword | ⟨run, source, rest, hpieces, hlen⟩
    · simp [holds_of_starts hword] at h
    · have htext : c :: withPlaceholders index pieces =
          run ++ (placeholder index ++ withPlaceholders (index + 1) rest) := by
        rw [← withPlaceholders_run index run source rest, ← hpieces]
        rfl
      -- the reserved word is the run and then a start of the placeholder, so of itself
      change _ <+: c :: withPlaceholders index pieces at hstart
      rw [htext] at hstart ⊢
      obtain ⟨last, hlast⟩ : run <+: placeholderStart.toList :=
        List.prefix_of_prefix_length_le (List.prefix_append ..) hstart (Nat.le_of_lt hlen)
      have hborder : last <+: placeholderStart.toList := by
        refine List.prefix_of_prefix_length_le
          ((List.prefix_append_right_inj run).1 (hlast ▸ hstart))
          (by rw [placeholder, List.append_assoc, List.append_assoc]; exact List.prefix_append ..) ?_
        rw [← hlast, List.length_append]
        exact Nat.le_add_left ..
      have hrun : 0 < run.length := by
        cases run with
        | nil => simp at hpieces
        | cons => simp
      refine readPlaceholder_early (border_placeholderStart run.length hlen hrun ?_) index _
      rwa [← hlast, List.drop_left, hlast]
  · rw [readPlaceholder, if_neg hstart]

/-! ## What is found, piece by piece -/

theorem filterMap_pushChar (c : Char) (fs : List Fragment) :
    (pushChar c fs).filterMap Fragment.binding? = fs.filterMap Fragment.binding? := by
  fun_cases pushChar c fs <;> rfl

theorem rebraced_pushChar (c : Char) (fs : List Fragment) (sources : List (List Char)) :
    rebraced (pushChar c fs) sources = c :: rebraced fs sources := by
  fun_cases pushChar c fs <;> rfl

/-- The fragments of a text whose placeholders are numbered from `index` on: their bindings are the
ones from `index` on, and putting the sources back gives the template. -/
theorem fragments_withPlaceholders {bindings : List Expr} {index : Nat} {pieces : List Segment}
    (hfree : holds placeholderStart.toList (unbraced pieces) = false)
    (hlen : bindings.length = index + (sources pieces).length) :
    (fragments bindings (withPlaceholders index pieces)).filterMap Fragment.binding? =
        bindings.drop index ∧
      rebraced (fragments bindings (withPlaceholders index pieces)) (sources pieces) =
        unbraced pieces := by
  induction pieces generalizing index with
  | nil =>
    have : bindings.drop index = [] := List.drop_eq_nil_of_le (by simpa [sources] using hlen.le)
    rw [withPlaceholders, fragments, this]
    exact ⟨rfl, rfl⟩
  | cons piece rest ih =>
    have hrest : holds placeholderStart.toList (unbraced rest) = false := by
      rw [unbraced, List.flatMap_cons] at hfree
      exact holds_append hfree
    cases piece with
    | char c =>
      obtain ⟨hbindings, htext⟩ := ih hrest hlen
      rw [withPlaceholders, fragments_char (readPlaceholder_char hfree), filterMap_pushChar,
        rebraced_pushChar]
      exact ⟨hbindings, congrArg (c :: ·) htext⟩
    | binding source =>
      have hlen : bindings.length = index + 1 + (sources rest).length := by
        rw [hlen, sources, List.filterMap_cons, List.length_cons, ← sources]
        omega
      have hindex : index < bindings.length := by omega
      obtain ⟨hbindings, htext⟩ := ih hrest hlen
      rw [withPlaceholders, fragments_placeholder (List.getElem?_eq_getElem hindex),
        List.drop_eq_getElem_cons hindex]
      exact ⟨congrArg (bindings[index] :: ·) hbindings,
        congrArg ((Segment.binding source).written ++ ·) htext⟩

/-- Substitution is lossless: in a template without the reserved word, with an expression for each
source, the fragments hold the expressions exactly once and in order, and putting the sources back
in braces gives the template. -/
theorem substitution_lossless {text : List Char} {bindings : List Expr}
    (hfree : holds placeholderStart.toList text = false)
    (hlen : bindings.length = (sources (segments text)).length) :
    (fragments bindings (withPlaceholders 0 (segments text))).filterMap Fragment.binding? =
        bindings ∧
      rebraced (fragments bindings (withPlaceholders 0 (segments text))) (sources (segments text)) =
        text := by
  rw [← unbraced_segments text] at hfree
  have hpieces := fragments_withPlaceholders hfree (hlen.trans (Nat.zero_add _).symm)
  rwa [List.drop_zero, unbraced_segments] at hpieces

/-- A template with parts of the reserved word, digits and underscores next to its bindings, a comment
and a brace that nothing closes. -/
def crowdedTemplate : List Char :=
  "__LAZY_BINDING\x7ba\x7d_\x7bb\x7d0__<!--\x7bc\x7d-->_\x7bd\x7d\x7b".toList

def crowdedBindings : List Expr :=
  [.identifier "a", .thisRef, .identifier "d"]

theorem crowdedTemplate_sources :
    sources (segments crowdedTemplate) = [['a'], ['b'], ['d']] := by
  decide +kernel

theorem crowdedTemplate_lossless :
    holds placeholderStart.toList crowdedTemplate = false ∧
      (fragments crowdedBindings (withPlaceholders 0 (segments crowdedTemplate))).filterMap
          Fragment.binding? = crowdedBindings ∧
      rebraced (fragments crowdedBindings (withPlaceholders 0 (segments crowdedTemplate)))
          (sources (segments crowdedTemplate)) = crowdedTemplate := by
  have hfree : holds placeholderStart.toList crowdedTemplate = false := by decide
  exact ⟨hfree, substitution_lossless hfree (by rw [crowdedTemplate_sources]; rfl)⟩

end CustomElement.Template
