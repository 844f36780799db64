import CustomElement.Proofs.Emit.Printable
import CustomElement.Proofs.Script.NumberText
import CustomElement.Proofs.Script.TemplateText
import CustomElement.Proofs.Text.IdentifierName
import CustomElement.Script.Cursor

/-!
# The vocabulary of scripts

The names and literals that a script can spell: names are identifiers, numbers have no sign, a regular
expression and the pieces of a template are read again from their own text. `Lexicon.script` decides
this, and `Token.Genuine.sound` says that the token under a cursor never carries anything else.
-/

namespace CustomElement

open CustomElement.Text

namespace Double

theorem negative_ofCode (negative : Bool) (code : Nat) : (ofCode negative code).negative = negative := by
  simp only [ofCode, apply_ite Double.negative, ite_self]

theorem negative_ofRatio (negative : Bool) (num den : Nat) :
    (ofRatio negative num den).negative = negative := by
  by_cases h : num = 0 ∨ den = 0
  · rw [ofRatio, if_pos h]
    exact negative_ofCode negative 0
  · rw [not_or] at h
    rw [ofRatio_eq_ofCode (Nat.pos_of_ne_zero h.1) (Nat.pos_of_ne_zero h.2), negative_ofCode]

theorem negative_ofDecimal (digits : Nat) (exponent : Int) : (ofDecimal digits exponent).negative = false := by
  cases exponent <;>
    simp only [ofDecimal, apply_ite Double.negative, zero, infinity, negative_ofCode, negative_ofRatio, ite_self]

end Double

namespace Script

/-! ## Words -/

/-- A name, spelled in reverse so far, with one more character. -/
theorem isIdentifierName_snoc {acc : List Char} {c : Char}
    (hacc : acc ≠ [] → isIdentifierName acc.reverse = true)
    (hc : (if acc.isEmpty then isIdentifierStart c else isIdentifierPart c) = true) :
    isIdentifierName (c :: acc).reverse = true := by
  cases acc with
  | nil => simpa [isIdentifierName] using hc
  | cons a acc =>
    have hname := hacc (List.cons_ne_nil _ _)
    obtain ⟨first, others, hcons, -⟩ := head_of_identifierName hname
    rw [List.reverse_cons, hcons]
    rw [hcons] at hname
    simp only [isIdentifierName, Bool.and_eq_true, List.all_append, List.cons_append] at hname ⊢
    exact ⟨hname.1, hname.2, by simpa using hc⟩

/-- The characters so far are a name, or there are none and an escape is next. -/
theorem escapedWord_name {fuel : Nat} {acc text : List Char} {w : WordText}
    (h : escapedWord fuel acc text = some w) (hacc : acc ≠ [] → isIdentifierName acc.reverse = true)
    (hstart : acc = [] → text.head? = some '\\') : isIdentifierName w.name = true := by
  fun_induction escapedWord fuel acc text with
  | case2 fuel acc after code rest hcode c fits hfits ih =>
    rw [Bool.and_eq_true] at hfits
    exact ih h (fun _ => isIdentifierName_snoc hacc hfits.2) (fun hnil => nomatch hnil)
  | case6 fuel acc c rest hslash hescape hpart ih =>
    have hne : acc ≠ [] := by
      intro hnil
      obtain rfl : c = '\\' := by simpa using hstart hnil
      exact absurd rfl hescape
    refine ih h (fun _ => isIdentifierName_snoc hacc ?_) (fun hnil => nomatch hnil)
    rw [if_neg (by simpa using hne), hpart]
  | case7 fuel acc c rest hslash hescape hpart =>
    cases h
    refine hacc fun hnil => ?_
    obtain rfl : c = '\\' := by simpa using hstart hnil
    exact absurd rfl hescape
  | case8 fuel acc =>
    cases h
    exact hacc fun hnil => nomatch hstart hnil
  | _ => cases h

theorem readWord_name {text : List Char} {w : WordText} (h : readWord text = some w) :
    isIdentifierName w.name = true := by
  cases text with
  | nil => cases h
  | cons c text =>
    rw [readWord] at h
    split at h
    · rename_i hc
      have hplain : isIdentifierName ((c :: text).takeWhile isIdentifierPart) = true := by
        rw [List.takeWhile_cons_of_pos (isIdentifierPart_of_start hc), isIdentifierName, hc, Bool.true_and]
        exact List.all_takeWhile
      dsimp only at h
      split at h
      · exact escapedWord_name h (fun _ => by rwa [List.reverse_reverse]) fun _ => rfl
      · cases h
        exact hplain
    · split at h
      · rename_i hslash
        refine escapedWord_name h (fun hne => absurd rfl hne) fun _ => ?_
        rw [beq_iff_eq.1 hslash]
        rfl
      · cases h

/-! ## Tokens -/

/-- What a token carries is what its text can spell. -/
def Token.Sound : Token → Prop
  | .word name _ => isIdentifierName name.toList = true
  | .privateName name => isIdentifierName name.toList = true
  | .number x => x.negative = false
  | .bigint digits => digits = toString (decimalNumber digits.toList)
  | .template raw cooked tail => IsPiece raw cooked tail
  | _ => True

theorem checked_sound {token t : Token} {text rest : List Char} (h : checked token text = some (t, rest))
    (htoken : token.Sound) : t.Sound := by
  cases text with
  | nil =>
    cases h
    exact htoken
  | cons c text =>
    rw [checked] at h
    split at h
    · cases h
    · cases h
      exact htoken

theorem negative_radixValue (base limit : Nat) (digits : List Char) :
    (radixValue base limit digits).negative = false := by
  unfold radixValue
  split
  · exact Double.negative_ofRatio false _ _
  · have hfold : ∀ (digits : List Char) (x : Double), x.negative = false →
        (digits.foldl (fun x c =>
          if x.isFinite then
            Double.ofRatio false (x.ratio.1 * base + hexValue c * x.ratio.2) x.ratio.2
          else x) x).negative = false := by
      intro digits
      induction digits with
      | nil => exact fun _ hx => hx
      | cons c digits ih =>
        intro x hx
        refine ih _ ?_
        simp only [apply_ite Double.negative, Double.negative_ofRatio, hx, ite_self]
    exact hfold digits (.zero false) (Double.negative_ofCode false 0)

theorem decimalToken_sound (whole fraction : List Char) (exponent : Int) :
    (decimalToken whole fraction exponent).Sound :=
  Double.negative_ofDecimal _ _

theorem bigint_sound (n : Nat) : (Token.bigint (toString n)).Sound := by
  change toString n = toString (decimalNumber (toString n).toList)
  rw [toList_toString, Double.decimalNumber_toDigits]

theorem afterPoint_sound {whole text rest : List Char} {t : Token}
    (h : afterPoint whole text = some (t, rest)) : t.Sound := by
  simp only [afterPoint] at h
  split at h
  · obtain ⟨fraction, -, h⟩ := Option.bind_eq_some_iff.1 h
    obtain ⟨exponent, -, h⟩ := Option.bind_eq_some_iff.1 h
    exact checked_sound h (decimalToken_sound _ _ _)
  · obtain ⟨fraction, -, h⟩ := Option.bind_eq_some_iff.1 h
    obtain ⟨exponent, -, h⟩ := Option.bind_eq_some_iff.1 h
    exact checked_sound h (decimalToken_sound _ _ _)

theorem decimalLiteral_sound {first : Char} {text rest : List Char} {t : Token}
    (h : decimalLiteral first text = some (t, rest)) : t.Sound := by
  unfold decimalLiteral at h
  obtain ⟨digits, -, h⟩ := Option.bind_eq_some_iff.1 h
  dsimp only at h
  split at h
  · exact afterPoint_sound h
  · exact checked_sound h (bigint_sound _)
  · obtain ⟨exponent, -, h⟩ := Option.bind_eq_some_iff.1 h
    exact checked_sound h (decimalToken_sound _ _ _)

theorem radixNumber_sound {base limit : Nat} {isDigit : Char → Bool} {text rest : List Char} {t : Token}
    (h : radixNumber base limit isDigit text = some (t, rest)) : t.Sound := by
  unfold radixNumber at h
  obtain ⟨digits, -, h⟩ := Option.bind_eq_some_iff.1 h
  dsimp only at h
  split at h
  · exact checked_sound h (bigint_sound _)
  · exact checked_sound h (negative_radixValue _ _ _)

theorem leadingZero_sound {text rest : List Char} {t : Token} (h : leadingZero text = some (t, rest)) :
    t.Sound := by
  unfold leadingZero at h
  dsimp only at h
  split at h
  · exact checked_sound h (negative_radixValue _ _ _)
  · split at h
    · exact afterPoint_sound h
    · obtain ⟨exponent, -, h⟩ := Option.bind_eq_some_iff.1 h
      cases h
      exact decimalToken_sound _ _ _
    · exact checked_sound h (decimalToken_sound _ _ _)

theorem zeroLiteral_sound {text rest : List Char} {t : Token} (h : zeroLiteral text = some (t, rest)) :
    t.Sound := by
  have hzero : (Token.number (.zero false)).Sound := Double.negative_ofCode false 0
  cases text with
  | nil =>
    cases h
    exact hzero
  | cons c text =>
    simp only [zeroLiteral] at h
    split at h
    · exact radixNumber_sound h
    split at h
    · exact radixNumber_sound h
    split at h
    · exact radixNumber_sound h
    split at h
    · obtain ⟨exponent, -, h⟩ := Option.bind_eq_some_iff.1 h
      cases h
      exact decimalToken_sound _ _ _
    split at h
    · exact afterPoint_sound h
    split at h
    · exact checked_sound h (bigint_sound 0)
    split at h
    · exact leadingZero_sound h
    · exact checked_sound h hzero

theorem readNumber_sound {text rest : List Char} {t : Token} (h : readNumber text = some (t, rest)) :
    t.Sound := by
  unfold readNumber at h
  split at h
  · exact zeroLiteral_sound h
  · exact decimalLiteral_sound h
  · cases h

theorem pointNumber_sound {text rest : List Char} {t : Token} (h : pointNumber text = some (t, rest)) :
    t.Sound := by
  unfold pointNumber at h
  obtain ⟨digits, -, h⟩ := Option.bind_eq_some_iff.1 h
  obtain ⟨exponent, -, h⟩ := Option.bind_eq_some_iff.1 h
  exact checked_sound h (decimalToken_sound _ _ _)

theorem readTemplate_sound {text rest : List Char} {t : Token} (h : readTemplate text = some (t, rest)) :
    t.Sound := by
  obtain ⟨added, q, tail, rfl, -⟩ := templatePiece_again h
  exact ⟨text, rest, h⟩

theorem readToken_sound {text rest : List Char} {t : Token} (h : readToken text = some (t, rest)) :
    t.Sound := by
  cases text with
  | nil =>
    cases h
    trivial
  | cons c text =>
    simp only [readToken] at h
    split at h
    · obtain ⟨w, hw, heq⟩ := Option.map_eq_some_iff.1 h
      cases heq
      simpa only [Token.Sound, String.toList_ofList] using readWord_name hw
    split at h
    · exact readNumber_sound h
    split at h
    · obtain ⟨codes, -, h⟩ := Option.bind_eq_some_iff.1 h
      cases h
      trivial
    split at h
    · exact readTemplate_sound h
    split at h
    · obtain ⟨w, hw, heq⟩ := Option.map_eq_some_iff.1 h
      cases heq
      simpa only [Token.Sound, String.toList_ofList] using readWord_name hw
    split at h
    · exact pointNumber_sound h
    · unfold readPunct at h
      split at h
      · split at h <;> cases h <;> trivial
      · obtain ⟨symbol, -, heq⟩ := Option.map_eq_some_iff.1 h
        cases heq
        trivial

theorem Token.Genuine.sound {t : Token} (h : t.Genuine) : t.Sound := by
  cases h with
  | read h => exact readToken_sound h
  | punct symbol => trivial
  | invalid => trivial

/-! ## Regular expressions -/

/-- A pattern is read again in front of any text. -/
theorem regexPattern_append {inClass escaped : Bool} {text pattern after : List Char}
    (h : regexPattern inClass escaped text = some (pattern, after)) (after' : List Char) :
    regexPattern inClass escaped (pattern ++ '/' :: after') = some (pattern, after') := by
  induction text generalizing inClass escaped pattern after with
  | nil => cases h
  | cons c text ih =>
    simp only [regexPattern] at h
    split at h
    · cases h
    · rename_i hline
      split at h
      · rename_i hescaped
        obtain ⟨read, hread, heq⟩ := Option.map_eq_some_iff.1 h
        cases heq
        simp only [List.cons_append, regexPattern, hline, hescaped, ih hread, Bool.false_eq_true, if_false,
          if_true, Option.map_some]
      · rename_i hescaped
        split at h
        · rename_i hclose
          cases h
          rw [Bool.and_eq_true, beq_iff_eq] at hclose
          obtain ⟨rfl, hclass⟩ := hclose
          rw [Bool.not_eq_true] at hescaped
          rw [Bool.not_eq_true'] at hclass
          simp [regexPattern, hescaped, hclass, isLineEnd]
        · rename_i hclose
          obtain ⟨read, hread, heq⟩ := Option.map_eq_some_iff.1 h
          cases heq
          simp only [List.cons_append, regexPattern, hline, hescaped, hclose, ih hread, Bool.false_eq_true,
            if_false, Option.map_some]

/-- Whether a regular expression is what is read from its own text, and its text is no comment. -/
def isRegex (r : Tree.Regex) : Bool :=
  r.pattern.toList.head?.any (fun c => c != '/' && c != '*') &&
    (regexPattern false false (r.pattern.toList ++ ['/']) == some (r.pattern.toList, []) &&
      (areFlags r.flags.toList && regexFlags.filter r.flags.toList.contains == r.flags.toList))

theorem areFlags_filter {flags : List Char} (h : areFlags flags = true) :
    areFlags (regexFlags.filter flags.contains) = true := by
  have hnodup : ∀ f ∈ regexFlags, regexFlags.count f ≤ 1 := List.all_iff_forall_prop.1 (by decide)
  simp only [areFlags, Bool.and_eq_true, Bool.not_eq_true', List.all_eq_true, List.contains_iff_mem,
    decide_eq_true_eq, ← Bool.not_eq_true, List.mem_filter] at h ⊢
  refine ⟨⟨fun c hc => hc.1, fun f hf => ?_⟩, ?_⟩
  · exact (List.filter_sublist.count_le f).trans (hnodup f hf)
  · exact fun hboth => h.2 ⟨hboth.1.2, hboth.2.2⟩

theorem length_skipGap_le {place : GapPlace} {newline b : Bool} {text here : List Char}
    (h : skipGap place newline text = some (b, here)) : here.length ≤ text.length := by
  fun_induction skipGap place newline text with
  | case5 =>
    cases h
    exact Nat.le_refl _
  | case10 => cases h
  | case11 =>
    cases h
    exact Nat.le_refl _
  | _ =>
    rename_i ih
    have := ih h
    simp only [List.length_cons]
    omega

/-- A slash that no gap starts with does not start a comment. -/
theorem not_comment_of_clear {text : List Char}
    (h : skipGap .blank false ('/' :: text) = some (false, '/' :: text)) :
    ∀ c ∈ text.head?, c ≠ '/' ∧ c ≠ '*' := by
  cases text with
  | nil => rintro _ ⟨⟩
  | cons c text =>
    have hlonger : ¬('/' :: c :: text).length ≤ text.length := by
      simp only [List.length_cons]
      omega
    rintro _ ⟨⟩
    constructor <;> rintro rfl <;> exact hlonger (length_skipGap_le (show skipGap _ false text = _ from h))

/-- The pattern of a regular expression starts as its text does. -/
theorem head_regexPattern {text pattern after : List Char}
    (h : regexPattern false false text = some (pattern, after)) (hslash : text.head? ≠ some '/') :
    pattern.head? = text.head? ∧ pattern ≠ [] := by
  cases text with
  | nil => cases h
  | cons c text =>
    have hc : c ≠ '/' := fun hc => hslash (congrArg some hc)
    simp only [regexPattern, Bool.false_eq_true, if_false, beq_eq_false_iff_ne.2 hc, Bool.false_and] at h
    split at h
    · cases h
    · obtain ⟨read, -, heq⟩ := Option.map_eq_some_iff.1 h
      cases heq
      exact ⟨rfl, List.cons_ne_nil _ _⟩

theorem isRegex_readRegex {text rest : List Char} {pattern flags : String}
    (hclear : skipGap .blank false ('/' :: text) = some (false, '/' :: text))
    (h : readRegex text = some (pattern, flags, rest)) : isRegex ⟨pattern, flags⟩ = true := by
  obtain ⟨read, hread, h⟩ := Option.bind_eq_some_iff.1 h
  dsimp only at h
  split at h
  · rename_i hflags
    cases h
    have hopen := not_comment_of_clear hclear
    obtain ⟨hhead, hne⟩ := head_regexPattern hread fun hslash => (hopen '/' hslash).1 rfl
    have hstart : read.1.head?.any (fun c => c != '/' && c != '*') = true := by
      cases hpattern : read.1 with
      | nil => exact absurd hpattern hne
      | cons c pattern =>
        rw [hpattern] at hhead
        simpa using hopen c hhead.symm
    have hfilter : ∀ flags : List Char, regexFlags.filter (regexFlags.filter flags.contains).contains =
        regexFlags.filter flags.contains := by
      intro flags
      refine List.filter_congr fun f hf => ?_
      rw [Bool.eq_iff_iff, List.contains_iff_mem, List.mem_filter]
      exact and_iff_right hf
    simp only [isRegex, String.toList_ofList, hstart, regexPattern_append hread [], areFlags_filter hflags, hfilter,
      beq_self_eq_true, Bool.and_self]
  · cases h

/-- A regular expression is read again in front of text that does not continue its flags. -/
theorem readRegex_append {r : Tree.Regex} (h : isRegex r = true) {rest : List Char}
    (hrest : ∀ c ∈ rest.head?, isFlagChar c = false) :
    readRegex (r.pattern.toList ++ '/' :: (r.flags.toList ++ rest)) = some (r.pattern, r.flags, rest) := by
  simp only [isRegex, Bool.and_eq_true, beq_iff_eq] at h
  obtain ⟨-, hpattern, hflags, hfilter⟩ := h
  have hchars : ∀ c ∈ r.flags.toList, isFlagChar c = true := by
    have hall : ∀ c ∈ regexFlags, isFlagChar c = true := List.all_iff_forall_prop.1 (by decide)
    intro c hc
    rw [← hfilter] at hc
    exact hall c (List.mem_filter.1 hc).1
  have htake : (r.flags.toList ++ rest).takeWhile isFlagChar = r.flags.toList := by
    rw [List.takeWhile_append_of_pos hchars]
    cases rest with
    | nil => simp
    | cons c rest => simp [hrest c rfl]
  have hdrop : (r.flags.toList ++ rest).dropWhile isFlagChar = rest := by
    rw [List.dropWhile_append_of_pos hchars]
    cases rest with
    | nil => rfl
    | cons c rest => simp [hrest c rfl]
  simp only [readRegex, regexPattern_append hpattern, Option.bind_eq_bind, Option.bind_some, htake, hdrop, hflags,
    hfilter, if_true, String.ofList_toList]

end Script

/-! ## The lexicon of scripts -/

open Script

namespace Tree

/-- Whether a template element is what is read from its own text. -/
def TemplateElement.isPiece (q : TemplateElement) : Bool :=
  readTemplate (q.raw.toList ++ pieceEnd q.tail) == some (.template q.raw q.cooked q.tail, [])

/-- Whether the pieces of a template belong to so many expressions. Only the last one is a tail. -/
def areQuasis : List TemplateElement → Nat → Bool
  | [q], 0 => q.tail && q.isPiece
  | q :: quasis, count + 1 => !q.tail && (q.isPiece && areQuasis quasis count)
  | _, _ => false

theorem areQuasis_cons (q : TemplateElement) (quasis : List TemplateElement) (count : Nat) :
    areQuasis (q :: quasis) (count + 1) = (!q.tail && (q.isPiece && areQuasis quasis count)) := by
  cases quasis <;> rfl

/-- Whether a literal can be spelled. -/
def Literal.isSpelled (l : Literal) : Bool :=
  match l.regex, l.bigint, l.value with
  | some r, _, _ => isRegex r
  | none, some digits, _ => digits == toString (decimalNumber digits.toList)
  | none, none, .number x => !x.negative
  | none, none, _ => true

/-- What scripts can spell. -/
def Lexicon.script : Lexicon where
  name name := name.all fun w => isIdentifierName w.toList
  literal := Literal.isSpelled
  template := areQuasis
  sequence count := count != 0

theorem TemplateElement.isPiece_iff {q : TemplateElement} : q.isPiece = true ↔ IsPiece q.raw q.cooked q.tail := by
  rw [isPiece, beq_iff_eq]
  refine ⟨fun h => ⟨_, _, h⟩, fun h => ?_⟩
  have hread := readTemplate_raw h []
  rwa [List.append_nil] at hread

/-- A lexicon with everything that scripts can spell. -/
structure Lexicon.Covers (words : Lexicon) : Prop where
  name {name : Option String} (h : script.name name = true) : words.name name = true
  literal {l : Literal} (h : l.isSpelled = true) : words.literal l = true
  template {quasis : List TemplateElement} {count : Nat} (h : areQuasis quasis count = true) :
    words.template quasis count = true
  sequence {count : Nat} (h : count ≠ 0) : words.sequence count = true

theorem Lexicon.all_covers : Lexicon.all.Covers :=
  ⟨fun _ => rfl, fun _ => rfl, fun _ => rfl, fun _ => rfl⟩

namespace Lexicon.Covers

variable {words : Lexicon} (h : words.Covers) {c : Cursor}
include h

theorem noName : words.name none = true :=
  h.name rfl

theorem word {w : String} {escaped : Bool} (hc : c.token = .word w escaped) : words.name (some w) = true := by
  have hsound := c.genuine.sound
  rw [hc] at hsound
  exact h.name hsound

theorem privateName {w : String} (hc : c.token = .privateName w) : words.name (some w) = true := by
  have hsound := c.genuine.sound
  rw [hc] at hsound
  exact h.name hsound

theorem number {x : Double} (hc : c.token = .number x) : words.literal ⟨.number x, none, none⟩ = true := by
  have hsound := c.genuine.sound
  rw [hc] at hsound
  refine h.literal ?_
  change (!x.negative) = true
  rw [show x.negative = false from hsound]
  rfl

theorem bigint {digits : String} (hc : c.token = .bigint digits) :
    words.literal ⟨.null, none, some digits⟩ = true := by
  have hsound := c.genuine.sound
  rw [hc] at hsound
  exact h.literal (beq_iff_eq.2 hsound)

omit h in
theorem isPiece {raw : String} {cooked : Option String} {tail : Bool} (hc : c.token = .template raw cooked tail) :
    TemplateElement.isPiece ⟨tail, raw, cooked⟩ = true := by
  have hsound := c.genuine.sound
  rw [hc] at hsound
  exact TemplateElement.isPiece_iff.2 hsound

end Lexicon.Covers

end Tree

end CustomElement
