import CustomElement.Script.QuotedText
import Mathlib.Data.Bool.AllAny

/-!
# Pieces of templates read back

The raw text of a piece of a template is its text with every line end as a line feed. Put back in front
of the end of a piece, it is read as the same piece again (`readTemplate_raw`), whatever follows.

A piece is read escape by escape, and an escape looks ahead: a zero at whether a digit follows, a high
surrogate at whether its partner does. What it sees is the same in both texts, because they are
`Alike`: equal up to a first difference, at which both have a line end or the end of a piece, and no
escape looks beyond that.
-/

namespace CustomElement.Script

open CustomElement.Text

/-- What stands behind a piece of a template: a backquote, or the start of a substitution. -/
def pieceEnd (tail : Bool) : List Char :=
  if tail then ['`'] else ['$', '\x7b']

/-! ## Texts that start alike -/

/-- A character that no escape looks beyond. -/
def isBreak (c : Char) : Bool :=
  c == '\r' || c == '\n' || c == '`' || c == '$'

theorem eq_of_isBreak {c : Char} (h : isBreak c = true) : c = '\r' ∨ c = '\n' ∨ c = '`' ∨ c = '$' := by
  simpa [isBreak, or_assoc] using h

/-- Two texts are equal up to a first difference, at which both have a break. -/
inductive Alike : List Char → List Char → Prop
  | stop {c d : Char} {a b : List Char} (hc : isBreak c = true) (hd : isBreak d = true) :
      Alike (c :: a) (d :: b)
  | cons {c : Char} {a b : List Char} (h : Alike a b) : Alike (c :: a) (c :: b)

namespace Alike

theorem symm {a b : List Char} (h : Alike a b) : Alike b a := by
  induction h with
  | stop hc hd => exact .stop hd hc
  | cons _ ih => exact .cons ih

theorem append {a b : List Char} (h : Alike a b) (before : List Char) :
    Alike (before ++ a) (before ++ b) := by
  induction before with
  | nil => exact h
  | cons c before ih => exact .cons ih

/-- What stands in front of all breaks in one text stands in the other as well. -/
theorem split {before a b : List Char} (h : Alike (before ++ a) b)
    (hbefore : ∀ c ∈ before, isBreak c = false) : ∃ b', b = before ++ b' ∧ Alike a b' := by
  induction before generalizing b with
  | nil => exact ⟨b, rfl, h⟩
  | cons c before ih =>
    obtain ⟨hc, hmore⟩ := List.forall_mem_cons.1 hbefore
    cases h with
    | stop hbreak =>
      rw [hc] at hbreak
      cases hbreak
    | cons h =>
      obtain ⟨b', rfl, h'⟩ := ih h hmore
      exact ⟨b', rfl, h'⟩

/-- A property that no break has holds of both first characters or of none. -/
theorem head {a b : List Char} (h : Alike a b) {p : Char → Bool}
    (hp : ∀ c, isBreak c = true → p c = false) : p (a.headD ' ') = p (b.headD ' ') := by
  cases h with
  | stop hc hd =>
    rw [List.headD_cons, List.headD_cons, hp _ hc, hp _ hd]
  | cons h => rfl

end Alike

theorem isBreak_of_isHexDigit {c : Char} (h : isHexDigit c = true) : isBreak c = false := by
  refine Bool.eq_false_iff.2 fun hbreak => ?_
  rcases eq_of_isBreak hbreak with rfl | rfl | rfl | rfl <;> cases h

/-! ## Readers that look no further than a break -/

/-- What a reader of escapes takes has no breaks, and it takes the same in front of any text that
starts alike. -/
def IsLocal {α : Type} (f : List Char → Option (α × List Char)) : Prop :=
  ∀ {text after : List Char} {v : α}, f text = some (v, after) →
    ∃ taken, text = taken ++ after ∧ (∀ c ∈ taken, isBreak c = false) ∧
      ∀ {after' : List Char}, Alike after after' → f (taken ++ after') = some (v, after')

/-- Where such a reader fails, it fails on texts that start alike. -/
theorem IsLocal.none {α : Type} {f : List Char → Option (α × List Char)} (hf : IsLocal f)
    {a b : List Char} (h : Alike a b) (ha : f a = none) : f b = none := by
  cases hb : f b with
  | none => rfl
  | some result =>
    obtain ⟨taken, rfl, htaken, hread⟩ := hf hb
    obtain ⟨a', rfl, h'⟩ := h.symm.split htaken
    rw [hread h'] at ha
    cases ha

/-- A local reader behind fixed characters. -/
theorem IsLocal.behind {α : Type} {f g : List Char → Option (α × List Char)} (hf : IsLocal f)
    (before : List Char) (hbefore : ∀ c ∈ before, isBreak c = false)
    (hg : ∀ text, g (before ++ text) = f text) {text after : List Char} {v : α}
    (h : g (before ++ text) = some (v, after)) :
    ∃ taken, before ++ text = taken ++ after ∧ (∀ c ∈ taken, isBreak c = false) ∧
      ∀ {after' : List Char}, Alike after after' → g (taken ++ after') = some (v, after') := by
  rw [hg] at h
  obtain ⟨taken, rfl, htaken, hread⟩ := hf h
  refine ⟨before ++ taken, by rw [List.append_assoc], ?_, ?_⟩
  · intro c hc
    exact (List.mem_append.1 hc).elim (hbefore c) (htaken c)
  · intro after' h'
    rw [List.append_assoc, hg, hread h']

/-- A local reader whose result is worked on, or refused. -/
theorem IsLocal.filter {α β : Type} {f : List Char → Option (α × List Char)} (hf : IsLocal f)
    (g : α → Option β) : IsLocal fun text => (f text).bind fun r => (g r.1).map (·, r.2) := by
  intro text after w h
  obtain ⟨⟨v, rest⟩, hv, hmap⟩ := Option.bind_eq_some_iff.1 h
  obtain ⟨w, hw, heq⟩ := Option.map_eq_some_iff.1 hmap
  obtain ⟨rfl, rfl⟩ := Prod.mk.inj heq
  obtain ⟨taken, hsplit, htaken, hread⟩ := hf hv
  refine ⟨taken, hsplit, htaken, fun {after'} h' => ?_⟩
  change (f (taken ++ after')).bind _ = _
  rw [hread h', Option.bind_some, hw]
  rfl

theorem fourDigits_local : IsLocal fourDigits := by
  intro text after v h
  unfold fourDigits at h
  split at h
  · rename_i a b c d rest
    split at h
    · rename_i hhex
      obtain ⟨rfl, rfl⟩ := Prod.mk.inj (Option.some.inj h)
      refine ⟨[a, b, c, d], rfl, ?_, fun _ => if_pos hhex⟩
      simp only [Bool.and_eq_true] at hhex
      obtain ⟨⟨⟨ha, hb⟩, hc⟩, hd⟩ := hhex
      intro x hx
      simp only [List.mem_cons, List.not_mem_nil, or_false] at hx
      rcases hx with rfl | rfl | rfl | rfl <;> exact isBreak_of_isHexDigit ‹_›
    · cases h
  · cases h

theorem bracedCode_append {digits : List Char} (hhex : ∀ c ∈ digits, isHexDigit c = true)
    (rest : List Char) : bracedCode (digits ++ '\x7d' :: rest) =
      if digits.isEmpty || 0x10FFFF < hexNumber digits then none
      else some (hexNumber digits, rest) := by
  have htake : (digits ++ '\x7d' :: rest).takeWhile isHexDigit = digits := by
    rw [List.takeWhile_append_of_pos hhex, List.takeWhile_cons_of_neg (by decide), List.append_nil]
  have hdrop : (digits ++ '\x7d' :: rest).dropWhile isHexDigit = '\x7d' :: rest := by
    rw [List.dropWhile_append_of_pos hhex, List.dropWhile_cons_of_neg (by decide)]
  simp only [bracedCode, htake, hdrop]

theorem bracedCode_local : IsLocal bracedCode := by
  intro text after v h
  have hhex : ∀ c ∈ text.takeWhile isHexDigit, isHexDigit c = true :=
    List.all_eq_true.1 List.all_takeWhile
  have hsplit : text = text.takeWhile isHexDigit ++ text.dropWhile isHexDigit :=
    List.takeWhile_append_dropWhile.symm
  have hclose : ∃ rest, text.dropWhile isHexDigit = '\x7d' :: rest := by
    unfold bracedCode at h
    split at h
    · rename_i rest hdrop
      exact ⟨rest, hdrop⟩
    · cases h
  obtain ⟨rest, hdrop⟩ := hclose
  rw [hdrop] at hsplit
  generalize text.takeWhile isHexDigit = digits at hhex hsplit
  subst hsplit
  rw [bracedCode_append hhex] at h
  split at h
  · cases h
  · rename_i hvalid
    obtain ⟨rfl, rfl⟩ := Prod.mk.inj (Option.some.inj h)
    refine ⟨digits ++ ['\x7d'], List.append_cons .., ?_, fun _ => ?_⟩
    · intro c hc
      rcases List.mem_append.1 hc with hc | hc
      · exact isBreak_of_isHexDigit (hhex c hc)
      · rw [List.mem_singleton.1 hc]
        rfl
    · rw [← List.append_cons, bracedCode_append hhex, if_neg hvalid]

/-- The code point of a high surrogate and its partner, whose digits follow. -/
def partnerDigits (high : Nat) (text : List Char) : Option (Nat × List Char) :=
  (fourDigits text).bind fun r =>
    (if isHighSurrogate high && isLowSurrogate r.1 then some (joinSurrogates high r.1) else none).map
      (·, r.2)

/-- The code point of a high surrogate and its partner, if an escape for one follows. -/
def partnered (high : Nat) : List Char → Option (Nat × List Char)
  | '\\' :: 'u' :: after => partnerDigits high after
  | _ => none

theorem partnered_local (high : Nat) : IsLocal (partnered high) := by
  intro text after v h
  have hdigits : IsLocal (partnerDigits high) := fourDigits_local.filter fun low =>
    if isHighSurrogate high && isLowSurrogate low then some (joinSurrogates high low) else none
  have hread := h
  unfold partnered at h
  split at h
  · exact hdigits.behind ['\\', 'u'] (List.all_iff_forall_prop.1 (by decide)) (fun _ => rfl) hread
  · cases h

theorem unicodeEscape_of_digits {text rest : List Char} {high : Nat}
    (h : fourDigits text = some (high, rest)) :
    unicodeEscape text = some ((partnered high rest).getD (high, rest)) := by
  have hopen : ∀ more, text ≠ '\x7b' :: more := by
    rintro more rfl
    unfold fourDigits at h
    split at h
    · rename_i heq
      rw [← (List.cons.inj heq).1] at h
      cases h
    · cases h
  unfold unicodeEscape
  split
  · exact absurd rfl (hopen _)
  · rw [h]
    split
    · rename_i hfour
      obtain ⟨rfl, rfl⟩ := Prod.mk.inj (Option.some.inj hfour)
      simp only [partnered, partnerDigits]
      cases hhigh : isHighSurrogate high with
      | false => cases fourDigits _ <;> simp
      | true =>
        cases hlow : fourDigits _ with
        | none => rfl
        | some result => by_cases hpair : isLowSurrogate result.1 <;> simp [hpair]
    · rename_i hne
      have hnone : partnered high rest = none := by
        unfold partnered
        split
        · exact absurd rfl (hne _ _)
        · rfl
      rw [hnone]
      rfl

theorem unicodeEscape_local : IsLocal unicodeEscape := by
  intro text after v h
  have hread := h
  unfold unicodeEscape at h
  split at h
  · exact bracedCode_local.behind ['\x7b'] (List.all_iff_forall_prop.1 (by decide)) (fun _ => rfl) hread
  · cases hfour : fourDigits text with
    | none =>
      rw [hfour] at h
      cases h
    | some result =>
      obtain ⟨high, rest⟩ := result
      rw [unicodeEscape_of_digits hfour] at hread
      obtain ⟨taken, rfl, htaken, hdigits⟩ := fourDigits_local hfour
      cases hpartner : partnered high rest with
      | none =>
        rw [hpartner] at hread
        obtain ⟨rfl, rfl⟩ := Prod.mk.inj (Option.some.inj hread)
        refine ⟨taken, rfl, htaken, fun h' => ?_⟩
        rw [unicodeEscape_of_digits (hdigits h'), (@partnered_local high).none h' hpartner]
        rfl
      | some pair =>
        rw [hpartner] at hread
        obtain rfl : pair = (v, after) := Option.some.inj hread
        obtain ⟨more, rfl, hmore, hpair⟩ := partnered_local high hpartner
        refine ⟨taken ++ more, by rw [List.append_assoc], ?_, fun {after'} h' => ?_⟩
        · intro c hc
          exact (List.mem_append.1 hc).elim (htaken c) (hmore c)
        · rw [List.append_assoc, unicodeEscape_of_digits (hdigits (h'.append more)), hpair h']
          rfl

/-! ## Escapes -/

theorem isAsciiDigit_of_isBreak (c : Char) (h : isBreak c = true) : isAsciiDigit c = false := by
  rcases eq_of_isBreak h with rfl | rfl | rfl | rfl <;> rfl

theorem normalizeLines_of_notMem {text : List Char} (h : '\r' ∉ text) : normalizeLines text = text := by
  fun_induction normalizeLines text <;> simp_all

/-- An escape that starts with none of the letters and line ends that have rules of their own. -/
theorem readEscape_other {c : Char} (hc : c ∉ ['n', 'r', 't', 'b', 'v', 'f', '\r', 'x', 'u'])
    (rest : List Char) : readEscape true (c :: rest) =
      if isLineEnd c then some ([], rest)
      else if isAsciiDigit c then
        if c == '0' && !isAsciiDigit (rest.headD ' ') then some ([0], rest) else none
      else some ([c.toNat], rest) := by
  simp only [List.mem_cons, List.not_mem_nil, or_false, not_or] at hc
  obtain ⟨hn, hr, ht, hb, hv, hf, hreturn, hx, hu⟩ := hc
  exact readEscape.eq_12 true c rest hn hr ht hb hv hf (fun _ h => absurd h hreturn)
    (fun _ _ _ h => absurd h hx) hx hu

theorem hexEscape_local : IsLocal fun text => readEscape true ('x' :: text) := by
  intro text after v h
  rcases text with _ | ⟨a, _ | ⟨b, rest⟩⟩
  · cases h
  · cases h
  · change (if isHexDigit a && isHexDigit b then some ([hexNumber [a, b]], rest) else none) = _ at h
    split at h
    · rename_i hhex
      obtain ⟨rfl, rfl⟩ := Prod.mk.inj (Option.some.inj h)
      refine ⟨[a, b], rfl, ?_, fun _ => if_pos hhex⟩
      rw [Bool.and_eq_true] at hhex
      intro c hc
      simp only [List.mem_cons, List.not_mem_nil, or_false] at hc
      rcases hc with rfl | rfl
      · exact isBreak_of_isHexDigit hhex.1
      · exact isBreak_of_isHexDigit hhex.2
    · cases h

/-- An escape as its raw text, in front of text that starts alike. -/
structure Again (codes : List Nat) (text after : List Char) : Prop where
  split : ∃ taken, text = taken ++ after
  again : ∀ {taken after' : List Char}, text = taken ++ after → Alike after after' →
    Alike text (normalizeLines taken ++ after') ∧
      readEscape true (normalizeLines taken ++ after') = some (codes, after')
  stable : ∀ {taken : List Char}, text = taken ++ after →
    normalizeLines (normalizeLines taken) = normalizeLines taken

theorem Again.of_taken {codes : List Nat} {after : List Char} (taken : List Char) (htaken : '\r' ∉ taken)
    (h : ∀ {after' : List Char}, Alike after after' →
      readEscape true (taken ++ after') = some (codes, after')) :
    Again codes (taken ++ after) after where
  split := ⟨taken, rfl⟩
  again := by
    intro taken' after' heq h'
    obtain rfl := List.append_cancel_right heq
    rw [normalizeLines_of_notMem htaken]
    exact ⟨h'.append taken, h h'⟩
  stable := by
    intro taken' heq
    obtain rfl := List.append_cancel_right heq
    rw [normalizeLines_of_notMem htaken, normalizeLines_of_notMem htaken]

/-- An escaped line end is a line feed in the raw text. -/
theorem Again.of_return {after : List Char} (taken : List Char) (hreturn : taken.head? = some '\r')
    (htaken : normalizeLines taken = ['\n']) : Again [] (taken ++ after) after where
  split := ⟨taken, rfl⟩
  again := by
    intro taken' after' heq h'
    obtain rfl := List.append_cancel_right heq
    rw [htaken]
    obtain ⟨more, rfl⟩ : ∃ more, taken = '\r' :: more := by
      cases taken with
      | nil => cases hreturn
      | cons c more =>
        obtain rfl := Option.some.inj hreturn
        exact ⟨more, rfl⟩
    exact ⟨.stop rfl rfl, rfl⟩
  stable := by
    intro taken' heq
    obtain rfl := List.append_cancel_right heq
    rw [htaken]
    rfl

theorem notMem_of_isBreak {taken : List Char} (h : ∀ c ∈ taken, isBreak c = false) : '\r' ∉ taken :=
  fun hmem => absurd (h _ hmem) (by decide)

theorem readEscape_again {codes : List Nat} {text after : List Char}
    (h : readEscape true text = some (codes, after)) : Again codes text after := by
  have hread := h
  unfold readEscape at h
  split at h
  case h_1 => cases h
  case h_2 | h_3 | h_4 | h_5 | h_6 | h_7 =>
    obtain ⟨rfl, rfl⟩ := Prod.mk.inj (Option.some.inj h)
    exact .of_taken [_] (by decide) fun _ => rfl
  case h_8 =>
    obtain ⟨rfl, rfl⟩ := Prod.mk.inj (Option.some.inj h)
    exact .of_return ['\r', '\n'] rfl rfl
  case h_9 a b rest =>
    obtain ⟨taken, hsplit, htaken, hagain⟩ := hexEscape_local hread
    rw [hsplit]
    exact .of_taken ('x' :: taken) (by simpa using notMem_of_isBreak htaken) hagain
  case h_10 => cases h
  case h_11 rest =>
    obtain ⟨⟨code, after⟩, hcode, heq⟩ := Option.map_eq_some_iff.1 h
    obtain ⟨rfl, rfl⟩ := Prod.mk.inj heq
    obtain ⟨taken, rfl, htaken, hread⟩ := unicodeEscape_local hcode
    refine .of_taken ('u' :: taken) ?_ fun {after'} h' => ?_
    · simpa using notMem_of_isBreak htaken
    · rw [List.cons_append, readEscape, hread h']
      rfl
  case h_12 c rest hn hr ht hb hv hf hreturn hx hx' hu =>
    by_cases hcr : c = '\r'
    · subst hcr
      obtain ⟨rfl, rfl⟩ := Prod.mk.inj (Option.some.inj h)
      exact .of_return ['\r'] rfl rfl
    · have hother : c ∉ ['n', 'r', 't', 'b', 'v', 'f', '\r', 'x', 'u'] := by
        simpa using ⟨hn, hr, ht, hb, hv, hf, hcr, hx', hu⟩
      have hself : '\r' ∉ [c] := by simpa using fun h => hcr h.symm
      rw [readEscape_other hother] at hread
      split at hread
      · rename_i hline
        obtain ⟨rfl, rfl⟩ := Prod.mk.inj (Option.some.inj hread)
        exact .of_taken [c] hself fun _ => (readEscape_other hother _).trans (if_pos hline)
      · rename_i hline
        split at hread
        · rename_i hdigit
          split at hread
          · rename_i hzero
            obtain ⟨rfl, rfl⟩ := Prod.mk.inj (Option.some.inj hread)
            refine .of_taken [c] hself fun {after'} h' => (readEscape_other hother _).trans ?_
            rw [h'.head isAsciiDigit_of_isBreak] at hzero
            exact (if_neg hline).trans ((if_pos hdigit).trans (if_pos hzero))
          · cases hread
        · rename_i hdigit
          obtain ⟨rfl, rfl⟩ := Prod.mk.inj (Option.some.inj hread)
          exact .of_taken [c] hself fun _ =>
            (readEscape_other hother _).trans ((if_neg hline).trans (if_neg hdigit))

theorem readEscape_return (rest : List Char) : readEscape true ('\r' :: rest) ≠ none := by
  intro h
  rcases rest with _ | ⟨c, rest⟩
  · cases h
  · by_cases hc : c = '\n'
    · rw [hc] at h
      cases h
    · rw [readEscape.eq_12 true '\r' (c :: rest) nofun nofun nofun nofun nofun nofun
        (fun _ _ heq => hc (List.cons.inj heq).1) nofun nofun nofun] at h
      cases h

/-- An escape that is malformed stays so in front of text that starts alike. -/
theorem readEscape_malformed {c : Char} {rest rest' : List Char}
    (h : readEscape true (c :: rest) = none) (h' : Alike rest rest') :
    readEscape true (c :: rest') = none := by
  by_cases hother : c ∈ ['n', 'r', 't', 'b', 'v', 'f', '\r', 'x', 'u']
  · simp only [List.mem_cons, List.not_mem_nil, or_false] at hother
    rcases hother with rfl | rfl | rfl | rfl | rfl | rfl | rfl | rfl | rfl
    case inr.inr.inr.inr.inr.inr.inr.inl => exact hexEscape_local.none h' h
    case inr.inr.inr.inr.inr.inr.inr.inr =>
      rw [readEscape, Option.map_eq_none_iff] at h ⊢
      exact unicodeEscape_local.none h' h
    case inr.inr.inr.inr.inr.inr.inl => exact absurd h (readEscape_return rest)
    all_goals cases h
  · rw [readEscape_other hother] at h ⊢
    rw [← h'.head isAsciiDigit_of_isBreak]
    split at h
    · cases h
    · rename_i hline
      rw [if_neg hline]
      split at h
      · rename_i hdigit
        rw [if_pos hdigit]
        split at h
        · cases h
        · rename_i hzero
          rw [if_neg hzero]
      · cases h

/-! ## Pieces -/

theorem take_append_sub (before after : List Char) :
    (before ++ after).take ((before ++ after).length - after.length) = before := by
  rw [List.length_append, Nat.add_sub_cancel, List.take_left]

theorem templatePiece_again {fuel : Nat} {p : Piece} {text rest : List Char} {t : Token}
    (h : templatePiece fuel p text = some (t, rest)) :
    ∃ (added : List Char) (q : Piece) (tail : Bool),
      t = q.token tail ∧ q.raw = added.reverse ++ p.raw ∧ ∀ rest' : List Char,
        Alike text (added ++ (pieceEnd tail ++ rest')) ∧
          ∀ fuel', added.length < fuel' →
            templatePiece fuel' p (added ++ (pieceEnd tail ++ rest')) = some (t, rest') := by
  fun_induction templatePiece fuel p text with
  | case1 => cases h
  | case2 => cases h
  | case3 fuel p rest =>
    obtain ⟨rfl, rfl⟩ := Prod.mk.inj (Option.some.inj h)
    refine ⟨[], p, true, rfl, rfl, fun rest' => ⟨.stop rfl rfl, fun fuel' hfuel => ?_⟩⟩
    obtain ⟨n, rfl⟩ := Nat.exists_eq_succ_of_ne_zero (Nat.ne_of_gt hfuel)
    rfl
  | case4 fuel p rest =>
    obtain ⟨rfl, rfl⟩ := Prod.mk.inj (Option.some.inj h)
    refine ⟨[], p, false, rfl, rfl, fun rest' => ⟨.stop rfl rfl, fun fuel' hfuel => ?_⟩⟩
    obtain ⟨n, rfl⟩ := Nat.exists_eq_succ_of_ne_zero (Nat.ne_of_gt hfuel)
    rfl
  | case5 fuel p rest ih | case6 fuel p rest _ ih =>
    obtain ⟨added, q, tail, ht, hraw, hagain⟩ := ih h
    refine ⟨'\n' :: added, q, tail, ht, by simpa [Piece.push] using hraw, fun rest' =>
      ⟨.stop rfl rfl, fun fuel' hfuel => ?_⟩⟩
    obtain ⟨n, rfl⟩ := Nat.exists_eq_succ_of_ne_zero (Nat.ne_of_gt (Nat.zero_lt_of_lt hfuel))
    exact (hagain rest').2 n (Nat.lt_of_succ_lt_succ hfuel)
  | case7 fuel p rest codes after hread raw ih =>
    obtain ⟨added, q, tail, ht, hraw, hagain⟩ := ih h
    have escape := readEscape_again hread
    obtain ⟨taken, htaken⟩ := escape.split
    have hlines : raw = normalizeLines taken := by
      simp only [raw, htaken, take_append_sub]
    refine ⟨'\\' :: (normalizeLines taken ++ added), q, tail, ht, by simpa [hlines] using hraw,
      fun rest' => ?_⟩
    obtain ⟨halike, hagain⟩ := hagain rest'
    obtain ⟨htext, hescape⟩ := escape.again htaken halike
    rw [List.cons_append, List.append_assoc]
    refine ⟨.cons htext, fun fuel' hfuel => ?_⟩
    obtain ⟨n, rfl⟩ := Nat.exists_eq_succ_of_ne_zero (Nat.ne_of_gt (Nat.zero_lt_of_lt hfuel))
    simp only [templatePiece, hescape, take_append_sub, escape.stable htaken]
    rw [← hlines]
    exact hagain n (by simp at hfuel; omega)
  | case8 fuel p c after hread ih =>
    obtain ⟨added, q, tail, ht, hraw, hagain⟩ := ih h
    refine ⟨'\\' :: c :: added, q, tail, ht, by simpa using hraw, fun rest' => ?_⟩
    obtain ⟨halike, hagain⟩ := hagain rest'
    refine ⟨.cons (.cons halike), fun fuel' hfuel => ?_⟩
    obtain ⟨n, rfl⟩ := Nat.exists_eq_succ_of_ne_zero (Nat.ne_of_gt (Nat.zero_lt_of_lt hfuel))
    have hmalformed := readEscape_malformed hread halike
    simp only [List.cons_append, templatePiece, hmalformed]
    exact hagain n (by simp at hfuel; omega)
  | case9 => cases h
  | case10 fuel p c rest hquote hdollar hreturn hreturn' hslash ih =>
    obtain ⟨added, q, tail, ht, hraw, hagain⟩ := ih h
    refine ⟨c :: added, q, tail, ht, by simpa [Piece.push] using hraw, fun rest' => ?_⟩
    obtain ⟨halike, hagain⟩ := hagain rest'
    refine ⟨.cons halike, fun fuel' hfuel => ?_⟩
    obtain ⟨n, rfl⟩ := Nat.exists_eq_succ_of_ne_zero (Nat.ne_of_gt (Nat.zero_lt_of_lt hfuel))
    have hopen : ∀ more, c = '$' → added ++ (pieceEnd tail ++ rest') = '\x7b' :: more → False := by
      intro more hc hmore
      rw [hmore] at halike
      obtain ⟨more', hrest, -⟩ := Alike.split (show Alike (['\x7b'] ++ more) rest from halike.symm)
        (List.forall_mem_singleton.2 rfl)
      exact hdollar more' hc hrest
    rw [List.cons_append, templatePiece.eq_9 p n c _ hquote hopen (fun _ hc => absurd hc hreturn')
      hreturn' hslash]
    exact hagain n (Nat.lt_of_succ_lt_succ hfuel)

/-- A piece of some template: its raw text, its value and whether it is the last one. -/
def IsPiece (raw : String) (cooked : Option String) (tail : Bool) : Prop :=
  ∃ text rest, readTemplate text = some (.template raw cooked tail, rest)

/-- The raw text of a piece is read as the piece again. -/
theorem readTemplate_raw {raw : String} {cooked : Option String} {tail : Bool}
    (h : IsPiece raw cooked tail) (rest : List Char) :
    readTemplate (raw.toList ++ (pieceEnd tail ++ rest)) =
      some (.template raw cooked tail, rest) := by
  obtain ⟨text, after, hread⟩ := h
  obtain ⟨added, q, tail', htoken, hraw, hagain⟩ := templatePiece_again hread
  obtain ⟨rfl, -, rfl⟩ : raw = String.ofList q.raw.reverse ∧
      cooked = q.codes.map (fun codes => stringOfCodes codes.reverse) ∧ tail = tail' := by
    simpa [Piece.token] using htoken
  have hadded : added = q.raw.reverse := by rw [hraw, List.append_nil, List.reverse_reverse]
  rw [String.toList_ofList, readTemplate]
  rw [hadded] at hagain
  refine (hagain rest).2 _ ?_
  simp only [List.length_append]
  omega

end CustomElement.Script
