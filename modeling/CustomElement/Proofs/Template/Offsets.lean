import CustomElement.Proofs.Component.Regions
import CustomElement.Proofs.Template.Pieces

/-!
# Bindings by byte offsets

Places in a text are byte offsets, and a text may only be cut between two characters (`cutAt?`,
`slice?`). `braceEnd?` is the place after the brace that closes the one at a given place, and
`piecesFrom?` is the loop over the places of a text, pass by pass, which fails where it would cut a
character in two.

A brace ends two bytes or more after it starts, at a place between two characters, and where it ends
depends on nothing but the bytes in between (`braceEnd?_local`). Each pass of the loop therefore ends
at a later place that the text may be cut at, and the loop gives the pieces of the text
(`piecesFrom?_append`). `braces_end_in_bounds` puts both together.
-/

namespace CustomElement.Text

theorem byteLength_cons (c : Char) (text : List Char) :
    byteLength (c :: text) = c.utf8Size + byteLength text := by
  rw [← List.singleton_append, byteLength_append]
  simp [byteLength]

theorem byteLength_concat {c : Char} (hc : c.utf8Size = 1) (text : List Char) :
    byteLength (text ++ [c]) = byteLength text + 1 := by
  rw [byteLength_append, byteLength_cons, hc]
  rfl

/-- A text in two parts, the first of which has the given number of bytes. None if there are not so
many, or if a character would be cut in two. -/
def cutAt? : List Char → Nat → Option (List Char × List Char)
  | text, 0 => some ([], text)
  | [], _ + 1 => none
  | c :: rest, n + 1 =>
    if c.utf8Size ≤ n + 1 then
      (cutAt? rest (n + 1 - c.utf8Size)).map fun (front, back) => (c :: front, back)
    else none

/-- The bytes of a text from one place to another. None if there is no such part. -/
def slice? (text : List Char) (start finish : Nat) : Option (List Char) :=
  if start ≤ finish then do
    let (_, rest) ← cutAt? text start
    let (part, _) ← cutAt? rest (finish - start)
    some part
  else none

theorem cutAt?_append (front back : List Char) :
    cutAt? (front ++ back) (byteLength front) = some (front, back) := by
  induction front with
  | nil => cases back <;> rfl
  | cons c front ih =>
    obtain ⟨n, hn⟩ : ∃ n, byteLength (c :: front) = n + 1 :=
      Nat.exists_eq_add_one.2 (byteLength_pos (List.cons_ne_nil c front))
    have hrest : n + 1 - c.utf8Size = byteLength front := by
      rw [← hn, byteLength_cons]
      omega
    have hle : c.utf8Size ≤ n + 1 := by
      rw [← hn, byteLength_cons]
      omega
    rw [hn, List.cons_append, cutAt?, if_pos hle, hrest, ih]
    rfl

theorem cutAt?_eq_some_iff {text front back : List Char} {n : Nat} :
    cutAt? text n = some (front, back) ↔ text = front ++ back ∧ byteLength front = n := by
  constructor
  · intro h
    fun_induction cutAt? text n generalizing front back with
    | case1 text =>
      cases h
      exact ⟨rfl, rfl⟩
    | case2 | case4 => cases h
    | case3 c rest n hc ih =>
      obtain ⟨⟨front, back⟩, hcut, heq⟩ := Option.map_eq_some_iff.1 h
      cases heq
      obtain ⟨rfl, hfront⟩ := ih hcut
      rw [byteLength_cons, hfront]
      exact ⟨rfl, by omega⟩
  · rintro ⟨rfl, rfl⟩
    exact cutAt?_append front back

theorem slice?_eq_some_iff {text part : List Char} {start finish : Nat} :
    slice? text start finish = some part ↔
      ∃ before after, text = before ++ part ++ after ∧ byteLength before = start ∧
        start + byteLength part = finish := by
  unfold slice?
  constructor
  · intro h
    split at h
    · rename_i hle
      obtain ⟨⟨before, rest⟩, hbefore, h⟩ := Option.bind_eq_some_iff.1 h
      obtain ⟨⟨middle, after⟩, hpart, h⟩ := Option.bind_eq_some_iff.1 h
      cases h
      obtain ⟨rfl, hstart⟩ := cutAt?_eq_some_iff.1 hbefore
      obtain ⟨rfl, hlength⟩ := cutAt?_eq_some_iff.1 hpart
      exact ⟨before, after, (List.append_assoc ..).symm, hstart, by omega⟩
    · cases h
  · rintro ⟨before, after, rfl, rfl, rfl⟩
    rw [if_pos (Nat.le_add_right ..), List.append_assoc, cutAt?_append]
    simp only [Nat.add_sub_cancel_left, Option.bind_eq_bind, Option.bind_some, cutAt?_append]

end CustomElement.Text

namespace CustomElement.Template

open CustomElement.Text

/-! ## The end of one binding -/

/-- The place after the brace that closes the one at the given place. None if no brace opens there, or
if nothing closes it. -/
def braceEnd? (text : List Char) (start : Nat) : Option Nat :=
  match cutAt? text start with
  | some (_, '\x7b' :: rest) =>
    (matchBrace .code 1 rest).map fun (source, _) => start + byteLength source + 2
  | _ => none

theorem braceEnd?_append (before rest : List Char) :
    braceEnd? (before ++ '\x7b' :: rest) (byteLength before) =
      (matchBrace .code 1 rest).map fun found => byteLength before + byteLength found.1 + 2 := by
  rw [braceEnd?, cutAt?_append]
  rfl

theorem braceEnd?_of_ne {c : Char} (hc : c ≠ '\x7b') (before rest : List Char) :
    braceEnd? (before ++ c :: rest) (byteLength before) = none := by
  rw [braceEnd?, cutAt?_append]
  split
  · rename_i heq
    cases heq
    exact absurd rfl hc
  · rfl

/-- The text in braces, with both of them. -/
theorem byteLength_braced (source : List Char) :
    byteLength ('\x7b' :: source ++ ['\x7d']) = byteLength source + 2 := by
  rw [byteLength_concat rfl, byteLength_cons, show ('\x7b' : Char).utf8Size = 1 from rfl]
  omega

/-- A brace that ends somewhere stands around a source, which is matched from its own characters. -/
theorem braceEnd?_eq_some {text : List Char} {start finish : Nat}
    (h : braceEnd? text start = some finish) :
    ∃ before source after, text = before ++ ('\x7b' :: source ++ ['\x7d']) ++ after ∧
      byteLength before = start ∧ start + byteLength ('\x7b' :: source ++ ['\x7d']) = finish ∧
      ∀ rest, matchBrace .code 1 (source ++ '\x7d' :: rest) = some (source, rest) := by
  unfold braceEnd? at h
  split at h
  · rename_i before rest hcut
    obtain ⟨⟨source, after⟩, hmatch, hfinish⟩ := Option.map_eq_some_iff.1 h
    obtain ⟨rfl, hstart⟩ := cutAt?_eq_some_iff.1 hcut
    refine ⟨before, source, after, ?_, hstart, ?_, fun rest => matchBrace_local hmatch rest⟩
    · rw [eq_of_matchBrace hmatch]
      simp
    · rw [byteLength_braced, ← Nat.add_assoc]
      exact hfinish
  · cases h

/-- Where a brace ends depends on the bytes from its start to its end only. -/
theorem braceEnd?_local {text text' part : List Char} {start start' finish : Nat}
    (h : braceEnd? text start = some finish) (hpart : slice? text start finish = some part)
    (hpart' : slice? text' start' (start' + (finish - start)) = some part) :
    braceEnd? text' start' = some (start' + (finish - start)) := by
  obtain ⟨before, source, after, rfl, hstart, hfinish, hmatch⟩ := braceEnd?_eq_some h
  have hsource := slice?_eq_some_iff.2 ⟨before, after, rfl, hstart, hfinish⟩
  obtain rfl : '\x7b' :: source ++ ['\x7d'] = part := Option.some.inj (hsource.symm.trans hpart)
  obtain ⟨before', after', rfl, rfl, hfinish'⟩ := slice?_eq_some_iff.1 hpart'
  have htext : before' ++ ('\x7b' :: source ++ ['\x7d']) ++ after' =
      before' ++ '\x7b' :: (source ++ '\x7d' :: after') := by
    simp
  rw [htext, braceEnd?_append, hmatch, Option.map_some]
  rw [byteLength_braced] at hfinish'
  exact congrArg some (by omega)

/-! ## The loop over a text -/

/-- The pieces of a text from a place on, found in at most the given number of passes. Each pass takes
a comment, a binding or a character. None if there are not enough passes, or if a pass would cut the
text where it cannot be cut. -/
def piecesFrom? : Nat → List Char → Nat → Option (List Segment)
  | 0, _, _ => none
  | passes + 1, text, start =>
    if byteLength text ≤ start then some []
    else do
      let (_, rest) ← cutAt? text start
      if startsComment rest then
        let comment := (splitComment rest).1
        (piecesFrom? passes text (start + byteLength comment)).map (comment.map .char ++ ·)
      else
        match braceEnd? text start with
        | some finish =>
          let source ← slice? text (start + 1) (finish - 1)
          (piecesFrom? passes text finish).map (.binding source :: ·)
        | none =>
          let c ← rest.head?
          (piecesFrom? passes text (start + c.utf8Size)).map (.char c :: ·)

theorem piecesFrom?_end (passes : Nat) (text : List Char) :
    piecesFrom? (passes + 1) text (byteLength text) = some [] := by
  rw [piecesFrom?, if_pos (Nat.le_refl _)]

section Pass

variable (passes : Nat) (before : List Char)

/-- A place in front of a character is not the end. -/
theorem not_end (c : Char) (rest : List Char) :
    ¬ byteLength (before ++ c :: rest) ≤ byteLength before := by
  have hpos := byteLength_pos (List.cons_ne_nil c rest)
  rw [byteLength_append]
  omega

theorem piecesFrom?_comment {c : Char} {rest : List Char} (h : startsComment (c :: rest) = true) :
    piecesFrom? (passes + 1) (before ++ c :: rest) (byteLength before) =
      (piecesFrom? passes (before ++ c :: rest)
        (byteLength (before ++ (splitComment (c :: rest)).1))).map
        ((splitComment (c :: rest)).1.map .char ++ ·) := by
  rw [piecesFrom?, if_neg (not_end before c rest), cutAt?_append, byteLength_append]
  exact if_pos h

theorem piecesFrom?_binding {source after : List Char}
    (hcomment : startsComment ('\x7b' :: (source ++ '\x7d' :: after)) = false)
    (hmatch : matchBrace .code 1 (source ++ '\x7d' :: after) = some (source, after)) :
    piecesFrom? (passes + 1) (before ++ '\x7b' :: (source ++ '\x7d' :: after)) (byteLength before) =
      (piecesFrom? passes (before ++ '\x7b' :: (source ++ '\x7d' :: after))
        (byteLength (before ++ ('\x7b' :: source ++ ['\x7d'])))).map (.binding source :: ·) := by
  -- the source lies between two places of the text
  have hslice : slice? (before ++ '\x7b' :: (source ++ '\x7d' :: after)) (byteLength before + 1)
      (byteLength before + byteLength source + 2 - 1) = some source := by
    refine slice?_eq_some_iff.2 ⟨before ++ ['\x7b'], '\x7d' :: after, by simp, ?_, by omega⟩
    exact byteLength_concat rfl before
  rw [piecesFrom?, if_neg (not_end before _ _), cutAt?_append, braceEnd?_append, hmatch,
    byteLength_append, byteLength_braced, ← Nat.add_assoc]
  simp only [Option.bind_eq_bind, Option.bind_some, hcomment, Option.map_some, hslice,
    Bool.false_eq_true, if_false]

theorem piecesFrom?_char {c : Char} {rest : List Char} (hcomment : startsComment (c :: rest) = false)
    (hbrace : braceEnd? (before ++ c :: rest) (byteLength before) = none) :
    piecesFrom? (passes + 1) (before ++ c :: rest) (byteLength before) =
      (piecesFrom? passes (before ++ c :: rest) (byteLength (before ++ [c]))).map (.char c :: ·) := by
  have hnext : byteLength (before ++ [c]) = byteLength before + c.utf8Size := by
    rw [byteLength_append, byteLength_cons]
    rfl
  rw [piecesFrom?, if_neg (not_end before c rest), cutAt?_append, hbrace, hnext]
  simp only [Option.bind_eq_bind, Option.bind_some, hcomment, Bool.false_eq_true, if_false,
    List.head?_cons]

end Pass

/-- What is left of a text after a part of it has fewer bytes. -/
theorem byteLength_rest_lt {part rest : List Char} {n : Nat} (hpart : part ≠ [])
    (h : byteLength (part ++ rest) < n + 1) : byteLength rest < n := by
  have := byteLength_pos hpart
  rw [byteLength_append] at h
  omega

/-- The loop goes on from any place that a text may be cut at. One pass for each byte is enough, since
every pass ends at a later place. -/
theorem piecesFrom?_append {passes : Nat} {rest : List Char} (before : List Char)
    (h : byteLength rest < passes) :
    piecesFrom? passes (before ++ rest) (byteLength before) = some (segments rest) := by
  induction passes generalizing before rest with
  | zero => exact absurd h (Nat.not_lt_zero _)
  | succ passes ih =>
    -- one pass takes `part`, and the loop goes on after it
    have hnext : ∀ {part after : List Char}, part ≠ [] → part ++ after = rest →
        piecesFrom? passes (before ++ rest) (byteLength (before ++ part)) = some (segments after) := by
      rintro part after hpart rfl
      rw [← List.append_assoc]
      exact ih (before ++ part) (byteLength_rest_lt hpart h)
    fun_cases segments rest with
    | case1 =>
      rw [List.append_nil]
      exact piecesFrom?_end passes before
    | case2 c rest hcomment =>
      have hne : (splitComment (c :: rest)).1 ≠ [] := by
        intro hnil
        have hall := splitComment_append (c :: rest)
        have hshorter := splitComment_length c rest
        rw [hnil, List.nil_append] at hall
        rw [hall] at hshorter
        exact Nat.lt_irrefl _ hshorter
      rw [piecesFrom?_comment passes before hcomment, hnext hne (splitComment_append _)]
      rfl
    | case3 c rest hcomment hc source after hmatch =>
      obtain rfl := beq_iff_eq.1 hc
      have hrest := eq_of_matchBrace hmatch
      subst hrest
      have hpart : '\x7b' :: source ++ ['\x7d'] ++ after = '\x7b' :: (source ++ '\x7d' :: after) := by
        simp
      rw [piecesFrom?_binding passes before (Bool.not_eq_true _ ▸ hcomment) hmatch,
        hnext (by simp) hpart]
      rfl
    | case4 c rest hcomment hc hmatch =>
      obtain rfl := beq_iff_eq.1 hc
      have hbrace := braceEnd?_append before rest
      rw [hmatch] at hbrace
      rw [piecesFrom?_char passes before (Bool.not_eq_true _ ▸ hcomment) hbrace,
        hnext (List.cons_ne_nil _ []) rfl]
      rfl
    | case5 c rest hcomment hc =>
      have hbrace := braceEnd?_of_ne (fun h => hc (beq_iff_eq.2 h)) before rest
      rw [piecesFrom?_char passes before (Bool.not_eq_true _ ▸ hcomment) hbrace,
        hnext (List.cons_ne_nil c []) rfl]
      rfl

/-- The end of a brace is in bounds and between two characters, after a closing brace, and depends on
the bytes of the binding only. So the source of a binding can be cut out of the text, and the loop over
the places of a text ends, after no more passes than it has bytes and one, with its pieces. -/
theorem braces_end_in_bounds (text : List Char) :
    (∀ start finish, braceEnd? text start = some finish →
      start + 2 ≤ finish ∧ finish ≤ byteLength text ∧
      (∃ before after, cutAt? text finish = some (before ++ ['\x7d'], after)) ∧
      (∀ text' start', slice? text' start' (start' + (finish - start)) = slice? text start finish →
        braceEnd? text' start' = some (start' + (finish - start))) ∧
      (slice? text (start + 1) (finish - 1)).isSome = true) ∧
    piecesFrom? (byteLength text + 1) text 0 = some (segments text) := by
  refine ⟨fun start finish h => ?_, piecesFrom?_append [] (Nat.lt_succ_self _)⟩
  obtain ⟨before, source, after, htext, hstart, hfinish, -⟩ := braceEnd?_eq_some h
  have hlength := congrArg byteLength htext
  rw [byteLength_append, byteLength_append] at hlength
  have hbraced := byteLength_braced source
  have hcut : cutAt? text finish = some (before ++ '\x7b' :: source ++ ['\x7d'], after) := by
    refine cutAt?_eq_some_iff.2 ⟨by simp [htext], ?_⟩
    rw [List.append_assoc, byteLength_append, hstart]
    exact hfinish
  have hslice : slice? text start finish = some ('\x7b' :: source ++ ['\x7d']) :=
    slice?_eq_some_iff.2 ⟨before, after, htext, hstart, hfinish⟩
  have hsource : slice? text (start + 1) (finish - 1) = some source := by
    refine slice?_eq_some_iff.2 ⟨before ++ ['\x7b'], '\x7d' :: after, by simp [htext], ?_, by omega⟩
    rw [byteLength_concat rfl, hstart]
  refine ⟨by omega, by omega, ⟨_, _, hcut⟩, fun text' start' hpart => ?_, by rw [hsource]; rfl⟩
  exact braceEnd?_local h hslice (hpart.trans hslice)

/-- A binding between characters of two bytes, with a closing brace in a string of a substitution. -/
def accentedText : List Char :=
  "é\x7bf(`$\x7b'é'\x7d`, '\x7d')\x7dé".toList

theorem accentedText_in_bounds :
    braceEnd? accentedText 2 = some 21 ∧ 21 ≤ byteLength accentedText ∧
      (slice? accentedText 3 20).isSome = true ∧
      (∀ text' start', slice? text' start' (start' + 19) = slice? accentedText 2 21 →
        braceEnd? text' start' = some (start' + 19)) ∧
      piecesFrom? (byteLength accentedText + 1) accentedText 0 = some (segments accentedText) := by
  have hend : braceEnd? accentedText 2 = some 21 := by decide
  obtain ⟨hbounds, hpieces⟩ := braces_end_in_bounds accentedText
  obtain ⟨-, hle, -, hlocal, hslice⟩ := hbounds 2 21 hend
  exact ⟨hend, hle, hslice, hlocal, hpieces⟩

end CustomElement.Template
