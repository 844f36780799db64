import CustomElement.Proofs.Text.CamelCase
import Mathlib.Logic.ExistsUnique

/-!
# Camel case as a normal form

A name consists of words set apart by gaps (`Spaced`), in one way only, and its words are its
segments (`spaced_iff`). Both camel case forms are made of the words alone, so a change of the gaps
changes neither of them.

The forms have no gaps, and a name without gaps is its own lower camel case form. The upper camel
case form is the lower one with its first character in upper case
(`upperCamel_eq_capitalize_lowerCamel`), so the laws between the two forms come down to one of
`capitalize`: to capitalize twice is to capitalize once. This holds because the upper case of a
character starts with a character that is its own upper case (`exists_upperCase_eq_cons`). Of the
case table it says that no code point both starts an upper case and has another one, which is
checked on the two sets of code points as the bits of two numbers.
-/

namespace CustomElement.Text

/-! ## The first character of an upper case -/

/-- The characters whose upper case is not themselves, in runs, with the first character of their
upper case: the ASCII letters, the runs of the table and the characters that become several. -/
def upperCaseHeads : List CaseRun :=
  ⟨0x61, 0x7A, 1, 0x41⟩ :: upperCaseRuns ++
    upperCaseExpansions.map fun e => ⟨e.1, e.1, 1, e.2.headD 0⟩

/-- As many code points as a run has, at the distance that they have in it, from `n` on. -/
def CaseRun.codesFrom (run : CaseRun) (n : Nat) : List Nat :=
  (List.range ((run.last - run.first) / run.step + 1)).map fun k => n + run.step * k

/-- The code points with an upper case other than themselves. -/
def casedCodes : List Nat :=
  upperCaseHeads.flatMap fun run => run.codesFrom run.first

/-- The code points that such an upper case starts with. -/
def upperHeadCodes : List Nat :=
  upperCaseHeads.flatMap fun run => run.codesFrom run.upper

/-- A set of code points as the bits of a number. -/
def codeSet (codes : List Nat) : Nat :=
  codes.foldr (fun n set => 1 <<< n ||| set) 0

theorem testBit_codeSet {n : Nat} {codes : List Nat} (h : n ∈ codes) :
    (codeSet codes).testBit n = true := by
  induction codes with
  | nil => cases h
  | cons m codes ih =>
    rw [codeSet, List.foldr_cons, Nat.testBit_or, Bool.or_eq_true]
    rcases List.mem_cons.mp h with rfl | h
    · left
      rw [Nat.one_shiftLeft, Nat.testBit_two_pow_self]
    · exact .inr (ih h)

theorem codeSet_upperHeadCodes_and_casedCodes :
    codeSet upperHeadCodes &&& codeSet casedCodes = 0 := by
  decide +kernel

theorem notMem_casedCodes {n : Nat} (h : n ∈ upperHeadCodes) : n ∉ casedCodes := by
  intro hcased
  have hbit : (codeSet upperHeadCodes &&& codeSet casedCodes).testBit n = true := by
    rw [Nat.testBit_and, testBit_codeSet h, testBit_codeSet hcased]
    rfl
  rw [codeSet_upperHeadCodes_and_casedCodes, Nat.zero_testBit] at hbit
  cases hbit

theorem CaseRun.mem_codesFrom {run : CaseRun} {n m : Nat} (h : run.image? n = some m) :
    n ∈ run.codesFrom run.first ∧ m ∈ run.codesFrom run.upper := by
  unfold CaseRun.image? at h
  split at h
  · rename_i hin
    simp only [Bool.and_eq_true, decide_eq_true_eq, beq_iff_eq] at hin
    obtain ⟨⟨hfirst, hlast⟩, hstep⟩ := hin
    obtain rfl := Option.some.inj h
    have hk : run.step * ((n - run.first) / run.step) = n - run.first := by
      have := Nat.div_add_mod (n - run.first) run.step
      omega
    have hle : (n - run.first) / run.step ≤ (run.last - run.first) / run.step :=
      Nat.div_le_div_right (by omega)
    refine ⟨List.mem_map.mpr ⟨(n - run.first) / run.step, List.mem_range.mpr (by omega), ?_⟩,
      List.mem_map.mpr ⟨(n - run.first) / run.step, List.mem_range.mpr (by omega), ?_⟩⟩
    · omega
    · omega
  · cases h

theorem mem_codes_of_image? {run : CaseRun} {n m : Nat} (hrun : run ∈ upperCaseHeads)
    (h : run.image? n = some m) : n ∈ casedCodes ∧ m ∈ upperHeadCodes := by
  obtain ⟨hn, hm⟩ := CaseRun.mem_codesFrom h
  exact ⟨List.mem_flatMap.mpr ⟨run, hrun, hn⟩, List.mem_flatMap.mpr ⟨run, hrun, hm⟩⟩

theorem expansions_ne_nil : upperCaseExpansions.all (fun e => !e.2.isEmpty) = true := by
  decide

/-- A character is its own upper case, or a run of `upperCaseHeads` holds it and says with which
character its upper case starts. -/
theorem upperCase_cases (c : Char) : upperCase c = [c] ∨
    ∃ run ∈ upperCaseHeads, ∃ m rest,
      run.image? c.toNat = some m ∧ upperCase c = Char.ofNat m :: rest := by
  simp only [upperCase]
  split
  · split
    · -- the run of the ASCII letters
      rename_i haz
      simp only [Bool.and_eq_true, decide_eq_true_eq] at haz
      have hlo : 97 ≤ c.toNat := haz.1
      have hhi : c.toNat ≤ 122 := haz.2
      refine .inr ⟨⟨0x61, 0x7A, 1, 0x41⟩, List.mem_cons_self, c.toNat - 32, [], ?_, rfl⟩
      rw [CaseRun.image?, if_pos (by simp [hlo, hhi, Nat.mod_one])]
      exact congrArg some (show 65 + (c.toNat - 97) = c.toNat - 32 by omega)
    · exact .inl rfl
  · split
    · -- a character that becomes several
      rename_i codes h
      have hmem := mem_of_lookup h
      obtain ⟨m, rest, rfl⟩ : ∃ m rest, codes = m :: rest := by
        have hne := List.all_eq_true.mp expansions_ne_nil _ hmem
        exact List.exists_cons_of_ne_nil (by rintro rfl; cases hne)
      refine .inr ⟨⟨c.toNat, c.toNat, 1, m⟩, ?_, m, rest.map Char.ofNat, ?_, rfl⟩
      · exact List.mem_append_right _ (List.mem_map.mpr ⟨_, hmem, rfl⟩)
      · rw [CaseRun.image?, if_pos (by simp), Nat.sub_self, Nat.add_zero]
    · split
      · -- a run of the table
        rename_i m h
        obtain ⟨run, hrun, himage⟩ := List.exists_of_findSome?_eq_some h
        exact .inr ⟨run, List.mem_append_left _ (List.mem_cons_of_mem _ hrun), m, [], himage, rfl⟩
      · exact .inl rfl

theorem upperCase_ofNat {m : Nat} (h : m ∈ upperHeadCodes) :
    upperCase (Char.ofNat m) = [Char.ofNat m] := by
  by_cases hvalid : m.isValidChar
  · rcases upperCase_cases (Char.ofNat m) with hself | ⟨run, hrun, k, rest, himage, -⟩
    · exact hself
    · have hcode : (Char.ofNat m).toNat = m := by
        rw [Char.ofNat, dif_pos hvalid]
        rfl
      rw [hcode] at himage
      exact absurd (mem_codes_of_image? hrun himage).1 (notMem_casedCodes h)
  · -- No code of the table is of this kind, but what stands for it has no other upper case either.
    rw [Char.ofNat, dif_neg hvalid]
    rfl

/-- The upper case of a character starts with a character that is its own upper case. -/
theorem exists_upperCase_eq_cons (c : Char) :
    ∃ d rest, upperCase c = d :: rest ∧ upperCase d = [d] := by
  rcases upperCase_cases c with hself | ⟨run, hrun, m, rest, himage, hupper⟩
  · exact ⟨c, [], hself, hself⟩
  · exact ⟨Char.ofNat m, rest, hupper, upperCase_ofNat (mem_codes_of_image? hrun himage).2⟩

theorem capitalize_capitalize (s : List Char) : capitalize (capitalize s) = capitalize s := by
  cases s with
  | nil => rfl
  | cons c s =>
    obtain ⟨d, rest, hc, hd⟩ := exists_upperCase_eq_cons c
    rw [capitalize, hc, List.cons_append, capitalize, hd]
    rfl

theorem capitalize_append {s : List Char} (hs : s ≠ []) (t : List Char) :
    capitalize (s ++ t) = capitalize s ++ t := by
  obtain ⟨c, s, rfl⟩ := List.exists_cons_of_ne_nil hs
  simp only [List.cons_append, capitalize, List.append_assoc]

/-! ## Words and gaps -/

/-- Characters none of which is a word character. -/
def IsGap (s : List Char) : Prop :=
  ∀ c ∈ s, isWord c = false

/-- Word characters, at least one. -/
def IsRun (s : List Char) : Prop :=
  s ≠ [] ∧ ∀ c ∈ s, isWord c = true

/-- A name that consists of some words in order. A gap between two words is not empty, so no word
can be made longer; there may be gaps before the first word and after the last. -/
inductive Spaced : List (List Char) → List Char → Prop
  | gap {gap : List Char} (hgap : IsGap gap) : Spaced [] gap
  | last {lead word : List Char} (hlead : IsGap lead) (hword : IsRun word) :
      Spaced [word] (lead ++ word)
  | cons {lead word gap rest : List Char} {words : List (List Char)} (hlead : IsGap lead)
      (hword : IsRun word) (hgap : IsGap gap) (hne : gap ≠ []) (hrest : Spaced words rest) :
      Spaced (word :: words) (lead ++ word ++ gap ++ rest)

theorem segmentsFrom_gap {gap : List Char} (h : IsGap gap) (rest : List Char) :
    segmentsFrom [] (gap ++ rest) = segmentsFrom [] rest := by
  induction gap with
  | nil => rfl
  | cons c gap ih =>
    have hc := h c List.mem_cons_self
    rw [List.cons_append, segmentsFrom, if_neg (by simp [hc]), if_pos List.isEmpty_nil,
      ih fun d hd => h d (List.mem_cons_of_mem _ hd)]

theorem segmentsFrom_word {word : List Char} (h : ∀ c ∈ word, isWord c = true)
    (run rest : List Char) :
    segmentsFrom run (word ++ rest) = segmentsFrom (word.reverse ++ run) rest := by
  induction word generalizing run with
  | nil => rfl
  | cons c word ih =>
    rw [List.cons_append, segmentsFrom, if_pos (h c List.mem_cons_self),
      ih fun d hd => h d (List.mem_cons_of_mem _ hd)]
    simp

theorem segments_of_spaced {words : List (List Char)} {name : List Char}
    (h : Spaced words name) : segments name = words := by
  induction h with
  | @gap gap hgap =>
    rw [segments, ← List.append_nil gap]
    exact segmentsFrom_gap hgap []
  | @last lead word hlead hword =>
    rw [segments, segmentsFrom_gap hlead, segmentsFrom_of_isWord hword.2]
    simp [hword.1]
  | @cons lead word gap rest words hlead hword hgap hne hrest ih =>
    -- The first character of the gap ends the word, and the others are skipped.
    obtain ⟨c, gap, rfl⟩ := List.exists_cons_of_ne_nil hne
    have hc := hgap c List.mem_cons_self
    rw [segments, List.append_assoc, List.append_assoc, segmentsFrom_gap hlead,
      segmentsFrom_word hword.2, List.cons_append, segmentsFrom, if_neg (by simp [hc]),
      if_neg (by simp [hword.1]), segmentsFrom_gap fun d hd => hgap d (List.mem_cons_of_mem _ hd)]
    rw [segments] at ih
    simp [ih]

theorem Spaced.cons_gap {words : List (List Char)} {name : List Char} {c : Char}
    (hc : isWord c = false) (h : Spaced words name) : Spaced words (c :: name) := by
  have hcons : ∀ {gap : List Char}, IsGap gap → IsGap (c :: gap) :=
    fun hgap => List.forall_mem_cons.mpr ⟨hc, hgap⟩
  cases h with
  | gap hgap => exact .gap (hcons hgap)
  | last hlead hword => exact .last (hcons hlead) hword
  | cons hlead hword hgap hne hrest => exact .cons (hcons hlead) hword hgap hne hrest

/-- The run that is being read starts the next word, if there is one. -/
theorem spaced_segmentsFrom {run : List Char} (hrun : ∀ c ∈ run, isWord c = true)
    (text : List Char) : Spaced (segmentsFrom run text) (run.reverse ++ text) := by
  have hword : ∀ {run : List Char}, ¬run.isEmpty = true → (∀ c ∈ run, isWord c = true) →
      IsRun run.reverse :=
    fun hne hrun => ⟨by simpa using hne, fun c hc => hrun c (List.mem_reverse.mp hc)⟩
  have hnil : IsGap [] := by simp [IsGap]
  fun_induction segmentsFrom run text with
  | case1 run hempty =>
    rw [List.isEmpty_iff.mp hempty]
    exact .gap hnil
  | case2 run hempty =>
    rw [List.append_nil]
    exact .last hnil (hword hempty hrun)
  | case3 run c rest hc ih =>
    simpa using ih (List.forall_mem_cons.mpr ⟨hc, hrun⟩)
  | case4 run c rest hc hempty ih =>
    rw [List.isEmpty_iff.mp hempty]
    exact .cons_gap (by simpa using hc) (ih (by simp))
  | case5 run c rest hc hempty ih =>
    have hgap : IsGap [c] := List.forall_mem_singleton.mpr (by simpa using hc)
    simpa using Spaced.cons hnil (hword hempty hrun) hgap (by simp) (ih (by simp))

/-- A name consists of words in one way only, and the words are its segments. -/
theorem spaced_iff {words : List (List Char)} {name : List Char} :
    Spaced words name ↔ segments name = words := by
  refine ⟨segments_of_spaced, ?_⟩
  rintro rfl
  exact spaced_segmentsFrom (by simp) name

theorem Spaced.isRun {words : List (List Char)} {name word : List Char} (h : Spaced words name)
    (hword : word ∈ words) : IsRun word := by
  induction h with
  | gap => cases hword
  | last _ hrun => rwa [List.mem_singleton.mp hword]
  | cons _ hrun _ _ _ ih =>
    rcases List.mem_cons.mp hword with rfl | hword
    · exact hrun
    · exact ih hword

/-! ## The two forms -/

theorem upperCamel_of_spaced {words : List (List Char)} {name : List Char}
    (h : Spaced words name) : upperCamel name = (words.map capitalize).flatten := by
  rw [upperCamel, segments_of_spaced h]

theorem lowerCamel_of_spaced {words : List (List Char)} {name : List Char}
    (h : Spaced words name) :
    lowerCamel name = words.headD [] ++ (words.tail.map capitalize).flatten := by
  rw [lowerCamel, segments_of_spaced h]
  cases words with
  | nil => rfl
  | cons first rest => rfl

theorem upperCamel_eq_capitalize_lowerCamel (name : List Char) :
    upperCamel name = capitalize (lowerCamel name) := by
  have h : Spaced (segments name) name := spaced_iff.mpr rfl
  rw [upperCamel_of_spaced h, lowerCamel_of_spaced h]
  cases hwords : segments name with
  | nil => rfl
  | cons first rest =>
    have hfirst : first ≠ [] := (h.isRun (hwords ▸ List.mem_cons_self)).1
    exact (capitalize_append hfirst _).symm

theorem isWord_of_mem_upperCamel {name : List Char} {c : Char} (hc : c ∈ upperCamel name) :
    isWord c = true := by
  rw [upperCamel_eq_capitalize_lowerCamel] at hc
  exact isWord_of_mem_capitalize (fun _ => isWord_of_mem_lowerCamel) hc

theorem lowerCamel_lowerCamel (name : List Char) :
    lowerCamel (lowerCamel name) = lowerCamel name :=
  lowerCamel_eq_self_iff.mpr fun _ => isWord_of_mem_lowerCamel

theorem lowerCamel_upperCamel (name : List Char) :
    lowerCamel (upperCamel name) = upperCamel name :=
  lowerCamel_eq_self_iff.mpr fun _ => isWord_of_mem_upperCamel

theorem upperCamel_lowerCamel (name : List Char) :
    upperCamel (lowerCamel name) = upperCamel name := by
  rw [upperCamel_eq_capitalize_lowerCamel, lowerCamel_lowerCamel,
    ← upperCamel_eq_capitalize_lowerCamel]

theorem upperCamel_upperCamel (name : List Char) :
    upperCamel (upperCamel name) = upperCamel name := by
  rw [upperCamel_eq_capitalize_lowerCamel (upperCamel name), lowerCamel_upperCamel,
    upperCamel_eq_capitalize_lowerCamel, capitalize_capitalize]

/-- Camel case is a normal form. Both forms hold word characters only, and each is kept when it is
taken again; the upper form of the lower one is the upper form of the name, and the lower form of
the upper one is that one itself. A name has one sequence of words. Both forms are made of the
words, and every other name with the same words has the same forms, whatever its gaps. -/
theorem camelCase_normal_form (name : String) :
    (∀ c ∈ (toUpperCamelCase name).toList, isWord c = true) ∧
    (∀ c ∈ (toLowerCamelCase name).toList, isWord c = true) ∧
    toUpperCamelCase (toUpperCamelCase name) = toUpperCamelCase name ∧
    toLowerCamelCase (toLowerCamelCase name) = toLowerCamelCase name ∧
    toUpperCamelCase (toLowerCamelCase name) = toUpperCamelCase name ∧
    toLowerCamelCase (toUpperCamelCase name) = toUpperCamelCase name ∧
    (∃! words, Spaced words name.toList) ∧
    ∀ words, Spaced words name.toList →
      (toUpperCamelCase name).toList = (words.map capitalize).flatten ∧
      (toLowerCamelCase name).toList =
        words.headD [] ++ (words.tail.map capitalize).flatten ∧
      ∀ other : String, Spaced words other.toList →
        toUpperCamelCase other = toUpperCamelCase name ∧
        toLowerCamelCase other = toLowerCamelCase name := by
  simp only [toUpperCamelCase, toLowerCamelCase, String.toList_ofList]
  refine ⟨fun _ => isWord_of_mem_upperCamel, fun _ => isWord_of_mem_lowerCamel, ?_, ?_, ?_, ?_,
    ⟨segments name.toList, spaced_iff.mpr rfl, fun _ h => (spaced_iff.mp h).symm⟩, ?_⟩
  · rw [upperCamel_upperCamel]
  · rw [lowerCamel_lowerCamel]
  · rw [upperCamel_lowerCamel]
  · rw [lowerCamel_upperCamel]
  · intro words hname
    refine ⟨upperCamel_of_spaced hname, lowerCamel_of_spaced hname, fun other hother => ?_⟩
    rw [upperCamel_of_spaced hname, upperCamel_of_spaced hother, lowerCamel_of_spaced hname,
      lowerCamel_of_spaced hother]
    exact ⟨rfl, rfl⟩

/-- Both words have a first character that becomes two in upper case. -/
theorem respaced_normal_form :
    Spaced ["ßa".toList, "ŉb".toList] "ßa--ŉb".toList ∧
    Spaced ["ßa".toList, "ŉb".toList] " ßa.ŉb!".toList ∧
    toUpperCamelCase " ßa.ŉb!" = "SSaʼNb" ∧ toLowerCamelCase " ßa.ŉb!" = "ßaʼNb" := by
  have hname : Spaced ["ßa".toList, "ŉb".toList] "ßa--ŉb".toList := spaced_iff.mpr (by decide)
  have hother : Spaced ["ßa".toList, "ŉb".toList] " ßa.ŉb!".toList := spaced_iff.mpr (by decide)
  obtain ⟨-, -, -, -, -, -, -, hwords⟩ := camelCase_normal_form "ßa--ŉb"
  obtain ⟨-, -, hforms⟩ := hwords _ hname
  obtain ⟨hupper, hlower⟩ := hforms _ hother
  exact ⟨hname, hother, hupper.trans (by decide), hlower.trans (by decide)⟩

end CustomElement.Text
