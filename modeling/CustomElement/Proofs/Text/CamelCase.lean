import CustomElement.Text.CamelCase

/-!
# Camel case and word characters

The segments of a name hold word characters only (`isWord_of_mem_segments`), and so does the upper
case of a word character (`isWord_of_mem_upperCase`), which is read off the case table run by run.
So the lower camel case form of a name holds word characters only, and it is the name itself
exactly when the name has no other characters (`lowerCamel_eq_self_iff`).
-/

namespace CustomElement.Text

/-! ## The upper case of a word character -/

/-- Whether one range holds all code points from `lo` to `hi`. -/
def Ranges.covers : Ranges → Nat → Nat → Bool
  | [], _, _ => false
  | (a, b) :: rest, lo, hi => a.ble lo && bif lo.ble b then hi.ble b else covers rest lo hi

theorem Ranges.contains_of_covers {n lo hi : Nat} (hlo : lo ≤ n) (hhi : n ≤ hi) :
    ∀ {ranges : Ranges}, ranges.covers lo hi = true → ranges.contains n = true
  | [], h => by simp [covers] at h
  | (a, b) :: rest, h => by
    simp only [covers, Bool.and_eq_true, Nat.ble_eq] at h
    obtain ⟨ha, h⟩ := h
    simp only [Ranges.contains]
    rw [if_neg (by omega)]
    cases hb : lo.ble b
    · rw [hb, cond_false] at h
      have : ¬ lo ≤ b := fun hle => by rw [Nat.ble_eq_true_of_le hle] at hb; cases hb
      split
      · rfl
      · exact contains_of_covers hlo hhi h
    · rw [hb, cond_true, Nat.ble_eq] at h
      rw [if_pos (by omega)]

/-- Whether no range holds a code point from `lo` to `hi`. -/
def Ranges.misses (ranges : Ranges) (lo hi : Nat) : Bool :=
  ranges.all fun r => r.2.blt lo || hi.blt r.1

theorem Ranges.contains_of_misses {ranges : Ranges} {n lo hi : Nat} (hlo : lo ≤ n) (hhi : n ≤ hi)
    (h : ranges.misses lo hi = true) : ranges.contains n = false := by
  induction ranges with
  | nil => rfl
  | cons range rest ih =>
    simp only [misses, List.all_cons, Bool.and_eq_true, Bool.or_eq_true, Nat.blt_eq] at h
    rw [Ranges.contains]
    split
    · rfl
    · rw [if_neg (by omega)]
      exact ih h.2

/-- Whether the code points from `lo` to `hi` are word characters, as far as single ranges tell. -/
def areWords (lo hi : Nat) : Bool :=
  if hi < 0x80 then lo == hi && isWord (Char.ofNat lo)
  else
    0x80 ≤ lo && (hi < 0xD800 || 0xDFFF < lo && hi < 0x110000) &&
      (identifierStartRanges.covers lo hi && wordExceptions.misses lo hi)

theorem isWord_of_areWords {n lo hi : Nat} (hlo : lo ≤ n) (hhi : n ≤ hi)
    (h : areWords lo hi = true) : isWord (Char.ofNat n) = true := by
  unfold areWords at h
  split at h
  · simp only [Bool.and_eq_true, beq_iff_eq] at h
    rw [show n = lo by omega]; exact h.2
  · simp only [Bool.and_eq_true, Bool.or_eq_true, decide_eq_true_eq] at h
    obtain ⟨⟨h80, hv⟩, hcovers, hmisses⟩ := h
    have hn : n.isValidChar := by
      rcases hv with hv | hv
      · exact .inl (by omega)
      · exact .inr ⟨by omega, by omega⟩
    have e : (Char.ofNat n).toNat = n := by
      rw [Char.ofNat, dif_pos hn]
      rfl
    have hstart := Ranges.contains_of_covers hlo hhi hcovers
    have hexception := Ranges.contains_of_misses hlo hhi hmisses
    rw [isWord, isIdentifierPart, e, if_neg (by omega), if_neg (by omega)]
    simp only [Ranges.holds, e, hstart, hexception]
    rfl

/-- Whether the upper case of every character of a run is a word character. Where the run skips
characters, what lies between its images may be none, and the images are looked at one by one. -/
def CaseRun.isWordRun (run : CaseRun) : Bool :=
  areWords run.upper (run.upper + (run.last - run.first)) ||
    (List.range (run.last - run.first + 1)).all fun k =>
      k % run.step != 0 || isWord (Char.ofNat (run.upper + k))

theorem isWordRun_upperCaseRuns : upperCaseRuns.all CaseRun.isWordRun = true := by
  decide +kernel

theorem isWord_upperCaseExpansions :
    upperCaseExpansions.all (fun e => e.2.all fun n => isWord (Char.ofNat n)) = true := by
  decide +kernel

theorem CaseRun.isWord_image {run : CaseRun} {n m : Nat} (hr : run.isWordRun = true)
    (h : run.image? n = some m) : isWord (Char.ofNat m) = true := by
  unfold CaseRun.image? at h
  split at h
  · rename_i hc
    simp only [Bool.and_eq_true, decide_eq_true_eq, beq_iff_eq] at hc
    obtain rfl := Option.some.inj h
    rcases Bool.or_eq_true_iff.mp hr with hr | hr
    · exact isWord_of_areWords (by omega) (by omega) hr
    · have := List.all_eq_true.mp hr (n - run.first) (List.mem_range.mpr (by omega))
      simpa [hc.2] using this
  · cases h

theorem mem_of_lookup {n : Nat} {codes : List Nat}
    (h : upperCaseExpansions.lookup n = some codes) : (n, codes) ∈ upperCaseExpansions := by
  obtain ⟨before, after, htable, -⟩ := List.lookup_eq_some_iff.mp h
  rw [htable]
  exact List.mem_append_right _ List.mem_cons_self

theorem isWord_of_lookup {n : Nat} {codes : List Nat} {c : Char}
    (h : upperCaseExpansions.lookup n = some codes) (hc : c ∈ codes.map Char.ofNat) :
    isWord c = true := by
  obtain ⟨m, hm, rfl⟩ := List.mem_map.mp hc
  exact List.all_eq_true.mp
    (List.all_eq_true.mp isWord_upperCaseExpansions _ (mem_of_lookup h)) m hm

/-- The upper case of a word character holds word characters only. -/
theorem isWord_of_mem_upperCase {c d : Char} (hc : isWord c = true) (hd : d ∈ upperCase c) :
    isWord d = true := by
  simp only [upperCase] at hd
  split at hd
  · split at hd
    · rename_i h80 haz
      simp only [Bool.and_eq_true, decide_eq_true_eq] at haz
      obtain rfl := List.mem_singleton.mp hd
      have hlo : 97 ≤ c.toNat := haz.1
      have hhi : c.toNat ≤ 122 := haz.2
      have upper : ∀ n < 91, 65 ≤ n → isWord (Char.ofNat n) = true := by decide
      exact upper _ (by omega) (by omega)
    · obtain rfl := List.mem_singleton.mp hd; exact hc
  · split at hd
    · rename_i h; exact isWord_of_lookup h hd
    · split at hd
      · rename_i m h
        obtain ⟨run, hrun, hm⟩ := List.exists_of_findSome?_eq_some h
        obtain rfl := List.mem_singleton.mp hd
        exact CaseRun.isWord_image (List.all_eq_true.mp isWordRun_upperCaseRuns run hrun) hm
      · obtain rfl := List.mem_singleton.mp hd; exact hc

/-! ## Segments -/

theorem isWord_of_mem_segmentsFrom {c : Char} {s : List Char} :
    ∀ {text run : List Char}, (∀ d ∈ run, isWord d = true) → s ∈ segmentsFrom run text → c ∈ s →
      isWord c = true
  | [], run, hr, hs, hc => by
    simp only [segmentsFrom] at hs
    split at hs
    · cases hs
    · obtain rfl := List.mem_singleton.mp hs; exact hr c (List.mem_reverse.mp hc)
  | d :: text, run, hr, hs, hc => by
    simp only [segmentsFrom] at hs
    split at hs
    · rename_i hd
      refine isWord_of_mem_segmentsFrom (fun e he => ?_) hs hc
      rcases List.mem_cons.mp he with rfl | he
      · exact hd
      · exact hr e he
    · split at hs
      · exact isWord_of_mem_segmentsFrom (by simp) hs hc
      · rcases List.mem_cons.mp hs with rfl | hs
        · exact hr c (List.mem_reverse.mp hc)
        · exact isWord_of_mem_segmentsFrom (by simp) hs hc

/-- The segments of a name hold word characters only. -/
theorem isWord_of_mem_segments {name s : List Char} {c : Char} (hs : s ∈ segments name)
    (hc : c ∈ s) : isWord c = true :=
  isWord_of_mem_segmentsFrom (by simp) hs hc

theorem isWord_of_mem_capitalize {s : List Char} {c : Char} (hs : ∀ d ∈ s, isWord d = true)
    (hc : c ∈ capitalize s) : isWord c = true := by
  cases s with
  | nil => cases hc
  | cons d s =>
    rcases List.mem_append.mp hc with hc | hc
    · exact isWord_of_mem_upperCase (hs d List.mem_cons_self) hc
    · exact hs c (List.mem_cons_of_mem _ hc)

theorem isWord_of_mem_lowerCamel {name : List Char} {c : Char} (hc : c ∈ lowerCamel name) :
    isWord c = true := by
  have hseg : ∀ s ∈ segments name, ∀ d ∈ s, isWord d = true :=
    fun s hs d hd => isWord_of_mem_segments hs hd
  unfold lowerCamel at hc
  split at hc
  · cases hc
  · rename_i first rest e
    rw [e] at hseg
    rcases List.mem_append.mp hc with hc | hc
    · exact hseg first List.mem_cons_self c hc
    · obtain ⟨t, ht, hc⟩ := List.mem_flatten.mp hc
      obtain ⟨s, hs, rfl⟩ := List.mem_map.mp ht
      exact isWord_of_mem_capitalize (hseg s (List.mem_cons_of_mem _ hs)) hc

theorem segmentsFrom_of_isWord : ∀ {text run : List Char}, (∀ c ∈ text, isWord c = true) →
    segmentsFrom run text = if run = [] ∧ text = [] then [] else [run.reverse ++ text]
  | [], run, _ => by cases run <;> simp [segmentsFrom]
  | c :: text, run, h => by
    rw [segmentsFrom, if_pos (h c List.mem_cons_self),
      segmentsFrom_of_isWord fun d hd => h d (List.mem_cons_of_mem _ hd)]
    simp

/-- The lower camel case form of a name is the name itself exactly when the name has no characters
other than word characters. -/
theorem lowerCamel_eq_self_iff {name : List Char} :
    lowerCamel name = name ↔ ∀ c ∈ name, isWord c = true := by
  refine ⟨fun h c hc => @isWord_of_mem_lowerCamel name c (by rwa [h]), fun h => ?_⟩
  rw [lowerCamel, segments, segmentsFrom_of_isWord h]
  cases name <;> simp

end CustomElement.Text
