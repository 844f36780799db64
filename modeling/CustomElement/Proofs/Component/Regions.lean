import CustomElement.Component.Regions
import Mathlib.Data.List.DropRight
import Mathlib.Order.Bounds.Basic

/-!
# Where the template starts

The template of a component starts at the first tag, that is at the first `<` at the start of the
source or after white space, and the white space in front of the tag belongs to it. `Splits` says so
of a source and two regions. The scan keeps to it with each character (`scanned_cons`), and so does
the whole scan (`splits_ofSource`). `split_at_first_tag` puts it in byte offsets. The place is also
the leftmost match of a pattern, a line start or a run of white space and then `<`: the run is taken
from its first character on, and no line start but the first of all adds a match.
-/

namespace CustomElement.Text

/-- Bytes are added to those that have been counted before. -/
theorem foldl_utf8Size (text : List Char) (count : Nat) :
    text.foldl (fun n c => n + c.utf8Size) count = count + byteLength text := by
  unfold byteLength
  induction text generalizing count with
  | nil => rfl
  | cons c rest ih =>
    rw [List.foldl_cons, List.foldl_cons, ih (count + c.utf8Size), ih (0 + c.utf8Size)]
    omega

theorem byteLength_append (s t : List Char) :
    byteLength (s ++ t) = byteLength s + byteLength t := by
  rw [byteLength, List.foldl_append]
  exact foldl_utf8Size t (byteLength s)

theorem byteLength_pos {text : List Char} (h : text ≠ []) : 0 < byteLength text := by
  obtain ⟨c, rest, rfl⟩ := List.exists_cons_of_ne_nil h
  have hc := c.utf8Size_pos
  have hcount : byteLength (c :: rest) = 0 + c.utf8Size + byteLength rest :=
    foldl_utf8Size rest (0 + c.utf8Size)
  omega

theorem byteLength_mono {s t : List Char} (h : s <+: t) : byteLength s ≤ byteLength t := by
  obtain ⟨rest, rfl⟩ := h
  rw [byteLength_append]
  omega

/-- A byte offset cuts a text in one place only. -/
theorem prefix_eq_of_byteLength_eq {s t text : List Char} (hs : s <+: text) (ht : t <+: text)
    (h : byteLength s = byteLength t) : s = t := by
  have hle : ∀ {u v : List Char}, u <+: v → byteLength u = byteLength v → u = v := by
    rintro u _ ⟨rest, rfl⟩ huv
    rw [byteLength_append] at huv
    by_cases hrest : rest = []
    · rw [hrest, List.append_nil]
    · have := byteLength_pos hrest
      omega
  rcases List.prefix_or_prefix_of_prefix hs ht with hst | hts
  · exact hle hst h
  · exact (hle hts h.symm).symm

theorem trimEnd_append_rtakeWhile (text : List Char) :
    trimEnd text ++ text.rtakeWhile isBlank = text :=
  List.rdropWhile_append_rtakeWhile

theorem trimEnd_isPrefix (text : List Char) : trimEnd text <+: text :=
  List.rdropWhile_prefix isBlank text

theorem trimEnd_eq_nil_iff {text : List Char} :
    trimEnd text = [] ↔ ∀ c ∈ text, isBlank c = true :=
  List.rdropWhile_eq_nil_iff

/-- White space at the end of a text is trimmed with what was there before. -/
theorem trimEnd_append_blank (text : List Char) {run : List Char}
    (hrun : ∀ c ∈ run, isBlank c = true) : trimEnd (text ++ run) = trimEnd text := by
  induction run using List.reverseRecOn with
  | nil => rw [List.append_nil]
  | append_singleton run c ih =>
    rw [← List.append_assoc]
    have hc : isBlank c = true := hrun c (by simp)
    have hblank : trimEnd ((text ++ run) ++ [c]) = trimEnd (text ++ run) :=
      List.rdropWhile_concat_pos isBlank _ c hc
    rw [hblank, ih fun d hd => hrun d (List.mem_append_left _ hd)]

end CustomElement.Text

namespace CustomElement.Component

open CustomElement.Text

/-! ## Tags -/

/-- A tag can start after a text that is empty or ends in white space. -/
def MayOpen (before : List Char) : Prop :=
  before = [] ∨ ∃ text c, before = text ++ [c] ∧ isBlank c = true

/-- No tag starts in a text. -/
def TagFree (text : List Char) : Prop :=
  ∀ before after, text = before ++ '<' :: after → ¬ MayOpen before

theorem mayOpen_of_blank {run : List Char} (h : ∀ c ∈ run, isBlank c = true) : MayOpen run := by
  rcases List.eq_nil_or_concat' run with rfl | ⟨text, c, rfl⟩
  · exact .inl rfl
  · exact .inr ⟨text, c, rfl, h c (by simp)⟩

theorem mayOpen_append {run : List Char} (text : List Char) (hne : run ≠ [])
    (h : ∀ c ∈ run, isBlank c = true) : MayOpen (text ++ run) := by
  obtain ⟨run, c, rfl⟩ := (List.eq_nil_or_concat' run).resolve_left hne
  exact .inr ⟨text ++ run, c, by rw [List.append_assoc], h c (by simp)⟩

/-- The two facts that the scan keeps of what it has read decide whether a tag can start. -/
theorem mayOpen_iff (text : List Char) :
    MayOpen text ↔
      ((trimEnd text).isEmpty || !(text.rtakeWhile isBlank).reverse.isEmpty) = true := by
  rcases List.eq_nil_or_concat' text with rfl | ⟨text, c, rfl⟩
  · simp [MayOpen, trimEnd]
  · have hopen : MayOpen (text ++ [c]) ↔ isBlank c = true := by simp [MayOpen]
    rw [hopen]
    by_cases hc : isBlank c = true
    · simp [hc, List.rtakeWhile_concat_pos]
    · have hkept : trimEnd (text ++ [c]) = text ++ [c] :=
        List.rdropWhile_concat_neg isBlank text c hc
      simp [hc, hkept, List.rtakeWhile_concat_neg]

theorem TagFree.mono {s t : List Char} (ht : TagFree t) (h : s <+: t) : TagFree s := by
  obtain ⟨rest, rfl⟩ := h
  rintro before after rfl
  exact ht before (after ++ rest) (by simp)

/-- One more character keeps a text free of tags unless it starts one. -/
theorem tagFree_concat {text : List Char} {c : Char} :
    TagFree (text ++ [c]) ↔ TagFree text ∧ ¬ (c = '<' ∧ MayOpen text) := by
  constructor
  · intro h
    refine ⟨h.mono (List.prefix_append ..), ?_⟩
    rintro ⟨rfl, hopen⟩
    exact h text [] rfl hopen
  · rintro ⟨hfree, hc⟩ before after heq hopen
    rcases List.eq_nil_or_concat' after with rfl | ⟨after, d, rfl⟩
    · obtain ⟨rfl, hlast⟩ := List.append_inj' heq rfl
      exact hc ⟨List.head_eq_of_cons_eq hlast, hopen⟩
    · rw [← List.cons_append, ← List.append_assoc] at heq
      exact hfree before after (List.append_inj' heq rfl).1 hopen

/-- Of two tags in a source, the one with no tag in front of it comes first. -/
theorem prefix_of_tagFree {before after other after' : List Char} (hfree : TagFree before)
    (hopen : MayOpen other) (h : before ++ '<' :: after = other ++ '<' :: after') :
    before <+: other := by
  rcases List.append_eq_append_iff.1 h with ⟨tail, hother, -⟩ | ⟨tail, hbefore, htail⟩
  · exact ⟨tail, hother.symm⟩
  · rcases List.cons_eq_append_iff.1 htail with ⟨rfl, -⟩ | ⟨tail, rfl, -⟩
    · exact ⟨[], by rw [hbefore, List.append_nil, List.append_nil]⟩
    · exact absurd hopen (hfree other tail hbefore)

/-! ## The scan -/

/-- The regions of a source: all of it is script if it has no tag, and else what is in front of the
first tag and of the white space before that. -/
inductive Splits : List Char → Regions → Prop
  | script {source : List Char} (hfree : TagFree source) : Splits source ⟨source, []⟩
  | tag {before : List Char} (hopen : MayOpen before) (hfree : TagFree before)
    (after : List Char) :
    Splits (before ++ '<' :: after) ⟨trimEnd before, before.rtakeWhile isBlank ++ '<' :: after⟩

/-- The regions that the scan ends with, once it has read a text and found no tag in it: it knows the
white space at the end of that text, and whether there is anything else in it. -/
def scanned (read rest : List Char) : Regions :=
  let r := regionsFrom (trimEnd read).isEmpty (read.rtakeWhile isBlank).reverse rest
  ⟨trimEnd read ++ r.script, r.template⟩

theorem scanned_nil (read : List Char) : scanned read [] = ⟨read, []⟩ := by
  simp only [scanned, regionsFrom, List.reverse_reverse, trimEnd_append_rtakeWhile]

theorem scanned_tag {read : List Char} (hopen : MayOpen read) (rest : List Char) :
    scanned read ('<' :: rest) = ⟨trimEnd read, read.rtakeWhile isBlank ++ '<' :: rest⟩ := by
  have htag := (mayOpen_iff read).1 hopen
  simp only [scanned, regionsFrom, htag, BEq.rfl, Bool.and_self, if_true, List.append_nil,
    List.reverse_reverse]

/-- A character that starts no tag is read like those in front of it. -/
theorem scanned_cons {read : List Char} {c : Char} (hc : ¬ (c = '<' ∧ MayOpen read))
    (rest : List Char) : scanned read (c :: rest) = scanned (read ++ [c]) rest := by
  have htag : ¬ (c == '<' && ((trimEnd read).isEmpty ||
      !(read.rtakeWhile isBlank).reverse.isEmpty)) = true := by
    rwa [Bool.and_eq_true, beq_iff_eq, ← mayOpen_iff]
  simp only [scanned]
  rw [regionsFrom, if_neg htag]
  -- White space is kept back until it is known whether a tag follows; all else goes to the script.
  by_cases hblank : isBlank c = true
  · have htrim : trimEnd (read ++ [c]) = trimEnd read :=
      trimEnd_append_blank read (by simpa using hblank)
    rw [if_pos hblank, htrim, List.rtakeWhile_concat_pos isBlank read c hblank,
      List.reverse_append, List.reverse_singleton, List.singleton_append]
  · have htrim : trimEnd (read ++ [c]) = read ++ [c] :=
      List.rdropWhile_concat_neg isBlank read c hblank
    have hempty : (read ++ [c]).isEmpty = false := by simp
    rw [if_neg hblank, htrim, hempty, List.rtakeWhile_concat_neg isBlank read c hblank,
      List.reverse_nil, List.reverse_reverse]
    dsimp only
    rw [← List.append_assoc, trimEnd_append_rtakeWhile, List.append_cons]

theorem splits_scanned {read : List Char} (hread : TagFree read) (rest : List Char) :
    Splits (read ++ rest) (scanned read rest) := by
  induction rest generalizing read with
  | nil =>
    rw [scanned_nil, List.append_nil]
    exact .script hread
  | cons c rest ih =>
    by_cases hc : c = '<' ∧ MayOpen read
    · obtain ⟨rfl, hopen⟩ := hc
      rw [scanned_tag hopen]
      exact .tag hopen hread rest
    · rw [scanned_cons hc, List.append_cons]
      exact ih (tagFree_concat.2 ⟨hread, hc⟩)

theorem splits_ofSource (source : List Char) : Splits source (Regions.ofSource source) := by
  have hnone : TagFree [] := by simp [TagFree]
  exact splits_scanned hnone source

theorem Splits.append_eq {source : List Char} {r : Regions} (h : Splits source r) :
    r.script ++ r.template = source := by
  cases h with
  | script hfree => rw [List.append_nil]
  | @tag before hopen hfree after =>
    rw [← List.append_assoc, trimEnd_append_rtakeWhile]

theorem Splits.tagFree_script {source : List Char} {r : Regions} (h : Splits source r) :
    TagFree r.script := by
  cases h with
  | script hfree => exact hfree
  | @tag before hopen hfree after => exact hfree.mono (trimEnd_isPrefix before)

theorem template_eq_nil_iff {source : List Char} :
    (Regions.ofSource source).template = [] ↔ TagFree source := by
  have hsplits := splits_ofSource source
  generalize Regions.ofSource source = r at hsplits
  cases hsplits with
  | script hfree => exact ⟨fun _ => hfree, fun _ => rfl⟩
  | @tag before hopen hfree after =>
    constructor
    · intro h
      exact absurd h (by simp)
    · intro h
      exact absurd hopen (h before after rfl)

instance (source : List Char) : Decidable (TagFree source) :=
  decidable_of_iff _ template_eq_nil_iff

/-- A source that starts with a tag, but for white space, has no script. -/
theorem offset_of_blank {run : List Char} (hrun : ∀ c ∈ run, isBlank c = true)
    (after : List Char) : (Regions.ofSource (run ++ '<' :: after)).offset = 0 := by
  have hsplits := splits_ofSource (run ++ '<' :: after)
  generalize hsource : run ++ '<' :: after = source at hsplits
  generalize Regions.ofSource source = r at hsplits
  cases hsplits with
  | script hfree => exact absurd (mayOpen_of_blank hrun) (hfree run after hsource.symm)
  | @tag before hopen hfree after' =>
    have hstart := prefix_of_tagFree hfree (mayOpen_of_blank hrun) hsource.symm
    have htrim := trimEnd_eq_nil_iff.2 fun c hc => hrun c (hstart.subset hc)
    simp only [Regions.offset, htrim]
    rfl

/-! ## Byte offsets -/

/-- A tag starts at a byte offset of a source. -/
def TagAt (source : List Char) (k : Nat) : Prop :=
  ∃ before after, source = before ++ '<' :: after ∧ byteLength before = k ∧ MayOpen before

/-- The pattern of a template's start matches at a byte offset of a source: there is a line start or
a run of white space, and then `<`. -/
inductive StartAt : List Char → Nat → Prop
  | line (before after : List Char) : (before = [] ∨ ∃ text, before = text ++ ['\n']) →
    StartAt (before ++ '<' :: after) (byteLength before)
  | run (before run after : List Char) : run ≠ [] → (∀ c ∈ run, isBlank c = true) →
    StartAt (before ++ run ++ '<' :: after) (byteLength before)

theorem TagFree.not_tagAt {source : List Char} (h : TagFree source) (k : Nat) :
    ¬ TagAt source k := by
  rintro ⟨before, after, rfl, -, hopen⟩
  exact h before after rfl hopen

/-- Behind a match of the pattern is a tag, and only white space between the two. -/
theorem StartAt.tag {source : List Char} {k : Nat} (h : StartAt source k) :
    ∃ before run after, source = before ++ run ++ '<' :: after ∧ byteLength before = k ∧
      (∀ c ∈ run, isBlank c = true) ∧ MayOpen (before ++ run) := by
  cases h with
  | line before after hline =>
    refine ⟨before, [], after, by rw [List.append_nil], rfl, by simp, ?_⟩
    rw [List.append_nil]
    rcases hline with rfl | ⟨text, rfl⟩
    · exact .inl rfl
    · exact .inr ⟨text, '\n', rfl, by decide⟩
  | run before run after hne hrun =>
    exact ⟨before, run, after, rfl, rfl, hrun, mayOpen_append before hne hrun⟩

theorem isLeast_tagAt {before : List Char} (hopen : MayOpen before) (hfree : TagFree before)
    (after : List Char) : IsLeast {k | TagAt (before ++ '<' :: after) k} (byteLength before) := by
  refine ⟨⟨before, after, rfl, rfl, hopen⟩, ?_⟩
  rintro k ⟨other, after', heq, rfl, hother⟩
  exact byteLength_mono (prefix_of_tagFree hfree hother heq)

/-- The leftmost match of the pattern starts with the white space in front of the first tag. -/
theorem isLeast_startAt {before : List Char} (hopen : MayOpen before) (hfree : TagFree before)
    (after : List Char) :
    IsLeast {k | StartAt (before ++ '<' :: after) k} (byteLength (trimEnd before)) := by
  constructor
  · have hrun : ∀ c ∈ before.rtakeWhile isBlank, isBlank c = true :=
      fun c hc => List.mem_rtakeWhile_imp hc
    have hsplit := trimEnd_append_rtakeWhile before
    by_cases hne : before.rtakeWhile isBlank = []
    · rw [hne, List.append_nil] at hsplit
      have hstart : before = [] := by
        rcases hopen with hnil | ⟨text, c, rfl, hc⟩
        · exact hnil
        · rw [List.rtakeWhile_concat_pos isBlank text c hc] at hne
          exact absurd hne (by simp)
      rw [hsplit]
      exact .line before after (.inl hstart)
    · have hmatch := StartAt.run (trimEnd before) _ after hne hrun
      rw [hsplit] at hmatch
      exact hmatch
  · rintro k hk
    obtain ⟨start, run, after', heq, rfl, hrun, hother⟩ := StartAt.tag hk
    have hstart := prefix_of_tagFree hfree hother heq
    -- What of `before` lies behind `start` is white space, and is trimmed.
    rcases List.prefix_or_prefix_of_prefix hstart (List.prefix_append start run) with
      hshort | ⟨tail, rfl⟩
    · exact byteLength_mono ((trimEnd_isPrefix before).trans hshort)
    · have htail : ∀ c ∈ tail, isBlank c = true := by
        obtain ⟨rest, hrest⟩ := (List.prefix_append_right_inj start).1 hstart
        exact fun c hc => hrun c (hrest ▸ List.mem_append_left _ hc)
      rw [trimEnd_append_blank start htail]
      exact byteLength_mono (trimEnd_isPrefix start)

/-- Where a source is split. Without a tag all of it is script. Otherwise the script is what precedes
the first tag, less the white space at its end; this is also where the leftmost match of the pattern
starts. Nothing of the source is lost, the script has no template of its own, and the template has
no script. -/
theorem split_at_first_tag (source : List Char) :
    ((∀ k, ¬ TagAt source k) → (Regions.ofSource source).offset = byteLength source) ∧
    (∀ before rest, source = before ++ rest →
      IsLeast {k | TagAt source k} (byteLength before) →
      (Regions.ofSource source).offset = byteLength (trimEnd before)) ∧
    ((∀ k, ¬ StartAt source k) ∧ (Regions.ofSource source).offset = byteLength source ∨
      IsLeast {k | StartAt source k} (Regions.ofSource source).offset) ∧
    (Regions.ofSource source).script ++ (Regions.ofSource source).template = source ∧
    (Regions.ofSource (Regions.ofSource source).script).template = [] ∧
    ((Regions.ofSource source).template ≠ [] →
      (Regions.ofSource (Regions.ofSource source).template).offset = 0) := by
  have hsplits := splits_ofSource source
  generalize Regions.ofSource source = r at hsplits
  refine ⟨?_, ?_, ?_, hsplits.append_eq,
    template_eq_nil_iff.2 hsplits.tagFree_script, ?_⟩
  · intro hnone
    cases hsplits with
    | script hfree => rfl
    | @tag before hopen hfree after =>
      exact absurd (isLeast_tagAt hopen hfree after).1 (hnone _)
  · intro before rest hsource hleast
    cases hsplits with
    | script hfree => exact absurd hleast.1 (hfree.not_tagAt _)
    | @tag first hopen hfree after =>
      have hbytes := hleast.unique (isLeast_tagAt hopen hfree after)
      have hbefore : before = first :=
        prefix_eq_of_byteLength_eq ⟨rest, hsource.symm⟩ (List.prefix_append ..) hbytes
      rw [hbefore]
      rfl
  · cases hsplits with
    | script hfree =>
      refine .inl ⟨fun k hk => ?_, rfl⟩
      obtain ⟨before, run, after, heq, -, -, hopen⟩ := hk.tag
      exact hfree _ after heq hopen
    | @tag first hopen hfree after => exact .inr (isLeast_startAt hopen hfree after)
  · intro hne
    cases hsplits with
    | script hfree => exact absurd rfl hne
    | @tag first hopen hfree after =>
      exact offset_of_blank (fun c hc => List.mem_rtakeWhile_imp hc) after

/-- A source in which the first tag comes after a comparison, a wide space and a line break. -/
def comparedSource : List Char :=
  "a<b;\u2003\n<p> </p>".toList

theorem comparedSource_split :
    IsLeast {k | TagAt comparedSource k} 8 ∧ (Regions.ofSource comparedSource).offset = 4 ∧
      (Regions.ofSource (Regions.ofSource comparedSource).template).offset = 0 := by
  have hopen : MayOpen "a<b;\u2003\n".toList := .inr ⟨"a<b;\u2003".toList, '\n', rfl, by decide⟩
  have hleast : IsLeast {k | TagAt comparedSource k} 8 :=
    isLeast_tagAt hopen (by decide) "p> </p>".toList
  obtain ⟨-, hoffset, -, -, -, hagain⟩ := split_at_first_tag comparedSource
  exact ⟨hleast, hoffset "a<b;\u2003\n".toList "<p> </p>".toList rfl hleast, hagain (by decide)⟩

end CustomElement.Component
