import CustomElement.Proofs.Template.Pieces

/-!
# Nesting

What is open at a place of a source is a stack: braces, strings, templates and substitutions close in
the order in which they were opened last (`nesting`). The search for the brace that closes a binding
keeps no stack. It knows one string, one template and two counts, and inside of a template it sees
nothing but `$\x7b`, closing braces and backticks.

The two agree as long as the search is not misled inside of a substitution (`quiet`): there `$\x7b` must
open a substitution, and no backtick may come after a closing brace that closes none. Each step keeps
them in agreement (`Agrees.step`), so the search ends where a source that is nested ends
(`matchBrace_nested`).
-/

namespace CustomElement.Template

/-- Something that is open at a place of a source. -/
inductive Frame where
  | brace
  | string (quote : Char)
  | template
  /-- The braces of a substitution, right inside of its template. -/
  | substitution
deriving DecidableEq, Repr

/-- What a character of code opens. -/
def opened? (c : Char) : Option Frame :=
  if c == '"' || c == '\'' then some (.string c)
  else if c == '`' then some .template
  else if c == '\x7b' then some .brace
  else none

/-- What is open after a character that is not escaped, innermost first. None if the character closes a
brace that is not open. -/
def step : List Frame → Char → Option (List Frame)
  | .string quote :: outer, c => some (if c == quote then outer else .string quote :: outer)
  | .template :: outer, c => some (if c == '`' then outer else .template :: outer)
  | stack, c =>
    match opened? c with
    | some f => some (f :: stack)
    | none => if c == '\x7d' then stack.tail? else some stack

/-- What is open after a text. -/
def nesting : List Frame → List Char → Option (List Frame)
  | stack, [] => some stack
  | _, ['\\'] => none
  | stack, '\\' :: _ :: rest => nesting stack rest
  | .template :: outer, '$' :: '\x7b' :: rest => nesting (.substitution :: .template :: outer) rest
  | stack, c :: rest => (step stack c).bind fun after => nesting after rest

/-- Whether a place is inside of a substitution. -/
def inSubstitution (stack : List Frame) : Bool :=
  stack.contains .substitution

/-- Whether a character closes a substitution. -/
def closes (stack : List Frame) (c : Char) : Bool :=
  c == '\x7d' && stack.head? == some .substitution

/-- Whether a closing brace that closes no substitution has been read inside of the outermost
substitution that is open. -/
def strayAfter (stray : Bool) (stack after : List Frame) (c : Char) : Bool :=
  inSubstitution after && (stray || (c == '\x7d' && !closes stack c))

/-- Whether a character may stand in a substitution, by the text after it. -/
def allowed (stray : Bool) (c : Char) (rest : List Char) : Bool :=
  !(c == '$' && rest.head? == some '\x7b') && !(c == '`' && stray)

/-- Whether the search for a closing brace reads a text as it is nested. -/
def quiet : Bool → List Frame → List Char → Bool
  | _, _, [] => true
  | _, _, ['\\'] => true
  | stray, stack, '\\' :: _ :: rest => quiet stray stack rest
  | stray, .template :: outer, '$' :: '\x7b' :: rest =>
    quiet stray (.substitution :: .template :: outer) rest
  | stray, stack, c :: rest =>
    (!inSubstitution stack || allowed stray c rest) &&
      match step stack c with
      | none => true
      | some after => quiet (strayAfter stray stack after c) after rest

/-- The search for a closing brace stands where something is open. -/
inductive Agrees : Bool → List Frame → BracePlace → Nat → Prop
  | code {stack : List Frame} (k : Nat) (hstack : stack = .replicate k .brace) :
      Agrees false stack .code (k + 1)
  | string {stack : List Frame} (quote : Char) (k : Nat)
      (hstack : stack = .string quote :: .replicate k .brace) : Agrees false stack (.string quote) (k + 1)
  | text {stack : List Frame} (k : Nat) (hstack : stack = .template :: .replicate k .brace) :
      Agrees false stack (.template 0) (k + 1)
  | inside {stray : Bool} {stack : List Frame} (inner : List Frame) (n k : Nat)
      (hstack : stack = inner ++ .substitution :: .template :: .replicate k .brace)
      (hcount : n ≤ inner.count .substitution + 1)
      (hcalm : stray = false → n = inner.count .substitution + 1) :
      Agrees stray stack (.template n) (k + 1)

/-- Whether the next character is one of code. -/
def inCode : List Frame → Bool
  | .string _ :: _ | .template :: _ => false
  | _ => true

theorem step_code {stack : List Frame} (h : inCode stack = true) (c : Char) :
    step stack c = match opened? c with
      | some f => some (f :: stack)
      | none => if c == '\x7d' then stack.tail? else some stack := by
  unfold step
  split
  · cases h
  · cases h
  · rfl

theorem opened?_spec {c : Char} {f : Frame} (h : opened? c = some f) : c ≠ '\x7d' ∧ f ≠ .substitution := by
  unfold opened? at h
  constructor
  · rintro rfl
    cases h
  · rintro rfl
    repeat' split at h
    all_goals cases h

/-- Inside of a substitution a character of code closes it, or changes what is open in it at the top. -/
theorem step_code_inside {inner outer after : List Frame} {c : Char}
    (hcode : inCode (inner ++ .substitution :: outer) = true)
    (h : step (inner ++ .substitution :: outer) c = some after) :
    (inner = [] ∧ c = '\x7d' ∧ after = outer) ∨
      ∃ inner', after = inner' ++ .substitution :: outer ∧
        inner.count .substitution =
          inner'.count .substitution + (closes (inner ++ .substitution :: outer) c).toNat := by
  rw [step_code hcode] at h
  cases hopen : opened? c with
  | some f =>
    obtain ⟨hc, hf⟩ := opened?_spec hopen
    rw [hopen] at h
    cases h
    refine .inr ⟨f :: inner, rfl, ?_⟩
    rw [List.count_cons_of_ne hf, closes, beq_false_of_ne hc]
    rfl
  | none =>
    rw [hopen] at h
    by_cases hc : c = '\x7d'
    · rw [hc] at h ⊢
      cases inner with
      | nil =>
        cases h
        exact .inl ⟨rfl, rfl, rfl⟩
      | cons f inner =>
        cases h
        refine .inr ⟨inner, rfl, ?_⟩
        rw [List.count_cons, closes, beq_self_eq_true, Bool.true_and]
        cases f <;> rfl
    · simp only [beq_iff_eq, hc, if_false] at h
      cases h
      refine .inr ⟨inner, rfl, ?_⟩
      rw [closes, beq_false_of_ne hc]
      rfl

/-- Inside of a substitution a character closes it, or changes what is open in it at the top. -/
theorem step_inside {inner outer after : List Frame} {c : Char}
    (h : step (inner ++ .substitution :: outer) c = some after) :
    (inner = [] ∧ c = '\x7d' ∧ after = outer) ∨
      ∃ inner', after = inner' ++ .substitution :: outer ∧
        inner.count .substitution =
          inner'.count .substitution + (closes (inner ++ .substitution :: outer) c).toNat := by
  -- a string or a text can only close
  have hclosed : ∀ {f : Frame} {inner : List Frame} {p : Prop} [Decidable p], f ≠ .substitution →
      some (if p then inner ++ .substitution :: outer else f :: (inner ++ .substitution :: outer)) =
        some after →
      ∃ inner', after = inner' ++ .substitution :: outer ∧
        (f :: inner).count .substitution =
          inner'.count .substitution + (closes (f :: inner ++ .substitution :: outer) c).toNat := by
    intro f inner p _ hf h
    have hnone : closes (f :: inner ++ .substitution :: outer) c = false := by
      simp [closes, hf]
    rw [hnone, ← Option.some.inj h]
    split
    · exact ⟨inner, rfl, List.count_cons_of_ne hf⟩
    · exact ⟨f :: inner, rfl, rfl⟩
  cases inner with
  | nil => exact step_code_inside rfl h
  | cons f inner =>
    cases f with
    | brace => exact step_code_inside rfl h
    | substitution => exact step_code_inside rfl h
    | string quote => exact .inr (hclosed (by simp) h)
    | template => exact .inr (hclosed (by decide) h)

namespace Agrees

variable {stray : Bool} {stack after : List Frame} {place : BracePlace} {depth : Nat} {c : Char}

theorem inSubstitution_braces (k : Nat) : inSubstitution (.replicate k .brace) = false := by
  simp [inSubstitution]

/-- One step inside of a substitution. -/
theorem step_template {inner : List Frame} {n k : Nat} {rest : List Char} (hc : c ≠ '\\')
    (hcount : n ≤ inner.count .substitution + 1) (hcalm : stray = false → n = inner.count .substitution + 1)
    (hallowed : allowed stray c rest = true)
    (hstep : step (inner ++ .substitution :: .template :: .replicate k .brace) c = some after) :
    ∃ place' depth',
      Agrees (strayAfter stray (inner ++ .substitution :: .template :: .replicate k .brace) after c) after
          place' depth' ∧
        matchBrace (.template n) (k + 1) (c :: rest) =
          (matchBrace place' depth' rest).map fun found => (c :: found.1, found.2) := by
  simp only [allowed, Bool.and_eq_true, Bool.not_eq_true', Bool.and_eq_false_iff,
    beq_eq_false_iff_ne] at hallowed
  obtain ⟨hopen, hquiet⟩ := hallowed
  have hopen : c = '$' → rest.head? ≠ some '\x7b' := fun hd => hopen.resolve_left fun h => h hd
  have htick : (c == '`' && n == 0) = false := by
    by_cases hct : c = '`'
    · have := hcalm (hquiet.resolve_left fun h => h hct)
      simp [this]
    · simp [hct]
  rw [matchBrace_text hc _ _ hopen, htick, if_neg (by decide)]
  rcases step_inside hstep with ⟨rfl, rfl, rfl⟩ | ⟨inner', rfl, hinner⟩
  · have hzero : n - 1 = 0 := Nat.sub_eq_zero_of_le hcount
    have hstray : strayAfter stray ([] ++ .substitution :: .template :: .replicate k .brace)
        (.template :: .replicate k .brace) '\x7d' = false := by
      simp [strayAfter, inSubstitution]
    rw [if_pos (beq_self_eq_true _), hzero, hstray]
    exact ⟨_, _, .text k rfl, rfl⟩
  · have hin : inSubstitution (inner' ++ .substitution :: .template :: .replicate k .brace) = true := by
      simp [inSubstitution]
    simp only [strayAfter, hin, Bool.true_and]
    by_cases hclose : c = '\x7d'
    · subst hclose
      have hone := Bool.toNat_le (closes (inner ++ .substitution :: .template :: .replicate k .brace) '\x7d')
      rw [if_pos (beq_self_eq_true _)]
      refine ⟨_, _, .inside inner' (n - 1) k rfl (by omega) fun h => ?_, rfl⟩
      rw [Bool.or_eq_false_iff, beq_self_eq_true, Bool.true_and, Bool.not_eq_false'] at h
      have hn := hcalm h.1
      rw [hinner, h.2, Bool.toNat_true] at hn
      omega
    · have hnone : closes (inner ++ .substitution :: .template :: .replicate k .brace) c = false := by
        simp [closes, hclose]
      rw [hnone, Bool.toNat_false, Nat.add_zero] at hinner
      rw [if_neg (by simpa using hclose)]
      refine ⟨_, _, .inside inner' n k rfl (hinner ▸ hcount) fun h => ?_, rfl⟩
      rw [Bool.or_eq_false_iff] at h
      rw [hcalm h.1, hinner]

theorem inSubstitution_cons {f : Frame} (hf : f ≠ .substitution) (k : Nat) :
    inSubstitution (f :: .replicate k .brace) = false := by
  simp [inSubstitution, hf.symm]

theorem strayAfter_of_not {stray : Bool} {stack after : List Frame} (h : inSubstitution after = false)
    (c : Char) :
    strayAfter stray stack after c = false := by
  rw [strayAfter, h, Bool.false_and]

/-- One step in code outside of templates. -/
theorem step_braces {k : Nat} {rest : List Char} (hc : c ≠ '\\')
    (hstep : Template.step (.replicate k .brace) c = some after) :
    ∃ place' depth', Agrees (strayAfter false (.replicate k .brace) after c) after place' depth' ∧
      matchBrace .code (k + 1) (c :: rest) =
        (matchBrace place' depth' rest).map fun found => (c :: found.1, found.2) := by
  have hcode : inCode (.replicate k .brace) = true := by cases k <;> rfl
  rw [step_code hcode, opened?] at hstep
  by_cases hquote : (c == '"' || c == '\'') = true
  · rw [if_pos hquote] at hstep
    cases hstep
    have hbrace : c ≠ '\x7b' ∧ c ≠ '\x7d' := by
      constructor <;> rintro rfl <;> cases hquote
    rw [strayAfter_of_not (inSubstitution_cons (by simp) k),
      matchBrace_code hc (fun h => absurd h hbrace.2), if_pos hquote, if_neg (by simpa using hbrace.1), if_neg (by simpa using hbrace.2)]
    exact ⟨_, _, .string c k rfl, rfl⟩
  rw [if_neg hquote] at hstep
  by_cases htick : c = '`'
  · subst htick
    cases hstep
    rw [strayAfter_of_not (inSubstitution_cons (by decide) k), matchBrace_code hc (by simp)]
    exact ⟨_, _, .text k rfl, rfl⟩
  rw [if_neg (by simpa using htick)] at hstep
  by_cases hopen : c = '\x7b'
  · subst hopen
    cases hstep
    rw [strayAfter_of_not (inSubstitution_cons (by decide) k), matchBrace_code hc (by simp)]
    exact ⟨_, _, .code (k + 1) rfl, rfl⟩
  rw [if_neg (by simpa using hopen)] at hstep
  by_cases hclose : c = '\x7d'
  · subst hclose
    cases k with
    | zero => cases hstep
    | succ k =>
      cases hstep
      rw [strayAfter_of_not (inSubstitution_braces k), matchBrace_code hc (by simp)]
      exact ⟨_, _, .code k rfl, rfl⟩
  · simp only [beq_iff_eq, hclose, if_false] at hstep
    cases hstep
    rw [strayAfter_of_not (inSubstitution_braces k), matchBrace_code hc (fun h => absurd h hclose),
      if_neg hquote, if_neg (by simpa using htick), if_neg (by simpa using hopen), if_neg (by simpa using hclose)]
    exact ⟨_, _, .code k rfl, rfl⟩

/-- Each character keeps the search and what is open in agreement. -/
theorem step {rest : List Char} (h : Agrees stray stack place depth) (hc : c ≠ '\\')
    (hopen : stack.head? = some .template → c = '$' → rest.head? ≠ some '\x7b')
    (hallowed : inSubstitution stack = true → allowed stray c rest = true)
    (hstep : Template.step stack c = some after) :
    ∃ place' depth', Agrees (strayAfter stray stack after c) after place' depth' ∧
      matchBrace place depth (c :: rest) =
        (matchBrace place' depth' rest).map fun found => (c :: found.1, found.2) := by
  cases h with
  | code k hstack =>
    subst hstack
    exact step_braces hc hstep
  | string quote k hstack =>
    subst hstack
    cases hstep
    rw [matchBrace_string hc]
    by_cases hquote : c = quote
    · rw [if_pos (by simpa using hquote), if_pos (by simpa using hquote),
        strayAfter_of_not (inSubstitution_braces k)]
      exact ⟨_, _, .code k rfl, rfl⟩
    · rw [if_neg (by simpa using hquote), if_neg (by simpa using hquote),
        strayAfter_of_not (inSubstitution_cons (by simp) k)]
      exact ⟨_, _, .string quote k rfl, rfl⟩
  | text k hstack =>
    subst hstack
    cases hstep
    rw [matchBrace_text hc _ _ (hopen rfl)]
    by_cases htick : c = '`'
    · rw [if_pos (by simpa using htick), if_pos (by simpa using htick),
        strayAfter_of_not (inSubstitution_braces k)]
      exact ⟨_, _, .code k rfl, rfl⟩
    · rw [if_neg (by simpa using htick), if_neg (by simpa using htick), ite_self,
        strayAfter_of_not (inSubstitution_cons (by decide) k)]
      exact ⟨_, _, .text k rfl, rfl⟩
  | inside inner n k hstack hcount hcalm =>
    subst hstack
    exact step_template hc hcount hcalm (hallowed (by simp [inSubstitution])) hstep

/-- A substitution that opens keeps them in agreement. -/
theorem step_open {outer : List Frame} (h : Agrees stray (.template :: outer) place depth)
    (rest : List Char) :
    ∃ place' depth', Agrees stray (.substitution :: .template :: outer) place' depth' ∧
      matchBrace place depth ('$' :: '\x7b' :: rest) =
        (matchBrace place' depth' rest).map fun found => ('$' :: '\x7b' :: found.1, found.2) := by
  cases h with
  | code k hstack => cases k <;> cases hstack
  | string quote k hstack => cases hstack
  | text k hstack =>
    cases hstack
    exact ⟨_, _, .inside [] 1 k rfl (Nat.le_refl _) fun _ => rfl, rfl⟩
  | inside inner n k hstack hcount hcalm =>
    cases inner with
    | nil => cases hstack
    | cons f inner =>
      cases hstack
      refine ⟨_, _, .inside (.substitution :: .template :: inner) (n + 1) k rfl ?_ fun h => ?_, rfl⟩
      · rw [List.count_cons_self]
        exact Nat.succ_le_succ hcount
      · rw [List.count_cons_self, hcalm h]

end Agrees

/-- The search for a closing brace passes what is nested. -/
theorem matchBrace_of_agrees {stray : Bool} {stack : List Frame} {text : List Char}
    (hnested : nesting stack text = some []) (hquiet : quiet stray stack text = true) {place : BracePlace}
    {depth : Nat} (h : Agrees stray stack place depth) (rest : List Char) :
    matchBrace place depth (text ++ '\x7d' :: rest) = some (text, rest) := by
  fun_induction nesting stack text generalizing stray place depth with
  | case1 stack =>
    cases hnested
    cases h with
    | code k hstack =>
      cases k with
      | zero => rfl
      | succ k => cases hstack
    | string quote k hstack => cases hstack
    | text k hstack => cases hstack
    | inside inner n k hstack => cases inner <;> cases hstack
  | case2 => cases hnested
  | case3 stack c text ih =>
    rw [List.cons_append, List.cons_append, matchBrace, ih hnested hquiet h]
    rfl
  | case4 outer text ih =>
    obtain ⟨place', depth', hafter, hmatch⟩ := h.step_open (text ++ '\x7d' :: rest)
    rw [List.cons_append, List.cons_append, hmatch, ih hnested hquiet hafter]
    rfl
  | case5 stack c text hend hescape hopen ih =>
    obtain ⟨after, hstep, hnested⟩ := Option.bind_eq_some_iff.1 hnested
    rw [quiet.eq_5 _ _ _ _ hend hescape hopen, hstep, Bool.and_eq_true] at hquiet
    -- the closing brace after the text opens no substitution
    have hhead : ((text ++ '\x7d' :: rest).head? == some '\x7b') = (text.head? == some '\x7b') := by
      cases text <;> rfl
    have htext : stack.head? = some .template → c = '$' → (text ++ '\x7d' :: rest).head? ≠ some '\x7b' := by
      intro hstack hdollar hbrace
      obtain ⟨outer, rfl⟩ := List.head?_eq_some_iff.1 hstack
      rw [← beq_iff_eq, hhead, beq_iff_eq] at hbrace
      obtain ⟨text, rfl⟩ := List.head?_eq_some_iff.1 hbrace
      exact hopen outer text rfl hdollar rfl
    have hallowed : inSubstitution stack = true → allowed stray c (text ++ '\x7d' :: rest) = true := by
      intro hin
      rw [allowed, hhead, ← allowed]
      simpa [hin] using hquiet.1
    obtain ⟨place', depth', hafter, hmatch⟩ := h.step (ne_backslash hend hescape) htext hallowed hstep
    rw [List.cons_append, hmatch, ih after hnested hquiet.2 hafter]
    rfl

/-- The braces of a binding are matched at the end of its source, whatever follows, if the source is nested
and quiet. -/
theorem matchBrace_nested {source : List Char} (hnested : nesting [] source = some [])
    (hquiet : quiet false [] source = true) (rest : List Char) :
    matchBrace .code 1 (source ++ '\x7d' :: rest) = some (source, rest) :=
  matchBrace_of_agrees hnested hquiet (.code 0 rfl) rest

/-- A source with braces in strings and texts, templates in templates, and an object in a substitution. -/
def tangledSource : List Char :=
  "f(\x7ba: '\x7d\\''\x7d, `x$\x7bg(`y$\x7bb\x7d\\``)\x7d\x7d`, `$\x7b\x7bc: '\x7b'\x7d.c\x7d`)".toList

theorem tangledSource_matched :
    nesting [] tangledSource = some [] ∧ quiet false [] tangledSource = true ∧
      matchBrace .code 1 (tangledSource ++ '\x7d' :: "</p>\x7d".toList) =
        some (tangledSource, "</p>\x7d".toList) := by
  have hnested : nesting [] tangledSource = some [] := by decide +kernel
  have hquiet : quiet false [] tangledSource = true := by decide +kernel
  exact ⟨hnested, hquiet, matchBrace_nested hnested hquiet _⟩

/-- A closing brace in the text of a template inside of a substitution cuts the source short. -/
example : nesting [] "`$\x7b`\x7d`\x7d`".toList = some [] ∧
    matchBrace .code 1 ("`$\x7b`\x7d`\x7d`".toList ++ ['\x7d']) =
      some ("`$\x7b`\x7d`".toList, ['`', '\x7d']) := by
  decide +kernel

end CustomElement.Template
