import CustomElement.Script.Types

/-!
# Runs of readers between places

A place is a condition on cursors. `Leads P r a Q` says that the reader gives `a` from every cursor in `P`
and leaves it in `Q`, and `Refuses P r` that it fails from every cursor in `P`. What a reader does mostly
depends on the token only: `Shows P t` says that all cursors in `P` stand on the token, and
`Passes P t Q` that moreover moving on leads to `Q`. Where it does not matter whether a reader fails,
`Ends P r Q` says where it leaves the cursor if it does not.

The laws follow the ways in which readers are put together. They do not say how a place is described, by
the lexemes ahead or by the text ahead; each description brings its own `Passes`.
-/

namespace CustomElement.Script

/-! ## Tokens -/

namespace Token

/-- Whether the token is the punctuator. -/
def isPunct (t : Token) (symbol : String) : Bool :=
  match t with
  | .punct p => p == symbol
  | _ => false

/-- Whether the token is one of the punctuators. -/
def isAnyPunct (t : Token) (symbols : List String) : Bool :=
  match t with
  | .punct p => symbols.contains p
  | _ => false

/-- Whether the token is the word. -/
def isWord (t : Token) (name : String) : Bool :=
  match t with
  | .word w _ => w == name
  | _ => false

/-- Whether the token is a word with escapes. -/
def isEscaped (t : Token) : Bool :=
  match t with
  | .word _ escaped => escaped
  | _ => false

/-- A token with a property that the punctuator lacks is another one. -/
theorem isPunct_eq_false {t : Token} {p : Token → Bool} {symbol : String} (h : p t = true)
    (hsymbol : p (.punct symbol) = false) : t.isPunct symbol = false := by
  cases t with
  | punct other =>
    refine beq_eq_false_iff_ne.2 ?_
    rintro rfl
    rw [hsymbol] at h
    cases h
  | _ => rfl

theorem isAnyPunct_eq_false {t : Token} {p : Token → Bool} {symbols : List String}
    (h : p t = true) (hsymbols : ∀ symbol ∈ symbols, p (.punct symbol) = false) :
    t.isAnyPunct symbols = false := by
  cases t with
  | punct other =>
    refine Bool.eq_false_iff.2 fun hother => ?_
    rw [hsymbols other (List.contains_iff_mem.1 hother)] at h
    cases h
  | _ => rfl

end Token

/-! ## Places -/

/-- A reader gives `a` from every cursor in `P`, and leaves it in `Q`. -/
def Leads {α : Type} (P : Cursor → Prop) (r : Reader α) (a : α) (Q : Cursor → Prop) : Prop :=
  ∀ c, P c → ∃ c', r c = some (a, c') ∧ Q c'

/-- A reader fails from every cursor in `P`. -/
def Refuses {α : Type} (P : Cursor → Prop) (r : Reader α) : Prop :=
  ∀ c, P c → r c = none

/-- All cursors in `P` stand on the token. -/
def Shows (P : Cursor → Prop) (t : Token) : Prop :=
  ∀ c, P c → c.token = t

/-- All cursors in `P` stand on the token, and moving on leads to `Q`. -/
structure Passes (P : Cursor → Prop) (t : Token) (Q : Cursor → Prop) : Prop where
  shows : Shows P t
  next : ∀ c, P c → Q c.next

theorem Passes.mono {P Q Q' : Cursor → Prop} {t : Token} (h : Passes P t Q) (hQ : ∀ c, Q c → Q' c) :
    Passes P t Q' :=
  ⟨h.shows, fun c hc => hQ _ (h.next c hc)⟩

variable {α β : Type} {P P₁ Q : Cursor → Prop} {r : Reader α} {k : α → Reader β} {a : α} {b : β}
  {t : Token}

namespace Leads

theorem pure : Leads P (pure a) a P :=
  fun c hc => ⟨c, rfl, hc⟩

theorem bind (h : Leads P r a P₁) (hk : Leads P₁ (k a) b Q) : Leads P (r >>= k) b Q := by
  intro c hc
  obtain ⟨c₁, hr, hc₁⟩ := h c hc
  obtain ⟨c₂, hk, hc₂⟩ := hk c₁ hc₁
  refine ⟨c₂, ?_, hc₂⟩
  change (r c).bind (fun x => k x.1 x.2) = some (b, c₂)
  rw [hr]
  exact hk

theorem mono {P' Q' : Cursor → Prop} (h : Leads P r a Q) (hP : ∀ c, P' c → P c)
    (hQ : ∀ c, Q c → Q' c) : Leads P' r a Q' := by
  intro c hc
  obtain ⟨c', hr, hc'⟩ := h c (hP c hc)
  exact ⟨c', hr, hQ c' hc'⟩

/-- Where a reader that is only tried leaves the cursor does not matter. -/
theorem forget (h : Leads P r a Q) : Leads P r a fun _ => True :=
  h.mono (fun _ hc => hc) fun _ _ => trivial

theorem pos {p : Prop} [Decidable p] {r' : Reader α} (hp : p) (h : Leads P r a Q) :
    Leads P (if p then r else r') a Q := by
  rwa [if_pos hp]

theorem neg {p : Bool} {r' : Reader α} (hp : p = false) (h : Leads P r' a Q) :
    Leads P (if p = true then r else r') a Q := by
  rwa [if_neg (Bool.eq_false_iff.1 hp)]

theorem ite {p : Prop} [Decidable p] {r' : Reader α} (h : p → Leads P r a Q)
    (h' : ¬p → Leads P r' a Q) : Leads P (if p then r else r') a Q := by
  by_cases hp : p
  · exact .pos hp (h hp)
  · rw [if_neg hp]
    exact h' hp

/-- A reader that looks at the cursor. -/
theorem get {k : Cursor → Reader β} (h : ∀ c, P c → Leads P (k c) b Q) :
    Leads P (MonadState.get >>= k) b Q :=
  fun c hc => h c hc c hc

/-- Where a line ends does not matter. -/
theorem anyNewLine {k : Bool → Reader β} (h : ∀ newline, Leads P (k newline) b Q) :
    Leads P (Reader.onNewLine >>= k) b Q :=
  fun c hc => h _ c hc

/-! ## Looking at the token -/

theorem atPunct (h : Shows P t) (symbol : String) :
    Leads P (Reader.atPunct symbol) (t.isPunct symbol) P := by
  refine .get fun c hc => ?_
  rw [h c hc]
  cases t <;> exact .pure

theorem atAnyPunct (h : Shows P t) (symbols : List String) :
    Leads P (Reader.atAnyPunct symbols) (t.isAnyPunct symbols) P := by
  refine .get fun c hc => ?_
  rw [h c hc]
  cases t <;> exact .pure

theorem atWord (h : Shows P t) (name : String) :
    Leads P (Reader.atWord name) (t.isWord name) P := by
  refine .get fun c hc => ?_
  rw [h c hc]
  cases t <;> exact .pure

/-! ## Moving on -/

theorem advance (h : Passes P t Q) : Leads P Reader.advance () Q :=
  fun c hc => ⟨c.next, rfl, h.next c hc⟩

theorem faultIf {condition : Bool} (h : condition = false) :
    Leads P (Reader.faultIf condition) () P := by
  subst h
  exact .pure

theorem bump (h : Passes P t Q) (hplain : t.isEscaped = false) : Leads P Reader.bump () Q := by
  refine .get fun c hc => ?_
  rw [h.shows c hc]
  cases t with
  | word w escaped => exact .bind (.faultIf hplain) (.advance h)
  | _ => exact .advance h

theorem eat (h : Passes P t Q) {symbol : String} (hs : t.isPunct symbol = true) :
    Leads P (Reader.eat symbol) true Q :=
  .bind (.atPunct h.shows symbol) (.pos hs (.bind (.advance h) .pure))

theorem eat_not (h : Shows P t) {symbol : String} (hs : t.isPunct symbol = false) :
    Leads P (Reader.eat symbol) false P :=
  .bind (.atPunct h symbol) (.neg hs .pure)

theorem expect (h : Passes P t Q) {symbol : String} (hs : t.isPunct symbol = true) :
    Leads P (Reader.expect symbol) () Q :=
  .bind (.atPunct h.shows symbol) (.pos hs (.advance h))

theorem eatWord (h : Passes P t Q) {name : String} (hw : t.isWord name = true)
    (hplain : t.isEscaped = false) : Leads P (Reader.eatWord name) true Q :=
  .bind (.atWord h.shows name) (.pos hw (.bind (.bump h hplain) .pure))

theorem eatWord_not (h : Shows P t) {name : String} (hw : t.isWord name = false) :
    Leads P (Reader.eatWord name) false P :=
  .bind (.atWord h name) (.neg hw .pure)

theorem expectWord (h : Passes P t Q) {name : String} (hw : t.isWord name = true)
    (hplain : t.isEscaped = false) : Leads P (Reader.expectWord name) () Q :=
  .bind (.atWord h.shows name) (.pos hw (.bump h hplain))

end Leads

namespace Refuses

theorem fail : Refuses P (Reader.fail (α := α)) :=
  fun _ _ => rfl

theorem bind (h : Refuses P r) : Refuses P (r >>= k) := by
  intro c hc
  change (r c).bind (fun x => k x.1 x.2) = none
  rw [h c hc]
  rfl

theorem after (h : Leads P r a P₁) (hk : Refuses P₁ (k a)) : Refuses P (r >>= k) := by
  intro c hc
  obtain ⟨c₁, hr, hc₁⟩ := h c hc
  change (r c).bind (fun x => k x.1 x.2) = none
  rw [hr]
  exact hk c₁ hc₁

theorem get {k : Cursor → Reader β} (h : ∀ c, P c → Refuses P (k c)) :
    Refuses P (MonadState.get >>= k) :=
  fun c hc => h c hc c hc

/-- A reader that fails whether a line starts here or not. -/
theorem anyNewLine {k : Bool → Reader β} (h : ∀ newline, Refuses P (k newline)) :
    Refuses P (Reader.onNewLine >>= k) :=
  fun c hc => h c.newline c hc

theorem pos {p : Prop} [Decidable p] {r' : Reader α} (hp : p) (h : Refuses P r) :
    Refuses P (if p then r else r') := by
  rwa [if_pos hp]

theorem neg {p : Bool} {r' : Reader α} (hp : p = false) (h : Refuses P r') :
    Refuses P (if p = true then r else r') := by
  rwa [if_neg (Bool.eq_false_iff.1 hp)]

theorem expect (h : Shows P t) {symbol : String} (hs : t.isPunct symbol = false) :
    Refuses P (Reader.expect symbol) :=
  .after (.atPunct h symbol) (.neg hs .fail)

theorem expectWord (h : Shows P t) {name : String} (hw : t.isWord name = false) :
    Refuses P (Reader.expectWord name) :=
  .after (.atWord h name) (.neg hw .fail)

end Refuses

namespace Leads

/-! ## Trying readers -/

theorem lookahead (h : Leads P r a Q) : Leads P (Reader.lookahead r) (some a) P := by
  intro c hc
  obtain ⟨c', hr, -⟩ := h c hc
  refine ⟨c, ?_, hc⟩
  rw [Reader.lookahead, hr]
  rfl

theorem lookahead_none (h : Refuses P r) : Leads P (Reader.lookahead r) none P := by
  intro c hc
  refine ⟨c, ?_, hc⟩
  rw [Reader.lookahead, h c hc]
  rfl

theorem looksLike {r : Reader Bool} {holds : Bool} (h : Leads P r holds Q) :
    Leads P (Reader.looksLike r) holds P := by
  refine h.lookahead.bind ?_
  cases holds <;> exact .pure

theorem looksLike_not {r : Reader Bool} (h : Refuses P r) : Leads P (Reader.looksLike r) false P :=
  (lookahead_none h).bind .pure

theorem attempt_none (h : Refuses P r) : Leads P (Reader.attempt r) none P := by
  intro c hc
  refine ⟨c, ?_, hc⟩
  rw [Reader.attempt, h c hc]

/-! ## Loops -/

theorem many_nil {r : Reader (Option α)} (h : Leads P r none Q) (limit : Nat) :
    Leads P (Reader.many r (limit + 1)) [] Q :=
  h.bind .pure

theorem separated_nil (h : Shows P t) {close separator : String} (hclose : t.isPunct close = true)
    (limit : Nat) : Leads P (Reader.separated close separator r (limit + 1)) ([], false) P :=
  .bind (.atPunct h close) (.pos hclose .pure)

theorem separated_one (hopen : Shows P t) {close separator : String}
    (ht : t.isPunct close = false) (h : Leads P r a Q) {u : Token} (hq : Shows Q u)
    (hu : u.isPunct close = true) (limit : Nat) :
    Leads P (Reader.separated close separator r (limit + 1)) ([a], false) Q :=
  .bind (.atPunct hopen close) (.neg ht (h.bind (.bind (.atPunct hq close) (.pos hu .pure))))

theorem separated_cons {P₂ : Cursor → Prop} {close separator : String} {as : List α}
    {trailing : Bool} {limit : Nat} (hopen : Shows P t) (ht : t.isPunct close = false)
    (h : Leads P r a P₁) {u : Token} (hsep : Passes P₁ u P₂) (hmore : u.isPunct close = false)
    (hu : u.isPunct separator = true) {v : Token} (hnext : Shows P₂ v) (hv : v.isPunct close = false)
    (hrest : Leads P₂ (Reader.separated close separator r limit) (as, trailing) Q) :
    Leads P (Reader.separated close separator r (limit + 1)) (a :: as, trailing) Q :=
  .bind (.atPunct hopen close) <| .neg ht <| h.bind <| .bind (.atPunct hsep.shows close) <|
    .neg hmore <| .bind (.expect hsep hu) <| .bind (.atPunct hnext close) <| .neg hv <|
      hrest.bind .pure

end Leads

/-! ## Readers that may fail -/

/-- If a reader does not fail from a cursor in `P`, its result and its last cursor fulfil `Q`. -/
def Ends {α : Type} (P : Cursor → Prop) (r : Reader α) (Q : α → Cursor → Prop) : Prop :=
  ∀ c, P c → ∀ a c', r c = some (a, c') → Q a c'

/-- A reader that leaves the cursor where it is. -/
def Looks {α : Type} (r : Reader α) : Prop :=
  ∀ c a c', r c = some (a, c') → c' = c

namespace Looks

theorem pure : Looks (pure a : Reader α) := by
  rintro c b c' ⟨⟩
  rfl

theorem bind (h : Looks r) (hk : ∀ a, Looks (k a)) : Looks (r >>= k) := by
  intro c b c' heq
  change (r c).bind (fun x => k x.1 x.2) = some (b, c') at heq
  obtain ⟨⟨a, c₁⟩, hr, hk'⟩ := Option.bind_eq_some_iff.1 heq
  obtain rfl := h c a c₁ hr
  exact hk a c₁ b c' hk'

theorem get {k : Cursor → Reader β} (h : ∀ c, Looks (k c)) : Looks (MonadState.get >>= k) :=
  fun c => h c c

theorem ite {p : Prop} [Decidable p] {r' : Reader α} (h : Looks r) (h' : Looks r') :
    Looks (if p then r else r') := by
  split
  · exact h
  · exact h'

theorem looksLike {r : Reader Bool} : Looks (Reader.looksLike r) := by
  rintro c a c' ⟨⟩
  rfl

theorem atPunct (symbol : String) : Looks (Reader.atPunct symbol) :=
  .get fun c => by split <;> exact .pure

theorem atAnyPunct (symbols : List String) : Looks (Reader.atAnyPunct symbols) :=
  .get fun c => by split <;> exact .pure

theorem atWord (name : String) : Looks (Reader.atWord name) :=
  .get fun c => by split <;> exact .pure

theorem atAnyWord (names : List String) : Looks (Reader.atAnyWord names) :=
  .get fun c => by split <;> exact .pure

theorem onNewLine : Looks Reader.onNewLine :=
  .get fun _ => .pure

end Looks

namespace Ends

variable {R S : α → Cursor → Prop} {T : β → Cursor → Prop}

theorem mono (h : Ends P r R) (hS : ∀ a c, R a c → S a c) : Ends P r S :=
  fun c hc a c' heq => hS a c' (h c hc a c' heq)

theorem of_leads (h : Leads P r a Q) : Ends P r fun b c => b = a ∧ Q c := by
  intro c hc b c' heq
  obtain ⟨c₁, hr, hQ⟩ := h c hc
  rw [hr] at heq
  cases heq
  exact ⟨rfl, hQ⟩

theorem of_refuses (h : Refuses P r) : Ends P r R := by
  intro c hc b c' heq
  rw [h c hc] at heq
  cases heq

theorem looks (h : Looks r) : Ends P r fun _ => P := by
  intro c hc b c' heq
  rwa [h c b c' heq]

theorem refuses (h : Ends P r fun _ _ => False) : Refuses P r := by
  intro c hc
  cases heq : r c with
  | none => rfl
  | some x => exact (h c hc x.1 x.2 heq).elim

theorem or (h : Ends P r R) (h' : Ends Q r R) : Ends (fun c => P c ∨ Q c) r R :=
  fun c hc => hc.elim (h c) (h' c)

theorem bind (h : Ends P r R) (hk : ∀ a, Ends (R a) (k a) T) : Ends P (r >>= k) T := by
  intro c hc b c' heq
  change (r c).bind (fun x => k x.1 x.2) = some (b, c') at heq
  obtain ⟨⟨a, c₁⟩, hr, hk'⟩ := Option.bind_eq_some_iff.1 heq
  exact hk a c₁ (h c hc a c₁ hr) b c' hk'

theorem after (h : Leads P r a P₁) (hk : Ends P₁ (k a) T) : Ends P (r >>= k) T := by
  refine (of_leads h).bind fun x => ?_
  rintro c ⟨rfl, hc⟩
  exact hk c hc

theorem get {k : Cursor → Reader β} (h : ∀ c, P c → Ends P (k c) T) :
    Ends P (MonadState.get >>= k) T :=
  fun c hc => h c hc c hc

theorem neg {p : Bool} {r' : Reader α} (hp : p = false) (h : Ends P r' R) :
    Ends P (if p = true then r else r') R := by
  rwa [if_neg (Bool.eq_false_iff.1 hp)]

theorem pos {p : Prop} [Decidable p] {r' : Reader α} (hp : p) (h : Ends P r R) :
    Ends P (if p then r else r') R := by
  rwa [if_pos hp]

theorem ite {p : Prop} [Decidable p] {r' : Reader α} (h : Ends P r R) (h' : Ends P r' R) :
    Ends P (if p then r else r') R := by
  split
  · exact h
  · exact h'

theorem pure {T : Cursor → Prop} (h : ∀ c, P c → T c) : Ends P (pure a : Reader α) fun _ => T := by
  rintro c hc b c' ⟨⟩
  exact h c hc

theorem attempt (h : Ends P r R) :
    Ends P (Reader.attempt r) fun x c => x.elim (P c) (R · c) := by
  intro c hc x c' heq
  rw [Reader.attempt] at heq
  cases hr : r c with
  | some x =>
    rw [hr] at heq
    cases heq
    exact h c hc x.1 x.2 hr
  | none =>
    rw [hr] at heq
    cases heq
    exact hc

end Ends

end CustomElement.Script
