import CustomElement.Proofs.Component.Regions
import CustomElement.Proofs.Component.Stages
import CustomElement.Proofs.Template.Paragraph
import Mathlib.Data.List.Chain

/-!
# What the elements of a template hold

The fragments of a text come apart: no text among them is empty, no two texts stand side by side, and
every binding is one of those that placeholders can name (`Apart`). Each step of `fragments` keeps it so
(`Apart.pushChar`, `Apart.binding`). An element is made of a tag, attributes and nodes (`IsMade`), and so
is every element among its children (`IsMade.child`), at any depth. `elements_normalized` puts the two
together for the elements of a template text, whatever nodes its markup is made into.
-/

namespace CustomElement.Text

/-- A text is blank if trimming leaves nothing of it. -/
theorem trim_eq_nil_iff {text : List Char} : trim text = [] ↔ ∀ c ∈ text, isBlank c = true := by
  rw [trim, trimEnd_eq_nil_iff, trimStart]
  constructor
  · intro h c hc
    rw [← List.takeWhile_append_dropWhile (p := isBlank) (l := text), List.mem_append] at hc
    exact hc.elim List.mem_takeWhile_imp (h c)
  · exact fun h c hc => h c ((List.dropWhile_suffix isBlank).subset hc)

end CustomElement.Text

namespace CustomElement.Template

open CustomElement.Text
open CustomElement.Markup (Node TagAttribute)

/-! ## Fragments -/

/-- The fragment is a text. -/
def Fragment.isText : Fragment → Bool
  | .text _ => true
  | .binding _ => false

/-- Fragments that come apart, with bindings of the given ones. -/
structure Apart (bindings : List Tree.Expr) (fs : List Fragment) : Prop where
  text_ne : ∀ text, .text text ∈ fs → text ≠ []
  binding_mem : ∀ e, .binding e ∈ fs → e ∈ bindings
  texts_apart : fs.IsChain fun f g => ¬ (f.isText = true ∧ g.isText = true)

namespace Apart

variable {bindings : List Tree.Expr} {fs : List Fragment}

theorem nil : Apart bindings [] where
  text_ne _ h := absurd h List.not_mem_nil
  binding_mem _ h := absurd h List.not_mem_nil
  texts_apart := .nil

theorem binding {e : Tree.Expr} (h : Apart bindings fs) (he : e ∈ bindings) :
    Apart bindings (.binding e :: fs) where
  text_ne text ht := h.text_ne text (by simpa using ht)
  binding_mem e' he' := by
    rcases List.mem_cons.1 he' with heq | hmem
    · cases heq
      exact he
    · exact h.binding_mem e' hmem
  texts_apart := List.isChain_cons.2 ⟨fun _ _ hboth => absurd hboth.1 Bool.false_ne_true, h.texts_apart⟩

/-- A character goes to the text in front, or is a new one in front of a binding. -/
theorem pushChar (h : Apart bindings fs) (c : Char) : Apart bindings (pushChar c fs) := by
  cases fs with
  | nil =>
    refine ⟨fun text ht => ?_, fun e he => ?_, .singleton _⟩
    · cases List.mem_singleton.1 ht
      exact List.cons_ne_nil c []
    · cases List.mem_singleton.1 he
  | cons f rest =>
    cases f with
    | text front =>
      refine ⟨fun text ht => ?_, fun e he => ?_, ?_⟩
      · rcases List.mem_cons.1 ht with heq | hmem
        · cases heq
          exact List.cons_ne_nil c front
        · exact h.text_ne text (List.mem_cons_of_mem _ hmem)
      · rcases List.mem_cons.1 he with heq | hmem
        · cases heq
        · exact h.binding_mem e (List.mem_cons_of_mem _ hmem)
      · exact List.isChain_cons.2 (List.isChain_cons.1 h.texts_apart)
    | binding e =>
      refine ⟨fun text ht => ?_, fun e' he => ?_, ?_⟩
      · rcases List.mem_cons.1 ht with heq | hmem
        · cases heq
          exact List.cons_ne_nil c []
        · exact h.text_ne text hmem
      · rcases List.mem_cons.1 he with heq | hmem
        · cases heq
        · exact h.binding_mem e' hmem
      · refine List.isChain_cons.2 ⟨fun g hg hboth => ?_, h.texts_apart⟩
        cases hg
        cases hboth.2

theorem foldr_pushChar (h : Apart bindings fs) (run : List Char) :
    Apart bindings (run.foldr Template.pushChar fs) := by
  induction run with
  | nil => exact h
  | cons c run ih => exact ih.pushChar c

end Apart

theorem mem_of_bindingOf? {bindings : List Tree.Expr} {digits : List Char} {e : Tree.Expr}
    (h : bindingOf? bindings digits = some e) : e ∈ bindings := by
  unfold bindingOf? at h
  split at h
  · exact List.mem_of_getElem? h
  · cases h

/-- The fragments of every text come apart, also where a placeholder names no binding. -/
theorem apart_fragments (bindings : List Tree.Expr) (text : List Char) :
    Apart bindings (fragments bindings text) := by
  fun_induction fragments bindings text with
  | case1 => exact .nil
  | case2 c rest digits after _ e he ih => exact ih.binding (mem_of_bindingOf? he)
  | case3 c rest digits after _ _ ih => exact ih.foldr_pushChar _
  | case4 c rest _ ih => exact ih.pushChar c

/-! ## Elements -/

/-- The expression is that of a binding of a template text. -/
def Binds (text : List Char) (e : Tree.Expr) : Prop :=
  ∃ source ∈ sources (segments text), parseBinding source = .ok e

/-- The piece of an attribute's value is a literal. -/
def isLiteralPiece : Tree.AttributePiece → Bool
  | .literal _ => true
  | .binding _ => false

/-- What holds of every element of a template text: its literals are strings, those among its children
with a character that is not white space, and those in values of attributes not empty and not next to
each other; and its bindings are those of the text. -/
structure Normalized (text : List Char) (e : Tree.Element) : Prop where
  child_literal : ∀ l, .literal l ∈ e.children →
    ∃ s : String, l = .string s ∧ ∃ c ∈ s.toList, isBlank c = false
  child_binding : ∀ b, .binding b ∈ e.children → Binds text b
  piece_literal : ∀ a ∈ e.attributes, ∀ l, .literal l ∈ a.value →
    ∃ s : String, l = .string s ∧ s ≠ ""
  piece_binding : ∀ a ∈ e.attributes, ∀ b, .binding b ∈ a.value → Binds text b
  literals_apart : ∀ a ∈ e.attributes,
    a.value.IsChain fun p q => ¬ (isLiteralPiece p = true ∧ isLiteralPiece q = true)

/-- The second element is the first one or stands inside of it, at any depth. -/
inductive Within (outer : Tree.Element) : Tree.Element → Prop where
  | self : Within outer outer
  | child {e inner : Tree.Element} (h : Within outer e) (hinner : .element inner ∈ e.children) :
      Within outer inner

/-- The element is made of a tag, attributes and nodes. -/
def IsMade (bindings : List Tree.Expr) (e : Tree.Element) : Prop :=
  ∃ tag attributes nodes, e = elementOf bindings tag attributes (childrenOfAll bindings nodes)

/-- A child is the element of a node, or a fragment of the text of a node. -/
theorem mem_childrenOfAll {bindings : List Tree.Expr} {nodes : List Node} {child : Tree.Child}
    (h : child ∈ childrenOfAll bindings nodes) :
    (∃ e, child = .element e ∧ IsMade bindings e) ∨
      ∃ text, ∃ f ∈ fragments bindings text, childOf? f = some child := by
  induction nodes with
  | nil => cases h
  | cons n rest ih =>
    rw [childrenOfAll, List.mem_append] at h
    rcases h with hn | hrest
    · cases n with
      | element name attributes children =>
        rw [childrenOf, List.mem_singleton] at hn
        exact .inl ⟨_, hn, name.tag, attributes, children, rfl⟩
      | text text =>
        rw [childrenOf, List.mem_filterMap] at hn
        exact .inr ⟨text, hn⟩
      | comment => cases hn
    · exact ih hrest

theorem childOf?_eq_literal {f : Fragment} {l : Tree.Literal} (h : childOf? f = some (.literal l)) :
    ∃ s : String, l = .string s ∧ ∃ c ∈ s.toList, isBlank c = false := by
  cases f with
  | binding e => cases h
  | text text =>
    rw [childOf?] at h
    split at h
    · cases h
    · rename_i hblank
      cases h
      refine ⟨String.ofList text, rfl, ?_⟩
      rw [List.isEmpty_iff, trim_eq_nil_iff] at hblank
      simpa using hblank

theorem childOf?_eq_binding {f : Fragment} {e : Tree.Expr} (h : childOf? f = some (.binding e)) :
    f = .binding e := by
  cases f with
  | binding e => cases h; rfl
  | text text =>
    rw [childOf?] at h
    split at h <;> cases h

theorem childOf?_ne_element (f : Fragment) (e : Tree.Element) : childOf? f ≠ some (.element e) := by
  intro h
  cases f with
  | binding e => cases h
  | text text =>
    rw [childOf?] at h
    split at h <;> cases h

namespace IsMade

variable {bindings : List Tree.Expr} {e : Tree.Element}

/-- An element inside of one that is made of nodes is made of nodes. -/
theorem child (h : IsMade bindings e) {inner : Tree.Element} (hinner : .element inner ∈ e.children) :
    IsMade bindings inner := by
  obtain ⟨tag, attributes, nodes, rfl⟩ := h
  rcases mem_childrenOfAll hinner with ⟨e, heq, hmade⟩ | ⟨text, f, -, hf⟩
  · cases heq
    exact hmade
  · exact absurd hf (childOf?_ne_element f inner)

theorem within {outer : Tree.Element} (h : IsMade bindings outer) (hin : Within outer e) :
    IsMade bindings e := by
  induction hin with
  | self => exact h
  | child _ hinner ih => exact ih.child hinner

theorem normalized (h : IsMade bindings e) {text : List Char} (hbinds : ∀ b ∈ bindings, Binds text b) :
    Normalized text e := by
  obtain ⟨tag, attributes, nodes, rfl⟩ := h
  have hattribute : ∀ a ∈ (elementOf bindings tag attributes (childrenOfAll bindings nodes)).attributes,
      ∃ value, a.value = (fragments bindings value).map attributePiece := by
    intro a ha
    obtain ⟨t, -, rfl⟩ := List.mem_map.1 ha
    exact ⟨t.value, rfl⟩
  constructor
  case child_literal =>
    intro l hl
    rcases mem_childrenOfAll hl with ⟨e, heq, -⟩ | ⟨text, f, -, hf⟩
    · cases heq
    · exact childOf?_eq_literal hf
  case child_binding =>
    intro b hb
    rcases mem_childrenOfAll hb with ⟨e, heq, -⟩ | ⟨text, f, hmem, hf⟩
    · cases heq
    · cases childOf?_eq_binding hf
      exact hbinds b ((apart_fragments bindings text).binding_mem b hmem)
  case piece_literal =>
    intro a ha l hl
    obtain ⟨value, hvalue⟩ := hattribute a ha
    rw [hvalue] at hl
    obtain ⟨f, hf, hpiece⟩ := List.mem_map.1 hl
    cases f with
    | binding e => cases hpiece
    | text part =>
      cases hpiece
      have hne := (apart_fragments bindings value).text_ne part hf
      exact ⟨_, rfl, by simpa using hne⟩
  case piece_binding =>
    intro a ha b hb
    obtain ⟨value, hvalue⟩ := hattribute a ha
    rw [hvalue] at hb
    obtain ⟨f, hf, hpiece⟩ := List.mem_map.1 hb
    cases f with
    | text part => cases hpiece
    | binding e =>
      cases hpiece
      exact hbinds b ((apart_fragments bindings value).binding_mem b hf)
  case literals_apart =>
    intro a ha
    obtain ⟨value, hvalue⟩ := hattribute a ha
    rw [hvalue, List.isChain_map]
    refine (apart_fragments bindings value).texts_apart.imp fun f g hfg => ?_
    cases f <;> cases g <;> exact hfg

end IsMade

/-! ## Templates -/

mutual
theorem isMade_topElements (bindings : List Tree.Expr) (n : Node) :
    ∀ e ∈ topElements bindings n, IsMade bindings e := by
  cases n with
  | text text => exact fun e he => absurd he List.not_mem_nil
  | comment => exact fun e he => absurd he List.not_mem_nil
  | element name attributes children =>
    intro e he
    rw [topElements] at he
    split at he
    · exact isMade_topElementsOfAll bindings children e he
    · exact ⟨name.tag, attributes, children, List.mem_singleton.1 he⟩

/-- Whatever is looked through at the top, the elements found there are made of nodes. -/
theorem isMade_topElementsOfAll (bindings : List Tree.Expr) (nodes : List Node) :
    ∀ e ∈ topElementsOfAll bindings nodes, IsMade bindings e := by
  cases nodes with
  | nil => exact fun e he => absurd he List.not_mem_nil
  | cons n rest =>
    intro e he
    rw [topElementsOfAll, List.mem_append] at he
    exact he.elim (isMade_topElements bindings n e) (isMade_topElementsOfAll bindings rest e)
end

/-- Every element of a template, at any depth, is normalized. -/
theorem elements_normalized {text : List Char} {es : List Tree.Element} (h : parse text = .ok es)
    {outer e : Tree.Element} (houter : outer ∈ es) (hin : Within outer e) : Normalized text e := by
  unfold parse at h
  split at h
  · cases h
    cases houter
  · split at h
    · cases h
    · dsimp only at h
      split at h
      · rename_i bindings hbindings
        cases h
        have hmade := isMade_topElementsOfAll bindings _ outer houter
        exact (hmade.within hin).normalized (Component.exists_mem_of_mapM_ok hbindings)
      · cases h

/-- A list with bindings in a title and in an item, a comment and blank text. -/
def listTemplate : List Char :=
  "<ul title=\"\x7ba\x7dx\x7bb\x7d\"> <!-- c --><li>d \x7ba\x7d</li></ul>".toList

def listBindings : List Tree.Expr :=
  [.identifier "a", .identifier "b", .identifier "a"]

theorem parse_listTemplate :
    parse listTemplate = .ok (elements (segments listTemplate) listBindings) := by
  have hsources : sources (segments listTemplate) = [['a'], ['b'], ['a']] := by decide +kernel
  refine parse_of_sources (by decide) ?_
  change (sources (segments listTemplate)).mapM parseBinding = _
  rw [hsources]
  rfl

/-- An element with the given tag is a child. -/
def hasChild (tag : String) (e : Tree.Element) : Bool :=
  e.children.any fun
    | .element inner => inner.tag == tag
    | _ => false

theorem hasChild_iff {tag : String} {e : Tree.Element} :
    hasChild tag e = true ↔ ∃ inner, .element inner ∈ e.children ∧ inner.tag = tag := by
  rw [hasChild, List.any_eq_true]
  constructor
  · rintro ⟨child, hchild, htag⟩
    cases child with
    | element inner => exact ⟨inner, hchild, beq_iff_eq.1 htag⟩
    | literal l => cases htag
    | binding b => cases htag
  · rintro ⟨inner, hinner, htag⟩
    exact ⟨_, hinner, beq_iff_eq.2 htag⟩

theorem listTemplate_normalized :
    ∃ es, parse listTemplate = .ok es ∧ ∃ outer ∈ es, ∃ e, Within outer e ∧ e.tag = "li" ∧
      Normalized listTemplate e := by
  have hitem : (elements (segments listTemplate) listBindings).any (hasChild "li") = true := by
    decide +kernel
  obtain ⟨outer, houter, hchild⟩ := List.any_eq_true.1 hitem
  obtain ⟨item, hinner, htag⟩ := hasChild_iff.1 hchild
  have hin : Within outer item := .child .self hinner
  exact ⟨_, parse_listTemplate, outer, houter, item, hin, htag,
    elements_normalized parse_listTemplate houter hin⟩

end CustomElement.Template
