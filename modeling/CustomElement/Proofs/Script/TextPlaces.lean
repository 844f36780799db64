import CustomElement.Proofs.Grammar.Lexeme
import CustomElement.Proofs.Script.Leads
import CustomElement.Proofs.Script.TemplateText

/-!
# Places by the text ahead

`At f text` is the place in front of a text, where `f` tells whether a fault was noted. Where the text
begins with a token (`Begins`), the readers see the token there and moving on leads behind it. Unlike
the lexemes ahead, the text ahead also describes the places inside of templates, where what is a brace
for one reader is the start of a piece for another.
-/

namespace CustomElement.Script

open CustomElement.Text CustomElement.Grammar

/-! ## Texts that begin with a token -/

namespace Begins

/-- The first piece of a template. -/
theorem template {raw : String} {cooked : Option String} {tail : Bool} (h : IsPiece raw cooked tail)
    (rest : List Char) :
    Begins ('`' :: (raw.toList ++ (pieceEnd tail ++ rest))) (.template raw cooked tail) rest :=
  ⟨skipGap_of_startsToken (by decide) _, readTemplate_raw h rest⟩

theorem punct {symbol : String} (hs : symbol ∈ punctuators) (hangle : symbol ≠ ">")
    {rest : List Char} (hrest : ∀ c ∈ rest.head?, c ∉ followers symbol) :
    Begins (symbol.toList ++ rest) (.punct symbol) rest := by
  refine ⟨skipGap_punct (List.mem_append_right _ hs) hrest, ?_⟩
  have hscan := scan_punct hs hangle hrest
  rw [scan] at hscan
  split at hscan
  case h_1 hfound =>
    have hcommon : ∀ s ∈ rightAngles, s ∈ punctuators → s = ">" := by decide
    cases hscan
    exact absurd (hcommon _ (mem_of_firstPunct hfound) hs) hangle
  case h_2 => exact hscan

/-- The characters that are punctuators whatever follows. -/
def brackets : List Char :=
  ['(', ')', '[', ']', '\x7b', '\x7d', ',', ';', ':']

theorem bracket {c : Char} (hc : c ∈ brackets) (rest : List Char) :
    Begins (c :: rest) (.punct (String.singleton c)) rest := by
  have hsymbol : ∀ c ∈ brackets, String.singleton c ∈ punctuators ∧ String.singleton c ≠ ">" ∧
      followers (String.singleton c) = [] ∧ (String.singleton c).toList = [c] :=
    List.all_iff_forall_prop.1 (by decide)
  obtain ⟨hmem, hangle, hnone, hlist⟩ := hsymbol c hc
  have hbegins : Begins ((String.singleton c).toList ++ rest) _ rest :=
    .punct hmem hangle fun d _ => by simp [hnone]
  rwa [hlist] at hbegins

theorem dot (rest : List Char) (h : ∀ c ∈ rest.head?, isAsciiDigit c = false ∧ c ≠ '.') :
    Begins ('.' :: rest) (.punct ".") rest := by
  have hfollowers : followers "." = '.' :: "0123456789".toList := by decide
  refine punct (show "." ∈ punctuators by decide) (by decide) fun c hc hmem => ?_
  rw [hfollowers] at hmem
  rcases List.mem_cons.1 hmem with rfl | hdigit
  · exact (h '.' hc).2 rfl
  · have hdigits : ∀ d ∈ "0123456789".toList, isAsciiDigit d = true :=
      List.all_iff_forall_prop.1 (by decide)
    cases (hdigits c hdigit).symm.trans (h c hc).1

theorem optionalDot (rest : List Char) (h : ∀ c ∈ rest.head?, isAsciiDigit c = false) :
    Begins ('?' :: '.' :: rest) (.punct "?.") rest := by
  refine ⟨skipGap_of_startsToken (by decide) _, ?_⟩
  have hread : readToken ('?' :: '.' :: rest) = readPunct ('?' :: '.' :: rest) := rfl
  rw [hread, readPunct, if_neg]
  cases rest with
  | nil => decide
  | cons c rest => simp [h c rfl]

end Begins

/-! ## Places -/

/-- The place in front of a text, behind any number of blanks. -/
def At (f : Bool) (text : List Char) (c : Cursor) : Prop :=
  ∃ k from_, from_.faulty = f ∧ from_.pending = 0 ∧
    c = Cursor.land .blank (List.replicate k ' ' ++ text) from_

namespace At

variable {f : Bool} {text rest : List Char} {t : Token} {c : Cursor}

theorem blank (h : At f (' ' :: text) c) : At f text c := by
  obtain ⟨k, from_, hf, hpending, rfl⟩ := h
  refine ⟨k + 1, from_, hf, hpending, ?_⟩
  rw [List.replicate_succ', List.append_assoc]
  rfl

/-- The cursor in front of a text that begins with a token. -/
theorem cursor (h : At f text c) (hbegins : Begins text t rest) :
    c.token = t ∧ c.newline = false ∧ c.rest = rest ∧ c.faulty = f ∧ c.pending = 0 := by
  obtain ⟨k, from_, hf, hpending, rfl⟩ := h
  have hgap : skipGap .blank false (List.replicate k ' ' ++ text) = some (false, text) := by
    rw [skipGap_blanks, hbegins.gap]
  rw [Cursor.land_eq from_ hgap hbegins.token]
  exact ⟨rfl, rfl, rfl, hf, hpending⟩

theorem next_of (h : At f text c) (hbegins : Begins text t rest) : At f rest c.next := by
  obtain ⟨-, -, hrest, hf, hpending⟩ := h.cursor hbegins
  exact ⟨0, c, hf, hpending, by rw [Cursor.next, hrest]; rfl⟩

end At

variable {f : Bool} {text rest : List Char} {t : Token}

theorem Begins.passes (h : Begins text t rest) : Passes (At f text) t (At f rest) :=
  ⟨fun _ hc => (hc.cursor h).1, fun _ hc => hc.next_of h⟩

theorem Begins.shows (h : Begins text t rest) : Shows (At f text) t :=
  (h.passes (f := f)).shows

namespace Leads

theorem onNewLine (h : Begins text t rest) : Leads (At f text) Reader.onNewLine false (At f text) := by
  refine .get fun c hc => ?_
  rw [(hc.cursor h).2.1]
  exact .pure

end Leads

end CustomElement.Script
