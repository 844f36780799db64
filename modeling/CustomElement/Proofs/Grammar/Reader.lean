import CustomElement.Proofs.Grammar.Expression
import Mathlib.Data.List.Nodup

/-!
# A reader of expressions

A reader that looks one lexeme ahead and never goes back. It may read more than the grammar derives:
it takes operators in any order that the nonterminals around them let it. The reader is given a
number of rounds, and `Reads` says what it gives from some number of rounds on.

After an operand the reader goes on as long as the next lexeme continues the nonterminal it reads or
a tighter one. `reach` is how loose a nonterminal a lexeme continues, and `Stops` says that it does
not continue the one at hand.
-/

namespace CustomElement.Grammar

open CustomElement.Tree
open CustomElement.Script (Token)

/-! ## Finding operators -/

/-- All operators between two operands. -/
def Connective.all : List Connective :=
  BinaryOp.all.map .binary ++ LogicalOp.all.map .logical

/-- The operator between operands that a token is. -/
def connectiveOf? (allowIn : Bool) (t : Token) : Option Connective :=
  Connective.all.find? fun op => op.token == t && (allowIn || op != .binary .inside)

/-- The assignment that a token is. -/
def assignOf? (t : Token) : Option AssignOp :=
  AssignOp.all.find? (operatorToken ·.symbol == t)

/-- The operator that steps a variable and that a token is. -/
def updateOf? (t : Token) : Option UpdateOp :=
  UpdateOp.all.find? (operatorToken ·.symbol == t)

/-- The tree of an operator in front of its operand, for the operator that a token is. -/
def leadOf? (t : Token) : Option (Expr → Expr) :=
  match UnaryOp.all.find? (operatorToken ·.symbol == t), updateOf? t with
  | some op, _ => some (.unary op true)
  | none, some op => some (.update op true)
  | none, none => if t == .word "await" false then some .await else none

/-- Commas, question marks, assignments and the operators between operands are different tokens. -/
theorem nodup_tokens : (Token.punct "," :: Token.punct "?" ::
    (AssignOp.all.map (operatorToken ·.symbol) ++ Connective.all.map Connective.token)).Nodup := by
  decide +kernel

theorem Connective.mem_all (op : Connective) : op ∈ all := by
  cases op with | _ op => cases op <;> decide

theorem assign_mem_all (op : AssignOp) : op ∈ AssignOp.all := by
  cases op <;> decide

theorem Connective.token_injective {op op' : Connective} (h : op.token = op'.token) : op = op' :=
  List.inj_on_of_nodup_map nodup_tokens.of_cons.of_cons.of_append_right op.mem_all op'.mem_all h

theorem assignToken_injective {op op' : AssignOp}
    (h : operatorToken op.symbol = operatorToken op'.symbol) : op = op' :=
  List.inj_on_of_nodup_map nodup_tokens.of_cons.of_cons.of_append_left (assign_mem_all op)
    (assign_mem_all op') h

theorem assignToken_ne_token (op : AssignOp) (op' : Connective) :
    operatorToken op.symbol ≠ op'.token :=
  (List.nodup_append.1 nodup_tokens.of_cons.of_cons).2.2 _
    (List.mem_map_of_mem (assign_mem_all op)) _ (List.mem_map_of_mem op'.mem_all)

theorem find?_of_unique {α : Type} {l : List α} {p : α → Bool} {a : α} (hmem : a ∈ l)
    (ha : p a = true) (hunique : ∀ b, p b = true → b = a) : l.find? p = some a := by
  cases hfind : l.find? p with
  | none => exact absurd ha (List.find?_eq_none.1 hfind a hmem)
  | some b => rw [hunique b (List.find?_some hfind)]

theorem connectiveOf?_token {op : Connective} {allowIn : Bool}
    (h : op = .binary .inside → allowIn = true) : connectiveOf? allowIn op.token = some op := by
  refine find?_of_unique op.mem_all ?_ fun op' hop' => ?_
  · simpa [or_iff_not_imp_right] using h
  · simp only [Bool.and_eq_true, beq_iff_eq] at hop'
    exact Connective.token_injective hop'.1

theorem assignOf?_token (op : AssignOp) : assignOf? (operatorToken op.symbol) = some op := by
  refine find?_of_unique (assign_mem_all op) (beq_self_eq_true _) fun op' hop' => ?_
  exact assignToken_injective (beq_iff_eq.1 hop')

theorem updateOf?_token (op : UpdateOp) : updateOf? (operatorToken op.symbol) = some op := by
  cases op <;> decide

theorem eq_of_connectiveOf? {allowIn : Bool} {t : Token} {op : Connective}
    (h : connectiveOf? allowIn t = some op) :
    op.token = t ∧ (op = .binary .inside → allowIn = true) := by
  have h := List.find?_some h
  simp only [Bool.and_eq_true, Bool.or_eq_true, beq_iff_eq, bne_iff_ne] at h
  exact ⟨h.1, fun he => h.2.resolve_right fun hne => hne he⟩

theorem eq_of_assignOf? {t : Token} {op : AssignOp} (h : assignOf? t = some op) :
    operatorToken op.symbol = t := by
  simpa using List.find?_some h

theorem eq_of_updateOf? {t : Token} {op : UpdateOp} (h : updateOf? t = some op) :
    operatorToken op.symbol = t := by
  simpa using List.find?_some h

theorem leadOf?_unary (op : UnaryOp) :
    leadOf? (operatorToken op.symbol) = some (.unary op true) := by
  have h : UnaryOp.all.find? (operatorToken ·.symbol == operatorToken op.symbol) = some op := by
    cases op <;> decide
  rw [leadOf?, h]

theorem leadOf?_update (op : UpdateOp) :
    leadOf? (operatorToken op.symbol) = some (.update op true) := by
  have h : UnaryOp.all.find? (operatorToken ·.symbol == operatorToken op.symbol) = none := by
    cases op <;> decide
  rw [leadOf?, h, updateOf?_token]

theorem leadOf?_await : leadOf? (.word "await" false) = some .await := by
  rfl

theorem atom?_of_lead {t : Token} {build : Expr → Expr} (h : leadOf? t = some build) :
    atom? t = none := by
  unfold leadOf? at h
  split at h
  · rename_i op hop
    have htoken : operatorToken op.symbol = t := by simpa using List.find?_some hop
    rw [← htoken]
    cases op <;> rfl
  · rename_i op _ hop
    rw [← eq_of_updateOf? hop]
    cases op <;> rfl
  · split at h
    · rename_i ht
      rw [beq_iff_eq.1 ht]
      rfl
    · cases h

/-! ## The reader -/

/-- What is to be read: a nonterminal, the operators of a level and the accesses that follow on an
expression, or the items of a list. -/
inductive Task where
  | goal (g : Goal)
  | more (l : Level) (left : Expr)
  | accesses (object : Expr)
  | items

/-- What a reader gives: a tree and the lexemes after it. -/
abbrev Parse := List Lexeme → Option (Expr × List Lexeme)

/-- The nonterminal that a level is read with first. A chain of `??` starts like the other logical
operators, and the next operator tells. -/
def Level.first : Level → Goal
  | coalesce => .level logicalOr
  | l => l.operand

/-- The tree of a list of expressions, which is a sequence only if there are two. -/
def collapse : Expr → Expr
  | .sequence [e] => e
  | e => e

/-- One more item in front of others. -/
def pushItem (e : Expr) : Expr → Expr
  | .sequence es => .sequence (e :: es)
  | other => other

/-- The arguments that have been read. -/
def argumentsOf : Expr → List Expr
  | .sequence es => es
  | _ => []

section Round

variable (sub : Task → Bool → Parse) (allowIn : Bool) (ts : List Lexeme)

/-- Reads the items of a list, and leaves what is inside of them to `sub`. -/
def readItems : Option (Expr × List Lexeme) := do
  let (e, rest) ← sub (.goal .assignment) allowIn ts
  match rest with
  | ⟨.punct ",", _⟩ :: after => do
    let (es, out) ← sub .items allowIn after
    some (pushItem e es, out)
  | _ => some (.sequence [e], rest)

/-- Reads an assignment. -/
def readAssignment : Option (Expr × List Lexeme) := do
  let (e, rest) ← sub (.goal .conditional) allowIn ts
  match rest with
  | [] => some (e, [])
  | t :: after =>
    match assignOf? t.token, target? e with
    | some op, some p => do
      let (r, out) ← sub (.goal .assignment) allowIn after
      some (.assign op p r, out)
    | _, _ => some (e, t :: after)

/-- Reads a conditional. -/
def readConditional : Option (Expr × List Lexeme) := do
  let (t, rest) ← sub (.goal .shortCircuit) allowIn ts
  match rest with
  | ⟨.punct "?", _⟩ :: after => do
    let (c, mid) ← sub (.goal .assignment) true after
    match mid with
    | ⟨.punct ":", _⟩ :: after => do
      let (a, out) ← sub (.goal .assignment) allowIn after
      some (.conditional t c a, out)
    | _ => none
  | _ => some (t, rest)

/-- Reads the operators of a level that follow on an operand. -/
def readMore (l : Level) (left : Expr) : Option (Expr × List Lexeme) :=
  match ts with
  | [] => some (left, [])
  | t :: after =>
    match connectiveOf? allowIn t.token with
    | some op =>
      if op.level = some l then do
        let (r, rest) ← sub (.goal l.operand) allowIn after
        sub (.more l (op.apply left r)) allowIn rest
      else some (left, t :: after)
    | none => some (left, t :: after)

/-- Reads a power. -/
def readPower : Option (Expr × List Lexeme) := do
  let (l, rest) ← sub (.goal .unary) allowIn ts
  match rest with
  | ⟨.punct "**", _⟩ :: after => do
    let (r, out) ← sub (.goal .exponent) allowIn after
    some (.binary .power l r, out)
  | _ => some (l, rest)

/-- Reads an operand with an operator in front of it or a step after it. -/
def readUpdate : Option (Expr × List Lexeme) :=
  match ts with
  | [] => none
  | t :: after =>
    match leadOf? t.token with
    | some build => do
      let (e, rest) ← sub (.goal .unary) allowIn after
      some (build e, rest)
    | none => do
      let (e, rest) ← sub (.goal .leftHandSide) allowIn ts
      match rest with
      | ⟨t, false⟩ :: out =>
        match updateOf? t with
        | some op => some (.update op false e, out)
        | none => some (e, rest)
      | _ => some (e, rest)

/-- Reads the accesses and calls that follow on an expression. -/
def readAccesses (e : Expr) : Option (Expr × List Lexeme) :=
  match ts with
  | ⟨.punct ".", _⟩ :: ⟨.word name _, _⟩ :: after =>
    sub (.accesses (.member e (.identifier name) false false)) allowIn after
  | ⟨.punct ".", _⟩ :: ⟨.privateName name, _⟩ :: after =>
    sub (.accesses (.member e (.privateName name) false false)) allowIn after
  | ⟨.punct "[", _⟩ :: after => do
    let (p, rest) ← sub (.goal .expression) true after
    match rest with
    | ⟨.punct "]", _⟩ :: out => sub (.accesses (.member e p true false)) allowIn out
    | _ => none
  | ⟨.punct "(", _⟩ :: after =>
    match after with
    | ⟨.punct ")", _⟩ :: out => sub (.accesses (.call e [] false)) allowIn out
    | _ => do
      let (es, rest) ← sub .items true after
      match rest with
      | ⟨.punct ")", _⟩ :: out => sub (.accesses (.call e (argumentsOf es) false)) allowIn out
      | _ => none
  | _ => some (e, ts)

/-- Reads a name, a literal or an expression in parentheses. -/
def readPrimary : Option (Expr × List Lexeme) :=
  match ts with
  | ⟨.punct "(", _⟩ :: after => do
    let (e, rest) ← sub (.goal .expression) true after
    match rest with
    | ⟨.punct ")", _⟩ :: out => some (e, out)
    | _ => none
  | t :: out => (atom? t.token).map (·, out)
  | [] => none

end Round

/-- One round of the reader. -/
def round (sub : Task → Bool → Parse) : Task → Bool → Parse
  | .items => readItems sub
  | .goal .expression => fun allowIn ts =>
    (sub .items allowIn ts).map fun (es, rest) => (collapse es, rest)
  | .goal .assignment => readAssignment sub
  | .goal .conditional => readConditional sub
  | .goal .shortCircuit => sub (.goal (.level .coalesce))
  | .goal (.level l) => fun allowIn ts => do
    let (e, rest) ← sub (.goal l.first) allowIn ts
    sub (.more l e) allowIn rest
  | .more l left => fun allowIn ts => readMore sub allowIn ts l left
  | .goal .exponent => readPower sub
  | .goal .unary => sub (.goal .update)
  | .goal .update => readUpdate sub
  | .goal .leftHandSide => fun allowIn ts => do
    let (e, rest) ← sub (.goal .primary) allowIn ts
    sub (.accesses e) allowIn rest
  | .accesses e => fun allowIn ts => readAccesses sub allowIn ts e
  | .goal .primary => fun _ ts => readPrimary sub ts

/-- The reader with so many rounds. -/
def read : Nat → Task → Bool → Parse
  | 0, _, _, _ => none
  | n + 1, task, allowIn, ts => round (read n) task allowIn ts

/-- What the reader gives, from some number of rounds on. -/
def Reads (task : Task) (allowIn : Bool) (ts : List Lexeme) (e : Expr) (rest : List Lexeme) : Prop :=
  ∃ n, ∀ m, n ≤ m → read m task allowIn ts = some (e, rest)

theorem Reads.of_round {task : Task} {allowIn : Bool} {ts rest : List Lexeme} {e : Expr} {n : Nat}
    (h : ∀ m, n ≤ m → round (read m) task allowIn ts = some (e, rest)) :
    Reads task allowIn ts e rest := by
  refine ⟨n + 1, fun m hm => ?_⟩
  cases m with
  | zero => omega
  | succ m => exact h m (by omega)

theorem Reads.unique {task : Task} {allowIn : Bool} {ts rest rest' : List Lexeme} {e e' : Expr}
    (h : Reads task allowIn ts e rest) (h' : Reads task allowIn ts e' rest') : e = e' := by
  obtain ⟨n, hn⟩ := h
  obtain ⟨k, hk⟩ := h'
  have heq := (hn (max n k) (Nat.le_max_left n k)).symm.trans (hk (max n k) (Nat.le_max_right n k))
  exact (Prod.mk.inj (Option.some.inj heq)).1

/-! ## Where the reader stops -/

/-- The nonterminals from the loosest one on. A conditional ends with an assignment, so what continues
one continues the other. -/
def Goal.rank : Goal → Nat
  | expression => 1
  | assignment => 2
  | conditional => 2
  | shortCircuit => 4
  | level .coalesce => 4
  | level .logicalOr => 5
  | level .logicalAnd => 6
  | level .bitOr => 7
  | level .bitXor => 8
  | level .bitAnd => 9
  | level .equality => 10
  | level .relational => 11
  | level .shift => 12
  | level .additive => 13
  | level .multiplicative => 14
  | exponent => 15
  | unary => 16
  | update => 16
  | leftHandSide => 17
  | primary => 18

/-- The rank of the nonterminal that a lexeme continues after its first operand; zero if none. -/
def reach (allowIn : Bool) (t : Lexeme) : Nat :=
  if t.token == .punct "," then Goal.expression.rank
  else if (assignOf? t.token).isSome then Goal.assignment.rank
  else if t.token == .punct "?" then Goal.conditional.rank
  else
    match connectiveOf? allowIn t.token with
    | some op =>
      match op.level with
      | some l => (Goal.level l).rank
      | none => Goal.exponent.rank
    | none =>
      if (updateOf? t.token).isSome && !t.newline then Goal.update.rank
      else if [.punct ".", .punct "[", .punct "("].contains t.token then Goal.leftHandSide.rank
      else 0

/-- The lexemes do not continue the nonterminal or a tighter one. -/
def Stops (g : Goal) (allowIn : Bool) (rest : List Lexeme) : Prop :=
  ∀ t ∈ rest.head?, reach allowIn t < g.rank

theorem Stops.mono {g h : Goal} {allowIn : Bool} {rest : List Lexeme} (hs : Stops g allowIn rest)
    (hle : g.rank ≤ h.rank) : Stops h allowIn rest :=
  fun t ht => Nat.lt_of_lt_of_le (hs t ht) hle

theorem stops_cons {g : Goal} {allowIn : Bool} {t : Lexeme} {rest : List Lexeme}
    (h : reach allowIn t < g.rank) : Stops g allowIn (t :: rest) := by
  rintro u ⟨⟩
  exact h

theorem stops_nil (g : Goal) (allowIn : Bool) : Stops g allowIn [] := by
  rintro t ⟨⟩

theorem reach_connective {op : Connective} {l : Level} {allowIn newline : Bool}
    (hlevel : op.level = some l) (h : op = .binary .inside → allowIn = true) :
    reach allowIn ⟨op.token, newline⟩ = (Goal.level l).rank := by
  have hcomma : op.token ≠ .punct "," := fun he => nodup_tokens.notMem (he ▸ by
    simp [List.mem_map_of_mem op.mem_all])
  have hquestion : op.token ≠ .punct "?" := fun he => nodup_tokens.of_cons.notMem (he ▸ by
    simp [List.mem_map_of_mem op.mem_all])
  have hassign : assignOf? op.token = none := by
    cases hop : assignOf? op.token with
    | none => rfl
    | some op' => exact absurd (eq_of_assignOf? hop) (assignToken_ne_token op' op)
  simp [reach, hcomma, hassign, hquestion, connectiveOf?_token h, hlevel]

theorem reach_assign (op : AssignOp) (allowIn newline : Bool) :
    reach allowIn ⟨operatorToken op.symbol, newline⟩ = 2 := by
  have hcomma : operatorToken op.symbol ≠ .punct "," := by cases op <;> decide
  simp [reach, hcomma, assignOf?_token, Goal.rank]

theorem reach_update (op : UpdateOp) (allowIn : Bool) :
    reach allowIn ⟨operatorToken op.symbol, false⟩ = 16 := by
  cases op <;> cases allowIn <;> decide

theorem reach_comma (allowIn newline : Bool) : reach allowIn ⟨.punct ",", newline⟩ = 1 := by
  cases allowIn <;> cases newline <;> rfl

theorem reach_question (allowIn newline : Bool) : reach allowIn ⟨.punct "?", newline⟩ = 2 := by
  cases allowIn <;> cases newline <;> decide

theorem reach_power (allowIn newline : Bool) : reach allowIn ⟨.punct "**", newline⟩ = 15 := by
  cases allowIn <;> cases newline <;> decide

theorem reach_access {symbol : String} (h : symbol ∈ [".", "[", "("]) (allowIn newline : Bool) :
    reach allowIn ⟨.punct symbol, newline⟩ = 17 := by
  revert symbol
  cases allowIn <;> cases newline <;> decide

theorem reach_closing {symbol : String} (h : symbol ∈ [":", "]", ")"]) (allowIn newline : Bool) :
    reach allowIn ⟨.punct symbol, newline⟩ = 0 := by
  revert symbol
  cases allowIn <;> cases newline <;> decide

theorem reach_lt (allowIn : Bool) (t : Lexeme) : reach allowIn t < 18 := by
  have hlevel : ∀ l, (Goal.level l).rank < 18 := by
    intro l
    cases l <;> decide
  unfold reach
  repeat' split
  all_goals first
    | exact hlevel _
    | decide

/-- The reader stops in front of what closes a group. -/
theorem stops_closing {symbol : String} (h : symbol ∈ [":", "]", ")"]) (g : Goal)
    (allowIn newline : Bool) (rest : List Lexeme) :
    Stops g allowIn (⟨.punct symbol, newline⟩ :: rest) := by
  refine stops_cons ?_
  rw [reach_closing h]
  cases g with
  | level l => cases l <;> decide
  | _ => decide

end CustomElement.Grammar
