import CustomElement.Proofs.Json.ReadBack
import CustomElement.Proofs.Tree.Numbers
import CustomElement.Tree.Decode

/-!
# Readers in rounds

Readers are faithful up to a depth if they give back all nodes of that depth. The readers of the next
round are faithful one level deeper (`Readers.Faithful.next`): a node names its kind, which is in the
list of kinds of its place, and its parts are less deep. So the readers of round `n` are faithful up to
depth `n` (`readers_faithful`).
-/

namespace CustomElement.Tree

open Json (Fields ReadsBack depth depthItems depthFields depthField)

/-- Readers that give back all nodes up to a depth. -/
structure Readers.Faithful (r : Readers) (n : Nat) : Prop where
  expr (kept : Bool) : ReadsBack n Expr.numbers Expr.encode (r.expr kept)
  pattern (kept : Bool) : ReadsBack n Pattern.numbers Pattern.encode (r.pattern kept)
  stmt (kept : Bool) : ReadsBack n Stmt.numbers Stmt.encode (r.stmt kept)

/-! ## Depth -/

theorem depth_node (kind : String) (fields : List (String × Json)) :
    (node kind fields).depth = 1 + max 1 (depthFields fields) := by
  simp only [node, depth, depthFields, depthField]

theorem depthFields_le {n : Nat} {kind : String} {fields : List (String × Json)}
    (h : (node kind fields).depth ≤ n + 1) : depthFields fields ≤ n := by
  rw [depth_node] at h
  omega

theorem depthFields_cons (key : String) (value : Json) (rest : List (String × Json)) :
    depthFields ((key, value) :: rest) = max value.depth (depthFields rest) := by
  simp only [depthFields, depthField]

/-! ## Kinds -/

theorem tagged?_node_eq_none {kind : String} {names : List String} (h : kind ∉ names)
    (kept : Bool) (fields : List (String × Json)) :
    (node kind fields).tagged? kept names = none := by
  show ((Json.choice? kept names (.string kind)).bind _) = none
  simp [Json.choice?, h]

theorem Expr.encode_eq_node (e : Expr) :
    ∃ kind ∈ Readers.exprKinds, ∃ fields, e.encode = node kind fields := by
  cases e <;> exact ⟨_, by decide, _, rfl⟩

theorem Pattern.encode_eq_node (p : Pattern) :
    ∃ kind ∈ Readers.patternKinds, ∃ fields, p.encode = node kind fields := by
  cases p <;> exact ⟨_, by decide, _, rfl⟩

theorem Stmt.encode_eq_node (s : Stmt) :
    ∃ kind ∈ Readers.stmtKinds, ∃ fields, s.encode = node kind fields := by
  cases s
  case forEach loop _ _ _ _ => cases loop <;> exact ⟨_, by decide, _, rfl⟩
  case forEachVariable loop _ _ _ _ _ => cases loop <;> exact ⟨_, by decide, _, rfl⟩
  all_goals exact ⟨_, by decide, _, rfl⟩

theorem Expr.encode_ne_null (e : Expr) : e.encode ≠ .null := by
  obtain ⟨_, _, _, h⟩ := e.encode_eq_node
  rw [h]; exact nofun

theorem Pattern.encode_ne_null (p : Pattern) : p.encode ≠ .null := by
  obtain ⟨_, _, _, h⟩ := p.encode_eq_node
  rw [h]; exact nofun

theorem Stmt.encode_ne_null (s : Stmt) : s.encode ≠ .null := by
  obtain ⟨_, _, _, h⟩ := s.encode_eq_node
  rw [h]; exact nofun

/-! ## Words, names and literals -/

theorem VariableKind.decode_keyword (kept : Bool) (kind : VariableKind) :
    VariableKind.decode kept (.string kind.keyword) = some kind := by
  cases kind <;> rfl

theorem PropertyKind.decode_word (kept : Bool) (kind : PropertyKind) :
    PropertyKind.decode kept (.string kind.word) = some kind := by
  cases kind <;> rfl

theorem MethodKind.decode_word (kept : Bool) (kind : MethodKind) :
    MethodKind.decode kept (.string kind.word) = some kind := by
  cases kind <;> rfl

theorem UnaryOp.word?_symbol (kept : Bool) (op : UnaryOp) :
    Json.word? kept UnaryOp.all UnaryOp.symbol (.string op.symbol) = some op := by
  cases op <;> rfl

theorem UpdateOp.word?_symbol (kept : Bool) (op : UpdateOp) :
    Json.word? kept UpdateOp.all UpdateOp.symbol (.string op.symbol) = some op := by
  cases op <;> rfl

theorem BinaryOp.word?_symbol (kept : Bool) (op : BinaryOp) :
    Json.word? kept BinaryOp.all BinaryOp.symbol (.string op.symbol) = some op := by
  cases op <;> rfl

theorem LogicalOp.word?_symbol (kept : Bool) (op : LogicalOp) :
    Json.word? kept LogicalOp.all LogicalOp.symbol (.string op.symbol) = some op := by
  cases op <;> rfl

theorem AssignOp.word?_symbol (kept : Bool) (op : AssignOp) :
    Json.word? kept AssignOp.all AssignOp.symbol (.string op.symbol) = some op := by
  cases op <;> rfl

theorem nullable_optionalIdentifier (name : Option String) :
    Json.nullable decodeName (optionalIdentifier name) = some name := by
  cases name <;> rfl

theorem LiteralValue.decode_encode {v : LiteralValue}
    (hf : ∀ x, v = .number x → x.isFinite = true) : LiteralValue.decode v.encode = some v := by
  cases v with
  | null | boolean | string => rfl
  | number x =>
    have hx := hf x rfl
    rw [LiteralValue.encode, Json.ofDouble, if_pos hx]
    rfl

theorem Literal.ofFields_fields {l : Literal} (hf : AllFinite l.numbers) (kind : Json) :
    Literal.ofFields (.named (("type", kind) :: l.fields)) = some l := by
  obtain ⟨value, regex, bigint⟩ := l
  have hvalue : LiteralValue.decode value.encode = some value := by
    refine LiteralValue.decode_encode fun x hx => hf x ?_
    rw [hx]
    exact List.mem_cons_self
  cases regex <;> cases bigint
  all_goals
    show ((LiteralValue.decode value.encode).bind _) = _
    rw [hvalue]
    rfl

theorem TemplateElement.decode_encode (t : TemplateElement) :
    TemplateElement.decode t.encode = some t := by
  obtain ⟨tail, raw, cooked⟩ := t
  cases cooked <;> rfl

theorem decode_quasis (quasis : List TemplateElement) :
    Json.list TemplateElement.decode (.array (quasis.map TemplateElement.encode)) =
      some quasis := by
  show (quasis.map TemplateElement.encode).mapM TemplateElement.decode = some quasis
  induction quasis with
  | nil => rfl
  | cons t quasis ih =>
    rw [List.map_cons, List.mapM_cons, TemplateElement.decode_encode, ih]
    rfl

/-! ## Parts of nodes -/

namespace Readers.Faithful

variable {r : Readers} {n : Nat} (hr : r.Faithful n)
include hr

theorem exprs (kept : Bool) {es : List Expr} (hd : (Json.array (encodeExprs es)).depth ≤ n + 1)
    (hf : AllFinite (numbersOfExprs es)) :
    Json.list (r.expr kept) (.array (encodeExprs es)) = some es :=
  (hr.expr kept).list (eq_flatMap_of_cons rfl fun _ _ => rfl) (eq_map_of_cons rfl fun _ _ => rfl)
    hd hf

theorem option (kept : Bool) :
    ReadsBack n numbersOfOption encodeOption (Json.nullable (r.expr kept)) :=
  (hr.expr kept).nullable (fun _ => rfl) rfl (fun _ => rfl) Expr.encode_ne_null

theorem elements (kept : Bool) {es : List (Option Expr)}
    (hd : (Json.array (encodeElements es)).depth ≤ n + 1) (hf : AllFinite (numbersOfElements es)) :
    Json.list (Json.nullable (r.expr kept)) (.array (encodeElements es)) = some es :=
  (hr.option kept).list (eq_flatMap_of_cons rfl fun _ _ => rfl) (eq_map_of_cons rfl fun _ _ => rfl)
    hd hf

theorem patterns (kept : Bool) {ps : List Pattern}
    (hd : (Json.array (encodePatterns ps)).depth ≤ n + 1) (hf : AllFinite (numbersOfPatterns ps)) :
    Json.list (r.pattern kept) (.array (encodePatterns ps)) = some ps :=
  (hr.pattern kept).list (eq_flatMap_of_cons rfl fun _ _ => rfl)
    (eq_map_of_cons rfl fun _ _ => rfl) hd hf

theorem optionPattern (kept : Bool) : ReadsBack n numbersOfOptionPattern encodeOptionPattern
    (Json.nullable (r.pattern kept)) :=
  (hr.pattern kept).nullable (fun _ => rfl) rfl (fun _ => rfl) Pattern.encode_ne_null

theorem patternElements (kept : Bool) {ps : List (Option Pattern)}
    (hd : (Json.array (encodePatternElements ps)).depth ≤ n + 1)
    (hf : AllFinite (numbersOfPatternElements ps)) :
    Json.list (Json.nullable (r.pattern kept)) (.array (encodePatternElements ps)) = some ps :=
  (hr.optionPattern kept).list (eq_flatMap_of_cons rfl fun _ _ => rfl)
    (eq_map_of_cons rfl fun _ _ => rfl) hd hf

theorem stmts (kept : Bool) {ss : List Stmt} (hd : (Json.array (encodeStmts ss)).depth ≤ n + 1)
    (hf : AllFinite (numbersOfStmts ss)) :
    Json.list (r.stmt kept) (.array (encodeStmts ss)) = some ss :=
  (hr.stmt kept).list (eq_flatMap_of_cons rfl fun _ _ => rfl) (eq_map_of_cons rfl fun _ _ => rfl)
    hd hf

theorem block (kept : Bool) {ss : List Stmt} (hd : (blockNode (encodeStmts ss)).depth ≤ n + 2)
    (hf : AllFinite (numbersOfStmts ss)) :
    r.block kept (blockNode (encodeStmts ss)) = some ss := by
  simp only [blockNode, depth_node, depthFields_cons] at hd
  exact hr.stmts kept (by omega) hf

theorem funcOfFields_fields (kept : Bool) (kind : Json) {f : Func} (hd : depthFields f.fields ≤ n)
    (hf : AllFinite f.numbers) :
    r.funcOfFields kept (.named (("type", kind) :: f.fields)) = some f := by
  obtain ⟨name, params, body, generator, async⟩ := f
  simp only [Func.fields, depthFields_cons] at hd
  obtain ⟨hparams, hbody⟩ := allFinite_append.1 hf
  show (do
    some (Func.mk (← Json.nullable decodeName (optionalIdentifier name))
      (← Json.list (r.pattern kept) (.array (encodePatterns params)))
      (← r.block kept (blockNode (encodeStmts body))) generator async)) = _
  rw [nullable_optionalIdentifier, hr.patterns kept (by omega) hparams,
    hr.block kept (by omega) hbody]
  rfl

theorem classMember (kept : Bool) :
    ReadsBack (n + 1) ClassMember.numbers ClassMember.encode (r.classMember kept) := by
  intro m hd hf
  cases m with
  | method key value kind computed isStatic =>
    replace hd := depthFields_le hd
    simp only [depthFields_cons] at hd
    obtain ⟨hkey, hvalue⟩ := allFinite_append.1 hf
    show (do
      some (ClassMember.method (← r.expr true key.encode)
        (← r.funcOfFields true (.named (("type", .string "FunctionExpression") :: value.fields)))
        (← MethodKind.decode true (.string kind.word)) computed isStatic)) = _
    rw [hr.expr true key (by omega) hkey,
      hr.funcOfFields_fields true _ (by rw [depth_node] at hd; omega) hvalue,
      MethodKind.decode_word]
    rfl
  | field key value computed isStatic =>
    replace hd := depthFields_le hd
    simp only [depthFields_cons] at hd
    obtain ⟨hkey, hvalue⟩ := allFinite_append.1 hf
    show (do
      some (ClassMember.field (← r.expr true key.encode)
        (← Json.nullable (r.expr true) (encodeOption value)) computed isStatic)) = _
    rw [hr.expr true key (by omega) hkey, hr.option true value (by omega) hvalue]
    rfl
  | staticBlock body =>
    replace hd := depthFields_le hd
    simp only [depthFields_cons] at hd
    show (do
      some (ClassMember.staticBlock (← Json.list (r.stmt true) (.array (encodeStmts body))))) = _
    rw [hr.stmts true (by omega) hf]
    rfl

theorem classOfFields_fields (kept : Bool) (kind : Json) {c : ClassDef}
    (hd : depthFields c.fields ≤ n) (hf : AllFinite c.numbers) :
    r.classOfFields kept (.named (("type", kind) :: c.fields)) = some c := by
  obtain ⟨name, superclass, members⟩ := c
  simp only [ClassDef.fields, depth_node, depthFields_cons] at hd
  obtain ⟨hsuper, hmembers⟩ := allFinite_append.1 hf
  have hlist : Json.list (r.classMember kept) (.array (encodeClassMembers members)) = some members :=
    (hr.classMember kept).list (eq_flatMap_of_cons rfl fun _ _ => rfl)
      (eq_map_of_cons rfl fun _ _ => rfl) (by omega) hmembers
  show (do
    some (ClassDef.mk (← Json.nullable decodeName (optionalIdentifier name))
      (← Json.nullable (r.expr kept) (encodeOption superclass))
      (← Json.list (r.classMember kept) (.array (encodeClassMembers members))))) = _
  rw [nullable_optionalIdentifier, hr.option kept superclass (by omega) hsuper, hlist]
  rfl

theorem declarator (kept : Bool) :
    ReadsBack (n + 1) Declarator.numbers Declarator.encode (r.declarator kept) := by
  rintro ⟨target, init⟩ hd hf
  replace hd := depthFields_le hd
  simp only [depthFields_cons] at hd
  obtain ⟨htarget, hinit⟩ := allFinite_append.1 hf
  show (do
    some (Declarator.mk (← r.pattern kept target.encode)
      (← Json.nullable (r.expr kept) (encodeOption init)))) = _
  rw [hr.pattern kept target (by omega) htarget, hr.option kept init (by omega) hinit]
  rfl

theorem variablesOfFields_fields (kept : Bool) (tag : Json) (kind : VariableKind)
    {ds : List Declarator} (hd : (Json.array (encodeDeclarators ds)).depth ≤ n)
    (hf : AllFinite (numbersOfDeclarators ds)) :
    r.variablesOfFields kept (.named [("type", tag), ("kind", .string kind.keyword),
      ("declarations", .array (encodeDeclarators ds))]) = some (kind, ds) := by
  have hlist : Json.list (r.declarator kept) (.array (encodeDeclarators ds)) = some ds :=
    (hr.declarator kept).list (eq_flatMap_of_cons rfl fun _ _ => rfl)
      (eq_map_of_cons rfl fun _ _ => rfl) (by omega) hf
  show (do
    some (← VariableKind.decode kept (.string kind.keyword),
      ← Json.list (r.declarator kept) (.array (encodeDeclarators ds)))) = _
  rw [VariableKind.decode_keyword, hlist]
  rfl

theorem templateOfFields_fields (kept : Bool) (kind : Json) {quasis : List TemplateElement}
    {es : List Expr} (hd : (Json.array (encodeExprs es)).depth ≤ n)
    (hf : AllFinite (numbersOfExprs es)) :
    r.templateOfFields kept (.named (("type", kind) :: templateFields quasis (encodeExprs es))) =
      some (quasis, es) := by
  show (do
    some (← Json.list TemplateElement.decode (.array (quasis.map TemplateElement.encode)),
      ← Json.list (r.expr kept) (.array (encodeExprs es)))) = _
  rw [decode_quasis, hr.exprs kept (by omega) hf]
  rfl

theorem objectMember (kept : Bool) :
    ReadsBack (n + 1) ObjectMember.numbers ObjectMember.encode (r.objectMember kept) := by
  intro m hd hf
  cases m with
  | property key value kind method computed shorthand =>
    replace hd := depthFields_le hd
    simp only [depthFields_cons] at hd
    obtain ⟨hkey, hvalue⟩ := allFinite_append.1 hf
    show (do
      some (ObjectMember.property (← r.expr true key.encode) (← r.expr true value.encode)
        (← PropertyKind.decode true (.string kind.word)) method computed shorthand)) = _
    rw [hr.expr true key (by omega) hkey, hr.expr true value (by omega) hvalue,
      PropertyKind.decode_word]
    rfl
  | spread argument =>
    replace hd := depthFields_le hd
    simp only [depthFields_cons] at hd
    show (do some (ObjectMember.spread (← r.expr true argument.encode))) = _
    rw [hr.expr true argument (by omega) hf]
    rfl

theorem patternMember (kept : Bool) :
    ReadsBack (n + 1) PatternMember.numbers PatternMember.encode (r.patternMember kept) := by
  intro m hd hf
  cases m with
  | property key value computed shorthand =>
    replace hd := depthFields_le hd
    simp only [depthFields_cons] at hd
    obtain ⟨hkey, hvalue⟩ := allFinite_append.1 hf
    show (do
      some (PatternMember.property (← r.expr true key.encode) (← r.pattern true value.encode)
        computed shorthand)) = _
    rw [hr.expr true key (by omega) hkey, hr.pattern true value (by omega) hvalue]
    rfl
  | rest argument =>
    replace hd := depthFields_le hd
    simp only [depthFields_cons] at hd
    show (do some (PatternMember.rest (← r.pattern true argument.encode))) = _
    rw [hr.pattern true argument (by omega) hf]
    rfl

theorem memberOfFields_fields (kind : Json) {object property : Expr} (computed optional : Bool)
    (hdo : object.encode.depth ≤ n) (hdp : property.encode.depth ≤ n)
    (hf : AllFinite (object.numbers ++ property.numbers)) :
    r.memberOfFields (.named [("type", kind), ("object", object.encode),
      ("property", property.encode), ("computed", .bool computed), ("optional", .bool optional)]) =
      some (object, property, computed, optional) := by
  obtain ⟨ho, hp⟩ := allFinite_append.1 hf
  show (do
    some (← r.expr true object.encode, ← r.expr true property.encode, computed, optional)) = _
  rw [hr.expr true object hdo ho, hr.expr true property hdp hp]
  rfl

/-- No expression is a block, so a bare body is read as an expression. -/
theorem arrowBody_encode {e : Expr} (hd : e.encode.depth ≤ n) (hf : AllFinite e.numbers) :
    r.arrowBody e.encode = some (.inr e) := by
  have hexpr := hr.expr true e hd hf
  obtain ⟨kind, hkind, fields, he⟩ := e.encode_eq_node
  have hapart : ∀ kind ∈ exprKinds, kind ∉ ["BlockStatement"] := by decide
  unfold arrowBody
  rw [he, tagged?_node_eq_none (hapart kind hkind), ← he, hexpr]
  rfl

omit hr in
theorem arrowBody_blockNode (body : List Json) :
    r.arrowBody (blockNode body) = (match Json.list (r.stmt true) (.array body) with
      | some body => some (.inl body)
      | .none => (r.expr true (blockNode body)).map .inr) :=
  rfl

theorem arrowBody_block {ss : List Stmt} (hd : (blockNode (encodeStmts ss)).depth ≤ n)
    (hf : AllFinite (numbersOfStmts ss)) :
    r.arrowBody (blockNode (encodeStmts ss)) = some (.inl ss) := by
  simp only [blockNode, depth_node, depthFields_cons] at hd
  have hlist := hr.stmts true (by omega) hf
  rw [arrowBody_blockNode, hlist]

/-! ## The next round -/

omit hr in
/-- An arrow function is told by its body. -/
theorem nextExpr_arrowNode (kept : Bool) (params body : Json) (concise async : Bool) :
    r.nextExpr kept (node "ArrowFunctionExpression" [("params", params), ("body", body),
        ("expression", .bool concise), ("async", .bool async)]) = (do
      let params ← Json.list (r.pattern true) params
      let body ← r.arrowBody body
      match body with
      | .inl body => some (.arrowBlock params body concise async)
      | .inr body => some (.arrow params body concise async)) :=
  rfl

theorem nextExpr (kept : Bool) :
    ReadsBack (n + 1) Expr.numbers Expr.encode (r.nextExpr kept) := by
  intro e hd hf
  cases e with
  | identifier | privateName | thisRef | superRef | metaProperty => rfl
  | literal l =>
    show (Literal.ofFields (.named (("type", .string "Literal") :: l.fields))).map Expr.literal = _
    rw [Literal.ofFields_fields hf]
    rfl
  | array es =>
    replace hd := depthFields_le hd
    simp only [depthFields_cons] at hd
    show (Json.list (Json.nullable (r.expr true)) (.array (encodeElements es))).map Expr.array = _
    rw [hr.elements true (by omega) hf]
    rfl
  | object ms =>
    replace hd := depthFields_le hd
    simp only [depthFields_cons] at hd
    have hlist : Json.list (r.objectMember true) (.array (encodeMembers ms)) = some ms :=
      (hr.objectMember true).list (eq_flatMap_of_cons rfl fun _ _ => rfl)
        (eq_map_of_cons rfl fun _ _ => rfl) (by omega) hf
    show (Json.list (r.objectMember true) (.array (encodeMembers ms))).map Expr.object = _
    rw [hlist]
    rfl
  | function f =>
    replace hd := depthFields_le hd
    show (r.funcOfFields true (.named (("type", .string "FunctionExpression") :: f.fields))).map
      Expr.function = _
    rw [hr.funcOfFields_fields true _ (by omega) hf]
    rfl
  | arrow params body concise async =>
    replace hd := depthFields_le hd
    simp only [depthFields_cons] at hd
    obtain ⟨hparams, hbody⟩ := allFinite_append.1 hf
    refine (nextExpr_arrowNode kept _ _ concise async).trans ?_
    rw [hr.patterns true (by omega) hparams, hr.arrowBody_encode (by omega) hbody]
    rfl
  | arrowBlock params body concise async =>
    replace hd := depthFields_le hd
    simp only [depthFields_cons] at hd
    obtain ⟨hparams, hbody⟩ := allFinite_append.1 hf
    refine (nextExpr_arrowNode kept _ _ concise async).trans ?_
    rw [hr.patterns true (by omega) hparams, hr.arrowBody_block (by omega) hbody]
    rfl
  | classDef c =>
    replace hd := depthFields_le hd
    show (r.classOfFields true (.named (("type", .string "ClassExpression") :: c.fields))).map
      Expr.classDef = _
    rw [hr.classOfFields_fields true _ (by omega) hf]
    rfl
  | template quasis es =>
    replace hd := depthFields_le hd
    simp only [templateFields, depthFields_cons] at hd
    show (r.templateOfFields true (.named (("type", .string "TemplateLiteral") ::
      templateFields quasis (encodeExprs es)))).map (fun t => Expr.template t.1 t.2) = _
    rw [hr.templateOfFields_fields true _ (by omega) hf]
    rfl
  | tagged tag quasis es =>
    replace hd := depthFields_le hd
    simp only [templateFields, depth_node, depthFields_cons] at hd
    obtain ⟨htag, hes⟩ := allFinite_append.1 hf
    show (do
      let tag ← r.expr true tag.encode
      let t ← r.templateOfFields true (.named (("type", .string "TemplateLiteral") ::
        templateFields quasis (encodeExprs es)))
      some (Expr.tagged tag t.1 t.2)) = _
    rw [hr.expr true tag (by omega) htag, hr.templateOfFields_fields true _ (by omega) hes]
    rfl
  | unary op before argument =>
    replace hd := depthFields_le hd
    simp only [depthFields_cons] at hd
    show (do
      some (Expr.unary (← Json.word? true UnaryOp.all UnaryOp.symbol (.string op.symbol)) before
        (← r.expr true argument.encode))) = _
    rw [UnaryOp.word?_symbol, hr.expr true argument (by omega) hf]
    rfl
  | update op before argument =>
    replace hd := depthFields_le hd
    simp only [depthFields_cons] at hd
    show (do
      some (Expr.update (← Json.word? true UpdateOp.all UpdateOp.symbol (.string op.symbol)) before
        (← r.expr true argument.encode))) = _
    rw [UpdateOp.word?_symbol, hr.expr true argument (by omega) hf]
    rfl
  | binary op left right =>
    replace hd := depthFields_le hd
    simp only [depthFields_cons] at hd
    obtain ⟨hleft, hright⟩ := allFinite_append.1 hf
    show (do
      some (Expr.binary (← Json.word? true BinaryOp.all BinaryOp.symbol (.string op.symbol))
        (← r.expr true left.encode) (← r.expr true right.encode))) = _
    rw [BinaryOp.word?_symbol, hr.expr true left (by omega) hleft,
      hr.expr true right (by omega) hright]
    rfl
  | logical op left right =>
    replace hd := depthFields_le hd
    simp only [depthFields_cons] at hd
    obtain ⟨hleft, hright⟩ := allFinite_append.1 hf
    show (do
      some (Expr.logical (← Json.word? true LogicalOp.all LogicalOp.symbol (.string op.symbol))
        (← r.expr true left.encode) (← r.expr true right.encode))) = _
    rw [LogicalOp.word?_symbol, hr.expr true left (by omega) hleft,
      hr.expr true right (by omega) hright]
    rfl
  | assign op left right =>
    replace hd := depthFields_le hd
    simp only [depthFields_cons] at hd
    obtain ⟨hleft, hright⟩ := allFinite_append.1 hf
    show (do
      some (Expr.assign (← Json.word? true AssignOp.all AssignOp.symbol (.string op.symbol))
        (← r.pattern true left.encode) (← r.expr true right.encode))) = _
    rw [AssignOp.word?_symbol, hr.pattern true left (by omega) hleft,
      hr.expr true right (by omega) hright]
    rfl
  | conditional test consequent alternate =>
    replace hd := depthFields_le hd
    simp only [depthFields_cons] at hd
    obtain ⟨hf, halternate⟩ := allFinite_append.1 hf
    obtain ⟨htest, hconsequent⟩ := allFinite_append.1 hf
    show (do
      some (Expr.conditional (← r.expr true test.encode) (← r.expr true consequent.encode)
        (← r.expr true alternate.encode))) = _
    rw [hr.expr true test (by omega) htest, hr.expr true consequent (by omega) hconsequent,
      hr.expr true alternate (by omega) halternate]
    rfl
  | member object property computed optional =>
    replace hd := depthFields_le hd
    simp only [depthFields_cons] at hd
    show (r.memberOfFields (.named [("type", .string "MemberExpression"), ("object", object.encode),
      ("property", property.encode), ("computed", .bool computed),
      ("optional", .bool optional)])).map (fun m => Expr.member m.1 m.2.1 m.2.2.1 m.2.2.2) = _
    rw [hr.memberOfFields_fields _ computed optional (by omega) (by omega) hf]
    rfl
  | call callee arguments optional =>
    replace hd := depthFields_le hd
    simp only [depthFields_cons] at hd
    obtain ⟨hcallee, harguments⟩ := allFinite_append.1 hf
    show (do
      some (Expr.call (← r.expr true callee.encode)
        (← Json.list (r.expr true) (.array (encodeExprs arguments))) optional)) = _
    rw [hr.expr true callee (by omega) hcallee, hr.exprs true (by omega) harguments]
    rfl
  | new callee arguments =>
    replace hd := depthFields_le hd
    simp only [depthFields_cons] at hd
    obtain ⟨hcallee, harguments⟩ := allFinite_append.1 hf
    show (do
      some (Expr.new (← r.expr true callee.encode)
        (← Json.list (r.expr true) (.array (encodeExprs arguments))))) = _
    rw [hr.expr true callee (by omega) hcallee, hr.exprs true (by omega) harguments]
    rfl
  | sequence es =>
    replace hd := depthFields_le hd
    simp only [depthFields_cons] at hd
    show (Json.list (r.expr true) (.array (encodeExprs es))).map Expr.sequence = _
    rw [hr.exprs true (by omega) hf]
    rfl
  | spread argument =>
    replace hd := depthFields_le hd
    simp only [depthFields_cons] at hd
    show (r.expr true argument.encode).map Expr.spread = _
    rw [hr.expr true argument (by omega) hf]
    rfl
  | await argument =>
    replace hd := depthFields_le hd
    simp only [depthFields_cons] at hd
    show (r.expr true argument.encode).map Expr.await = _
    rw [hr.expr true argument (by omega) hf]
    rfl
  | yield argument delegate =>
    replace hd := depthFields_le hd
    simp only [depthFields_cons] at hd
    show (do
      some (Expr.yield (← Json.nullable (r.expr true) (encodeOption argument)) delegate)) = _
    rw [hr.option true argument (by omega) hf]
    rfl
  | chain expression =>
    replace hd := depthFields_le hd
    simp only [depthFields_cons] at hd
    show (r.expr true expression.encode).map Expr.chain = _
    rw [hr.expr true expression (by omega) hf]
    rfl
  | importCall source =>
    replace hd := depthFields_le hd
    simp only [depthFields_cons] at hd
    show (r.expr true source.encode).map Expr.importCall = _
    rw [hr.expr true source (by omega) hf]
    rfl

theorem nextPattern (kept : Bool) :
    ReadsBack (n + 1) Pattern.numbers Pattern.encode (r.nextPattern kept) := by
  intro p hd hf
  cases p with
  | identifier => rfl
  | object ms =>
    replace hd := depthFields_le hd
    simp only [depthFields_cons] at hd
    have hlist : Json.list (r.patternMember true) (.array (encodePatternMembers ms)) = some ms :=
      (hr.patternMember true).list (eq_flatMap_of_cons rfl fun _ _ => rfl)
        (eq_map_of_cons rfl fun _ _ => rfl) (by omega) hf
    show (Json.list (r.patternMember true) (.array (encodePatternMembers ms))).map
      Pattern.object = _
    rw [hlist]
    rfl
  | array ps =>
    replace hd := depthFields_le hd
    simp only [depthFields_cons] at hd
    show (Json.list (Json.nullable (r.pattern true)) (.array (encodePatternElements ps))).map
      Pattern.array = _
    rw [hr.patternElements true (by omega) hf]
    rfl
  | rest argument =>
    replace hd := depthFields_le hd
    simp only [depthFields_cons] at hd
    show (r.pattern true argument.encode).map Pattern.rest = _
    rw [hr.pattern true argument (by omega) hf]
    rfl
  | withDefault left right =>
    replace hd := depthFields_le hd
    simp only [depthFields_cons] at hd
    obtain ⟨hleft, hright⟩ := allFinite_append.1 hf
    show (do
      some (Pattern.withDefault (← r.pattern true left.encode) (← r.expr true right.encode))) = _
    rw [hr.pattern true left (by omega) hleft, hr.expr true right (by omega) hright]
    rfl
  | member object property computed optional =>
    replace hd := depthFields_le hd
    simp only [depthFields_cons] at hd
    show (r.memberOfFields (.named [("type", .string "MemberExpression"), ("object", object.encode),
      ("property", property.encode), ("computed", .bool computed),
      ("optional", .bool optional)])).map (fun m => Pattern.member m.1 m.2.1 m.2.2.1 m.2.2.2) = _
    rw [hr.memberOfFields_fields _ computed optional (by omega) (by omega) hf]
    rfl

theorem switchCase (kept : Bool) :
    ReadsBack (n + 1) SwitchCase.numbers SwitchCase.encode (r.switchCase kept) := by
  rintro ⟨test, consequent⟩ hd hf
  replace hd := depthFields_le hd
  simp only [depthFields_cons] at hd
  obtain ⟨htest, hconsequent⟩ := allFinite_append.1 hf
  show (do
    some (SwitchCase.mk (← Json.nullable (r.expr kept) (encodeOption test))
      (← Json.list (r.stmt kept) (.array (encodeStmts consequent))))) = _
  rw [hr.option kept test (by omega) htest, hr.stmts kept (by omega) hconsequent]
  rfl

/-- A `catch` clause where one may be missing. -/
theorem catchClause_catchNode {param : Option Pattern} {handler : List Stmt}
    (hd : (catchNode (encodeOptionPattern param) (blockNode (encodeStmts handler))).depth ≤ n)
    (hparam : AllFinite (numbersOfOptionPattern param))
    (hhandler : AllFinite (numbersOfStmts handler)) :
    Json.nullable (r.catchClause true)
        (catchNode (encodeOptionPattern param) (blockNode (encodeStmts handler))) =
      some (some (param, handler)) := by
  simp only [catchNode, depth_node, depthFields_cons] at hd
  show (do
    some (← Json.nullable (r.pattern true) (encodeOptionPattern param),
      ← r.block true (blockNode (encodeStmts handler)))).map some = _
  rw [hr.optionPattern true param (by omega) hparam, hr.block true (by omega) hhandler]
  rfl

/-- A block where one may be missing. -/
theorem nullable_block {ss : List Stmt} (hd : (blockNode (encodeStmts ss)).depth ≤ n)
    (hf : AllFinite (numbersOfStmts ss)) :
    Json.nullable (r.block true) (blockNode (encodeStmts ss)) = some (some ss) := by
  show (r.block true (blockNode (encodeStmts ss))).map some = _
  rw [hr.block true (by omega) hf]
  rfl

omit hr in
theorem variablesOr_variablesNode {α : Type} (other : Json → Option α) (kind : VariableKind)
    (ds : List Json) :
    r.variablesOr other (variablesNode kind ds) =
      (match r.variablesOfFields true (.named [("type", .string "VariableDeclaration"),
          ("kind", .string kind.keyword), ("declarations", .array ds)]) with
        | some v => some (.inl v)
        | .none => (other (variablesNode kind ds)).map .inr) :=
  rfl

theorem variablesOr_variables {α : Type} (other : Json → Option α) (kind : VariableKind)
    {ds : List Declarator} (hd : (variablesNode kind (encodeDeclarators ds)).depth ≤ n)
    (hf : AllFinite (numbersOfDeclarators ds)) :
    r.variablesOr other (variablesNode kind (encodeDeclarators ds)) = some (.inl (kind, ds)) := by
  simp only [variablesNode, depth_node, depthFields_cons] at hd
  have hvariables := hr.variablesOfFields_fields true (.string "VariableDeclaration") kind
    (by omega) hf
  rw [variablesOr_variablesNode, hvariables]

omit hr in
/-- What is no variable declaration is left to the other reader. -/
theorem variablesOr_other {α : Type} (other : Json → Option α) {kind : String}
    (hkind : kind ∉ ["VariableDeclaration"]) (fields : List (String × Json)) :
    r.variablesOr other (node kind fields) = (other (node kind fields)).map .inr := by
  unfold variablesOr
  rw [tagged?_node_eq_none hkind]
  rfl

theorem forInit_encode {e : Expr} (hd : e.encode.depth ≤ n) (hf : AllFinite e.numbers) :
    r.forInit e.encode = some (.inr e) := by
  have hexpr := hr.expr true e hd hf
  obtain ⟨kind, hkind, fields, he⟩ := e.encode_eq_node
  have hapart : ∀ kind ∈ exprKinds, kind ∉ ["VariableDeclaration"] := by decide
  rw [he] at hexpr ⊢
  rw [forInit, variablesOr_other _ (hapart kind hkind), hexpr]
  rfl

theorem forLeft_encode {p : Pattern} (hd : p.encode.depth ≤ n) (hf : AllFinite p.numbers) :
    r.forLeft p.encode = some (.inr p) := by
  have hpattern := hr.pattern true p hd hf
  obtain ⟨kind, hkind, fields, hp⟩ := p.encode_eq_node
  have hapart : ∀ kind ∈ patternKinds, kind ∉ ["VariableDeclaration"] := by decide
  rw [hp] at hpattern ⊢
  rw [forLeft, variablesOr_other _ (hapart kind hkind), hpattern]
  rfl

omit hr in
theorem forEachOfFields_named (loop : LoopKind) (kind left right body : Json) (await : Bool) :
    r.forEachOfFields loop (.named (("type", kind) ::
        ([("left", left), ("right", right), ("body", body)] ++ flagField "await" await))) = (do
      let left ← r.forLeft left
      let right ← r.expr true right
      let body ← r.stmt true body
      match left with
      | .inl (kind, ds) => some (.forEachVariable loop kind ds right body await)
      | .inr left => some (.forEach loop left right body await)) := by
  cases await <;> rfl

/-- A loop over keys or values, from what its first part is read as. -/
theorem forEachOfFields_fields (loop : LoopKind) (kind : Json) {left : Json}
    {target : (VariableKind × List Declarator) ⊕ Pattern} (hleft : r.forLeft left = some target)
    {right : Expr} {body : Stmt} (await : Bool) (hdr : right.encode.depth ≤ n)
    (hdb : body.encode.depth ≤ n) (hright : AllFinite right.numbers)
    (hbody : AllFinite body.numbers) :
    r.forEachOfFields loop (.named (("type", kind) ::
        ([("left", left), ("right", right.encode), ("body", body.encode)] ++
          flagField "await" await))) =
      some (target.elim (fun (kind, ds) => .forEachVariable loop kind ds right body await)
        (fun left => .forEach loop left right body await)) := by
  rw [forEachOfFields_named, hleft, hr.expr true right hdr hright, hr.stmt true body hdb hbody]
  cases target <;> rfl

omit hr in
theorem nextStmt_ifNode (kept : Bool) (test consequent alternate : Json) :
    r.nextStmt kept (node "IfStatement"
        [("test", test), ("consequent", consequent), ("alternate", alternate)]) = (do
      let test ← r.expr true test
      let consequent ← r.stmt true consequent
      let alternate ← Json.nullable (r.stmt true) alternate
      match alternate with
      | .none => some (.if test consequent)
      | some alternate => some (.ifElse test consequent alternate)) :=
  rfl

omit hr in
/-- The four forms of a `try` are told by which parts are null. -/
theorem nextStmt_tryNode (kept : Bool) (block handler finalizer : Json) :
    r.nextStmt kept (tryNode block handler finalizer) = (do
      let block ← r.block true block
      let handler ← Json.nullable (r.catchClause true) handler
      let finalizer ← Json.nullable (r.block true) finalizer
      match handler, finalizer with
      | .none, .none => some (Stmt.try block)
      | some (param, body), .none => some (Stmt.tryCatch block param body)
      | .none, some finalizer => some (Stmt.tryFinally block finalizer)
      | some (param, body), some finalizer =>
        some (Stmt.tryCatchFinally block param body finalizer)) :=
  rfl

omit hr in
theorem nextStmt_forNode (kept : Bool) (init test update body : Json) :
    r.nextStmt kept (node "ForStatement"
        [("init", init), ("test", test), ("update", update), ("body", body)]) = (do
      let init ← Json.nullable r.forInit init
      let test ← Json.nullable (r.expr true) test
      let update ← Json.nullable (r.expr true) update
      let body ← r.stmt true body
      match init with
      | .none => some (Stmt.for .none test update body)
      | some (.inr init) => some (Stmt.for (some init) test update body)
      | some (.inl (kind, ds)) => some (Stmt.forVariables kind ds test update body)) :=
  rfl

omit hr in
theorem nextStmt_forEachNode (kept : Bool) (loop : LoopKind) (fields : List (String × Json)) :
    r.nextStmt kept (node loop.nodeName fields) =
      r.forEachOfFields loop (.named (("type", .string loop.nodeName) :: fields)) := by
  cases loop <;> rfl

theorem nextStmt (kept : Bool) :
    ReadsBack (n + 1) Stmt.numbers Stmt.encode (r.nextStmt kept) := by
  intro s hd hf
  cases s with
  | empty | debugger => rfl
  | expression expression directive =>
    cases directive
    all_goals
      replace hd := depthFields_le hd
      simp only [depthFields_cons] at hd
      show (do some (Stmt.expression (← r.expr true expression.encode) _)) = _
      rw [hr.expr true expression (by omega) hf]
      rfl
  | block body =>
    replace hd := depthFields_le hd
    simp only [depthFields_cons] at hd
    show (Json.list (r.stmt true) (.array (encodeStmts body))).map Stmt.block = _
    rw [hr.stmts true (by omega) hf]
    rfl
  | «return» argument =>
    replace hd := depthFields_le hd
    simp only [depthFields_cons] at hd
    show (Json.nullable (r.expr true) (encodeOption argument)).map Stmt.return = _
    rw [hr.option true argument (by omega) hf]
    rfl
  | labeled label body =>
    replace hd := depthFields_le hd
    simp only [depthFields_cons] at hd
    show (do some (Stmt.labeled label (← r.stmt true body.encode))) = _
    rw [hr.stmt true body (by omega) hf]
    rfl
  | «break» label =>
    show (Json.nullable decodeName (optionalIdentifier label)).map Stmt.break = _
    rw [nullable_optionalIdentifier]
    rfl
  | «continue» label =>
    show (Json.nullable decodeName (optionalIdentifier label)).map Stmt.continue = _
    rw [nullable_optionalIdentifier]
    rfl
  | «if» test consequent =>
    replace hd := depthFields_le hd
    simp only [depthFields_cons] at hd
    obtain ⟨htest, hconsequent⟩ := allFinite_append.1 hf
    show (do some (Stmt.if (← r.expr true test.encode) (← r.stmt true consequent.encode))) = _
    rw [hr.expr true test (by omega) htest, hr.stmt true consequent (by omega) hconsequent]
    rfl
  | ifElse test consequent alternate =>
    replace hd := depthFields_le hd
    simp only [depthFields_cons] at hd
    obtain ⟨hf, halternate⟩ := allFinite_append.1 hf
    obtain ⟨htest, hconsequent⟩ := allFinite_append.1 hf
    refine (nextStmt_ifNode kept _ _ _).trans ?_
    rw [hr.expr true test (by omega) htest, hr.stmt true consequent (by omega) hconsequent,
      Json.nullable_of_ne_null _ alternate.encode_ne_null,
      hr.stmt true alternate (by omega) halternate]
    rfl
  | switch discriminant cases =>
    replace hd := depthFields_le hd
    simp only [depthFields_cons] at hd
    obtain ⟨hdiscriminant, hcases⟩ := allFinite_append.1 hf
    have hlist : Json.list (r.switchCase true) (.array (encodeCases cases)) = some cases :=
      (hr.switchCase true).list (eq_flatMap_of_cons rfl fun _ _ => rfl)
        (eq_map_of_cons rfl fun _ _ => rfl) (by omega) hcases
    show (do
      some (Stmt.switch (← r.expr true discriminant.encode)
        (← Json.list (r.switchCase true) (.array (encodeCases cases))))) = _
    rw [hr.expr true discriminant (by omega) hdiscriminant, hlist]
    rfl
  | throw argument =>
    replace hd := depthFields_le hd
    simp only [depthFields_cons] at hd
    show (r.expr true argument.encode).map Stmt.throw = _
    rw [hr.expr true argument (by omega) hf]
    rfl
  | «try» block =>
    replace hd := depthFields_le hd
    simp only [depthFields_cons] at hd
    refine (nextStmt_tryNode kept _ _ _).trans ?_
    rw [hr.block true (by omega) hf]
    rfl
  | tryCatch block param handler =>
    replace hd := depthFields_le hd
    simp only [depthFields_cons] at hd
    obtain ⟨hf, hhandler⟩ := allFinite_append.1 hf
    obtain ⟨hblock, hparam⟩ := allFinite_append.1 hf
    refine (nextStmt_tryNode kept _ _ _).trans ?_
    rw [hr.block true (by omega) hblock,
      hr.catchClause_catchNode (by omega) hparam hhandler]
    rfl
  | tryFinally block finalizer =>
    replace hd := depthFields_le hd
    simp only [depthFields_cons] at hd
    obtain ⟨hblock, hfinalizer⟩ := allFinite_append.1 hf
    refine (nextStmt_tryNode kept _ _ _).trans ?_
    rw [hr.block true (by omega) hblock,
      hr.nullable_block (by omega) hfinalizer]
    rfl
  | tryCatchFinally block param handler finalizer =>
    replace hd := depthFields_le hd
    simp only [depthFields_cons] at hd
    obtain ⟨hf, hfinalizer⟩ := allFinite_append.1 hf
    obtain ⟨hf, hhandler⟩ := allFinite_append.1 hf
    obtain ⟨hblock, hparam⟩ := allFinite_append.1 hf
    refine (nextStmt_tryNode kept _ _ _).trans ?_
    rw [hr.block true (by omega) hblock,
      hr.catchClause_catchNode (by omega) hparam hhandler,
      hr.nullable_block (by omega) hfinalizer]
    rfl
  | «while» test body =>
    replace hd := depthFields_le hd
    simp only [depthFields_cons] at hd
    obtain ⟨htest, hbody⟩ := allFinite_append.1 hf
    show (do some (Stmt.while (← r.expr true test.encode) (← r.stmt true body.encode))) = _
    rw [hr.expr true test (by omega) htest, hr.stmt true body (by omega) hbody]
    rfl
  | doWhile test body =>
    replace hd := depthFields_le hd
    simp only [depthFields_cons] at hd
    obtain ⟨htest, hbody⟩ := allFinite_append.1 hf
    show (do some (Stmt.doWhile (← r.expr true test.encode) (← r.stmt true body.encode))) = _
    rw [hr.expr true test (by omega) htest, hr.stmt true body (by omega) hbody]
    rfl
  | «for» init test update body =>
    replace hd := depthFields_le hd
    simp only [depthFields_cons] at hd
    obtain ⟨hf, hbody⟩ := allFinite_append.1 hf
    obtain ⟨hf, hupdate⟩ := allFinite_append.1 hf
    obtain ⟨hinit, htest⟩ := allFinite_append.1 hf
    have hinit : Json.nullable r.forInit (encodeOption init) = some (init.map Sum.inr) := by
      cases init with
      | none => rfl
      | some e =>
        rw [encodeOption] at hd ⊢
        rw [Json.nullable_of_ne_null _ e.encode_ne_null, hr.forInit_encode (by omega) hinit]
        rfl
    refine (nextStmt_forNode kept _ _ _ _).trans ?_
    rw [hinit, hr.option true test (by omega) htest,
      hr.option true update (by omega) hupdate, hr.stmt true body (by omega) hbody]
    cases init <;> rfl
  | forVariables kind ds test update body =>
    replace hd := depthFields_le hd
    simp only [depthFields_cons] at hd
    obtain ⟨hf, hbody⟩ := allFinite_append.1 hf
    obtain ⟨hf, hupdate⟩ := allFinite_append.1 hf
    obtain ⟨hds, htest⟩ := allFinite_append.1 hf
    have hinit : Json.nullable r.forInit (variablesNode kind (encodeDeclarators ds)) =
        some (some (.inl (kind, ds))) := by
      show (r.forInit (variablesNode kind (encodeDeclarators ds))).map some = _
      rw [forInit, hr.variablesOr_variables _ kind (by omega) hds]
      rfl
    refine (nextStmt_forNode kept _ _ _ _).trans ?_
    rw [hinit, hr.option true test (by omega) htest,
      hr.option true update (by omega) hupdate, hr.stmt true body (by omega) hbody]
    rfl
  | forEach loop left right body await =>
    replace hd := depthFields_le hd
    simp only [List.cons_append, depthFields_cons] at hd
    obtain ⟨hf, hbody⟩ := allFinite_append.1 hf
    obtain ⟨hleft, hright⟩ := allFinite_append.1 hf
    refine (nextStmt_forEachNode kept loop _).trans ?_
    rw [hr.forEachOfFields_fields loop _
      (hr.forLeft_encode (by omega) hleft) await (by omega) (by omega) hright hbody]
    rfl
  | forEachVariable loop kind ds right body await =>
    replace hd := depthFields_le hd
    simp only [List.cons_append, depthFields_cons] at hd
    obtain ⟨hf, hbody⟩ := allFinite_append.1 hf
    obtain ⟨hds, hright⟩ := allFinite_append.1 hf
    refine (nextStmt_forEachNode kept loop _).trans ?_
    rw [hr.forEachOfFields_fields loop _
      (hr.variablesOr_variables _ kind (by omega) hds) await (by omega) (by omega) hright hbody]
    rfl
  | function f =>
    replace hd := depthFields_le hd
    show (r.funcOfFields true (.named (("type", .string "FunctionDeclaration") :: f.fields))).map
      Stmt.function = _
    rw [hr.funcOfFields_fields true _ hd hf]
    rfl
  | classDef c =>
    replace hd := depthFields_le hd
    show (r.classOfFields true (.named (("type", .string "ClassDeclaration") :: c.fields))).map
      Stmt.classDef = _
    rw [hr.classOfFields_fields true _ hd hf]
    rfl
  | _ kind ds =>
    -- Declarations of variables.
    replace hd := depthFields_le hd
    simp only [depthFields_cons] at hd
    show (r.variablesOfFields true (.named [("type", .string "VariableDeclaration"),
      ("kind", .string kind.keyword), ("declarations", .array (encodeDeclarators ds))])).map
      (fun v => Stmt.variables v.1 v.2) = _
    rw [hr.variablesOfFields_fields true _ kind (by omega) hf]
    rfl

/-- The readers of the next round are faithful one level deeper. -/
theorem next : r.next.Faithful (n + 1) :=
  ⟨hr.nextExpr, hr.nextPattern, hr.nextStmt⟩

end Readers.Faithful

/-- The readers of a round are faithful up to its number. -/
theorem readers_faithful : ∀ n, (readers n).Faithful n
  | 0 => by
    have hpos (j : Json) : ¬ j.depth ≤ 0 := by cases j <;> simp [depth]
    exact ⟨fun _ e hd => absurd hd (hpos _), fun _ p hd => absurd hd (hpos _),
      fun _ s hd => absurd hd (hpos _)⟩
  | n + 1 => (readers_faithful n).next

end CustomElement.Tree
