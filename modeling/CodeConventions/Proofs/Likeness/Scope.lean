import CodeConventions.Function.Component
import CodeConventions.Proofs.Expression.Literal
import CodeConventions.Proofs.Likeness.Basic
import CodeConventions.Proofs.Scope.Declaration
import CodeConventions.Scope.Constant
import CodeConventions.Scope.Library

/-!
# Names in like documents

Chains of members, literals, keys and the names of functions read the same in like documents.  The
names that a pattern, an import, a statement or a scope declares are those that its image declares,
and a declaration has the image of the declaration.  So a use of a name resolves to the image of
what it resolves to, and what a constant stands for is the same value and the image of the same
expression.

What is read of an expression through its wrappers is read of whatever is, without its wrappers, the
image of the expression; these lemmas take that as their hypothesis.
-/

namespace CodeConventions

/-! ## One step of each way down -/

namespace Document

variable (d : Document) (n : Node)

theorem memberPath?_eq :
    d.memberPath? n =
      if n.unwrap.kind = "identifier" || n.unwrap.kind = "this" then some (d.text n.unwrap)
      else if n.unwrap.kind = "member_expression" then
        (n.unwrap.child? "object").bind fun o => (d.memberPath? o).bind fun path =>
          (n.unwrap.child? "property").map fun p => s!"{path}.{d.text p}"
      else none := by
  rw [memberPath?]
  split
  · rfl
  · split
    · cases n.unwrap.child? "object" with
      | none => rfl
      | some o =>
        simp only [Option.bind_some]
        cases d.memberPath? o <;> cases n.unwrap.child? "property" <;> rfl
    · rfl

end Document

theorem lookup_map_image {β γ : Type} (image : β → γ) (bs : List (String × β)) (name : String) :
    (bs.map fun b => (b.1, image b.2)).lookup name = (bs.lookup name).map image := by
  induction bs with
  | nil => rfl
  | cons b bs ih =>
    obtain ⟨declared, n⟩ := b
    simp only [List.map_cons, List.lookup_cons, ih]
    cases name == declared <;> rfl

namespace Likeness

variable {d d' : Document} (h : Likeness d d') {m n : Node}

/-! ## Expressions -/

theorem memberPath?_of_unwrap (hm : m.unwrap = h.image n.unwrap) :
    d'.memberPath? m = d.memberPath? n := by
  induction n using Node.unwrapInduction generalizing m with
  | step n ih =>
    rw [Document.memberPath?_eq, Document.memberPath?_eq d n, hm, h.kind_image, h.text_image,
      h.child?_stand, h.child?_stand]
    cases ho : n.unwrap.child? "object" with
    | none => rfl
    | some o =>
      have hpath := ih o (Node.mem_children_of_child? ho) (h.unwrap_stand o)
      simp [hpath, Function.comp_def]

theorem stringValue?_of_unwrap (hm : m.unwrap = h.image n.unwrap) :
    d'.stringValue? m = d.stringValue? n := by
  simp only [Document.stringValue?, hm, h.kind_image, h.text_image]
  by_cases htemplate : n.unwrap.kind = "template_string"
  · rw [(h.plain_of_kind htemplate (by decide)).parts_image]
    simp [List.any_map, Function.comp_def]
  · simp only [if_neg htemplate]

theorem operator_image (n : Node) : d'.operator (h.image n) = d.operator n := h.text?_child? n _

/-- The value of an expression is that of its image if the values of names are. -/
theorem valueWith_of_unwrap {name name' : Node → Option StaticValue}
    (hname : ∀ m, name' (h.image m) = name m) (hm : m.unwrap = h.image n.unwrap) :
    d'.valueWith name' m = d.valueWith name n := by
  induction n using Node.unwrapInduction generalizing m with
  | step n ih =>
    have hstring : d'.stringValue? (h.image n.unwrap) = d.stringValue? n.unwrap :=
      h.stringValue?_of_unwrap (h.unwrap_image _)
    rw [Document.valueWith_eq, Document.valueWith_eq d n, hm, hstring, h.kind_image, h.text_image,
      h.operator_image, h.child?_stand, hname]
    cases ha : n.unwrap.child? "argument" with
    | none => rfl
    | some a =>
      have hvalue := ih a (Node.mem_children_of_child? ha) (h.unwrap_stand a)
      simp [hvalue]

theorem keyName?_image (n : Node) : d'.keyName? (h.image n) = d.keyName? n := by
  have hstring : d'.stringValue? (h.image n) = d.stringValue? n :=
    h.stringValue?_of_unwrap (h.unwrap_image n)
  have hvalue : ∀ c, d'.literalValue? (h.image c) = d.literalValue? c := fun c =>
    h.valueWith_of_unwrap (fun _ => rfl) (h.unwrap_image c)
  simp only [Document.keyName?, h.isOneOf_image, h.kind_image, h.text_image, hstring]
  by_cases hcomputed : n.kind = "computed_property_name"
  · rw [(h.plain_of_kind hcomputed (by decide)).firstPart?_image, Option.bind_map]
    simp only [Function.comp_def, hvalue]
  · simp only [if_neg hcomputed]

@[simp] theorem callee?_image (n : Node) : (h.image n).callee? = n.callee?.map h.image := by
  simp [Node.callee?]

@[simp] theorem arguments_image (n : Node) :
    (h.image n).arguments = n.arguments.map h.image := by
  unfold Node.arguments
  rw [h.child?_stand]
  cases n.child? "arguments" with
  | none => rfl
  | some a =>
    simp only [Option.map_some]
    rcases h.stand_cases a with heq | ⟨hname, hwrapper⟩
    · rw [heq, h.kind_image]
      by_cases hkind : a.kind = "arguments"
      · rw [if_pos hkind, if_pos hkind, (h.plain_of_kind hkind (by decide)).parts_image]
      · rw [if_neg hkind, if_neg hkind, List.map_nil]
    -- neither a name nor a wrapper holds arguments
    · have hkind : (h.stand a).kind ≠ "arguments" := fun hkind =>
        absurd (hkind ▸ Node.isWrapper_iff.mp hwrapper) (by decide)
      rw [if_neg hkind, if_neg (by rw [hname]; decide), List.map_nil]

/-! ## Functions -/

theorem parameterList_image (hfn : n.isFunction = true) :
    (h.image n).parameterList = n.parameterList.map h.image := by
  unfold Node.parameterList
  rw [(h.plain_of_isFunction hfn).child?_image]
  cases hl : n.child? "parameters" with
  | none => rfl
  | some l =>
    have hplain : h.Plain l := fun c hc => h.stand_parameter hfn hl hc
    exact hplain.parts_image

theorem parameters_image (hfn : n.isFunction = true) :
    (h.image n).parameters = n.parameters.map h.image := by
  unfold Node.parameters
  rw [(h.plain_of_isFunction hfn).child?_image]
  cases n.child? "parameter" with
  | some p => rfl
  | none =>
    simp only [Option.map_none, h.parameterList_image hfn]
    refine filterMap_map_image (fun p => ?_) _
    simp only [h.isOneOf_image, h.kind_image]
    by_cases hwrapped : p.isOneOf Node.parameterKinds = true
    · rw [if_pos hwrapped, if_pos hwrapped,
        (h.plain_of_isOneOf hwrapped (by decide)).child?_image]
    · rw [if_neg hwrapped, if_neg hwrapped]
      split <;> rfl

theorem functionName?_image (n : Node) :
    d'.functionName? (h.image n) = d.functionName? n := by
  unfold Document.functionName?
  rw [h.child?_stand, h.climb?_image]
  cases n.child? "name" with
  -- the name may have got a wrapper, which has the same text
  | some name => exact congrArg some (h.text_stand name)
  | none =>
    cases n.climb? with
    | none => rfl
    | some parent =>
      simp only [Option.map_none, Option.map_some, h.kind_image]
      by_cases hvariable : parent.kind = "variable_declarator"
      · rw [if_pos hvariable, if_pos hvariable,
          (h.plain_of_kind hvariable (by decide)).child?_image]
        cases parent.child? "name" <;> simp
      · rw [if_neg hvariable, if_neg hvariable]
        by_cases hpair : parent.kind = "pair"
        · rw [if_pos hpair, if_pos hpair, (h.plain_of_kind hpair (by decide)).child?_image,
            Option.bind_map]
          simp only [Function.comp_def, h.keyName?_image]
        · have hpath : ∀ c, d'.memberPath? (h.stand c) = d.memberPath? c := fun c =>
            h.memberPath?_of_unwrap (h.unwrap_stand c)
          rw [if_neg hpair, if_neg hpair, h.child?_stand, Option.bind_map]
          simp only [Function.comp_def, hpath]

theorem rendersMarkup_image (hfn : n.isFunction = true) :
    (h.image n).rendersMarkup = n.rendersMarkup := by
  unfold Node.rendersMarkup Node.ownNodes
  rw [(h.plain_of_isFunction hfn).child?_image]
  cases n.child? "body" with
  | none => rfl
  | some body =>
    -- which element is found first does not matter, only whether there is one
    have hopen := h.openElements_image body
    rw [Bool.eq_iff_iff, ← List.isSome_find?, ← List.isSome_find?, ← List.head?_filter,
      ← List.head?_filter]
    simp only [Option.map_some, hopen, List.head?_map, Option.isSome_map]

/-! ## Patterns -/

theorem boundNames_image (n : Node) :
    (h.image n).boundNames = n.boundNames.map h.image := by
  induction n using Node.childrenInduction with
  | step n ih =>
    rw [Node.boundNames_eq, Node.boundNames_eq n, h.kind_image]
    by_cases hname : namePatternKinds.contains n.kind = true
    · rw [if_pos hname, if_pos hname]
      rfl
    rw [if_neg hname, if_neg hname]
    cases hrole : bindingRole? n.kind with
    | some role =>
      have hplain : h.Plain n := h.plain_of_isOneOf (isOneOf_of_bindingRole? hrole) (by decide)
      simp only [hplain.child?_image]
      cases hc : n.child? role with
      | none => rfl
      | some c => exact ih c (Node.mem_children_of_child? hc)
    | none =>
      by_cases hparts : partPatternKinds.contains n.kind = true
      · have hplain : h.Plain n :=
          h.plain_of_isOneOf (Node.isOneOf_iff.mpr (List.contains_iff_mem.mp hparts)) (by decide)
        simp only [if_pos hparts, hplain.parts_image]
        exact flatMap_map_image_of_mem fun c hc => ih c (Node.mem_children_of_mem_parts hc)
      · simp only [if_neg hparts, List.map_nil]

@[simp] theorem boundNames?_image (n : Option Node) :
    Node.boundNames? (n.map h.image) = (Node.boundNames? n).map h.image := by
  cases n with
  | none => rfl
  | some n => exact h.boundNames_image n

end Likeness

/-! ## Imports -/

/-- The imported name, at another node. -/
def ImportBinding.movedTo (image : Node → Node) (b : ImportBinding) : ImportBinding :=
  { b with node := image b.node }

namespace Likeness

variable {d d' : Document} (h : Likeness d d') {n : Node}

theorem specifierImport_image (source : String) (typeOnly : Bool)
    (hn : n.kind = "import_specifier") :
    d'.specifierImport source typeOnly (h.image n) =
      (d.specifierImport source typeOnly n).movedTo h.image := by
  have hplain : h.Plain n := h.plain_of_kind hn (by decide)
  have htoken : (h.image n).hasToken "type" = n.hasToken "type" :=
    h.hasToken_image n "type" (by decide)
  unfold Document.specifierImport
  simp only [hplain.child?_image, htoken, h.text?_image, Option.bind_map, Function.comp_def,
    h.keyName?_image]
  cases n.child? "alias" <;> simp [ImportBinding.movedTo]

theorem partImports_image (source : String) (typeOnly : Bool) (n : Node) :
    d'.partImports source typeOnly (h.image n) =
      (d.partImports source typeOnly n).map (ImportBinding.movedTo h.image) := by
  unfold Document.partImports
  rw [h.kind_image]
  by_cases hname : n.kind = "identifier"
  · simp [hname, ImportBinding.movedTo]
  rw [if_neg hname, if_neg hname]
  by_cases hspace : n.kind = "namespace_import"
  · rw [if_pos hspace, if_pos hspace, (h.plain_of_kind hspace (by decide)).firstPart?_image]
    cases n.firstPart? <;> simp [ImportBinding.movedTo]
  rw [if_neg hspace, if_neg hspace]
  by_cases hnamed : n.kind = "named_imports"
  · rw [if_pos hnamed, if_pos hnamed, (h.plain_of_kind hnamed (by decide)).parts_image,
      filter_map_image fun c => by rw [h.kind_image], List.map_map, List.map_map]
    refine List.map_congr_left fun s hs => ?_
    have hkind : s.kind = "import_specifier" := by simpa using (List.mem_filter.mp hs).2
    exact h.specifierImport_image source typeOnly hkind
  · rw [if_neg hnamed, if_neg hnamed, List.map_nil]

theorem importsOf_image (hn : n.kind = "import_statement") :
    d'.importsOf (h.image n) = (d.importsOf n).map (ImportBinding.movedTo h.image) := by
  have hplain : h.Plain n := h.plain_of_kind hn (by decide)
  have htoken : (h.image n).hasToken "type" = n.hasToken "type" :=
    h.hasToken_image n "type" (by decide)
  have hsource : ∀ c, d'.stringValue? (h.image c) = d.stringValue? c := fun c =>
    h.stringValue?_of_unwrap (h.unwrap_image c)
  unfold Document.importsOf
  rw [htoken, hplain.child?_image, hplain.parts_image, Option.bind_map,
    filter_map_image fun c => by rw [h.kind_image]]
  simp only [Function.comp_def, hsource]
  refine flatMap_map_image_of_mem fun clause hclause => ?_
  have hkind : clause.kind = "import_clause" := by simpa using (List.mem_filter.mp hclause).2
  rw [(h.plain_of_kind hkind (by decide)).parts_image]
  exact flatMap_map_image (h.partImports_image _ _) _

theorem allImports_image (h : Likeness d d') :
    d'.allImports = d.allImports.map (ImportBinding.movedTo h.image) := by
  have hstatements : d'.importStatements = d.importStatements.map h.image := by
    have hone : ∀ c : Node, (c.kind == "import_statement") = c.isOneOf ["import_statement"] :=
      fun c => by
        rw [Bool.eq_iff_iff]
        simp
    simp only [Document.importStatements, h.root_image, hone]
    exact h.filter_parts_image d.root (by decide)
  unfold Document.allImports
  rw [hstatements]
  refine flatMap_map_image_of_mem fun s hs => h.importsOf_image ?_
  simpa using (List.mem_filter.mp hs).2

@[simp] theorem import?_image (name : String) :
    d'.import? name = (d.import? name).map (ImportBinding.movedTo h.image) := by
  simp [Document.import?, h.allImports_image, List.find?_map, Function.comp_def,
    ImportBinding.movedTo]

/-! ## Declarations -/

/-- The image of a declaration. -/
def declaration (b : Declaration) : Declaration := (b.1, h.image b.2)

@[simp] theorem declare_image (pattern : Option Node) (declaring : Node) :
    d'.declare (pattern.map h.image) (h.image declaring) =
      (d.declare pattern declaring).map h.declaration := by
  simp [Document.declare, declaration, Function.comp_def]

theorem statementDeclarations_image (n : Node) :
    d'.statementDeclarations (h.image n) = (d.statementDeclarations n).map h.declaration := by
  unfold Document.statementDeclarations
  rw [h.isOneOf_image, h.isOneOf_image, h.kind_image]
  by_cases hvariable : n.isOneOf variableStatementKinds = true
  · have hplain : h.Plain n := h.plain_of_isOneOf hvariable (by decide)
    rw [if_pos hvariable, if_pos hvariable, Node.declarators, hplain.parts_image,
      filter_map_image fun c => by rw [h.kind_image]]
    refine flatMap_map_image_of_mem fun v hv => ?_
    have hkind : v.kind = "variable_declarator" := by simpa using (List.mem_filter.mp hv).2
    rw [(h.plain_of_kind hkind (by decide)).child?_image, h.declare_image]
  rw [if_neg hvariable, if_neg hvariable]
  by_cases hnamed : n.isOneOf namedDeclarationKinds = true
  · rw [if_pos hnamed, if_pos hnamed, h.child?_stand]
    cases n.child? "name" <;> simp [declaration]
  rw [if_neg hnamed, if_neg hnamed]
  by_cases himport : n.kind = "import_statement"
  · rw [if_pos himport, if_pos himport, h.importsOf_image himport, List.map_map, List.map_map]
    rfl
  · rw [if_neg himport, if_neg himport, List.map_nil]

theorem declaredBy_image (n : Node) :
    d'.declaredBy (h.image n) = (d.declaredBy n).map h.declaration := by
  induction n using Node.childrenInduction with
  | step n ih =>
    rw [Document.declaredBy_eq, Document.declaredBy_eq d n, h.kind_image,
      h.statementDeclarations_image]
    by_cases hexport : n.kind = "export_statement"
    · rw [if_pos hexport, if_pos hexport, (h.plain_of_kind hexport (by decide)).child?_image]
      cases hc : n.child? "declaration" with
      | none => rfl
      | some c => exact ih c (Node.mem_children_of_child? hc)
    rw [if_neg hexport, if_neg hexport]
    by_cases hambient : n.kind = "ambient_declaration"
    · rw [if_pos hambient, if_pos hambient, (h.plain_of_kind hambient (by decide)).parts_image]
      exact flatMap_map_image_of_mem fun c hc => ih c (Node.mem_children_of_mem_parts hc)
    · rw [if_neg hambient, if_neg hambient]

/-- Names and wrappers declare nothing, so what stands in the place of a statement declares what the
statement does. -/
theorem declaredBy_stand (n : Node) :
    d'.declaredBy (h.stand n) = (d.declaredBy n).map h.declaration := by
  rcases h.stand_cases n with heq | ⟨hname, hwrapper⟩
  · rw [heq, h.declaredBy_image]
  · have hnothing : ∀ (d : Document) (m : Node), m.kind ∈ "identifier" :: wrapperKinds →
        d.declaredBy m = [] := fun d m hm => by
      simp only [wrapperKinds, List.mem_cons, List.not_mem_nil, or_false] at hm
      rw [Document.declaredBy_eq, Document.statementDeclarations]
      rcases hm with hm | hm | hm | hm | hm | hm <;>
        simp [hm, Node.isOneOf, variableStatementKinds, namedDeclarationKinds]
    rw [hnothing d' _ (List.mem_cons_of_mem _ (Node.isWrapper_iff.mp hwrapper)),
      hnothing d n (hname ▸ List.mem_cons_self ..), List.map_nil]

theorem functionDeclarations_image (hfn : n.isFunction = true) :
    d'.functionDeclarations (h.image n) = (d.functionDeclarations n).map h.declaration := by
  have hparameter : ∀ p : Node, d'.declare (some (h.image p)) (h.image p) =
      (d.declare (some p) p).map h.declaration := fun p => h.declare_image (some p) p
  unfold Document.functionDeclarations
  rw [h.isOneOf_image, h.parameters_image hfn, h.child?_stand, List.map_append,
    flatMap_map_image hparameter]
  refine congrArg _ ?_
  split
  · cases n.child? "name" <;> simp [declaration]
  · rfl

theorem declarations_image (hn : n.isOneOf scopeKinds = true) :
    d'.declarations (h.image n) = (d.declarations n).map h.declaration := by
  have hplain : h.Plain n := h.plain_of_isOneOf hn (by decide)
  have hstatement := h.declaredBy_image
  unfold Document.declarations
  rw [h.isFunction_image, h.kind_image, h.isSome_child?, hplain.child?_image, hplain.child?_image,
    hplain.child?_image, hplain.parts_image, h.declare_image, h.declare_image]
  by_cases hfunction : n.isFunction = true
  · rw [if_pos hfunction, if_pos hfunction, h.functionDeclarations_image hfunction]
  rw [if_neg hfunction, if_neg hfunction]
  by_cases hfor : n.kind = "for_statement"
  · cases n.child? "initializer" <;> simp [hfor, hstatement]
  by_cases hforIn : n.kind = "for_in_statement"
  · by_cases hkind : (n.child? "kind").isSome = true <;> simp [hforIn, hkind]
  by_cases hcatch : n.kind = "catch_clause"
  · simp [hcatch]
  by_cases hswitch : n.kind = "switch_body"
  · have hcase : ∀ c, (h.image c).parts.flatMap d'.declaredBy =
        (c.parts.flatMap d.declaredBy).map h.declaration := fun c => by
      rw [h.parts_stand, flatMap_map_image h.declaredBy_stand]
    simp only [if_neg hfor, if_neg hforIn, if_neg hcatch, if_pos hswitch]
    exact flatMap_map_image_of_mem fun c _ => hcase c
  · simp only [if_neg hfor, if_neg hforIn, if_neg hcatch, if_neg hswitch]
    exact flatMap_map_image hstatement _

theorem declarationIn?_image (scopes : List Node) (name : String) :
    d'.declarationIn? (scopes.map h.image) name =
      (d.declarationIn? scopes name).map h.image := by
  unfold Document.declarationIn?
  rw [List.findSome?_map, List.map_findSome?]
  congr 1
  funext s
  simp only [Function.comp_apply, h.isOneOf_image]
  by_cases hscope : s.isOneOf scopeKinds = true
  · rw [if_pos hscope, if_pos hscope, h.declarations_image hscope]
    exact lookup_map_image h.image _ name
  · rw [if_neg hscope, if_neg hscope, Option.map_none]

/-- No wrapper is a scope, so a use finds its declaration in the image of the scope in which it was
found. -/
@[simp] theorem resolve?_image (n : Node) :
    d'.resolve? (h.image n) = (d.resolve? n).map h.image := by
  have hscopes : (h.image n).ancestors.filter (fun s => s.isOneOf scopeKinds) =
      (n.ancestors.filter fun s => s.isOneOf scopeKinds).map h.image := by
    refine h.filter_ancestors (fun s => h.isOneOf_image s scopeKinds) (fun w hw => ?_) n
    rw [Bool.eq_false_iff, ne_eq, Node.isOneOf_iff]
    intro hscope
    exact absurd hw (Node.not_isWrapper_of_kind hscope (by decide))
  unfold Document.resolve?
  rw [← Document.declarationIn?_filter, hscopes, h.text_image, h.declarationIn?_image,
    Document.declarationIn?_filter]

/-! ## Constants -/

@[simp] theorem isConstant_image (n : Node) : d'.isConstant (h.image n) = d.isConstant n := by
  unfold Document.isConstant
  rw [h.kind_image]
  by_cases hvariable : n.kind = "variable_declarator"
  · rw [h.parent?_image (by rw [hvariable]; decide)]
    cases n.parent? <;> simp
  · rw [beq_false_of_ne hvariable, Bool.false_and, Bool.false_and]

theorem constantValue?_image (n : Node) :
    d'.constantValue? (h.image n) = (d.constantValue? n).map h.image := by
  unfold Document.constantValue?
  rw [h.resolve?_image]
  cases d.resolve? n with
  | none => rfl
  | some declaration =>
    -- only a variable can be constant, and the parts of its declaration get no wrappers
    simp only [Option.map_some, h.isConstant_image]
    by_cases hconstant : d.isConstant declaration = true
    · have hkind : declaration.kind = "variable_declarator" := by
        simp only [Document.isConstant, Bool.and_eq_true, beq_iff_eq] at hconstant
        exact hconstant.1
      have hplain : h.Plain declaration := h.plain_of_kind hkind (by decide)
      rw [if_pos hconstant, if_pos hconstant, hplain.child?_image, hplain.child?_image]
      cases declaration.child? "name" with
      | none => rfl
      | some name => by_cases hname : name.kind = "identifier" <;> simp [hname]
    · rw [if_neg hconstant, if_neg hconstant, Option.map_none]

theorem traceWithin_image (k : Nat) (n : Node) :
    d'.traceWithin k (h.image n) = h.image (d.traceWithin k n) := by
  induction k generalizing n with
  | zero => exact h.unwrap_image n
  | succ k ih =>
    -- from a name one step leads to the value of the constant, and the others lead on from there
    simp only [Document.traceWithin, h.unwrap_image, h.kind_image, h.constantValue?_image]
    by_cases hname : n.unwrap.kind = "identifier"
    · cases d.constantValue? n.unwrap <;> simp [hname, ih]
    · simp [hname]

@[simp] theorem trace_image (n : Node) : d'.trace (h.image n) = h.image (d.trace n) :=
  h.traceWithin_image Document.traceLimit n

@[simp] theorem declaredValue?_image (n : Node) :
    (h.image n).declaredValue? = n.declaredValue?.map h.image := by
  by_cases hkind : n.kind = "variable_declarator" <;> simp [Node.declaredValue?, hkind]

/-! ## Libraries -/

@[simp] theorem libraryName?_image (library : Library) (n : Node) :
    d'.libraryName? library (h.image n) = d.libraryName? library n := by
  simp only [Document.libraryName?, h.kind_image, h.text_image, h.resolve?_image, h.import?_image]
  cases d.resolve? n with
  | none => rfl
  | some declaration =>
    simp only [Option.map_some, h.kind_image]
    cases d.import? (d.text n) <;> rfl

@[simp] theorem libraryCallee?_image (library : Library) (n : Node) :
    d'.libraryCallee? library (h.image n) = d.libraryCallee? library n := by
  simp [Document.libraryCallee?, Option.bind_map]

end Likeness

end CodeConventions
