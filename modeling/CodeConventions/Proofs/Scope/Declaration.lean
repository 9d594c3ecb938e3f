import CodeConventions.Proofs.Scope.BindingPattern
import CodeConventions.Scope.Basic

/-!
# What declares a name

A statement declares names itself, or holds a declaration that is exported or ambient; a scope
declares what stands at fixed places of it.

## Strategy

Declarations are found going down, by recursion through statements, and the recursion gets an
equation for one step of it.  From this and from what patterns bind the two ways down are said as
relations: `Exposes` for statements, `Introduces` for names.  `Declares` puts them together, with
one constructor for each way in which a scope declares a name, and `mem_declarations_iff` says that
there is no other.
-/

namespace CodeConventions

/-! ## One step of the way down -/

namespace ParseTree

theorem exportedBelow_eq (d : Document) (above ts : List ParseTree) :
    d.exportedBelow above ts =
      ((ts.find? fun t => t.label.field == some "declaration").map (d.declaredBelow above)).getD
        [] := by
  induction ts with
  | nil => rfl
  | cons t ts ih =>
    unfold Document.exportedBelow
    rw [List.find?_cons]
    cases t.label.field == some "declaration" with
    | true => rfl
    | false => exact ih

theorem declaredByAll_eq (d : Document) (above ts : List ParseTree) :
    d.declaredByAll above ts = (ts.filter isSignificant).flatMap (d.declaredBelow above) := by
  induction ts with
  | nil => rfl
  | cons t ts ih =>
    unfold Document.declaredByAll
    rw [ih, List.filter_cons]
    cases t.isSignificant <;> rfl

end ParseTree

namespace Document

variable (d : Document) (n : Node)

/-- Only scopes are asked for a declaration. -/
theorem declarationIn?_filter (scopes : List Node) (name : String) :
    d.declarationIn? (scopes.filter fun s => s.isOneOf scopeKinds) name =
      d.declarationIn? scopes name := by
  unfold declarationIn?
  induction scopes with
  | nil => rfl
  | cons s scopes ih =>
    rw [List.filter_cons]
    by_cases hscope : s.isOneOf scopeKinds = true
    · rw [if_pos hscope, List.findSome?_cons, List.findSome?_cons, ih]
    · rw [if_neg hscope, List.findSome?_cons, if_neg hscope, ih]

theorem declaredBy_eq :
    d.declaredBy n =
      if n.kind = "export_statement" then ((n.child? "declaration").map d.declaredBy).getD []
      else if n.kind = "ambient_declaration" then n.parts.flatMap d.declaredBy
      else d.statementDeclarations n := by
  obtain ⟨⟨l, ts⟩, above⟩ := n
  rw [declaredBy, declaredBelow]
  simp only [ParseTree.exportedBelow_eq, ParseTree.declaredByAll_eq, Node.parts, Node.child?,
    Option.map_map, List.flatMap_map]
  rfl

end Document

/-! ## Names that a node introduces -/

/-- A node introduces a name: a declarator or the head of a loop or of a catch clause does so
itself, and a function by a parameter. -/
inductive Node.Introduces (n i : Node) : Node → Prop
  | variable {p : Node} (hkind : n.kind = "variable_declarator")
      (hname : n.child? "name" = some p) (hi : i ∈ p.boundNames) : n.Introduces i n
  | parameter {p : Node} (hfn : n.isFunction = true) (hp : p ∈ n.parameters)
      (hi : i ∈ p.boundNames) : n.Introduces i p
  | looped {p : Node} (hkind : n.kind = "for_in_statement") (hword : (n.child? "kind").isSome)
      (hleft : n.child? "left" = some p) (hi : i ∈ p.boundNames) : n.Introduces i n
  | caught {p : Node} (hkind : n.kind = "catch_clause") (hp : n.child? "parameter" = some p)
      (hi : i ∈ p.boundNames) : n.Introduces i n

/-- What introduces a name is the node itself or a pattern. -/
theorem Node.Introduces.eq_or_kind {n i b : Node} (h : n.Introduces i b) :
    b = n ∨ b.kind ∈ patternKinds := by
  cases h with
  | parameter _ _ hi => exact Or.inr (kind_of_mem_boundNames hi)
  | _ => exact Or.inl rfl

/-! ## Statements of a scope -/

/-- The kinds of scopes whose parts are statements. -/
def blockKinds : List String := ["program", "statement_block"]

/-- The kinds of scopes that declare by their statements. -/
def statementScopeKinds : List String := blockKinds ++ ["switch_body", "for_statement"]

/-- The statement is the other one, or a declaration that it exports or makes ambient. -/
inductive Node.Exposes : Node → Node → Prop
  | self (n : Node) : n.Exposes n
  | exported {n c v : Node} (hkind : n.kind = "export_statement")
      (hc : n.child? "declaration" = some c) (h : c.Exposes v) : n.Exposes v
  | ambient {n c v : Node} (hkind : n.kind = "ambient_declaration") (hc : c ∈ n.parts)
      (h : c.Exposes v) : n.Exposes v

namespace Node

variable {s v x : Node}

/-- The statements that a scope asks for declarations: those of a block, the first part of the head
of a loop, and those of all cases of a switch. -/
def statements (s : Node) : List Node :=
  if s.kind = "for_statement" then (s.child? "initializer").toList
  else if s.kind = "switch_body" then s.parts.flatMap parts
  else if s.isOneOf blockKinds then s.parts
  else []

/-- The statement is among those of the scope, or is exposed by one of them. -/
def HasStatement (s v : Node) : Prop := ∃ x ∈ s.statements, x.Exposes v

theorem kind_of_mem_statements (h : x ∈ s.statements) : s.kind ∈ statementScopeKinds := by
  rw [statements] at h
  split_ifs at h with hfor hswitch hblock
  · rw [hfor]
    decide
  · rw [hswitch]
    decide
  · exact List.mem_append_left _ (isOneOf_iff.mp hblock)
  · exact absurd h List.not_mem_nil

/-- Only scopes have statements. -/
theorem HasStatement.kind_mem (h : s.HasStatement v) : s.kind ∈ scopeKinds := by
  obtain ⟨x, hx, _⟩ := h
  have hkinds : ∀ kind ∈ statementScopeKinds, kind ∈ scopeKinds := by decide
  exact hkinds _ (kind_of_mem_statements hx)

end Node

namespace Document

variable {d : Document} {n s v : Node}

/-- A statement declares what the statements that it exposes declare themselves. -/
theorem mem_declaredBy_iff {b : Declaration} :
    b ∈ d.declaredBy n ↔ ∃ v, n.Exposes v ∧ b ∈ d.statementDeclarations v := by
  constructor
  · intro hb
    induction n using Node.childrenInduction with
    | step n ih =>
      rw [declaredBy_eq] at hb
      split_ifs at hb with hexport hambient
      · cases hc : n.child? "declaration" with
        | none => simp [hc] at hb
        | some c =>
          rw [hc] at hb
          obtain ⟨v, hv, hb⟩ := ih c (Node.mem_children_of_child? hc) hb
          exact ⟨v, .exported hexport hc hv, hb⟩
      · obtain ⟨c, hc, hb⟩ := List.mem_flatMap.mp hb
        obtain ⟨v, hv, hb⟩ := ih c (Node.mem_children_of_mem_parts hc) hb
        exact ⟨v, .ambient hambient hc hv, hb⟩
      · exact ⟨n, .self n, hb⟩
  · rintro ⟨v, hv, hb⟩
    induction hv with
    | self n =>
      rw [declaredBy_eq]
      -- a statement that only holds a declaration declares nothing itself
      split_ifs with hexport hambient
      · simp [statementDeclarations, hexport, Node.isOneOf, variableStatementKinds,
          namedDeclarationKinds] at hb
      · simp [statementDeclarations, hambient, Node.isOneOf, variableStatementKinds,
          namedDeclarationKinds] at hb
      · exact hb
    | exported hkind hc _ ih =>
      rw [declaredBy_eq, if_pos hkind, hc]
      exact ih hb
    | ambient hkind hc _ ih =>
      rw [declaredBy_eq, if_neg (by rw [hkind]; decide), if_pos hkind]
      exact List.mem_flatMap.mpr ⟨_, hc, ih hb⟩

theorem declarations_of_statements (hs : s.kind ∈ statementScopeKinds) :
    d.declarations s = s.statements.flatMap d.declaredBy := by
  have hfn : s.isFunction = false := Node.not_isFunction_of_kind hs (by decide)
  simp only [statementScopeKinds, blockKinds, List.cons_append, List.nil_append, List.mem_cons,
    List.not_mem_nil, or_false] at hs
  rw [declarations, Node.statements, if_neg (by simp [hfn])]
  rcases hs with hkind | hkind | hkind | hkind
  · simp [hkind, blockKinds, Node.isOneOf]
  · simp [hkind, blockKinds, Node.isOneOf]
  · simp [hkind, List.flatMap_assoc]
  · cases s.child? "initializer" <;> simp [hkind]

theorem mem_declarations_of_hasStatement {b : Declaration} (hs : s.HasStatement v)
    (hb : b ∈ d.statementDeclarations v) : b ∈ d.declarations s := by
  obtain ⟨x, hx, hv⟩ := hs
  rw [declarations_of_statements (Node.kind_of_mem_statements hx)]
  exact List.mem_flatMap.mpr ⟨x, hx, mem_declaredBy_iff.mpr ⟨v, hv, hb⟩⟩

theorem mem_declare_iff {b : Declaration} {pattern : Option Node} :
    b ∈ d.declare pattern n ↔
      ∃ p, pattern = some p ∧ ∃ i ∈ p.boundNames, b = (d.text i, n) := by
  cases pattern <;> simp [declare, Node.boundNames?, eq_comm]

end Document

/-! ## What a scope declares -/

/-- The scope declares the name by the node: a variable of one of its statements, a name in its own
head, a statement with a name, an import, or the function itself by its own name. -/
inductive Document.Declares (d : Document) (s : Node) : String → Node → Prop
  | variable {v w i b : Node} (hv : s.HasStatement v) (hkind : v.kind ∈ variableStatementKinds)
      (hw : w ∈ v.declarators) (hi : w.Introduces i b) : d.Declares s (d.text i) b
  | head {i b : Node} (hi : s.Introduces i b) : d.Declares s (d.text i) b
  | named {v n : Node} (hv : s.HasStatement v) (hkind : v.kind ∈ namedDeclarationKinds)
      (hn : v.child? "name" = some n) : d.Declares s (d.text n) v
  | imported {v : Node} {b : ImportBinding} (hv : s.HasStatement v)
      (hkind : v.kind = "import_statement") (hb : b ∈ d.importsOf v) : d.Declares s b.name v
  | itself {n : Node} (hkind : s.kind ∈ ["function_expression", "function", "generator_function"])
      (hn : s.child? "name" = some n) : d.Declares s (d.text n) s

namespace Node

variable {b i n v w : Node}

theorem kind_of_mem_declarators (h : w ∈ v.declarators) : w.kind = "variable_declarator" :=
  beq_iff_eq.mp (List.mem_filter.mp h).2

theorem parent?_of_mem_declarators (h : w ∈ v.declarators) : w.parent? = some v :=
  parent?_of_mem_parts (List.mem_filter.mp h).1

/-- A declarator introduces the names of its pattern. -/
theorem introduces_of_declarator (hkind : n.kind = "variable_declarator") :
    n.Introduces i b ↔ b = n ∧ ∃ p, n.child? "name" = some p ∧ i ∈ p.boundNames := by
  constructor
  · intro h
    cases h with
    | «variable» _ hname hi => exact ⟨rfl, _, hname, hi⟩
    | parameter hfn _ _ =>
      rw [isFunction, isOneOf_iff, hkind] at hfn
      exact absurd hfn (by decide)
    | looped hother _ _ _ => exact absurd (hkind.symm.trans hother) (by decide)
    | caught hother _ _ => exact absurd (hkind.symm.trans hother) (by decide)
  · rintro ⟨rfl, p, hname, hi⟩
    exact .variable hkind hname hi

end Node

namespace Document

variable {d : Document} {b i s v : Node} {name : String}

/-- What a statement declares itself. -/
theorem declares_of_statementDeclarations (hs : s.HasStatement v)
    (hb : (name, b) ∈ d.statementDeclarations v) : d.Declares s name b := by
  rw [statementDeclarations] at hb
  split_ifs at hb with hvariable hnamed himport
  · obtain ⟨w, hw, hb⟩ := List.mem_flatMap.mp hb
    obtain ⟨p, hname, i, hi, heq⟩ := mem_declare_iff.mp hb
    obtain ⟨rfl, rfl⟩ := Prod.mk.inj heq
    exact .variable hs (Node.isOneOf_iff.mp hvariable) hw
      (.variable (Node.kind_of_mem_declarators hw) hname hi)
  · cases hn : v.child? "name" with
    | none => simp [hn] at hb
    | some n =>
      rw [hn] at hb
      obtain ⟨rfl, rfl⟩ := Prod.mk.inj (List.mem_singleton.mp hb)
      exact .named hs (Node.isOneOf_iff.mp hnamed) hn
  · obtain ⟨i, hi, heq⟩ := List.mem_map.mp hb
    obtain ⟨rfl, rfl⟩ := Prod.mk.inj heq
    exact .imported hs himport hi
  · exact absurd hb List.not_mem_nil

theorem declares_of_functionDeclarations (hs : s.isFunction = true)
    (hb : (name, b) ∈ d.functionDeclarations s) : d.Declares s name b := by
  rw [functionDeclarations] at hb
  rcases List.mem_append.mp hb with hb | hb
  · obtain ⟨q, hq, hb⟩ := List.mem_flatMap.mp hb
    obtain ⟨p, hp, i, hi, heq⟩ := mem_declare_iff.mp hb
    obtain rfl := Option.some_inj.mp hp
    obtain ⟨rfl, rfl⟩ := Prod.mk.inj heq
    exact .head (.parameter hs hq hi)
  · split_ifs at hb with hkind
    · cases hn : s.child? "name" with
      | none => simp [hn] at hb
      | some n =>
        rw [hn] at hb
        obtain ⟨rfl, rfl⟩ := Prod.mk.inj (List.mem_singleton.mp hb)
        exact .itself (Node.isOneOf_iff.mp hkind) hn
    · exact absurd hb List.not_mem_nil

theorem isFunction_or_of_isScope (hs : s.kind ∈ scopeKinds) :
    s.isFunction = true ∨ s.kind ∈ statementScopeKinds ∨
      s.kind = "for_in_statement" ∨ s.kind = "catch_clause" := by
  rcases List.mem_append.mp hs with hfn | hother
  · exact Or.inl (Node.isOneOf_iff.mpr hfn)
  · simp only [List.mem_cons, List.not_mem_nil, or_false] at hother
    simp only [statementScopeKinds, blockKinds, List.cons_append, List.nil_append, List.mem_cons,
      List.not_mem_nil, or_false]
    tauto

theorem declarations_of_loop (hs : s.kind = "for_in_statement") :
    d.declarations s =
      if (s.child? "kind").isSome then d.declare (s.child? "left") s else [] := by
  have hfn : s.isFunction = false :=
    Node.not_isFunction_of_kind (List.mem_singleton.mpr hs) (by decide)
  simp [declarations, hfn, hs]

theorem declarations_of_catch (hs : s.kind = "catch_clause") :
    d.declarations s = d.declare (s.child? "parameter") s := by
  have hfn : s.isFunction = false :=
    Node.not_isFunction_of_kind (List.mem_singleton.mpr hs) (by decide)
  simp [declarations, hfn, hs]

/-- What is declared in the head of a scope. -/
theorem mem_declarations_of_introduces (hs : s.kind ∈ scopeKinds) (hi : s.Introduces i b) :
    (d.text i, b) ∈ d.declarations s := by
  cases hi with
  | «variable» hkind _ _ =>
    rw [hkind] at hs
    exact absurd hs (by decide)
  | parameter hfn hp hi =>
    rw [declarations, if_pos hfn, functionDeclarations]
    exact List.mem_append_left _
      (List.mem_flatMap.mpr ⟨b, hp, mem_declare_iff.mpr ⟨b, rfl, i, hi, rfl⟩⟩)
  | looped hkind hword hleft hi =>
    rw [declarations_of_loop hkind, if_pos hword]
    exact mem_declare_iff.mpr ⟨_, hleft, i, hi, rfl⟩
  | caught hkind hp hi =>
    rw [declarations_of_catch hkind]
    exact mem_declare_iff.mpr ⟨_, hp, i, hi, rfl⟩

/-- A scope declares what the rule says and nothing else. -/
theorem mem_declarations_iff (hs : s.kind ∈ scopeKinds) :
    (name, b) ∈ d.declarations s ↔ d.Declares s name b := by
  constructor
  · intro hb
    rcases isFunction_or_of_isScope hs with hfn | hstatements | hloop | hcatch
    · rw [declarations, if_pos hfn] at hb
      exact declares_of_functionDeclarations hfn hb
    · rw [declarations_of_statements hstatements] at hb
      obtain ⟨x, hx, hb⟩ := List.mem_flatMap.mp hb
      obtain ⟨v, hv, hb⟩ := mem_declaredBy_iff.mp hb
      exact declares_of_statementDeclarations ⟨x, hx, hv⟩ hb
    · rw [declarations_of_loop hloop] at hb
      split_ifs at hb with hword
      · obtain ⟨p, hp, i, hi, heq⟩ := mem_declare_iff.mp hb
        obtain ⟨rfl, rfl⟩ := Prod.mk.inj heq
        exact .head (.looped hloop hword hp hi)
      · exact absurd hb List.not_mem_nil
    · rw [declarations_of_catch hcatch] at hb
      obtain ⟨p, hp, i, hi, heq⟩ := mem_declare_iff.mp hb
      obtain ⟨rfl, rfl⟩ := Prod.mk.inj heq
      exact .head (.caught hcatch hp hi)
  · intro h
    cases h with
    | @«variable» v w i _ hv hkind hw hi =>
      refine mem_declarations_of_hasStatement hv ?_
      obtain ⟨rfl, p, hname, hi⟩ :=
        (Node.introduces_of_declarator (Node.kind_of_mem_declarators hw)).mp hi
      rw [statementDeclarations, if_pos (Node.isOneOf_iff.mpr hkind)]
      exact List.mem_flatMap.mpr ⟨b, hw, mem_declare_iff.mpr ⟨p, hname, i, hi, rfl⟩⟩
    | head hi => exact mem_declarations_of_introduces hs hi
    | named hv hkind hn =>
      have hkinds : ∀ kind ∈ namedDeclarationKinds, kind ∉ variableStatementKinds := by decide
      have hvariable := mt Node.isOneOf_iff.mp (hkinds _ hkind)
      refine mem_declarations_of_hasStatement hv ?_
      rw [statementDeclarations, if_neg hvariable, if_pos (Node.isOneOf_iff.mpr hkind), hn]
      exact List.mem_singleton.mpr rfl
    | @imported v i hv hkind hb =>
      refine mem_declarations_of_hasStatement hv ?_
      simp only [statementDeclarations, Node.isOneOf, hkind]
      exact List.mem_map.mpr ⟨i, hb, rfl⟩
    | itself hkind hn =>
      have hkinds : ∀ kind ∈ ["function_expression", "function", "generator_function"],
          kind ∈ functionKinds := by decide
      have hfn : b.isFunction = true := Node.isOneOf_iff.mpr (hkinds _ hkind)
      rw [declarations, if_pos hfn, functionDeclarations, if_pos (Node.isOneOf_iff.mpr hkind), hn]
      exact List.mem_append_right _ (List.mem_singleton.mpr rfl)

/-- A declarator is declared by the statement that it stands in. -/
theorem Declares.exists_hasStatement (hs : s.kind ∈ scopeKinds)
    (hkind : b.kind = "variable_declarator") (h : d.Declares s name b) :
    ∃ v, s.HasStatement v ∧ v.kind ∈ variableStatementKinds ∧ b ∈ v.declarators := by
  have hother : ∀ kinds : List String, "variable_declarator" ∉ kinds → b.kind ∉ kinds :=
    fun kinds hkinds => by rwa [hkind]
  cases h with
  | «variable» hv hvkind hw hi =>
    obtain ⟨rfl, _⟩ := (Node.introduces_of_declarator (Node.kind_of_mem_declarators hw)).mp hi
    exact ⟨_, hv, hvkind, hw⟩
  | head hi =>
    rcases hi.eq_or_kind with rfl | hpattern
    · exact absurd hs (hother _ (by decide))
    · exact absurd hpattern (hother _ (by decide))
  | named _ hnamed _ => exact absurd hnamed (hother _ (by decide))
  | imported _ himport _ => exact absurd (List.mem_singleton.mpr himport) (hother _ (by decide))
  | itself hfn _ => exact absurd hfn (hother _ (by decide))

end Document

end CodeConventions
