import CodeConventions.Proofs.Scope.Resolution
import CodeConventions.Vocabulary.Reactive

/-!
# Names of library exports

Which declaration a name stands for is asked of what the scopes around the name declare, and from
where it is imported of what the import statements of the file introduce.  Where import statements
stand at the top of the file only, the two agree: a name that is resolved to an import statement is
imported first by that statement (`ImportsAtTop.import?_eq`).  So what the file says about libraries
can be read off the declaration of a name (`ImportsAtTop.libraryName?_exact`).

## Strategy

A scope declares an import statement only if it has it as a statement, and at the top of the file
that scope is the program.  The program declares a name by the first of its parts that says anything
of the name, and no import statement among the parts before that one imports it.  Every other scope
around the name comes before the program on the way up, so it does not declare the name at all.
-/

namespace CodeConventions

/-! ## First in a list of declarations -/

section Lists

variable {α β : Type} {name : String}

/-- What several lists say of a name is what the first one says that says anything. -/
theorem lookup_flatMap (f : α → List (String × β)) (items : List α) :
    (items.flatMap f).lookup name = items.findSome? fun a => (f a).lookup name := by
  induction items with
  | nil => rfl
  | cons a items ih =>
    rw [List.flatMap_cons, List.lookup_append, ih, List.findSome?_cons]
    cases (f a).lookup name <;> rfl

theorem lookup_map_const (call : α → String) (b : β) (items : List α) :
    (items.map fun a => (call a, b)).lookup name =
      (items.find? fun a => call a == name).map fun _ => b := by
  induction items with
  | nil => rfl
  | cons a items ih =>
    rw [List.map_cons, List.lookup_cons, List.find?_cons, ih, BEq.comm]
    cases call a == name <;> rfl

end Lists

namespace Node

variable {a n v x : Node}

/-- Behind a node on the way up come the nodes above it. -/
theorem ancestors_eq_append {before after : List Node} (h : n.ancestors = before ++ a :: after) :
    after = a.ancestors := by
  have hsuffix : ∀ (ts : List ParseTree) (before : List Node),
      ancestorsOf ts = before ++ a :: after → after = a.ancestors := by
    intro ts
    induction ts with
    | nil => intro before h; simp [ancestorsOf] at h
    | cons t ts ih =>
      intro before h
      cases before with
      | nil =>
        obtain ⟨rfl, rfl⟩ := List.cons.inj h
        rfl
      | cons b before => exact ih before (List.cons.inj h).2
  exact hsuffix n.above before h

/-- A declaration that is exported or made ambient stands in the statement that does so. -/
theorem Exposes.eq_or_parent? (h : x.Exposes v) :
    v = x ∨ ∃ p, v.parent? = some p ∧ p.kind ∈ ["export_statement", "ambient_declaration"] := by
  induction h with
  | self n => exact Or.inl rfl
  | @exported n c v hkind hc _ ih =>
    rcases ih with rfl | hparent
    · exact Or.inr ⟨n, parent?_of_child? hc, by simp [hkind]⟩
    · exact Or.inr hparent
  | @ambient n c v hkind hc _ ih =>
    rcases ih with rfl | hparent
    · exact Or.inr ⟨n, parent?_of_mem_parts hc, by simp [hkind]⟩
    · exact Or.inr hparent

theorem Exposes.mem_nodes (h : x.Exposes v) : v ∈ x.nodes := by
  induction h with
  | self n => exact n.self_mem_nodes
  | exported _ hc _ ih =>
    exact mem_nodes_trans (mem_nodes_of_mem_children (mem_children_of_child? hc)) ih
  | ambient _ hc _ ih =>
    exact mem_nodes_trans (mem_nodes_of_mem_children (mem_children_of_mem_parts hc)) ih

end Node

namespace Document

variable {d : Document} {b i s x S : Node} {name : String}

/-! ## Import statements at the top -/

/-- Import statements occur only as children of the program. -/
def ImportsAtTop (d : Document) : Prop :=
  ∀ n ∈ d.root.nodes, n.kind = "import_statement" →
    d.root.kind = "program" ∧ n ∈ d.root.children

instance (d : Document) : Decidable d.ImportsAtTop :=
  inferInstanceAs (Decidable (∀ n ∈ d.root.nodes, n.kind = "import_statement" →
    d.root.kind = "program" ∧ n ∈ d.root.children))

theorem mem_of_mem_statements (hs : s ∈ d.root.nodes) (hx : x ∈ s.statements) :
    x ∈ d.root.nodes := by
  rw [Node.statements] at hx
  split_ifs at hx with hfor hswitch hblock
  · exact mem_of_child? hs (Option.mem_toList.mp hx)
  · obtain ⟨c, hc, hx⟩ := List.mem_flatMap.mp hx
    exact mem_of_mem_parts (mem_of_mem_parts hs hc) hx
  · exact mem_of_mem_parts hs hx
  · exact absurd hx List.not_mem_nil

/-- What a scope declares an import statement by is a statement of the scope. -/
theorem Declares.hasStatement_of_import (hs : s.kind ∈ scopeKinds)
    (hkind : b.kind = "import_statement") (h : d.Declares s name b) : s.HasStatement b := by
  have hother : ∀ kinds : List String, "import_statement" ∉ kinds → b.kind ∉ kinds :=
    fun kinds hkinds => by rwa [hkind]
  cases h with
  | «variable» _ _ hw hi =>
    obtain ⟨rfl, _⟩ := (Node.introduces_of_declarator (Node.kind_of_mem_declarators hw)).mp hi
    have hdeclarator := Node.kind_of_mem_declarators hw
    exact absurd (List.mem_singleton.mpr hdeclarator) (hother _ (by decide))
  | head hi =>
    rcases hi.eq_or_kind with rfl | hpattern
    · exact absurd hs (hother _ (by decide))
    · exact absurd hpattern (hother _ (by decide))
  | named _ hnamed _ => exact absurd hnamed (hother _ (by decide))
  | imported hv _ _ => exact hv
  | itself hfn _ => exact absurd hfn (hother _ (by decide))

theorem eq_of_mem_statementDeclarations (hkind : b.kind = "import_statement")
    (hb : (name, b) ∈ d.statementDeclarations s) : b = s := by
  rw [statementDeclarations] at hb
  split_ifs at hb with hvariable hnamed himport
  · obtain ⟨w, hw, hb⟩ := List.mem_flatMap.mp hb
    obtain ⟨_, _, _, _, heq⟩ := mem_declare_iff.mp hb
    obtain ⟨_, rfl⟩ := Prod.mk.inj heq
    exact absurd (hkind.symm.trans (Node.kind_of_mem_declarators hw)) (by decide)
  · cases hn : s.child? "name" with
    | none => simp [hn] at hb
    | some n =>
      rw [hn] at hb
      exact (Prod.mk.inj (List.mem_singleton.mp hb)).2
  · obtain ⟨_, _, heq⟩ := List.mem_map.mp hb
    exact (Prod.mk.inj heq).2.symm
  · exact absurd hb List.not_mem_nil

theorem declaredBy_of_import (hkind : s.kind = "import_statement") :
    d.declaredBy s = (d.importsOf s).map fun c => (c.name, s) := by
  simp [declaredBy_eq, hkind, statementDeclarations, Node.isOneOf, variableStatementKinds,
    namedDeclarationKinds]

theorem lookup_declaredBy_of_import (hkind : s.kind = "import_statement") :
    (d.declaredBy s).lookup name =
      ((d.importsOf s).find? fun c => c.name == name).map fun _ => s := by
  rw [declaredBy_of_import hkind, lookup_map_const]

/-- The scope that a name is resolved in: the first one on the way up that declares the name. -/
theorem exists_scope_of_resolve? (h : d.resolve? i = some b) :
    ∃ before s after, i.ancestors = before ++ s :: after ∧ s.kind ∈ scopeKinds ∧
      (d.declarations s).lookup (d.text i) = some b ∧
      ∀ t ∈ before, t.kind ∈ scopeKinds → ∀ c, ¬d.Declares t (d.text i) c := by
  rw [resolve?, declarationIn?] at h
  obtain ⟨before, s, after, hsplit, hs, hbefore⟩ := List.findSome?_eq_some_iff.mp h
  split_ifs at hs with hscope
  refine ⟨before, s, after, hsplit, Node.isOneOf_iff.mp hscope, hs, fun t ht htscope c hc => ?_⟩
  have hnone := hbefore t ht
  rw [if_pos (Node.isOneOf_iff.mpr htscope)] at hnone
  have hsome := (isSome_lookup_iff htscope).mpr ⟨c, hc⟩
  rw [hnone] at hsome
  cases hsome

section AtTop

variable (hd : d.ImportsAtTop)

include hd

/-- An import statement that a scope has as a statement is a part of the program, and the scope is
the program. -/
theorem ImportsAtTop.eq_root (hs : s ∈ d.root.nodes) (hx : x ∈ s.statements) (hS : x.Exposes S)
    (hkind : S.kind = "import_statement") :
    s = d.root ∧ d.root.kind = "program" ∧ x = S ∧ S ∈ d.root.parts := by
  have hmem : S ∈ d.root.nodes := mem_of_mem_nodes (mem_of_mem_statements hs hx) hS.mem_nodes
  obtain ⟨hroot, hchild⟩ := hd S hmem hkind
  have hparent := Node.parent?_of_mem_children hchild
  have hprogram : ∀ p, S.parent? = some p → p = d.root ∧ p.kind = "program" := fun p hp => by
    obtain rfl := Option.some_inj.mp (hp.symm.trans hparent)
    exact ⟨rfl, hroot⟩
  obtain rfl : S = x := by
    rcases hS.eq_or_parent? with heq | ⟨p, hp, hpkind⟩
    · exact heq
    · rw [(hprogram p hp).2] at hpkind
      exact absurd hpkind (by decide)
  rw [Node.statements] at hx
  split_ifs at hx with hfor hswitch hblock
  · obtain ⟨rfl, hkind⟩ := hprogram s (Node.parent?_of_child? (Option.mem_toList.mp hx))
    exact absurd (hkind.symm.trans hfor) (by decide)
  · -- the program stands in nothing, so it is no case of a switch
    obtain ⟨c, hc, hx⟩ := List.mem_flatMap.mp hx
    obtain ⟨rfl, _⟩ := hprogram c (Node.parent?_of_mem_parts hx)
    have habsurd := Node.parent?_of_mem_parts hc
    cases habsurd
  · obtain ⟨rfl, _⟩ := hprogram s (Node.parent?_of_mem_parts hx)
    exact ⟨rfl, hroot, rfl, hx⟩
  · exact absurd hx List.not_mem_nil

/-- Where the program declares a name by an import statement, no statement before that one imports
the name. -/
theorem ImportsAtTop.import?_eq_of_lookup (hkind : S.kind = "import_statement")
    (hscope : d.root.kind ∈ scopeKinds)
    (hlookup : (d.declarations d.root).lookup name = some S) :
    ((d.importsOf S).find? fun c => c.name == name).isSome ∧
      d.import? name = (d.importsOf S).find? fun c => c.name == name := by
  have hdeclared : (name, S) ∈ d.declarations d.root := by
    obtain ⟨_, _, hsplit, _⟩ := List.lookup_eq_some_iff.mp hlookup
    simp [hsplit]
  obtain ⟨x, hx, hS⟩ :=
    ((mem_declarations_iff hscope).mp hdeclared).hasStatement_of_import hscope hkind
  obtain ⟨_, hprogram, _, _⟩ := hd.eq_root d.root.self_mem_nodes hx hS hkind
  have hstatements : d.root.statements = d.root.parts := by
    simp [Node.statements, hprogram, Node.isOneOf, blockKinds]
  rw [declarations_of_statements (Node.kind_of_mem_statements hx), hstatements,
    lookup_flatMap] at hlookup
  obtain ⟨before, y, after, hparts, hy, hbefore⟩ := List.findSome?_eq_some_iff.mp hlookup
  obtain rfl : y = S := by
    obtain ⟨_, _, hsplit, _⟩ := List.lookup_eq_some_iff.mp hy
    have hmem : (name, S) ∈ d.declaredBy y := by simp [hsplit]
    obtain ⟨v, hv, hb⟩ := mem_declaredBy_iff.mp hmem
    obtain rfl := eq_of_mem_statementDeclarations hkind hb
    have hpart : y ∈ d.root.statements := by simp [hstatements, hparts]
    exact (hd.eq_root d.root.self_mem_nodes hpart hv hkind).2.2.1
  rw [lookup_declaredBy_of_import hkind] at hy
  obtain ⟨c, hc, _⟩ := Option.map_eq_some_iff.mp hy
  have hearlier : ∀ z ∈ before.filter fun z => z.kind == "import_statement",
      (d.importsOf z).find? (fun c => c.name == name) = none := by
    intro z hz
    obtain ⟨hz, hzkind⟩ := List.mem_filter.mp hz
    have hnone := hbefore z hz
    rwa [lookup_declaredBy_of_import (beq_iff_eq.mp hzkind), Option.map_eq_none_iff] at hnone
  refine ⟨by rw [hc]; rfl, ?_⟩
  rw [import?, allImports, List.find?_flatMap, importStatements, hparts, List.filter_append,
    List.findSome?_append, List.findSome?_eq_none_iff.mpr hearlier, Option.none_or,
    List.filter_cons_of_pos (by simp [hkind]), List.findSome?_cons, hc]

/-- A name that is resolved to an import statement is declared by the program, by a statement that
stands in it. -/
theorem ImportsAtTop.lookup_root (hi : i ∈ d.root.nodes) (hresolve : d.resolve? i = some S)
    (hkind : S.kind = "import_statement") :
    d.root.kind = "program" ∧ (d.declarations d.root).lookup (d.text i) = some S ∧
      ∀ s ∈ i.ancestors, s ≠ d.root → s.kind ∈ scopeKinds → ∀ b, ¬d.Declares s (d.text i) b := by
  obtain ⟨before, s, after, hsplit, hs, hlookup, hbefore⟩ := exists_scope_of_resolve? hresolve
  have hmem : s ∈ d.root.nodes := (mem_of_mem_ancestors hi (by simp [hsplit])).1
  have hdeclares : d.Declares s (d.text i) S := by
    obtain ⟨_, _, hdeclared, _⟩ := List.lookup_eq_some_iff.mp hlookup
    exact (mem_declarations_iff hs).mp (by simp [hdeclared])
  obtain ⟨x, hx, hS⟩ := hdeclares.hasStatement_of_import hs hkind
  obtain ⟨rfl, hprogram, _, _⟩ := hd.eq_root hmem hx hS hkind
  refine ⟨hprogram, hlookup, fun t ht hne hscope b hb => ?_⟩
  -- nothing is above the program, so every other scope on the way comes before it
  have hafter : after = [] := (Node.ancestors_eq_append hsplit).trans rfl
  have htbefore : t ∈ before := by
    rw [hsplit, hafter, List.mem_append, List.mem_singleton] at ht
    exact ht.resolve_right hne
  exact hbefore t htbefore hscope b hb

/-- A name that is resolved to an import statement is imported first by that statement. -/
theorem ImportsAtTop.import?_eq (hi : i ∈ d.root.nodes) (hresolve : d.resolve? i = some S)
    (hkind : S.kind = "import_statement") :
    ((d.importsOf S).find? fun c => c.name == d.text i).isSome ∧
      d.import? (d.text i) = (d.importsOf S).find? fun c => c.name == d.text i := by
  obtain ⟨hprogram, hlookup, _⟩ := hd.lookup_root hi hresolve hkind
  exact hd.import?_eq_of_lookup hkind (by rw [hprogram]; decide) hlookup

/-- A name that the file imports is declared around every place where it is used. -/
theorem ImportsAtTop.isSome_resolve?_of_import? (hi : i ∈ d.root.nodes)
    (hident : i.kind = "identifier") {c : ImportBinding} (hc : d.import? (d.text i) = some c) :
    (d.resolve? i).isSome := by
  rw [import?] at hc
  have hname := List.find?_some hc
  rw [beq_iff_eq] at hname
  obtain ⟨S, hS, hc⟩ := List.mem_flatMap.mp (List.mem_of_find?_eq_some hc)
  obtain ⟨hpart, hkind⟩ := List.mem_filter.mp hS
  have hSkind : S.kind = "import_statement" := beq_iff_eq.mp hkind
  have hchild := Node.mem_children_of_mem_parts hpart
  have hprogram := (hd S (Node.mem_nodes_of_mem_children hchild) hSkind).1
  have hstatement : d.root.HasStatement S :=
    ⟨S, by simpa [Node.statements, hprogram, Node.isOneOf, blockKinds] using hpart, .self S⟩
  have habove : d.root ∈ i.ancestors := by
    rcases List.mem_cons.mp (Node.mem_lineage_of_mem_nodes hi) with heq | habove
    · rw [← heq, hprogram] at hident
      exact absurd hident (by decide)
    · exact habove
  exact isSome_resolve?_iff.mpr
    ⟨d.root, habove, by rw [hprogram]; decide, S, hname ▸ .imported hstatement hSkind hc⟩

end AtTop

/-! ## Exports of a library -/

variable {library : Library}

theorem libraryName?_of_unresolved (hident : i.kind = "identifier") (h : d.resolve? i = none) :
    d.libraryName? library i = some (d.text i) := by
  simp [libraryName?, hident, h]

theorem libraryName?_of_not_import (h : d.resolve? i = some b)
    (hkind : b.kind ≠ "import_statement") : d.libraryName? library i = none := by
  simp [libraryName?, h, hkind]

theorem ImportsAtTop.libraryName?_of_import (hd : d.ImportsAtTop) (hi : i ∈ d.root.nodes)
    (hident : i.kind = "identifier") (h : d.resolve? i = some S)
    (hkind : S.kind = "import_statement") :
    d.libraryName? library i =
      ((d.importsOf S).find? fun c => c.name == d.text i).bind fun c =>
        if library.isModule c.source then some c.imported else none := by
  rw [← (hd.import?_eq hi h hkind).2]
  simp only [libraryName?, hident, h, hkind, if_true]
  cases d.import? (d.text i) <;> rfl

/-- In a file with its import statements at the top, a name stands for an export of a library under
a name exactly if nothing declares it and it is that name, or if it is resolved to an import
statement, and the first binding that this statement introduces for it is imported under that name
from a module of the library.  So a name stands for no export if another declaration than an import
statement counts, if a scope inside the program declares it, or if it is imported first from
elsewhere. -/
theorem ImportsAtTop.libraryName?_exact (hd : d.ImportsAtTop) (hi : i ∈ d.root.nodes)
    (hident : i.kind = "identifier") (library : Library) :
    (∀ n, d.libraryName? library i = some n ↔
      d.resolve? i = none ∧ n = d.text i ∨
        ∃ S c, d.resolve? i = some S ∧ S.kind = "import_statement" ∧
          (d.importsOf S).find? (fun c => c.name == d.text i) = some c ∧
          library.isModule c.source = true ∧ c.imported = n) ∧
      (∀ b, d.resolve? i = some b → b.kind ≠ "import_statement" →
        d.libraryName? library i = none) ∧
      (∀ s ∈ i.ancestors, s ≠ d.root → s.kind ∈ scopeKinds → ∀ b, d.Declares s (d.text i) b →
        d.libraryName? library i = none) ∧
      ∀ c, d.import? (d.text i) = some c → library.isModule c.source = false →
        d.libraryName? library i = none := by
  refine ⟨fun n => ?_, fun b => libraryName?_of_not_import, ?shadowed, ?elsewhere⟩
  · cases hresolve : d.resolve? i with
    | none =>
      rw [libraryName?_of_unresolved hident hresolve, Option.some_inj]
      simp only [reduceCtorEq, false_and, exists_const, exists_false, or_false, true_and]
      exact eq_comm
    | some S =>
      by_cases hkind : S.kind = "import_statement"
      · rw [hd.libraryName?_of_import hi hident hresolve hkind, Option.bind_eq_some_iff]
        simp [hkind]
      · rw [libraryName?_of_not_import hresolve hkind]
        simp [hkind]
  case shadowed =>
    intro s hs hne hscope b hb
    obtain ⟨S, hresolve⟩ := Option.isSome_iff_exists.mp
      (isSome_resolve?_iff.mpr ⟨s, hs, hscope, b, hb⟩)
    apply libraryName?_of_not_import hresolve
    intro hkind
    exact (hd.lookup_root hi hresolve hkind).2.2 s hs hne hscope b hb
  case elsewhere =>
    intro c hc helsewhere
    obtain ⟨S, hresolve⟩ := Option.isSome_iff_exists.mp
      (hd.isSome_resolve?_of_import? hi hident hc)
    by_cases hkind : S.kind = "import_statement"
    · rw [hd.libraryName?_of_import hi hident hresolve hkind,
        ← (hd.import?_eq hi hresolve hkind).2, hc]
      simp [helsewhere]
    · exact libraryName?_of_not_import hresolve hkind

/-- An import under another name, a use of that name, and a parameter that hides it. -/
def renamedImport : Document :=
  ⟨"a.ts", .ofString "import \x7b a as b \x7d from \"solid-js\"; b; b => b;",
    .node ⟨"program", true, false, none, 0, 45⟩ [
      .node ⟨"import_statement", true, false, none, 0, 34⟩ [
        .node ⟨"import", false, false, none, 0, 6⟩ [],
        .node ⟨"import_clause", true, false, none, 7, 17⟩ [
          .node ⟨"named_imports", true, false, none, 7, 17⟩ [
            .node ⟨"\x7b", false, false, none, 7, 8⟩ [],
            .node ⟨"import_specifier", true, false, none, 9, 15⟩ [
              .node ⟨"identifier", true, false, some "name", 9, 10⟩ [],
              .node ⟨"as", false, false, none, 11, 13⟩ [],
              .node ⟨"identifier", true, false, some "alias", 14, 15⟩ []],
            .node ⟨"\x7d", false, false, none, 16, 17⟩ []]],
        .node ⟨"from", false, false, none, 18, 22⟩ [],
        .node ⟨"string", true, false, some "source", 23, 33⟩ [
          .node ⟨"\"", false, false, none, 23, 24⟩ [],
          .node ⟨"string_fragment", true, false, none, 24, 32⟩ [],
          .node ⟨"\"", false, false, none, 32, 33⟩ []],
        .node ⟨";", false, false, none, 33, 34⟩ []],
      .node ⟨"expression_statement", true, false, none, 35, 37⟩ [
        .node ⟨"identifier", true, false, none, 35, 36⟩ [],
        .node ⟨";", false, false, none, 36, 37⟩ []],
      .node ⟨"expression_statement", true, false, none, 38, 45⟩ [
        .node ⟨"arrow_function", true, false, none, 38, 44⟩ [
          .node ⟨"identifier", true, false, some "parameter", 38, 39⟩ [],
          .node ⟨"=>", false, false, none, 40, 42⟩ [],
          .node ⟨"identifier", true, false, some "body", 43, 44⟩ []],
        .node ⟨";", false, false, none, 44, 45⟩ []]]⟩

/-- The use of the imported name stands for the export, the one that the parameter hides does
not. -/
theorem libraryName?_exact_renamedImport :
    renamedImport.hasErrors = false ∧ renamedImport.ImportsAtTop ∧
      (∃ i ∈ renamedImport.root.nodes, i.kind = "identifier" ∧ i.start = 35 ∧
        renamedImport.libraryName? Reactive.library i = some "a") ∧
      ∃ i ∈ renamedImport.root.nodes, i.kind = "identifier" ∧ i.start = 43 ∧
        renamedImport.libraryName? Reactive.library i = none := by
  have hd : renamedImport.ImportsAtTop := by decide +kernel
  refine ⟨by decide +kernel, hd, ?used, ?hidden⟩
  case used =>
    obtain ⟨i, hi, hident, hstart, S, hS, hkind, c, hc, hmodule, hname⟩ :
        ∃ i ∈ renamedImport.root.nodes, i.kind = "identifier" ∧ i.start = 35 ∧
          ∃ S ∈ renamedImport.resolve? i, S.kind = "import_statement" ∧
            ∃ c ∈ (renamedImport.importsOf S).find? (fun c => c.name == renamedImport.text i),
              Reactive.library.isModule c.source = true ∧ c.imported = "a" := by
      decide +kernel
    exact ⟨i, hi, hident, hstart, ((hd.libraryName?_exact hi hident Reactive.library).1 "a").mpr
      (Or.inr ⟨S, c, hS, hkind, hc, hmodule, hname⟩)⟩
  case hidden =>
    obtain ⟨i, hi, hident, hstart, b, hb, hkind⟩ :
        ∃ i ∈ renamedImport.root.nodes, i.kind = "identifier" ∧ i.start = 43 ∧
          ∃ b ∈ renamedImport.resolve? i, b.kind ≠ "import_statement" := by
      decide +kernel
    exact ⟨i, hi, hident, hstart,
      (hd.libraryName?_exact hi hident Reactive.library).2.1 b hb hkind⟩

end Document

end CodeConventions
