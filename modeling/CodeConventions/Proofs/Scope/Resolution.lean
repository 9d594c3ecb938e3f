import CodeConventions.Proofs.Scope.Declaration

/-!
# Where names are resolved

A use stands for what the innermost scope that declares its name declares it as, so it is resolved
exactly if some scope around it declares the name.  A name stands, where it is introduced, for what
its own scope declares under it.

## Strategy

Between a name in a declaration and the scope that declares it there are only patterns, declarators,
statements, and at most a list of parameters or a case of a switch.  None of these is a scope: the
name lies `DirectlyIn` the scope, which is the first one that the way up leads to
(`declarationIn?_ancestors`).
-/

namespace CodeConventions

/-- The node lies below the other one, and no scope lies in between. -/
inductive Node.DirectlyIn (s : Node) : Node → Prop
  | child {c : Node} (hc : c ∈ s.children) : s.DirectlyIn c
  | deeper {p c : Node} (hp : s.DirectlyIn p) (hscope : p.kind ∉ scopeKinds) (hc : c ∈ p.children) :
      s.DirectlyIn c

/-- Neither the list of a function's parameters nor a case of a switch is a scope. -/
structure Document.ClearScopes (d : Document) : Prop where
  parameters : ∀ n ∈ d.root.nodes, n.isFunction = true → ∀ l ∈ n.child? "parameters",
    l.kind ∉ scopeKinds
  cases : ∀ n ∈ d.root.nodes, n.kind = "switch_body" → ∀ c ∈ n.parts, c.kind ∉ scopeKinds

instance (d : Document) : Decidable d.ClearScopes :=
  decidable_of_iff
    ((∀ n ∈ d.root.nodes, n.isFunction = true → ∀ l ∈ n.child? "parameters",
        l.kind ∉ scopeKinds) ∧
      ∀ n ∈ d.root.nodes, n.kind = "switch_body" → ∀ c ∈ n.parts, c.kind ∉ scopeKinds)
    ⟨fun ⟨hparameters, hcases⟩ => ⟨hparameters, hcases⟩, fun h => ⟨h.parameters, h.cases⟩⟩

namespace Node.DirectlyIn

variable {b i p s v w x : Node}

theorem boundNames (hp : s.DirectlyIn p) (hi : i ∈ p.boundNames) : s.DirectlyIn i := by
  induction p using childrenInduction with
  | step p ih =>
    rcases boundNames_cases hi with ⟨_, rfl⟩ | ⟨hkind, c, hc, hi⟩
    · exact hp
    · have hkinds : ∀ kind ∈ compoundPatternKinds, kind ∉ scopeKinds := by decide
      exact ih c hc (hp.deeper (hkinds _ hkind) hc) hi

theorem exposes (hx : s.DirectlyIn x) (h : x.Exposes v) : s.DirectlyIn v := by
  induction h with
  | self n => exact hx
  | exported hkind hc _ ih =>
    exact ih (hx.deeper (by rw [hkind]; decide) (mem_children_of_child? hc))
  | ambient hkind hc _ ih =>
    exact ih (hx.deeper (by rw [hkind]; decide) (mem_children_of_mem_parts hc))

/-- The names of a variable lie directly in the scope of its statement. -/
theorem declarator (hv : s.DirectlyIn v) (hkind : v.kind ∈ variableStatementKinds)
    (hw : w ∈ v.declarators) (hi : w.Introduces i b) : s.DirectlyIn i := by
  have hkinds : ∀ kind ∈ variableStatementKinds, kind ∉ scopeKinds := by decide
  have hdeclarator := kind_of_mem_declarators hw
  obtain ⟨_, p, hname, hi⟩ := (introduces_of_declarator hdeclarator).mp hi
  refine DirectlyIn.boundNames (.deeper ?_ ?_ (mem_children_of_child? hname)) hi
  · exact hv.deeper (hkinds _ hkind) (mem_children_of_mem_parts (List.mem_filter.mp hw).1)
  · rw [hdeclarator]
    decide

end Node.DirectlyIn

namespace Document

variable {d : Document} {b h i own p s use v : Node} {name : String}

/-! ## The way up -/

theorem declarationIn?_lineage (hs : s.kind ∈ scopeKinds) :
    d.declarationIn? s.lineage name =
      ((d.declarations s).lookup name).or (d.declarationIn? s.ancestors name) := by
  rw [declarationIn?, Node.lineage, List.findSome?_cons, if_pos (Node.isOneOf_iff.mpr hs),
    declarationIn?]
  cases (d.declarations s).lookup name <;> rfl

/-- From a node directly in a scope the way up leads to the scope first. -/
theorem declarationIn?_ancestors (hi : s.DirectlyIn i) :
    d.declarationIn? i.ancestors name = d.declarationIn? s.lineage name := by
  induction hi with
  | child hc => rw [Node.ancestors_of_mem_children hc, Node.lineage]
  | deeper _ hscope hc ih =>
    rw [Node.ancestors_of_mem_children hc, ← ih, declarationIn?, List.findSome?_cons,
      if_neg (mt Node.isOneOf_iff.mp hscope), declarationIn?]

/-- A scope has a declaration of each name that it declares. -/
theorem isSome_lookup_iff (hs : s.kind ∈ scopeKinds) :
    ((d.declarations s).lookup name).isSome ↔ ∃ b, d.Declares s name b := by
  simp only [List.lookup_isSome_iff, beq_iff_eq, ← mem_declarations_iff hs]
  constructor
  · rintro ⟨⟨_, b⟩, hb, rfl⟩
    exact ⟨b, hb⟩
  · rintro ⟨b, hb⟩
    exact ⟨(name, b), hb, rfl⟩

/-- A use is resolved exactly if a scope around it declares its name. -/
theorem isSome_resolve?_iff :
    (d.resolve? use).isSome ↔
      ∃ s ∈ use.ancestors, s.kind ∈ scopeKinds ∧ ∃ b, d.Declares s (d.text use) b := by
  rw [resolve?, declarationIn?, List.findSome?_isSome_iff]
  refine exists_congr fun s => and_congr_right fun _ => ?_
  by_cases hs : s.kind ∈ scopeKinds
  · rw [if_pos (Node.isOneOf_iff.mpr hs), isSome_lookup_iff hs]
    simp [hs]
  · rw [if_neg (mt Node.isOneOf_iff.mp hs)]
    simp [hs]

/-! ## The declaration that counts -/

theorem firstOfName_sublist (seen : List String) (bs : List Declaration) :
    (firstOfName seen bs).Sublist bs := by
  induction bs generalizing seen with
  | nil => exact List.Sublist.refl _
  | cons b bs ih =>
    rw [firstOfName]
    split
    · exact (ih seen).cons b
    · exact (ih _).cons_cons b

/-- Of several declarations of a name the first one is kept. -/
theorem lookup_firstOfName {seen : List String} (hname : name ∉ seen) (bs : List Declaration) :
    (firstOfName seen bs).lookup name = bs.lookup name := by
  induction bs generalizing seen with
  | nil => rfl
  | cons b bs ih =>
    rw [firstOfName, List.lookup_cons]
    by_cases heq : name = b.1
    · rw [if_neg (by simpa [← heq] using hname), List.lookup_cons]
      simp [heq]
    · split
      · rw [ih hname, beq_false_of_ne heq]
      · rw [List.lookup_cons, beq_false_of_ne heq, ih (by simp [heq, hname])]

theorem lookup_bindings : (d.bindings s).lookup name = (d.declarations s).lookup name :=
  lookup_firstOfName List.not_mem_nil _

theorem mem_declarations_of_mem_bindings {b : Declaration} (hb : b ∈ d.bindings s) :
    b ∈ d.declarations s :=
  (firstOfName_sublist [] _).subset hb

/-- A scope finds its own declaration of a name that lies directly in it. -/
theorem exists_resolve?_of_directlyIn (hscope : s.kind ∈ scopeKinds) (hi : s.DirectlyIn i)
    (hdeclared : (d.text i, own) ∈ d.declarations s) :
    ∃ b, (d.bindings s).lookup (d.text i) = some b ∧ d.resolve? i = some b ∧
      (((d.declarations s).map Prod.fst).Nodup → b = own) := by
  obtain ⟨b, hb⟩ := Option.isSome_iff_exists.mp
    ((isSome_lookup_iff hscope).mpr ⟨own, (mem_declarations_iff hscope).mp hdeclared⟩)
  refine ⟨b, lookup_bindings.trans hb, ?_, fun hnodup => ?_⟩
  · rw [resolve?, declarationIn?_ancestors hi, declarationIn?_lineage hscope, hb, Option.some_or]
  · obtain ⟨before, after, hsplit, _⟩ := List.lookup_eq_some_iff.mp hb
    have hmem : (d.text i, b) ∈ d.declarations s := by simp [hsplit]
    exact congrArg Prod.snd (List.inj_on_of_nodup_map hnodup hmem hdeclared rfl)

/-! ## Names where they are introduced -/

variable (hd : d.ClearScopes) (hs : s ∈ d.root.nodes)

include hd hs

theorem ClearScopes.directlyIn_of_mem_parameters (hfn : s.isFunction = true)
    (hp : p ∈ s.parameters) : s.DirectlyIn p := by
  have hlisted : ∀ q ∈ s.parameterList, s.DirectlyIn q := fun q hq => by
    obtain ⟨list, hlist, hq⟩ := Node.exists_of_mem_parameterList hq
    exact .deeper (.child (Node.mem_children_of_child? hlist)) (hd.parameters s hs hfn list hlist)
      (Node.mem_children_of_mem_parts hq)
  rcases Node.parameter_cases hp with honly | ⟨q, hq, hkind, hpattern⟩ | hlist
  · exact .child (Node.mem_children_of_child? honly)
  · have hkinds : ∀ kind ∈ Node.parameterKinds, kind ∉ scopeKinds := by decide
    exact (hlisted q hq).deeper (hkinds _ hkind) (Node.mem_children_of_child? hpattern)
  · exact hlisted p hlist

theorem ClearScopes.directlyIn_of_hasStatement (hv : s.HasStatement v) : s.DirectlyIn v := by
  obtain ⟨x, hx, hv⟩ := hv
  refine Node.DirectlyIn.exposes ?_ hv
  rw [Node.statements] at hx
  split_ifs at hx with hfor hswitch hblock
  · exact .child (Node.mem_children_of_child? (Option.mem_toList.mp hx))
  · obtain ⟨c, hc, hx⟩ := List.mem_flatMap.mp hx
    exact .deeper (.child (Node.mem_children_of_mem_parts hc)) (hd.cases s hs hswitch c hc)
      (Node.mem_children_of_mem_parts hx)
  · exact .child (Node.mem_children_of_mem_parts hx)
  · exact absurd hx List.not_mem_nil

/-- What the head of a scope introduces lies directly in the scope. -/
theorem ClearScopes.directlyIn_of_introduces (hi : s.Introduces i b) : s.DirectlyIn i := by
  cases hi with
  | «variable» _ hname hi => exact .boundNames (.child (Node.mem_children_of_child? hname)) hi
  | parameter hfn hp hi => exact (hd.directlyIn_of_mem_parameters hs hfn hp).boundNames hi
  | looped _ _ hleft hi => exact .boundNames (.child (Node.mem_children_of_child? hleft)) hi
  | caught _ hp hi => exact .boundNames (.child (Node.mem_children_of_child? hp)) hi

/-- A name that a scope introduces, in its own head or by a declarator that it has recorded, lies
directly in the scope and is declared there. -/
theorem ClearScopes.directlyIn_and_declared (hscope : s.kind ∈ scopeKinds)
    (hh : h = s ∨ h.kind = "variable_declarator" ∧ h ∈ (d.bindings s).map Prod.snd)
    (hi : h.Introduces i own) :
    s.DirectlyIn i ∧ (d.text i, own) ∈ d.declarations s := by
  rw [mem_declarations_iff hscope]
  rcases hh with rfl | ⟨hkind, hrecorded⟩
  · exact ⟨hd.directlyIn_of_introduces hs hi, .head hi⟩
  · obtain ⟨⟨name, h⟩, hb, rfl⟩ := List.mem_map.mp hrecorded
    have hdeclares := (mem_declarations_iff hscope).mp (mem_declarations_of_mem_bindings hb)
    obtain ⟨v, hv, hvkind, hw⟩ := hdeclares.exists_hasStatement hscope hkind
    exact ⟨(hd.directlyIn_of_hasStatement hs hv).declarator hvkind hw hi, .variable hv hvkind hw hi⟩

/-- A name where it is introduced, by a declarator that a scope has recorded, by a parameter, or in
the head of a loop or of a catch clause, is resolved to what the scope has recorded under it: to the
node that introduces it if the scope declares no name twice. -/
theorem ClearScopes.resolve?_of_introduces (hscope : s.kind ∈ scopeKinds)
    (hh : h = s ∨ h.kind = "variable_declarator" ∧ h ∈ (d.bindings s).map Prod.snd)
    (hi : h.Introduces i own) :
    ∃ b, (d.bindings s).lookup (d.text i) = some b ∧ d.resolve? i = some b ∧
      (((d.declarations s).map Prod.fst).Nodup → b = own) := by
  obtain ⟨hdirect, hdeclared⟩ := hd.directlyIn_and_declared hs hscope hh hi
  exact exists_resolve?_of_directlyIn hscope hdirect hdeclared

omit hd hs

/-- An exported declaration takes apart an object, and in it an array whose element has a
default. -/
def takingApart : Document :=
  ⟨"a.ts", .ofString "export const \x7b a, b: [c = 1] \x7d = d;",
    .node ⟨"program", true, false, none, 0, 35⟩ [
      .node ⟨"export_statement", true, false, none, 0, 35⟩ [
        .node ⟨"export", false, false, none, 0, 6⟩ [],
        .node ⟨"lexical_declaration", true, false, some "declaration", 7, 35⟩ [
          .node ⟨"const", false, false, some "kind", 7, 12⟩ [],
          .node ⟨"variable_declarator", true, false, none, 13, 34⟩ [
            .node ⟨"object_pattern", true, false, some "name", 13, 30⟩ [
              .node ⟨"\x7b", false, false, none, 13, 14⟩ [],
              .node ⟨"shorthand_property_identifier_pattern", true, false, none, 15, 16⟩ [],
              .node ⟨",", false, false, none, 16, 17⟩ [],
              .node ⟨"pair_pattern", true, false, none, 18, 28⟩ [
                .node ⟨"property_identifier", true, false, some "key", 18, 19⟩ [],
                .node ⟨":", false, false, none, 19, 20⟩ [],
                .node ⟨"array_pattern", true, false, some "value", 21, 28⟩ [
                  .node ⟨"[", false, false, none, 21, 22⟩ [],
                  .node ⟨"assignment_pattern", true, false, none, 22, 27⟩ [
                    .node ⟨"identifier", true, false, some "left", 22, 23⟩ [],
                    .node ⟨"=", false, false, none, 24, 25⟩ [],
                    .node ⟨"number", true, false, some "right", 26, 27⟩ []],
                  .node ⟨"]", false, false, none, 27, 28⟩ []]],
              .node ⟨"\x7d", false, false, none, 29, 30⟩ []],
            .node ⟨"=", false, false, none, 31, 32⟩ [],
            .node ⟨"identifier", true, false, some "value", 33, 34⟩ []],
          .node ⟨";", false, false, none, 34, 35⟩ []]]]⟩

/-- The element is resolved to the declarator, through the pattern and the export. -/
theorem resolve?_of_introduces_takingApart :
    takingApart.hasErrors = false ∧ takingApart.ClearScopes ∧
      ((takingApart.declarations takingApart.root).map Prod.fst).Nodup ∧
      ∃ h ∈ takingApart.root.nodes, h.kind = "variable_declarator" ∧
        ∃ i ∈ takingApart.root.nodes, takingApart.text i = "c" ∧ h.Introduces i h ∧
          (takingApart.bindings takingApart.root).lookup "c" = some h ∧
          takingApart.resolve? i = some h := by
  have hd : takingApart.ClearScopes := by decide +kernel
  have hnodup : ((takingApart.declarations takingApart.root).map Prod.fst).Nodup := by
    decide +kernel
  obtain ⟨h, hmem, hkind, hrecorded, p, hname, i, hi, himem, htext⟩ :
      ∃ h ∈ takingApart.root.nodes, h.kind = "variable_declarator" ∧
        h ∈ (takingApart.bindings takingApart.root).map Prod.snd ∧
        ∃ p ∈ h.child? "name", ∃ i ∈ p.boundNames, i ∈ takingApart.root.nodes ∧
          takingApart.text i = "c" := by
    decide +kernel
  have hintroduces : h.Introduces i h := .variable hkind hname hi
  obtain ⟨b, hlookup, hresolve, hown⟩ := hd.resolve?_of_introduces
    takingApart.root.self_mem_nodes (by decide +kernel) (Or.inr ⟨hkind, hrecorded⟩) hintroduces
  obtain rfl := hown hnodup
  exact ⟨by decide +kernel, hd, hnodup, b, hmem, hkind, i, himem, htext, hintroduces,
    htext ▸ hlookup, hresolve⟩

end Document

end CodeConventions
