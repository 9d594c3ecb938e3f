import CodeConventions.Proofs.Scope.Resolution
import CodeConventions.Rules.Undefined
import CodeConventions.Scope.Library

/-!
# How far a variable is seen

A variable belongs to the scope in which its declaration is a statement: a block, the head of a loop
or a switch.  It is seen from everything below that scope and from nothing outside it, whatever word
it is declared with.  Where no other declaration of the name is around, a use outside counts as the
name of something global: the rule on undefined names reports it, and a library claims it.

In the language a variable that is declared by `var` in a nested block is seen from the whole
function.  `branching` is a function whose markup uses such a variable.
-/

namespace CodeConventions.Document

variable {d : Document} {i s use v w : Node}

/-! ## What follows from being resolved -/

/-- A use is taken for one of a declared name: it is not reported as undefined, and no library
claims it but one that it is imported from. -/
structure CountsAsDeclared (d : Document) (use : Node) : Prop where
  resolved : (d.resolve? use).isSome
  component : ∀ options tag, componentName? tag = some use → d.undefinedTag? options tag = none
  directive : ∀ (options : UndefinedOptions) (attr name word : Node),
    attr.firstPart? = some name → name.kind = "jsx_namespace_name" → name.parts = [word, use] →
      d.undefinedDirective options attr = .ok []
  library : ∀ library, (d.libraryName? library use).isSome →
    ∃ b, d.resolve? use = some b ∧ b.kind = "import_statement"

/-- The options let the name pass although nothing declares it. -/
def LetsPass (d : Document) (options : UndefinedOptions) (use : Node) : Prop :=
  options.allowGlobals = true ∧ d.text use ∈ Reactive.globalNames

/-- A use is taken for one of a name that nothing in the file declares: it is reported as undefined
where it names a component or a directive, unless the options let it pass, and every library claims
it. -/
structure CountsAsGlobal (d : Document) (use : Node) : Prop where
  unresolved : d.resolve? use = none
  component : ∀ (options : UndefinedOptions) (tag : Node), componentName? tag = some use →
    isNativeName (d.text use) = false → ¬ d.LetsPass options use →
      d.undefinedTag? options tag =
        some (d.remark use (undefinedComponent options (d.text use)))
  directive : ∀ (options : UndefinedOptions) (attr name word : Node),
    attr.firstPart? = some name → name.kind = "jsx_namespace_name" → name.parts = [word, use] →
      d.text word = "use" → ¬ d.LetsPass options use →
        d.undefinedDirective options attr =
          .ok [d.remark use s!"Custom directive '{d.text use}' is not defined."]
  library : ∀ library, use.kind = "identifier" → d.libraryName? library use = some (d.text use)

theorem isDefined_iff {options : UndefinedOptions} :
    d.isDefined options use = true ↔ d.LetsPass options use ∨ (d.resolve? use).isSome := by
  simp [isDefined, LetsPass]

theorem countsAsDeclared_iff : d.CountsAsDeclared use ↔ (d.resolve? use).isSome := by
  refine ⟨CountsAsDeclared.resolved, fun h => ⟨h, fun options tag htag => ?_,
    fun options attr name word hname hkind hparts => ?_, fun library hlibrary => ?_⟩⟩
  · simp [undefinedTag?, htag, isDefined_iff.mpr (Or.inr h)]
  · simp [undefinedDirective, hname, hkind, hparts, isDefined_iff.mpr (Or.inr h)]
  · obtain ⟨b, hb⟩ := Option.isSome_iff_exists.mp h
    refine ⟨b, hb, ?_⟩
    by_contra hkind
    simp [libraryName?, hb, hkind] at hlibrary

theorem countsAsGlobal_iff : d.CountsAsGlobal use ↔ d.resolve? use = none := by
  have hundefined : d.resolve? use = none → ∀ options, ¬ d.LetsPass options use →
      d.isDefined options use = false := fun h options hpass => by
    rw [Bool.eq_false_iff, ne_eq, isDefined_iff, h]
    simpa using hpass
  refine ⟨CountsAsGlobal.unresolved, fun h => ⟨h, fun options tag htag hnative hpass => ?_,
    fun options attr name word hname hkind hparts huse hpass => ?_, fun library hkind => ?_⟩⟩
  · simp [undefinedTag?, htag, hnative, hundefined h options hpass]
  · simp [undefinedDirective, hname, hkind, hparts, huse, hundefined h options hpass]
  · rw [libraryName?, if_pos hkind, h]

/-! ## Variables -/

/-- A scope declares a variable only if the declaration is one of its statements. -/
theorem Declares.hasStatement {name : String} (hs : s.kind ∈ scopeKinds) (hw : w ∈ v.declarators)
    (h : d.Declares s name w) : s.HasStatement v := by
  obtain ⟨u, hu, _, hwu⟩ := h.exists_hasStatement hs (Node.kind_of_mem_declarators hw)
  have heq := (Node.parent?_of_mem_declarators hwu).symm.trans (Node.parent?_of_mem_declarators hw)
  exact Option.some_inj.mp heq ▸ hu

/-- A variable is seen from everything below the scope that has its declaration as a statement.
From elsewhere it is not: where every declaration of the name around a use is that of the variable,
a use that lies elsewhere is taken for one of a global name. -/
theorem seen_of_variable (hv : v.kind ∈ variableStatementKinds) (hw : w ∈ v.declarators)
    (hi : w.Introduces i w) (htext : d.text use = d.text i) :
    ((∃ s ∈ use.ancestors, s.HasStatement v) → d.CountsAsDeclared use) ∧
      ((∀ s ∈ use.ancestors, s.kind ∈ scopeKinds → ∀ b, d.Declares s (d.text use) b → b = w) →
        (¬ ∃ s ∈ use.ancestors, s.HasStatement v) → d.CountsAsGlobal use) := by
  refine ⟨fun ⟨s, hs, hstatement⟩ => ?_, fun honly hnone => ?_⟩
  · rw [countsAsDeclared_iff, isSome_resolve?_iff, htext]
    exact ⟨s, hs, hstatement.kind_mem, w, .variable hstatement hv hw hi⟩
  · rw [countsAsGlobal_iff, ← Option.not_isSome_iff_eq_none, isSome_resolve?_iff]
    rintro ⟨s, hs, hscope, b, hb⟩
    obtain rfl := honly s hs hscope b hb
    exact hnone ⟨s, hs, hb.hasStatement hscope hw⟩

/-- A branch of a component declares what its markup is made of. -/
def branching : Document :=
  ⟨"a.tsx", .ofString "function A() \x7b if (a) \x7b var B = c; \x7d return <B/>; \x7d",
    .node ⟨"program", true, false, none, 0, 51⟩ [
      .node ⟨"function_declaration", true, false, none, 0, 51⟩ [
        .node ⟨"function", false, false, none, 0, 8⟩ [],
        .node ⟨"identifier", true, false, some "name", 9, 10⟩ [],
        .node ⟨"formal_parameters", true, false, some "parameters", 10, 12⟩ [
          .node ⟨"(", false, false, none, 10, 11⟩ [],
          .node ⟨")", false, false, none, 11, 12⟩ []],
        .node ⟨"statement_block", true, false, some "body", 13, 51⟩ [
          .node ⟨"\x7b", false, false, none, 13, 14⟩ [],
          .node ⟨"if_statement", true, false, none, 15, 36⟩ [
            .node ⟨"if", false, false, none, 15, 17⟩ [],
            .node ⟨"parenthesized_expression", true, false, some "condition", 18, 21⟩ [
              .node ⟨"(", false, false, none, 18, 19⟩ [],
              .node ⟨"identifier", true, false, none, 19, 20⟩ [],
              .node ⟨")", false, false, none, 20, 21⟩ []],
            .node ⟨"statement_block", true, false, some "consequence", 22, 36⟩ [
              .node ⟨"\x7b", false, false, none, 22, 23⟩ [],
              .node ⟨"variable_declaration", true, false, none, 24, 34⟩ [
                .node ⟨"var", false, false, none, 24, 27⟩ [],
                .node ⟨"variable_declarator", true, false, none, 28, 33⟩ [
                  .node ⟨"identifier", true, false, some "name", 28, 29⟩ [],
                  .node ⟨"=", false, false, none, 30, 31⟩ [],
                  .node ⟨"identifier", true, false, some "value", 32, 33⟩ []],
                .node ⟨";", false, false, none, 33, 34⟩ []],
              .node ⟨"\x7d", false, false, none, 35, 36⟩ []]],
          .node ⟨"return_statement", true, false, none, 37, 49⟩ [
            .node ⟨"return", false, false, none, 37, 43⟩ [],
            .node ⟨"jsx_self_closing_element", true, false, none, 44, 48⟩ [
              .node ⟨"<", false, false, none, 44, 45⟩ [],
              .node ⟨"identifier", true, false, some "name", 45, 46⟩ [],
              .node ⟨"/>", false, false, none, 46, 48⟩ []],
            .node ⟨";", false, false, none, 48, 49⟩ []],
          .node ⟨"\x7d", false, false, none, 50, 51⟩ []]]]⟩

/-- The variable and its use in the markup, both in the component. -/
private theorem exists_use_branching :
    ∃ v ∈ branching.find ["variable_declaration"], v.hasToken "var" = true ∧
      (v.enclosingFunction?).isSome ∧
      ∃ w ∈ v.declarators, ∃ i ∈ Node.boundNames? (w.child? "name"),
        ∃ tag ∈ branching.tags, ∃ use ∈ componentName? tag,
          use.enclosingFunction? = v.enclosingFunction? ∧
          branching.text use = branching.text i ∧ branching.resolve? use = none ∧
          branching.undefinedTag? {} tag =
            some (branching.remark use "'B' is not defined.") := by
  decide +kernel

/-- In the branch the variable is seen, and in the markup it is not. -/
theorem seen_of_variable_branching :
    branching.hasErrors = false ∧
      ∃ v ∈ branching.find ["variable_declaration"], ∃ w ∈ v.declarators,
        ∃ i ∈ branching.root.nodes, w.Introduces i w ∧
          (∃ s ∈ i.ancestors, s.HasStatement v) ∧ branching.CountsAsDeclared i ∧
          ∃ tag ∈ branching.tags, ∃ use ∈ componentName? tag,
            branching.text use = branching.text i ∧
            (¬ ∃ s ∈ use.ancestors, s.HasStatement v) ∧ branching.CountsAsGlobal use := by
  obtain ⟨v, hv, _, _, w, hw, i, hi, tag, htag, use, huse, _, htext, _⟩ := exists_use_branching
  have hkind : v.kind ∈ variableStatementKinds :=
    List.mem_cons_of_mem _ (mem_of_mem_find hv).2
  have hplace : ∀ v ∈ branching.find ["variable_declaration"], ∀ w ∈ v.declarators,
      ∀ i ∈ Node.boundNames? (w.child? "name"), i ∈ branching.root.nodes ∧
        ∃ s ∈ i.ancestors, v ∈ s.statements := by
    decide +kernel
  obtain ⟨hmem, s, hs, hstatement⟩ := hplace v hv w hw i hi
  have hundeclared : ∀ tag ∈ branching.tags, ∀ use ∈ componentName? tag, ∀ s ∈ use.ancestors,
      ∀ b ∈ branching.declarations s, b.1 ≠ branching.text use := by
    decide +kernel
  have hnowhere : ∀ s ∈ use.ancestors, s.kind ∈ scopeKinds → ∀ b,
      ¬ branching.Declares s (branching.text use) b := fun s hs hscope b hb =>
    hundeclared tag htag use huse s hs _ ((mem_declarations_iff hscope).mpr hb) rfl
  have hintroduces : w.Introduces i w := by
    obtain ⟨p, hname, hi⟩ := Node.mem_boundNames?_iff.mp hi
    exact .variable (Node.kind_of_mem_declarators hw) hname hi
  have houtside : ¬ ∃ s ∈ use.ancestors, s.HasStatement v := by
    rintro ⟨s, hs, hstatement⟩
    refine hnowhere s hs hstatement.kind_mem w (htext ▸ ?_)
    exact .variable hstatement hkind hw hintroduces
  have hinside : ∃ s ∈ i.ancestors, s.HasStatement v := ⟨s, hs, v, hstatement, .self v⟩
  refine ⟨by decide +kernel, v, hv, w, hw, i, hmem, hintroduces, hinside,
    (seen_of_variable hkind hw hintroduces rfl).1 hinside, tag, htag, use, huse, htext, houtside,
    (seen_of_variable hkind hw hintroduces htext).2 (fun s hs hscope b hb => ?_) houtside⟩
  exact absurd hb (hnowhere s hs hscope b)

/-- The markup uses a variable of the same function, and the rule says that it is not defined. -/
theorem countsAsGlobal_branching :
    branching.hasErrors = false ∧
      ∃ v ∈ branching.find ["variable_declaration"], v.hasToken "var" = true ∧
        (v.enclosingFunction?).isSome ∧
        ∃ w ∈ v.declarators, ∃ i ∈ Node.boundNames? (w.child? "name"),
          ∃ tag ∈ branching.tags, ∃ use ∈ componentName? tag,
            use.enclosingFunction? = v.enclosingFunction? ∧
            branching.text use = branching.text i ∧ branching.resolve? use = none ∧
            branching.undefinedTag? {} tag = some (branching.remark use "'B' is not defined.") ∧
            ∀ library, branching.libraryName? library use = some "B" := by
  obtain ⟨v, hv, hword, henclosing, w, hw, i, hi, tag, htag, use, huse, hfn, htext, hresolve,
    hundefined⟩ := exists_use_branching
  have hname : ∀ tag ∈ branching.tags, ∀ use ∈ componentName? tag,
      use.kind = "identifier" ∧ branching.text use = "B" := by
    decide +kernel
  obtain ⟨hkind, hB⟩ := hname tag htag use huse
  refine ⟨by decide +kernel, v, hv, hword, henclosing, w, hw, i, hi, tag, htag, use, huse, hfn,
    htext, hresolve, hundefined, fun library => ?_⟩
  rw [← hB]
  exact (countsAsGlobal_iff.mpr hresolve).library library hkind

end CodeConventions.Document
