import CodeConventions.Proofs.Analysis.Fault
import CodeConventions.Proofs.Edit.Markup
import CodeConventions.Proofs.Edit.Rules.Attribute
import CodeConventions.Proofs.Edit.Rules.Component
import CodeConventions.Proofs.Edit.Rules.Functional
import CodeConventions.Proofs.Edit.Rules.Query
import CodeConventions.Proofs.Likeness.Reactivity
import CodeConventions.Proofs.Rules.Builtin
import CodeConventions.Rules.Check

/-!
# Checks and rules in edited documents

What a check remarks in an edited document are its remarks about the document itself, moved, and it
crashes in one as it does in the other.  A parse without flaws has none after an edit.

So a rule of the library has the same findings in an edited document, moved, and fails on it if and
only if it fails on the document itself, with the same fault.

The remarks about reactive variables are those about the document itself, since the two are alike.
Two things are not part of that.  The elements of an array pattern are counted from its second child
on, the first being the bracket, so an edit must not leave out a comment before the bracket
(`Edit.KeepsBrackets`): this is the one place where it matters which child comes first.  And a name
is passed on if it was, since no wrapper is put around it.
-/

namespace CodeConventions

/-- The edit leaves the first child of every array pattern in its place. -/
def Edit.KeepsBrackets (e : Edit) (d : Document) : Prop :=
  ∀ n ∈ d.root.nodes, n.kind = "array_pattern" → ∀ c ∈ n.children.head?, e.omits c.tree = false

/-! ## Elements of array patterns -/

namespace Node

variable (e : Edit) (n : Node)

theorem elementFrom_edited (k : Nat) (cs : List Node) :
    elementFrom k ((cs.filter fun c => !e.omits c.tree).map (edited e)) =
      (elementFrom k cs).map (edited e) := by
  induction cs generalizing k with
  | nil => rfl
  | cons c cs ih =>
    by_cases homit : e.omits c.tree = true
    · have hcomment : c.kind = "comment" := ParseTree.kind_of_omits homit
      simp [homit, elementFrom, hcomment, ih]
    · simp only [homit, List.filter_cons_of_pos, Bool.not_false,
        List.map_cons, elementFrom, kind_edited, isNamed_edited, ih]
      split
      · cases k <;> simp
      · split
        · rfl
        · cases k <;> rfl

theorem drop_children_edited (hfirst : ∀ c ∈ n.children.head?, e.omits c.tree = false) :
    (n.edited e).children.drop 1 =
      ((n.children.drop 1).filter fun c => !e.omits c.tree).map (edited e) := by
  rw [children_edited]
  cases hchildren : n.children with
  | nil => rfl
  | cons c cs =>
    rw [hchildren] at hfirst
    simp [hfirst c rfl]

theorem nameAt?_edited (hfirst : ∀ c ∈ n.children.head?, e.omits c.tree = false) (index : Nat) :
    (n.edited e).nameAt? index = (n.nameAt? index).map (edited e) := by
  unfold nameAt?
  rw [drop_children_edited e n hfirst, elementFrom_edited, Option.filter_map]
  simp [Function.comp_def]

end Node

namespace Document

variable {e : Edit} {d : Document}

theorem keepsElements_edited (hd : e.KeepsBrackets d) : (e.likeness d).KeepsElements :=
  fun p hp hkind index => Node.nameAt?_edited e p (hd p hp hkind) index

theorem isPassedName_edited (n : Node) :
    (d.edited e).isPassedName (n.edited e) = d.isPassedName n := by
  simp [isPassedName, Option.any_map]

theorem reactivity_edited (hd : e.KeepsBrackets d) (options : ReactivityOptions) :
    (d.edited e).reactivity options = (d.reactivity options).map (Remark.moved e) :=
  (keepsElements_edited hd).reactivity_image options fun _ _ _ _ _ i _ => isPassedName_edited i

end Document

/-! ## Checks and rules -/

variable {e : Edit} {d : Document}

/-- The remarks of a check move with the document. -/
theorem Check.remarks_edited (hd : e.KeepsBrackets d) (c : Check) :
    c.remarks (d.edited e) = Remarks.moved e (c.remarks d) := by
  cases c with
  | reassignableBindings options => exact Document.reassignableBindings_edited e d options
  | throws options => exact congrArg _ (Document.throws_edited e d options)
  | rejections => exact congrArg _ (Document.rejections_edited e d)
  | changesToConstants options => exact Document.changesToConstants_edited e d options
  | writableMembers => exact congrArg _ (Document.writableMembers_edited e d)
  | methodSignatures options => exact congrArg _ (Document.methodSignatures_edited e d options)
  | writtenTypes options => exact Document.writtenTypes_edited e d options
  | declaredTypes options => exact Document.declaredTypes_edited e d options
  | componentReturns => exact congrArg _ (Document.componentReturns_edited e d)
  | destructuredComponents => exact congrArg _ (Document.destructuredComponents_edited e d)
  | reactivity options => exact congrArg _ (Document.reactivity_edited hd options)
  | dependencyLists => exact congrArg _ (Document.dependencyLists_edited e d)
  | mappedLists => exact congrArg _ (Document.mappedLists_edited e d)
  | conditionalMarkup => exact congrArg _ (Document.conditionalMarkup_edited e d)
  | misplacedImports => exact congrArg _ (Document.misplacedImports_edited e d)
  | proxies => exact congrArg _ (Document.proxies_edited e d)
  | rawMarkup options => exact congrArg _ (Document.rawMarkup_edited e d options)
  | repeatedAttributes options => exact Document.repeatedAttributes_edited e d options
  | scriptAddresses => exact congrArg _ (Document.scriptAddresses_edited e d)
  | foreignNames => exact congrArg _ (Document.foreignNames_edited e d)
  | unknownPrefixes options => exact congrArg _ (Document.unknownPrefixes_edited e d options)
  | eventHandlers options => exact Document.eventHandlers_edited e d options
  | arrayHandlers => exact Document.arrayHandlers_edited e d
  | undefinedNames options => exact Document.undefinedNames_edited e d options
  | emptyElements options => exact congrArg _ (Document.emptyElements_edited e d options)
  | styles options => exact congrArg _ (Document.styles_edited e d options)
  | joinedClasses options => exact congrArg _ (Document.joinedClasses_edited e d options)
  | incompleteKeys options => exact congrArg _ (Document.incompleteKeys_edited e d options)
  | infiniteQueryOptions => exact congrArg _ (Document.infiniteQueryOptions_edited e d)
  | mutationOptions => exact congrArg _ (Document.mutationOptions_edited e d)
  | gatheredResults => exact congrArg _ (Document.gatheredResults_edited e d)
  | unstableDependencies => exact congrArg _ (Document.unstableDependencies_edited e d)
  | renderedClients => exact congrArg _ (Document.renderedClients_edited e d)
  | routeOptions => exact congrArg _ (Document.routeOptions_edited e d)
  | routeParameters => exact congrArg _ (Document.routeParameters_edited e d)

/-- The finding after an edit. -/
def Finding.moved (e : Edit) (f : Finding) : Finding := { f with span := f.span.moved e }

theorem Check.findings_edited (hd : e.KeepsBrackets d) (c : Check) :
    c.findings (d.edited e) = (c.findings d).map (List.map (Finding.moved e)) := by
  unfold findings
  rw [remarks_edited hd]
  cases c.remarks d with
  | error crash => rfl
  | ok rs => simp [Except.map, Remark.toFinding, Remark.moved, Finding.moved]

/-! ## Flaws -/

theorem Node.exists_of_mem_nodes_edited {m n : Node} (h : m ∈ (n.edited e).nodes) :
    ∃ old ∈ n.nodes, m = old.edited e := by
  induction n using childrenInduction with
  | step n ih =>
    rcases mem_nodes_iff.mp h with rfl | ⟨c, hc, hm⟩
    · exact ⟨n, n.self_mem_nodes, rfl⟩
    · rw [children_edited] at hc
      obtain ⟨old, hold, rfl⟩ := List.mem_map.mp hc
      have hchild := (List.mem_filter.mp hold).1
      obtain ⟨k, hk, rfl⟩ := ih old hchild hm
      exact ⟨k, mem_nodes_iff.mpr (Or.inr ⟨old, hchild, hk⟩), rfl⟩

theorem Document.hasErrors_edited (h : d.hasErrors = false) : (d.edited e).hasErrors = false := by
  unfold hasErrors at h ⊢
  rw [List.any_eq_false] at h ⊢
  intro m hm
  obtain ⟨old, hold, rfl⟩ := Node.exists_of_mem_nodes_edited (e := e) (n := d.root) hm
  simpa [Node.isFlaw] using h old hold

/-! ## Rules of the library -/

variable {r : Rule}

namespace Rule

theorem IsBuiltin.findings_edited (hr : r.IsBuiltin) (hd : e.KeepsBrackets d) :
    r.findings (d.edited e) = (r.findings d).map (List.map (Finding.moved e)) := by
  obtain ⟨c, hdetector, hid⟩ := hr
  rw [findings_eq_of_check hdetector hid, findings_eq_of_check hdetector hid,
    Check.findings_edited hd]
  cases c.findings d <;> rfl

theorem IsBuiltin.failsOn_edited (hr : r.IsBuiltin) (hd : e.KeepsBrackets d) :
    r.failsOn (d.edited e) = r.failsOn d := by
  unfold failsOn
  rw [hr.findings_edited hd]
  cases r.findings d <;> rfl

end Rule

/-- The diagnostic after an edit, if it is about a place in the file. -/
def Diagnostic.moved (e : Edit) (x : Diagnostic) : Diagnostic := { x with span := x.span.moved e }

namespace Rule

/-- Where a rule does not fail, its diagnostics move with the document. -/
theorem IsBuiltin.diagnostics_edited (hr : r.IsBuiltin) (hd : e.KeepsBrackets d)
    (hok : r.failsOn d = false) :
    r.diagnostics (d.edited e) = (r.diagnostics d).map (Diagnostic.moved e) := by
  obtain ⟨fs, hfs⟩ := failsOn_eq_false_iff.mp hok
  unfold diagnostics
  rw [hr.findings_edited hd, hfs]
  simp only [Except.map, List.map_map]
  rfl

/-- A fault is not about a place in the file and stays what it is. -/
theorem IsBuiltin.diagnostics_edited_of_failsOn (hr : r.IsBuiltin) (hd : e.KeepsBrackets d)
    (hfails : r.failsOn d = true) : r.diagnostics (d.edited e) = r.diagnostics d := by
  unfold failsOn at hfails
  unfold diagnostics
  rw [hr.findings_edited hd]
  cases hfindings : r.findings d with
  | error fault => rfl
  | ok fs =>
    rw [hfindings] at hfails
    exact nomatch hfails

end Rule

end CodeConventions
