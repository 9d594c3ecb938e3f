import CodeConventions.Proofs.Likeness.Basic

/-!
# Edited trees

An *edit* puts whole lines before a text, which moves every node of its tree, and it may leave out
of the tree the comments that have no role in their parent and nothing below them.  Nothing that a
rule reads of a tree depends on such comments or on where the text begins.  Each notion of the
library is shown here and in the modules that follow to *commute* with an edit: applied to the
edited thing it gives the edit of what it gives for the thing itself.

For a tree this is so because all ways down from a node choose among its children by a test that
does not look at offsets and that bare comments fail.  The ways up meet only nodes with something
below them.
-/

namespace CodeConventions

/-- Lines that are put before a text, and whether comments are left out of its tree. -/
structure Edit where
  /-- The bytes put before the text. -/
  before : List UInt8
  wholeLines : before = [] ∨ before.getLast? = some 10
  /-- Bare comments are left out. -/
  silent : Bool

namespace Edit

/-- By how much offsets grow. -/
def offset (e : Edit) : Nat := e.before.length

/-- By how much line numbers grow. -/
def lines (e : Edit) : Nat := e.before.count 10

/-- The tree is left out: it is a comment without a role and without anything below it. -/
def omits (e : Edit) (t : ParseTree) : Bool :=
  e.silent && t.label.kind == "comment" && t.label.field.isNone && t.children.isEmpty

/-- The identity of a node after the edit. -/
def movedKey (e : Edit) (k : Nat × Nat × String) : Nat × Nat × String :=
  (k.1 + e.offset, k.2.1 + e.offset, k.2.2)

theorem movedKey_injective (e : Edit) : Function.Injective e.movedKey := by
  rintro ⟨a, b, k⟩ ⟨a', b', k'⟩ h
  simp only [movedKey, Prod.mk.injEq] at h
  rw [Nat.add_right_cancel h.1, Nat.add_right_cancel h.2.1, h.2.2]

end Edit

/-- The label with its offsets moved. -/
def Label.moved (k : Nat) (l : Label) : Label :=
  { l with start := l.start + k, stop := l.stop + k }

namespace ParseTree

mutual

/-- The tree after an edit. -/
def edited (e : Edit) : ParseTree → ParseTree
  | .node l cs => .node (l.moved e.offset) (editedAll e cs)

/-- Several trees after an edit, without those that it leaves out. -/
def editedAll (e : Edit) : List ParseTree → List ParseTree
  | [] => []
  | c :: cs => if e.omits c then editedAll e cs else edited e c :: editedAll e cs

end

variable {e : Edit}

theorem editedAll_eq (e : Edit) (ts : List ParseTree) :
    editedAll e ts = (ts.filter fun t => !e.omits t).map (edited e) := by
  induction ts with
  | nil => rfl
  | cons t ts ih =>
    rw [editedAll, ih]
    cases h : e.omits t <;> simp [h]

@[simp] theorem label_edited (e : Edit) (t : ParseTree) :
    (t.edited e).label = t.label.moved e.offset := by
  cases t
  rfl

@[simp] theorem children_edited (e : Edit) (t : ParseTree) :
    (t.edited e).children = editedAll e t.children := by
  cases t
  rfl

/-! ## Choosing among trees side by side -/

/-- A test that bare comments fail and that does not look at offsets. -/
structure Passes (e : Edit) (p : ParseTree → Bool) : Prop where
  edited : ∀ t, p (t.edited e) = p t
  omitted : ∀ t, e.omits t = true → p t = false

theorem Passes.filter_editedAll {p : ParseTree → Bool} (hp : Passes e p) (ts : List ParseTree) :
    (editedAll e ts).filter p = (ts.filter p).map (ParseTree.edited e) := by
  rw [editedAll_eq, List.filter_map, List.filter_filter]
  congr 1
  refine List.filter_congr fun t _ => ?_
  cases h : e.omits t with
  | true => simp [hp.omitted t h]
  | false => simp [hp.edited t]

theorem Passes.find?_editedAll {p : ParseTree → Bool} (hp : Passes e p) (ts : List ParseTree) :
    (editedAll e ts).find? p = (ts.find? p).map (ParseTree.edited e) := by
  rw [← List.head?_filter, hp.filter_editedAll, List.head?_map, List.head?_filter]

theorem Passes.any_editedAll {p : ParseTree → Bool} (hp : Passes e p) (ts : List ParseTree) :
    (editedAll e ts).any p = ts.any p := by
  rw [Bool.eq_iff_iff, ← List.isSome_find?, hp.find?_editedAll, Option.isSome_map,
    List.isSome_find?]

theorem kind_of_omits {t : ParseTree} (h : e.omits t = true) : t.label.kind = "comment" := by
  simp only [Edit.omits, Bool.and_eq_true, beq_iff_eq] at h
  exact h.1.1.2

theorem field_of_omits {t : ParseTree} (h : e.omits t = true) : t.label.field = none := by
  simp only [Edit.omits, Bool.and_eq_true, Option.isNone_iff_eq_none] at h
  exact h.1.2

theorem children_of_omits {t : ParseTree} (h : e.omits t = true) : t.children = [] := by
  simp only [Edit.omits, Bool.and_eq_true, List.isEmpty_iff] at h
  exact h.2

theorem passes_isSignificant (e : Edit) : Passes e isSignificant where
  edited t := by simp [isSignificant, Label.moved]
  omitted t h := by simp [isSignificant, kind_of_omits h]

theorem passes_isToken (e : Edit) {text : String} (htext : text ≠ "comment") :
    Passes e (isToken text) where
  edited t := by simp [isToken, Label.moved]
  omitted t h := by simp [isToken, kind_of_omits h, htext.symm]

theorem passes_role (e : Edit) (role : String) :
    Passes e fun t => t.label.field == some role where
  edited t := by simp [Label.moved]
  omitted t h := by simp [field_of_omits h]

end ParseTree

namespace Node

/-- The node after an edit. -/
def edited (e : Edit) (n : Node) : Node := ⟨n.tree.edited e, n.above.map (ParseTree.edited e)⟩

variable (e : Edit) (n : Node)

@[simp] theorem kind_edited : (n.edited e).kind = n.kind := by
  simp [edited, kind, Label.moved]

@[simp] theorem start_edited : (n.edited e).start = n.start + e.offset := by
  simp [edited, start, Label.moved]

@[simp] theorem stop_edited : (n.edited e).stop = n.stop + e.offset := by
  simp [edited, stop, Label.moved]

@[simp] theorem isNamed_edited : (n.edited e).isNamed = n.isNamed := by
  simp [edited, isNamed, Label.moved]

@[simp] theorem isMissing_edited : (n.edited e).isMissing = n.isMissing := by
  simp [edited, isMissing, Label.moved]

@[simp] theorem isOneOf_edited (kinds : List String) :
    (n.edited e).isOneOf kinds = n.isOneOf kinds := by
  simp [isOneOf]

@[simp] theorem key_edited : (n.edited e).key = e.movedKey n.key := by
  simp [key, Edit.movedKey]

@[simp] theorem same_edited (m : Node) : (n.edited e).same (m.edited e) = n.same m := by
  simp [same, (e.movedKey_injective).eq_iff]

@[simp] theorem contains_edited (m : Node) :
    (n.edited e).contains (m.edited e) = n.contains m := by
  simp [contains]

/-! ## Children -/

@[simp] theorem parts_edited : (n.edited e).parts = n.parts.map (edited e) := by
  simp only [parts, edited, ParseTree.children_edited,
    (ParseTree.passes_isSignificant e).filter_editedAll, List.map_map]
  rfl

@[simp] theorem child?_edited (role : String) :
    (n.edited e).child? role = (n.child? role).map (edited e) := by
  simp only [child?, edited, ParseTree.children_edited,
    (ParseTree.passes_role e role).find?_editedAll, Option.map_map]
  rfl

@[simp] theorem firstPart?_edited : (n.edited e).firstPart? = n.firstPart?.map (edited e) := by
  rw [firstPart?_eq, firstPart?_eq, parts_edited, List.head?_map]

theorem hasToken_edited {text : String} (htext : text ≠ "comment") :
    (n.edited e).hasToken text = n.hasToken text := by
  simp only [hasToken, edited, ParseTree.children_edited,
    (ParseTree.passes_isToken e htext).any_editedAll]

theorem children_edited :
    (n.edited e).children = (n.children.filter fun c => !e.omits c.tree).map (edited e) := by
  simp only [children, edited, ParseTree.children_edited, ParseTree.editedAll_eq, List.map_map,
    List.filter_map]
  rfl

theorem find?_children_edited {p p' : Node → Bool} (hp : ∀ m, p' (m.edited e) = p m)
    (hcomment : ∀ m : Node, m.kind = "comment" → p m = false) :
    (n.edited e).children.find? p' = (n.children.find? p).map (edited e) := by
  have hkept : ∀ c : Node, (!e.omits c.tree && p c) = p c := fun c => by
    cases homit : e.omits c.tree with
    | true => simp [hcomment c (ParseTree.kind_of_omits homit)]
    | false => rfl
  rw [children_edited, List.find?_map, List.find?_filter]
  simp [hp, hkept]

/-- What is gathered from the children does not change if bare comments give nothing. -/
theorem flatMap_children_edited {α β : Type} {f : Node → List α} {f' : Node → List β} {g : α → β}
    (hf : ∀ c ∈ n.children, f' (c.edited e) = (f c).map g)
    (homitted : ∀ c ∈ n.children, e.omits c.tree = true → f c = []) :
    (n.edited e).children.flatMap f' = (n.children.flatMap f).map g := by
  rw [children_edited]
  generalize n.children = cs at hf homitted ⊢
  induction cs with
  | nil => rfl
  | cons c cs ih =>
    obtain ⟨hc, hcs⟩ := List.forall_mem_cons.mp hf
    obtain ⟨hcomment, hcomments⟩ := List.forall_mem_cons.mp homitted
    rw [List.flatMap_cons, List.map_append, ← ih hcs hcomments]
    cases hom : e.omits c.tree with
    | true => simp [hom, hcomment hom]
    | false => simp [hom, hc]

/-! ## The nodes above -/

@[simp] theorem parent?_edited : (n.edited e).parent? = n.parent?.map (edited e) := by
  obtain ⟨t, above⟩ := n
  cases above with
  | nil => rfl
  | cons p ps => rfl

@[simp] theorem ancestors_edited : (n.edited e).ancestors = n.ancestors.map (edited e) := by
  obtain ⟨t, above⟩ := n
  simp only [ancestors, edited]
  induction above with
  | nil => rfl
  | cons p ps ih => simp only [List.map_cons, ancestorsOf, ih, edited]

/-! ## The nodes below -/

variable {n}

theorem children_of_omits (h : e.omits n.tree = true) : n.children = [] := by
  rw [children, ParseTree.children_of_omits h, List.map_nil]

/-- A test of nodes that bare comments fail chooses the same nodes before and after the edit. -/
theorem filter_nodes_edited {p p' : Node → Bool} (hp : ∀ m, p' (m.edited e) = p m)
    (hcomment : ∀ m : Node, m.kind = "comment" → p m = false) (n : Node) :
    (n.edited e).nodes.filter p' = (n.nodes.filter p).map (edited e) := by
  induction n using childrenInduction with
  | step n ih =>
    have hbelow : (n.edited e).children.flatMap (fun c => c.nodes.filter p') =
        (n.children.flatMap fun c => c.nodes.filter p).map (edited e) := by
      refine flatMap_children_edited e n ih fun c _ homit => ?_
      rw [nodes_eq, children_of_omits e homit]
      simp [hcomment c (ParseTree.kind_of_omits homit)]
    rw [nodes_eq, nodes_eq, List.filter_cons, List.filter_cons, hp, List.filter_flatMap,
      List.filter_flatMap, hbelow]
    split <;> rfl

theorem filter_openNodes_edited {p p' : Node → Bool} (hp : ∀ m, p' (m.edited e) = p m)
    (hcomment : ∀ m : Node, m.kind = "comment" → p m = false) (closed : String → Bool)
    (n : Node) :
    ((n.edited e).openNodes closed).filter p' =
      ((n.openNodes closed).filter p).map (edited e) := by
  induction n using childrenInduction with
  | step n ih =>
    have hbelow : (n.edited e).children.flatMap (fun c => (c.openNodes closed).filter p') =
        (n.children.flatMap fun c => (c.openNodes closed).filter p).map (edited e) := by
      refine flatMap_children_edited e n ih fun c _ homit => ?_
      rw [openNodes_eq, children_of_omits e homit]
      simp [hcomment c (ParseTree.kind_of_omits homit)]
    rw [openNodes_eq, openNodes_eq, kind_edited]
    cases closed n.kind with
    | true => simp [List.filter_cons, hp, apply_ite (List.map (edited e))]
    | false =>
      simp only [Bool.false_eq_true, if_false]
      rw [List.filter_cons, List.filter_cons, hp, List.filter_flatMap, List.filter_flatMap, hbelow]
      split <;> rfl

theorem find_edited {kinds : List String} (hkinds : "comment" ∉ kinds) (n : Node) :
    (n.edited e).find kinds = (n.find kinds).map (edited e) :=
  filter_nodes_edited e (fun m => isOneOf_edited e m kinds)
    (fun m hm => by simpa [isOneOf, hm] using hkinds) n

/-! ## Through wrappers -/

variable (n)

@[simp] theorem isWrapper_edited : (n.edited e).isWrapper = n.isWrapper := isOneOf_edited e n _

@[simp] theorem unwrap_edited : (n.edited e).unwrap = n.unwrap.edited e := by
  induction n using childrenInduction with
  | step n ih =>
    have hpart : ∀ o : Option Node, (∀ c ∈ o, c ∈ n.parts) →
        (((o.map (edited e)).map unwrap).getD (n.edited e)) = ((o.map unwrap).getD n).edited e
      | none, _ => rfl
      | some c, ho => ih c (mem_children_of_mem_parts (ho c rfl))
    rw [unwrap_eq, unwrap_eq n, isWrapper_edited, kind_edited, parts_edited, List.getLast?_map,
      List.head?_map, ← apply_ite, apply_ite (edited e), hpart]
    intro c hc
    split at hc
    · exact List.mem_of_getLast? hc
    · exact List.mem_of_mem_head? hc

@[simp] theorem climb?_edited : (n.edited e).climb? = n.climb?.map (edited e) := by
  simp [climb?, List.find?_map]

@[simp] theorem operand?_edited (role : String) :
    (n.edited e).operand? role = (n.operand? role).map (edited e) := by
  simp [operand?, Function.comp_def]

end Node

end CodeConventions
