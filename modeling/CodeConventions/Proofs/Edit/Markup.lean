import CodeConventions.Function.Component
import CodeConventions.Markup.Basic
import CodeConventions.Proofs.Edit.Expression
import CodeConventions.Proofs.Likeness.Reactivity
import CodeConventions.Types.Mutability

/-!
# Markup, components and types in edited documents

Tags, attributes and the expressions among the children of elements commute with an edit, and so do
the components of a file.  A type permits change when it did.
-/

namespace CodeConventions

/-! ## Elements and attributes -/

namespace Node

variable (e : Edit) (n : Node)

@[simp] theorem tag?_edited : (n.edited e).tag? = n.tag?.map (edited e) := by
  unfold tag?
  rw [kind_edited, isOneOf_edited, child?_edited, parts_edited, List.find?_map]
  by_cases helement : n.kind = "jsx_element"
  · cases n.child? "open_tag" <;> simp [helement]
  by_cases htag : n.isOneOf ["jsx_self_closing_element", "jsx_opening_element"] = true
  · simp only [if_neg helement, if_pos htag, Option.map_some]
  · simp only [if_neg helement, if_neg htag, Option.map_none]

@[simp] theorem element?_edited : (n.edited e).element? = n.element?.map (edited e) := by
  by_cases hkind : n.kind = "jsx_opening_element" <;> simp [element?, hkind]

@[simp] theorem isSpreadAttribute_edited :
    (n.edited e).isSpreadAttribute = n.isSpreadAttribute := by
  simp [isSpreadAttribute, Option.any_map]

@[simp] theorem attributes_edited : (n.edited e).attributes = n.attributes.map (edited e) := by
  simp [attributes, List.filter_map, Function.comp_def]

@[simp] theorem namedAttributes_edited :
    (n.edited e).namedAttributes = n.namedAttributes.map (edited e) := by
  simp [namedAttributes, List.filter_map, Function.comp_def]

@[simp] theorem attributeValue?_edited :
    (n.edited e).attributeValue? = n.attributeValue?.map (edited e) := by
  simp [attributeValue?]

@[simp] theorem braced?_edited : (n.edited e).braced? = n.braced?.map (edited e) := by
  by_cases hkind : n.kind = "jsx_expression" <;> simp [braced?, hkind, Function.comp_def]

@[simp] theorem attributeExpression?_edited :
    (n.edited e).attributeExpression? = n.attributeExpression?.map (edited e) := by
  unfold attributeExpression?
  rw [attributeValue?_edited]
  cases n.attributeValue? with
  | none => rfl
  | some v => by_cases hkind : v.kind = "jsx_expression" <;> simp [hkind]

end Node

namespace Document

variable (e : Edit) (d : Document) (n : Node)

@[simp] theorem tagName?_edited : (d.edited e).tagName? (n.edited e) = d.tagName? n := by
  simp [tagName?, Function.comp_def]

@[simp] theorem tags_edited : (d.edited e).tags = d.tags.map (Node.edited e) := by
  unfold tags
  rw [find_edited e d (by decide)]
  simp [List.filter_map, Function.comp_def]

@[simp] theorem isNative_edited : (d.edited e).isNative (n.edited e) = d.isNative n := by
  simp [isNative]

@[simp] theorem attributeName?_edited :
    (d.edited e).attributeName? (n.edited e) = d.attributeName? n := by
  simp [attributeName?, Function.comp_def]

@[simp] theorem attribute?_edited (name : String) :
    (d.edited e).attribute? (n.edited e) name = (d.attribute? n name).map (Node.edited e) := by
  simp [attribute?, List.find?_map]

@[simp] theorem content_edited :
    (d.edited e).content (n.edited e) = (d.content n).map (Node.edited e) := by
  unfold content
  rw [Node.isOneOf_edited, Node.parts_edited, List.filter_map]
  by_cases hkind : n.isOneOf ["jsx_element", "jsx_fragment"] = true
  · simp only [if_pos hkind, Function.comp_def, Node.isOneOf_edited, Node.kind_edited, text_edited]
  · simp only [if_neg hkind, List.map_nil]

@[simp] theorem hasContent_edited : (d.edited e).hasContent (n.edited e) = d.hasContent n := by
  simp [hasContent, Option.any_map]

@[simp] theorem contentExpressions_edited :
    (d.edited e).contentExpressions = d.contentExpressions.map (Node.edited e) :=
  (e.likeness d).contentExpressions_image

end Document

/-! ## Components -/

namespace Node

variable (e : Edit) (n : Node)

@[simp] theorem rendersMarkup_edited : (n.edited e).rendersMarkup = n.rendersMarkup := by
  have hfilter : (n.edited e).ownNodes.filter (fun m => m.isOneOf elementKinds) =
      (n.ownNodes.filter fun m => m.isOneOf elementKinds).map (edited e) :=
    filter_ownNodes_edited e n (fun m => isOneOf_edited e m elementKinds) fun m hm => by
      simp [isOneOf, elementKinds, hm]
  unfold rendersMarkup
  rw [Bool.eq_iff_iff, ← List.isSome_find?, ← List.isSome_find?, ← List.head?_filter, hfilter,
    List.head?_map, Option.isSome_map, List.head?_filter]

@[simp] theorem isInsideMarkup_edited : (n.edited e).isInsideMarkup = n.isInsideMarkup := by
  simp [isInsideMarkup, Option.any_map]

end Node

namespace Document

variable (e : Edit) (d : Document) (n : Node)

@[simp] theorem isPassedToLowerCase_edited :
    (d.edited e).isPassedToLowerCase (n.edited e) = d.isPassedToLowerCase n := by
  unfold isPassedToLowerCase
  rw [Node.climb?_edited]
  cases n.climb? with
  | none => rfl
  | some p =>
    simp only [Option.map_some, Node.kind_edited, Node.parent?_edited]
    cases p.parent? <;> simp

@[simp] theorem isComponent_edited : (d.edited e).isComponent (n.edited e) = d.isComponent n := by
  simp [isComponent]

@[simp] theorem components_edited :
    (d.edited e).components = d.components.map (Node.edited e) := by
  unfold components
  rw [find_edited e d (by decide)]
  simp [List.filter_map, Function.comp_def]

@[simp] theorem isHookOrComponent_edited :
    (d.edited e).isHookOrComponent (n.edited e) = d.isHookOrComponent n := by
  simp [isHookOrComponent]

end Document

/-! ## Types -/

namespace ParseTree

variable (e : Edit)

@[simp] theorem isSignificant_edited (t : ParseTree) :
    (t.edited e).isSignificant = t.isSignificant :=
  (passes_isSignificant e).edited t

theorem not_isSignificant_of_omits {t : ParseTree} (h : e.omits t = true) :
    t.isSignificant = false :=
  (passes_isSignificant e).omitted t h

@[simp] theorem isWritableMember_edited (t : ParseTree) :
    (t.edited e).isWritableMember = t.isWritableMember := by
  have htoken : Passes e (isToken "readonly") := passes_isToken e (by decide)
  simp [isWritableMember, Label.moved, htoken.any_editedAll]

theorem passes_isWritableMember : Passes e fun t => t.isSignificant && t.isWritableMember where
  edited t := by simp
  omitted t h := by simp [not_isSignificant_of_omits e h]

end ParseTree

@[simp] theorem Node.isWritableMember_edited (e : Edit) (n : Node) :
    (n.edited e).isWritableMember = n.isWritableMember :=
  ParseTree.isWritableMember_edited e n.tree

namespace Document

variable (e : Edit) (d : Document)

mutual

theorem typePermitsChange?_edited :
    ∀ t : ParseTree, (d.edited e).typePermitsChange? (t.edited e) = d.typePermitsChange? t
  | .node l ts => by
    have hname : (d.edited e).text? (Node.child? ⟨(ParseTree.node l ts).edited e, []⟩ "name") =
        d.text? (Node.child? ⟨.node l ts, []⟩ "name") := by
      rw [← text?_edited e d, ← Node.child?_edited]
      rfl
    rw [ParseTree.edited] at hname ⊢
    unfold typePermitsChange?
    rw [hname, (ParseTree.passes_isWritableMember e).any_editedAll, membersPermitChange_edited ts,
      firstPermitsChange?_edited ts]
    rfl

theorem membersPermitChange_edited :
    ∀ ts : List ParseTree,
      (d.edited e).membersPermitChange (ParseTree.editedAll e ts) = d.membersPermitChange ts
  | [] => rfl
  | t :: ts => by
    have ih := typePermitsChange?_edited t
    have ihs := membersPermitChange_edited ts
    rw [ParseTree.editedAll, membersPermitChange]
    by_cases homit : e.omits t = true
    · simp [homit, ParseTree.not_isSignificant_of_omits e homit, ihs]
    · simp [homit, membersPermitChange, ih, ihs]

theorem firstPermitsChange?_edited :
    ∀ ts : List ParseTree,
      (d.edited e).firstPermitsChange? (ParseTree.editedAll e ts) = d.firstPermitsChange? ts
  | [] => rfl
  | t :: ts => by
    have ih := typePermitsChange?_edited t
    have ihs := firstPermitsChange?_edited ts
    rw [ParseTree.editedAll, firstPermitsChange?]
    by_cases homit : e.omits t = true
    · simp [homit, ParseTree.not_isSignificant_of_omits e homit, ihs]
    · simp [homit, firstPermitsChange?, ih, ihs]

end

@[simp] theorem permitsChange?_edited (n : Node) :
    (d.edited e).permitsChange? (n.edited e) = d.permitsChange? n :=
  typePermitsChange?_edited e d n.tree

end Document

end CodeConventions
