import CodeConventions.Proofs.Edit.Markup
import CodeConventions.Rules.Attribute
import CodeConventions.Rules.EventHandler
import CodeConventions.Rules.StyleAttribute

/-!
# The rules on attributes in edited documents

What these rules remark in an edited document are their remarks about the document itself, moved.
Most of them look at each attribute of each tag by itself, which is one argument for all.
-/

namespace CodeConventions

namespace Document

variable (e : Edit) (d : Document) (n : Node)

/-- Remarks about the named attributes of tags move when those about each attribute do. -/
theorem tagRemarks_edited {f f' : Node → Node → Option Remark}
    (hf : ∀ tag a, f' (tag.edited e) (a.edited e) = (f tag a).map (Remark.moved e)) :
    ((d.edited e).tags.flatMap fun tag => tag.namedAttributes.filterMap (f' tag)) =
      (d.tags.flatMap fun tag => tag.namedAttributes.filterMap (f tag)).map (Remark.moved e) := by
  rw [tags_edited]
  refine flatMap_map_image (fun tag => ?_) _
  rw [Node.namedAttributes_edited]
  exact filterMap_map_image (hf tag) _

theorem tags_namedAttributes_edited :
    (d.edited e).tags.flatMap Node.namedAttributes =
      (d.tags.flatMap Node.namedAttributes).map (Node.edited e) := by
  rw [tags_edited]
  exact flatMap_map_image (Node.namedAttributes_edited e) _

theorem nativeTags_edited :
    (d.edited e).tags.filter (d.edited e).isNative =
      (d.tags.filter d.isNative).map (Node.edited e) := by
  rw [tags_edited]
  exact filter_map_image (isNative_edited e d) _

/-! ## Repeated attributes -/

end Document

/-- Which names come up again does not depend on what they are the names of. -/
theorem repeatedFrom_map {α β : Type} (f : α → β) (seen : List String) (xs : List (α × String)) :
    repeatedFrom seen (xs.map (Prod.map f id)) =
      (repeatedFrom seen xs).map (Prod.map f id) := by
  induction xs generalizing seen with
  | nil => rfl
  | cons x xs ih =>
    obtain ⟨a, name⟩ := x
    simp only [List.map_cons, Prod.map_apply, id_eq, repeatedFrom, ih, List.map_append]
    split <;> rfl

namespace Document

variable (e : Edit) (d : Document) (n : Node)

theorem normalNames_edited (options : RepeatedOptions) (attributes : List Node) :
    (d.edited e).normalNames options (attributes.map (Node.edited e)) =
      (d.normalNames options attributes).map (List.map (Prod.map (Node.edited e) id)) := by
  refine mapM_map_image (fun a => ?_) attributes
  rw [Node.firstPart?_edited]
  cases a.firstPart? with
  | none => rfl
  | some name =>
    simp only [Option.map_some, text_edited]
    rfl

theorem childrenTwice_edited (tag : Node) (names : List (Node × String)) :
    (d.edited e).childrenTwice (tag.edited e) (names.map (Prod.map (Node.edited e) id)) =
      Remarks.moved e (d.childrenTwice tag names) := by
  have hname : ((d.attribute? tag "children").map (Node.edited e)).bind Node.firstPart? =
      ((d.attribute? tag "children").bind Node.firstPart?).map (Node.edited e) := by
    cases d.attribute? tag "children" <;> simp
  simp only [childrenTwice, List.any_map, Function.comp_def, Prod.map_snd, id_eq,
    hasContent_edited, attribute?_edited, hname, map_remark?_edited]
  split <;> rfl

theorem repeatedInTag_edited (options : RepeatedOptions) :
    (d.edited e).repeatedInTag options (n.edited e) =
      Remarks.moved e (d.repeatedInTag options n) := by
  unfold repeatedInTag
  rw [Node.namedAttributes_edited, normalNames_edited]
  cases d.normalNames options n.namedAttributes with
  | error crash => rfl
  | ok names =>
    simp only [Except.map, bind, Except.bind, childrenTwice_edited, repeatedFrom_map, List.map_map]
    cases d.childrenTwice n names <;> simp [pure, Except.pure, Function.comp_def]

theorem repeatedAttributes_edited (options : RepeatedOptions) :
    (d.edited e).repeatedAttributes options = Remarks.moved e (d.repeatedAttributes options) := by
  unfold repeatedAttributes
  rw [tags_edited, remarksFor_moved fun tag _ => repeatedInTag_edited e d tag options]

/-! ## Names and prefixes -/

theorem foreignNames_edited :
    (d.edited e).foreignNames = d.foreignNames.map (Remark.moved e) :=
  tagRemarks_edited e d fun tag a => by
    rw [attributeName?_edited, isNative_edited, map_remark_edited]

theorem unknownPrefixes_edited (options : PrefixOptions) :
    (d.edited e).unknownPrefixes options = (d.unknownPrefixes options).map (Remark.moved e) :=
  tagRemarks_edited e d fun tag a => by
    rw [Node.firstPart?_edited]
    cases a.firstPart? with
    | none => rfl
    | some name =>
      simp only [Option.map_some, Node.kind_edited, isNative_edited, text_edited,
        map_remark_edited]
      split <;> rfl

/-! ## Dangerous values -/

@[simp] theorem attributeText?_edited :
    (d.edited e).attributeText? (n.edited e) = d.attributeText? n := by
  simp [attributeText?, Option.bind_map]

@[simp] theorem rawMarkupFault?_edited (text : Option String) :
    (d.edited e).rawMarkupFault? (n.edited e) text = d.rawMarkupFault? n text := by
  simp [rawMarkupFault?]

theorem rawMarkup_edited (options : RawMarkupOptions) :
    (d.edited e).rawMarkup options = (d.rawMarkup options).map (Remark.moved e) :=
  tagRemarks_edited e d fun tag a => by simp [rawMarkupAttributeFault?]

theorem scriptAddresses_edited :
    (d.edited e).scriptAddresses = d.scriptAddresses.map (Remark.moved e) := by
  unfold scriptAddresses
  rw [tags_namedAttributes_edited]
  simp [List.filter_map, Function.comp_def]

/-! ## Event handlers -/

@[simp] theorem spreadLiteral?_edited :
    spreadLiteral? (n.edited e) = (spreadLiteral? n).map (Node.edited e) := by
  unfold spreadLiteral?
  rw [Node.braced?_edited, bind_map_image (Node.firstPart?_edited e)]
  generalize n.braced?.bind Node.firstPart? = spread
  simp [Option.filter_map, Function.comp_def]

@[simp] theorem spreadHandler?_edited (p : Property) :
    (d.edited e).spreadHandler? (p.edited e) = (d.spreadHandler? p).map (Remark.moved e) := by
  simp only [spreadHandler?, Property.name_edited, Property.key_edited, Property.node_edited,
    Property.spread_edited, remark_edited]
  cases p.name with
  | none => rfl
  | some name =>
    cases p.key with
    | none => rfl
    | some key =>
      simp only [Option.map_some, Node.kind_edited]
      split <;> rfl

theorem spreadHandlers_edited :
    (d.edited e).spreadHandlers (n.edited e) = (d.spreadHandlers n).map (Remark.moved e) := by
  unfold spreadHandlers
  rw [Node.attributes_edited, filterMap_map_image (spreadLiteral?_edited e),
    flatMap_map_image (properties_edited e d), filterMap_map_image (spreadHandler?_edited e d)]

@[simp] theorem plainValue_edited :
    (d.edited e).plainValue (n.edited e) = d.plainValue n := by
  have hvalue : (n.attributeExpression?.map (Node.edited e)).bind (d.edited e).staticValue? =
      n.attributeExpression?.bind d.staticValue? := by
    simp [Option.bind_map]
  unfold plainValue
  rw [Node.attributeValue?_edited, Node.attributeExpression?_edited, hvalue]
  cases n.attributeValue? with
  | none => rfl
  | some written =>
    cases n.attributeExpression?.bind d.staticValue? <;> simp

theorem handler_edited (options : HandlerOptions) (attr name : Node) :
    (d.edited e).handler options (attr.edited e) (name.edited e) =
      Remarks.moved e (d.handler options attr name) := by
  simp only [handler, Node.kind_edited, text_edited, plainValue_edited, map_remark_edited,
    remark_edited]
  split
  · rfl
  · refine Remarks.map_moved (fun (isPlain, value) => ?_) _
    cases isPlain with
    | true => rfl
    | false =>
      by_cases hignore : options.ignoreCase = true
      · simp [hignore]
      · simp [hignore, Option.toList_map, Function.comp_def]

theorem handlersOf_edited (options : HandlerOptions) :
    (d.edited e).handlersOf options (n.edited e) = Remarks.moved e (d.handlersOf options n) := by
  have hspread : (if options.warnOnSpread then (d.edited e).spreadHandlers (n.edited e) else []) =
      (if options.warnOnSpread then d.spreadHandlers n else []).map (Remark.moved e) := by
    split
    · exact spreadHandlers_edited e d n
    · rfl
  unfold handlersOf
  rw [Node.namedAttributes_edited, hspread]
  refine (congrArg _ (remarksFor_moved fun a _ => ?_)).trans (Remarks.moved_append e _ _)
  rw [Node.firstPart?_edited]
  cases a.firstPart? with
  | none => rfl
  | some name => exact handler_edited e d options a name

theorem eventHandlers_edited (options : HandlerOptions) :
    (d.edited e).eventHandlers options = Remarks.moved e (d.eventHandlers options) := by
  unfold eventHandlers
  rw [nativeTags_edited, remarksFor_moved fun tag _ => handlersOf_edited e d tag options]

theorem arrayHandler_edited :
    (d.edited e).arrayHandler (n.edited e) = Remarks.moved e (d.arrayHandler n) := by
  simp only [arrayHandler, attributeName?_edited, Node.attributeExpression?_edited,
    Option.any_map, Node.kind_edited, remark_edited]
  cases d.attributeName? n with
  | none => rfl
  | some name =>
    dsimp only
    split <;> rfl

theorem arrayHandlers_edited :
    (d.edited e).arrayHandlers = Remarks.moved e d.arrayHandlers := by
  unfold arrayHandlers
  rw [nativeTags_edited, flatMap_map_image (Node.namedAttributes_edited e),
    remarksFor_moved fun a _ => arrayHandler_edited e d a]

/-! ## Styles and classes -/

@[simp] theorem isNonzero_edited : (d.edited e).isNonzero (n.edited e) = d.isNonzero n := by
  simp [isNonzero]

@[simp] theorem styleEntry?_edited (p : Property) :
    styleEntry? (d.edited e) (p.edited e) = Option.map (Remark.moved e) ( d.styleEntry? p) := by
  simp only [ styleEntry?, Property.name_edited, Property.key_edited, Property.node_edited,
    Property.value_edited, Property.spread_edited, Node.kind_edited]
  cases p.name with
  | none => rfl
  | some name =>
    cases p.key with
    | none => rfl
    | some key =>
      simp only [Option.map_some, remark_edited]
      split
      · rfl
      · cases styleKeyFault? name with
        | some message => rfl
        | none =>
          cases p.value with
          | none => rfl
          | some value =>
            simp only [Option.map_some, isNonzero_edited, remark_edited]
            split <;> rfl

theorem styleRemarks_edited (options : StyleOptions) :
    (d.edited e).styleRemarks options (n.edited e) =
      (d.styleRemarks options n).map (Remark.moved e) := by
  unfold styleRemarks
  rw [Node.attributeExpression?_edited]
  cases n.attributeExpression? with
  | none => rfl
  | some value =>
    simp only [Option.map_some, stringValue?_edited, Node.kind_edited, remark_edited,
      properties_edited, List.filterMap_map]
    split
    · split <;> rfl
    · split
      · simp [List.map_filterMap]
      · rfl

theorem styles_edited (options : StyleOptions) :
    (d.edited e).styles options = (d.styles options).map (Remark.moved e) := by
  unfold styles
  rw [tags_namedAttributes_edited,
    filter_map_image fun a => by rw [attributeName?_edited],
    flatMap_map_image fun a => styleRemarks_edited e d a options]

@[simp] theorem classHelper?_edited (options : ClassListOptions) :
    (d.edited e).classHelper? options (n.edited e) = d.classHelper? options n := by
  unfold classHelper?
  rw [Node.attributeExpression?_edited]
  cases n.attributeExpression? with
  | none => rfl
  | some value =>
    simp only [Option.map_some, Node.kind_edited, Node.callee?_edited, Node.arguments_edited]
    split
    · cases value.callee? with
      | none => rfl
      | some callee =>
        match value.arguments with
        | [] => rfl
        | _ :: _ :: _ => rfl
        | [argument] => simp
    · rfl

theorem joinedClasses_edited (options : ClassListOptions) :
    (d.edited e).joinedClasses options = (d.joinedClasses options).map (Remark.moved e) := by
  unfold joinedClasses
  rw [tags_edited, filter_map_image fun t => by rw [attribute?_edited, Option.isNone_map]]
  dsimp only
  rw [flatMap_map_image (Node.namedAttributes_edited e),
    filter_map_image fun a => by rw [attributeName?_edited]]
  refine filterMap_map_image (fun a => ?_) _
  rw [classHelper?_edited]
  simp [Function.comp_def]

end Document

end CodeConventions
