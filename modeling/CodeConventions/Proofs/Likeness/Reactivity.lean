import CodeConventions.Proofs.Likeness.Scope
import CodeConventions.Proofs.Rules.Reactivity.Variable
import CodeConventions.Rules.Reactivity.Read

/-!
# Reactivity in like documents

The variables made by calls of the library, the functions that run at once, the functions that
variables belong to and the tracked scopes have images, and so has each use of a variable.  The
remarks about the image of a document are the images of the remarks about the document.

Two notions look at more than likeness keeps, and are asked for by name.  The elements of an array
pattern are counted from its second child on, comments and all.  And whether a name that is passed
to a call may be a function depends on what stands directly above it, be it a wrapper.
-/

namespace CodeConventions

/-! ## What is passed to a call -/

namespace Node

/-- The names in an argument by which functions may be passed on. -/
def namesIn (n : Node) : List Node :=
  let m := n.unwrap
  if m.isFunction then []
  else if m.kind = "identifier" then [m]
  else m.parts.attach.flatMap fun ⟨c, _h⟩ => namesIn c
termination_by n.size
decreasing_by
  exact Nat.lt_of_lt_of_le (Node.size_parts_lt (by assumption)) n.size_unwrap_le

theorem namesIn_eq (n : Node) :
    n.namesIn =
      if n.unwrap.isFunction then []
      else if n.unwrap.kind = "identifier" then [n.unwrap]
      else n.unwrap.parts.flatMap namesIn := by
  rw [namesIn]
  simp

end Node

namespace Document

/-- It is known of the name what a call of it tracks. -/
def isKnownRunner (d : Document) (callee : Node) (arguments : List Node) : Bool :=
  let name := d.libraryName? Reactive.library callee
  (name.any Reactive.trackedCallbackRunners.contains
      || (name == some "createResource" && arguments.length ≥ 2))
    || (name.any Reactive.deferredRunners.contains || Reactive.timers.contains (d.text callee))
    || name == some "on"
    || (name == some "createStore" && arguments[0]?.any fun f => f.unwrap.kind == "object")
    || name == some "runWithOwner"

/-- The call may track every function that is passed to it. -/
def tracksPassed (d : Document) (custom : List String) (call : Node) : Bool :=
  let tracking := fun name => Reactive.isReactiveFunctionName name || custom.contains name
  call.callee?.any fun callee =>
    if callee.kind = "identifier" then
      !d.isKnownRunner callee call.arguments && tracking (d.text callee)
    else
      let method := d.text? (callee.child? "property")
      callee.kind == "member_expression"
        && !(call.arguments[1]?.isSome && method == "addEventListener") && tracking method

theorem scopesOfNamedCall_of_unknown {d : Document} {custom : List String} {callee : Node}
    {arguments : List Node} (hunknown : d.isKnownRunner callee arguments = false)
    (hreactive : (Reactive.isReactiveFunctionName (d.text callee)
      || custom.contains (d.text callee)) = true) :
    d.scopesOfNamedCall custom callee arguments = d.passedScopes arguments := by
  unfold isKnownRunner at hunknown
  simp only [Bool.or_eq_false_iff] at hunknown
  obtain ⟨⟨⟨⟨⟨hrunner, hresource⟩, hdeferred, htimer⟩, hon⟩, hstore⟩, howner⟩ := hunknown
  have hfirst : ((arguments[0]?.map Node.unwrap).any fun f => f.kind == "object") =
      arguments[0]?.any fun f => f.unwrap.kind == "object" := Option.any_map ..
  unfold scopesOfNamedCall
  simp only [hrunner, hresource, hdeferred, htimer, hfirst, hstore, hreactive, Bool.or_self,
    Bool.false_eq_true, if_false, if_true, beq_eq_false_iff_ne.mp hon,
    beq_eq_false_iff_ne.mp howner]

/-- A call that may track every function that is passed to it has the scopes that they are. -/
theorem scopesOfCall_of_tracksPassed {d : Document} {custom : List String} {call : Node}
    (h : d.tracksPassed custom call = true) :
    d.scopesOfCall custom call = d.passedScopes call.arguments := by
  unfold tracksPassed at h
  unfold scopesOfCall
  cases hcallee : call.callee? with
  | none => simp [hcallee] at h
  | some callee =>
    simp only [hcallee, Option.any_some] at h
    dsimp only
    by_cases hname : callee.kind = "identifier"
    · rw [if_pos hname, Bool.and_eq_true, Bool.not_eq_true'] at h
      rw [if_pos hname]
      exact scopesOfNamedCall_of_unknown h.1 h.2
    · rw [if_neg hname] at h
      simp only [Bool.and_eq_true, beq_iff_eq, Bool.not_eq_true'] at h
      obtain ⟨⟨hmember, hother⟩, hreactive⟩ := h
      rw [if_neg hname, if_pos hmember, scopesOfMethodCall]
      cases hsecond : call.arguments[1]? with
      | none => exact if_pos hreactive
      | some second =>
        have hlistener : ¬ d.text? (callee.child? "property") = "addEventListener" := by
          simpa [hsecond] using hother
        exact (if_neg hlistener).trans (if_pos hreactive)

theorem passedFunctions_eq (d : Document) (n : Node) :
    d.passedFunctions n =
      if n.unwrap.isFunction then [n.unwrap]
      else if n.unwrap.kind = "identifier" then if d.isPassedName n.unwrap then [n.unwrap] else []
      else n.unwrap.parts.flatMap d.passedFunctions := by
  rw [passedFunctions]
  simp

end Document

theorem Node.wholeAccess_eq (n : Node) :
    n.wholeAccess =
      match n.climb? with
      | some p => if n.isAccessedBy p then p.wholeAccess else n
      | none => n := by
  rw [wholeAccess]
  cases n.climb? <;> rfl

namespace Likeness

variable {d d' : Document} (h : Likeness d d') {m n : Node}

/-! ## Markup -/

@[simp] theorem tagName?_image (n : Node) : d'.tagName? (h.image n) = d.tagName? n := by
  simp [Document.tagName?, h.child?_stand, Function.comp_def]

@[simp] theorem isNative_image (n : Node) : d'.isNative (h.image n) = d.isNative n := by
  simp [Document.isNative]

@[simp] theorem attributeName?_image (n : Node) :
    d'.attributeName? (h.image n) = d.attributeName? n := by
  unfold Document.attributeName?
  rw [h.kind_image]
  by_cases hkind : n.kind = "jsx_attribute"
  · rw [if_pos hkind, if_pos hkind, (h.plain_of_kind hkind (by decide)).firstPart?_image]
    simp [Function.comp_def]
  · rw [if_neg hkind, if_neg hkind]

@[simp] theorem braced?_image (n : Node) : (h.image n).braced? = n.braced?.map h.image := by
  unfold Node.braced?
  rw [h.kind_image]
  by_cases hkind : n.kind = "jsx_expression"
  · rw [if_pos hkind, if_pos hkind, (h.plain_of_kind hkind (by decide)).firstPart?_image]
    simp [Function.comp_def]
  · rw [if_neg hkind, if_neg hkind, Option.map_none]

theorem attributes_image (hn : n.isOneOf ["jsx_opening_element", "jsx_self_closing_element"]) :
    (h.image n).attributes = n.attributes.map h.image := by
  have hspread : ∀ c : Node, (c.kind == "jsx_attribute" ||
      (c.kind == "jsx_expression" && c.isSpreadAttribute)) =
        ((h.image c).kind == "jsx_attribute" ||
          ((h.image c).kind == "jsx_expression" && (h.image c).isSpreadAttribute)) := fun c => by
    rw [h.kind_image]
    by_cases hkind : c.kind = "jsx_expression"
    · have hplain : h.Plain c := h.plain_of_kind hkind (by decide)
      simp [Node.isSpreadAttribute, hplain.firstPart?_image, Option.any_map]
    · rw [beq_false_of_ne hkind, Bool.false_and, Bool.false_and]
  unfold Node.attributes
  rw [(h.plain_of_isOneOf hn (by decide)).parts_image]
  exact filter_map_image (fun c => (hspread c).symm) _

theorem attributeExpression?_image (hn : n.kind = "jsx_attribute") :
    (h.image n).attributeExpression? = n.attributeExpression?.map h.image := by
  unfold Node.attributeExpression? Node.attributeValue?
  rw [(h.plain_of_kind hn (by decide)).parts_image, List.getElem?_map]
  cases n.parts[1]? with
  | none => rfl
  | some v =>
    simp only [Option.map_some, h.kind_image, h.braced?_image]
    split <;> rfl

theorem contentExpressions_image (h : Likeness d d') :
    d'.contentExpressions = d.contentExpressions.map h.image := by
  unfold Document.contentExpressions
  rw [h.findAll_image (by decide)]
  refine filterMap_map_image_of_mem fun container hcontainer => ?_
  have hkind : container.kind = "jsx_expression" := by
    simpa using (Document.mem_of_mem_find hcontainer).2
  rw [h.parent?_image (by rw [hkind]; decide)]
  cases container.parent? with
  | none => rfl
  | some p =>
    simp only [Option.map_some, h.isOneOf_image, h.braced?_image, Option.filter_map,
      Function.comp_def, h.kind_image]
    split <;> rfl

theorem valueExpressions_image (h : Likeness d d') :
    d'.valueExpressions = d.valueExpressions.map h.image := by
  have htags : d'.tags = d.tags.map h.image := by
    unfold Document.tags
    rw [h.findAll_image (by decide), List.filter_map]
    exact congrArg _ (List.filter_congr fun t _ => h.isSome_child? t "name")
  unfold Document.valueExpressions
  rw [htags, filter_map_image h.isNative_image]
  have hattributes : ((d.tags.filter d.isNative).map h.image).flatMap Node.attributes =
      ((d.tags.filter d.isNative).flatMap Node.attributes).map h.image := by
    refine flatMap_map_image_of_mem fun t ht => h.attributes_image ?_
    have hfound := (List.mem_filter.mp (List.mem_filter.mp ht).1).1
    exact (List.mem_filter.mp hfound).2
  rw [hattributes]
  refine filterMap_map_image (fun a => ?_) _
  rw [h.attributeName?_image]
  -- only an attribute has a name that is asked for
  cases hname : d.attributeName? a with
  | none => rfl
  | some name =>
    have hkind : a.kind = "jsx_attribute" := by
      by_contra hother
      simp [Document.attributeName?, hother] at hname
    simp only [h.attributeExpression?_image hkind]
    split <;> rfl

/-! ## Variables made by calls -/

/-- The image of a variable that a call makes. -/
def madeVariable (v : MadeVariable) : MadeVariable :=
  ⟨h.image v.declaration, h.image v.pattern, v.maker⟩

/-- The image of a name that a declaration makes special. -/
def boundName (b : BoundName) : BoundName := (h.movedKey b.1, b.2)

theorem boundName_injective : Function.Injective h.boundName :=
  fun _ _ heq => Prod.ext (h.movedKey_injective (congrArg Prod.fst heq)) (congrArg Prod.snd heq :)

/-- The elements of array patterns are found in the images of the patterns. -/
def KeepsElements : Prop :=
  ∀ p ∈ d.root.nodes, p.kind = "array_pattern" →
    ∀ index, (h.image p).nameAt? index = (p.nameAt? index).map h.image

theorem madeVariables_image (h : Likeness d d') :
    d'.madeVariables = d.madeVariables.map h.madeVariable := by
  unfold Document.madeVariables
  rw [h.findAll_image (by decide)]
  refine filterMap_map_image_of_mem fun v hv => ?_
  have hkind : v.kind = "variable_declarator" := by simpa using (Document.mem_of_mem_find hv).2
  rw [h.declaredValue?_image, (h.plain_of_kind hkind (by decide)).child?_image]
  cases v.declaredValue? with
  | none => rfl
  | some value =>
    cases v.child? "name" with
    | none => rfl
    | some pattern =>
      simp only [Option.map_some, h.kind_image, h.libraryCallee?_image]
      split
      · simp [madeVariable, Function.comp_def]
      · rfl

@[simp] theorem boundName_image (declaration name : Node) :
    d'.boundName (h.image declaration) (h.image name) =
      h.boundName (d.boundName declaration name) := by
  simp [Document.boundName, boundName]

theorem KeepsElements.accessor?_image {h : Likeness d d'} (hd : h.KeepsElements) {v : MadeVariable}
    (hv : v ∈ d.madeVariables) :
    Document.accessor? (h.madeVariable v) = (Document.accessor? v).map h.image := by
  simp only [Document.accessor?, madeVariable, h.kind_image]
  by_cases htuple : (Reactive.tupleAccessorMakers.contains v.maker
      && v.pattern.kind == "array_pattern") = true
  · rw [if_pos htuple, if_pos htuple]
    simp only [Bool.and_eq_true, beq_iff_eq] at htuple
    exact hd _ (Document.pattern_mem hv) htuple.2 0
  · rw [if_neg htuple, if_neg htuple]
    split <;> rfl

theorem KeepsElements.accessors_image {h : Likeness d d'} (hd : h.KeepsElements) :
    d'.accessors = d.accessors.map h.boundName := by
  unfold Document.accessors
  rw [h.madeVariables_image]
  refine filterMap_map_image_of_mem fun v hv => ?_
  rw [hd.accessor?_image hv]
  cases Document.accessor? v with
  | none => rfl
  | some name => exact congrArg some (h.boundName_image v.declaration name)

theorem KeepsElements.setters_image {h : Likeness d d'} (hd : h.KeepsElements) :
    d'.setters = d.setters.map h.boundName := by
  unfold Document.setters
  rw [h.madeVariables_image]
  refine filterMap_map_image_of_mem fun v hv => ?_
  simp only [madeVariable, h.kind_image]
  by_cases hsetter : (Reactive.setterMakers.contains v.maker
      && v.pattern.kind == "array_pattern") = true
  · rw [if_pos hsetter, if_pos hsetter]
    simp only [Bool.and_eq_true, beq_iff_eq] at hsetter
    rw [hd _ (Document.pattern_mem hv) hsetter.2]
    cases v.pattern.nameAt? 1 with
    | none => rfl
    | some name => exact congrArg some (h.boundName_image v.declaration name)
  · rw [if_neg hsetter, if_neg hsetter, Option.map_none]

@[simp] theorem standsFor_image (names : List BoundName) (n : Node) :
    d'.standsFor (names.map h.boundName) (h.image n) = d.standsFor names n := by
  unfold Document.standsFor
  rw [h.kind_image, h.resolve?_image, Option.any_map]
  simp only [h.boundName_image, contains_map_of_injective h.boundName_injective]

/-! ## Functions that run at once -/

@[simp] theorem isPlainFunction_image (n : Node) :
    Document.isPlainFunction (h.image n) = Document.isPlainFunction n := by
  simp [Document.isPlainFunction]

theorem runAtOnce_image (callee : Node) (arguments : List Node) :
    d'.runAtOnce (h.image callee) (arguments.map h.image) =
      (d.runAtOnce callee arguments).map h.image := by
  unfold Document.runAtOnce
  match arguments with
  | [] => rfl
  | _ :: _ :: _ => rfl
  | [f] =>
    simp only [List.map_cons, List.map_nil, h.isPlainFunction_image, h.kind_image,
      h.libraryName?_image, h.text?_child?, h.operand?_image, Option.any_map,
      apply_ite (List.map h.image)]

theorem runByName_image (setters : List BoundName) (callee : Node) (arguments : List Node) :
    d'.runByName (setters.map h.boundName) (h.image callee) (arguments.map h.image) =
      (d.runByName setters callee arguments).map h.image := by
  unfold Document.runByName
  rw [h.standsFor_image, h.libraryName?_image, filter_map_image h.isPlainFunction_image,
    List.getElem?_map]
  split
  · rfl
  · split
    · cases arguments[1]? with
      | none => rfl
      | some f =>
        simp only [Option.map_some, h.isFunction_image]
        split <;> rfl
    · rfl

theorem synchronousIn_image (setters : List BoundName) (call : Node) :
    d'.synchronousIn (setters.map h.boundName) (h.image call) =
      (d.synchronousIn setters call).map h.image := by
  have harguments : (call.arguments.map h.image).map Node.unwrap =
      (call.arguments.map Node.unwrap).map h.image := by
    simp [Function.comp_def]
  unfold Document.synchronousIn
  rw [h.callee?_image, h.arguments_image, harguments]
  cases call.callee? with
  | none => rfl
  | some callee =>
    simp only [Option.map_some, h.isFunction_image, h.kind_image, h.runAtOnce_image,
      h.runByName_image, List.map_append, apply_ite (List.map h.image), List.map_nil,
      List.map_singleton]

theorem KeepsElements.synchronousFunctions_image {h : Likeness d d'} (hd : h.KeepsElements) :
    d'.synchronousFunctions = d.synchronousFunctions.map h.movedKey := by
  unfold Document.synchronousFunctions
  rw [hd.setters_image, h.findAll_image (by decide)]
  dsimp only
  rw [flatMap_map_image (h.synchronousIn_image d.setters)]
  simp [Function.comp_def]

@[simp] theorem ownerOf_image (synchronous : List NodeKey) (n : Node) :
    d'.ownerOf (synchronous.map h.movedKey) (h.image n) =
      h.image (d.ownerOf synchronous n) := by
  have howner : (h.image n).ancestors.find?
        (fun a => a.isFunction && !(synchronous.map h.movedKey).contains a.key) =
      (n.ancestors.find? fun a => a.isFunction && !synchronous.contains a.key).map h.image := by
    refine h.find?_ancestors n (fun a => ?_) fun w hw => ?_
    · rw [h.isFunction_image, h.key_image, contains_map_of_injective h.movedKey_injective]
    · rw [Node.isFunction_eq_false_of_isWrapper hw, Bool.false_and]
  rw [Document.ownerOf, Document.ownerOf, howner, h.root_image, Option.getD_map]

/-! ## Variables -/

/-- The image of a reactive variable. -/
def reactiveVariable (v : ReactiveVariable) : ReactiveVariable :=
  ⟨h.image v.name, h.image v.declaration, h.image v.owner, v.kind⟩

theorem KeepsElements.reactiveElements_image {h : Likeness d d'} (hd : h.KeepsElements)
    {v : MadeVariable} (hv : v ∈ d.madeVariables) (hkind : v.pattern.kind = "array_pattern") :
    Document.reactiveElements (h.madeVariable v) =
      (Document.reactiveElements v).map h.image := by
  have hparts : (h.image v.pattern).parts.filter (fun c => c.kind == "identifier") =
      (v.pattern.parts.filter fun c => c.kind == "identifier").map h.image := by
    rw [(h.plain_of_kind hkind (by decide)).parts_image]
    exact filter_map_image (fun c => by rw [h.kind_image]) _
  have hpattern : (h.madeVariable v).pattern = h.image v.pattern := rfl
  have hmaker : (h.madeVariable v).maker = v.maker := rfl
  unfold Document.reactiveElements
  rw [hpattern, hmaker, hd _ (Document.pattern_mem hv) hkind, hparts, Option.toList_map]
  split
  · rfl
  · split <;> rfl

theorem KeepsElements.reactiveNames_image {h : Likeness d d'} (hd : h.KeepsElements)
    {v : MadeVariable} (hv : v ∈ d.madeVariables) (synchronous : List NodeKey) :
    d'.reactiveNames (synchronous.map h.movedKey) (h.madeVariable v) =
      (d.reactiveNames synchronous v).map h.reactiveVariable := by
  have hkind : (h.madeVariable v).pattern.kind = v.pattern.kind := h.kind_image v.pattern
  have hmaker : (h.madeVariable v).maker = v.maker := rfl
  have howner : d'.ownerOf (synchronous.map h.movedKey) (h.madeVariable v).declaration =
      h.image (d.ownerOf synchronous v.declaration) := h.ownerOf_image synchronous v.declaration
  simp only [Document.reactiveNames, hkind, hmaker, howner]
  by_cases harray : v.pattern.kind = "array_pattern"
  · rw [if_pos harray, if_pos harray, hd.reactiveElements_image hv harray, List.map_map,
      List.map_map]
    rfl
  · rw [if_neg harray, if_neg harray]
    simp only [apply_ite (List.map h.reactiveVariable), List.map_nil, List.map_singleton]
    rfl

theorem isShownInPlace_image (n : Node) :
    Document.isShownInPlace (h.image n) = Document.isShownInPlace n := by
  simp [Document.isShownInPlace, Option.any_map]

theorem propsParameter?_image (n : Node) :
    d'.propsParameter? (h.image n) = (d.propsParameter? n).map h.image := by
  unfold Document.propsParameter?
  rw [h.isOneOf_image]
  by_cases htaker : n.isOneOf Document.propsTakerKinds = true
  · have hfn : n.isFunction = true := by
      rw [Node.isFunction, Node.isOneOf_iff]
      have hsub : ∀ kind ∈ Document.propsTakerKinds, kind ∈ functionKinds := by decide
      exact hsub _ (Node.isOneOf_iff.mp htaker)
    rw [h.parameters_image hfn, h.functionName?_image, h.rendersMarkup_image hfn,
      h.isShownInPlace_image, htaker]
    -- only a function with one parameter has properties
    rcases n.parameters with _ | ⟨p, _ | ⟨q, ps⟩⟩
    · rfl
    · simp only [List.map_cons, List.map_nil, h.kind_image, h.text_image,
        apply_ite (Option.map h.image), Option.map_none, Option.map_some]
    · rfl
  · rw [Bool.not_eq_true] at htaker
    rw [htaker]
    rfl

theorem KeepsElements.reactiveVariables_image {h : Likeness d d'} (hd : h.KeepsElements)
    (synchronous : List NodeKey) :
    d'.reactiveVariables (synchronous.map h.movedKey) =
      (d.reactiveVariables synchronous).map h.reactiveVariable := by
  have hmade : d'.madeVariables.flatMap (d'.reactiveNames (synchronous.map h.movedKey)) =
      (d.madeVariables.flatMap (d.reactiveNames synchronous)).map h.reactiveVariable := by
    rw [h.madeVariables_image]
    exact flatMap_map_image_of_mem fun v hv => hd.reactiveNames_image hv synchronous
  unfold Document.reactiveVariables
  rw [hmade, List.map_append, h.findAll_image (by decide), filter_map_image fun fn => by
    rw [h.key_image, contains_map_of_injective h.movedKey_injective]]
  refine congrArg _ (filterMap_map_image (fun fn => ?_) _)
  rw [h.propsParameter?_image, Option.map_map, Option.map_map]
  rfl

/-! ## Tracked scopes -/

/-- The image of a tracked scope. -/
def scope (s : TrackedScope) : TrackedScope := ⟨h.image s.node, s.kind⟩

theorem scope_of (kind : ScopeKind) (n : Node) :
    TrackedScope.of kind (h.image n) = h.scope (TrackedScope.of kind n) := by
  simp [TrackedScope.of, scope]

theorem map_scope_of (kind : ScopeKind) (ns : List Node) :
    (ns.map h.image).map (TrackedScope.of kind) =
      (ns.map (TrackedScope.of kind)).map h.scope := by
  rw [List.map_map, List.map_map]
  exact List.map_congr_left fun n _ => h.scope_of kind n

theorem callbackScope_image (n : Option Node) :
    callbackScope (n.map h.image) = (callbackScope n).map h.scope := by
  cases n with
  | none => rfl
  | some n => exact congrArg (fun s => [s]) (h.scope_of .callback n)

theorem scopeInAttribute_image (attr expression : Node) (hattr : attr.kind = "jsx_attribute") :
    d'.scopeInAttribute (h.image attr) (h.image expression) =
      (d.scopeInAttribute attr expression).map h.scope := by
  have hparent : (h.image attr).parent? = attr.parent?.map h.image :=
    h.parent?_image (by rw [hattr]; decide)
  simp only [Document.scopeInAttribute, h.attributeName?_image, hparent, Option.bind_map,
    Function.comp_def, h.tagName?_image, h.isFunction_image, h.scope_of,
    apply_ite (List.map h.scope), List.map_singleton, List.map_nil]

theorem scopeInBraces_image (n : Node) :
    d'.scopeInBraces (h.image n) = (d.scopeInBraces n).map h.scope := by
  unfold Document.scopeInBraces
  rw [h.braced?_image]
  cases hbraced : n.braced? with
  | none => rfl
  | some expression =>
    have hkind : n.kind = "jsx_expression" := by
      by_contra hother
      simp [Node.braced?, hother] at hbraced
    have hparent : (h.image n).parent? = n.parent?.map h.image :=
      h.parent?_image (by rw [hkind]; decide)
    simp only [Option.map_some, h.kind_image, hparent]
    by_cases hspread : expression.kind = "spread_element"
    · rw [if_pos hspread, if_pos hspread,
        (h.plain_of_kind hspread (by decide)).firstPart?_image]
      cases expression.firstPart? with
      | none => rfl
      | some inner => exact congrArg (fun s => [s]) (h.scope_of .expression inner)
    rw [if_neg hspread, if_neg hspread]
    cases n.parent? with
    | none => exact congrArg (fun s => [s]) (h.scope_of .expression expression)
    | some parent =>
      simp only [Option.map_some, h.kind_image, h.isOneOf_image, h.isFunction_image, h.scope_of]
      by_cases hattribute : parent.kind = "jsx_attribute"
      · rw [if_pos hattribute, if_pos hattribute, h.scopeInAttribute_image _ _ hattribute]
      · simp only [if_neg hattribute, apply_ite (List.map h.scope), List.map_singleton]

theorem passedFunctions_of_unwrap (hm : m.unwrap = h.image n.unwrap)
    (hnames : ∀ i ∈ n.namesIn, d'.isPassedName (h.image i) = d.isPassedName i) :
    d'.passedFunctions m = (d.passedFunctions n).map h.image := by
  induction n using Node.unwrapInduction generalizing m with
  | step n ih =>
    rw [Node.namesIn_eq] at hnames
    rw [Document.passedFunctions_eq, Document.passedFunctions_eq d n, hm, h.isFunction_image,
      h.kind_image]
    by_cases hfunction : n.unwrap.isFunction = true
    · rw [if_pos hfunction, if_pos hfunction]
      rfl
    rw [if_neg hfunction] at hnames
    rw [if_neg hfunction, if_neg hfunction]
    by_cases hname : n.unwrap.kind = "identifier"
    · rw [if_pos hname] at hnames
      rw [if_pos hname, if_pos hname, hnames _ (List.mem_singleton_self _)]
      split <;> rfl
    · rw [if_neg hname] at hnames
      rw [if_neg hname, if_neg hname, h.parts_stand]
      refine flatMap_map_image_of_mem fun c hc => ?_
      exact ih c (Node.mem_children_of_mem_parts hc) (h.unwrap_stand c) fun i hi =>
        hnames i (List.mem_flatMap.mpr ⟨c, hc, hi⟩)

/-- Where a call may track what is passed to it, names pass on functions in both documents or in
neither. -/
def KeepsPassed (custom : List String) : Prop :=
  ∀ call ∈ d.find ["call_expression"], d.tracksPassed custom call = true →
    ∀ a ∈ call.arguments, ∀ i ∈ a.namesIn, d'.isPassedName (h.image i) = d.isPassedName i

theorem passedScopes_image {arguments : List Node}
    (hnames : ∀ a ∈ arguments, ∀ i ∈ a.namesIn,
      d'.isPassedName (h.image i) = d.isPassedName i) :
    d'.passedScopes (arguments.map h.image) = (d.passedScopes arguments).map h.scope := by
  have hpassed : (arguments.map h.image).flatMap d'.passedFunctions =
      (arguments.flatMap d.passedFunctions).map h.image :=
    flatMap_map_image_of_mem fun a ha =>
      h.passedFunctions_of_unwrap (h.unwrap_image a) (hnames a ha)
  rw [Document.passedScopes, hpassed, h.map_scope_of, Document.passedScopes]

theorem isKnownRunner_image (callee : Node) (arguments : List Node) :
    d'.isKnownRunner (h.image callee) (arguments.map h.image) =
      d.isKnownRunner callee arguments := by
  simp only [Document.isKnownRunner, h.libraryName?_image, h.text_image, List.length_map,
    List.getElem?_map, Option.any_map, h.unwrap_image, h.kind_image]

theorem tracksPassed_image (custom : List String) (call : Node) :
    d'.tracksPassed custom (h.image call) = d.tracksPassed custom call := by
  simp only [Document.tracksPassed, h.callee?_image, Option.any_map, h.arguments_image,
    h.kind_image, h.isKnownRunner_image, h.text_image, h.text?_child?, List.getElem?_map,
    Option.isSome_map]

theorem scopesOfOn_image (first second : Option Node) :
    Document.scopesOfOn (first.map h.image) (second.map h.image) =
      (Document.scopesOfOn first second).map h.scope := by
  unfold Document.scopesOfOn
  rw [h.callbackScope_image]
  cases first with
  | none => rfl
  | some f =>
    simp only [Option.map_some, h.kind_image, h.scope_of, List.map_append]
    by_cases harray : f.kind = "array"
    · rw [if_pos harray, if_pos harray, (h.plain_of_kind harray (by decide)).parts_image,
        filter_map_image fun c => by rw [h.kind_image], h.map_scope_of]
    · rw [if_neg harray, if_neg harray]
      rfl

theorem getters_image (first : Option Node) (hfirst : ∀ f ∈ first, f.kind = "object") :
    (((first.map h.image).map Node.parts).getD []).filter
        (fun m => m.kind == "method_definition" && m.hasToken "get") =
      (((first.map Node.parts).getD []).filter fun m =>
        m.kind == "method_definition" && m.hasToken "get").map h.image := by
  cases first with
  | none => rfl
  | some f =>
    simp only [Option.map_some, Option.getD_some,
      (h.plain_of_kind (hfirst f rfl) (by decide)).parts_image]
    exact filter_map_image (fun m => by
      rw [h.kind_image, h.hasToken_image m "get" (by decide)]) _

theorem scopesOfNamedCall_image (custom : List String) (callee : Node) (arguments : List Node)
    (hnames : d.isKnownRunner callee arguments = false →
      (Reactive.isReactiveFunctionName (d.text callee) || custom.contains (d.text callee)) = true →
      ∀ a ∈ arguments, ∀ i ∈ a.namesIn, d'.isPassedName (h.image i) = d.isPassedName i) :
    d'.scopesOfNamedCall custom (h.image callee) (arguments.map h.image) =
      (d.scopesOfNamedCall custom callee arguments).map h.scope := by
  have hargument : ∀ k : Nat, (arguments.map h.image)[k]?.map Node.unwrap =
      (arguments[k]?.map Node.unwrap).map h.image := fun k => by
    simp [Function.comp_def]
  simp only [Document.scopesOfNamedCall, hargument, h.libraryName?_image, h.text_image,
    List.length_map, Option.any_map, h.kind_image, h.callbackScope_image, h.scopesOfOn_image]
  split_ifs with htracked hdeferred hon hstore howner hreactive
  · rfl
  · rfl
  · rfl
  · rw [Bool.and_eq_true] at hstore
    have hobject : ∀ f ∈ arguments[0]?.map Node.unwrap, f.kind = "object" := fun f hf => by
      obtain ⟨a, ha, rfl⟩ := Option.map_eq_some_iff.mp hf
      simpa [ha] using hstore.2
    rw [h.getters_image _ hobject, h.map_scope_of]
  · rfl
  -- all calls that are known have been told apart
  · rw [Bool.not_eq_true] at htracked hdeferred hstore
    have hunknown : d.isKnownRunner callee arguments = false := by
      simp only [Document.isKnownRunner, htracked, hdeferred, hstore, beq_false_of_ne hon,
        beq_false_of_ne howner, Bool.or_false]
    exact h.passedScopes_image (hnames hunknown hreactive)
  · rfl

theorem scopesOfMethodCall_image (custom : List String) (callee : Node) (arguments : List Node)
    (hnames : (arguments[1]?.isSome && d.text? (callee.child? "property") == "addEventListener") =
        false →
      (Reactive.isReactiveFunctionName (d.text? (callee.child? "property"))
        || custom.contains (d.text? (callee.child? "property"))) = true →
      ∀ a ∈ arguments, ∀ i ∈ a.namesIn, d'.isPassedName (h.image i) = d.isPassedName i) :
    d'.scopesOfMethodCall custom (h.image callee) (arguments.map h.image) =
      (d.scopesOfMethodCall custom callee arguments).map h.scope := by
  unfold Document.scopesOfMethodCall
  rw [h.text?_child?, List.getElem?_map]
  cases hsecond : arguments[1]? with
  | none =>
    rw [hsecond] at hnames
    dsimp only [Option.map_none]
    split_ifs with hreactive
    · exact h.passedScopes_image (hnames rfl hreactive)
    · rfl
  | some second =>
    rw [hsecond] at hnames
    simp only [Option.map_some, h.scope_of]
    split_ifs with hlistener hreactive
    · rfl
    · exact h.passedScopes_image (hnames (by simp [hlistener]) hreactive)
    · rfl

theorem KeepsPassed.scopesOfCall_image {h : Likeness d d'} {custom : List String}
    (hpassed : h.KeepsPassed custom)
    {call : Node} (hcall : call ∈ d.find ["call_expression"]) :
    d'.scopesOfCall custom (h.image call) = (d.scopesOfCall custom call).map h.scope := by
  have hnames := hpassed call hcall
  unfold Document.tracksPassed at hnames
  unfold Document.scopesOfCall
  rw [h.callee?_image, h.arguments_image]
  cases hcallee : call.callee? with
  | none => rfl
  | some callee =>
    simp only [hcallee, Option.any_some] at hnames
    simp only [Option.map_some, h.kind_image]
    by_cases hname : callee.kind = "identifier"
    · rw [if_pos hname] at hnames
      rw [if_pos hname, if_pos hname]
      refine h.scopesOfNamedCall_image custom callee _ fun hunknown hreactive => hnames ?_
      rw [hunknown, hreactive]
      rfl
    rw [if_neg hname] at hnames
    rw [if_neg hname, if_neg hname]
    by_cases hmember : callee.kind = "member_expression"
    · rw [if_pos hmember, if_pos hmember]
      refine h.scopesOfMethodCall_image custom callee _ fun hother hreactive => hnames ?_
      rw [hother, hreactive, hmember]
      rfl
    · rw [if_neg hmember, if_neg hmember, List.map_nil]

theorem scopeOfConstruction_image (n : Node) :
    d'.scopeOfConstruction (h.image n) = (d.scopeOfConstruction n).map h.scope := by
  unfold Document.scopeOfConstruction
  rw [h.callee?_image, h.arguments_image, List.head?_map, h.callbackScope_image]
  cases n.callee? with
  | none => rfl
  | some c =>
    simp only [Option.map_some, h.text_image]
    split <;> rfl

theorem scopeOfAssignment_image (n : Node) :
    d'.scopeOfAssignment (h.image n) = (d.scopeOfAssignment n).map h.scope := by
  unfold Document.scopeOfAssignment
  rw [h.operand?_image, h.operand?_image]
  cases n.operand? "left" with
  | none => rfl
  | some left =>
    cases n.operand? "right" with
    | none => rfl
    | some right =>
      simp only [Option.map_some, h.kind_image, h.isFunction_image, h.text?_child?, h.scope_of]
      split <;> rfl

theorem KeepsPassed.trackedScopes_image {h : Likeness d d'} {custom : List String}
    (hpassed : h.KeepsPassed custom) :
    d'.trackedScopes custom = (d.trackedScopes custom).map h.scope := by
  have hcalls : (d'.find ["call_expression"]).flatMap (d'.scopesOfCall custom) =
      ((d.find ["call_expression"]).flatMap (d.scopesOfCall custom)).map h.scope := by
    rw [h.findAll_image (by decide)]
    exact flatMap_map_image_of_mem fun call hcall => hpassed.scopesOfCall_image hcall
  unfold Document.trackedScopes
  rw [hcalls, h.findAll_image (by decide), h.findAll_image (by decide),
    h.findAll_image (by decide), flatMap_map_image h.scopeInBraces_image,
    flatMap_map_image h.scopeOfConstruction_image, flatMap_map_image h.scopeOfAssignment_image]
  simp only [List.map_append]

/-! ## Uses -/

@[simp] theorem isWritten_image (n : Node) : (h.image n).isWritten = n.isWritten := by
  simp [Node.isWritten, Option.any_map]

@[simp] theorem isAccessedBy_image (n parent : Node) :
    (h.image n).isAccessedBy (h.image parent) = n.isAccessedBy parent := by
  simp [Node.isAccessedBy]

@[simp] theorem wholeAccess_image (n : Node) :
    (h.image n).wholeAccess = h.image n.wholeAccess := by
  induction n using Node.climbInduction with
  | step n ih =>
    rw [Node.wholeAccess_eq, Node.wholeAccess_eq n, h.climb?_image]
    cases hp : n.climb? with
    | none => rfl
    | some p =>
      simp only [Option.map_some, h.isAccessedBy_image, ih p hp]
      split <;> rfl

theorem callAround?_image (n : Node) :
    (h.image n).callAround? = n.callAround?.map h.image := by
  unfold Node.callAround?
  rw [h.climb?_image]
  cases n.climb? with
  | none => rfl
  | some p =>
    simp only [Option.map_some, h.kind_image, h.isOperandOf_image]
    by_cases hcallee : (decide (p.kind = "call_expression") && n.isOperandOf p "function") = true
    · rw [if_pos hcallee, if_pos hcallee, Option.map_some]
    rw [if_neg hcallee, if_neg hcallee]
    by_cases hargument : p.kind = "arguments"
    · rw [if_pos hargument, if_pos hargument, h.parent?_image (by rw [hargument]; decide),
        Option.filter_map]
      simp only [Function.comp_def, h.kind_image]
    · rw [if_neg hargument, if_neg hargument, Option.map_none]

theorem isInArgumentArray_image (n : Node) :
    (h.image n).isInArgumentArray = n.isInArgumentArray := by
  unfold Node.isInArgumentArray
  rw [h.climb?_image]
  cases n.climb? <;> simp [Option.any_map]

/-- The image of what there is to know of a file. -/
def context (c : ReactiveContext) : ReactiveContext :=
  ⟨c.synchronous.map h.movedKey, c.scopes.map fun s => ⟨h.scope s.scope, h.image s.owner⟩⟩

theorem scopesOf_image (c : ReactiveContext) (owner : Node) :
    (h.context c).scopesOf (h.image owner) = (c.scopesOf owner).map h.scope := by
  simp [ReactiveContext.scopesOf, context, List.filter_map, Function.comp_def]

theorem noticedIn_image (name : Node) (s : TrackedScope) :
    ReactiveContext.noticedIn (h.image name) (h.scope s) = ReactiveContext.noticedIn name s := by
  simp [ReactiveContext.noticedIn, scope]

theorem usesOf_image (v : ReactiveVariable) :
    d'.usesOf (h.reactiveVariable v) = (d.usesOf v).map h.image := by
  unfold Document.usesOf reactiveVariable
  rw [h.find_image (by decide)]
  exact filter_map_image (fun n => by simp [Option.any_map]) _

theorem isReactiveWrite_image (v : ReactiveVariable) (use : Node) :
    Document.isReactiveWrite (h.reactiveVariable v) (h.image use) =
      Document.isReactiveWrite v use := by
  simp [Document.isReactiveWrite, reactiveVariable, Option.any_map]

theorem lostRead_image (c : ReactiveContext) (owner use shown : Node) (name : String) :
    d'.lostRead (h.context c) (h.image owner) (h.image use) (h.image shown) name =
      (d.lostRead c owner use shown name).map h.movedRemark := by
  have hcontains : ∀ s : TrackedScope,
      (h.scope s).node.contains (h.image use) = s.node.contains use := fun s =>
    h.contains_image s.node use
  simp only [Document.lostRead, h.scopesOf_image, List.any_map, Function.comp_def,
    h.noticedIn_image, hcontains, h.remark_image, apply_ite (List.map h.movedRemark),
    List.map_nil, List.map_singleton]

theorem signalUse_image (c : ReactiveContext) (v : ReactiveVariable) (use : Node) :
    d'.signalUse (h.context c) (h.reactiveVariable v) (h.image use) =
      (d.signalUse c v use).map h.movedRemark := by
  simp only [Document.signalUse, reactiveVariable, h.text_image, h.callAround?_image,
    h.isInArgumentArray_image]
  cases use.callAround? with
  | none =>
    simp only [Option.map_none, h.lostRead_image]
    split <;> rfl
  | some call => exact h.lostRead_image c v.owner use call _

theorem propsUse_image (c : ReactiveContext) (v : ReactiveVariable) (use : Node) :
    d'.propsUse (h.context c) (h.reactiveVariable v) (h.image use) =
      (d.propsUse c v use).map h.movedRemark := by
  simp only [Document.propsUse, reactiveVariable, h.text_image, h.climb?_image]
  cases use.climb? with
  | none => rfl
  | some parent =>
    simp only [Option.map_some, h.isAccessedBy_image, h.kind_image, h.isOneOf_image,
      h.text?_child?, h.wholeAccess_image, h.text_image, h.remark_image, h.lostRead_image,
      apply_ite (List.map h.movedRemark), List.map_nil, List.map_singleton]

theorem reactiveUse_image (c : ReactiveContext) (v : ReactiveVariable) (use : Node) :
    d'.reactiveUse (h.context c) (h.reactiveVariable v) (h.image use) =
      (d.reactiveUse c v use).map h.movedRemark := by
  have howner : (d'.ownerOf (h.context c).synchronous (h.image use)).same
      (h.reactiveVariable v).owner = (d.ownerOf c.synchronous use).same v.owner := by
    rw [context, reactiveVariable, h.ownerOf_image, h.same_image]
  have hname : d'.text (h.reactiveVariable v).name = d.text v.name := h.text_image v.name
  have hkind : (h.reactiveVariable v).kind = v.kind := rfl
  unfold Document.reactiveUse
  rw [h.isReactiveWrite_image, howner, hname, hkind, h.remark_image, h.signalUse_image,
    h.propsUse_image]
  cases v.kind <;>
    simp only [apply_ite (List.map h.movedRemark), List.map_nil, List.map_singleton]

/-! ## Remarks -/

theorem KeepsElements.uncalledAccessors_image {h : Likeness d d'} (hd : h.KeepsElements) :
    d'.uncalledAccessors = d.uncalledAccessors.map h.movedRemark := by
  unfold Document.uncalledAccessors
  rw [hd.accessors_image, h.contentExpressions_image, h.valueExpressions_image, ← List.map_append]
  dsimp only
  rw [List.isEmpty_map, filter_map_image (h.standsFor_image d.accessors)]
  split
  · rfl
  · simp [Function.comp_def]

theorem asynchronousScopes_image (h : Likeness d d') :
    d'.asynchronousScopes = d.asynchronousScopes.map h.movedRemark := by
  have hcallbacks : ∀ calls : List Node,
      (calls.map h.image).filterMap (fun c => c.arguments.head?.map Node.unwrap) =
        (calls.filterMap fun c => c.arguments.head?.map Node.unwrap).map h.image :=
    filterMap_map_image fun c => by simp [Function.comp_def]
  unfold Document.asynchronousScopes
  rw [h.findAll_image (by decide), filter_map_image fun c => by rw [h.libraryCallee?_image]]
  dsimp only
  rw [hcallbacks, filter_map_image fun f => by rw [h.isFunction_image, h.isAsync_image]]
  simp [Function.comp_def]

/-- The remarks about the image of a document are the images of the remarks. -/
theorem KeepsElements.reactivity_image {h : Likeness d d'} (hd : h.KeepsElements)
    (options : ReactivityOptions) (hpassed : h.KeepsPassed options.customReactiveFunctions) :
    d'.reactivity options = (d.reactivity options).map h.movedRemark := by
  -- scopes are looked for only if there are variables
  have hscopes : (if (d.reactiveVariables d.synchronousFunctions).isEmpty then []
        else d'.trackedScopes options.customReactiveFunctions) =
      (if (d.reactiveVariables d.synchronousFunctions).isEmpty then []
        else d.trackedScopes options.customReactiveFunctions).map h.scope := by
    rw [hpassed.trackedScopes_image]
    split <;> rfl
  have hcontext : ∀ scopes : List TrackedScope,
      (⟨d.synchronousFunctions.map h.movedKey, (scopes.map h.scope).map fun s =>
          ⟨s, d'.ownerOf (d.synchronousFunctions.map h.movedKey) s.node⟩⟩ :
        ReactiveContext) =
      h.context ⟨d.synchronousFunctions, scopes.map fun s =>
        ⟨s, d.ownerOf d.synchronousFunctions s.node⟩⟩ := fun scopes => by
    simp [context, scope, Function.comp_def]
  unfold Document.reactivity
  rw [hd.synchronousFunctions_image]
  dsimp only
  rw [hd.reactiveVariables_image, List.isEmpty_map, hscopes, hcontext,
    hd.uncalledAccessors_image, h.asynchronousScopes_image, List.map_append, List.map_append]
  refine congrArg _ (flatMap_map_image (fun v => ?_) _)
  rw [h.usesOf_image]
  exact flatMap_map_image (h.reactiveUse_image _ v) _

end Likeness

end CodeConventions
