import CodeConventions.Proofs.Likeness.Basic

/-!
# Wrapping a name

A wrapper is put around a name that is called or reached into: the wrapper takes the place, the
range and the role of the name, and the name is its only part.  The tree that comes of this is like
the one before.  The image of a node is the node itself in the new tree; above it the wrapper is one
node more if it is the name or lies below it.

A tree is rebuilt on the way down, and the way up is rebuilt beside it: what lies above a node in
the new tree is made from what lay above it.
-/

namespace CodeConventions

/-- The tree is a token that wrappers are written with. -/
def ParseTree.IsWrapperToken (t : ParseTree) : Prop :=
  t.label.named = false ∧ t.label.kind ∈ wrapperTokens ∧ t.children = []

/-- The name is what a call calls, or what a member or a subscript reaches into. -/
def Node.Holds (p name : Node) : Prop :=
  p.kind = "call_expression" ∧ p.callee? = some name ∨
    p.kind ∈ Node.accessKinds ∧ p.operand? "object" = some name

/-- A name in its place, and a wrapper to put around it. -/
structure Wrapping where
  /-- The name. -/
  name : Node
  /-- The kind of the wrapper. -/
  kind : String
  /-- The tokens of the wrapper before the name. -/
  before : List ParseTree
  /-- The tokens of the wrapper after the name. -/
  after : List ParseTree
  kind_mem : kind ∈ wrapperKinds
  tokens : ∀ t ∈ before ++ after, t.IsWrapperToken
  isName : name.kind = "identifier" ∧ name.isNamed = true
  held : ∃ p : Node, p.Holds name

namespace Wrapping

variable (w : Wrapping)

/-- The node above the name is the one that calls it or reaches into it, or a wrapper that is there
already. -/
theorem exists_parent? : ∃ p, w.name.parent? = some p ∧ p.kind ∈ holderKinds := by
  have hoperand : ∀ {p : Node} {role : String}, p.kind ∈ holderKinds →
      p.operand? role = some w.name → ∃ q, w.name.parent? = some q ∧ q.kind ∈ holderKinds := by
    intro p role hkind hname
    obtain ⟨c, hc, hunwrap⟩ := Option.map_eq_some_iff.mp hname
    -- there may be wrappers between the two already
    rcases c.unwrap_eq_or_parent? with hself | ⟨q, hq, hwrapper⟩
    · rw [hself] at hunwrap
      exact ⟨p, hunwrap ▸ Node.parent?_of_child? hc, hkind⟩
    · have hholder : q.kind ∈ holderKinds :=
        List.mem_cons_of_mem _ (List.mem_append_right _ (Node.isWrapper_iff.mp hwrapper))
      exact ⟨q, hunwrap ▸ hq, hholder⟩
  obtain ⟨p, ⟨hcall, hcallee⟩ | ⟨haccess, hobject⟩⟩ := w.held
  · exact hoperand (hcall ▸ List.mem_cons_self ..) hcallee
  · exact hoperand (List.mem_cons_of_mem _ (List.mem_append_left _ haccess)) hobject

/-- The label of the wrapper around a name with the label given. -/
def outerLabel (l : Label) : Label := ⟨w.kind, true, false, l.field, l.start, l.stop⟩

/-- What takes the place of a tree, made from what the tree has become. -/
def around (n : Node) (t : ParseTree) : ParseTree :=
  if n = w.name then .node (w.outerLabel n.tree.label) (w.before ++ t :: w.after) else t

mutual

/-- What a tree below the trees given becomes.  The name loses its role to the wrapper. -/
def rebuilt (above : List ParseTree) : ParseTree → ParseTree
  | .node l ts =>
    .node (if (⟨.node l ts, above⟩ : Node) = w.name then { l with field := none } else l)
      (rebuiltAll (.node l ts :: above) ts)

/-- What takes the places of several trees side by side. -/
def rebuiltAll (above : List ParseTree) : List ParseTree → List ParseTree
  | [] => []
  | t :: ts => w.around ⟨t, above⟩ (rebuilt above t) :: rebuiltAll above ts

end

/-- What takes the place of a node. -/
def placed (n : Node) : ParseTree := w.around n (w.rebuilt n.above n.tree)

/-- The wrapper, above the name. -/
def wrapperAbove (n : Node) : List ParseTree := if n = w.name then [w.placed n] else []

/-- What lies above a node below the trees given. -/
def path : List ParseTree → List ParseTree
  | [] => []
  | t :: above => w.rebuilt above t :: (w.wrapperAbove ⟨t, above⟩ ++ path above)

end Wrapping

namespace Node

variable (w : Wrapping) (n : Node)

/-- The node in the new tree. -/
def wrapped : Node := ⟨w.rebuilt n.above n.tree, w.wrapperAbove n ++ w.path n.above⟩

/-- What stands in the place of the node in the new tree. -/
def standing : Node := ⟨w.placed n, w.path n.above⟩

/-! ## Labels -/

theorem label_wrapped :
    (n.wrapped w).tree.label =
      if n = w.name then { n.tree.label with field := none } else n.tree.label := by
  obtain ⟨⟨l, ts⟩, above⟩ := n
  rfl

theorem label_placed :
    (w.placed n).label = if n = w.name then w.outerLabel n.tree.label else n.tree.label := by
  by_cases hn : n = w.name
  · rw [if_pos hn, Wrapping.placed, Wrapping.around, if_pos hn]
    rfl
  · rw [if_neg hn, Wrapping.placed, Wrapping.around, if_neg hn]
    exact (label_wrapped w n).trans (if_neg hn)

variable {n} in
theorem standing_of_ne (hn : n ≠ w.name) : n.standing w = n.wrapped w := by
  simp [standing, wrapped, Wrapping.placed, Wrapping.around, Wrapping.wrapperAbove, hn]

@[simp] theorem kind_wrapped : (n.wrapped w).kind = n.kind := by
  rw [kind, label_wrapped]
  split <;> rfl

@[simp] theorem start_wrapped : (n.wrapped w).start = n.start := by
  rw [start, label_wrapped]
  split <;> rfl

@[simp] theorem stop_wrapped : (n.wrapped w).stop = n.stop := by
  rw [stop, label_wrapped]
  split <;> rfl

@[simp] theorem start_standing : (n.standing w).start = n.start := by
  rw [start, standing, label_placed]
  split <;> rfl

@[simp] theorem stop_standing : (n.standing w).stop = n.stop := by
  rw [stop, standing, label_placed]
  split <;> rfl

@[simp] theorem isOneOf_wrapped (kinds : List String) :
    (n.wrapped w).isOneOf kinds = n.isOneOf kinds := by
  rw [isOneOf, isOneOf, kind_wrapped]

@[simp] theorem isWrapper_wrapped : (n.wrapped w).isWrapper = n.isWrapper :=
  isOneOf_wrapped w n wrapperKinds

theorem isWrapper_standing_name : (w.name.standing w).isWrapper = true := by
  rw [isWrapper_iff, kind, standing, label_placed, if_pos rfl]
  exact w.kind_mem

theorem not_isWrapper_name : ¬ w.name.isWrapper = true := by
  rw [isWrapper_iff, w.isName.1]
  decide

variable {n} in
/-- Only holders hold the name. -/
theorem ne_name_of_mem_children {c : Node} (hn : n.kind ∉ holderKinds) (hc : c ∈ n.children) :
    c ≠ w.name := by
  obtain ⟨p, hp, hkind⟩ := w.exists_parent?
  rintro rfl
  rw [parent?_of_mem_children hc, Option.some_inj] at hp
  exact hn (hp ▸ hkind)

/-! ## Children -/

theorem rebuiltAll_eq (above ts : List ParseTree) :
    w.rebuiltAll above ts = ts.map fun t => w.placed ⟨t, above⟩ := by
  induction ts with
  | nil => rfl
  | cons t ts ih =>
    rw [Wrapping.rebuiltAll, ih]
    rfl

theorem trees_wrapped :
    (n.wrapped w).tree.children = n.tree.children.map fun t => w.placed (n.down t) := by
  obtain ⟨⟨l, ts⟩, above⟩ := n
  exact rebuiltAll_eq w _ ts

theorem down_wrapped (t : ParseTree) :
    (n.wrapped w).down (w.placed (n.down t)) = (n.down t).standing w := rfl

theorem children_wrapped : (n.wrapped w).children = n.children.map (standing w) := by
  rw [children, trees_wrapped, children, List.map_map, List.map_map]
  rfl

theorem field_placed : (w.placed n).label.field = n.tree.label.field := by
  rw [label_placed]
  split <;> rfl

theorem named_placed : (w.placed n).label.named = n.tree.label.named := by
  rw [label_placed]
  split
  next hn => exact (hn ▸ w.isName.2 : n.isNamed = true).symm
  next => rfl

/-- A wrapper is significant, as the name is. -/
theorem isSignificant_placed : (w.placed n).isSignificant = n.tree.isSignificant := by
  rw [ParseTree.isSignificant, ParseTree.isSignificant, named_placed, label_placed]
  by_cases hn : n = w.name
  · have hname : w.name.tree.label.kind = "identifier" := w.isName.1
    have hwrapper : w.kind ≠ "comment" := fun h => absurd (h ▸ w.kind_mem) (by decide)
    rw [if_pos hn, hn, hname, Wrapping.outerLabel, bne_iff_ne.mpr hwrapper]
    rfl
  · rw [if_neg hn]

/-- Neither the wrapper nor the name is a token. -/
theorem isToken_placed (text : String) :
    (w.placed n).isToken text = n.tree.isToken text := by
  rw [ParseTree.isToken, ParseTree.isToken, named_placed, label_placed]
  by_cases hn : n = w.name
  · have hnamed : n.tree.label.named = true := hn ▸ w.isName.2
    rw [hnamed, Bool.not_true, Bool.false_and, Bool.false_and]
  · rw [if_neg hn]

theorem parts_wrapped : (n.wrapped w).parts = n.parts.map (standing w) := by
  rw [parts, trees_wrapped, filter_map_image fun t => isSignificant_placed w (n.down t), parts,
    List.map_map, List.map_map]
  rfl

theorem child?_wrapped (role : String) :
    (n.wrapped w).child? role = (n.child? role).map (standing w) := by
  have hfield : ∀ t, ((w.placed (n.down t)).label.field == some role) =
      (t.label.field == some role) := fun t =>
    congrArg (· == some role) (field_placed w (n.down t))
  rw [child?, trees_wrapped, List.find?_map, child?, Option.map_map, Option.map_map]
  simp only [Function.comp_def, hfield, down_wrapped]

theorem hasToken_wrapped (text : String) : (n.wrapped w).hasToken text = n.hasToken text := by
  rw [hasToken, trees_wrapped, List.any_map, hasToken]
  exact congrArg _ (funext fun t => isToken_placed w (n.down t) text)

/-! ## The wrapper -/

theorem trees_standing_name :
    (w.name.standing w).tree.children =
      w.before ++ w.rebuilt w.name.above w.name.tree :: w.after := by
  rw [standing, Wrapping.placed, Wrapping.around, if_pos rfl]
  rfl

theorem down_standing_name :
    (w.name.standing w).down (w.rebuilt w.name.above w.name.tree) = w.name.wrapped w := by
  rw [down, wrapped, Wrapping.wrapperAbove, if_pos rfl]
  rfl

/-- The name is the only part of the wrapper. -/
theorem parts_standing_name : (w.name.standing w).parts = [w.name.wrapped w] := by
  have htokens : ∀ ts : List ParseTree, (∀ t ∈ ts, t ∈ w.before ++ w.after) →
      ts.filter ParseTree.isSignificant = [] := fun ts hts => by
    refine List.filter_eq_nil_iff.mpr fun t ht => ?_
    rw [ParseTree.isSignificant, (w.tokens t (hts t ht)).1]
    simp
  have hname : (w.rebuilt w.name.above w.name.tree).isSignificant = true := by
    have hkind : (w.rebuilt w.name.above w.name.tree).label.kind = "identifier" :=
      (kind_wrapped w w.name).trans w.isName.1
    have hnamed : (w.rebuilt w.name.above w.name.tree).label.named = true := by
      have hlabel := label_wrapped w w.name
      rw [if_pos rfl] at hlabel
      exact (congrArg Label.named hlabel).trans w.isName.2
    rw [ParseTree.isSignificant, hkind, hnamed]
    rfl
  rw [parts, trees_standing_name, List.filter_append, List.filter_cons, if_pos hname,
    htokens _ fun t ht => List.mem_append_left _ ht,
    htokens _ fun t ht => List.mem_append_right _ ht, List.nil_append, List.map_singleton,
    down_standing_name]

theorem unwrap_standing_eq : (n.standing w).unwrap = (n.wrapped w).unwrap := by
  by_cases hn : n = w.name
  · rw [hn, unwrap_eq, if_pos (isWrapper_standing_name w), parts_standing_name]
    split <;> rfl
  · rw [standing_of_ne w hn]

@[simp] theorem unwrap_wrapped : (n.wrapped w).unwrap = n.unwrap.wrapped w := by
  induction n using childrenInduction with
  | step n ih =>
    have hpart : ∀ o : Option Node, (∀ c ∈ o, c ∈ n.parts) →
        ((o.map (standing w)).map unwrap).getD (n.wrapped w) =
          ((o.map unwrap).getD n).wrapped w
      | none, _ => rfl
      | some c, ho => by
        have hc := ih c (mem_children_of_mem_parts (ho c rfl))
        rw [Option.map_some, Option.map_some, Option.getD_some, unwrap_standing_eq, hc]
        rfl
    rw [unwrap_eq, unwrap_eq n, isWrapper_wrapped, kind_wrapped, parts_wrapped, List.getLast?_map,
      List.head?_map, ← apply_ite, apply_ite (wrapped w), hpart]
    intro c hc
    split at hc
    · exact List.mem_of_getLast? hc
    · exact List.mem_of_mem_head? hc

theorem unwrap_standing : (n.standing w).unwrap = n.unwrap.wrapped w := by
  rw [unwrap_standing_eq, unwrap_wrapped]

/-! ## The nodes above -/

variable {n} in
theorem parent?_wrapped (hn : n ≠ w.name) : (n.wrapped w).parent? = n.parent?.map (wrapped w) := by
  obtain ⟨t, above⟩ := n
  rw [wrapped, Wrapping.wrapperAbove, if_neg hn]
  cases above <;> rfl

theorem parent?_wrapped_name : (w.name.wrapped w).parent? = some (w.name.standing w) := by
  rw [wrapped, Wrapping.wrapperAbove, if_pos rfl]
  rfl

variable {p p' : Node → Bool} (hp : ∀ m, p' (m.wrapped w) = p m)
  (hwrapper : ∀ m : Node, m.isWrapper = true → p' m = false)

include hwrapper in
theorem filter_wrapperAbove :
    (ancestorsOf (w.wrapperAbove n ++ w.path n.above)).filter p' =
      (ancestorsOf (w.path n.above)).filter p' := by
  unfold Wrapping.wrapperAbove
  split
  next hn =>
    have hout : p' ⟨w.placed n, w.path n.above⟩ = false :=
      hwrapper _ (hn ▸ isWrapper_standing_name w : (n.standing w).isWrapper = true)
    rw [List.singleton_append, ancestorsOf, List.filter_cons_of_neg (by simp [hout])]
  next => rfl

include hp hwrapper in
theorem filter_ancestors_wrapped :
    (n.wrapped w).ancestors.filter p' = (n.ancestors.filter p).map (wrapped w) := by
  have hpath : ∀ above, (ancestorsOf (w.path above)).filter p' =
      ((ancestorsOf above).filter p).map (wrapped w) := fun above => by
    induction above with
    | nil => rfl
    | cons t above ih =>
      have hnode : p' ⟨w.rebuilt above t, w.wrapperAbove ⟨t, above⟩ ++ w.path above⟩ =
          p ⟨t, above⟩ := hp ⟨t, above⟩
      rw [Wrapping.path, ancestorsOf, ancestorsOf, List.filter_cons, List.filter_cons, hnode,
        filter_wrapperAbove w ⟨t, above⟩ hwrapper, ih]
      split <;> rfl
  rw [ancestors, wrapped, filter_wrapperAbove w n hwrapper, hpath, ancestors]

/-! ## The nodes below -/

variable (htoken : ∀ m : Node, m.kind ∈ wrapperTokens → p' m = false) {closed : String → Bool}
  (hclosed : ∀ kind ∈ wrapperKinds, closed kind = false)

include htoken in
theorem filter_openNodes_tokens {ts : List ParseTree} (hts : ∀ t ∈ ts, t.IsWrapperToken) :
    (ts.map n.down).flatMap (fun c => (c.openNodes closed).filter p') = [] := by
  rw [List.flatMap_map]
  refine List.flatMap_eq_nil_iff.mpr fun t ht => ?_
  obtain ⟨_, hkind, hchildren⟩ := hts t ht
  have hleaf : (n.down t).children = [] := by rw [children, down, hchildren, List.map_nil]
  have hout : p' (n.down t) = false := htoken _ hkind
  rw [openNodes_eq, hleaf]
  simp [hout]

include hwrapper htoken hclosed in
/-- Of the wrapper and what lies below it, the test chooses what it chooses below the name. -/
theorem filter_openNodes_standing :
    ((n.standing w).openNodes closed).filter p' = ((n.wrapped w).openNodes closed).filter p' := by
  by_cases hn : n = w.name
  · have hwrapped := isWrapper_standing_name w
    have hopen : closed (w.name.standing w).kind = false :=
      hclosed _ (isWrapper_iff.mp hwrapped)
    have htokens : ∀ ts : List ParseTree, (∀ t ∈ ts, t.IsWrapperToken) →
        (ts.map (w.name.standing w).down).flatMap (fun c => (c.openNodes closed).filter p') = [] :=
      fun ts hts => filter_openNodes_tokens (w.name.standing w) htoken hts
    rw [hn, openNodes_eq, List.filter_cons_of_neg (by simp [hwrapper _ hwrapped]), hopen, children,
      trees_standing_name, List.map_append, List.map_cons, down_standing_name]
    simp only [Bool.false_eq_true, if_false, List.flatMap_append, List.flatMap_cons,
      List.filter_append, List.filter_flatMap]
    rw [htokens _ fun t ht => w.tokens t (List.mem_append_left _ ht),
      htokens _ fun t ht => w.tokens t (List.mem_append_right _ ht), List.nil_append,
      List.append_nil]
  · rw [standing_of_ne w hn]

include hp hwrapper htoken hclosed in
/-- A test that neither wrappers nor their tokens pass chooses the same nodes in both trees. -/
theorem filter_openNodes_wrapped :
    ((n.wrapped w).openNodes closed).filter p' =
      ((n.openNodes closed).filter p).map (wrapped w) := by
  induction n using childrenInduction with
  | step n ih =>
    have hbelow : (n.wrapped w).children.flatMap (fun c => (c.openNodes closed).filter p') =
        (n.children.flatMap fun c => (c.openNodes closed).filter p).map (wrapped w) := by
      rw [children_wrapped]
      refine flatMap_map_image_of_mem fun c hc => ?_
      rw [filter_openNodes_standing w c hwrapper htoken hclosed, ih c hc]
    rw [openNodes_eq, openNodes_eq n, kind_wrapped, List.filter_cons, List.filter_cons, hp]
    cases closed n.kind with
    | true => simp only [if_true, List.filter_nil]; split <;> rfl
    | false =>
      simp only [Bool.false_eq_true, if_false, List.filter_flatMap, hbelow]
      split <;> rfl

theorem nodes_eq_openNodes : n.nodes = n.openNodes fun _ => false := by
  induction n using childrenInduction with
  | step n ih =>
    rw [nodes_eq, openNodes_eq]
    exact congrArg (n :: ·) (List.flatMap_congr ih)

end Node

/-! ## The document -/

/-- The document with the wrapper in it. -/
def Document.wrapped (w : Wrapping) (d : Document) : Document :=
  ⟨d.path, d.source, (d.root.wrapped w).tree⟩

/-- The parameters of functions stand in lists of parameters. -/
def Document.ListsParameters (d : Document) : Prop :=
  ∀ n ∈ d.root.nodes, n.isFunction = true → ∀ l ∈ n.child? "parameters",
    l.kind = "formal_parameters"

namespace Wrapping

variable {w : Wrapping} {d : Document}

/-- The name is no parameter of a function. -/
theorem ne_name_of_parameter (hd : d.ListsParameters) (hw : w.name ∈ d.root.nodes)
    {fn l c : Node} (hfn : fn.isFunction = true) (hl : fn.child? "parameters" = some l)
    (hc : c ∈ l.children) : c ≠ w.name := by
  rintro rfl
  have hlist : l ∈ d.root.nodes := Document.mem_of_parent? hw (Node.parent?_of_mem_children hc)
  have hfunction : fn ∈ d.root.nodes := Document.mem_of_parent? hlist (Node.parent?_of_child? hl)
  have hkind : l.kind = "formal_parameters" := hd fn hfunction hfn l hl
  exact Node.ne_name_of_mem_children w (by rw [hkind]; decide) hc rfl

theorem mem_fillerKinds_of_isWrapper {m : Node} (hm : m.isWrapper = true) :
    m.kind ∈ fillerKinds :=
  List.mem_cons_of_mem _ (List.mem_append_right _ (Node.isWrapper_iff.mp hm))

theorem mem_fillerKinds_of_token {m : Node} (hm : m.kind ∈ wrapperTokens) :
    m.kind ∈ fillerKinds :=
  List.mem_cons_of_mem _ (List.mem_append_left _ hm)

/-- A filler fails every test for kinds that no filler has. -/
theorem isOneOf_of_filler {kinds : List String} (hkinds : ∀ kind ∈ kinds, kind ∉ fillerKinds)
    {m : Node} (hm : m.kind ∈ fillerKinds) : m.isOneOf kinds = false := by
  rw [Bool.eq_false_iff, ne_eq, Node.isOneOf_iff]
  exact fun hkind => hkinds _ hkind hm

/-- A document is like the document with a wrapper around one of its names. -/
def likeness (hd : d.ListsParameters) (hw : w.name ∈ d.root.nodes) :
    Likeness d (d.wrapped w) where
  image := Node.wrapped w
  stand := Node.standing w
  movedKey := id
  movedSpan := id
  movedKey_injective := Function.injective_id
  root_image := by
    have hroot : d.root ≠ w.name := by
      obtain ⟨p, hp, _⟩ := w.exists_parent?
      rintro hname
      rw [← hname] at hp
      cases hp
    have habove : (d.root.wrapped w).above = [] := by
      rw [Node.wrapped, wrapperAbove, if_neg hroot]
      rfl
    exact congrArg (Node.mk (d.root.wrapped w).tree) habove.symm
  kind_image := Node.kind_wrapped w
  key_image n := by simp [Node.key]
  contains_image m n := by simp [Node.contains]
  spanOf_image n := by simp [Document.spanOf, Document.wrapped]
  text_image n := by simp [Document.text, Document.wrapped]
  text_stand n := by simp [Document.text, Document.wrapped]
  stand_cases n := by
    by_cases hn : n = w.name
    · exact Or.inr (hn ▸ ⟨w.isName.1, Node.isWrapper_standing_name w⟩)
    · exact Or.inl (Node.standing_of_ne w hn)
  child?_stand := Node.child?_wrapped w
  parts_stand := Node.parts_wrapped w
  hasToken_image n text _ := Node.hasToken_wrapped w n text
  stand_of_kind hn hc := Node.standing_of_ne w (Node.ne_name_of_mem_children w hn hc)
  stand_parameter hfn hl hc := Node.standing_of_ne w (ne_name_of_parameter hd hw hfn hl hc)
  unwrap_image := Node.unwrap_wrapped w
  unwrap_stand := Node.unwrap_standing w
  parent?_image hn := Node.parent?_wrapped w fun hname => hn (hname ▸ w.isName.1)
  filter_ancestors hp hwrapper n := Node.filter_ancestors_wrapped w n hp hwrapper
  find_image hkinds n := by
    rw [Node.find, Node.find, Node.nodes_eq_openNodes, Node.nodes_eq_openNodes n]
    exact Node.filter_openNodes_wrapped w n (fun m => Node.isOneOf_wrapped w m _)
      (fun m hm => isOneOf_of_filler hkinds (mem_fillerKinds_of_isWrapper hm))
      (fun m hm => isOneOf_of_filler hkinds (mem_fillerKinds_of_token hm)) fun _ _ => rfl
  openElements_image n :=
    Node.filter_openNodes_wrapped w n (fun m => Node.isOneOf_wrapped w m _)
      (fun m hm => isOneOf_of_filler (by decide) (mem_fillerKinds_of_isWrapper hm))
      (fun m hm => isOneOf_of_filler (by decide) (mem_fillerKinds_of_token hm)) (by decide)

end Wrapping

end CodeConventions
