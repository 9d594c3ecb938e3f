import CodeConventions.Markup.Basic
import CodeConventions.Proofs.Tree.Climb
import CodeConventions.Rules.Remark
import CodeConventions.Scope.Read

/-!
# Like documents

Two documents are *alike* when every node of one has an *image* in the other, and what a rule can
ask of a node has the same answer for its image.  Documents that differ in where their text begins
are alike, so are documents that differ in comments, and documents that differ in the wrappers
around a name.

A wrapper may stand between the image of a name and the image of the node that uses it.  So what
*stands* in the place of a node is its image or a wrapper around it, and the children of an image
are what stands in the places of the children.  Only names that are called or reached into get a
wrapper; the nodes that use such names are the *holders*.

The notions of the library are shown here and in the modules that follow to carry over to like
documents, each from the notions it is made of.
-/

namespace CodeConventions

/-- The tokens that wrappers are written with. -/
def wrapperTokens : List String := ["(", ")", "!", "as", "satisfies", "const", "<", ">"]

/-- The kinds of nodes that may be in one of two like documents and not in the other. -/
def fillerKinds : List String := "comment" :: (wrapperTokens ++ wrapperKinds)

/-- The kinds of nodes that use a name around which a wrapper may be put. -/
def holderKinds : List String := "call_expression" :: (Node.accessKinds ++ wrapperKinds)

/-! ## Lists of images -/

section Lists

variable {α α' β β' : Type} {image : α → α'} {moved : β → β'}

theorem filter_map_image {p : α → Bool} {p' : α' → Bool} (hp : ∀ a, p' (image a) = p a)
    (xs : List α) : (xs.map image).filter p' = (xs.filter p).map image := by
  rw [List.filter_map]
  exact congrArg _ (List.filter_congr fun a _ => hp a)

theorem filterMap_map_image_of_mem {f : α → Option β} {f' : α' → Option β'} {xs : List α}
    (hf : ∀ a ∈ xs, f' (image a) = (f a).map moved) :
    (xs.map image).filterMap f' = (xs.filterMap f).map moved := by
  rw [List.filterMap_map, List.map_filterMap]
  exact List.filterMap_congr hf

theorem filterMap_map_image {f : α → Option β} {f' : α' → Option β'}
    (hf : ∀ a, f' (image a) = (f a).map moved) (xs : List α) :
    (xs.map image).filterMap f' = (xs.filterMap f).map moved :=
  filterMap_map_image_of_mem fun a _ => hf a

theorem flatMap_map_image_of_mem {f : α → List β} {f' : α' → List β'} {xs : List α}
    (hf : ∀ a ∈ xs, f' (image a) = (f a).map moved) :
    (xs.map image).flatMap f' = (xs.flatMap f).map moved := by
  rw [List.flatMap_map, List.map_flatMap]
  exact List.flatMap_congr hf

theorem flatMap_map_image {f : α → List β} {f' : α' → List β'}
    (hf : ∀ a, f' (image a) = (f a).map moved) (xs : List α) :
    (xs.map image).flatMap f' = (xs.flatMap f).map moved :=
  flatMap_map_image_of_mem fun a _ => hf a

theorem bind_map_image {f : α → Option β} {f' : α' → Option β'}
    (hf : ∀ a, f' (image a) = (f a).map moved) (o : Option α) :
    (o.map image).bind f' = (o.bind f).map moved := by
  cases o with
  | none => rfl
  | some a => exact hf a

theorem mapM_map_image {ε : Type} {f : α → Except ε β} {f' : α' → Except ε β'}
    (hf : ∀ a, f' (image a) = (f a).map moved) (xs : List α) :
    (xs.map image).mapM f' = (xs.mapM f).map (List.map moved) := by
  induction xs with
  | nil => rfl
  | cons a xs ih =>
    rw [List.map_cons, List.mapM_cons, List.mapM_cons, ih, hf]
    cases f a with
    | error fault => rfl
    | ok b => cases xs.mapM f <;> rfl

theorem contains_map_of_injective [BEq α] [LawfulBEq α] [BEq β] [LawfulBEq β] {f : α → β}
    (hf : Function.Injective f) (xs : List α) (a : α) :
    (xs.map f).contains (f a) = xs.contains a := by
  rw [Bool.eq_iff_iff]
  simp [hf.eq_iff]

end Lists

/-- The two documents are alike. -/
structure Likeness (d d' : Document) where
  /-- The image of a node. -/
  image : Node → Node
  /-- What stands in the place of a node. -/
  stand : Node → Node
  /-- The identity of the image of a node, from that of the node. -/
  movedKey : Nat × Nat × String → Nat × Nat × String
  /-- The span of the image of a node, from that of the node. -/
  movedSpan : Span → Span
  movedKey_injective : Function.Injective movedKey
  root_image : d'.root = image d.root
  kind_image : ∀ n, (image n).kind = n.kind
  key_image : ∀ n, (image n).key = movedKey n.key
  contains_image : ∀ m n, (image m).contains (image n) = m.contains n
  spanOf_image : ∀ n, d'.spanOf (image n) = movedSpan (d.spanOf n)
  text_image : ∀ n, d'.text (image n) = d.text n
  text_stand : ∀ n, d'.text (stand n) = d.text n
  /-- Only around a name there may be a wrapper that was not there. -/
  stand_cases : ∀ n, stand n = image n ∨ n.kind = "identifier" ∧ (stand n).isWrapper = true
  child?_stand : ∀ n role, (image n).child? role = (n.child? role).map stand
  parts_stand : ∀ n, (image n).parts = n.parts.map stand
  hasToken_image : ∀ n text, text ≠ "comment" → (image n).hasToken text = n.hasToken text
  /-- Only holders get a wrapper around one of their children. -/
  stand_of_kind : ∀ {n c : Node}, n.kind ∉ holderKinds → c ∈ n.children → stand c = image c
  /-- No parameter gets a wrapper around it. -/
  stand_parameter : ∀ {fn l c : Node}, fn.isFunction = true → fn.child? "parameters" = some l →
    c ∈ l.children → stand c = image c
  unwrap_image : ∀ n, (image n).unwrap = image n.unwrap
  unwrap_stand : ∀ n, (stand n).unwrap = image n.unwrap
  parent?_image : ∀ {n : Node}, n.kind ≠ "identifier" → (image n).parent? = n.parent?.map image
  /-- Ancestors that are no wrappers are the images of ancestors. -/
  filter_ancestors : ∀ {p p' : Node → Bool}, (∀ m, p' (image m) = p m) →
    (∀ w : Node, w.isWrapper = true → p' w = false) →
    ∀ n, (image n).ancestors.filter p' = (n.ancestors.filter p).map image
  /-- Nodes that are no fillers are the images of nodes, in the same order. -/
  find_image : ∀ {kinds}, (∀ kind ∈ kinds, kind ∉ fillerKinds) →
    ∀ n, (image n).find kinds = (n.find kinds).map image
  openElements_image : ∀ n, ((image n).openNodes functionKinds.contains).filter
      (fun m => m.isOneOf elementKinds) =
    ((n.openNodes functionKinds.contains).filter fun m => m.isOneOf elementKinds).map image

attribute [simp] Likeness.kind_image Likeness.key_image Likeness.contains_image
  Likeness.spanOf_image Likeness.text_image Likeness.text_stand Likeness.unwrap_image
  Likeness.unwrap_stand

namespace Likeness

variable {d d' : Document} (h : Likeness d d') (n : Node) {c : Node} {kinds : List String}

/-- The image of a remark. -/
def movedRemark (r : Remark) : Remark := ⟨h.movedSpan r.span, r.message⟩

/-! ## Questions to one node -/

@[simp] theorem isOneOf_image (kinds : List String) :
    (h.image n).isOneOf kinds = n.isOneOf kinds := by
  rw [Node.isOneOf, Node.isOneOf, h.kind_image]

@[simp] theorem isFunction_image : (h.image n).isFunction = n.isFunction :=
  h.isOneOf_image n functionKinds

@[simp] theorem isWrapper_image : (h.image n).isWrapper = n.isWrapper :=
  h.isOneOf_image n wrapperKinds

@[simp] theorem same_image (m : Node) : (h.image n).same (h.image m) = n.same m := by
  simp [Node.same, h.movedKey_injective.eq_iff]

@[simp] theorem isAsync_image : (h.image n).isAsync = n.isAsync :=
  h.hasToken_image n "async" (by decide)

@[simp] theorem text?_image (n : Option Node) : d'.text? (n.map h.image) = d.text? n := by
  cases n <;> simp [Document.text?]

@[simp] theorem remark_image (message : String) :
    d'.remark (h.image n) message = h.movedRemark (d.remark n message) := by
  simp [Document.remark, movedRemark]

/-- A wrapper that was not there has not the kind of any other node. -/
theorem isOneOf_stand (hkinds : ∀ kind ∈ kinds, kind ∉ "identifier" :: wrapperKinds) :
    (h.stand n).isOneOf kinds = n.isOneOf kinds := by
  rcases h.stand_cases n with heq | ⟨hname, hwrapper⟩
  · rw [heq, isOneOf_image]
  · have hnew : (h.stand n).isOneOf kinds = false := by
      rw [Bool.eq_false_iff, ne_eq, Node.isOneOf_iff]
      exact fun hmem => hkinds _ hmem (List.mem_cons_of_mem _ (Node.isWrapper_iff.mp hwrapper))
    have hold : n.isOneOf kinds = false := by
      rw [Bool.eq_false_iff, ne_eq, Node.isOneOf_iff]
      exact fun hmem => hkinds _ hmem (hname ▸ List.mem_cons_self ..)
    rw [hnew, hold]

/-! ## Children -/

/-- No child of the node gets a wrapper around it. -/
def Plain (n : Node) : Prop := ∀ c ∈ n.children, h.stand c = h.image c

variable {n}

theorem plain_of_kind {kind : String} (hn : n.kind = kind) (hkind : kind ∉ holderKinds) :
    h.Plain n := fun _ hc => h.stand_of_kind (hn ▸ hkind) hc

theorem plain_of_isOneOf (hn : n.isOneOf kinds = true)
    (hkinds : ∀ kind ∈ kinds, kind ∉ holderKinds) : h.Plain n := fun _ hc =>
  h.stand_of_kind (hkinds _ (Node.isOneOf_iff.mp hn)) hc

theorem plain_of_isFunction (hn : n.isFunction = true) : h.Plain n :=
  h.plain_of_isOneOf hn (by decide)

namespace Plain

variable {h}

theorem child?_image (hn : h.Plain n) (role : String) :
    (h.image n).child? role = (n.child? role).map h.image := by
  rw [h.child?_stand]
  exact Option.map_congr fun c hc => hn c (Node.mem_children_of_child? hc)

theorem parts_image (hn : h.Plain n) : (h.image n).parts = n.parts.map h.image := by
  rw [h.parts_stand]
  exact List.map_congr_left fun c hc => hn c (Node.mem_children_of_mem_parts hc)

theorem firstPart?_image (hn : h.Plain n) :
    (h.image n).firstPart? = n.firstPart?.map h.image := by
  rw [Node.firstPart?_eq, Node.firstPart?_eq, hn.parts_image, List.head?_map]

end Plain

variable (n)

@[simp] theorem text?_child? (role : String) :
    d'.text? ((h.image n).child? role) = d.text? (n.child? role) := by
  rw [h.child?_stand]
  cases n.child? role <;> simp [Document.text?]

@[simp] theorem isSome_child? (role : String) :
    ((h.image n).child? role).isSome = (n.child? role).isSome := by
  rw [h.child?_stand, Option.isSome_map]

@[simp] theorem operand?_image (role : String) :
    (h.image n).operand? role = (n.operand? role).map h.image := by
  simp [Node.operand?, h.child?_stand, Function.comp_def]

@[simp] theorem isOperandOf_image (parent : Node) (role : String) :
    (h.image n).isOperandOf (h.image parent) role = n.isOperandOf parent role := by
  simp [Node.isOperandOf, Option.any_map]

/-- Parts of kinds that neither a name nor a wrapper has are the images of parts. -/
theorem filter_parts_image (hkinds : ∀ kind ∈ kinds, kind ∉ "identifier" :: wrapperKinds) :
    (h.image n).parts.filter (fun c => c.isOneOf kinds) =
      (n.parts.filter fun c => c.isOneOf kinds).map h.image := by
  have hstand : ∀ c ∈ n.parts,
      ((fun c : Node => c.isOneOf kinds) ∘ h.stand) c = c.isOneOf kinds :=
    fun c _ => h.isOneOf_stand c hkinds
  rw [h.parts_stand, List.filter_map, List.filter_congr hstand]
  refine List.map_congr_left fun c hc => ?_
  have hkind := hkinds _ (Node.isOneOf_iff.mp (List.mem_filter.mp hc).2)
  exact (h.stand_cases c).resolve_right fun hname => hkind (hname.1 ▸ List.mem_cons_self ..)

/-! ## The nodes above and below -/

theorem find?_ancestors {p p' : Node → Bool} (hp : ∀ m, p' (h.image m) = p m)
    (hwrapper : ∀ w : Node, w.isWrapper = true → p' w = false) :
    (h.image n).ancestors.find? p' = (n.ancestors.find? p).map h.image := by
  rw [← List.head?_filter, ← List.head?_filter, h.filter_ancestors hp hwrapper, List.head?_map]

@[simp] theorem climb?_image : (h.image n).climb? = n.climb?.map h.image :=
  h.find?_ancestors n (fun m => by rw [h.isWrapper_image]) fun w hw => by rw [hw]; rfl

theorem findAll_image (hkinds : ∀ kind ∈ kinds, kind ∉ fillerKinds) :
    d'.find kinds = (d.find kinds).map h.image := by
  rw [Document.find, h.root_image, h.find_image hkinds, Document.find]

end Likeness

end CodeConventions
