import CodeConventions.Proofs.Tree.Argument
import CodeConventions.Proofs.Tree.Range

/-!
# Walks down a tree

A walk keeps a list of the nodes that wait.  It takes the first of them, and unless that node is
closed, its children wait before all others.  The nodes that are taken are those that the recursion
over the tree lists (`walk_eq_flatMap`).

A walk through the body of a function that enters no other function takes exactly the nodes of the
body around which the function is the innermost one (`ownNodes_exact`): the way down and the way up
agree.  A walk that enters every node takes all nodes of a tree, each of them once and in document
order, and is then at its end (`walk_inPreorder`).

## Strategy

Nodes that look alike in all they know are equal, so that a node is taken once has to be said of its
*place*, the numbers of the children that lead to it.  In the order of lists, where a list comes
before the longer ones that it begins, the places of a tree are in document order
(`pairwise_places`), and each node is listed for one of them (`map_some_nodes`).

A node strictly below a nested function has a function around it that lies in the body, and is
therefore smaller than the function whose body it is.  So both ways drop the same stretches of the
body.

Round by round a walk works on a stack.  What it has taken, followed by what a walk from the nodes
on the stack would take, stays the same in each round, and each round moves one node from the latter
to the former (`WalkState.next_cases`).  So after any number of rounds the walk has taken as many
nodes of one and the same list (`WalkState.iterate_next`), and it ends when there are no more.
-/

namespace CodeConventions

namespace ParseTree

theorem sizeAll_append (ts us : List ParseTree) :
    sizeAll (ts ++ us) = sizeAll ts + sizeAll us := by
  induction ts with
  | nil => rw [List.nil_append, sizeAll, Nat.zero_add]
  | cons t ts ih => rw [List.cons_append, sizeAll, sizeAll, ih, Nat.add_assoc]

mutual

theorem length_nodesBelow (above : List ParseTree) :
    ∀ t : ParseTree, (nodesBelow above t).length = t.size
  | .node l cs => by rw [nodesBelow, List.length_cons, length_nodesBelowAll, size]

theorem length_nodesBelowAll (above : List ParseTree) :
    ∀ ts : List ParseTree, (nodesBelowAll above ts).length = sizeAll ts
  | [] => rfl
  | c :: cs => by
    rw [nodesBelowAll, List.length_append, length_nodesBelow, length_nodesBelowAll, sizeAll]

end

mutual

/-- The places of the nodes of a tree in document order. -/
def places : ParseTree → List (List Nat)
  | .node _ cs => [] :: placesAll 0 cs

/-- The places of the nodes of several trees side by side, where the first tree has the number
given. -/
def placesAll (first : Nat) : List ParseTree → List (List Nat)
  | [] => []
  | c :: cs => (places c).map (first :: ·) ++ placesAll (first + 1) cs

end

theorem placesAll_eq_flatMap (first : Nat) (ts : List ParseTree) :
    placesAll first ts = (ts.zipIdx first).flatMap fun x => x.1.places.map (x.2 :: ·) := by
  induction ts generalizing first with
  | nil => rfl
  | cons t ts ih => rw [placesAll, ih, List.zipIdx_cons, List.flatMap_cons]

end ParseTree

namespace Node

variable {n m fn body : Node} {place : List Nat}

/-! ## Walks -/

/-- The nodes to which a walk goes on from a node. -/
def entered (closed : String → Bool) (n : Node) : List Node :=
  if closed n.kind then [] else n.children

/-- What a walk goes on to is less than the node that it goes on from. -/
theorem sizeAll_entered_lt (closed : String → Bool) (n : Node) :
    ParseTree.sizeAll ((n.entered closed).map tree) < n.size := by
  obtain ⟨⟨l, cs⟩, above⟩ := n
  have hchildren : (children ⟨.node l cs, above⟩).map tree = cs := by
    simp [children, down, ParseTree.children, Function.comp_def]
  rw [entered, size, ParseTree.size]
  split
  · rw [List.map_nil, ParseTree.sizeAll]
    omega
  · rw [hchildren]
    omega

/-- The nodes that are taken while some wait, the first one next. -/
def walk (closed : String → Bool) : List Node → List Node
  | [] => []
  | n :: waiting => n :: walk closed (n.entered closed ++ waiting)
termination_by waiting => ParseTree.sizeAll (waiting.map tree)
decreasing_by
  rw [List.map_append, ParseTree.sizeAll_append, List.map_cons, ParseTree.sizeAll]
  exact Nat.add_lt_add_right (sizeAll_entered_lt closed n) _

/-- A walk takes what waits one by one, and what is open below each before the next one. -/
theorem walk_eq_flatMap (closed : String → Bool) (waiting : List Node) :
    walk closed waiting = waiting.flatMap (openNodes · closed) := by
  induction waiting using walk.induct closed with
  | case1 => rw [walk, List.flatMap_nil]
  | case2 n waiting ih =>
      rw [walk, ih, List.flatMap_append, List.flatMap_cons, openNodes_eq, List.cons_append, entered]
      split
      · rw [List.flatMap_nil]
      · rfl

theorem walk_singleton (closed : String → Bool) (n : Node) :
    walk closed [n] = n.openNodes closed := by
  rw [walk_eq_flatMap, List.flatMap_singleton]

/-- A walk that enters every node takes all of them. -/
theorem openNodes_of_never (n : Node) : n.openNodes (fun _ => false) = n.nodes := by
  induction n using childrenInduction with
  | step n ih =>
      rw [openNodes_eq, nodes_eq, if_neg Bool.false_ne_true]
      exact congrArg (n :: ·) (List.flatMap_congr ih)

theorem length_nodes (n : Node) : n.nodes.length = n.size :=
  ParseTree.length_nodesBelow n.above n.tree

/-! ## The stack of a walk -/

/-- A walk under way: the nodes that it has taken, and the stack of those that wait.  The top of the
stack is its last node. -/
structure WalkState where
  taken : List Node
  stack : List Node

namespace WalkState

/-- The beginning of a walk from a node. -/
def start (n : Node) : WalkState := ⟨[], [n]⟩

/-- One round of a walk: the node on top of the stack is taken, and the nodes to which the walk goes
on from it are put there in its place, the first of them on top. -/
def next (closed : String → Bool) (w : WalkState) : WalkState :=
  match w.stack.getLast? with
  | none => w
  | some n => ⟨w.taken ++ [n], w.stack.dropLast ++ (n.entered closed).reverse⟩

/-- What is still to be taken. -/
def rest (closed : String → Bool) (w : WalkState) : List Node := walk closed w.stack.reverse

variable {w : WalkState}

/-- A round takes the first of the nodes that are still to be taken, as long as there is one. -/
theorem next_cases (closed : String → Bool) (w : WalkState) :
    w.stack = [] ∧ w.next closed = w ∧ w.rest closed = [] ∨
      ∃ n, w.stack ≠ [] ∧ (w.next closed).taken = w.taken ++ [n] ∧
        w.rest closed = n :: (w.next closed).rest closed := by
  rcases List.eq_nil_or_concat w.stack with hempty | ⟨below, n, hstack⟩
  · refine Or.inl ⟨hempty, ?_, ?_⟩
    · rw [next, hempty, List.getLast?_nil]
    · rw [rest, hempty, List.reverse_nil, walk]
  · rw [List.concat_eq_append] at hstack
    have hnext : w.next closed = ⟨w.taken ++ [n], below ++ (n.entered closed).reverse⟩ := by
      rw [next, hstack, List.getLast?_concat, List.dropLast_concat]
    refine Or.inr ⟨n, ?_, ?_, ?_⟩
    · rw [hstack]
      exact List.concat_ne_nil n below
    · rw [hnext]
    · -- read from its top, the stack is what waits in a walk
      rw [rest, rest, hnext, hstack, List.reverse_append, List.reverse_append,
        List.reverse_reverse, List.reverse_singleton, List.singleton_append, walk]

theorem stack_eq_nil_iff (closed : String → Bool) : w.stack = [] ↔ w.rest closed = [] := by
  rcases next_cases closed w with ⟨hstack, _, hrest⟩ | ⟨n, hstack, _, hrest⟩
  · exact iff_of_true hstack hrest
  · exact iff_of_false hstack (hrest ▸ List.cons_ne_nil _ _)

/-- After some rounds as many nodes have been taken of those that were to be taken, and the others
are still to be taken. -/
theorem iterate_next (closed : String → Bool) (w : WalkState) (k : Nat) :
    ((next closed)^[k] w).taken = w.taken ++ (w.rest closed).take k ∧
      ((next closed)^[k] w).rest closed = (w.rest closed).drop k := by
  induction k generalizing w with
  | zero => exact ⟨(List.append_nil _).symm, rfl⟩
  | succ k ih =>
      obtain ⟨htaken, hrest⟩ := ih (w.next closed)
      rw [Function.iterate_succ_apply, htaken, hrest]
      rcases next_cases closed w with ⟨_, hnext, hempty⟩ | ⟨n, _, hnext, hcons⟩
      · rw [hnext, hempty, List.take_nil, List.take_nil, List.drop_nil, List.drop_nil]
        exact ⟨rfl, rfl⟩
      · rw [hnext, hcons, List.take_succ_cons, List.drop_succ_cons, List.append_assoc]
        exact ⟨rfl, rfl⟩

end WalkState

/-! ## Places -/

/-- The places of the node and of all nodes below it, in document order. -/
def places (n : Node) : List (List Nat) := n.tree.places

/-- The node at a place. -/
def at? (n : Node) : List Nat → Option Node
  | [] => some n
  | i :: place => n.children[i]?.bind fun c => c.at? place

theorem places_eq (n : Node) :
    n.places = [] :: n.children.zipIdx.flatMap fun x => x.1.places.map (x.2 :: ·) := by
  obtain ⟨⟨l, cs⟩, above⟩ := n
  rw [places, ParseTree.places, ParseTree.placesAll_eq_flatMap, children, List.zipIdx_map,
    List.flatMap_map]
  rfl

/-- Each node is listed for one place. -/
theorem map_some_nodes (n : Node) : n.nodes.map some = n.places.map n.at? := by
  induction n using childrenInduction with
  | step n ih =>
      have hbelow : n.children.zipIdx.flatMap (fun x => (x.1.places.map (x.2 :: ·)).map n.at?) =
          n.children.zipIdx.flatMap fun x => x.1.nodes.map some := by
        refine List.flatMap_congr fun x hx => ?_
        have hchild : n.children[x.2]? = some x.1 := List.mem_zipIdx_iff_getElem?.mp hx
        rw [ih x.1 (List.mem_of_getElem? hchild), List.map_map]
        refine List.map_congr_left fun place _ => ?_
        rw [Function.comp_apply, at?, hchild, Option.bind_some]
      calc n.nodes.map some
          = some n :: n.children.flatMap fun c => c.nodes.map some := by
            rw [nodes_eq, List.map_cons, List.map_flatMap]
        _ = some n :: n.children.zipIdx.flatMap fun x => x.1.nodes.map some := by
            conv_lhs => rw [← List.zipIdx_map_fst 0 n.children, List.flatMap_map]
        _ = n.places.map n.at? := by
            rw [places_eq, List.map_cons, List.map_flatMap, hbelow, at?]

theorem mem_places_iff : place ∈ n.places ↔ ∃ m, n.at? place = some m := by
  induction place generalizing n with
  | nil =>
      rw [places_eq, at?]
      exact iff_of_true List.mem_cons_self ⟨n, rfl⟩
  | cons i place ih =>
      rw [places_eq, List.mem_cons, List.mem_flatMap]
      simp only [reduceCtorEq, false_or, List.mem_map, List.cons.injEq, at?,
        Option.bind_eq_some_iff]
      constructor
      · rintro ⟨⟨c, j⟩, hx, p, hp, rfl, rfl⟩
        obtain ⟨m, hm⟩ := ih.mp hp
        exact ⟨m, c, List.mem_zipIdx_iff_getElem?.mp hx, hm⟩
      · rintro ⟨m, c, hc, hm⟩
        exact ⟨(c, i), List.mem_zipIdx_iff_getElem?.mpr hc, place, ih.mpr ⟨m, hm⟩, rfl, rfl⟩

/-- The places of a tree are in order. -/
theorem pairwise_places (n : Node) : n.places.Pairwise (· < ·) := by
  induction n using childrenInduction with
  | step n ih =>
      have hnumbers : n.children.zipIdx.Pairwise fun x y => x.2 < y.2 := by
        rw [← List.pairwise_map (R := (· < ·)), List.zipIdx_map_snd]
        exact List.pairwise_lt_range'
      rw [places_eq, List.pairwise_cons, List.pairwise_flatMap]
      refine ⟨fun place hplace => ?_, fun x hx => ?_, hnumbers.imp fun {x y} hlt p hp q hq => ?_⟩
      · obtain ⟨x, _, hplace⟩ := List.mem_flatMap.mp hplace
        obtain ⟨p, _, rfl⟩ := List.mem_map.mp hplace
        exact List.nil_lt_cons _ _
      · have hchild := List.mem_of_getElem? (List.mem_zipIdx_iff_getElem?.mp hx)
        exact List.pairwise_map.mpr ((ih x.1 hchild).imp List.cons_lt_cons_self.mpr)
      · obtain ⟨p, _, rfl⟩ := List.mem_map.mp hp
        obtain ⟨q, _, rfl⟩ := List.mem_map.mp hq
        exact List.cons_lt_cons_iff.mpr (Or.inl hlt)

/-- The nodes with a property are listed for the places where such nodes are. -/
theorem exists_places_filter (n : Node) (p : Node → Bool) :
    ∃ found : List (List Nat), found.Sublist n.places ∧
      (n.nodes.filter p).map some = found.map n.at? ∧
      ∀ place m, n.at? place = some m → (place ∈ found ↔ p m = true) := by
  refine ⟨n.places.filter fun place => (n.at? place).any p, List.filter_sublist, ?_,
    fun place m hm => ?_⟩
  · have hplaces := congrArg (List.filter fun m? : Option Node => m?.any p) n.map_some_nodes
    rwa [List.filter_map, List.filter_map] at hplaces
  · have hplace : place ∈ n.places := mem_places_iff.mpr ⟨m, hm⟩
    simp [List.mem_filter, hm, hplace]

/-! ## The own nodes of a function -/

/-- Strictly below a function inside of another one, that other one is around nothing. -/
theorem enclosingFunction?_ne_of_mem_children {c : Node} (hn : n.isFunction = true)
    (hsize : n.size < fn.size) (hc : c ∈ n.children) (hm : m ∈ c.nodes) :
    m.enclosingFunction? ≠ some fn := by
  intro henclosing
  have hne : m ≠ n := fun heq => not_mem_nodes_of_mem_children hc (heq ▸ hm)
  have hmem : m ∈ n.nodes := mem_nodes_iff.mpr (Or.inr ⟨c, hc, hm⟩)
  obtain ⟨g, hg, hmg⟩ := Document.exists_enclosingFunction?_of_mem_nodes hn hmem hne
  obtain rfl : g = fn := Option.some_inj.mp (hmg.symm.trans henclosing)
  exact absurd (size_le_of_mem_nodes hg) (Nat.not_le.mpr hsize)

theorem openNodes_eq_filter (hsize : n.size < fn.size) (hn : n.enclosingFunction? = some fn) :
    n.openNodes functionKinds.contains =
      n.nodes.filter fun m => m.enclosingFunction? = some fn := by
  induction n using childrenInduction with
  | step n ih =>
      have hclosed : functionKinds.contains n.kind = n.isFunction := rfl
      rw [openNodes_eq, nodes_eq, List.filter_cons, if_pos (decide_eq_true hn),
        List.filter_flatMap, hclosed]
      cases hfunction : n.isFunction with
      | true =>
          rw [if_pos rfl, eq_comm]
          refine congrArg (n :: ·) (List.flatMap_eq_nil_iff.mpr fun c hc => ?_)
          refine List.filter_eq_nil_iff.mpr fun m hm => ?_
          rw [decide_eq_true_eq]
          exact enclosingFunction?_ne_of_mem_children hfunction hsize hc hm
      | false =>
          rw [if_neg Bool.false_ne_true]
          refine congrArg (n :: ·) (List.flatMap_congr fun c hc => ?_)
          refine ih c hc ((size_lt_of_mem_children hc).trans hsize) ?_
          rw [enclosingFunction?_of_mem_children hc, hfunction]
          exact hn

/-- The own nodes of a function are the nodes of its body, in document order and for one place each,
around which the function is the innermost one; they are what a walk through the body takes that
enters no function.  Nested functions are among them, and nothing below these is; a body that is a
function itself is all there is. -/
theorem ownNodes_exact (hfunction : fn.isFunction = true) (hbody : fn.child? "body" = some body) :
    fn.ownNodes = walk functionKinds.contains [body] ∧
    (fn.ownNodes = body.nodes.filter fun m => m.enclosingFunction? = some fn) ∧
    (∃ own : List (List Nat), own.Pairwise (· < ·) ∧ fn.ownNodes.map some = own.map body.at? ∧
      ∀ place m, body.at? place = some m →
        (place ∈ own ↔ m.enclosingFunction? = some fn)) ∧
    (∀ g ∈ fn.ownNodes, g.isFunction = true → ∀ c ∈ g.children, ∀ m ∈ c.nodes,
      m ∉ fn.ownNodes) ∧
    (body.isFunction = true → fn.ownNodes = [body]) := by
  have hchild := mem_children_of_child? hbody
  have hsize : body.size < fn.size := size_lt_of_mem_children hchild
  have hopen : fn.ownNodes = body.openNodes functionKinds.contains := by rw [ownNodes, hbody]
  have hfilter : fn.ownNodes = body.nodes.filter fun m => m.enclosingFunction? = some fn := by
    rw [hopen]
    exact openNodes_eq_filter hsize (Document.enclosingFunction?_of_child? hfunction hbody)
  refine ⟨hopen.trans (walk_singleton _ body).symm, hfilter, ?_, ?_, fun hnested => ?_⟩
  · refine ⟨body.places.filter fun place => (body.at? place).any fun m =>
      m.enclosingFunction? = some fn, body.pairwise_places.filter _, ?_, fun place m hm => ?_⟩
    · have hplaces := congrArg (List.filter fun m? : Option Node => m?.any fun m =>
        m.enclosingFunction? = some fn) body.map_some_nodes
      rw [List.filter_map, List.filter_map] at hplaces
      rw [hfilter]
      exact hplaces
    · have hplace : place ∈ body.places := mem_places_iff.mpr ⟨m, hm⟩
      rw [List.mem_filter, hm]
      simp [hplace]
  · intro g hg hnested c hc m hm hown
    rw [hfilter, List.mem_filter] at hg hown
    have hsmall : g.size < fn.size := (size_le_of_mem_nodes hg.1).trans_lt hsize
    exact enclosingFunction?_ne_of_mem_children hnested hsmall hc hm (of_decide_eq_true hown.2)
  · rw [hopen, openNodes_eq]
    exact congrArg (body :: ·) (if_pos hnested)

/-- The keyword of `function () {}`. -/
def functionKeyword : ParseTree := .node ⟨"function", false, false, none, 6, 14⟩ []

/-- The function `function () {}`. -/
def innerFunction : ParseTree :=
  .node ⟨"function_expression", true, false, some "body", 6, 20⟩
    [functionKeyword,
      .node ⟨"formal_parameters", true, false, some "parameters", 15, 17⟩
        [.node ⟨"(", false, false, none, 15, 16⟩ [], .node ⟨")", false, false, none, 16, 17⟩ []],
      .node ⟨"statement_block", true, false, some "body", 18, 20⟩
        [.node ⟨"\x7b", false, false, none, 18, 19⟩ [],
          .node ⟨"\x7d", false, false, none, 19, 20⟩ []]]

/-- The function `() => function () {}`, whose body is a function. -/
def outerFunction : Node :=
  ⟨.node ⟨"arrow_function", true, false, none, 0, 20⟩
    [.node ⟨"formal_parameters", true, false, some "parameters", 0, 2⟩
      [.node ⟨"(", false, false, none, 0, 1⟩ [], .node ⟨")", false, false, none, 1, 2⟩ []],
    .node ⟨"=>", false, false, none, 3, 5⟩ [],
    innerFunction], []⟩

/-- The body of `outerFunction` is its only own node; the keyword, which has the name of a kind of
functions, is none. -/
theorem ownNodes_exact_outerFunction :
    outerFunction.isFunction = true ∧
      outerFunction.child? "body" = some (outerFunction.down innerFunction) ∧
      outerFunction.ownNodes = [outerFunction.down innerFunction] ∧
      ((outerFunction.down innerFunction).down functionKeyword).isFunction = true ∧
      (outerFunction.down innerFunction).down functionKeyword ∉ outerFunction.ownNodes := by
  have hfunction : outerFunction.isFunction = true := by decide
  have hbody : outerFunction.child? "body" = some (outerFunction.down innerFunction) := rfl
  obtain ⟨_, _, _, hbelow, honly⟩ := ownNodes_exact hfunction hbody
  have hnested : (outerFunction.down innerFunction).isFunction = true := by decide
  have hown := honly hnested
  refine ⟨hfunction, hbody, hown, by decide, ?_⟩
  refine hbelow _ (hown ▸ List.mem_singleton_self _) hnested _ ?_ _ (self_mem_nodes _)
  exact List.mem_cons_self

/-! ## All nodes of a tree -/

/-- A walk that enters every node takes the nodes of the tree in preorder, a parent before its
children and these from left to right: round by round the next of them, and after as many rounds as
there are nodes its stack is empty.  Each place in the tree is visited once, in the order of the
places.  The nodes of some kinds are found at the places where nodes of these kinds are, in the same
order.  Where the ranges of the nodes are in order, none of them begins before the one that was
taken before it. -/
theorem walk_inPreorder (n : Node) (kinds : List String) :
    (∀ k, ((WalkState.next fun _ => false)^[k] (.start n)).taken = n.nodes.take k) ∧
    (∀ k, ((WalkState.next fun _ => false)^[k] (.start n)).stack = [] ↔ n.size ≤ k) ∧
    n.nodes.length = n.size ∧ n.nodes = n :: n.children.flatMap nodes ∧
    (n.places.Pairwise (· < ·) ∧ n.nodes.map some = n.places.map n.at? ∧
      ∀ place, place ∈ n.places ↔ ∃ m, n.at? place = some m) ∧
    (∃ found : List (List Nat), found.Sublist n.places ∧
      (n.find kinds).map some = found.map n.at? ∧
      ∀ place m, n.at? place = some m → (place ∈ found ↔ m.kind ∈ kinds)) ∧
    ∀ d : Document, d.InOrder → n ∈ d.root.nodes →
      n.nodes.Pairwise fun a b => a.start ≤ b.start := by
  have hrest : (WalkState.start n).rest (fun _ => false) = n.nodes :=
    (walk_singleton _ n).trans n.openNodes_of_never
  refine ⟨fun k => ?_, fun k => ?_, n.length_nodes, n.nodes_eq,
    ⟨n.pairwise_places, n.map_some_nodes, fun _ => mem_places_iff⟩, ?_,
    fun d hd hn => hd.nodes_sorted hn⟩
  · rw [(WalkState.iterate_next _ _ k).1, hrest]
    rfl
  · rw [WalkState.stack_eq_nil_iff fun _ => false, (WalkState.iterate_next _ _ k).2, hrest,
      List.drop_eq_nil_iff, length_nodes]
  · obtain ⟨found, hsublist, hmap, hfound⟩ := n.exists_places_filter (·.isOneOf kinds)
    exact ⟨found, hsublist, hmap, fun place m hm => (hfound place m hm).trans isOneOf_iff⟩

/-- The document of `outerFunction`. -/
def functionsDocument : Document :=
  ⟨"a.ts", .ofString "() => function () {}", outerFunction.tree⟩

/-- A walk from `outerFunction` ends after thirteen rounds, and the functions in it are found at
three places, one of which is that of a keyword; document order is the order of the offsets. -/
theorem walk_inPreorder_outerFunction :
    functionsDocument.InOrder ∧ outerFunction ∈ functionsDocument.root.nodes ∧
      ((WalkState.next fun _ => false)^[13] (.start outerFunction)).stack = [] ∧
      (outerFunction.find functionKinds).map some =
        [outerFunction.at? [], outerFunction.at? [2], outerFunction.at? [2, 0]] ∧
      outerFunction.nodes.Pairwise fun a b => a.start ≤ b.start := by
  have horder : functionsDocument.InOrder := by decide
  have hroot : outerFunction ∈ functionsDocument.root.nodes := self_mem_nodes _
  obtain ⟨_, hstack, _, _, _, _, hsorted⟩ := walk_inPreorder outerFunction functionKinds
  exact ⟨horder, hroot, (hstack 13).mpr (by decide), by decide, hsorted _ horder hroot⟩

end Node

end CodeConventions
