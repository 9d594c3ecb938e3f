import CodeConventions.Proofs.Rules.Reactivity.Read

/-!
# What is said of one use

The rule on reactive variables goes through the uses of each variable and says at most one thing of
each.  What it says is decided by three questions, in this order: is the variable, or a member of
it, assigned to here; does the use belong to the function that the variable belongs to; does an
expression of that function's markup notice the read?

Remarks about accessors that are passed along, and about asynchronous functions, are made before the
uses are looked at and are not counted here.

## Strategy

The rule climbs from a use to the node in which it is used.  What it means to be assigned to is said
here the other way, from the assignment down to its target, and the two agree where no two nodes of
the tree have one identity (`isReactiveWrite_iff`).
-/

namespace CodeConventions

namespace Document.KeysApart

variable {d : Document} {m n : Node}

theorem isOperandOf_iff (hd : d.KeysApart) (hm : m ∈ d.root.nodes) (hn : n ∈ d.root.nodes)
    {role : String} : n.isOperandOf m role = true ↔ m.operand? role = some n := by
  rw [Node.isOperandOf, Option.any_eq_true]
  constructor
  · rintro ⟨o, ho, hsame⟩
    rw [hd.eq_of_same hn (mem_of_operand? hm ho) hsame, ho]
  · exact fun h => ⟨n, h, beq_iff_eq.mpr rfl⟩

end Document.KeysApart

namespace Document

variable {d : Document} {p use : Node} {v : ReactiveVariable}

/-! ## Assignments -/

/-- The expression in the role that an assignment or an update gives to its target. -/
inductive Targets (p use : Node) : Prop
  | assigned (hkind : p.kind ∈ ["assignment_expression", "augmented_assignment_expression"])
      (htarget : p.operand? "left" = some use)
  | updated (hkind : p.kind = "update_expression") (htarget : p.operand? "argument" = some use)

/-- The node is the target of an assignment, of a compound assignment or of an update. -/
def IsTarget (d : Document) (use : Node) : Prop := ∃ p ∈ d.root.nodes, Targets p use

/-- A use assigns to a variable if it is a target, and to an object like properties also if a member
of it is. -/
inductive Alters (d : Document) (v : ReactiveVariable) (use : Node) : Prop
  | variable (htarget : d.IsTarget use)
  | member {m : Node} (hprops : v.kind = .props) (hm : m ∈ d.root.nodes)
      (hkind : m.kind = "member_expression") (hobject : m.operand? "object" = some use)
      (htarget : d.IsTarget m)

theorem Targets.climb? (h : Targets p use) : use.climb? = some p := by
  cases h with
  | assigned hkind htarget =>
      exact Node.climb?_operand? htarget (Node.not_isWrapper_of_kind hkind (by decide))
  | updated hkind htarget =>
      exact Node.climb?_operand? htarget
        (Node.not_isWrapper_of_kind (List.mem_singleton.mpr hkind) (by decide))

theorem KeysApart.isWritten_iff (hd : d.KeysApart) (huse : use ∈ d.root.nodes) :
    use.isWritten = true ↔ d.IsTarget use := by
  rw [Node.isWritten, Option.any_eq_true]
  constructor
  · rintro ⟨p, hp, h⟩
    have hpmem := mem_of_climb? huse hp
    rw [Bool.or_eq_true, Bool.and_eq_true, Bool.and_eq_true, Node.isOneOf_iff, beq_iff_eq,
      hd.isOperandOf_iff hpmem huse, hd.isOperandOf_iff hpmem huse] at h
    rcases h with ⟨hkind, htarget⟩ | ⟨hkind, htarget⟩
    · exact ⟨p, hpmem, .assigned hkind htarget⟩
    · exact ⟨p, hpmem, .updated hkind htarget⟩
  · rintro ⟨p, hpmem, h⟩
    refine ⟨p, h.climb?, ?_⟩
    rw [Bool.or_eq_true, Bool.and_eq_true, Bool.and_eq_true, Node.isOneOf_iff, beq_iff_eq,
      hd.isOperandOf_iff hpmem huse, hd.isOperandOf_iff hpmem huse]
    cases h with
    | assigned hkind htarget => exact Or.inl ⟨hkind, htarget⟩
    | updated hkind htarget => exact Or.inr ⟨hkind, htarget⟩

/-- The node above reaches into the value of the use exactly if the use is its object. -/
theorem KeysApart.isAccessedBy_iff (hd : d.KeysApart) (huse : use ∈ d.root.nodes)
    (hp : p ∈ d.root.nodes) :
    use.isAccessedBy p = true ↔ p.kind ∈ Node.accessKinds ∧ p.operand? "object" = some use := by
  rw [Node.isAccessedBy, Bool.and_eq_true, Node.isOneOf_iff, hd.isOperandOf_iff hp huse]

theorem climb?_of_object (hkind : p.kind ∈ Node.accessKinds)
    (hobject : p.operand? "object" = some use) : use.climb? = some p :=
  Node.climb?_operand? hobject (Node.not_isWrapper_of_kind hkind (by decide))

/-- Going up from a use leads to an assignment exactly where an assignment leads down to it. -/
theorem KeysApart.isReactiveWrite_iff (hd : d.KeysApart) (huse : use ∈ d.root.nodes) :
    isReactiveWrite v use = true ↔ d.Alters v use := by
  rw [isReactiveWrite, Bool.or_eq_true, hd.isWritten_iff huse, Bool.and_eq_true, beq_iff_eq,
    Option.any_eq_true]
  constructor
  · rintro (htarget | ⟨hprops, m, hm, h⟩)
    · exact .variable htarget
    · have hmem := mem_of_climb? huse hm
      rw [Bool.and_eq_true, Bool.and_eq_true, beq_iff_eq, hd.isAccessedBy_iff huse hmem,
        hd.isWritten_iff hmem] at h
      obtain ⟨⟨⟨_, hobject⟩, hkind⟩, htarget⟩ := h
      exact .member hprops hmem hkind hobject htarget
  · rintro (htarget | @⟨m, hprops, hmem, hkind, hobject, htarget⟩)
    · exact Or.inl htarget
    · have haccess : m.kind ∈ Node.accessKinds := hkind ▸ by decide
      refine Or.inr ⟨hprops, m, climb?_of_object haccess hobject, ?_⟩
      rw [Bool.and_eq_true, Bool.and_eq_true, beq_iff_eq, hd.isAccessedBy_iff huse hmem,
        hd.isWritten_iff hmem]
      exact ⟨⟨⟨haccess, hobject⟩, hkind⟩, htarget⟩

/-! ## Reads that are noticed -/

/-- What the rule knows of the file when it looks at uses. -/
def reactiveContext (d : Document) (options : ReactivityOptions) : ReactiveContext :=
  ⟨d.synchronousFunctions, (d.trackedScopes options.customReactiveFunctions).map fun s =>
    ⟨s, d.ownerOf d.synchronousFunctions s.node⟩⟩

/-- What the rule says of a use of a variable. -/
def remarksOnUse (d : Document) (options : ReactivityOptions) (v : ReactiveVariable) (use : Node) :
    List Remark :=
  d.reactiveUse (d.reactiveContext options) v use

/-- The use lies in an expression that is tracked, which belongs to the function given. -/
def IsNoticed (d : Document) (options : ReactivityOptions) (owner use : Node) : Prop :=
  ∃ s ∈ d.trackedScopes options.customReactiveFunctions, s.kind = .expression ∧
    s.node.contains use = true ∧ d.ownerOf d.synchronousFunctions s.node = owner

theorem lostRead_of_isNoticed {options : ReactivityOptions} {owner : Node}
    (h : d.IsNoticed options owner use) (shown : Node) (name : String) :
    d.lostRead (d.reactiveContext options) owner use shown name = [] := by
  obtain ⟨s, hs, hkind, hcontains, howner⟩ := h
  have hlocal : s ∈ (d.reactiveContext options).scopesOf owner := by
    rw [ReactiveContext.scopesOf, List.mem_map]
    refine ⟨⟨s, owner⟩, List.mem_filter.mpr ⟨?_, beq_iff_eq.mpr rfl⟩, rfl⟩
    exact List.mem_map.mpr ⟨s, hs, by rw [howner]⟩
  rw [lostRead, if_pos]
  exact List.any_eq_true.mpr ⟨s, hlocal, by rwa [ReactiveContext.noticedIn, hkind]⟩

theorem signalUse_of_isNoticed {options : ReactivityOptions} (h : d.IsNoticed options v.owner use) :
    d.signalUse (d.reactiveContext options) v use = [] := by
  rw [signalUse]
  split
  · exact lostRead_of_isNoticed h _ _
  · split
    · exact lostRead_of_isNoticed h _ _
    · rfl

theorem propsUse_of_isNoticed {options : ReactivityOptions} (hp : use.climb? = some p)
    (haccessed : use.isAccessedBy p = true) (h : d.IsNoticed options v.owner use) :
    d.propsUse (d.reactiveContext options) v use = [] := by
  rw [propsUse, hp]
  dsimp only
  rw [if_pos haccessed]
  split
  · rfl
  · exact lostRead_of_isNoticed h _ _

/-! ## All uses -/

theorem length_lostRead_le (d : Document) (c : ReactiveContext) (owner use shown : Node)
    (name : String) : (d.lostRead c owner use shown name).length ≤ 1 := by
  rcases d.lostRead_cases c owner use shown name with heq | ⟨_, _, heq⟩ <;> rw [heq] <;> simp

/-- At most one thing is said of a use. -/
theorem length_reactiveUse_le (d : Document) (c : ReactiveContext) (v : ReactiveVariable)
    (use : Node) : (d.reactiveUse c v use).length ≤ 1 := by
  rw [reactiveUse]
  split_ifs
  · exact le_rfl
  · exact Nat.zero_le 1
  · cases v.kind with
    | signal =>
        dsimp only
        rw [signalUse]
        split
        · exact d.length_lostRead_le ..
        · split
          · exact d.length_lostRead_le ..
          · exact Nat.zero_le 1
    | props =>
        dsimp only
        rw [propsUse]
        split
        · exact Nat.zero_le 1
        · split_ifs
          · exact Nat.zero_le 1
          · exact d.length_lostRead_le ..
          · exact le_rfl
          · exact Nat.zero_le 1

/-- The remarks of the rule are those that are made before uses are looked at, and then those on each
use of each variable. -/
theorem reactivity_eq (d : Document) (options : ReactivityOptions) :
    d.reactivity options = d.uncalledAccessors ++ d.asynchronousScopes ++
      (d.reactiveVariables d.synchronousFunctions).flatMap fun v =>
        (d.usesOf v).flatMap (d.remarksOnUse options v) := by
  rw [reactivity]
  cases hdeclared : d.reactiveVariables d.synchronousFunctions with
  | nil => rfl
  | cons v vs => rfl

/-- The uses of a variable are the other nodes of its name below its owner that stand for it. -/
theorem KeysApart.mem_usesOf (hd : d.KeysApart)
    (hname : v.name ∈ d.root.nodes) (howner : v.owner ∈ d.root.nodes)
    (hbelow : use ∈ v.owner.nodes) (hkind : use.kind = "identifier") (hne : use ≠ v.name)
    (htext : d.text use = d.text v.name) (hresolve : d.resolve? use = some v.declaration) :
    use ∈ d.usesOf v := by
  have hother : use.same v.name = false :=
    Bool.eq_false_iff.mpr (mt (hd.eq_of_same (mem_of_mem_nodes howner hbelow) hname) hne)
  have hdeclared : v.declaration.same v.declaration = true := beq_iff_eq.mpr rfl
  rw [usesOf, List.mem_filter]
  refine ⟨List.mem_filter.mpr ⟨hbelow, Node.isOneOf_iff.mpr (List.mem_singleton.mpr hkind)⟩, ?_⟩
  rw [htext, hresolve, hother, Option.any_some, hdeclared, beq_self_eq_true]
  rfl

theorem KeysApart.nodup_usesOf (hd : d.KeysApart) (howner : v.owner ∈ d.root.nodes) :
    (d.usesOf v).Nodup :=
  ((List.Nodup.of_map Node.key hd).sublist (Node.nodes_sublist_of_mem_nodes howner)).filter _
    |>.filter _

/-- What the rule says of uses it says of each use of each variable, one after the other.  An
assignment is reported wherever it stands.  Any other use is passed over in a function other than
that of the variable, and passed over as well where an expression of that function notices it.  Of
no use more than one thing is said. -/
theorem KeysApart.reactivity_of_uses (hd : d.KeysApart) (options : ReactivityOptions) :
    d.reactivity options = d.uncalledAccessors ++ d.asynchronousScopes ++
        (d.reactiveVariables d.synchronousFunctions).flatMap (fun v =>
          (d.usesOf v).flatMap (d.remarksOnUse options v)) ∧
      ∀ v ∈ d.reactiveVariables d.synchronousFunctions, (d.usesOf v).Nodup ∧
        ∀ use ∈ v.owner.nodes, use.kind = "identifier" → use ≠ v.name →
          d.text use = d.text v.name → d.resolve? use = some v.declaration →
          use ∈ d.usesOf v ∧
            (d.Alters v use →
              d.remarksOnUse options v use = [d.remark use (reactiveWrite (d.text v.name))]) ∧
            (¬ d.Alters v use → d.ownerOf d.synchronousFunctions use ≠ v.owner →
              d.remarksOnUse options v use = []) ∧
            (¬ d.Alters v use →
              (v.kind = .signal ∨ ∃ p ∈ d.root.nodes, p.kind ∈ Node.accessKinds ∧
                p.operand? "object" = some use) →
              d.IsNoticed options v.owner use → d.remarksOnUse options v use = []) ∧
            (d.remarksOnUse options v use).length ≤ 1 := by
  refine ⟨d.reactivity_eq options, fun v hv => ?_⟩
  have howner := owner_mem hv
  refine ⟨hd.nodup_usesOf howner, fun use hbelow hkind hne htext hresolve => ?_⟩
  have huse := mem_of_mem_nodes howner hbelow
  have hwrite := hd.isReactiveWrite_iff (v := v) huse
  refine ⟨hd.mem_usesOf (name_mem hv) howner hbelow hkind hne htext hresolve, fun halters => ?_,
    fun halters hforeign => ?_, fun halters hread hnoticed => ?_, d.length_reactiveUse_le ..⟩
  · rw [remarksOnUse, reactiveUse, if_pos (hwrite.mpr halters)]
  · have hother : (d.ownerOf d.synchronousFunctions use).same v.owner = false :=
      Bool.eq_false_iff.mpr (mt (hd.eq_of_same (ownerOf_mem huse) howner) hforeign)
    rw [remarksOnUse, reactiveUse, if_neg (mt hwrite.mp halters), if_pos]
    rw [reactiveContext, hother]
    rfl
  · rw [remarksOnUse, reactiveUse, if_neg (mt hwrite.mp halters)]
    split
    · rfl
    · cases hvkind : v.kind with
      | signal => exact signalUse_of_isNoticed hnoticed
      | props =>
          obtain ⟨p, hp, haccess, hobject⟩ := hread.resolve_left (by rw [hvkind]; decide)
          exact propsUse_of_isNoticed (climb?_of_object haccess hobject)
            ((hd.isAccessedBy_iff huse hp).mpr ⟨haccess, hobject⟩) hnoticed

/-- A member of properties is assigned to in a function below the one that the properties belong
to. -/
def reassigning : Document :=
  ⟨"a.ts", .ofString "function A(props) \x7b return () => \x7b props.a = 1; \x7d; \x7d",
    .node ⟨"program", true, false, none, 0, 52⟩ [
      .node ⟨"function_declaration", true, false, none, 0, 52⟩ [
        .node ⟨"function", false, false, none, 0, 8⟩ [],
        .node ⟨"identifier", true, false, some "name", 9, 10⟩ [],
        .node ⟨"formal_parameters", true, false, some "parameters", 10, 17⟩ [
          .node ⟨"(", false, false, none, 10, 11⟩ [],
          .node ⟨"required_parameter", true, false, none, 11, 16⟩ [
            .node ⟨"identifier", true, false, some "pattern", 11, 16⟩ []],
          .node ⟨")", false, false, none, 16, 17⟩ []],
        .node ⟨"statement_block", true, false, some "body", 18, 52⟩ [
          .node ⟨"\x7b", false, false, none, 18, 19⟩ [],
          .node ⟨"return_statement", true, false, none, 20, 50⟩ [
            .node ⟨"return", false, false, none, 20, 26⟩ [],
            .node ⟨"arrow_function", true, false, none, 27, 49⟩ [
              .node ⟨"formal_parameters", true, false, some "parameters", 27, 29⟩ [
                .node ⟨"(", false, false, none, 27, 28⟩ [],
                .node ⟨")", false, false, none, 28, 29⟩ []],
              .node ⟨"=>", false, false, none, 30, 32⟩ [],
              .node ⟨"statement_block", true, false, some "body", 33, 49⟩ [
                .node ⟨"\x7b", false, false, none, 33, 34⟩ [],
                .node ⟨"expression_statement", true, false, none, 35, 47⟩ [
                  .node ⟨"assignment_expression", true, false, none, 35, 46⟩ [
                    .node ⟨"member_expression", true, false, some "left", 35, 42⟩ [
                      .node ⟨"identifier", true, false, some "object", 35, 40⟩ [],
                      .node ⟨".", false, false, none, 40, 41⟩ [],
                      .node ⟨"property_identifier", true, false, some "property", 41, 42⟩ []],
                    .node ⟨"=", false, false, none, 43, 44⟩ [],
                    .node ⟨"number", true, false, some "right", 45, 46⟩ []],
                  .node ⟨";", false, false, none, 46, 47⟩ []],
                .node ⟨"\x7d", false, false, none, 48, 49⟩ []]],
            .node ⟨";", false, false, none, 49, 50⟩ []],
          .node ⟨"\x7d", false, false, none, 51, 52⟩ []]]]⟩

/-- The assignment is another function's, and is reported all the same. -/
theorem reactivity_of_uses_reassigning :
    reassigning.KeysApart ∧
      ∃ v ∈ reassigning.reactiveVariables reassigning.synchronousFunctions,
        ∃ use ∈ reassigning.usesOf v,
          reassigning.ownerOf reassigning.synchronousFunctions use ≠ v.owner ∧
            reassigning.Alters v use ∧
            reassigning.remarksOnUse {} v use = [reassigning.remark use (reactiveWrite "props")] := by
  have hd : reassigning.KeysApart := by
    rw [KeysApart]
    decide +kernel
  obtain ⟨v, hv, use, hbelow, hkind, hne, htext, hresolve, hforeign, hwrite, hname⟩ :
      ∃ v ∈ reassigning.reactiveVariables reassigning.synchronousFunctions,
        ∃ use ∈ v.owner.nodes, use.kind = "identifier" ∧ use ≠ v.name ∧
          reassigning.text use = reassigning.text v.name ∧
          reassigning.resolve? use = some v.declaration ∧
          reassigning.ownerOf reassigning.synchronousFunctions use ≠ v.owner ∧
          isReactiveWrite v use = true ∧ reassigning.text v.name = "props" := by
    decide +kernel
  obtain ⟨_, hscoping⟩ := (hd.reactivity_of_uses {}).2 v hv
  obtain ⟨huse, hwritten, _⟩ := hscoping use hbelow hkind hne htext hresolve
  have halters := (hd.isReactiveWrite_iff (mem_of_mem_nodes (owner_mem hv) hbelow)).mp hwrite
  exact ⟨hd, v, hv, use, huse, hforeign, halters, hname ▸ hwritten halters⟩

end Document

end CodeConventions
