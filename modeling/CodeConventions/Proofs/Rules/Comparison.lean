import CodeConventions.Proofs.Except
import CodeConventions.Proofs.Tree.Climb
import CodeConventions.Rules.Check

/-!
# Names that rules compare with patterns

Four rules take patterns in their options (`patternRules`).  The options are lists of texts, and any
text will do: whether it is a pattern turns out when the rule comes to compare a name with it.  A
comparison *stumbles* over a text that is no pattern if none of the patterns before it is found in
the name (`Stumbles`).

Such a rule compares certain names with the patterns of its options (`Check.comparisons`), and
crashes of nothing else, as long as the declarations in the tree have their names
(`Check.compares`).

## Strategy

A run compares a list of names: no crash has another cause than one of the comparisons, and any
comparison that stumbles makes it crash (`Compares`).  Runs are put together from others, and the
lists are put together alike; so each function of a rule has one lemma, by the steps it is made of.
-/

namespace CodeConventions

/-- The rules with patterns in their options. -/
def patternRules : List String :=
  ["functional/no-let", "functional/immutable-data", "functional/prefer-immutable-types",
    "functional/type-declaration-immutability"]

/-- The patterns in the options of a check. -/
def Check.patterns : Check → List String
  | .reassignableBindings options => options.ignoreIdentifierPattern
  | .changesToConstants options => options.ignoreIdentifierPattern
  | .writtenTypes options =>
    options.parameters.ignoreNamePattern ++ options.returnTypes.ignoreNamePattern ++
      options.variableTypes.ignoreNamePattern
  | .declaredTypes options => options.identifiers
  | _ => []

/-- A name that is compared with patterns. -/
structure Comparison where
  patterns : List String
  name : String

/-- The comparisons of some names with the same patterns. -/
def withPatterns (patterns names : List String) : List Comparison :=
  names.map fun name => ⟨patterns, name⟩

/-- The comparison comes to a text that is no pattern: the patterns before it are not found in the
name. -/
inductive Stumbles (name : String) : List String → PatternError → Prop
  | here {p : String} {rest : List String} {reason : PatternError}
      (hread : Pattern.read p = .error reason) : Stumbles name (p :: rest) reason
  | later {p : String} {rest : List String} {reason : PatternError} {pattern : Pattern}
      (hread : Pattern.read p = .ok pattern) (hnot : pattern.foundIn name = false)
      (hrest : Stumbles name rest reason) : Stumbles name (p :: rest) reason

/-- One of the comparisons stumbles for a reason. -/
def StumblesIn (xs : List Comparison) (reason : PatternError) : Prop :=
  ∃ x ∈ xs, Stumbles x.name x.patterns reason

variable {α β : Type} {name : String} {patterns : List String} {reason : PatternError}
  {crash : Crash} {xs ys : List Comparison}

theorem stumblesIn_append :
    StumblesIn (xs ++ ys) reason ↔ StumblesIn xs reason ∨ StumblesIn ys reason := by
  simp only [StumblesIn, List.mem_append, or_and_right, exists_or]

theorem not_stumblesIn_nil : ¬ StumblesIn [] reason := fun ⟨_, hx, _⟩ => List.not_mem_nil hx

theorem matchesAny_eq_error_iff : matchesAny patterns name = .error crash ↔
    ∃ reason, Stumbles name patterns reason ∧ crash = .badPattern reason := by
  induction patterns with
  | nil =>
      refine iff_of_false (fun h => nomatch h) ?_
      rintro ⟨_, ⟨⟩, _⟩
  | cons p rest ih =>
      rw [matchesAny]
      cases hread : Pattern.read p with
      | error reason =>
          constructor
          · intro h
            exact ⟨reason, .here hread, (Except.error.inj h).symm⟩
          · rintro ⟨other, hstumbles, rfl⟩
            cases hstumbles with
            | here hother => rw [Except.error.inj (hread.symm.trans hother)]
            | later hother _ _ => cases hread.symm.trans hother
      | ok pattern =>
          dsimp only
          cases hfound : pattern.foundIn name with
          | true =>
              refine iff_of_false (fun h => nomatch h) ?_
              rintro ⟨other, hstumbles, _⟩
              cases hstumbles with
              | here hother => cases hread.symm.trans hother
              | later hother hnot _ =>
                  rw [← Except.ok.inj (hread.symm.trans hother), hfound] at hnot
                  cases hnot
          | false =>
              rw [if_neg Bool.false_ne_true, ih]
              refine exists_congr fun other => and_congr_left fun _ => ⟨.later hread hfound, ?_⟩
              intro hstumbles
              cases hstumbles with
              | here hother => cases hread.symm.trans hother
              | later _ _ hrest => exact hrest

/-- A run compares names with patterns: it crashes exactly if a comparison stumbles, and of that. -/
structure Compares (run : Except Crash α) (xs : List Comparison) : Prop where
  cause : ∀ crash, run = .error crash → ∃ reason, StumblesIn xs reason ∧ crash = .badPattern reason
  crashes : ∀ reason, StumblesIn xs reason → ∃ crash, run = .error crash

namespace Compares

variable {run : Except Crash α} {f : α → Except Crash β}

theorem ok (a : α) : Compares (.ok a) [] where
  cause _ h := nomatch h
  crashes _ h := absurd h not_stumblesIn_nil

theorem matchesAny (patterns : List String) (name : String) :
    Compares (CodeConventions.matchesAny patterns name) [⟨patterns, name⟩] where
  cause crash h := by
    obtain ⟨reason, hstumbles, hcrash⟩ := matchesAny_eq_error_iff.mp h
    exact ⟨reason, ⟨_, List.mem_singleton_self _, hstumbles⟩, hcrash⟩
  crashes reason h := by
    obtain ⟨x, hx, hstumbles⟩ := h
    obtain rfl := List.mem_singleton.mp hx
    exact ⟨_, matchesAny_eq_error_iff.mpr ⟨reason, hstumbles, rfl⟩⟩

theorem bind (h : Compares run xs) (hf : ∀ a, Compares (f a) ys) :
    Compares (run >>= f) (xs ++ ys) where
  cause crash hcrash := by
    rcases Except.bind_eq_error_iff.mp hcrash with hrun | ⟨a, _, ha⟩
    · obtain ⟨reason, hstumbles, heq⟩ := h.cause crash hrun
      exact ⟨reason, stumblesIn_append.mpr (.inl hstumbles), heq⟩
    · obtain ⟨reason, hstumbles, heq⟩ := (hf a).cause crash ha
      exact ⟨reason, stumblesIn_append.mpr (.inr hstumbles), heq⟩
  crashes reason hstumbles := by
    cases run with
    | error crash => exact ⟨crash, rfl⟩
    | ok a =>
        rcases stumblesIn_append.mp hstumbles with hstumbles | hstumbles
        · obtain ⟨crash, hcrash⟩ := h.crashes reason hstumbles
          cases hcrash
        · exact (hf a).crashes reason hstumbles

theorem map (h : Compares run xs) (g : α → β) : Compares (run.map g) xs where
  cause crash hcrash := h.cause crash (Except.map_eq_error_iff.mp hcrash)
  crashes reason hstumbles := by
    obtain ⟨crash, hcrash⟩ := h.crashes reason hstumbles
    exact ⟨crash, Except.map_eq_error_iff.mpr hcrash⟩

theorem remarksFor {as : List α} {f : α → Remarks} {g : α → List Comparison}
    (h : ∀ a ∈ as, Compares (f a) (g a)) :
    Compares (CodeConventions.remarksFor as f) (as.flatMap g) := by
  induction as with
  | nil => exact ok []
  | cons a as ih =>
      have hrest := ih fun b hb => h b (List.mem_cons_of_mem a hb)
      have hbind := (h a List.mem_cons_self).bind fun found => hrest.map (found ++ ·)
      rw [List.flatMap_cons]
      convert hbind using 1
      rw [CodeConventions.remarksFor]
      cases f a with
      | error crash => rfl
      | ok found => cases CodeConventions.remarksFor as f <;> rfl

/-- A run has a result exactly if no comparison stumbles. -/
theorem exists_ok_iff (h : Compares run xs) :
    (∃ a, run = .ok a) ↔ ∀ reason, ¬ StumblesIn xs reason := by
  constructor
  · rintro ⟨a, rfl⟩ reason hstumbles
    obtain ⟨crash, hcrash⟩ := h.crashes reason hstumbles
    cases hcrash
  · intro hnone
    cases hrun : run with
    | ok a => exact ⟨a, rfl⟩
    | error crash =>
        obtain ⟨reason, hstumbles, _⟩ := h.cause crash hrun
        exact absurd hstumbles (hnone reason)

/-- One run after the other, neither of which depends on the other one. -/
theorem both {first second : Remarks} (hfirst : Compares first xs) (hsecond : Compares second ys) :
    Compares (first >>= fun found => second.map (found ++ ·)) (xs ++ ys) :=
  hfirst.bind fun _ => hsecond.map _

end Compares

/-- The kinds of nodes that declare a name with a part of that role. -/
def namedKinds : List String :=
  ["variable_declarator", "type_alias_declaration", "interface_declaration"]

namespace Document

variable {d : Document} {n : Node}

/-! ## Bindings -/

/-- The names that are compared in a statement that declares variables. -/
def declaredNames (d : Document) (options : ReassignableOptions) (statement : Node) : List String :=
  if !reassignableKeywords.contains (d.declaringKeyword statement) then []
  else if options.allowInForLoopInit && isForInitializer statement then []
  else statement.declarators.map fun v => d.text? (v.child? "name")

/-- The name that is compared in the head of a loop. -/
def headNames (d : Document) (options : ReassignableOptions) (loop : Node) : List String :=
  if !(d.headKeyword? loop).any reassignableKeywords.contains || options.allowInForLoopInit then []
  else ((loop.child? "left").map d.text).toList

theorem compares_reassignable {options : ReassignableOptions} {keyword : String}
    {name : Option Node} (hname : name.isSome = true) :
    Compares (d.reassignable options keyword name)
      [⟨options.ignoreIdentifierPattern, d.text? name⟩] := by
  obtain ⟨n, rfl⟩ := Option.isSome_iff_exists.mp hname
  have hcompares := (Compares.matchesAny options.ignoreIdentifierPattern (d.text? (some n))).map
    fun ignored =>
      if ignored then [] else [d.remark n s!"Unexpected {keyword}, use const instead."]
  convert hcompares using 1
  rw [reassignable]
  cases matchesAny options.ignoreIdentifierPattern (d.text? (some n)) with
  | error crash => rfl
  | ok ignored => cases ignored <;> rfl

/-- The names of declarations are in the tree. -/
def DeclarationsNamed (d : Document) : Prop :=
  ∀ n ∈ d.root.nodes, n.kind ∈ namedKinds → (n.child? "name").isSome = true

instance (d : Document) : Decidable d.DeclarationsNamed :=
  inferInstanceAs (Decidable (∀ n ∈ d.root.nodes, n.kind ∈ namedKinds → _ = true))

theorem compares_reassignableInStatement {options : ReassignableOptions} {statement : Node}
    (hd : d.DeclarationsNamed) (hmem : statement ∈ d.root.nodes) :
    Compares (d.reassignableInStatement options statement)
      (withPatterns options.ignoreIdentifierPattern (d.declaredNames options statement)) := by
  rw [reassignableInStatement, declaredNames]
  split
  · exact .ok []
  split
  · exact .ok []
  rw [withPatterns, List.map_map, List.map_eq_flatMap]
  refine .remarksFor fun v hv => compares_reassignable ?_
  obtain ⟨hpart, hkind⟩ := List.mem_filter.mp hv
  refine hd v (mem_of_mem_parts hmem hpart) ?_
  rw [beq_iff_eq.mp hkind]
  decide

theorem compares_reassignableInHead {options : ReassignableOptions} {loop : Node} :
    Compares (d.reassignableInHead options loop)
      (withPatterns options.ignoreIdentifierPattern (d.headNames options loop)) := by
  rw [reassignableInHead, headNames]
  cases d.headKeyword? loop with
  | none => exact .ok []
  | some keyword =>
      cases loop.child? "left" with
      | none =>
          dsimp only [Option.map_none, Option.toList_none]
          rw [ite_self]
          exact .ok []
      | some left =>
          dsimp only [Option.any_some]
          split
          · exact .ok []
          · exact compares_reassignable (show (some left).isSome = true from rfl)

theorem compares_reassignableBindings {options : ReassignableOptions}
    (hd : d.DeclarationsNamed) : Compares (d.reassignableBindings options)
      (withPatterns options.ignoreIdentifierPattern
        ((d.find variableStatementKinds).flatMap (d.declaredNames options) ++
          (d.find ["for_in_statement"]).flatMap (d.headNames options))) := by
  rw [withPatterns, List.map_append, List.map_flatMap, List.map_flatMap]
  have hstatements : Compares
      (remarksFor (d.find variableStatementKinds) (d.reassignableInStatement options)) _ :=
    .remarksFor fun s hs => compares_reassignableInStatement hd (mem_of_mem_find hs).1
  have hheads : Compares
      (remarksFor (d.find ["for_in_statement"]) (d.reassignableInHead options)) _ :=
    .remarksFor fun _ _ => compares_reassignableInHead
  rw [reassignableBindings_eq_bind]
  exact hstatements.both hheads

/-! ## Changes to constants -/

/-- The name at the base of what is changed. -/
def baseName (d : Document) (target : Option Node) : List String :=
  ((target.bind Node.rootIdentifier?).map d.text).toList

theorem baseName_none : d.baseName none = [] := rfl

/-- The names that are compared for an expression that may change a member. -/
def changedNames (d : Document) (options : MutationOptions) (n : Node) : List String :=
  if options.ignoreClasses && n.isInsideClass then []
  else d.baseName ((d.changeTarget? n).filter fun t => t.isOneOf Node.accessKinds)

/-- What a call may change: the first argument of `Object.assign`, or the receiver of a method. -/
def calledTarget? (d : Document) (call : Node) : Option Node :=
  call.callee?.bind fun callee =>
    if d.memberPath? callee = some "Object.assign" then
      (call.arguments.head?.map Node.unwrap).filter fun t =>
        t.isOneOf ["identifier", "member_expression"]
    else if callee.kind = "member_expression" then callee.operand? "object"
    else none

/-- The names that are compared for a call. -/
def calledNames (d : Document) (options : MutationOptions) (call : Node) : List String :=
  if options.ignoreClasses && call.isInsideClass then []
  else d.baseName (d.calledTarget? call)

theorem compares_changedConstant? {options : MutationOptions} {target : Option Node} :
    Compares (d.changedConstant? options target)
      (withPatterns options.ignoreIdentifierPattern (d.baseName target)) := by
  rw [changedConstant?, baseName]
  cases target.bind Node.rootIdentifier? with
  | none => exact .ok none
  | some root => exact (Compares.matchesAny _ _).map _

theorem compares_memberChanges {options : MutationOptions} :
    Compares (d.memberChanges options n)
      (withPatterns options.ignoreIdentifierPattern (d.changedNames options n)) := by
  rw [memberChanges, changedNames]
  cases htarget : d.changeTarget? n with
  | none =>
      rw [Option.filter_none, baseName_none, ite_self]
      exact .ok []
  | some target =>
      cases haccess : target.isOneOf Node.accessKinds with
      | false =>
          rw [Option.filter_some, haccess, if_neg Bool.false_ne_true, baseName_none, ite_self]
          dsimp only
          rw [haccess]
          exact .ok []
      | true =>
          rw [Option.filter_some, haccess, if_pos rfl]
          dsimp only
          rw [haccess, Bool.not_true, Bool.false_or]
          split
          · exact .ok []
          · exact compares_changedConstant?.map _

theorem compares_assignedInto {options : MutationOptions} {call : Node} :
    Compares (d.assignedInto options call)
      (withPatterns options.ignoreIdentifierPattern
        (d.baseName ((call.arguments.head?.map Node.unwrap).filter fun t =>
          t.isOneOf ["identifier", "member_expression"]))) := by
  rw [assignedInto]
  cases call.arguments.head?.map Node.unwrap with
  | none => exact .ok []
  | some target =>
      dsimp only
      rw [Option.filter_some]
      split
      · exact compares_changedConstant?.map _
      · exact .ok []

theorem compares_callChanges {options : MutationOptions} {call : Node} :
    Compares (d.callChanges options call)
      (withPatterns options.ignoreIdentifierPattern (d.calledNames options call)) := by
  rw [callChanges, calledNames, calledTarget?]
  cases call.callee? with
  | none =>
      rw [Option.bind_none, baseName_none, ite_self]
      exact .ok []
  | some callee =>
      rw [Option.bind_some]
      dsimp only
      split
      · exact .ok []
      split
      · exact compares_assignedInto
      split
      · exact compares_changedConstant?.map _
      · exact .ok []

theorem compares_changesToConstants {options : MutationOptions} :
    Compares (d.changesToConstants options)
      (withPatterns options.ignoreIdentifierPattern
        ((d.find changingKinds).flatMap (d.changedNames options) ++
          (d.find ["call_expression"]).flatMap (d.calledNames options))) := by
  rw [withPatterns, List.map_append, List.map_flatMap, List.map_flatMap]
  have hmembers : Compares (remarksFor (d.find changingKinds) (d.memberChanges options)) _ :=
    .remarksFor fun _ _ => compares_memberChanges
  have hcalls : Compares (remarksFor (d.find ["call_expression"]) (d.callChanges options)) _ :=
    .remarksFor fun _ _ => compares_callChanges
  have hrun : d.changesToConstants options =
      remarksFor (d.find changingKinds) (d.memberChanges options) >>= fun found =>
        (remarksFor (d.find ["call_expression"]) (d.callChanges options)).map (found ++ ·) := by
    rw [changesToConstants]
    cases remarksFor (d.find changingKinds) _ <;> rfl
  exact hrun ▸ hmembers.both hcalls

/-! ## Types -/

/-- The comparison of the name of something with a type, unless such types are not judged. -/
def typeComparisons (options : TypeFamilyOptions) (name : Option String) : List Comparison :=
  if options.enforcement = .off then [] else withPatterns options.ignoreNamePattern name.toList

/-- The name in a role of a node with an annotation. -/
def roleName (d : Document) (role : String) (n : Node) : Option String :=
  (Node.plainName? (n.child? role)).map d.text

theorem compares_writtenType {options : TypeFamilyOptions} {type : Option Node}
    {name : Option String} {message : String} :
    Compares (d.writtenType options n type name message) (typeComparisons options name) := by
  unfold writtenType typeComparisons
  split
  · exact .ok []
  · cases name with
    | none => exact (Compares.ok false).map _
    | some s => exact (Compares.matchesAny _ _).map _

/-- The comparison for what a function returns. -/
def returnComparisons (d : Document) (options : WrittenTypeOptions) (fn : Node) :
    List Comparison :=
  if (fn.child? "return_type").isSome && (fn.typeIn? "return_type").isSome then
    typeComparisons options.returnTypes (d.functionName? fn)
  else []

/-- The comparisons for the types of a function. -/
def functionComparisons (d : Document) (options : WrittenTypeOptions) (fn : Node) :
    List Comparison :=
  fn.writtenParameters.flatMap (fun p => typeComparisons options.parameters (d.roleName "pattern" p))
    ++ d.returnComparisons options fn

theorem compares_functionTypes {options : WrittenTypeOptions} {fn : Node} :
    Compares (d.functionTypes options fn) (d.functionComparisons options fn) := by
  have hparameters : Compares (remarksFor fn.writtenParameters
      (d.annotated options.parameters "pattern" "Parameter should be a readonly type.")) _ :=
    .remarksFor fun _ _ => compares_writtenType
  have hrest : ∃ rest : List Remark → Remarks,
      (∀ found, Compares (rest found) (d.returnComparisons options fn)) ∧
        d.functionTypes options fn = remarksFor fn.writtenParameters
          (d.annotated options.parameters "pattern" "Parameter should be a readonly type.") >>=
            rest := by
    unfold functionTypes returnComparisons
    dsimp only
    cases fn.child? "return_type" with
    | none => exact ⟨.ok, .ok, by cases remarksFor fn.writtenParameters _ <;> rfl⟩
    | some written =>
        cases fn.typeIn? "return_type" with
        | none => exact ⟨.ok, .ok, by cases remarksFor fn.writtenParameters _ <;> rfl⟩
        | some type =>
            exact ⟨_, fun _ => compares_writtenType.map _,
              by cases remarksFor fn.writtenParameters _ <;> rfl⟩
  obtain ⟨rest, hrest, hrun⟩ := hrest
  exact hrun ▸ hparameters.bind hrest

/-- The comparisons of the names of nodes of a kind. -/
def kindComparisons (d : Document) (options : TypeFamilyOptions) (kind : String) :
    List Comparison :=
  (d.find [kind]).flatMap fun n => typeComparisons options (d.roleName "name" n)

theorem compares_writtenTypes {options : WrittenTypeOptions} :
    Compares (d.writtenTypes options)
      ((d.find typedFunctionKinds).flatMap (d.functionComparisons options) ++
        (d.kindComparisons options.variableTypes "variable_declarator" ++
          d.kindComparisons options.variableTypes "property_signature")) := by
  have hannotated : ∀ kind message, Compares
      (remarksFor (d.find [kind]) (d.annotated options.variableTypes "name" message))
      (d.kindComparisons options.variableTypes kind) := fun kind message =>
    .remarksFor fun _ _ => compares_writtenType
  have hfunctions : Compares (remarksFor (d.find typedFunctionKinds) (d.functionTypes options)) _ :=
    .remarksFor fun _ _ => compares_functionTypes
  exact hfunctions.bind fun _ => (hannotated _ _).bind fun _ => (hannotated _ _).map _

/-- The comparison for the declaration of a type. -/
def declaredComparisons (d : Document) (options : DeclaredTypeOptions) (declaration : Node) :
    List Comparison :=
  if options.ignoreInterfaces && declaration.kind == "interface_declaration" then []
  else [⟨options.identifiers, d.text? (declaration.child? "name")⟩]

theorem compares_declaredType {options : DeclaredTypeOptions} {declaration : Node}
    (hname : (declaration.child? "name").isSome = true) :
    Compares (d.declaredType options declaration) (d.declaredComparisons options declaration) := by
  obtain ⟨n, hn⟩ := Option.isSome_iff_exists.mp hname
  unfold declaredType declaredComparisons
  split
  · exact .ok []
  rw [hn]
  dsimp only
  -- with a name, only the comparison can crash
  generalize ((declaredShape? declaration).bind d.permitsChange?).bind
    (declaredTypeFault? (d.text? (some n))) = message
  have hcompares := (Compares.matchesAny options.identifiers (d.text? (some n))).map fun ignored =>
    if ignored then [] else (message.map (d.remark n)).toList
  convert hcompares using 1
  cases matchesAny options.identifiers (d.text? (some n)) with
  | error crash => rfl
  | ok ignored =>
      cases ignored with
      | true => rfl
      | false => cases message <;> rfl

theorem compares_declaredTypes {options : DeclaredTypeOptions} (hd : d.DeclarationsNamed) :
    Compares (d.declaredTypes options)
      ((d.find typeDeclarationKinds).flatMap (d.declaredComparisons options)) := by
  refine .remarksFor fun declaration hdeclaration => compares_declaredType ?_
  obtain ⟨hmem, hkind⟩ := mem_of_mem_find hdeclaration
  exact hd declaration hmem (List.mem_cons_of_mem _ hkind)

end Document

variable {d : Document} {c : Check}

/-- The names that a check compares with the patterns of its options. -/
def Check.comparisons (d : Document) : Check → List Comparison
  | .reassignableBindings o => withPatterns o.ignoreIdentifierPattern
      ((d.find variableStatementKinds).flatMap (d.declaredNames o) ++
        (d.find ["for_in_statement"]).flatMap (d.headNames o))
  | .changesToConstants o => withPatterns o.ignoreIdentifierPattern
      ((d.find changingKinds).flatMap (d.changedNames o) ++
        (d.find ["call_expression"]).flatMap (d.calledNames o))
  | .writtenTypes o =>
      (d.find Document.typedFunctionKinds).flatMap (d.functionComparisons o) ++
        (d.kindComparisons o.variableTypes "variable_declarator" ++
          d.kindComparisons o.variableTypes "property_signature")
  | .declaredTypes o => (d.find typeDeclarationKinds).flatMap (d.declaredComparisons o)
  | _ => []

theorem Check.compares (hd : d.DeclarationsNamed) (hc : c.info.id ∈ patternRules) :
    Compares (c.remarks d) (c.comparisons d) := by
  cases c with
  | reassignableBindings options => exact Document.compares_reassignableBindings hd
  | changesToConstants options => exact Document.compares_changesToConstants
  | writtenTypes options => exact Document.compares_writtenTypes
  | declaredTypes options => exact Document.compares_declaredTypes hd
  | _ => simp [Check.info, patternRules] at hc

theorem Stumbles.exists_mem (h : Stumbles name patterns reason) :
    ∃ p ∈ patterns, Pattern.read p = .error reason := by
  induction h with
  | here hread => exact ⟨_, List.mem_cons_self, hread⟩
  | later _ _ _ ih =>
      obtain ⟨p, hp, hread⟩ := ih
      exact ⟨p, List.mem_cons_of_mem _ hp, hread⟩

theorem patterns_subset_of_mem_withPatterns {names : List String} {x : Comparison}
    (hx : x ∈ withPatterns patterns names) : x.patterns ⊆ patterns := by
  obtain ⟨name, _, rfl⟩ := List.mem_map.mp hx
  exact List.Subset.refl patterns

theorem Document.patterns_subset_of_mem_typeComparisons {options : TypeFamilyOptions}
    {name : Option String} {x : Comparison} (hx : x ∈ typeComparisons options name) :
    x.patterns ⊆ options.ignoreNamePattern := by
  unfold typeComparisons at hx
  split at hx
  · exact absurd hx List.not_mem_nil
  · exact patterns_subset_of_mem_withPatterns hx

/-- The names are compared with patterns of the options. -/
theorem Check.patterns_subset {x : Comparison} (hx : x ∈ c.comparisons d) :
    x.patterns ⊆ c.patterns := by
  cases c with
  | reassignableBindings options => exact patterns_subset_of_mem_withPatterns hx
  | changesToConstants options => exact patterns_subset_of_mem_withPatterns hx
  | writtenTypes options =>
      have hkind : ∀ kind, x ∈ d.kindComparisons options.variableTypes kind →
          x.patterns ⊆ options.variableTypes.ignoreNamePattern := fun kind hx => by
        obtain ⟨n, _, hx⟩ := List.mem_flatMap.mp hx
        exact Document.patterns_subset_of_mem_typeComparisons hx
      intro p hp
      rw [Check.patterns, List.append_assoc, List.mem_append, List.mem_append]
      rcases List.mem_append.mp hx with hx | hx
      · obtain ⟨fn, _, hx⟩ := List.mem_flatMap.mp hx
        rcases List.mem_append.mp hx with hx | hx
        · obtain ⟨parameter, _, hx⟩ := List.mem_flatMap.mp hx
          exact .inl (Document.patterns_subset_of_mem_typeComparisons hx hp)
        · unfold Document.returnComparisons at hx
          split at hx
          · exact .inr (.inl (Document.patterns_subset_of_mem_typeComparisons hx hp))
          · exact absurd hx List.not_mem_nil
      · rcases List.mem_append.mp hx with hx | hx
        · exact .inr (.inr (hkind _ hx hp))
        · exact .inr (.inr (hkind _ hx hp))
  | declaredTypes options =>
      obtain ⟨declaration, _, hx⟩ := List.mem_flatMap.mp hx
      unfold Document.declaredComparisons at hx
      split at hx
      · exact absurd hx List.not_mem_nil
      · obtain rfl := List.mem_singleton.mp hx
        exact List.Subset.refl _
  | _ => exact absurd hx List.not_mem_nil

/-- Where all texts of the options are patterns, no comparison stumbles. -/
theorem Check.not_stumblesIn_of_read
    (hread : ∀ p ∈ c.patterns, ∃ pattern, Pattern.read p = .ok pattern) (reason : PatternError) :
    ¬ StumblesIn (c.comparisons d) reason := by
  rintro ⟨x, hx, hstumbles⟩
  obtain ⟨p, hp, hreason⟩ := hstumbles.exists_mem
  obtain ⟨pattern, hpattern⟩ := hread p (Check.patterns_subset hx hp)
  cases hreason.symm.trans hpattern

end CodeConventions
