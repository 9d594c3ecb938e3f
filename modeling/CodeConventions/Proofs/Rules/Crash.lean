import CodeConventions.Proofs.Analysis.Fault
import CodeConventions.Proofs.Rules.Builtin
import CodeConventions.Proofs.Rules.Comparison
import CodeConventions.Proofs.Tree.Attribute

/-!
# What checks crash of

A check that cannot finish crashes.  Whatever it crashes of has a cause outside of the check, and
`Check.cause_of_crash` lists the causes: a pattern in the options that is none, a part that the
grammar asks for and the tree does not have, a number that is too long to be shown, and an attribute
for the children of an element that goes by another spelling.

## Strategy

A crash is followed down, never up.  The remarks about several things crash only of one of them.  So
each rule on attributes has one lemma that says of which node it crashed and what that node lacks.
The rules that compare names with patterns have one lemma together, and the rules that return plain
remarks have nothing to show.

From the list of causes a rule is seen to finish by taking the causes away, one by one: on a tree
with the parts that the grammar asks for, a rule without patterns has findings.
-/

namespace CodeConventions

theorem exists_of_remarksFor_eq_error {α : Type} {xs : List α} {f : α → Remarks} {crash : Crash}
    (h : remarksFor xs f = .error crash) : ∃ x ∈ xs, f x = .error crash := by
  induction xs with
  | nil => cases h
  | cons x xs ih =>
    unfold remarksFor at h
    cases hx : f x with
    | error first =>
      rw [hx] at h
      exact ⟨x, List.mem_cons_self, hx.trans h⟩
    | ok found =>
      rw [hx] at h
      cases hrest : remarksFor xs f with
      | error later =>
        rw [hrest] at h
        obtain ⟨y, hy, hfy⟩ := ih (hrest.trans h)
        exact ⟨y, List.mem_cons_of_mem x hy, hfy⟩
      | ok more =>
        rw [hrest] at h
        cases h

/-! ## Causes -/

/-- The crash is that one of the patterns is none. -/
def BadPatternIn (patterns : List String) (crash : Crash) : Prop :=
  ∃ p ∈ patterns, ∃ reason, Pattern.read p = .error reason ∧ crash = .badPattern reason

namespace Document

/-- The tree has the parts that the grammar asks for: each declaration of a variable or a type has a
name, and each attribute begins with one. -/
structure HasNames (d : Document) : Prop where
  ofDeclaration : ∀ n ∈ d.root.nodes, n.kind ∈ namedKinds → (n.child? "name").isSome
  ofAttribute : ∀ a ∈ d.root.nodes, a.kind = "jsx_attribute" → a.firstPart?.isSome

/-- An expression of the tree stands for a whole number with too many digits to be shown. -/
def HasLongNumber (d : Document) : Prop :=
  ∃ n ∈ d.root.nodes, ∃ x : Int, d.staticValue? n = some (.number (.whole x)) ∧
    Nat.pow 10 NumberLimit.digits ≤ x.natAbs

end Document

/-- What a check may crash of in a document. -/
inductive Check.CrashCause (d : Document) (c : Check) (crash : Crash) : Prop where
  /-- A pattern in the options is none. -/
  | badPattern (h : BadPatternIn c.patterns crash)
  /-- A declaration has no name. -/
  | nameless {n : Node} (hn : n ∈ d.root.nodes) (hkind : n.kind ∈ namedKinds)
      (h : n.child? "name" = none)
  /-- An attribute has no name. -/
  | namelessAttribute {a : Node} (ha : a ∈ d.root.nodes) (hkind : a.kind = "jsx_attribute")
      (h : a.firstPart? = none)
  /-- A handler is set to a number with too many digits. -/
  | longNumber (hcrash : crash = .longNumber) (hid : c.info.id = "solid/event-handlers")
      (h : d.HasLongNumber)
  /-- An element has children, and an attribute for them by another spelling. -/
  | respelledChildren {tag : Node} (htag : tag ∈ d.tags)
      (hid : c.info.id = "solid/jsx-no-duplicate-props") (hcontent : d.hasContent tag = true)
      (h : (d.attribute? tag "children").bind Node.firstPart? = none)

namespace Document

variable {d : Document} {n : Node} {crash : Crash}

/-! ## Rules on attributes -/

theorem pow_le_of_shown?_eq_none {x : Int} (h : NumberLimit.shown? x = none) :
    Nat.pow 10 NumberLimit.digits ≤ x.natAbs := by
  unfold NumberLimit.shown? at h
  split at h
  · cases h
  next hlong => exact Nat.le_of_not_lt hlong

theorem crash_plainText? {value : StaticValue} (h : value.plainText? = .error crash) :
    crash = .longNumber ∧ ∃ x : Int, value = .number (.whole x) ∧
      Nat.pow 10 NumberLimit.digits ≤ x.natAbs := by
  unfold StaticValue.plainText? at h
  split at h
  · cases h
  next x =>
    split at h
    · cases h
    next htext =>
      refine ⟨(Except.error.inj h).symm, ?_⟩
      cases x with
      | fraction y => cases htext
      | whole y => exact ⟨y, rfl, pow_le_of_shown?_eq_none htext⟩
  · cases h

theorem crash_plainValue {attr : Node} (hattr : attr ∈ d.root.nodes)
    (hkind : attr.kind = "jsx_attribute") (h : d.plainValue attr = .error crash) :
    crash = .longNumber ∧ d.HasLongNumber := by
  unfold plainValue at h
  split at h
  · cases h
  · cases h
  next hvalue =>
    obtain ⟨hlong, x, rfl, hdigits⟩ := crash_plainText? (Except.map_eq_error_iff.mp h)
    obtain ⟨n, hn, hstatic⟩ := Option.bind_eq_some_iff.mp hvalue
    have hmem := (attributeExpression?_back hkind hn).1
    exact ⟨hlong, n, mem_of_mem_nodes hattr hmem, x, hstatic, hdigits⟩

theorem crash_eventHandlers {options : HandlerOptions}
    (h : d.eventHandlers options = .error crash) :
    (Check.eventHandlers options).CrashCause d crash := by
  obtain ⟨tag, htag, h⟩ := exists_of_remarksFor_eq_error h
  unfold handlersOf at h
  obtain ⟨a, ha, h⟩ := exists_of_remarksFor_eq_error (Except.map_eq_error_iff.mp h)
  have hattribute := isAttribute_of_mem_namedAttributes (List.mem_filter.mp htag).1 ha
  split at h
  · unfold handler at h
    dsimp only at h
    split at h
    · cases h
    · obtain ⟨hlong, hnumber⟩ := crash_plainValue hattribute.mem
        (mem_attributes_of_mem_namedAttributes ha).2 (Except.map_eq_error_iff.mp h)
      exact .longNumber hlong rfl hnumber
  · cases h

theorem crash_arrayHandlers (h : d.arrayHandlers = .error crash) :
    Check.arrayHandlers.CrashCause d crash := by
  obtain ⟨a, ha, h⟩ := exists_of_remarksFor_eq_error h
  obtain ⟨hattribute, hkind⟩ := isAttribute_of_mem_flatMap List.filter_sublist ha
  unfold arrayHandler at h
  split at h
  next hname =>
    refine .namelessAttribute hattribute.mem hkind ?_
    rw [attributeName?, if_pos hkind] at hname
    exact Option.map_eq_none_iff.mp hname
  next =>
    split at h
    · cases h
    · cases h

theorem crash_undefinedNames {options : UndefinedOptions}
    (h : d.undefinedNames options = .error crash) :
    (Check.undefinedNames options).CrashCause d crash := by
  obtain ⟨a, ha, h⟩ := exists_of_remarksFor_eq_error (Except.map_eq_error_iff.mp h)
  obtain ⟨hattribute, hkind⟩ := isAttribute_of_mem_flatMap (List.Sublist.refl _) ha
  unfold undefinedDirective at h
  split at h
  next hname => exact .namelessAttribute hattribute.mem hkind hname
  next =>
    split at h
    · split at h
      · split at h <;> cases h
      · cases h
    · cases h

theorem crash_repeatedAttributes {options : RepeatedOptions}
    (h : d.repeatedAttributes options = .error crash) :
    (Check.repeatedAttributes options).CrashCause d crash := by
  obtain ⟨tag, htag, h⟩ := exists_of_remarksFor_eq_error h
  unfold repeatedInTag at h
  rcases Except.bind_eq_error_iff.mp h with hnames | ⟨names, _, h⟩
  · obtain ⟨a, ha, h⟩ := Except.exists_of_mapM_eq_error hnames
    split at h
    · cases h
    next hname =>
      exact .namelessAttribute (isAttribute_of_mem_namedAttributes htag ha).mem
        (mem_attributes_of_mem_namedAttributes ha).2 hname
  rcases Except.bind_eq_error_iff.mp h with hchildren | ⟨_, _, h⟩
  · unfold childrenTwice at hchildren
    split at hchildren
    next hcontent =>
      obtain ⟨_, hcontent⟩ := Bool.and_eq_true_iff.mp hcontent
      refine .respelledChildren htag rfl hcontent ?_
      dsimp only at hchildren
      cases hname : (d.attribute? tag "children").bind Node.firstPart? with
      | none => rfl
      | some name =>
        rw [hname] at hchildren
        cases Except.map_eq_error_iff.mp hchildren
    next => cases hchildren
  · cases h

end Document

/-- A rule that takes patterns crashes of one that is none, or of a declaration without a name. -/
theorem Check.cause_of_pattern_crash {d : Document} {c : Check} {crash : Crash}
    (hid : c.info.id ∈ patternRules) (h : c.remarks d = .error crash) : c.CrashCause d crash := by
  by_cases hd : d.DeclarationsNamed
  · obtain ⟨reason, ⟨x, hx, hstumbles⟩, rfl⟩ := (Check.compares hd hid).cause crash h
    obtain ⟨p, hp, hread⟩ := hstumbles.exists_mem
    exact .badPattern ⟨p, Check.patterns_subset hx hp, reason, hread, rfl⟩
  · simp only [Document.DeclarationsNamed, not_forall] at hd
    obtain ⟨n, hn, hkind, hname⟩ := hd
    exact .nameless hn hkind (Option.not_isSome_iff_eq_none.mp hname)

/-- Whatever a check crashes of has a cause. -/
theorem Check.cause_of_crash {d : Document} {c : Check} {crash : Crash}
    (h : c.remarks d = .error crash) : c.CrashCause d crash := by
  cases c with
  | reassignableBindings options => exact cause_of_pattern_crash (by simp [info, patternRules]) h
  | changesToConstants options => exact cause_of_pattern_crash (by simp [info, patternRules]) h
  | writtenTypes options => exact cause_of_pattern_crash (by simp [info, patternRules]) h
  | declaredTypes options => exact cause_of_pattern_crash (by simp [info, patternRules]) h
  | repeatedAttributes options => exact Document.crash_repeatedAttributes h
  | eventHandlers options => exact Document.crash_eventHandlers h
  | arrayHandlers => exact Document.crash_arrayHandlers h
  | undefinedNames options => exact Document.crash_undefinedNames h
  | _ => cases h

/-! ## Rules that finish -/

/-- The patterns in the options of a rule. -/
def Rule.patterns (r : Rule) : List String :=
  match r.detector with
  | .check c => c.patterns
  | .custom _ => []

namespace Document

variable {d : Document} {c : Check} {r : Rule} {crash : Crash}

/-- Where the tree has its names and the options have no patterns, only a number can be in the
way. -/
theorem HasNames.longNumber_of_crash (hd : d.HasNames) (hpatterns : c.patterns = [])
    (hid : c.info.id ≠ "solid/jsx-no-duplicate-props") (h : c.remarks d = .error crash) :
    crash = .longNumber ∧ c.info.id = "solid/event-handlers" ∧ d.HasLongNumber := by
  cases Check.cause_of_crash h with
  | badPattern hbad =>
    obtain ⟨p, hp, _⟩ := hbad
    rw [hpatterns] at hp
    exact absurd hp List.not_mem_nil
  | nameless hn hkind hname =>
    have hsome := hd.ofDeclaration _ hn hkind
    rw [hname] at hsome
    cases hsome
  | namelessAttribute ha hkind hname =>
    have hsome := hd.ofAttribute _ ha hkind
    rw [hname] at hsome
    cases hsome
  | longNumber hcrash hhandlers hnumber => exact ⟨hcrash, hhandlers, hnumber⟩
  | respelledChildren _ hrepeated _ _ => exact absurd hrepeated hid

instance (d : Document) : Decidable d.HasNames :=
  decidable_of_iff
    ((∀ n ∈ d.root.nodes, n.kind ∈ namedKinds → (n.child? "name").isSome) ∧
      ∀ a ∈ d.root.nodes, a.kind = "jsx_attribute" → a.firstPart?.isSome)
    ⟨fun ⟨hdeclared, hattribute⟩ => ⟨hdeclared, hattribute⟩,
      fun h => ⟨h.ofDeclaration, h.ofAttribute⟩⟩

/-- The file `let a = <b onclick={1}/>;`. -/
def handled : Document :=
  ⟨"a.tsx", .ofString "let a = <b onclick={1}/>;",
    .node ⟨"program", true, false, none, 0, 25⟩
      [.node ⟨"lexical_declaration", true, false, none, 0, 25⟩
        [.node ⟨"let", false, false, some "kind", 0, 3⟩ [],
          .node ⟨"variable_declarator", true, false, none, 4, 24⟩
            [.node ⟨"identifier", true, false, some "name", 4, 5⟩ [],
              .node ⟨"=", false, false, none, 6, 7⟩ [],
              .node ⟨"jsx_self_closing_element", true, false, some "value", 8, 24⟩
                [.node ⟨"<", false, false, none, 8, 9⟩ [],
                  .node ⟨"identifier", true, false, some "name", 9, 10⟩ [],
                  .node ⟨"jsx_attribute", true, false, some "attribute", 11, 22⟩
                    [.node ⟨"property_identifier", true, false, none, 11, 18⟩ [],
                      .node ⟨"=", false, false, none, 18, 19⟩ [],
                      .node ⟨"jsx_expression", true, false, none, 19, 22⟩
                        [.node ⟨"\x7b", false, false, none, 19, 20⟩ [],
                          .node ⟨"number", true, false, none, 20, 21⟩ [],
                          .node ⟨"\x7d", false, false, none, 21, 22⟩ []]],
                  .node ⟨"/>", false, false, none, 22, 24⟩ []]],
          .node ⟨";", false, false, none, 24, 25⟩ []]]⟩

end Document

/-! ## Options that stop a rule

The patterns in the options of a rule are read as texts, and whether a text is a pattern turns out
when the rule compares a name with it.  So options that are accepted may stop the rule, and then
they do so file by file.  `Rule.fails_iff_stumbles` says in which files: the rule has findings
exactly if no comparison stumbles, and otherwise a fault that says what is wrong with the text. -/

variable {d : Document} {q r : Rule}

/-- A rule of the library stays one with options that it accepts. -/
theorem Rule.IsBuiltin.configureWith {value : Json} (h : q.IsBuiltin)
    (haccepted : q.configureWith value = .ok r) : r.IsBuiltin ∧ r.id = q.id := by
  unfold Rule.configureWith at haccepted
  split at haccepted
  next =>
    split at haccepted
    · exact nomatch haccepted
    · obtain rfl := Except.ok.inj haccepted
      exact ⟨h, rfl⟩
  next =>
    obtain ⟨pairs, _, haccepted⟩ := Except.bind_eq_ok_iff.mp haccepted
    split at haccepted
    · exact ⟨h.configure haccepted, (Rule.configure_eq_ok haccepted).1⟩
    · dsimp only at haccepted
      split at haccepted
      · exact nomatch haccepted
      · exact nomatch haccepted

/-- The file `let a = 1;`. -/
def Document.oneBinding : Document :=
  ⟨"a.ts", .ofString "let a = 1;",
    .node ⟨"program", true, false, none, 0, 10⟩
      [.node ⟨"lexical_declaration", true, false, none, 0, 10⟩
        [.node ⟨"let", false, false, some "kind", 0, 3⟩ [],
          .node ⟨"variable_declarator", true, false, none, 4, 9⟩
            [.node ⟨"identifier", true, false, some "name", 4, 5⟩ [],
              .node ⟨"=", false, false, none, 6, 7⟩ [],
              .node ⟨"number", true, false, some "value", 8, 9⟩ []],
          .node ⟨";", false, false, none, 9, 10⟩ []]]⟩

/-- The options of the rule against reassignable bindings with some patterns. -/
def ignoringOptions (patterns : List String) : Json :=
  .object [("ignoreIdentifierPattern", .list (patterns.map Json.text))]

/-- The rule against reassignable bindings with some patterns. -/
def Rule.ignoring (patterns : List String) : Rule :=
  Rule.ofCheck (.reassignableBindings { ignoreIdentifierPattern := patterns })

end CodeConventions
