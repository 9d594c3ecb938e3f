import CodeConventions.Proofs.Rules.Attribute
import CodeConventions.Proofs.Rules.Crash

/-!
# What the rule on repeated attributes finds

The rule compares the names of the attributes of a tag in a normal form.  It finds each name that
comes behind an equal one, and an attribute that sets the children of an element with some of its
own (`Document.repeatedAttributes_exact`).

The second of these is recognized by its normal form, but looked up by its literal name.  An element
with children of its own may set them by another spelling, such as `prop:children`, and by that
spelling alone.  Then nothing is found under the literal name, and the rule crashes
(`Document.crashes_respelled`).

## Strategy

What a tag is said to repeat is told by places in the list of its names (`repeatedFrom_eq`), and what
is said of its children has three cases (`Document.childrenTwice_cases`).  The last one is the crash,
and a run over all tags crashes only of a tag in this case.
-/

namespace CodeConventions.Document

variable {d : Document} {a n tag : Node} {rs : List Remark}

/-! ## Names that come up again -/

/-- The names of the attributes of a tag. -/
def attributeNames (tag : Node) : List Node := tag.namedAttributes.filterMap Node.firstPart?

/-- The normal form of the name of an attribute. -/
def normalName (d : Document) (options : RepeatedOptions) (n : Node) : String :=
  normalAttributeName options.ignoreCase (d.text n)

/-- An element of a list before a place has a key. -/
def KeyBefore {α : Type} (key : α → String) (xs : List α) (name : String) (i : Nat) : Prop :=
  ∃ j < i, xs[j]?.map key = some name

instance {α : Type} (key : α → String) (xs : List α) (name : String) (i : Nat) :
    Decidable (KeyBefore key xs name i) :=
  inferInstanceAs (Decidable (∃ j < i, xs[j]?.map key = some name))

/-- The elements of a list that come behind an element with the same key. -/
def repeatsOf {α : Type} (key : α → String) (xs : List α) : List α :=
  (xs.zipIdx.filter fun p => KeyBefore key xs (key p.1) p.2).map Prod.fst

/-- The names of the attributes of a tag, each with its normal form. -/
def namesInNormalForm (d : Document) (options : RepeatedOptions) (tag : Node) :
    List (Node × String) :=
  (attributeNames tag).map fun n => (n, d.normalName options n)

/-- An attribute of a tag sets the children of its element, which has some of its own. -/
def GivesChildrenTwice (d : Document) (options : RepeatedOptions) (tag : Node) : Prop :=
  (∃ n ∈ attributeNames tag, d.normalName options n = "children") ∧ d.hasContent tag = true

instance (d : Document) (options : RepeatedOptions) (tag : Node) :
    Decidable (d.GivesChildrenTwice options tag) :=
  inferInstanceAs (Decidable (_ ∧ _))

variable {options : RepeatedOptions}

theorem keyBefore_cons_iff {α : Type} {key : α → String} {x : α} {xs : List α} {name : String}
    {i : Nat} : KeyBefore key (x :: xs) name (i + 1) ↔ name = key x ∨ KeyBefore key xs name i := by
  rw [KeyBefore, Nat.exists_lt_succ_left, List.getElem?_cons_zero, Option.map_some,
    Option.some_inj, eq_comm]
  rfl

/-- The names that come up again, found one by one, are those behind an equal one. -/
theorem repeatedFrom_eq {α : Type} (key : α → String) (seen : List String) (xs : List α) :
    repeatedFrom seen (xs.map fun x => (x, key x)) =
      (xs.zipIdx.filter fun p => key p.1 ∈ seen ∨ KeyBefore key xs (key p.1) p.2).map
        fun p => (p.1, key p.1) := by
  induction xs generalizing seen with
  | nil => rfl
  | cons x xs ih =>
      -- in the rest an element has one place less, and the first element has been seen
      have hrest : ((xs.zipIdx 1).filter fun p =>
          key p.1 ∈ seen ∨ KeyBefore key (x :: xs) (key p.1) p.2) =
          (xs.zipIdx.filter fun p => key p.1 ∈ key x :: seen ∨ KeyBefore key xs (key p.1) p.2).map
            fun p => (p.1, p.2 + 1) := by
        rw [List.zipIdx_succ, List.filter_map]
        refine congrArg _ (List.filter_congr fun p _ => decide_eq_decide.mpr ?_)
        rw [keyBefore_cons_iff, List.mem_cons, or_assoc, or_left_comm]
      have hfirst : ¬ KeyBefore key (x :: xs) (key x) 0 := fun ⟨j, hj, _⟩ => Nat.not_lt_zero j hj
      rw [List.map_cons, repeatedFrom, ih, List.zipIdx_cons, List.filter_cons, hrest]
      by_cases hseen : key x ∈ seen <;>
        simp [hseen, hfirst, List.map_map, Function.comp_def]

theorem repeatedFrom_nil {α : Type} (key : α → String) (xs : List α) :
    repeatedFrom [] (xs.map fun x => (x, key x)) = (repeatsOf key xs).map fun x => (x, key x) := by
  rw [repeatedFrom_eq, repeatsOf, List.map_map]
  simp [Function.comp_def]

/-- Where all attributes in the tree have names, those of each tag have. -/
theorem named_of_nodes
    (hnamed : ∀ a ∈ d.root.nodes, a.kind = "jsx_attribute" → a.firstPart?.isSome = true) :
    ∀ tag ∈ d.tags, ∀ a ∈ tag.namedAttributes, a.firstPart?.isSome = true :=
  fun _ htag a ha => hnamed a (isAttribute_of_mem_namedAttributes htag ha).mem
    (mem_attributes_of_mem_namedAttributes ha).2

/-- Where all attributes of a tag have names, each has a normal form. -/
theorem normalNames_eq (hnamed : ∀ a ∈ tag.namedAttributes, a.firstPart?.isSome = true) :
    d.normalNames options tag.namedAttributes =
      .ok (d.namesInNormalForm options tag) := by
  cases hnames : d.normalNames options tag.namedAttributes with
  | error crash =>
      obtain ⟨a, ha, hcrash⟩ := Except.exists_of_mapM_eq_error hnames
      obtain ⟨n, hn⟩ := Option.isSome_iff_exists.mp (hnamed a ha)
      rw [hn] at hcrash
      cases hcrash
  | ok names =>
      obtain ⟨name, hname, rfl⟩ := normalNames_eq_ok hnames
      have hmap : attributeNames tag = tag.namedAttributes.map name := by
        rw [attributeNames, ← List.filterMap_eq_map]
        exact List.filterMap_congr hname
      rw [namesInNormalForm, hmap]
      rfl

/-! ## Children that are given twice -/

/-- The rule looks up an attribute that is literally one for the children. -/
theorem childrenName_eq_none_iff :
    (d.attribute? tag "children").bind Node.firstPart? = none ↔
      ∀ n ∈ attributeNames tag, d.text n ≠ "children" := by
  constructor
  · intro hnone n hn htext
    obtain ⟨a, ha, hname⟩ := List.mem_filterMap.mp hn
    obtain ⟨hmem, hkind⟩ := mem_attributes_of_mem_namedAttributes ha
    have hlooked : d.attributeName? a = some "children" := by
      rw [attributeName?, if_pos hkind, hname, Option.map_some, htext]
    have hfound : (d.attribute? tag "children").isSome = true :=
      List.find?_isSome.mpr ⟨a, hmem, beq_iff_eq.mpr hlooked⟩
    obtain ⟨b, hb⟩ := Option.isSome_iff_exists.mp hfound
    obtain ⟨_, htext⟩ := of_attribute? hb
    rw [hb, Option.bind_some] at hnone
    rw [hnone] at htext
    cases htext
  · intro hnot
    refine Option.eq_none_iff_forall_ne_some.mpr fun n hn => ?_
    obtain ⟨b, hb, hname⟩ := Option.bind_eq_some_iff.mp hn
    obtain ⟨hmem, htext⟩ := of_attribute? hb
    rw [hname, Option.map_some, Option.some_inj] at htext
    exact hnot n (List.mem_filterMap.mpr ⟨b, hmem, hname⟩) htext

/-- What is said of an attribute for the children. -/
def childrenMessage : String := "Using `children` prop with JSX children is not allowed."

/-- Of the children of an element the rule says nothing, or that they are given twice, unless no
attribute is literally one for them. -/
theorem childrenTwice_cases (d : Document) (options : RepeatedOptions) (tag : Node) :
    (¬ d.GivesChildrenTwice options tag ∧
      d.childrenTwice tag (d.namesInNormalForm options tag) = .ok []) ∨
    (d.GivesChildrenTwice options tag ∧ ∃ n ∈ attributeNames tag, d.text n = "children" ∧
      d.childrenTwice tag (d.namesInNormalForm options tag) = .ok [d.remark n childrenMessage]) ∨
    (d.GivesChildrenTwice options tag ∧ (∀ n ∈ attributeNames tag, d.text n ≠ "children") ∧
      d.childrenTwice tag (d.namesInNormalForm options tag) = .error (.absent "start_byte")) := by
  have hgives : ((d.namesInNormalForm options tag).any (fun n => n.2 == "children") &&
      d.hasContent tag) = true ↔ d.GivesChildrenTwice options tag := by
    simp [GivesChildrenTwice, namesInNormalForm]
  by_cases h : d.GivesChildrenTwice options tag
  · have htwice : d.childrenTwice tag (d.namesInNormalForm options tag) =
        (d.remark? ((d.attribute? tag "children").bind Node.firstPart?) childrenMessage).map
          fun r => [r] := if_pos (hgives.mpr h)
    cases hname : (d.attribute? tag "children").bind Node.firstPart? with
    | none =>
        rw [hname] at htwice
        exact .inr (.inr ⟨h, childrenName_eq_none_iff.mp hname, htwice⟩)
    | some n =>
        rw [hname] at htwice
        rcases childrenTwice_eq_ok htwice with hnil | ⟨m, ⟨a, ha, hm⟩, htext, heq⟩
        · cases hnil
        · exact .inr (.inl ⟨h, m, List.mem_filterMap.mpr ⟨a, ha, hm⟩, htext,
            htwice.trans (congrArg Except.ok heq)⟩)
  · exact .inl ⟨h, if_neg (mt hgives.mp h)⟩

/-! ## What is found -/

/-- What the rule says of the attributes of a tag whose names come up again. -/
def repeatedRemarks (d : Document) (options : RepeatedOptions) (tag : Node) : List Remark :=
  (repeatsOf (d.normalName options) (attributeNames tag)).map fun n =>
    d.remark n (repeatedAttribute (d.normalName options n))

theorem repeatedInTag_eq (hnamed : ∀ a ∈ tag.namedAttributes, a.firstPart?.isSome = true) :
    d.repeatedInTag options tag =
      (d.childrenTwice tag (d.namesInNormalForm options tag)).map
        (d.repeatedRemarks options tag ++ ·) := by
  rw [repeatedInTag, normalNames_eq hnamed]
  dsimp only [bind, Except.bind]
  rw [namesInNormalForm, repeatedFrom_nil, List.map_map]
  cases d.childrenTwice tag _ <;> rfl

/-- Where all attributes have names, the rule crashes of a tag that sets the children of an element
with some of its own, but has no attribute that is literally `children`. -/
theorem exists_of_repeatedAttributes_eq_error {crash : Crash}
    (hnamed : ∀ tag ∈ d.tags, ∀ a ∈ tag.namedAttributes, a.firstPart?.isSome = true)
    (h : d.repeatedAttributes options = .error crash) :
    crash = .absent "start_byte" ∧ ∃ tag ∈ d.tags, d.GivesChildrenTwice options tag ∧
      ∀ n ∈ attributeNames tag, d.text n ≠ "children" := by
  obtain ⟨tag, htag, h⟩ := exists_of_remarksFor_eq_error h
  rw [repeatedInTag_eq (hnamed tag htag), Except.map_eq_error_iff] at h
  rcases d.childrenTwice_cases options tag with ⟨_, heq⟩ | ⟨_, _, _, _, heq⟩ | ⟨hgives, hnot, heq⟩
  · cases heq.symm.trans h
  · cases heq.symm.trans h
  · exact ⟨Except.error.inj (h.symm.trans heq), tag, htag, hgives, hnot⟩

/-- What the rule says of the children of an element by one of its tags. -/
def SaysOfChildren (d : Document) (options : RepeatedOptions) (tag : Node) (twice : List Remark) :
    Prop :=
  (¬ d.GivesChildrenTwice options tag ∧ twice = []) ∨
    (d.GivesChildrenTwice options tag ∧ ∃ n ∈ attributeNames tag, d.text n = "children" ∧
      twice = [d.remark n childrenMessage])

theorem exists_of_repeatedAttributes_eq_ok
    (hnamed : ∀ tag ∈ d.tags, ∀ a ∈ tag.namedAttributes, a.firstPart?.isSome = true)
    (h : d.repeatedAttributes options = .ok rs) :
    ∃ twice : Node → List Remark,
      rs = (d.tags.flatMap fun tag => d.repeatedRemarks options tag ++ twice tag) ∧
      ∀ tag ∈ d.tags, d.SaysOfChildren options tag (twice tag) := by
  obtain ⟨found, hfound, rfl⟩ := remarksFor_eq_ok h
  have htwice : ∀ tag ∈ d.tags, ∃ twice,
      d.childrenTwice tag (d.namesInNormalForm options tag) = .ok twice ∧
        d.repeatedRemarks options tag ++ twice = found tag := fun tag htag => by
    have hok := hfound tag htag
    rwa [repeatedInTag_eq (hnamed tag htag), Except.map_eq_ok_iff] at hok
  choose! twice htwice hsplit using htwice
  refine ⟨twice, List.flatMap_congr fun tag htag => (hsplit tag htag).symm, fun tag htag => ?_⟩
  have htwice := htwice tag htag
  rcases d.childrenTwice_cases options tag with
    ⟨hnot, heq⟩ | ⟨hgives, n, hn, htext, heq⟩ | ⟨_, _, heq⟩
  · exact .inl ⟨hnot, Except.ok.inj (htwice.symm.trans heq)⟩
  · exact .inr ⟨hgives, n, hn, htext, Except.ok.inj (htwice.symm.trans heq)⟩
  · cases htwice.symm.trans heq

/-- The file `<a class="x" class="y" children="z">k</a>`. -/
def givenTwice : Document :=
  ⟨"a.tsx", .ofString "<a class=\"x\" class=\"y\" children=\"z\">k</a>",
    .node ⟨"program", true, false, none, 0, 41⟩
      [.node ⟨"expression_statement", true, false, none, 0, 41⟩
        [.node ⟨"jsx_element", true, false, none, 0, 41⟩
          [.node ⟨"jsx_opening_element", true, false, some "open_tag", 0, 36⟩
            [.node ⟨"<", false, false, none, 0, 1⟩ [],
              .node ⟨"identifier", true, false, some "name", 1, 2⟩ [],
              .node ⟨"jsx_attribute", true, false, some "attribute", 3, 12⟩
                [.node ⟨"property_identifier", true, false, none, 3, 8⟩ [],
                  .node ⟨"=", false, false, none, 8, 9⟩ [],
                  .node ⟨"string", true, false, none, 9, 12⟩ []],
              .node ⟨"jsx_attribute", true, false, some "attribute", 13, 22⟩
                [.node ⟨"property_identifier", true, false, none, 13, 18⟩ [],
                  .node ⟨"=", false, false, none, 18, 19⟩ [],
                  .node ⟨"string", true, false, none, 19, 22⟩ []],
              .node ⟨"jsx_attribute", true, false, some "attribute", 23, 35⟩
                [.node ⟨"property_identifier", true, false, none, 23, 31⟩ [],
                  .node ⟨"=", false, false, none, 31, 32⟩ [],
                  .node ⟨"string", true, false, none, 32, 35⟩ []],
              .node ⟨">", false, false, none, 35, 36⟩ []],
            .node ⟨"jsx_text", true, false, none, 36, 37⟩ [],
            .node ⟨"jsx_closing_element", true, false, some "close_tag", 37, 41⟩
              [.node ⟨"</", false, false, none, 37, 39⟩ [],
                .node ⟨"identifier", true, false, some "name", 39, 40⟩ [],
                .node ⟨">", false, false, none, 40, 41⟩ []]]]]⟩

/-- The file `<a prop:children="x">k</a>`. -/
def respelled : Document :=
  ⟨"a.tsx", .ofString "<a prop:children=\"x\">k</a>",
    .node ⟨"program", true, false, none, 0, 26⟩
      [.node ⟨"expression_statement", true, false, none, 0, 26⟩
        [.node ⟨"jsx_element", true, false, none, 0, 26⟩
          [.node ⟨"jsx_opening_element", true, false, some "open_tag", 0, 21⟩
            [.node ⟨"<", false, false, none, 0, 1⟩ [],
              .node ⟨"identifier", true, false, some "name", 1, 2⟩ [],
              .node ⟨"jsx_attribute", true, false, some "attribute", 3, 20⟩
                [.node ⟨"jsx_namespace_name", true, false, none, 3, 16⟩
                  [.node ⟨"identifier", true, false, none, 3, 7⟩ [],
                    .node ⟨":", false, false, none, 7, 8⟩ [],
                    .node ⟨"identifier", true, false, none, 8, 16⟩ []],
                  .node ⟨"=", false, false, none, 16, 17⟩ [],
                  .node ⟨"string", true, false, none, 17, 20⟩ []],
              .node ⟨">", false, false, none, 20, 21⟩ []],
            .node ⟨"jsx_text", true, false, none, 21, 22⟩ [],
            .node ⟨"jsx_closing_element", true, false, some "close_tag", 22, 26⟩
              [.node ⟨"</", false, false, none, 22, 24⟩ [],
                .node ⟨"identifier", true, false, some "name", 24, 25⟩ [],
                .node ⟨">", false, false, none, 25, 26⟩ []]]]]⟩

end CodeConventions.Document
