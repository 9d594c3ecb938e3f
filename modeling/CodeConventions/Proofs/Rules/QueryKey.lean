import CodeConventions.Proofs.Tree.Argument
import CodeConventions.Rules.QueryHook

/-!
# What is missing in the key of a query

An object literal with a key and a function, written in a function, is a query.  Its key should hold
the name of whatever the function of the query reads, and does not declare itself, but the function
around declares.  The rule makes one remark on each key that lacks such a name, and the remark lists
the names in the order in which each comes up first.

## Strategy

What the rule computes is said here by relations: `IsKeyedQuery` for the query that an object
literal is, `Lacks` for a use whose name the key should hold, and `ListsMissing` for the list of
names.  Each is read off the rule once; the order of the list is settled by `pairwise_eraseDups`,
which is about lists only.
-/

namespace CodeConventions

/-! ## Lists without repetitions -/

section Lists

variable {α β : Type}

/-- Without repetitions, what things are called comes in the order in which each comes up first:
some thing called by an earlier name stands before all that are called by a later one. -/
theorem pairwise_eraseDups [BEq β] [LawfulBEq β] (call : α → β) (things : List α) :
    (things.map call).eraseDups.Pairwise fun a b => a ≠ b ∧
      ∃ x ∈ things, call x = a ∧ ∀ y ∈ things, call y = b → [x, y].Sublist things := by
  induction hlength : things.length using Nat.strong_induction_on generalizing things with
  | _ length ih =>
    cases things with
    | nil => simp
    | cons x things =>
      have hrest : (things.map call).filter (fun b => !b == call x) =
          (things.filter fun y => !call y == call x).map call := by
        rw [List.filter_map]
        rfl
      rw [List.map_cons, List.eraseDups_cons, hrest, List.pairwise_cons]
      have hshort : (things.filter fun y => !call y == call x).length < length := by
        rw [← hlength]
        exact Nat.lt_succ_of_le (List.length_filter_le _ _)
      have hne : ∀ b ∈ ((things.filter fun y => !call y == call x).map call).eraseDups,
          b ≠ call x := by
        intro b hb
        obtain ⟨y, hy, rfl⟩ := List.mem_map.mp (List.mem_eraseDups.mp hb)
        simpa using (List.mem_filter.mp hy).2
      refine ⟨fun b hb => ⟨(hne b hb).symm, x, List.mem_cons_self .., rfl, fun y hy hcall => ?_⟩,
        ?_⟩
      · rcases List.mem_cons.mp hy with rfl | hy
        · exact absurd hcall.symm (hne b hb)
        · exact (List.singleton_sublist.mpr hy).cons_cons x
      · refine (ih _ hshort _ rfl).imp_of_mem fun {a b} _ hb h => ?_
        obtain ⟨hab, z, hz, hcall, hafter⟩ := h
        refine ⟨hab, z, List.mem_cons_of_mem _ (List.mem_filter.mp hz).1, hcall, fun y hy hy' => ?_⟩
        have hyx : call y ≠ call x := hy' ▸ hne b hb
        have hymem : y ∈ things.filter fun y => !call y == call x := by
          rcases List.mem_cons.mp hy with rfl | hy
          · exact absurd rfl hyx
          · exact List.mem_filter.mpr ⟨hy, by simpa using hyx⟩
        exact ((hafter y hymem hy').trans List.filter_sublist).cons x

/-- What is made of some of the things in a list is made of those, one by one. -/
theorem forall₂_filterMap {R : α → β → Prop} {p : α → Bool} {f : α → Option β} (things : List α)
    (hp : ∀ a ∈ things, p a = (f a).isSome) (hR : ∀ a ∈ things, ∀ b ∈ f a, R a b) :
    List.Forall₂ R (things.filter p) (things.filterMap f) := by
  induction things with
  | nil => exact .nil
  | cons a things ih =>
    have ih := ih (fun b hb => hp b (List.mem_cons_of_mem a hb)) fun b hb =>
      hR b (List.mem_cons_of_mem a hb)
    have ha := hp a (List.mem_cons_self ..)
    cases hf : f a with
    | none => rwa [List.filter_cons, ha, hf, List.filterMap_cons, hf]
    | some b =>
      rw [List.filter_cons, ha, hf, List.filterMap_cons, hf]
      exact .cons (hR a (List.mem_cons_self ..) b hf) ih

end Lists

namespace Document

variable {d : Document} {options : QueryKeyOptions} {o use : Node} {q : KeyedQuery}

/-! ## Queries with keys -/

/-- The value of the first property with the name, spreads aside, without its wrappers. -/
def HasValue (d : Document) (object : Node) (name : String) (n : Node) : Prop :=
  ∃ p v, d.property object name = some p ∧ p.value = some v ∧ v.unwrap = n

/-- The object literal has an array as the key and a function as the function of a query, and is
written in a function. -/
structure IsKeyedQuery (d : Document) (object : Node) (q : KeyedQuery) : Prop where
  key : d.HasValue object "queryKey" q.key
  isArray : q.key.kind = "array"
  function : d.HasValue object "queryFn" q.function
  isFunction : q.function.isFunction = true
  around : object.enclosingFunction? = some q.around

theorem keyedQuery?_eq_some_iff : d.keyedQuery? o = some q ↔ d.IsKeyedQuery o q := by
  rw [keyedQuery?]
  constructor
  · intro h
    split at h
    next key function around hkey hfunction haround =>
      split_ifs at h with hkinds
      obtain rfl := Option.some_inj.mp h
      rw [Bool.and_eq_true, decide_eq_true_eq] at hkinds
      obtain ⟨p, hp, hpvalue⟩ := Option.bind_eq_some_iff.mp hkey
      obtain ⟨r, hr, hrvalue⟩ := Option.bind_eq_some_iff.mp hfunction
      exact ⟨⟨p, key, hp, hpvalue, rfl⟩, hkinds.1, ⟨r, function, hr, hrvalue, rfl⟩, hkinds.2,
        haround⟩
    next => cases h
  · rintro ⟨⟨p, key, hp, hpvalue, hkey⟩, harray, ⟨r, function, hr, hrvalue, hfunction⟩, hisfn,
      haround⟩
    simp only [hp, hr, haround, Option.bind_some, hpvalue, hrvalue, hkey, hfunction, harray, hisfn]
    rfl

/-! ## Names that are missing -/

/-- The function of the query reads a name that the key should hold: neither the key holds it nor
need it be held, and it is declared in the function around and not in that of the query. -/
structure Lacks (d : Document) (options : QueryKeyOptions) (q : KeyedQuery) (use : Node) :
    Prop where
  read : use ∈ d.reads q.function
  absent : ∀ n ∈ q.key.nodes, n.kind ∈ ["identifier", "shorthand_property_identifier"] →
    d.text n ≠ d.text use
  unlisted : d.text use ∉ options.allowlist
  declared : ∃ b, d.resolve? use = some b ∧ q.around.contains b = true ∧
    ¬ q.function.contains b = true

/-- The names are those that the key should hold, each once and in the order in which each is read
first.  This is the order of the nodes in the document, and where their ranges are in order, that of
the offsets at which they begin. -/
structure ListsMissing (d : Document) (options : QueryKeyOptions) (q : KeyedQuery)
    (names : List String) : Prop where
  nodup : names.Nodup
  mem_iff : ∀ name, name ∈ names ↔ ∃ use, d.Lacks options q use ∧ d.text use = name
  ordered : names.Pairwise fun a b => ∃ use, d.Lacks options q use ∧ d.text use = a ∧
    ∀ other, d.Lacks options q other → d.text other = b →
      [use, other].Sublist q.function.nodes ∧ (d.InOrder → use.start ≤ other.start)

/-- The uses of names that the key should hold, in document order. -/
def lackingUses (d : Document) (options : QueryKeyOptions) (q : KeyedQuery) : List Node :=
  (d.reads q.function).filter fun r =>
    !(d.namesInKey q.key ++ options.allowlist).contains (d.text r) && d.isLocalDependency q r

theorem missingFromKey_eq :
    d.missingFromKey options q = ((d.lackingUses options q).map d.text).eraseDups := rfl

theorem mem_namesInKey_iff {key : Node} {name : String} :
    name ∈ d.namesInKey key ↔
      ∃ n ∈ key.nodes, n.kind ∈ ["identifier", "shorthand_property_identifier"] ∧
        d.text n = name := by
  simp [namesInKey, Node.find, and_assoc]

theorem isLocalDependency_iff :
    d.isLocalDependency q use = true ↔ ∃ b, d.resolve? use = some b ∧
      q.around.contains b = true ∧ ¬ q.function.contains b = true := by
  simp [isLocalDependency, Option.any_eq_true, and_comm]

theorem mem_lackingUses_iff : use ∈ d.lackingUses options q ↔ d.Lacks options q use := by
  rw [lackingUses, List.mem_filter, Bool.and_eq_true, isLocalDependency_iff]
  simp only [Bool.not_eq_true', List.contains_eq_mem, decide_eq_false_iff_not, List.mem_append,
    mem_namesInKey_iff, not_or]
  constructor
  · rintro ⟨hread, ⟨habsent, hunlisted⟩, hdeclared⟩
    exact ⟨hread, fun n hn hkind htext => habsent ⟨n, hn, hkind, htext⟩, hunlisted, hdeclared⟩
  · rintro ⟨hread, habsent, hunlisted, hdeclared⟩
    exact ⟨hread, ⟨fun ⟨n, hn, hkind, htext⟩ => habsent n hn hkind htext, hunlisted⟩, hdeclared⟩

theorem lackingUses_sublist : (d.lackingUses options q).Sublist q.function.nodes :=
  List.filter_sublist.trans List.filter_sublist

theorem mem_missingFromKey_iff {name : String} :
    name ∈ d.missingFromKey options q ↔ ∃ use, d.Lacks options q use ∧ d.text use = name := by
  simp only [missingFromKey_eq, List.mem_eraseDups, List.mem_map, mem_lackingUses_iff]

theorem listsMissing_missingFromKey (hq : q.function ∈ d.root.nodes) :
    d.ListsMissing options q (d.missingFromKey options q) := by
  have hpairwise := pairwise_eraseDups d.text (d.lackingUses options q)
  refine ⟨hpairwise.imp And.left, fun name => mem_missingFromKey_iff, hpairwise.imp ?_⟩
  rintro a b ⟨_, use, huse, htext, hafter⟩
  refine ⟨use, mem_lackingUses_iff.mp huse, htext, fun other hother hb => ?_⟩
  have hsublist := (hafter other (mem_lackingUses_iff.mpr hother) hb).trans lackingUses_sublist
  refine ⟨hsublist, fun hd => ?_⟩
  have hsorted := (hd.nodes_sorted hq).sublist hsublist
  exact List.rel_of_pairwise_cons hsorted (List.mem_cons_self ..)

/-! ## Remarks on keys -/

/-- The object literal is a query whose key lacks a name. -/
def IsIncomplete (d : Document) (options : QueryKeyOptions) (object : Node) : Prop :=
  ∃ q, d.IsKeyedQuery object q ∧ ∃ use, d.Lacks options q use

/-- The remark stands at the key of the query and lists what is missing there. -/
def RemarksOnKey (d : Document) (options : QueryKeyOptions) (object : Node) (r : Remark) : Prop :=
  ∃ q names, d.IsKeyedQuery object q ∧ d.ListsMissing options q names ∧
    r = d.remark q.key ("The following dependencies are missing in your queryKey: " ++
      Text.joined ", " names)

/-- The remark that the rule makes on an object literal. -/
def incompleteKey? (d : Document) (options : QueryKeyOptions) (object : Node) : Option Remark :=
  (d.keyedQuery? object).bind fun q =>
    let missing := d.missingFromKey options q
    if missing.isEmpty then none
    else
      some (d.remark q.key ("The following dependencies are missing in your queryKey: " ++
        Text.joined ", " missing))

theorem incompleteKeys_eq :
    d.incompleteKeys options = (d.find ["object"]).filterMap (d.incompleteKey? options) := by
  rw [incompleteKeys, List.filterMap_filterMap]
  rfl

theorem missingFromKey_ne_nil_iff :
    d.missingFromKey options q ≠ [] ↔ ∃ use, d.Lacks options q use := by
  constructor
  · intro h
    obtain ⟨name, hname⟩ := List.exists_mem_of_ne_nil _ h
    obtain ⟨use, huse, _⟩ := mem_missingFromKey_iff.mp hname
    exact ⟨use, huse⟩
  · rintro ⟨use, huse⟩
    exact List.ne_nil_of_mem (mem_missingFromKey_iff.mpr ⟨use, huse, rfl⟩)

theorem isSome_incompleteKey?_iff :
    (d.incompleteKey? options o).isSome ↔ d.IsIncomplete options o := by
  simp only [incompleteKey?, Option.isSome_bind, Option.any_eq_true, keyedQuery?_eq_some_iff,
    IsIncomplete, ← missingFromKey_ne_nil_iff]
  refine exists_congr fun q => and_congr_right fun _ => ?_
  cases d.missingFromKey options q <;> simp

instance : DecidablePred (d.IsIncomplete options) := fun _ =>
  decidable_of_iff _ isSome_incompleteKey?_iff

theorem mem_of_hasValue {name : String} {n : Node} (ho : o ∈ d.root.nodes)
    (h : d.HasValue o name n) : n ∈ d.root.nodes := by
  obtain ⟨p, v, hp, hv, rfl⟩ := h
  obtain ⟨hpart, hproperty⟩ := mem_properties (List.mem_of_find?_eq_some hp)
  exact mem_of_unwrap (mem_of_mem_nodes (mem_of_mem_parts ho hpart)
    (mem_nodes_of_value hproperty hv))

theorem remarksOnKey_of_incompleteKey? {r : Remark} (ho : o ∈ d.root.nodes)
    (hr : d.incompleteKey? options o = some r) : d.RemarksOnKey options o r := by
  obtain ⟨q, hq, hr⟩ := Option.bind_eq_some_iff.mp hr
  have hquery := keyedQuery?_eq_some_iff.mp hq
  dsimp only at hr
  split_ifs at hr
  exact ⟨q, _, hquery, listsMissing_missingFromKey (mem_of_hasValue ho hquery.function),
    (Option.some_inj.mp hr).symm⟩

/-- The rule makes exactly one remark on each object literal that is a query whose key lacks a name,
in document order, and no other remark.  The remark stands at the key and lists every missing name
once, in the order in which each is read first. -/
theorem incompleteKeys_exact (d : Document) (options : QueryKeyOptions) :
    List.Forall₂ (d.RemarksOnKey options)
      ((d.find ["object"]).filter fun o => d.IsIncomplete options o)
      (d.incompleteKeys options) := by
  rw [incompleteKeys_eq]
  refine forall₂_filterMap _ (fun o _ => ?_) fun o ho r hr =>
    remarksOnKey_of_incompleteKey? (mem_of_mem_find ho).1 hr
  rw [Bool.eq_iff_iff, decide_eq_true_iff, isSome_incompleteKey?_iff]

/-- A query reads a parameter, then a name that an inner function declares, and then a parameter of
that name. -/
def shadowing : Document :=
  ⟨"a.ts",
    .ofString ("function a(id, x, y) \x7b return \x7b queryKey: [x], " ++
      "queryFn: () => [y, id => id, x, id] \x7d; \x7d"),
    .node ⟨"program", true, false, none, 0, 87⟩ [
      .node ⟨"function_declaration", true, false, none, 0, 87⟩ [
        .node ⟨"function", false, false, none, 0, 8⟩ [],
        .node ⟨"identifier", true, false, some "name", 9, 10⟩ [],
        .node ⟨"formal_parameters", true, false, some "parameters", 10, 20⟩ [
          .node ⟨"(", false, false, none, 10, 11⟩ [],
          .node ⟨"required_parameter", true, false, none, 11, 13⟩ [
            .node ⟨"identifier", true, false, some "pattern", 11, 13⟩ []],
          .node ⟨",", false, false, none, 13, 14⟩ [],
          .node ⟨"required_parameter", true, false, none, 15, 16⟩ [
            .node ⟨"identifier", true, false, some "pattern", 15, 16⟩ []],
          .node ⟨",", false, false, none, 16, 17⟩ [],
          .node ⟨"required_parameter", true, false, none, 18, 19⟩ [
            .node ⟨"identifier", true, false, some "pattern", 18, 19⟩ []],
          .node ⟨")", false, false, none, 19, 20⟩ []],
        .node ⟨"statement_block", true, false, some "body", 21, 87⟩ [
          .node ⟨"\x7b", false, false, none, 21, 22⟩ [],
          .node ⟨"return_statement", true, false, none, 23, 85⟩ [
            .node ⟨"return", false, false, none, 23, 29⟩ [],
            .node ⟨"object", true, false, none, 30, 84⟩ [
              .node ⟨"\x7b", false, false, none, 30, 31⟩ [],
              .node ⟨"pair", true, false, none, 32, 45⟩ [
                .node ⟨"property_identifier", true, false, some "key", 32, 40⟩ [],
                .node ⟨":", false, false, none, 40, 41⟩ [],
                .node ⟨"array", true, false, some "value", 42, 45⟩ [
                  .node ⟨"[", false, false, none, 42, 43⟩ [],
                  .node ⟨"identifier", true, false, none, 43, 44⟩ [],
                  .node ⟨"]", false, false, none, 44, 45⟩ []]],
              .node ⟨",", false, false, none, 45, 46⟩ [],
              .node ⟨"pair", true, false, none, 47, 82⟩ [
                .node ⟨"property_identifier", true, false, some "key", 47, 54⟩ [],
                .node ⟨":", false, false, none, 54, 55⟩ [],
                .node ⟨"arrow_function", true, false, some "value", 56, 82⟩ [
                  .node ⟨"formal_parameters", true, false, some "parameters", 56, 58⟩ [
                    .node ⟨"(", false, false, none, 56, 57⟩ [],
                    .node ⟨")", false, false, none, 57, 58⟩ []],
                  .node ⟨"=>", false, false, none, 59, 61⟩ [],
                  .node ⟨"array", true, false, some "body", 62, 82⟩ [
                    .node ⟨"[", false, false, none, 62, 63⟩ [],
                    .node ⟨"identifier", true, false, none, 63, 64⟩ [],
                    .node ⟨",", false, false, none, 64, 65⟩ [],
                    .node ⟨"arrow_function", true, false, none, 66, 74⟩ [
                      .node ⟨"identifier", true, false, some "parameter", 66, 68⟩ [],
                      .node ⟨"=>", false, false, none, 69, 71⟩ [],
                      .node ⟨"identifier", true, false, some "body", 72, 74⟩ []],
                    .node ⟨",", false, false, none, 74, 75⟩ [],
                    .node ⟨"identifier", true, false, none, 76, 77⟩ [],
                    .node ⟨",", false, false, none, 77, 78⟩ [],
                    .node ⟨"identifier", true, false, none, 79, 81⟩ [],
                    .node ⟨"]", false, false, none, 81, 82⟩ []]]],
              .node ⟨"\x7d", false, false, none, 83, 84⟩ []],
            .node ⟨";", false, false, none, 84, 85⟩ []],
          .node ⟨"\x7d", false, false, none, 86, 87⟩ []]]]⟩

theorem incompleteKeys_exact_shadowing :
    shadowing.hasErrors = false ∧ shadowing.InOrder ∧
      ∃ o ∈ shadowing.find ["object"], shadowing.IsIncomplete {} o ∧
        ∃ r, shadowing.incompleteKeys {} = [r] ∧ shadowing.RemarksOnKey {} o r ∧
          r.message = "The following dependencies are missing in your queryKey: y, id" := by
  obtain ⟨o, ho, hfind, hincomplete⟩ : ∃ o ∈ shadowing.find ["object"],
      shadowing.find ["object"] = [o] ∧ shadowing.IsIncomplete {} o := by
    decide +kernel
  have hmessage : ∀ r ∈ shadowing.incompleteKeys {},
      r.message = "The following dependencies are missing in your queryKey: y, id" := by
    decide +kernel
  have hkept : (shadowing.find ["object"]).filter (fun o => shadowing.IsIncomplete {} o) = [o] := by
    simp [hfind, hincomplete]
  have hexact := shadowing.incompleteKeys_exact {}
  rw [hkept] at hexact
  obtain ⟨r, rest, hr, hrest, hremarks⟩ := List.forall₂_cons_left_iff.mp hexact
  obtain rfl := List.forall₂_nil_left_iff.mp hrest
  refine ⟨by decide +kernel, by decide +kernel, o, ho, hincomplete, r, hremarks, hr, hmessage r ?_⟩
  rw [hremarks]
  exact List.mem_singleton.mpr rfl

end Document

end CodeConventions
