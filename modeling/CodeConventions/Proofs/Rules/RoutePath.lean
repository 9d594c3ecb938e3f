import CodeConventions.Proofs.Rules.Query
import CodeConventions.Proofs.Text.Spelling
import CodeConventions.Rules.RoutePath

/-!
# Parameters of route paths have ranges of their own

The parameters in a path begin at different characters, from left to right, and so at different
bytes of the source.  No path lies in another one, so the ranges of parameters in two paths are
apart.
-/

namespace CodeConventions

/-! ## Where parameters begin -/

namespace PathParameter

/-- The parameters begin at different places, from left to right, between two offsets. -/
def BeginIn (a b : Nat) (ps : List PathParameter) : Prop :=
  (ps.Pairwise fun p q => p.start < q.start) ∧ ∀ p ∈ ps, a ≤ p.start ∧ p.start < b

variable {a b c : Nat} {p : PathParameter} {ps qs : List PathParameter}

theorem beginIn_nil : BeginIn a b [] :=
  ⟨List.Pairwise.nil, fun _ hp => absurd hp List.not_mem_nil⟩

theorem BeginIn.mono (h : BeginIn a b ps) (hab : a ≥ c) : BeginIn c b ps :=
  ⟨h.1, fun p hp => ⟨hab.trans (h.2 p hp).1, (h.2 p hp).2⟩⟩

theorem BeginIn.append (hps : BeginIn a b ps) (hqs : BeginIn b c qs) (hbc : b ≤ c) (hab : a ≤ b) :
    BeginIn a c (ps ++ qs) := by
  refine ⟨List.pairwise_append.mpr ⟨hps.1, hqs.1, fun p hp q hq => ?_⟩, fun p hp => ?_⟩
  · exact (hps.2 p hp).2.trans_le (hqs.2 q hq).1
  · rcases List.mem_append.mp hp with hp | hp
    · exact ⟨(hps.2 p hp).1, (hps.2 p hp).2.trans_le hbc⟩
    · exact ⟨hab.trans (hqs.2 p hp).1, (hqs.2 p hp).2⟩

theorem beginIn_singleton (hstart : p.start = a) (hab : a < b) : BeginIn a b [p] := by
  refine ⟨List.pairwise_singleton _ _, fun q hq => ?_⟩
  obtain rfl := List.mem_singleton.mp hq
  exact ⟨hstart.ge, hstart.trans_lt hab⟩

theorem beginIn_bracedFrom (offset skipped : Nat) (cs : List Char) :
    BeginIn offset (offset + cs.length) (bracedFrom offset skipped cs) := by
  induction cs generalizing offset skipped with
  | nil =>
      rw [bracedFrom]
      exact beginIn_nil
  | cons c cs ih =>
      have hrest : ∀ k, BeginIn (offset + 1) (offset + (c :: cs).length)
          (bracedFrom (offset + 1) k cs) := fun k => by
        have h := ih (offset + 1) k
        rwa [Nat.add_assoc, Nat.add_comm 1, ← List.length_cons (a := c)] at h
      cases skipped with
      | succ k =>
          rw [bracedFrom]
          exact (hrest k).mono (Nat.le_succ offset)
      | zero =>
          rw [bracedFrom]
          split
          · refine BeginIn.append (beginIn_singleton rfl (Nat.lt_succ_self offset)) (hrest _) ?_
              (Nat.le_succ offset)
            rw [List.length_cons]
            omega
          · exact (hrest 0).mono (Nat.le_succ offset)

theorem beginIn_ofSegment (offset : Nat) (segment : List Char) :
    BeginIn offset (offset + segment.length) (ofSegment offset segment) := by
  unfold ofSegment
  split
  · split
    · split
      · exact beginIn_nil
      · refine beginIn_singleton rfl ?_
        rw [List.length_cons]
        omega
    · exact beginIn_nil
  · exact beginIn_bracedFrom offset 0 segment

theorem beginIn_ofSegments (offset : Nat) (segments : List (List Char)) :
    BeginIn offset (offset + (['/'].intercalate segments).length) (ofSegments offset segments) := by
  induction segments generalizing offset with
  | nil =>
      rw [ofSegments]
      exact beginIn_nil
  | cons s segments ih =>
      rw [ofSegments]
      cases segments with
      | nil =>
          rw [ofSegments, List.append_nil]
          simpa [List.intercalate] using beginIn_ofSegment offset s
      | cons t segments =>
          have h := ih (offset + s.length + 1)
          have hlength : (['/'].intercalate (s :: t :: segments)).length =
              s.length + 1 + (['/'].intercalate (t :: segments)).length := by
            simp [List.intercalate]
            omega
          rw [hlength, ← Nat.add_assoc, ← Nat.add_assoc]
          exact (beginIn_ofSegment offset s).append (h.mono (Nat.le_succ _)) (by omega)
            (Nat.le_add_right _ _)

theorem beginIn_invalidIn (path : String) :
    BeginIn 0 path.toList.length (invalidIn path) := by
  have h := beginIn_ofSegments 0 (Text.splitAtChar '/' path.toList)
  rw [Text.intercalate_splitAtChar, Nat.zero_add] at h
  exact ⟨h.1.sublist List.filter_sublist, fun p hp => h.2 p (List.mem_filter.mp hp).1⟩

end PathParameter

namespace Document

variable {d : Document} {call literal m n : Node}

/-! ## Quoted texts -/

/-- The node is a quoted text into which no value is put. -/
def IsPlainQuote (d : Document) (n : Node) : Prop :=
  n ∈ d.root.nodes ∧ n.kind ∈ quotedKinds ∧
    (n.kind = "template_string" → ∀ c ∈ n.parts, c.kind ≠ "template_substitution")

theorem stringValue?_cases (h : (d.stringValue? n).isSome = true) :
    n.unwrap.kind ∈ quotedKinds ∧
      (n.unwrap.kind = "template_string" → ∀ c ∈ n.unwrap.parts, c.kind ≠ "template_substitution") ∧
        d.stringValue? n = some (withoutQuotes (d.text n.unwrap)) := by
  rw [stringValue?] at h ⊢
  split_ifs at h ⊢ with hstring htemplate hsubstitution
  · refine ⟨by rw [hstring]; decide, fun h => ?_, rfl⟩
    rw [hstring] at h
    exact absurd h (by decide)
  · exact absurd h Bool.false_ne_true
  · refine ⟨by rw [htemplate]; decide, fun _ c hc hkind => hsubstitution ?_, rfl⟩
    exact List.any_eq_true.mpr ⟨c, hc, beq_iff_eq.mpr hkind⟩
  · exact absurd h Bool.false_ne_true

theorem byteLength_withoutQuotes_lt {s : String} (h : (withoutQuotes s).toList ≠ []) :
    Text.Utf8.byteLength (withoutQuotes s).toList < Text.Utf8.byteLength s.toList := by
  rw [withoutQuotes, String.toList_ofList] at h ⊢
  cases hs : s.toList with
  | nil =>
      rw [hs] at h
      exact absurd rfl h
  | cons c cs =>
      rw [List.drop_one, List.tail_cons, Text.Utf8.byteLength_cons]
      have hle := Text.Utf8.byteLength_le_of_sublist cs.dropLast_sublist
      have hpos := c.utf8Size_pos
      omega

/-- Different quoted texts without values in them are apart. -/
theorem Regular.apart_of_isPlainQuote (hd : d.Regular) (hm : d.IsPlainQuote m)
    (hn : d.IsPlainQuote n) (hne : m ≠ n) : m.stop ≤ n.start ∨ n.stop ≤ m.start := by
  have hone : ∀ m n, d.IsPlainQuote m → d.IsPlainQuote n → n ∈ m.nodes → n = m := by
    rintro m n ⟨hm, hmkind, hmparts⟩ ⟨_, hnkind, _⟩ hnm
    rcases Node.mem_nodes_iff.mp hnm with heq | ⟨c, hc, hnc⟩
    · exact heq
    · exact absurd hnkind (hd.unmixed m hm hmkind hmparts c hc n hnc)
  by_contra hoverlap
  simp only [not_or, not_le] at hoverlap
  rcases hd.mem_nodes_or_mem_nodes d.root.self_mem_nodes hm.1 hn.1 hoverlap.2 hoverlap.1 with h | h
  · exact hne (hone n m hn hm h)
  · exact hne (hone m n hm hn h).symm

/-! ## Paths -/

/-- The call that a path leads back to, from an argument or from an option. -/
def pathCall? (n : Node) : Option Node :=
  match n.climb? with
  | some p => if p.kind = "pair" then p.parent?.bind Node.callOf? else n.callOf?
  | none => none

private theorem pathCall?_of_mem_arguments {a : Node} (ha : a ∈ call.arguments) :
    pathCall? a.unwrap = some call := by
  obtain ⟨list, hlist, hkind, hpart⟩ := Node.exists_of_mem_arguments ha
  rw [pathCall?, Node.climb?_unwrap, Node.climb?_of_mem_children
    (Node.mem_children_of_mem_parts hpart)
    (Node.not_isWrapper_of_kind (List.mem_singleton.mpr hkind) (by decide))]
  dsimp only
  rw [if_neg (by rw [hkind]; decide), Node.callOf?_unwrap, Node.callOf?_of_mem_arguments ha]

theorem mem_pathsIn (hcall : call ∈ d.root.nodes) (h : literal ∈ d.pathsIn call) :
    d.IsPlainQuote literal ∧ literal.unwrap = literal ∧ (d.stringValue? literal).isSome = true ∧
      pathCall? literal = some call := by
  rw [pathsIn] at h
  split at h
  next function first _ hfirst =>
    obtain ⟨a, ha, rfl⟩ := Option.map_eq_some_iff.mp hfirst
    have hargument := List.mem_of_mem_head? ha
    obtain ⟨hamem, hback⟩ := unwrap_argument_back hcall hargument
    obtain ⟨hpath, hvalue⟩ := Option.filter_eq_some_iff.mp (Option.mem_toList.mp h)
    obtain ⟨hquoted, hparts, _⟩ := stringValue?_cases hvalue
    split_ifs at hpath with _ hobject
    · obtain rfl := Option.some_inj.mp hpath
      rw [Node.unwrap_unwrap] at hquoted hparts
      exact ⟨⟨hamem, hquoted, hparts⟩, a.unwrap_unwrap, hvalue,
        pathCall?_of_mem_arguments hargument⟩
    · obtain ⟨value, hproperty, rfl⟩ := Option.map_eq_some_iff.mp hpath
      rw [Node.unwrap_unwrap] at hquoted hparts
      have hkinds : ∀ kind ∈ quotedKinds,
          kind ∉ ["shorthand_property_identifier", "method_definition"] := by decide
      obtain ⟨pair, hpair, hpairkind, hchild, hclimb⟩ :=
        exists_of_property hproperty (hkinds _ hquoted)
      refine ⟨⟨mem_of_unwrap (mem_of_child? (mem_of_mem_parts hamem hpair) hchild), hquoted,
        hparts⟩, value.unwrap_unwrap, hvalue, ?_⟩
      rw [pathCall?, hclimb]
      dsimp only
      rw [if_pos hpairkind, Node.parent?_of_mem_parts hpair, Option.bind_some, hback]
  next => exact absurd h List.not_mem_nil

private theorem pathsIn_nodup (d : Document) (call : Node) : (d.pathsIn call).Nodup := by
  rw [pathsIn]
  split
  · dsimp only
    generalize Option.filter _ _ = path
    cases path with
    | none => exact List.nodup_nil
    | some literal => exact List.nodup_singleton literal
  · exact List.nodup_nil

/-- The remarks about a path begin at different places inside its quotes, from left to right. -/
private theorem Regular.pathRemarks_begin (hd : d.Regular) (hn : d.IsPlainQuote literal)
    (hunwrap : literal.unwrap = literal) (hvalue : (d.stringValue? literal).isSome = true) :
    ((d.pathRemarks literal).Pairwise fun r q => r.span.start < q.span.start) ∧
      ∀ r ∈ d.pathRemarks literal,
        (literal.start : Int) ≤ r.span.start ∧ r.span.start < literal.stop := by
  obtain ⟨hmem, hquoted, _⟩ := hn
  have hbytes := hd.quoted literal hmem hquoted
  obtain ⟨_, _, hpath⟩ := stringValue?_cases hvalue
  rw [hunwrap] at hpath
  set path := withoutQuotes (d.text literal)
  obtain ⟨hpairwise, hbegin⟩ := PathParameter.beginIn_invalidIn path
  have hlt : ∀ p ∈ PathParameter.invalidIn path,
      literal.start + 1 + Text.Utf8.byteLength (path.toList.take p.start) < literal.stop := by
    intro p hp
    have hstart := (hbegin p hp).2
    have htake := Text.Utf8.byteLength_take_lt hstart hstart
    rw [List.take_length] at htake
    have hquotes : Text.Utf8.byteLength path.toList < _ := byteLength_withoutQuotes_lt
      (List.ne_nil_of_length_pos (Nat.zero_lt_of_lt hstart))
    omega
  rw [pathRemarks, hpath, Option.getD_some]
  refine ⟨List.pairwise_map.mpr (hpairwise.imp_of_mem fun {p q} hp _ hpq => ?_), fun r hr => ?_⟩
  · have htake := Text.Utf8.byteLength_take_lt hpq (hbegin p hp).2
    exact Int.ofNat_lt.mpr (Nat.add_lt_add_left htake _)
  · obtain ⟨p, hp, rfl⟩ := List.mem_map.mp hr
    refine ⟨Int.ofNat_le.mpr ?_, Int.ofNat_lt.mpr (hlt p hp)⟩
    dsimp only
    omega

theorem Regular.apart_routeParameters (hd : d.Regular) : Apart d.routeParameters := by
  have hliteral : ∀ literal ∈ (d.find ["call_expression"]).flatMap d.pathsIn,
      d.IsPlainQuote literal ∧ literal.unwrap = literal ∧
        (d.stringValue? literal).isSome = true := fun literal h => by
    obtain ⟨call, hcall, h⟩ := List.mem_flatMap.mp h
    obtain ⟨hquote, hunwrap, hvalue, _⟩ := mem_pathsIn (mem_of_mem_find hcall).1 h
    exact ⟨hquote, hunwrap, hvalue⟩
  have hnodup : ((d.find ["call_expression"]).flatMap d.pathsIn).Nodup :=
    nodup_flatMap_of_back (hd.find_nodup _) pathCall? (fun call _ => d.pathsIn_nodup call)
      fun call hcall literal h => (mem_pathsIn (mem_of_mem_find hcall).1 h).2.2.2
  have hbegin := fun literal h => hd.pathRemarks_begin (hliteral literal h).1
    (hliteral literal h).2.1 (hliteral literal h).2.2
  have hstart : ∀ r q : Remark, r.spot = q.spot → r.span.start = q.span.start := fun r q h =>
    congrArg Prod.fst h
  rw [Apart, routeParameters, List.Nodup, List.pairwise_map, List.pairwise_flatMap]
  refine ⟨fun literal h => (hbegin literal h).1.imp fun hlt heq => hlt.ne (hstart _ _ heq), ?_⟩
  refine hnodup.imp_of_mem fun {m n} hm hn hne r hr q hq heq => ?_
  have hrq := hstart r q heq
  obtain ⟨hmr, hrm⟩ := (hbegin m hm).2 r hr
  obtain ⟨hnq, hqn⟩ := (hbegin n hn).2 q hq
  rcases hd.apart_of_isPlainQuote (hliteral m hm).1 (hliteral n hn).1 hne with h | h
  · omega
  · omega

end Document

end CodeConventions
