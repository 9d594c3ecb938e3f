import CodeConventions.Proofs.Rules.PathParameter
import CodeConventions.Proofs.Tree.Grammar
import CodeConventions.Rules.Check

/-!
# Where the rule on route paths finds something

This rule does not show nodes but parameters, which are parts of paths.  A parameter ends no earlier
than it begins, and the bytes of the path up to any of its characters are no more than those of the
path.  The path in turn lacks the two quotes of its literal, of one byte each.  So the range of a
parameter lies between the quotes.

More than that, the bytes of the range are exactly those of the parameter, wherever characters of
several bytes or line feeds come before it (`Document.WellFormed.routeParameters_shown`).

## Strategy

Three ways to count have to agree: parameters are known by characters of the path, ranges by bytes
of the source, and places by lines and columns.  The bytes between the quotes spell the path
(`WellFormed.spells_path`), so the bytes up to a character of the path are those of the characters
before it (`Text.Utf8.Spells.between`); and places are told by the offsets alone.
-/

namespace CodeConventions

/-! ## Literals and their quotes -/

open Text.Utf8

/-- A part of a range is a range. -/
theorem SourceText.drop_take_range (t : SourceText) {a b j k : Nat} (hk : a + k ≤ b) :
    ((t.range a b).take k).drop j = t.range (a + j) (a + k) := by
  rw [t.range_eq, t.range_eq, List.take_take, Nat.min_eq_left (by omega), List.drop_take,
    List.drop_drop, Nat.add_sub_add_left]

theorem byteLength_take_mono {n m : Nat} (h : n ≤ m) (cs : List Char) :
    byteLength (cs.take n) ≤ byteLength (cs.take m) :=
  byteLength_le_of_sublist (List.take_sublist_take_left h)

/-- A text without its quotes lacks two bytes at least. -/
theorem byteLength_withoutQuotes_le {s : String} (h : 2 ≤ byteLength s.toList) :
    byteLength (withoutQuotes s).toList + 2 ≤ byteLength s.toList := by
  rw [withoutQuotes, String.toList_ofList]
  cases hs : s.toList with
  | nil =>
      rw [hs] at h
      exact absurd h (by decide)
  | cons c cs =>
      have hc := c.utf8Size_pos
      rw [List.drop_one, List.tail_cons, byteLength_cons]
      rcases List.eq_nil_or_concat' cs with rfl | ⟨front, last, rfl⟩
      · rw [hs, byteLength_cons] at h
        exact h
      · have hlast := last.utf8Size_pos
        rw [List.dropLast_concat, byteLength_append, byteLength_cons]
        omega

namespace Document

variable {d : Document} {literal n : Node} {a b : Nat}

/-- The range lies between the quotes of a literal in the tree. -/
structure BetweenQuotes (d : Document) (n : Node) (a b : Nat) : Prop where
  mem : n ∈ d.root.nodes
  kind : n.kind ∈ quotedKinds
  start_lt : n.start < a
  le : a ≤ b
  lt_stop : b < n.stop

/-- The offset in the source of a character of a path that is written in a literal. -/
def offsetInPath (literal : Node) (path : String) (n : Nat) : Nat :=
  literal.start + 1 + byteLength (path.toList.take n)

/-- The range of a parameter lies between the quotes of the path. -/
theorem WellFormed.betweenQuotes_of_mem_invalidIn (hd : d.WellFormed)
    (hmem : literal ∈ d.root.nodes) (hkind : literal.kind ∈ quotedKinds) {p : PathParameter}
    (hp : p ∈ PathParameter.invalidIn (withoutQuotes (d.text literal))) :
    d.BetweenQuotes literal (offsetInPath literal (withoutQuotes (d.text literal)) p.start)
      (offsetInPath literal (withoutQuotes (d.text literal)) p.stop) := by
  obtain ⟨hquotes, _⟩ := hd.quotes literal hmem hkind
  have hbytes := hd.byteLength_text hmem
  have hinner := byteLength_withoutQuotes_le (s := d.text literal) (by omega)
  unfold offsetInPath
  set path := withoutQuotes (d.text literal)
  have hlt := (PathParameter.isParameter_of_mem_invalidIn hp).start_lt_stop
  have hends := byteLength_take_mono hlt.le path.toList
  have hstop := byteLength_le_of_sublist (List.take_sublist p.stop path.toList)
  refine ⟨hmem, hkind, ?_, ?_, ?_⟩
  · omega
  · exact Nat.add_le_add_left hends _
  · omega

/-- What is remarked about a path that is written in a literal. -/
theorem pathRemarks_eq (hunwrap : literal.unwrap = literal)
    (hvalue : (d.stringValue? literal).isSome = true) :
    d.pathRemarks literal = (PathParameter.invalidIn (withoutQuotes (d.text literal))).map fun p =>
      ⟨d.source.spanOf (offsetInPath literal (withoutQuotes (d.text literal)) p.start)
        (offsetInPath literal (withoutQuotes (d.text literal)) p.stop),
        invalidParameter p.name⟩ := by
  obtain ⟨_, _, hpath⟩ := stringValue?_cases hvalue
  rw [hunwrap] at hpath
  rw [pathRemarks, hpath, Option.getD_some]
  rfl

/-- The range of every remark about a path lies between the quotes of the path. -/
theorem WellFormed.betweenQuotes_of_mem_pathRemarks (hd : d.WellFormed)
    (hquote : d.IsPlainQuote literal) (hunwrap : literal.unwrap = literal)
    (hvalue : (d.stringValue? literal).isSome = true) {r : Remark}
    (hr : r ∈ d.pathRemarks literal) :
    ∃ a b : Nat, d.BetweenQuotes literal a b ∧ r.span = d.source.spanOf a b := by
  rw [pathRemarks_eq hunwrap hvalue] at hr
  obtain ⟨p, hp, rfl⟩ := List.mem_map.mp hr
  exact ⟨_, _, hd.betweenQuotes_of_mem_invalidIn hquote.1 hquote.2.1 hp, rfl⟩

theorem WellFormed.betweenQuotes_of_mem_routeParameters (hd : d.WellFormed) {r : Remark}
    (hr : r ∈ d.routeParameters) :
    ∃ n, ∃ a b : Nat, d.BetweenQuotes n a b ∧ r.span = d.source.spanOf a b := by
  obtain ⟨literal, hliteral, hr⟩ := List.mem_flatMap.mp hr
  obtain ⟨call, hcall, hliteral⟩ := List.mem_flatMap.mp hliteral
  obtain ⟨hquote, hunwrap, hvalue, _⟩ := mem_pathsIn (mem_of_mem_find hcall).1 hliteral
  exact ⟨literal, hd.betweenQuotes_of_mem_pathRemarks hquote hunwrap hvalue hr⟩

/-- A range between quotes is one of the source. -/
theorem WellFormed.locates_betweenQuotes (hd : d.WellFormed) (h : d.BetweenQuotes n a b) :
    d.source.Locates (d.source.spanOf a b) :=
  d.source.locates_spanOf h.le (h.lt_stop.le.trans (hd.bounded n h.mem))

/-! ## What the ranges hold -/

theorem quote_lt : ∀ q ∈ quoteBytes, q < 0x80 := by decide +kernel

/-- The bytes between the quotes of a literal spell the path that is written there. -/
theorem WellFormed.spells_path (hd : d.WellFormed) (hmem : literal ∈ d.root.nodes)
    (hkind : literal.kind ∈ quotedKinds) :
    Spells (d.source.range (literal.start + 1) (literal.stop - 1))
      (withoutQuotes (d.text literal)).toList := by
  obtain ⟨cs, hcs⟩ := hd.spells_source
  obtain ⟨hlength, q, hq, hfirst, hlast⟩ := hd.quotes literal hmem hkind
  obtain ⟨hstart, hstop⟩ := hd.boundary literal hmem
  have hbounded := hd.bounded literal hmem
  have hspells := SourceText.spells_range hcs hstart hstop (hd.ordered literal hmem)
  have hsize : (d.source.range literal.start literal.stop).length =
      literal.stop - literal.start := by
    rw [← hspells.byteLength_eq]
    exact hd.byteLength_text hmem
  have hascii : q < 0x80 := quote_lt q hq
  have hbyte : ∀ i, i < literal.stop - literal.start →
      (d.source.range literal.start literal.stop)[i]? =
        d.source.bytes.toList[literal.start + i]? := fun i hi => by
    rw [SourceText.range_eq, List.getElem?_take_of_lt hi, List.getElem?_drop]
  have hbegin : (d.source.range literal.start literal.stop)[0]? = some q := by
    rw [hbyte 0 (by omega), Nat.add_zero, hfirst]
  have hend : (d.source.range literal.start literal.stop)[literal.stop - literal.start - 1]? =
      some q := by
    have hplace : literal.start + (literal.stop - literal.start - 1) = literal.stop - 1 := by omega
    rw [hbyte _ (by omega), hplace, hlast]
  rw [← hsize] at hend
  have hinner := hspells.between_ascii (by omega) hascii hascii hbegin hend
  have hplace : literal.start + (literal.stop - literal.start - 1) = literal.stop - 1 := by omega
  rw [hsize, SourceText.drop_take_range _ (by omega), hplace] at hinner
  rw [withoutQuotes, String.toList_ofList]
  exact hinner

/-- The span frames the text: it is that of a range between the quotes of a literal, the bytes there
are those of the text, and the lines and columns are those of both ends. -/
def Frames (d : Document) (literal : Node) (text : List Char) (s : Span) : Prop :=
  ∃ a b : Nat, s.start = a ∧ s.stop = b ∧ d.BetweenQuotes literal a b ∧
    decodeStrict (d.source.range a b) = .ok text ∧
    d.source.LiesAt a s.line s.column ∧ d.source.LiesAt b s.stopLine s.stopColumn

/-- The range of a parameter holds the parameter. -/
theorem WellFormed.frames_of_mem_invalidIn (hd : d.WellFormed) (hmem : literal ∈ d.root.nodes)
    (hkind : literal.kind ∈ quotedKinds) {p : PathParameter}
    (hp : p ∈ PathParameter.invalidIn (withoutQuotes (d.text literal))) :
    d.Frames literal
      (PathParameter.charsBetween (withoutQuotes (d.text literal)).toList p.start p.stop)
      (d.source.spanOf (offsetInPath literal (withoutQuotes (d.text literal)) p.start)
        (offsetInPath literal (withoutQuotes (d.text literal)) p.stop)) := by
  have hbetween := hd.betweenQuotes_of_mem_invalidIn hmem hkind hp
  have hbounded := hd.bounded literal hmem
  have hle := hbetween.le
  have hlt := hbetween.lt_stop
  have hstop : literal.start + 1 +
      byteLength ((withoutQuotes (d.text literal)).toList.take p.stop) ≤ literal.stop - 1 :=
    Nat.le_sub_one_of_lt hlt
  have hspells := (hd.spells_path hmem hkind).between
    (PathParameter.isParameter_of_mem_invalidIn hp).start_lt_stop.le
  rw [SourceText.drop_take_range _ hstop] at hspells
  exact ⟨_, _, rfl, rfl, hbetween, hspells.decodeStrict_eq,
    d.source.liesAt_positionOf (by omega), d.source.liesAt_positionOf (by omega)⟩

/-- The texts in a document that are paths of routes. -/
def routePaths (d : Document) : List Node := (d.find ["call_expression"]).flatMap d.pathsIn

/-- The file ``createFileRoute(`/é⏎/$1ü/{$2}`);``, in which `é` and `ü` take two bytes and the
path goes on behind a line feed. -/
def twoLined : Document :=
  ⟨"a.ts", .ofString "createFileRoute(`/é\n/$1ü/\x7b$2\x7d`);",
    .node ⟨"program", true, false, none, 0, 34⟩
      [.node ⟨"expression_statement", true, false, none, 0, 34⟩
        [.node ⟨"call_expression", true, false, none, 0, 33⟩
          [.node ⟨"identifier", true, false, some "function", 0, 15⟩ [],
            .node ⟨"arguments", true, false, some "arguments", 15, 33⟩
              [.node ⟨"(", false, false, none, 15, 16⟩ [],
                .node ⟨"template_string", true, false, none, 16, 32⟩
                  [.node ⟨"`", false, false, none, 16, 17⟩ [],
                    .node ⟨"string_fragment", true, false, none, 17, 31⟩ [],
                    .node ⟨"`", false, false, none, 31, 32⟩ []],
                .node ⟨")", false, false, none, 32, 33⟩ []]],
          .node ⟨";", false, false, none, 33, 34⟩ []]]⟩

end Document

end CodeConventions
