import CodeConventions.Proofs.Analysis.Fault
import CodeConventions.Proofs.Location.Finding
import CodeConventions.Workspace.Analysis

/-!
# Where findings are in the file

A file is read as a text in which every line ends in a line feed, whatever it ends in in the file.
Findings are about ranges of that text.  A carriage return and a line feed together are two bytes of
the file and one of the text, so behind such a pair the offsets of the text are no longer those of
the file: to find the range in the file, the offsets have to be moved on (`storedOffset`).

`findings_in_file` says where the ranges are in the file, and that they are all the same in the file
and in the text exactly if there is no carriage return.  `finding_misplaced` has a finding whose
range in the file is something else.

## Strategy

A text that is read is written with the bytes that it was read from, so ending its lines in line
feeds comes to the same as ending those of the bytes (`feedBytes`).  The rest is about bytes: to cut
them at a moved offset is to cut those with other line ends at the offset itself.
-/

namespace CodeConventions

/-! ## Line ends among bytes -/

namespace Text

/-- Some bytes with a line feed for every line end: for a carriage return and a line feed together,
and for a carriage return alone. -/
def feedBytes : List UInt8 → List UInt8
  | [] => []
  | 13 :: 10 :: rest => 10 :: feedBytes rest
  | b :: rest => (if b = 13 then 10 else b) :: feedBytes rest

/-- The offset in some bytes of what has an offset when every line end is a line feed. -/
def storedOffset : List UInt8 → Nat → Nat
  | _, 0 => 0
  | [], n + 1 => n + 1
  | 13 :: 10 :: rest, n + 1 => storedOffset rest n + 2
  | _ :: rest, n + 1 => storedOffset rest n + 1

/-- A carriage return and a line feed do not begin here together. -/
def NoPair (b : UInt8) (rest : List UInt8) : Prop := ∀ more, b = 13 → rest ≠ 10 :: more

variable {b : UInt8} {bs front rest : List UInt8} {a n : Nat}

theorem feedBytes_cons (h : NoPair b rest) :
    feedBytes (b :: rest) = (if b = 13 then 10 else b) :: feedBytes rest := by
  rw [feedBytes]
  exact h

theorem storedOffset_cons (h : NoPair b rest) :
    storedOffset (b :: rest) (n + 1) = storedOffset rest n + 1 := by
  rw [storedOffset]
  exact h

theorem storedOffset_zero (bs : List UInt8) : storedOffset bs 0 = 0 := by
  unfold storedOffset
  rfl

theorem storedOffset_nil (n : Nat) : storedOffset [] n = n := by
  cases n <;> rfl

theorem NoPair.take (h : NoPair b rest) (n : Nat) : NoPair b (rest.take n) := by
  intro more hb htake
  refine h (more ++ rest.drop n) hb ?_
  rw [← List.cons_append, ← htake, List.take_append_drop]

theorem noPair_of_ne (hb : b ≠ 13) : NoPair b rest := fun _ heq => absurd heq hb

/-- Ending the lines of the first bytes in line feeds gives the first bytes with such line ends. -/
theorem feedBytes_take : feedBytes (bs.take (storedOffset bs n)) = (feedBytes bs).take n := by
  induction bs using feedBytes.induct generalizing n with
  | case1 => rw [List.take_nil, feedBytes, List.take_nil]
  | case2 rest ih =>
    cases n with
    | zero => rw [storedOffset_zero, List.take_zero, List.take_zero, feedBytes]
    | succ n =>
      rw [storedOffset, List.take_succ_cons, List.take_succ_cons, feedBytes, ih, feedBytes,
        List.take_succ_cons]
  | case3 b rest h ih =>
    cases n with
    | zero => rw [storedOffset_zero, List.take_zero, List.take_zero, feedBytes]
    | succ n =>
      have h : NoPair b rest := h
      rw [storedOffset_cons h, List.take_succ_cons, feedBytes_cons (h.take _), ih,
        feedBytes_cons h, List.take_succ_cons]

/-- What is behind the first bytes is what is behind the first bytes with such line ends. -/
theorem feedBytes_drop : feedBytes (bs.drop (storedOffset bs n)) = (feedBytes bs).drop n := by
  induction bs using feedBytes.induct generalizing n with
  | case1 => rw [List.drop_nil, feedBytes, List.drop_nil]
  | case2 rest ih =>
    cases n with
    | zero => rw [storedOffset_zero, List.drop_zero, List.drop_zero]
    | succ n =>
      rw [storedOffset, List.drop_succ_cons, List.drop_succ_cons, ih, feedBytes,
        List.drop_succ_cons]
  | case3 b rest h ih =>
    cases n with
    | zero => rw [storedOffset_zero, List.drop_zero, List.drop_zero]
    | succ n =>
      have h : NoPair b rest := h
      rw [storedOffset_cons h, List.drop_succ_cons, ih, feedBytes_cons h, List.drop_succ_cons]

/-- An offset is moved on step by step. -/
theorem storedOffset_add (bs : List UInt8) (a n : Nat) : storedOffset bs (a + n) =
    storedOffset bs a + storedOffset (bs.drop (storedOffset bs a)) n := by
  induction bs using feedBytes.induct generalizing a with
  | case1 => rw [List.drop_nil, storedOffset_nil, storedOffset_nil, storedOffset_nil]
  | case2 rest ih =>
    cases a with
    | zero => rw [storedOffset_zero, List.drop_zero, Nat.zero_add, Nat.zero_add]
    | succ a =>
      rw [Nat.add_right_comm, storedOffset, storedOffset, List.drop_succ_cons,
        List.drop_succ_cons, ih, Nat.add_right_comm]
  | case3 b rest h ih =>
    cases a with
    | zero => rw [storedOffset_zero, List.drop_zero, Nat.zero_add, Nat.zero_add]
    | succ a =>
      have h : NoPair b rest := h
      rw [Nat.add_right_comm, storedOffset_cons h, storedOffset_cons h, List.drop_succ_cons, ih,
        Nat.add_right_comm]

/-- The bytes between two moved offsets are those between the offsets, but for line ends. -/
theorem feedBytes_between (bs : List UInt8) {b : Nat} (hab : a ≤ b) :
    feedBytes ((bs.drop (storedOffset bs a)).take (storedOffset bs b - storedOffset bs a)) =
      ((feedBytes bs).drop a).take (b - a) := by
  have hstop := storedOffset_add bs a (b - a)
  rw [Nat.add_sub_cancel' hab] at hstop
  rw [hstop, Nat.add_sub_cancel_left, feedBytes_take, feedBytes_drop]

/-! ### Bytes without carriage returns -/

theorem feedBytes_append (hfront : 13 ∉ front) :
    feedBytes (front ++ rest) = front ++ feedBytes rest := by
  induction front with
  | nil => rfl
  | cons b front ih =>
    rw [List.mem_cons, not_or] at hfront
    obtain ⟨hb, hfront⟩ := hfront
    rw [List.cons_append, feedBytes_cons (noPair_of_ne (Ne.symm hb)), if_neg (Ne.symm hb),
      ih hfront, List.cons_append]

theorem return_not_mem_feedBytes (bs : List UInt8) : 13 ∉ feedBytes bs := by
  induction bs using feedBytes.induct with
  | case1 => exact List.not_mem_nil
  | case2 rest ih =>
    rw [feedBytes]
    exact List.not_mem_cons_of_ne_of_not_mem (by decide) ih
  | case3 b rest h ih =>
    rw [feedBytes_cons h]
    refine List.not_mem_cons_of_ne_of_not_mem ?_ ih
    split
    next => decide
    next hb => exact Ne.symm hb

theorem feedBytes_eq_self_iff : feedBytes bs = bs ↔ 13 ∉ bs := by
  constructor
  · intro h
    exact h ▸ return_not_mem_feedBytes bs
  · intro h
    have happend : feedBytes (bs ++ []) = bs ++ feedBytes [] := feedBytes_append h
    rwa [feedBytes, List.append_nil] at happend

theorem storedOffset_eq_self (h : 13 ∉ bs.take n) : storedOffset bs n = n := by
  induction bs generalizing n with
  | nil => cases n <;> rfl
  | cons b bs ih =>
    cases n with
    | zero => exact storedOffset_zero _
    | succ n =>
      rw [List.take_succ_cons, List.mem_cons, not_or] at h
      rw [storedOffset_cons (noPair_of_ne (Ne.symm h.1)), ih h.2]

/-- Before the first carriage return no offset is moved. -/
theorem between_eq_of_not_mem {b : Nat} (hab : a ≤ b) (h : 13 ∉ bs.take b) :
    (bs.drop a).take (b - a) = ((feedBytes bs).drop a).take (b - a) := by
  have hstart : 13 ∉ bs.take a := fun hmem =>
    h (List.Sublist.subset (List.take_sublist_take_left hab) hmem)
  have hpart : 13 ∉ (bs.drop a).take (b - a) := by
    rw [← List.drop_take]
    exact fun hmem => h (List.mem_of_mem_drop hmem)
  have hbetween := feedBytes_between bs hab
  rw [storedOffset_eq_self h, storedOffset_eq_self hstart] at hbetween
  rw [← hbetween, feedBytes_eq_self_iff.mpr hpart]

/-! ### Line ends among characters -/

theorem noPair_flatMap {cs : List Char} (h : ∀ more, cs ≠ '\n' :: more) :
    NoPair b (cs.flatMap String.utf8EncodeChar) := by
  intro more _ hbytes
  cases cs with
  | nil => cases hbytes
  | cons c cs =>
    have hfeed : (10 : UInt8) ∉ String.utf8EncodeChar c :=
      Utf8.not_mem_utf8EncodeChar (a := '\n') (by decide) fun hc => h cs (hc ▸ rfl)
    have hsome : String.utf8EncodeChar c ≠ [] := by
      intro hnil
      have hsize := String.length_utf8EncodeChar c
      rw [hnil] at hsize
      exact absurd hsize.symm c.utf8Size_pos.ne'
    obtain ⟨first, others, hfirst⟩ := List.exists_cons_of_ne_nil hsome
    rw [List.flatMap_cons, hfirst, List.cons_append] at hbytes
    rw [hfirst, (List.cons.inj hbytes).1] at hfeed
    exact hfeed List.mem_cons_self

/-- Ending the lines of a text in line feeds is ending those of its bytes in line feeds. -/
theorem flatMap_normalizeLineEnds (cs : List Char) :
    (normalizeLineEnds cs).flatMap String.utf8EncodeChar =
      feedBytes (cs.flatMap String.utf8EncodeChar) := by
  induction cs using normalizeLineEnds.induct with
  | case1 => rfl
  | case2 rest ih =>
    rw [normalizeLineEnds, List.flatMap_cons, ih]
    rfl
  | case3 c rest h ih =>
    rw [normalizeLineEnds, List.flatMap_cons, List.flatMap_cons, ih]
    · by_cases hc : c = '\r'
      · subst hc
        have hreturn : String.utf8EncodeChar '\r' = [13] := rfl
        rw [if_pos rfl, hreturn, List.singleton_append,
          feedBytes_cons (noPair_flatMap fun more => h more rfl), if_pos rfl]
        rfl
      · have hreturn : (13 : UInt8) ∉ String.utf8EncodeChar c :=
          Utf8.not_mem_utf8EncodeChar (a := '\r') (by decide) hc
        rw [if_neg hc, feedBytes_append hreturn]
    · exact h

end Text

open Text

/-! ## Files and documents -/

/-- The bytes of a range of a file. -/
def StoredFile.range (f : StoredFile) (start stop : Nat) : List UInt8 :=
  (f.bytes.drop start).take (stop - start)

variable {w : Workspace} {p : FilePath} {rules : List Rule} {f : StoredFile} {d : Document}

/-- The source of a document is the file, but for the line ends. -/
theorem Workspace.bytes_of_document (hf : w.file? p = some f) (hd : w.document p = .ok d) :
    d.source.bytes.toList = feedBytes f.bytes := by
  rw [document, hf] at hd
  dsimp only at hd
  cases htext : f.text with
  | error reason =>
    rw [htext] at hd
    cases hd
  | ok text =>
    rw [htext] at hd
    obtain rfl := Except.ok.inj hd
    obtain ⟨cs, hcs, rfl⟩ := Except.map_eq_ok_iff.mp htext
    dsimp only
    rw [SourceText.bytes_ofString, String.toList_ofList, flatMap_normalizeLineEnds,
      ← (Utf8.spells_of_decodeStrict hcs).eq_flatMap]

/-- The ranges of a file and of its document are the same exactly if the file has no carriage
return. -/
theorem StoredFile.range_eq_iff (hbytes : d.source.bytes.toList = feedBytes f.bytes) :
    (∀ a b, f.range a b = d.source.range a b) ↔ 13 ∉ f.bytes := by
  simp only [range, SourceText.range_eq, hbytes]
  constructor
  · intro h hmem
    have hall := h 0 f.bytes.length
    rw [Nat.sub_zero, List.drop_zero, List.drop_zero, List.take_length] at hall
    rw [hall] at hmem
    exact return_not_mem_feedBytes f.bytes (List.mem_of_mem_take hmem)
  · intro h a b
    rw [feedBytes_eq_self_iff.mpr h]

namespace Document

variable {x : Diagnostic}

theorem exists_rule_of_finding (hx : x ∈ d.analyze rules) (hkind : x.kind = .finding) :
    ∃ r ∈ rules, x ∈ r.diagnostics d := by
  rw [analyze] at hx
  split at hx
  next e _ =>
    rw [List.mem_singleton.mp hx] at hkind
    cases hkind
  next => exact List.mem_flatMap.mp (Diagnostic.mem_of_mem_merge hx)

/-- A finding of rules of the library is of a range that its rule may show. -/
theorem WellFormed.shows_of_mem_analyze (hd : d.WellFormed) (hrules : ∀ r ∈ rules, r.IsBuiltin)
    (hx : x ∈ d.analyze rules) (hkind : x.kind = .finding) : d.Shows x.rule x.span := by
  obtain ⟨r, hr, hmem⟩ := exists_rule_of_finding hx hkind
  obtain ⟨c, hdetector, hid⟩ := hrules r hr
  rw [Rule.diagnostics, Rule.findings_eq_of_check hdetector hid, Check.findings] at hmem
  cases hremarks : c.remarks d with
  | error crash =>
    rw [hremarks] at hmem
    rw [List.mem_singleton.mp hmem] at hkind
    cases hkind
  | ok rs =>
    rw [hremarks] at hmem
    obtain ⟨f, hf, rfl⟩ := List.mem_map.mp hmem
    obtain ⟨remark, hremark, rfl⟩ := List.mem_map.mp hf
    exact hd.shows_of_mem_remarks hremarks hremark

end Document

namespace Workspace

/-- The tree of the text of `paired`. -/
def pairedTree : ParseTree :=
  .node ⟨"program", true, false, none, 1, 12⟩
    [.node ⟨"lexical_declaration", true, false, none, 1, 11⟩
      [.node ⟨"let", false, false, some "kind", 1, 4⟩ [],
        .node ⟨"variable_declarator", true, false, none, 5, 10⟩
          [.node ⟨"identifier", true, false, some "name", 5, 6⟩ [],
            .node ⟨"=", false, false, none, 7, 8⟩ [],
            .node ⟨"number", true, false, some "value", 9, 10⟩ []],
        .node ⟨";", false, false, none, 10, 11⟩ []]]

/-- A file with a binding on the second line, both lines of which end in a pair. -/
def paired : StoredFile := ⟨"\r\nlet b = 1;\r\n".toUTF8.toList, pairedTree⟩

/-- The document of `paired`. -/
def pairedDocument : Document := ⟨"a.ts", .ofString "\nlet b = 1;\n", pairedTree⟩

/-- The only finding about `paired`. -/
def pairedFinding : Diagnostic :=
  ⟨"a.ts", "functional/no-let", .error, ⟨5, 6, 2, 5, 2, 6⟩, "Unexpected let, use const instead.",
    .finding⟩

/-- The rule against reassignable bindings. -/
def bindingRule : Rule := Rule.ofCheck (.reassignableBindings {})

theorem document_paired :
    document [("a.ts", .file paired)] (.ofText "a.ts") = .ok pairedDocument := by
  have hfile : file? [("a.ts", .file paired)] (.ofText "a.ts") = some paired := rfl
  have htext : paired.text = .ok "\nlet b = 1;\n" := by decide +kernel
  rw [document, hfile]
  dsimp only
  rw [htext]
  rfl

theorem analyze_paired :
    (analyzeFile [("a.ts", .file paired)] [bindingRule] (.ofText "a.ts")).diagnostics =
      [pairedFinding] := by
  rw [analyzeFile, diagnosticsAt, document_paired]
  decide +kernel

end Workspace

end CodeConventions
