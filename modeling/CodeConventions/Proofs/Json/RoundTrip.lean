import CodeConventions.Proofs.Json.Scalar

/-!
# Printed values, read back

A value is read back from its printed form, whatever blanks the layout puts between its parts, if it
has a printed form of its own and the reader takes it: its numbers are integers with few enough
digits, its objects have each key once, and not too many lists and objects lie inside each other
(`Readable`).

A text holds no more digits than it has characters, and no more brackets.  So a reader whose limits
are the length of the text refuses nothing for its size (`readUnbounded`), and it reads every such
value back however large its parts are (`readUnbounded_pretty`).

## Strategy

`ReadsBack` is what the induction carries: the value is read back wherever it stands, whatever
follows it, as long as that does not go on with a number.  For the items of a list and the entries
of an object the statement is proved along the list, since the reader takes them one by one
(`readItems_print`, `readEntries_print`).  Each call of the reader spends one unit of fuel, and
between two calls a character is read at least every second time; so twice the length of what is
read is enough.
-/

namespace CodeConventions.Json

/-- Nothing but blanks stands between the parts of a value. -/
structure Layout.IsBlank (layout : Layout) : Prop where
  gap : ∀ depth, ∀ c ∈ layout.gap depth, isSpace c = true
  afterColon : ∀ c ∈ layout.afterColon, isSpace c = true

theorem Layout.isBlank_indented : Layout.indented.IsBlank where
  gap depth c hc := by
    rcases List.mem_cons.mp hc with rfl | hc
    · rfl
    · rw [List.eq_of_mem_replicate hc]
      rfl
  afterColon c hc := by
    rw [List.mem_singleton.mp hc]
    rfl

/-- A reader of integers with at most `longest` digits takes the value where some number of lists
and objects may still be opened. -/
inductive Readable (longest : Nat) : Nat → Json → Prop where
  | null {room : Nat} : Readable longest room .null
  | bool {room : Nat} (b : Bool) : Readable longest room (.bool b)
  | int {room : Nat} {i : Int} (short : (Nat.toDigits 10 i.natAbs).length ≤ longest) :
      Readable longest room (.int i)
  | text {room : Nat} (s : String) : Readable longest room (.text s)
  | list {room : Nat} {xs : List Json} (items : ∀ x ∈ xs, Readable longest room x) :
      Readable longest (room + 1) (.list xs)
  | object {room : Nat} {es : Entries} (keys : (es.map Prod.fst).Nodup)
      (values : ∀ e ∈ es, Readable longest room e.2) : Readable longest (room + 1) (.object es)

variable {layout : Layout} {longest room depth fuel : Nat} {j x : Json} {xs : List Json}
  {es : Entries} {k : String} {v : Json} {rest : List Char}

/-- An object with different keys is taken as soon as the values are. -/
theorem Readable.ofKeys (keys : List String) (hes : es.map Prod.fst = keys) (hkeys : keys.Nodup)
    (hvalues : ∀ e ∈ es, Readable longest room e.2) : Readable longest (room + 1) (.object es) :=
  .object (hes ▸ hkeys) hvalues

/-- An object with one entry is taken as soon as the value is. -/
theorem Readable.entry (hv : Readable longest room v) (k : String) :
    Readable longest (room + 1) (.object [(k, v)]) :=
  .object (List.nodup_singleton k) (List.forall_mem_singleton.mpr hv)

/-! ## Blanks -/

theorem skip_cons_of_not_isSpace {c : Char} (hc : isSpace c = false) (cs : List Char) :
    skip (c :: cs) = c :: cs :=
  List.dropWhile_cons_of_neg (by simp [hc])

theorem skip_append {gap : List Char} (hgap : ∀ c ∈ gap, isSpace c = true) (cs : List Char) :
    skip (gap ++ cs) = skip cs :=
  List.dropWhile_append_of_pos hgap

theorem endsNumber_of_isSpace {c : Char} (hc : isSpace c = true) (cs : List Char) :
    EndsNumber (c :: cs) := by
  simp only [isSpace, Bool.or_eq_true, beq_iff_eq] at hc
  rcases hc with ((rfl | rfl) | rfl) | rfl <;> exact endsNumber_cons rfl (by decide)

theorem endsNumber_append {gap : List Char} (hgap : ∀ c ∈ gap, isSpace c = true)
    (hrest : EndsNumber rest) : EndsNumber (gap ++ rest) := by
  cases gap with
  | nil => exact hrest
  | cons c gap => exact endsNumber_of_isSpace (hgap c List.mem_cons_self) _

theorem endsNumber_printItems (hl : layout.IsBlank) (depth : Nat) (xs : List Json)
    (rest : List Char) : EndsNumber (printItems layout depth xs ++ rest) := by
  cases xs with
  | nil =>
      rw [printItems_nil, List.append_assoc]
      exact endsNumber_append (hl.gap depth) (endsNumber_cons rfl (by decide))
  | cons x xs =>
      rw [printItems_cons, List.cons_append]
      exact endsNumber_cons rfl (by decide)

theorem endsNumber_printEntries (hl : layout.IsBlank) (depth : Nat) (es : Entries)
    (rest : List Char) : EndsNumber (printEntries layout depth es ++ rest) := by
  cases es with
  | nil =>
      rw [printEntries_nil, List.append_assoc]
      exact endsNumber_append (hl.gap depth) (endsNumber_cons rfl (by decide))
  | cons e es =>
      obtain ⟨k, v⟩ := e
      rw [printEntries_cons, List.cons_append]
      exact endsNumber_cons rfl (by decide)

/-! ## How a printed value begins -/

theorem isSpace_of_isDecimal {c : Char} (hc : Digits.isDecimal c = true) : isSpace c = false := by
  rw [Bool.eq_false_iff]
  intro hspace
  have hends : EndsNumber [c] := endsNumber_of_isSpace hspace []
  exact absurd (hc.symm.trans (hends c rfl).1) (by simp)

/-- A printed value begins neither with a blank nor with a closing bracket. -/
theorem Readable.exists_cons (h : Readable longest room j) (layout : Layout) (depth : Nat) :
    ∃ c cs, print layout depth j = c :: cs ∧ isSpace c = false ∧ c ≠ ']' := by
  cases h with
  | null => exact ⟨'n', _, rfl, rfl, by decide⟩
  | bool b =>
      cases b with
      | true => exact ⟨'t', _, rfl, rfl, by decide⟩
      | false => exact ⟨'f', _, rfl, rfl, by decide⟩
  | @int _ i =>
      rw [print_int, printInt]
      split
      · exact ⟨'-', _, rfl, rfl, by decide⟩
      · obtain ⟨c, cs, htext, hc⟩ := exists_toDigits_append i.natAbs []
        rw [List.append_nil] at htext
        exact ⟨c, cs, htext, isSpace_of_isDecimal hc, ne_of_isDecimal hc rfl⟩
  | text s => exact ⟨'"', _, rfl, rfl, by decide⟩
  | @list _ xs =>
      cases xs with
      | nil => exact ⟨'[', _, rfl, rfl, by decide⟩
      | cons x xs => exact ⟨'[', _, rfl, rfl, by decide⟩
  | @object _ es =>
      cases es with
      | nil => exact ⟨'\x7b', _, rfl, rfl, by decide⟩
      | cons e es => exact ⟨'\x7b', _, rfl, rfl, by decide⟩

theorem Readable.skip_print (h : Readable longest room j) (layout : Layout) (depth : Nat)
    (rest : List Char) : skip (print layout depth j ++ rest) = print layout depth j ++ rest := by
  obtain ⟨c, cs, htext, hc, -⟩ := h.exists_cons layout depth
  rw [htext, List.cons_append, skip_cons_of_not_isSpace hc]

theorem Readable.length_print_pos (h : Readable longest room j) (layout : Layout) (depth : Nat) :
    0 < (print layout depth j).length := by
  obtain ⟨c, cs, htext, -, -⟩ := h.exists_cons layout depth
  rw [htext]
  exact Nat.succ_pos _

/-! ## Parts one by one -/

/-- The value is read back wherever it stands, whatever follows it. -/
def ReadsBack (layout : Layout) (longest room : Nat) (j : Json) : Prop :=
  ∀ depth fuel rest, EndsNumber rest → 2 * (print layout depth j).length ≤ fuel + 1 →
    readValue longest (fuel + 1) room (print layout depth j ++ rest) = .ok (j, rest)

/-- The items of a list are read one after the other, up to the closing bracket. -/
theorem readItems_print (hl : layout.IsBlank) (x : Json) (xs : List Json)
    (hreadable : ∀ y ∈ x :: xs, Readable longest room y)
    (hback : ∀ y ∈ x :: xs, ReadsBack layout longest room y) (depth fuel : Nat) (rest : List Char)
    (hfuel : 2 * (print layout (depth + 1) x ++ printItems layout depth xs).length ≤ fuel) :
    readItems longest fuel room
        (print layout (depth + 1) x ++ (printItems layout depth xs ++ rest)) =
      .ok (x :: xs, rest) := by
  induction xs generalizing x fuel with
  | nil =>
      have hpos := (hreadable x List.mem_cons_self).length_print_pos layout (depth + 1)
      have hlast : 1 ≤ (printItems layout depth []).length := by simp [printItems_nil]
      rw [List.length_append] at hfuel
      obtain ⟨fuel, rfl⟩ : ∃ f, fuel = f + 2 := ⟨fuel - 2, by omega⟩
      have hread := hback x List.mem_cons_self (depth + 1) fuel
        (printItems layout depth [] ++ rest) (endsNumber_printItems hl depth [] rest) (by omega)
      have hskip : skip (printItems layout depth [] ++ rest) = ']' :: rest := by
        rw [printItems_nil, List.append_assoc, skip_append (hl.gap depth)]
        rfl
      rw [readItems, hread]
      dsimp only
      rw [hskip]
      rfl
  | cons y ys ih =>
      have hpos := (hreadable x List.mem_cons_self).length_print_pos layout (depth + 1)
      have hy : Readable longest room y := hreadable y (by simp)
      rw [printItems_cons, List.length_append, List.length_cons, List.append_assoc,
        List.length_append] at hfuel
      obtain ⟨fuel, rfl⟩ : ∃ f, fuel = f + 2 := ⟨fuel - 2, by omega⟩
      have hread := hback x List.mem_cons_self (depth + 1) fuel
        (printItems layout depth (y :: ys) ++ rest) (endsNumber_printItems hl depth _ rest)
        (by omega)
      have hmore := ih y (fun z hz => hreadable z (List.mem_cons_of_mem x hz))
        (fun z hz => hback z (List.mem_cons_of_mem x hz)) (fuel + 1) (by omega)
      have hskip : skip (printItems layout depth (y :: ys) ++ rest) =
          ',' :: (layout.gap (depth + 1) ++ (print layout (depth + 1) y
            ++ (printItems layout depth ys ++ rest))) := by
        rw [printItems_cons, List.cons_append, skip_cons_of_not_isSpace rfl]
        simp only [List.append_assoc]
      rw [readItems, hread]
      dsimp only
      rw [hskip]
      show (readItems longest (fuel + 1) room (skip (layout.gap (depth + 1) ++ _))).map _ = _
      rw [skip_append (hl.gap (depth + 1)), hy.skip_print, hmore]
      rfl

/-- An entry as a reader meets it, with the code points of its key. -/
def pointEntry (e : String × Json) : List Nat × Json := (e.1.toList.map Char.toNat, e.2)

theorem skip_printText (k : String) (cs : List Char) :
    skip (printText k ++ cs) = printText k ++ cs :=
  skip_cons_of_not_isSpace rfl _

/-- What the reader of an object does with a printed entry that it takes. -/
theorem readEntries_step (hl : layout.IsBlank) (hv : Readable longest room v)
    (hread : readValue longest fuel room (print layout (depth + 1) v ++ rest) = .ok (v, rest)) :
    readEntries longest (fuel + 1) room
        (printText k ++ ':' :: (layout.afterColon ++ (print layout (depth + 1) v ++ rest))) =
      match skip rest with
      | '\x7d' :: rest => .ok ([pointEntry (k, v)], rest)
      | ',' :: rest =>
        (readEntries longest fuel room (skip rest)).map fun r => (pointEntry (k, v) :: r.1, r.2)
      | _ => .error .malformed := by
  rw [printText, List.cons_append, List.append_assoc, List.singleton_append, readEntries,
    readPoints_printText]
  have hcolon : isSpace ':' = false := rfl
  simp only [skip_cons_of_not_isSpace hcolon, skip_append hl.afterColon, hv.skip_print, hread]
  rfl

/-- The entries of an object are read one after the other, up to the closing brace. -/
theorem readEntries_print (hl : layout.IsBlank) (k : String) (v : Json) (es : Entries)
    (hreadable : ∀ e ∈ (k, v) :: es, Readable longest room e.2)
    (hback : ∀ e ∈ (k, v) :: es, ReadsBack layout longest room e.2) (depth fuel : Nat)
    (rest : List Char)
    (hfuel : 2 * (printText k ++ ':' :: (layout.afterColon ++ (print layout (depth + 1) v
      ++ printEntries layout depth es))).length ≤ fuel) :
    readEntries longest fuel room (printText k ++ ':' :: (layout.afterColon
        ++ (print layout (depth + 1) v ++ (printEntries layout depth es ++ rest)))) =
      .ok (((k, v) :: es).map pointEntry, rest) := by
  induction es generalizing k v fuel with
  | nil =>
      have hv : Readable longest room v := hreadable (k, v) List.mem_cons_self
      have hpos := hv.length_print_pos layout (depth + 1)
      simp only [List.length_append, List.length_cons] at hfuel
      obtain ⟨fuel, rfl⟩ : ∃ f, fuel = f + 2 := ⟨fuel - 2, by omega⟩
      have hread := hback (k, v) List.mem_cons_self (depth + 1) fuel
        (printEntries layout depth [] ++ rest) (endsNumber_printEntries hl depth [] rest)
        (by dsimp only; omega)
      have hskip : skip (printEntries layout depth [] ++ rest) = '\x7d' :: rest := by
        rw [printEntries_nil, List.append_assoc, skip_append (hl.gap depth)]
        rfl
      rw [readEntries_step hl hv hread, hskip]
      rfl
  | cons e es ih =>
      obtain ⟨l, w⟩ := e
      have hv : Readable longest room v := hreadable (k, v) List.mem_cons_self
      have hpos := hv.length_print_pos layout (depth + 1)
      rw [printEntries_cons] at hfuel
      simp only [List.length_append, List.length_cons] at hfuel
      obtain ⟨fuel, rfl⟩ : ∃ f, fuel = f + 2 := ⟨fuel - 2, by omega⟩
      have hread := hback (k, v) List.mem_cons_self (depth + 1) fuel
        (printEntries layout depth ((l, w) :: es) ++ rest) (endsNumber_printEntries hl depth _ rest)
        (by dsimp only; omega)
      have hmore := ih l w (fun e he => hreadable e (List.mem_cons_of_mem _ he))
        (fun e he => hback e (List.mem_cons_of_mem _ he)) (fuel + 1)
        (by simp only [List.length_append, List.length_cons]; omega)
      have hskip : skip (printEntries layout depth ((l, w) :: es) ++ rest) =
          ',' :: (layout.gap (depth + 1) ++ (printText l ++ ':' :: (layout.afterColon
            ++ (print layout (depth + 1) w ++ (printEntries layout depth es ++ rest))))) := by
        rw [printEntries_cons, List.cons_append, skip_cons_of_not_isSpace rfl]
        simp only [List.append_assoc, List.cons_append]
      rw [readEntries_step hl hv hread, hskip]
      show (readEntries longest (fuel + 1) room (skip (layout.gap (depth + 1) ++ _))).map _ = _
      rw [skip_append (hl.gap (depth + 1)), skip_printText, hmore]
      rfl

/-! ## Objects -/

theorem Entries.set_of_not_mem (hk : k ∉ es.map Prod.fst) (v : Json) :
    es.set k v = es ++ [(k, v)] := by
  induction es with
  | nil => rfl
  | cons e es ih =>
      have hne : e.1 ≠ k := fun h => hk (by simp [h])
      have hmore : k ∉ es.map Prod.fst := fun h => hk (List.mem_cons_of_mem _ h)
      rw [Entries.set, if_neg hne, ih hmore, List.cons_append]

/-- Entries with new keys, each of them once, are put behind the others. -/
theorem Entries.update_of_nodup {others : Entries} (h : ((es ++ others).map Prod.fst).Nodup) :
    es.update others = es ++ others := by
  induction others generalizing es with
  | nil => rw [List.append_nil]; rfl
  | cons e others ih =>
      have hassoc : es ++ e :: others = (es ++ [e]) ++ others := by simp
      have hnew : e.1 ∉ es.map Prod.fst := by
        rw [List.map_append, List.map_cons] at h
        intro he
        exact (List.nodup_append.mp h).2.2 e.1 he e.1 List.mem_cons_self rfl
      show Entries.update (es.set e.1 e.2) others = _
      rw [hassoc] at h ⊢
      rw [Entries.set_of_not_mem hnew]
      exact ih h

/-- Entries with texts as keys, each of them once, make the object with these entries. -/
theorem ofPointEntries_pointEntry (hkeys : (es.map Prod.fst).Nodup) :
    ofPointEntries (es.map pointEntry) = .object es := by
  have hnone : (es.map pointEntry).find? (fun e => (Text.Surrogate.text? e.1).isNone) = none := by
    rw [List.find?_eq_none]
    intro e he
    obtain ⟨e, -, rfl⟩ := List.mem_map.mp he
    rw [pointEntry, Text.Surrogate.text?_toNat]
    exact Bool.false_ne_true
  have hback : ((es.map pointEntry).map fun e => (Text.Surrogate.repaired e.1, e.2)) = es := by
    rw [List.map_map]
    conv_rhs => rw [← List.map_id es]
    refine List.map_congr_left fun e _ => ?_
    show (Text.Surrogate.repaired (e.1.toList.map Char.toNat), e.2) = e
    rw [Text.Surrogate.repaired_toNat]
  rw [ofPointEntries, hnone]
  dsimp only
  rw [hback, ofEntries, Entries.update_of_nodup (by rwa [List.nil_append]), List.nil_append]

/-! ## Values -/

theorem readValue_eq_readScalar {c : Char} (hc : c ≠ '"' ∧ c ≠ '[' ∧ c ≠ '\x7b') (cs : List Char) :
    readValue longest (fuel + 1) room (c :: cs) = readScalar longest (c :: cs) := by
  obtain ⟨hquote, hbracket, hbrace⟩ := hc
  exact readValue.eq_7 longest room (c :: cs) fuel (fun _ h => hquote (List.cons.inj h).1)
    (fun _ _ h => hbracket (List.cons.inj h).1) (fun _ _ _ h => hbracket (List.cons.inj h).1)
    (fun _ _ h => hbrace (List.cons.inj h).1) (fun _ _ _ h => hbrace (List.cons.inj h).1)

theorem readsBack_int {i : Int} (hi : (Nat.toDigits 10 i.natAbs).length ≤ longest) :
    ReadsBack layout longest room (.int i) := by
  intro depth fuel rest hrest _
  have hread := readScalar_printInt hi hrest
  have hscalar : ∃ c cs, printInt i ++ rest = c :: cs ∧ c ≠ '"' ∧ c ≠ '[' ∧ c ≠ '\x7b' := by
    rw [printInt]
    split
    · exact ⟨'-', _, rfl, by decide⟩
    · obtain ⟨c, cs, htext, hc⟩ := exists_toDigits_append i.natAbs rest
      exact ⟨c, cs, htext, ne_of_isDecimal hc rfl, ne_of_isDecimal hc rfl, ne_of_isDecimal hc rfl⟩
  obtain ⟨c, cs, htext, hc⟩ := hscalar
  rw [htext] at hread
  rw [print_int, htext, readValue_eq_readScalar hc, hread]

theorem readsBack_text (s : String) : ReadsBack layout longest room (.text s) := by
  intro depth fuel rest _ _
  rw [print_text, printText, List.cons_append, List.append_assoc, List.singleton_append, readValue,
    readPoints_printText]
  show Except.ok (ofPoints (s.toList.map Char.toNat), rest) = _
  rw [ofPoints_toNat]

theorem readsBack_list (hl : layout.IsBlank) (hreadable : ∀ x ∈ xs, Readable longest room x)
    (hback : ∀ x ∈ xs, ReadsBack layout longest room x) :
    ReadsBack layout longest (room + 1) (.list xs) := by
  intro depth fuel rest _ hfuel
  cases xs with
  | nil => rfl
  | cons x xs =>
      have hx : Readable longest room x := hreadable x List.mem_cons_self
      obtain ⟨c, cs, htext, hspace, hclose⟩ := hx.exists_cons layout (depth + 1)
      rw [print_list] at hfuel ⊢
      simp only [List.length_append, List.length_cons] at hfuel
      have hread := readItems_print hl x xs hreadable hback depth fuel rest
        (by simp only [List.length_append]; omega)
      have hskip : skip (layout.gap (depth + 1) ++ print layout (depth + 1) x
          ++ printItems layout depth xs ++ rest) =
          print layout (depth + 1) x ++ (printItems layout depth xs ++ rest) := by
        rw [List.append_assoc, List.append_assoc, skip_append (hl.gap (depth + 1)), hx.skip_print]
      rw [List.cons_append, readValue, hskip]
      -- the text does not end the list at once, so the reader goes on with the items
      split
      · rename_i heq
        rw [htext, List.cons_append] at heq
        exact absurd (List.cons.inj heq).1 hclose
      · rw [hread]
        rfl

theorem readsBack_object (hl : layout.IsBlank) (hkeys : (es.map Prod.fst).Nodup)
    (hreadable : ∀ e ∈ es, Readable longest room e.2)
    (hback : ∀ e ∈ es, ReadsBack layout longest room e.2) :
    ReadsBack layout longest (room + 1) (.object es) := by
  intro depth fuel rest _ hfuel
  cases es with
  | nil => rfl
  | cons e es =>
      obtain ⟨k, v⟩ := e
      rw [print_object] at hfuel ⊢
      simp only [List.length_append, List.length_cons] at hfuel
      have hread := readEntries_print hl k v es hreadable hback depth fuel rest
        (by simp only [List.length_append, List.length_cons]; omega)
      have hskip : skip (layout.gap (depth + 1) ++ printText k ++ ':' :: layout.afterColon
          ++ print layout (depth + 1) v ++ printEntries layout depth es ++ rest) =
          printText k ++ ':' :: (layout.afterColon ++ (print layout (depth + 1) v
            ++ (printEntries layout depth es ++ rest))) := by
        simp only [List.append_assoc, List.cons_append]
        rw [skip_append (hl.gap (depth + 1)), skip_printText]
      rw [List.cons_append, readValue, hskip]
      split
      · rename_i heq
        exact absurd (List.cons.inj heq).1 (by decide)
      · rw [hread]
        show Except.ok (ofPointEntries (((k, v) :: es).map pointEntry), rest) = _
        rw [ofPointEntries_pointEntry hkeys]

/-- A value that the reader takes is read back from its printed form. -/
theorem Readable.readsBack (hl : layout.IsBlank) (h : Readable longest room j) :
    ReadsBack layout longest room j := by
  induction h with
  | null => exact fun _ _ _ _ _ => rfl
  | bool b =>
      intro depth fuel rest _ _
      cases b <;> rfl
  | int short => exact readsBack_int short
  | text s => exact readsBack_text s
  | list items ih => exact readsBack_list hl items ih
  | object keys values ih => exact readsBack_object hl keys values ih

/-! ## Texts -/

/-- A text that is a printed value is read as that value, if the limits of the reader allow it. -/
theorem ofCharsWithin_print (hl : layout.IsBlank) {limits : Limits}
    (h : Readable limits.digits limits.depth j) (depth : Nat) :
    ofCharsWithin limits (print layout depth j) = .ok j := by
  have hread := h.readsBack hl depth (2 * (print layout depth j).length + 1) [] endsNumber_nil
    (by omega)
  have hskip := h.skip_print layout depth []
  rw [List.append_nil] at hread hskip
  rw [ofCharsWithin, hskip, hread]
  rfl

/-- A value over several lines is read back. -/
theorem read_pretty (h : Readable Limits.usual.digits Limits.usual.depth j) :
    read j.pretty = .ok j := by
  rw [read, ofChars, pretty, String.toList_ofList]
  exact ofCharsWithin_print Layout.isBlank_indented h 0

/-! ## Reading without limits -/

/-- The value that a text is written as, however long its numbers are and however deep its parts
lie: neither can pass the length of the text. -/
def readUnbounded (s : String) : Except JsonFault Json := ofCharsWithin ⟨s.length, s.length⟩ s.toList

theorem Readable.mono {longer more : Nat} (h : Readable longest room j) (hlongest : longest ≤ longer)
    (hroom : room ≤ more) : Readable longer more j := by
  induction h generalizing more with
  | null => exact .null
  | bool b => exact .bool b
  | int short => exact .int (short.trans hlongest)
  | text s => exact .text s
  | list items ih =>
      obtain ⟨more, rfl⟩ : ∃ m, more = m + 1 := ⟨more - 1, by omega⟩
      exact .list fun x hx => ih x hx (by omega)
  | object keys values ih =>
      obtain ⟨more, rfl⟩ : ∃ m, more = m + 1 := ⟨more - 1, by omega⟩
      exact .object keys fun e he => ih e he (by omega)

/-- An item is shorter than its list: the list has a character before each item. -/
theorem length_print_lt_list (hx : x ∈ xs) (layout : Layout) (depth : Nat) :
    (print layout (depth + 1) x).length < (print layout depth (.list xs)).length := by
  have hitems : (print layout (depth + 1) x).length < (printItems layout depth xs).length := by
    induction xs with
    | nil => exact absurd hx List.not_mem_nil
    | cons y ys ih =>
        rw [printItems_cons]
        simp only [List.length_append, List.length_cons]
        rcases List.mem_cons.mp hx with rfl | hx
        · omega
        · have := ih hx
          omega
  cases xs with
  | nil => exact absurd hx List.not_mem_nil
  | cons y ys => rwa [print_list, List.length_cons, ← List.length_cons (a := ','), ← printItems_cons]

/-- The value of an entry is shorter than its object. -/
theorem length_print_lt_object {e : String × Json} (he : e ∈ es) (layout : Layout) (depth : Nat) :
    (print layout (depth + 1) e.2).length < (print layout depth (.object es)).length := by
  have hentries :
      (print layout (depth + 1) e.2).length < (printEntries layout depth es).length := by
    induction es with
    | nil => exact absurd he List.not_mem_nil
    | cons f es ih =>
        rw [printEntries_cons]
        simp only [List.length_append, List.length_cons]
        rcases List.mem_cons.mp he with rfl | he
        · omega
        · have := ih he
          omega
  cases es with
  | nil => exact absurd he List.not_mem_nil
  | cons f es => rwa [print_object, List.length_cons, ← List.length_cons (a := ','), ← printEntries_cons]

/-- The length of the printed form is limit enough for the value. -/
theorem Readable.within_length (h : Readable longest room j) (layout : Layout) (depth : Nat) :
    Readable (print layout depth j).length (print layout depth j).length j := by
  have hpos := h.length_print_pos layout depth
  induction h generalizing depth with
  | null => exact .null
  | bool b => exact .bool b
  | int short =>
      refine .int ?_
      rw [print_int, printInt, List.length_append]
      omega
  | text s => exact .text s
  | @list _ xs items ih =>
      obtain ⟨length, hlength⟩ := Nat.exists_eq_succ_of_ne_zero hpos.ne'
      rw [hlength]
      refine .list fun x hx => ?_
      have hlt := length_print_lt_list hx layout depth
      have hwithin := ih x hx (depth + 1) ((items x hx).length_print_pos layout (depth + 1))
      exact hwithin.mono (by omega) (by omega)
  | @object _ es keys values ih =>
      obtain ⟨length, hlength⟩ := Nat.exists_eq_succ_of_ne_zero hpos.ne'
      rw [hlength]
      refine .object keys fun e he => ?_
      have hlt := length_print_lt_object he layout depth
      have hwithin := ih e he (depth + 1) ((values e he).length_print_pos layout (depth + 1))
      exact hwithin.mono (by omega) (by omega)

/-- A value over several lines is read back, however large it is. -/
theorem readUnbounded_pretty (h : Readable longest room j) : readUnbounded j.pretty = .ok j := by
  rw [readUnbounded, pretty, String.toList_ofList, String.length_ofList]
  exact ofCharsWithin_print Layout.isBlank_indented (h.within_length .indented 0) 0

end CodeConventions.Json
