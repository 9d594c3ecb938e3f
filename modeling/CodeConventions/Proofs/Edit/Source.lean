import CodeConventions.Proofs.Edit.Tree
import CodeConventions.Proofs.Except
import CodeConventions.Proofs.Source.Place
import CodeConventions.Rules.Remark

/-!
# Edited documents

An edit puts whole lines before the source of a document and moves its nodes by as many bytes.  The
text of a node stays what it is, since the bytes of its range are the same.  A position moves by the
lines that were put in front; its column stays, since the line it lies on begins after the same line
feed as before, or at the beginning of the old source, before which a line has just ended.
-/

namespace CodeConventions

/-- The span after an edit. -/
def Span.moved (e : Edit) (s : Span) : Span :=
  ⟨s.start + e.offset, s.stop + e.offset, s.line + e.lines, s.column, s.stopLine + e.lines,
    s.stopColumn⟩

/-- The remark after an edit. -/
def Remark.moved (e : Edit) (r : Remark) : Remark := ⟨r.span.moved e, r.message⟩

/-! ## Positions -/

namespace Edit

/-- The last line before the source is complete. -/
theorem takeWhile_reverse_before (e : Edit) :
    e.before.reverse.takeWhile (· != 10) = [] := by
  rcases e.wholeLines with hnil | hlast
  · rw [hnil]
    rfl
  · rw [← List.head?_reverse] at hlast
    obtain ⟨rest, hrest⟩ := List.head?_eq_some_iff.mp hlast
    rw [hrest]
    rfl

/-- A line begins after the same line feed as before. -/
theorem takeWhile_reverse_append (e : Edit) (bytes : List UInt8) :
    (e.before ++ bytes).reverse.takeWhile (· != 10) = bytes.reverse.takeWhile (· != 10) := by
  rw [List.reverse_append, List.takeWhile_append, takeWhile_reverse_before, List.append_nil]
  split
  next hall => exact ((List.takeWhile_sublist _).eq_of_length hall).symm
  next => rfl

end Edit

theorem Position.ofOffset_append (e : Edit) (bytes : List UInt8) (k : Nat) :
    Position.ofOffset (e.before ++ bytes) (k + e.offset : Nat) =
      ⟨(Position.ofOffset bytes k).line + e.lines, (Position.ofOffset bytes k).column⟩ := by
  have hcut : bytesBefore (e.before ++ bytes).length (k + e.offset : Nat) =
      e.before.length + bytesBefore bytes.length k := by
    unfold bytesBefore Edit.offset
    rw [if_pos (by omega), if_pos (by omega), List.length_append]
    omega
  have hshort := (List.takeWhile_sublist (· != 10)
    (l := (bytes.take (bytesBefore bytes.length k)).reverse)).length_le
  rw [List.length_reverse] at hshort
  unfold Position.ofOffset
  rw [hcut, List.take_length_add_append]
  simp only [e.takeWhile_reverse_append, List.count_append, List.length_append, Position.mk.injEq]
  unfold Edit.lines Edit.offset
  omega

namespace SourceText

/-- The source after an edit. -/
def edited (e : Edit) (t : SourceText) : SourceText := ⟨e.before.toArray ++ t.bytes⟩

variable (e : Edit) (t : SourceText)

theorem bytes_edited : (t.edited e).bytes.toList = e.before ++ t.bytes.toList := by
  simp [edited]

@[simp] theorem range_edited (i j : Nat) :
    (t.edited e).range (i + e.offset) (j + e.offset) = t.range i j := by
  rw [range_eq, range_eq, bytes_edited, Nat.add_sub_add_right, Nat.add_comm i, Edit.offset,
    List.drop_length_add_append]

@[simp] theorem textIn_edited (i j : Nat) :
    (t.edited e).textIn (i + e.offset) (j + e.offset) = t.textIn i j := by
  unfold textIn
  rw [range_edited]

@[simp] theorem positionOf_edited (k : Nat) :
    (t.edited e).positionOf ((k : Int) + (e.offset : Int)) =
      ⟨(t.positionOf k).line + e.lines, (t.positionOf k).column⟩ := by
  unfold positionOf
  rw [range_all, range_all, bytes_edited, ← Int.natCast_add, Position.ofOffset_append]

@[simp] theorem spanOf_edited (i j : Nat) :
    (t.edited e).spanOf ((i : Int) + (e.offset : Int)) ((j : Int) + (e.offset : Int)) =
      (t.spanOf i j).moved e := by
  simp [spanOf, Span.moved]

end SourceText

/-! ## Remarks -/

/-- The remarks after an edit, unless the rule crashes. -/
def Remarks.moved (e : Edit) (rs : Remarks) : Remarks := rs.map (List.map (Remark.moved e))

@[simp] theorem Remarks.moved_ok (e : Edit) (rs : List Remark) :
    Remarks.moved e (.ok rs) = .ok (rs.map (Remark.moved e)) := rfl

@[simp] theorem Remarks.moved_error (e : Edit) (crash : Crash) :
    Remarks.moved e (.error crash) = .error crash := rfl

/-- Remarks move together with those that are made before them. -/
theorem Remarks.moved_append (e : Edit) (found : List Remark) (rs : Remarks) :
    (Remarks.moved e rs).map (found.map (Remark.moved e) ++ ·) =
      Remarks.moved e (rs.map (found ++ ·)) := by
  cases rs <;> simp [Except.map]

/-- Remarks made from a result move when those made from each value do. -/
theorem Remarks.map_moved {α : Type} {e : Edit} {f g : α → List Remark}
    (hf : ∀ a, f a = (g a).map (Remark.moved e)) (x : Except Crash α) :
    x.map f = Remarks.moved e (x.map g) := by
  cases x with
  | error crash => rfl
  | ok a => exact congrArg Except.ok (hf a)

/-- The remarks about all of some things move when the remarks about each of them do. -/
theorem remarksFor_moved {α β : Type} {e : Edit} {f : α → β} {g : α → Remarks} {g' : β → Remarks}
    {xs : List α} (hg : ∀ x ∈ xs, g' (f x) = Remarks.moved e (g x)) :
    remarksFor (xs.map f) g' = Remarks.moved e (remarksFor xs g) := by
  induction xs with
  | nil => rfl
  | cons x xs ih =>
    obtain ⟨hx, hxs⟩ := List.forall_mem_cons.mp hg
    rw [List.map_cons, remarksFor, remarksFor, hx, ih hxs]
    cases g x with
    | error crash => rfl
    | ok found => cases remarksFor xs g <;> simp

/-! ## Documents -/

namespace Document

/-- The document after an edit. -/
def edited (e : Edit) (d : Document) : Document := ⟨d.path, d.source.edited e, d.tree.edited e⟩

variable (e : Edit) (d : Document)

@[simp] theorem root_edited : (d.edited e).root = d.root.edited e := rfl

@[simp] theorem text_edited (n : Node) : (d.edited e).text (n.edited e) = d.text n := by
  simp [text, edited]

@[simp] theorem text?_edited (n : Option Node) :
    (d.edited e).text? (n.map (Node.edited e)) = d.text? n := by
  cases n <;> simp [text?]

@[simp] theorem spanOf_edited (n : Node) :
    (d.edited e).spanOf (n.edited e) = (d.spanOf n).moved e := by
  simp [spanOf, edited]

@[simp] theorem remark_edited (n : Node) (message : String) :
    (d.edited e).remark (n.edited e) message = (d.remark n message).moved e := by
  simp [remark, Remark.moved]

@[simp] theorem map_remark_edited (n : Node) (message : Option String) :
    message.map ((d.edited e).remark (n.edited e)) =
      (message.map (d.remark n)).map (Remark.moved e) := by
  cases message <;> simp

theorem map_remark?_edited (n : Option Node) (message : String) :
    ((d.edited e).remark? (n.map (Node.edited e)) message).map (fun r => [r]) =
      Remarks.moved e ((d.remark? n message).map fun r => [r]) := by
  cases n <;> simp [remark?, Except.map]

theorem find_edited {kinds : List String} (hkinds : "comment" ∉ kinds) :
    (d.edited e).find kinds = (d.find kinds).map (Node.edited e) :=
  Node.find_edited e hkinds d.root

end Document

/-- A document is like the document after an edit: no wrapper is put around anything, and what is
left out are comments. -/
def Edit.likeness (e : Edit) (d : Document) : Likeness d (d.edited e) where
  image := Node.edited e
  stand := Node.edited e
  movedKey := e.movedKey
  movedSpan := Span.moved e
  movedKey_injective := e.movedKey_injective
  root_image := rfl
  kind_image := Node.kind_edited e
  key_image := Node.key_edited e
  contains_image := Node.contains_edited e
  spanOf_image := Document.spanOf_edited e d
  text_image := Document.text_edited e d
  text_stand := Document.text_edited e d
  stand_cases _ := Or.inl rfl
  child?_stand := Node.child?_edited e
  parts_stand := Node.parts_edited e
  hasToken_image n _ htext := Node.hasToken_edited e n htext
  stand_of_kind _ _ := rfl
  stand_parameter _ _ _ := rfl
  unwrap_image := Node.unwrap_edited e
  unwrap_stand := Node.unwrap_edited e
  parent?_image _ := Node.parent?_edited e _
  filter_ancestors hp _ n := by rw [Node.ancestors_edited, filter_map_image hp]
  find_image hkinds n :=
    Node.find_edited e (fun hcomment => hkinds _ hcomment (List.mem_cons_self ..)) n
  openElements_image n :=
    Node.filter_openNodes_edited e (fun m => Node.isOneOf_edited e m elementKinds)
      (fun m hm => by simp [Node.isOneOf, elementKinds, hm]) functionKinds.contains n

end CodeConventions
