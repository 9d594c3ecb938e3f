import Mathlib
import CodeConventions.Proofs.Except
import CodeConventions.Text.Utf8

/-!
# Bytes of a text

Every character takes up at least one byte, so what begins at a later character of a text begins at
a later byte.

Bytes *spell* characters when they are read as these characters and nothing in them is a flaw.  Then
they are as many as the characters take, and they may be cut wherever no character goes on: both
parts spell what was on their side of the cut.

## Strategy

A step reads a lead byte and the tail bytes that the lead byte announces, and looks no further.  So
a step reads the same whatever follows, and an offset inside of a character is told by the tail byte
there.  The bits of a character are those of its lead byte, followed by six for each tail byte;
the bounds on the first tail byte keep the number between the least and the greatest one that takes
that many bytes.  So writing the character gives back the bytes that it was read from.
-/

namespace CodeConventions.Text.Utf8

/-! ## Byte lengths -/

private theorem foldl_utf8Size (cs : List Char) (k : Nat) :
    cs.foldl (fun n c => n + c.utf8Size) k = k + byteLength cs := by
  induction cs generalizing k with
  | nil => rfl
  | cons c cs ih =>
      rw [byteLength, List.foldl_cons, List.foldl_cons, ih, ih (0 + c.utf8Size)]
      omega

theorem byteLength_cons (c : Char) (cs : List Char) :
    byteLength (c :: cs) = c.utf8Size + byteLength cs := by
  rw [byteLength, List.foldl_cons, foldl_utf8Size, Nat.zero_add]

theorem byteLength_append (cs ds : List Char) :
    byteLength (cs ++ ds) = byteLength cs + byteLength ds := by
  rw [byteLength, List.foldl_append, foldl_utf8Size]
  rfl

theorem byteLength_pos {cs : List Char} (h : cs ≠ []) : 0 < byteLength cs := by
  cases cs with
  | nil => exact absurd rfl h
  | cons c cs =>
      rw [byteLength_cons]
      exact Nat.add_pos_left c.utf8Size_pos _

/-- The further one goes in a text, the more bytes one has passed. -/
theorem byteLength_take_lt {cs : List Char} {n m : Nat} (hnm : n < m) (hn : n < cs.length) :
    byteLength (cs.take n) < byteLength (cs.take m) := by
  have hsplit : cs.take m = cs.take n ++ (cs.take m).drop n := by
    rw [← List.take_append_drop n (cs.take m), List.take_take, min_eq_left hnm.le,
      List.drop_append_of_le_length (by simp; omega)]
    simp
  rw [hsplit, byteLength_append]
  refine Nat.lt_add_of_pos_right (byteLength_pos fun hnil => ?_)
  have hlength := congrArg List.length hnil
  rw [List.length_drop, List.length_take, List.length_nil] at hlength
  omega

theorem byteLength_le_of_sublist {cs ds : List Char} (h : cs.Sublist ds) :
    byteLength cs ≤ byteLength ds := by
  induction h with
  | slnil => exact le_rfl
  | cons c _ ih =>
      rw [byteLength_cons]
      exact ih.trans (Nat.le_add_left _ _)
  | cons_cons c _ ih =>
      rw [byteLength_cons, byteLength_cons]
      exact Nat.add_le_add_left ih _

/-! ## Characters by their numbers -/

theorem utf8Size_eq (c : Char) :
    c.utf8Size = if c.toNat < 0x80 then 1 else if c.toNat < 0x800 then 2
      else if c.toNat < 0x10000 then 3 else 4 := by
  have hle : ∀ k : UInt32, c.val ≤ k ↔ c.toNat < k.toNat + 1 := fun k => by
    rw [UInt32.le_iff_toNat_le, Nat.lt_succ_iff]
    rfl
  unfold Char.utf8Size
  simp only [hle]
  rfl

/-- A number that is none of a surrogate is the number of a character. -/
theorem toNat_ofNat_of_lt {v : Nat} (h : v < 0xD800 ∨ 0xE000 ≤ v ∧ v < 0x110000) :
    (Char.ofNat v).toNat = v := by
  rw [Char.toNat_ofNat, if_pos (h.imp_right fun hv => ⟨by omega, hv.2⟩)]

/-! ## Steps -/

/-- A step reads the character from the lead byte and the tail bytes, whatever comes after. -/
structure Reads (lead : UInt8) (tail : List UInt8) (c : Char) : Prop where
  isTail : ∀ b ∈ tail, isTail b = true
  size : c.utf8Size = tail.length + 1
  step : ∀ rest, step lead (tail ++ rest) = .char c (tail.length + 1)

theorem complete_eq_char {value seen owed n : Nat} {bs : List UInt8} {c : Char}
    (h : complete value seen owed bs = .char c n) :
    ∃ tail rest v, bs = tail ++ rest ∧ tail.length = owed ∧ (∀ b ∈ tail, isTail b = true) ∧
      c = Char.ofNat v ∧ value * 64 ^ owed ≤ v ∧ v < (value + 1) * 64 ^ owed ∧
      ∀ others, complete value seen owed (tail ++ others) = .char c (seen + owed) := by
  induction owed generalizing value seen bs with
  | zero =>
    unfold complete at h
    cases h
    exact ⟨[], bs, value, rfl, rfl, fun b hb => absurd hb List.not_mem_nil, rfl, by omega, by omega,
      fun others => by rw [complete, Nat.add_zero]⟩
  | succ owed ih =>
    cases bs with
    | nil => cases h
    | cons b bs =>
      unfold complete at h
      split at h
      next htail =>
        obtain ⟨tail, rest, v, rfl, hlength, hall, hc, hlower, hupper, hread⟩ := ih h
        have hlow : low b < 64 := Nat.mod_lt _ (by decide)
        have hpos : 0 < 64 ^ owed := Nat.pow_pos (by decide)
        refine ⟨b :: tail, rest, v, rfl, ?_, ?_, hc, ?_, ?_, ?_⟩
        · rw [List.length_cons, hlength]
        · intro x hx
          rcases List.mem_cons.mp hx with rfl | hx
          · exact htail
          · exact hall x hx
        · calc value * 64 ^ (owed + 1) = value * 64 * 64 ^ owed := by ring
            _ ≤ (value * 64 + low b) * 64 ^ owed := Nat.mul_le_mul_right _ (Nat.le_add_right _ _)
            _ ≤ v := hlower
        · calc v < (value * 64 + low b + 1) * 64 ^ owed := hupper
            _ ≤ ((value + 1) * 64) * 64 ^ owed := Nat.mul_le_mul_right _ (by omega)
            _ = (value + 1) * 64 ^ (owed + 1) := by ring
        · intro others
          rw [List.cons_append, complete, if_pos htail, hread others, Nat.add_assoc,
            Nat.add_comm 1 owed]
      next => cases h

/-- The bits of a lead byte that belong to its character. -/
private def leadBits (b : UInt8) (owed : Nat) : Nat :=
  b.toNat % (if owed = 1 then 32 else if owed = 2 then 16 else 8)

/-- A lead byte and the first tail byte put the number of the character between the bounds for as
many bytes as are announced. -/
private def Bounds (b x : UInt8) (owed : Nat) : Prop :=
  owed = 1 ∧ 0x80 ≤ leadBits b 1 * 64 + low x ∧ leadBits b 1 * 64 + low x < 0x800 ∨
    owed = 2 ∧ 0x800 ≤ (leadBits b 2 * 64 + low x) * 64 ∧
      ((leadBits b 2 * 64 + low x + 1) * 64 ≤ 0xD800 ∨
        0xE000 ≤ (leadBits b 2 * 64 + low x) * 64 ∧
          (leadBits b 2 * 64 + low x + 1) * 64 ≤ 0x10000) ∨
    owed = 3 ∧ 0x10000 ≤ (leadBits b 3 * 64 + low x) * 4096 ∧
      (leadBits b 3 * 64 + low x + 1) * 4096 ≤ 0x110000

private theorem bounds_of_lead {b x least greatest : UInt8} {owed : Nat}
    (h : lead b = some (owed, least, greatest)) (hleast : least ≤ x) (hgreatest : x ≤ greatest) :
    isTail x = true ∧ Bounds b x owed := by
  have hb := b.toNat_lt
  unfold lead at h
  simp only [Bounds, leadBits, low, Utf8.isTail, Bool.and_eq_true, decide_eq_true_eq]
  simp only [UInt8.le_iff_toNat_le, UInt8.lt_iff_toNat_lt, ← UInt8.toNat_inj] at *
  split_ifs at h <;> cases h <;> simp at * <;> omega

private theorem Bounds.pos {b x : UInt8} {owed : Nat} (h : Bounds b x owed) : 0 < owed := by
  rcases h with ⟨rfl, _⟩ | ⟨rfl, _⟩ | ⟨rfl, _⟩ <;> decide

/-- Within the bounds a character takes as many bytes as are announced. -/
private theorem Bounds.utf8Size_ofNat {b x : UInt8} {owed v : Nat} (h : Bounds b x owed)
    (hlower : (leadBits b owed * 64 + low x) * 64 ^ (owed - 1) ≤ v)
    (hupper : v < (leadBits b owed * 64 + low x + 1) * 64 ^ (owed - 1)) :
    (Char.ofNat v).utf8Size = owed + 1 := by
  rw [utf8Size_eq]
  rcases h with ⟨rfl, hbits⟩ | ⟨rfl, hbits⟩ | ⟨rfl, hbits⟩
  · norm_num at hlower hupper
    rw [toNat_ofNat_of_lt (by omega), if_neg (by omega), if_pos (by omega)]
  · norm_num at hlower hupper
    rw [toNat_ofNat_of_lt (by omega), if_neg (by omega), if_neg (by omega), if_pos (by omega)]
  · norm_num at hlower hupper
    rw [toNat_ofNat_of_lt (by omega), if_neg (by omega), if_neg (by omega), if_neg (by omega)]

/-- A character that is read is read from a lead byte and tail bytes, as many as it takes. -/
theorem reads_of_step {b : UInt8} {rest : List UInt8} {c : Char} {n : Nat}
    (h : step b rest = .char c n) :
    ∃ tail others, rest = tail ++ others ∧ n = tail.length + 1 ∧ Reads b tail c := by
  unfold step at h
  split at h
  next hascii =>
    cases h
    have hlt : b.toNat < 0x80 := UInt8.lt_iff_toNat_lt.mp hascii
    refine ⟨[], rest, rfl, rfl, fun x hx => absurd hx List.not_mem_nil, ?_, fun others => ?_⟩
    · rw [utf8Size_eq, toNat_ofNat_of_lt (Or.inl (by omega)), if_pos hlt]
      rfl
    · rw [step, if_pos hascii]
      rfl
  next hascii =>
    split at h
    · cases h
    next owed least greatest hlead =>
      split at h
      · cases h
      next x xs =>
        split at h
        next hbounds =>
          obtain ⟨hleast, hgreatest⟩ := Bool.and_eq_true_iff.mp hbounds
          obtain ⟨htail, hvalue⟩ := bounds_of_lead hlead (of_decide_eq_true hleast)
            (of_decide_eq_true hgreatest)
          obtain ⟨tail, others, v, rfl, hlength, hall, rfl, hlower, hupper, hread⟩ :=
            complete_eq_char h
          have hpos := hvalue.pos
          have hcount : (x :: tail).length = owed := by
            rw [List.length_cons, hlength]
            omega
          have hsize : (Char.ofNat v).utf8Size = (x :: tail).length + 1 := by
            rw [hcount]
            exact hvalue.utf8Size_ofNat hlower hupper
          have htotal : 2 + (owed - 1) = (x :: tail).length + 1 := by omega
          have hn : n = 2 + (owed - 1) := (Step.char.inj (h.symm.trans (hread others))).2
          refine ⟨x :: tail, others, rfl, hn.trans htotal, ?_, hsize, ?_⟩
          · intro y hy
            rcases List.mem_cons.mp hy with rfl | hy
            · exact htail
            · exact hall y hy
          · intro rest
            rw [List.cons_append, step, if_neg hascii, hlead]
            dsimp only
            rw [if_pos hbounds, hread rest, htotal]
        next => cases h

/-! ## Characters are read as they are written -/

/-- The tail bytes add six bits each to what was read before them. -/
theorem complete_eq_foldl {value seen n : Nat} {tail : List UInt8} {c : Char}
    (h : complete value seen tail.length tail = .char c n) :
    c = Char.ofNat (tail.foldl (fun v b => v * 64 + low b) value) := by
  induction tail generalizing value seen with
  | nil => exact (Step.char.inj h).1.symm
  | cons b tail ih =>
    rw [List.length_cons, complete] at h
    split at h
    · exact ih h
    · cases h

theorem toNat_of_isTail {b : UInt8} (h : isTail b = true) :
    b.toNat = low b + 0x80 ∧ low b < 0x40 := by
  simp only [isTail, Bool.and_eq_true, decide_eq_true_eq, UInt8.le_iff_toNat_le,
    UInt8.reduceToNat] at h
  unfold low
  omega

private theorem toNat_of_lead {b least greatest : UInt8} {owed : Nat}
    (h : lead b = some (owed, least, greatest)) :
    b.toNat = leadBits b owed + if owed = 1 then 0xC0 else if owed = 2 then 0xE0 else 0xF0 := by
  unfold lead at h
  simp only [leadBits, UInt8.le_iff_toNat_le, UInt8.lt_iff_toNat_lt, ← UInt8.toNat_inj] at *
  split_ifs at h <;> cases h <;> simp at * <;> omega

/-- The bits of a character go back to the bytes that they were taken from. -/
private theorem encode_of_bounds {b x least greatest : UInt8} {owed : Nat} {tail : List UInt8}
    {c : Char} (hlead : lead b = some (owed, least, greatest)) (hvalue : Bounds b x owed)
    (hlength : owed - 1 = tail.length) (htail : ∀ y ∈ x :: tail, isTail y = true)
    (hc : c = Char.ofNat (tail.foldl (fun v y => v * 64 + low y) (leadBits b owed * 64 + low x))) :
    b :: x :: tail = String.utf8EncodeChar c := by
  have hb := toNat_of_lead hlead
  obtain ⟨hx, htail⟩ := List.forall_mem_cons.mp htail
  have hx := toNat_of_isTail hx
  rcases hvalue with ⟨rfl, hbits⟩ | ⟨rfl, hbits⟩ | ⟨rfl, hbits⟩
  · obtain rfl := List.length_eq_zero_iff.mp hlength.symm
    rw [List.foldl_nil] at hc
    have hnumber : c.val.toNat = leadBits b 1 * 64 + low x := by
      rw [hc]
      exact toNat_ofNat_of_lt (by omega)
    norm_num at hb
    rw [String.utf8EncodeChar, hnumber, if_neg (by omega), if_pos (by omega)]
    simp only [List.cons.injEq, and_true, ← UInt8.toNat_inj, UInt8.toNat_ofNat']
    omega
  · obtain ⟨y, rfl⟩ := List.length_eq_one_iff.mp hlength.symm
    have hy := toNat_of_isTail (htail y (List.mem_singleton_self y))
    rw [List.foldl_cons, List.foldl_nil] at hc
    have hnumber : c.val.toNat = (leadBits b 2 * 64 + low x) * 64 + low y := by
      rw [hc]
      exact toNat_ofNat_of_lt (by omega)
    norm_num at hb
    rw [String.utf8EncodeChar, hnumber, if_neg (by omega), if_neg (by omega), if_pos (by omega)]
    simp only [List.cons.injEq, and_true, ← UInt8.toNat_inj, UInt8.toNat_ofNat']
    omega
  · obtain ⟨y, z, rfl⟩ := List.length_eq_two.mp hlength.symm
    have hy := toNat_of_isTail (htail y (by simp))
    have hz := toNat_of_isTail (htail z (by simp))
    rw [List.foldl_cons, List.foldl_cons, List.foldl_nil] at hc
    have hnumber : c.val.toNat =
        ((leadBits b 3 * 64 + low x) * 64 + low y) * 64 + low z := by
      rw [hc]
      exact toNat_ofNat_of_lt (by omega)
    norm_num at hb
    rw [String.utf8EncodeChar, hnumber, if_neg (by omega), if_neg (by omega), if_neg (by omega)]
    simp only [List.cons.injEq, and_true, ← UInt8.toNat_inj, UInt8.toNat_ofNat']
    omega

/-- A character that is read from some bytes is written with these bytes. -/
theorem Reads.eq_utf8EncodeChar {b : UInt8} {tail : List UInt8} {c : Char} (h : Reads b tail c) :
    b :: tail = String.utf8EncodeChar c := by
  have hstep := h.step []
  rw [List.append_nil] at hstep
  unfold Utf8.step at hstep
  split at hstep
  next hascii =>
    obtain ⟨rfl, hlength⟩ := Step.char.inj hstep
    have htail : tail = [] := List.length_eq_zero_iff.mp (by omega)
    have hlt : b.toNat < 0x80 := UInt8.lt_iff_toNat_lt.mp hascii
    have hnumber : (Char.ofNat b.toNat).val.toNat = b.toNat :=
      toNat_ofNat_of_lt (Or.inl (by omega))
    rw [htail, String.utf8EncodeChar, hnumber, if_pos (by omega), UInt8.ofNat_toNat]
  next =>
    split at hstep
    next => cases hstep
    next owed least greatest hlead =>
    cases tail with
    | nil => cases hstep
    | cons x tail =>
      dsimp only at hstep
      split at hstep
      next hbounds =>
        obtain ⟨hleast, hgreatest⟩ := Bool.and_eq_true_iff.mp hbounds
        obtain ⟨-, hvalue⟩ := bounds_of_lead hlead (of_decide_eq_true hleast)
          (of_decide_eq_true hgreatest)
        obtain ⟨t, rest, v, rfl, hlength, -, -, -, -, hread⟩ := complete_eq_char hstep
        have hrest : owed - 1 = (t ++ rest).length := by
          have hsize := (Step.char.inj (hstep.symm.trans (hread rest))).2
          have hpos := hvalue.pos
          rw [List.length_cons] at hsize
          omega
        rw [hrest] at hstep
        exact encode_of_bounds hlead hvalue hrest h.isTail (complete_eq_foldl hstep)
      next => cases hstep

/-! ## Texts -/

/-- Bytes that are read as these characters, without a flaw. -/
inductive Spells : List UInt8 → List Char → Prop where
  | nil : Spells [] []
  | cons {lead : UInt8} {tail rest : List UInt8} {c : Char} {cs : List Char}
      (hc : Reads lead tail c) (hcs : Spells rest cs) : Spells (lead :: (tail ++ rest)) (c :: cs)

/-- No character goes on at the offset. -/
def IsBoundary (bs : List UInt8) (offset : Nat) : Prop :=
  ∀ b ∈ bs[offset]?, isTail b = false

namespace Spells

variable {bs : List UInt8} {cs front back : List Char}

/-- Bytes that spell some characters are those that the characters are written with. -/
theorem eq_flatMap (h : Spells bs cs) : bs = cs.flatMap String.utf8EncodeChar := by
  induction h with
  | nil => rfl
  | cons hc _ ih => rw [List.flatMap_cons, ← hc.eq_utf8EncodeChar, ← ih, List.cons_append]

/-- The bytes are as many as the characters take. -/
theorem byteLength_eq (h : Spells bs cs) : byteLength cs = bs.length := by
  induction h with
  | nil => rfl
  | cons hc _ ih =>
    rw [byteLength_cons, hc.size, ih, List.length_cons, List.length_append]
    omega

/-- A text is spelled in two parts wherever no character goes on. -/
theorem cut (h : Spells bs cs) {offset : Nat} (hoffset : IsBoundary bs offset) :
    ∃ front back, cs = front ++ back ∧ Spells (bs.take offset) front ∧
      Spells (bs.drop offset) back := by
  induction h generalizing offset with
  | nil => exact ⟨[], [], rfl, by rw [List.take_nil]; exact .nil, by rw [List.drop_nil]; exact .nil⟩
  | @cons lead tail rest c cs hc hcs ih =>
    by_cases hzero : offset = 0
    · subst hzero
      exact ⟨[], c :: cs, rfl, .nil, .cons hc hcs⟩
    by_cases hinside : offset ≤ tail.length
    · -- the byte at the offset is one of the tail
      have hlt : offset - 1 < tail.length := by omega
      have hbyte : (lead :: (tail ++ rest))[offset]? = some tail[offset - 1] := by
        rw [List.getElem?_cons, if_neg hzero, List.getElem?_append_left hlt,
          List.getElem?_eq_getElem hlt]
      have htail := hc.isTail _ (List.getElem_mem hlt)
      rw [hoffset _ hbyte] at htail
      cases htail
    · obtain ⟨k, rfl⟩ : ∃ k, offset = tail.length + k + 1 := ⟨offset - tail.length - 1, by omega⟩
      have hrest : IsBoundary rest k := by
        intro b hb
        refine hoffset b ?_
        rwa [List.getElem?_cons_succ, List.getElem?_append_right (by omega), Nat.add_sub_cancel_left]
      obtain ⟨front, back, rfl, hfront, hback⟩ := ih hrest
      refine ⟨c :: front, back, rfl, ?_, ?_⟩
      · rw [List.take_succ_cons, List.take_length_add_append]
        exact .cons hc hfront
      · rw [List.drop_succ_cons, List.drop_length_add_append]
        exact hback

/-- The bytes of two texts one after the other spell one text and then the other. -/
theorem split (h : Spells bs (front ++ back)) :
    Spells (bs.take (byteLength front)) front ∧ Spells (bs.drop (byteLength front)) back := by
  induction front generalizing bs with
  | nil => exact ⟨.nil, h⟩
  | cons c front ih =>
    cases h with
    | @cons lead tail rest _ _ hc hcs =>
      obtain ⟨hfront, hback⟩ := ih hcs
      have hlength : byteLength (c :: front) = tail.length + byteLength front + 1 := by
        rw [byteLength_cons, hc.size]
        omega
      rw [hlength, List.take_succ_cons, List.drop_succ_cons, List.take_length_add_append,
        List.drop_length_add_append]
      exact ⟨.cons hc hfront, hback⟩

/-- A part of a text is spelled by the bytes behind those of what comes before it. -/
theorem between (h : Spells bs cs) {n m : Nat} (hnm : n ≤ m) :
    Spells ((bs.take (byteLength (cs.take m))).drop (byteLength (cs.take n)))
      ((cs.take m).drop n) := by
  have hfront : Spells (bs.take (byteLength (cs.take m))) (cs.take m) := by
    rw [← List.take_append_drop m cs] at h
    exact h.split.1
  have hcut : cs.take m = cs.take n ++ (cs.take m).drop n := by
    have htake := List.take_append_drop n (cs.take m)
    rw [List.take_take, Nat.min_eq_left hnm] at htake
    exact htake.symm
  generalize byteLength (cs.take m) = length at hfront
  rw [hcut] at hfront
  exact hfront.split.2

/-- A character that is begun with a byte of its own is that byte. -/
theorem exists_cons_of_ascii {b : UInt8} {rest : List UInt8} (h : Spells (b :: rest) cs)
    (hb : b < 0x80) : ∃ more, cs = Char.ofNat b.toNat :: more ∧ Spells rest more := by
  generalize hbs : b :: rest = bs at h
  cases h with
  | nil => cases hbs
  | @cons lead tail others c more hc hmore =>
    obtain ⟨rfl, hrest⟩ := List.cons.inj hbs
    have hstep := hc.step others
    rw [step, if_pos hb] at hstep
    obtain ⟨rfl, hlength⟩ := Step.char.inj hstep
    obtain rfl : tail = [] := List.length_eq_zero_iff.mp (by omega)
    exact ⟨more, rfl, hrest ▸ hmore⟩

/-- Between two bytes that are characters of their own stands the text without these characters. -/
theorem between_ascii (h : Spells bs cs) (hlength : 2 ≤ bs.length) {a b : UInt8}
    (ha : a < 0x80) (hb : b < 0x80) (hfirst : bs[0]? = some a)
    (hlast : bs[bs.length - 1]? = some b) :
    Spells ((bs.take (bs.length - 1)).drop 1) (cs.drop 1).dropLast := by
  obtain ⟨rest, rfl⟩ : ∃ rest, bs = a :: rest := by
    cases bs with
    | nil => cases hfirst
    | cons x rest => exact ⟨rest, by rw [Option.some_inj.mp hfirst]⟩
  obtain ⟨more, rfl, hrest⟩ := h.exists_cons_of_ascii ha
  obtain ⟨front, last, rfl⟩ : ∃ front last, rest = front ++ [last] := by
    rcases List.eq_nil_or_concat' rest with rfl | hconcat
    · exact absurd hlength (Nat.not_succ_le_self 1)
    · exact hconcat
  rw [List.length_cons, List.length_append, List.length_singleton, Nat.add_sub_cancel,
    List.getElem?_cons_succ, List.getElem?_concat_length, Option.some_inj] at hlast
  subst hlast
  have hboundary : IsBoundary (front ++ [last]) front.length := by
    intro x hx
    rw [List.getElem?_concat_length, Option.mem_some_iff] at hx
    subst hx
    rw [isTail, decide_eq_false (UInt8.not_le.mpr hb), Bool.false_and]
  obtain ⟨before, after, rfl, hbefore, hafter⟩ := hrest.cut hboundary
  rw [List.drop_left] at hafter
  obtain ⟨none', rfl, hnone⟩ := hafter.exists_cons_of_ascii hb
  cases hnone
  rw [List.take_left] at hbefore
  rw [List.length_cons, List.length_append, List.length_singleton, Nat.add_sub_cancel,
    List.take_succ_cons, List.take_left, List.drop_one, List.drop_one, List.tail_cons,
    List.tail_cons, List.dropLast_concat]
  exact hbefore

/-- A reader with enough steps reads what is spelled. -/
theorem decodeFrom_eq (h : Spells bs cs) {fuel : Nat} (hfuel : bs.length ≤ fuel) :
    decodeFrom fuel bs = cs := by
  induction h generalizing fuel with
  | nil => cases fuel <;> rfl
  | @cons lead tail rest c cs hc _ ih =>
    cases fuel with
    | zero => exact absurd hfuel (Nat.not_succ_le_zero _)
    | succ fuel =>
      rw [List.length_cons, List.length_append] at hfuel
      rw [decodeFrom, hc.step rest]
      dsimp only
      rw [Nat.add_sub_cancel, List.drop_left, ih (by omega)]

theorem decode_eq (h : Spells bs cs) : decode bs = cs := h.decodeFrom_eq le_rfl

/-- The strict reader reads what is spelled. -/
theorem decodeStrictFrom_eq (h : Spells bs cs) {fuel offset : Nat} (hfuel : bs.length ≤ fuel) :
    decodeStrictFrom fuel offset bs = .ok cs := by
  induction h generalizing fuel offset with
  | nil => cases fuel <;> rfl
  | @cons lead tail rest c cs hc _ ih =>
    cases fuel with
    | zero => exact absurd hfuel (Nat.not_succ_le_zero _)
    | succ fuel =>
      rw [List.length_cons, List.length_append] at hfuel
      rw [decodeStrictFrom, hc.step rest]
      dsimp only
      rw [Nat.add_sub_cancel, List.drop_left, ih (by omega)]
      rfl

theorem decodeStrict_eq (h : Spells bs cs) : decodeStrict bs = .ok cs :=
  h.decodeStrictFrom_eq le_rfl

end Spells

/-- What the strict reader takes for text is spelled. -/
theorem spells_of_decodeStrictFrom {fuel offset : Nat} {bs : List UInt8} {cs : List Char}
    (hfuel : bs.length ≤ fuel) (h : decodeStrictFrom fuel offset bs = .ok cs) : Spells bs cs := by
  induction fuel generalizing offset bs cs with
  | zero =>
    obtain rfl := List.length_eq_zero_iff.mp (Nat.le_zero.mp hfuel)
    cases h
    exact .nil
  | succ fuel ih =>
    cases bs with
    | nil =>
      cases h
      exact .nil
    | cons b rest =>
      unfold decodeStrictFrom at h
      cases hstep : step b rest with
      | flaw reason n =>
        rw [hstep] at h
        cases h
      | char c n =>
        obtain ⟨tail, others, rfl, rfl, hread⟩ := reads_of_step hstep
        rw [hread.step others] at h
        obtain ⟨more, hmore, rfl⟩ := Except.map_eq_ok_iff.mp h
        rw [Nat.add_sub_cancel, List.drop_left] at hmore
        rw [List.length_cons, List.length_append] at hfuel
        exact .cons hread (ih (by omega) hmore)

theorem spells_of_decodeStrict {bs : List UInt8} {cs : List Char} (h : decodeStrict bs = .ok cs) :
    Spells bs cs :=
  spells_of_decodeStrictFrom le_rfl h

end CodeConventions.Text.Utf8
