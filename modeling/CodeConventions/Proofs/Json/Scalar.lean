import Mathlib
import CodeConventions.Json.Printer
import CodeConventions.Json.Reader

/-!
# Texts and integers, read back

Between quotes every character is written in ASCII: as itself, as an escape of its own, or as one or
two escapes for units of sixteen bits.  A reader meets the *units* of the character in each of these
forms (`codePoints_escapeChar`), and joining the halves among the units gives the characters back
(`joined_units`).  So a printed text is read as the code points of its characters, whatever follows
its closing quote (`readPoints_printText`).

An integer is printed with a sign if it is negative, and with its digits; a zero stands first only
if it stands alone.  A reader takes all these digits, and it takes no more if what follows cannot go
on with the number (`EndsNumber`).  So the integer is read back, if the reader takes integers of so
many digits (`readScalar_printInt`).
-/

namespace CodeConventions

namespace Text.Surrogate

/-- The units of sixteen bits that a character takes: beyond FFFF it takes two halves. -/
def units (c : Char) : List Nat :=
  if c.toNat < 0x10000 then [c.toNat]
  else [0xD800 + (c.toNat - 0x10000) / 0x400, 0xDC00 + (c.toNat - 0x10000) % 0x400]

/-- A character is a code point below the halves or above them. -/
theorem toNat_valid (c : Char) :
    c.toNat < 0xD800 ∨ 0xDFFF < c.toNat ∧ c.toNat < 0x110000 := c.valid

/-- No character is a half. -/
theorem isHalf_toNat (c : Char) : isHalf c.toNat = false := by
  have hvalid := toNat_valid c
  simp only [isHalf, isHigh, isLow, Bool.or_eq_false_iff, Bool.and_eq_false_iff,
    decide_eq_false_iff_not]
  omega

theorem isHigh_toNat (c : Char) : isHigh c.toNat = false :=
  (Bool.or_eq_false_iff.mp (isHalf_toNat c)).1

/-- A code point that is no first half stays where it is. -/
theorem joined_cons_of_not_isHigh {n : Nat} (hn : isHigh n = false) (rest : List Nat) :
    joined (n :: rest) = n :: joined rest := by
  cases rest with
  | nil => rfl
  | cons lo rest => rw [joined, hn, Bool.false_and, if_neg Bool.false_ne_true]

/-- Joining the halves among the units of some characters gives the characters. -/
theorem joined_units (cs : List Char) : joined (cs.flatMap units) = cs.map Char.toNat := by
  induction cs with
  | nil => rfl
  | cons c cs ih =>
      rw [List.flatMap_cons, List.map_cons, ← ih, units]
      split
      · exact joined_cons_of_not_isHigh (isHigh_toNat c) _
      · rename_i hwide
        have hvalid := toNat_valid c
        have hhigh : isHigh (0xD800 + (c.toNat - 0x10000) / 0x400) = true := by
          simp only [isHigh, Bool.and_eq_true, decide_eq_true_eq]
          omega
        have hlow : isLow (0xDC00 + (c.toNat - 0x10000) % 0x400) = true := by
          simp only [isLow, Bool.and_eq_true, decide_eq_true_eq]
          omega
        have hsum : 0x10000 + (0xD800 + (c.toNat - 0x10000) / 0x400 - 0xD800) * 0x400
            + (0xDC00 + (c.toNat - 0x10000) % 0x400 - 0xDC00) = c.toNat := by
          omega
        show joined (_ :: _ :: cs.flatMap units) = _
        rw [joined, hhigh, hlow, Bool.true_and, if_pos rfl, hsum]

theorem map_ofNat_toNat (cs : List Char) : (cs.map Char.toNat).map Char.ofNat = cs := by
  induction cs with
  | nil => rfl
  | cons c cs ih => rw [List.map_cons, List.map_cons, ih, Char.ofNat_toNat]

/-- The code points of a text are that text. -/
theorem text?_toNat (s : String) : text? (s.toList.map Char.toNat) = some s := by
  have hnone : (s.toList.map Char.toNat).any isHalf = false := by
    simp [isHalf_toNat]
  rw [text?, hnone, if_neg Bool.false_ne_true, map_ofNat_toNat, String.ofList_toList]

/-- Where there is no half, there is nothing to repair. -/
theorem repaired_toNat (s : String) : repaired (s.toList.map Char.toNat) = s := by
  have hkept : ((s.toList.map Char.toNat).map fun n =>
      if isHalf n then Char.ofNat 0xFFFD else Char.ofNat n) = s.toList := by
    rw [List.map_map]
    conv_rhs => rw [← List.map_id s.toList]
    refine List.map_congr_left fun c _ => ?_
    show (if isHalf c.toNat then _ else Char.ofNat c.toNat) = c
    rw [isHalf_toNat, if_neg Bool.false_ne_true, Char.ofNat_toNat]
  rw [repaired, hkept, String.ofList_toList]

end Text.Surrogate

namespace Json

open Text.Surrogate

/-! ## Escapes -/

theorem value?_digitChar : ∀ d < 16, Digits.value? (Nat.digitChar d) = some d := by decide

/-- The escape of a unit is read as the unit. -/
theorem codePoints_unitEscape {n : Nat} (hn : n < 0x10000) (seen : List Nat) (rest : List Char) :
    codePoints seen (unitEscape n ++ rest) = codePoints (n :: seen) rest := by
  have hdigits : hex4? (Nat.digitChar (n / 4096 % 16)) (Nat.digitChar (n / 256 % 16))
      (Nat.digitChar (n / 16 % 16)) (Nat.digitChar (n % 16)) = some n := by
    rw [hex4?, value?_digitChar _ (by omega), value?_digitChar _ (by omega),
      value?_digitChar _ (by omega), value?_digitChar _ (by omega)]
    show some _ = some n
    congr 1
    omega
  show codePoints seen ('\\' :: 'u' :: _ :: _ :: _ :: _ :: rest) = _
  rw [codePoints, hdigits]

/-- A character that needs no escape is read as itself. -/
theorem codePoints_plain {c : Char} (hc : 32 ≤ c.toNat) (hquote : c ≠ '"') (hescape : c ≠ '\\')
    (seen : List Nat) (rest : List Char) :
    codePoints seen (c :: rest) = codePoints (c.toNat :: seen) rest := by
  rw [codePoints.eq_5 seen c rest hquote (fun _ _ _ _ _ h => absurd h hescape)
    (fun _ _ h => absurd h hescape), if_neg (by omega)]

/-- Whatever form a character is written in, its units are read. -/
theorem codePoints_escapeChar (c : Char) (seen : List Nat) (rest : List Char) :
    codePoints seen (escapeChar c ++ rest) = codePoints ((units c).reverse ++ seen) rest := by
  have hvalid := toNat_valid c
  unfold escapeChar
  -- the seven characters with a letter of their own
  iterate 7
    split
    · subst c; rfl
  rename_i hquote hescape _ _ _ _ _
  dsimp only
  split
  · rename_i hplain
    have hrange : 32 ≤ c.toNat ∧ c.toNat < 127 := by simpa using hplain
    have hunits : units c = [c.toNat] := if_pos (by omega)
    rw [hunits]
    exact codePoints_plain hrange.1 hquote hescape seen rest
  split
  · rename_i hnarrow
    have hunits : units c = [c.toNat] := if_pos hnarrow
    rw [hunits]
    exact codePoints_unitEscape hnarrow seen rest
  · rename_i hwide
    rw [List.append_assoc, codePoints_unitEscape (by omega), codePoints_unitEscape (by omega),
      units, if_neg hwide]
    rfl

/-! ## Texts -/

theorem codePoints_flatMap_escapeChar (cs : List Char) (seen : List Nat) (rest : List Char) :
    codePoints seen (cs.flatMap escapeChar ++ '"' :: rest) =
      .ok (seen.reverse ++ cs.flatMap units, rest) := by
  induction cs generalizing seen with
  | nil => simp [codePoints]
  | cons c cs ih =>
      rw [List.flatMap_cons, List.append_assoc, codePoints_escapeChar, ih]
      simp

/-- A printed text is read as the code points of its characters. -/
theorem readPoints_printText (s : String) (rest : List Char) :
    readPoints (s.toList.flatMap escapeChar ++ '"' :: rest) =
      .ok (s.toList.map Char.toNat, rest) := by
  rw [readPoints, codePoints_flatMap_escapeChar]
  show Except.ok (joined ([] ++ s.toList.flatMap units), rest) = _
  rw [List.nil_append, joined_units]

theorem ofPoints_toNat (s : String) : ofPoints (s.toList.map Char.toNat) = .text s := by
  rw [ofPoints, text?_toNat]

end Json

/-! ## Integers -/

namespace Json

/-- What follows does not go on with an integer: neither with another digit, nor with a point, nor
with an exponent. -/
def EndsNumber (rest : List Char) : Prop :=
  ∀ c ∈ rest.head?, Digits.isDecimal c = false ∧ c ≠ '.' ∧ c ≠ 'e' ∧ c ≠ 'E'

variable {rest : List Char} {longest n : Nat}

theorem endsNumber_nil : EndsNumber [] := by
  intro c hc
  exact nomatch hc

theorem endsNumber_cons {c : Char} (hdigit : Digits.isDecimal c = false)
    (hother : c ≠ '.' ∧ c ≠ 'e' ∧ c ≠ 'E') : EndsNumber (c :: rest) := by
  intro d hd
  obtain rfl : c = d := Option.some.inj hd
  exact ⟨hdigit, hother⟩

/-! ## The digits of a number -/

theorem isDecimal_of_mem_toDigits {c : Char} (hc : c ∈ Nat.toDigits 10 n) :
    Digits.isDecimal c = true := by
  have hdigit : c.isDigit = true := Nat.isDigit_of_mem_toDigits (by omega) (by omega) hc
  have hrange : 48 ≤ c.val ∧ c.val ≤ 57 := by simpa [Char.isDigit] using hdigit
  rw [Digits.isDecimal, Bool.and_eq_true, decide_eq_true_eq, decide_eq_true_eq]
  exact hrange

theorem number_toDigits (n : Nat) : Digits.number 10 (Nat.toDigits 10 n) = n := by
  induction n using Nat.strong_induction_on with
  | _ n ih =>
      rcases Nat.lt_or_ge n 10 with hlt | hge
      · rw [Nat.toDigits_of_lt_base hlt]
        show 0 * 10 + (Digits.value? n.digitChar).getD 0 = n
        have hvalue : ∀ d < 10, Digits.value? (Nat.digitChar d) = some d := by decide
        rw [hvalue n hlt, Option.getD_some]
        omega
      · have hvalue : ∀ d < 10, Digits.number 10 [Nat.digitChar d] = d := by decide
        rw [Nat.toDigits_of_base_le (by omega) hge, Digits.number_append, ih (n / 10) (by omega),
          hvalue _ (by omega)]
        show n / 10 * 10 + n % 10 = n
        omega

/-- Only the digits of zero begin with a zero. -/
theorem toDigits_ne_zero_cons (hn : 0 < n) (more : List Char) : Nat.toDigits 10 n ≠ '0' :: more := by
  induction n using Nat.strong_induction_on generalizing more with
  | _ n ih =>
      intro h
      rcases Nat.lt_or_ge n 10 with hlt | hge
      · rw [Nat.toDigits_of_lt_base hlt] at h
        have hzero : n.digitChar = '0' := (List.cons.inj h).1
        have : n = 0 := Nat.digitChar_eq_zero.mp hzero
        omega
      · rw [Nat.toDigits_of_base_le (by omega) hge] at h
        cases hfront : Nat.toDigits 10 (n / 10) with
        | nil => exact Nat.toDigits_ne_nil hfront
        | cons d front =>
            rw [hfront, List.cons_append] at h
            rw [(List.cons.inj h).1] at hfront
            exact ih (n / 10) (by omega) (by omega) front hfront

/-! ## Reading them -/

theorem takeWhile_isDecimal (hrest : EndsNumber rest) : rest.takeWhile Digits.isDecimal = [] := by
  cases rest with
  | nil => rfl
  | cons c rest => exact List.takeWhile_cons_of_neg (by simp [(hrest c rfl).1])

theorem dropWhile_isDecimal (hrest : EndsNumber rest) : rest.dropWhile Digits.isDecimal = rest := by
  cases rest with
  | nil => rfl
  | cons c rest => exact List.dropWhile_cons_of_neg (by simp [(hrest c rfl).1])

/-- The digits of a number are its whole part. -/
theorem wholePart_toDigits (n : Nat) (hrest : EndsNumber rest) :
    wholePart (Nat.toDigits 10 n ++ rest) = some (Nat.toDigits 10 n, rest) := by
  rcases Nat.eq_zero_or_pos n with rfl | hn
  · rfl
  · have hdigits : ∀ c ∈ Nat.toDigits 10 n, Digits.isDecimal c = true :=
      fun c hc => isDecimal_of_mem_toDigits hc
    have hlead : ∀ more, Nat.toDigits 10 n ++ rest ≠ '0' :: more := by
      intro more h
      cases hds : Nat.toDigits 10 n with
      | nil => exact Nat.toDigits_ne_nil hds
      | cons d ds =>
          rw [hds, List.cons_append] at h
          rw [(List.cons.inj h).1] at hds
          exact toDigits_ne_zero_cons hn ds hds
    rw [wholePart.eq_2 _ hlead, List.takeWhile_append_of_pos hdigits,
      List.dropWhile_append_of_pos hdigits, takeWhile_isDecimal hrest, dropWhile_isDecimal hrest,
      List.append_nil, if_neg (by simp)]

theorem fraction_of_endsNumber (hrest : EndsNumber rest) : fraction rest = none := by
  cases rest with
  | nil => rfl
  | cons c rest =>
      unfold fraction
      split
      · rename_i heq
        exact absurd (List.cons.inj heq).1 (hrest c rfl).2.1
      · rfl

theorem exponent_of_endsNumber (hrest : EndsNumber rest) : exponent rest = none := by
  cases rest with
  | nil => rfl
  | cons c rest =>
      obtain ⟨-, -, hlower, hupper⟩ := hrest c rfl
      simp [exponent, hlower, hupper]

/-- The digits of a number are read as the number. -/
theorem readUnsigned_toDigits (negative : Bool) (hn : (Nat.toDigits 10 n).length ≤ longest)
    (hrest : EndsNumber rest) :
    readUnsigned longest negative (Nat.toDigits 10 n ++ rest) =
      .ok (.int (if negative then -(n : Int) else n), rest) := by
  rw [readUnsigned, wholePart_toDigits n hrest]
  dsimp only
  rw [fraction_of_endsNumber hrest]
  dsimp only
  rw [exponent_of_endsNumber hrest]
  dsimp only
  rw [if_neg Bool.false_ne_true, if_neg (by omega), number_toDigits]

/-! ## Integers -/

/-- A number begins with a digit, so it begins with no word of the format. -/
theorem exists_toDigits_append (n : Nat) (rest : List Char) :
    ∃ c cs, Nat.toDigits 10 n ++ rest = c :: cs ∧ Digits.isDecimal c = true := by
  cases hds : Nat.toDigits 10 n with
  | nil => exact absurd hds Nat.toDigits_ne_nil
  | cons c cs =>
      refine ⟨c, cs ++ rest, rfl, isDecimal_of_mem_toDigits (n := n) ?_⟩
      rw [hds]
      exact List.mem_cons_self

theorem ne_of_isDecimal {c d : Char} (hc : Digits.isDecimal c = true)
    (hd : Digits.isDecimal d = false) : c ≠ d := by
  rintro rfl
  exact absurd (hc.symm.trans hd) (by simp)

theorem readScalar_toDigits (hn : (Nat.toDigits 10 n).length ≤ longest)
    (hrest : EndsNumber rest) :
    readScalar longest (Nat.toDigits 10 n ++ rest) = .ok (.int n, rest) := by
  have hread := readUnsigned_toDigits false hn hrest
  obtain ⟨c, cs, htext, hc⟩ := exists_toDigits_append n rest
  rw [htext] at hread ⊢
  have hn' : c ≠ 'n' := ne_of_isDecimal hc rfl
  have ht : c ≠ 't' := ne_of_isDecimal hc rfl
  have hf : c ≠ 'f' := ne_of_isDecimal hc rfl
  have hN : c ≠ 'N' := ne_of_isDecimal hc rfl
  have hI : c ≠ 'I' := ne_of_isDecimal hc rfl
  have hminus : c ≠ '-' := ne_of_isDecimal hc rfl
  have hwords : (words.findSome? fun w => (afterWord? w.1 (c :: cs)).map (w.2, ·)) = none := by
    simp [words, afterWord?, hn'.symm, ht.symm, hf.symm, hN.symm, hI.symm, hminus.symm]
  rw [readScalar, hwords]
  dsimp only
  · exact hread
  · intro more h
    exact hminus (List.cons.inj h).1

theorem readScalar_negative (hn : (Nat.toDigits 10 n).length ≤ longest)
    (hrest : EndsNumber rest) :
    readScalar longest ('-' :: (Nat.toDigits 10 n ++ rest)) = .ok (.int (-n), rest) := by
  have hread := readUnsigned_toDigits true hn hrest
  obtain ⟨c, cs, htext, hc⟩ := exists_toDigits_append n rest
  rw [htext] at hread ⊢
  have hI : c ≠ 'I' := ne_of_isDecimal hc rfl
  have hwords :
      (words.findSome? fun w => (afterWord? w.1 ('-' :: c :: cs)).map (w.2, ·)) = none := by
    simp [words, afterWord?, hI.symm]
  rw [readScalar, hwords]
  exact hread

/-- A printed integer is read back. -/
theorem readScalar_printInt {i : Int} (hi : (Nat.toDigits 10 i.natAbs).length ≤ longest)
    (hrest : EndsNumber rest) :
    readScalar longest (printInt i ++ rest) = .ok (.int i, rest) := by
  unfold printInt
  split
  · rename_i hneg
    have hvalue : -(i.natAbs : Int) = i := by omega
    have hread := readScalar_negative hi hrest
    rwa [hvalue] at hread
  · rename_i hpos
    have hvalue : (i.natAbs : Int) = i := by omega
    have hread := readScalar_toDigits hi hrest
    rwa [hvalue] at hread

end Json

end CodeConventions
