/-!
# Bytes and characters

UTF-8 as the standard lays it down: a lead byte announces how many bytes follow and which values
the first of them may have.  Reading goes one step at a time.  A step yields a character, or a
*flaw*: the longest run of bytes that begins some character but does not go on as one, together
with the reason.

Two readers share the step.  The strict one stops at the first flaw and says where it is; the
lenient one writes the replacement character for each flaw and goes on.
-/

namespace CodeConventions.Text.Utf8

/-- Why some bytes are not text. -/
inductive Flaw where
  /-- No character begins with this byte. -/
  | badStart
  /-- The byte that follows cannot follow. -/
  | badContinuation
  /-- The bytes end inside a character. -/
  | cutShort
  deriving DecidableEq, Repr

/-- What the bytes begin with: a character or a flaw, and how many bytes it takes. -/
inductive Step where
  | char (c : Char) (length : Nat)
  | flaw (reason : Flaw) (length : Nat)
  deriving DecidableEq, Repr

/-- The number of bytes in a step, never none. -/
def Step.length : Step → Nat
  | .char _ n => n
  | .flaw _ n => n

/-- A byte that may stand inside a character. -/
def isTail (b : UInt8) : Bool := 0x80 ≤ b && b ≤ 0xBF

/-- How many bytes follow a lead byte, and the least and greatest value of the first of them. -/
def lead (b : UInt8) : Option (Nat × UInt8 × UInt8) :=
  if b < 0xC2 then none
  else if b ≤ 0xDF then some (1, 0x80, 0xBF)
  else if b = 0xE0 then some (2, 0xA0, 0xBF)
  else if b = 0xED then some (2, 0x80, 0x9F)
  else if b ≤ 0xEF then some (2, 0x80, 0xBF)
  else if b = 0xF0 then some (3, 0x90, 0xBF)
  else if b ≤ 0xF3 then some (3, 0x80, 0xBF)
  else if b = 0xF4 then some (3, 0x80, 0x8F)
  else none

/-- The six low bits of a byte inside a character. -/
def low (b : UInt8) : Nat := b.toNat % 64

/-- The `owed` bytes that complete a character of which `seen` bytes with value `value` were
read. -/
def complete (value seen : Nat) : Nat → List UInt8 → Step
  | 0, _ => .char (Char.ofNat value) seen
  | _ + 1, [] => .flaw .cutShort seen
  | owed + 1, b :: rest =>
    if isTail b then complete (value * 64 + low b) (seen + 1) owed rest
    else .flaw .badContinuation seen

/-- What the bytes `b :: rest` begin with. -/
def step (b : UInt8) (rest : List UInt8) : Step :=
  if b < 0x80 then .char (Char.ofNat b.toNat) 1
  else
    match lead b with
    | none => .flaw .badStart 1
    | some (owed, least, greatest) =>
      match rest with
      | [] => .flaw .cutShort 1
      | c :: rest =>
        if least ≤ c && c ≤ greatest then
          -- the longer the character, the fewer bits are left in its lead byte
          let head := b.toNat % (if owed = 1 then 32 else if owed = 2 then 16 else 8)
          complete (head * 64 + low c) 2 (owed - 1) rest
        else .flaw .badContinuation 1

theorem length_complete_pos (value seen : Nat) (h : 0 < seen) (owed : Nat) (bs : List UInt8) :
    0 < (complete value seen owed bs).length := by
  induction owed generalizing value seen bs with
  | zero => simpa [complete, Step.length] using h
  | succ owed ih =>
    cases bs with
    | nil => simpa [complete, Step.length] using h
    | cons b rest =>
      unfold complete
      split
      · exact ih _ _ (by omega) rest
      · simpa [Step.length] using h

/-- Every step takes at least one byte. -/
theorem length_step_pos (b : UInt8) (rest : List UInt8) : 0 < (step b rest).length := by
  unfold step
  split
  · simp [Step.length]
  · split
    · simp [Step.length]
    · split
      · simp [Step.length]
      · dsimp only
        split
        · exact length_complete_pos _ _ (by omega) _ _
        · simp [Step.length]

/-- The character that stands for bytes that are not text. -/
def replacement : Char := Char.ofNat 0xFFFD

/-- The lenient reader: each flaw becomes one replacement character.  `fuel` bounds the number of
steps; as every step takes a byte, the number of bytes is enough. -/
def decodeFrom : Nat → List UInt8 → List Char
  | 0, _ => []
  | _ + 1, [] => []
  | fuel + 1, b :: rest =>
    match step b rest with
    | .char c n => c :: decodeFrom fuel (rest.drop (n - 1))
    | .flaw _ n => replacement :: decodeFrom fuel (rest.drop (n - 1))

/-- The characters of some bytes, with a replacement character for each flaw. -/
def decode (bytes : List UInt8) : List Char :=
  decodeFrom bytes.length bytes

/-- Where bytes stop being text: the flaw, the offset of its first byte and its length, and the
byte there. -/
structure DecodeError where
  reason : Flaw
  offset : Nat
  length : Nat
  byte : UInt8
  deriving DecidableEq, Repr

/-- The strict reader, from a byte offset on. -/
def decodeStrictFrom : Nat → Nat → List UInt8 → Except DecodeError (List Char)
  | 0, _, _ => .ok []
  | _ + 1, _, [] => .ok []
  | fuel + 1, offset, b :: rest =>
    match step b rest with
    | .char c n => (decodeStrictFrom fuel (offset + n) (rest.drop (n - 1))).map (c :: ·)
    | .flaw reason n => .error ⟨reason, offset, n, b⟩

/-- The characters of bytes that are text, or the first flaw. -/
def decodeStrict (bytes : List UInt8) : Except DecodeError (List Char) :=
  decodeStrictFrom bytes.length 0 bytes

/-- The wording of a reason. -/
def Flaw.message : Flaw → String
  | .badStart => "invalid start byte"
  | .badContinuation => "invalid continuation byte"
  | .cutShort => "unexpected end of data"

/-- A byte as two hexadecimal digits. -/
def hexByte (b : UInt8) : String :=
  String.ofList [Nat.digitChar (b.toNat / 16), Nat.digitChar (b.toNat % 16)]

/-- The wording of a decoding error: one byte is shown, several are given by their offsets. -/
def DecodeError.message (e : DecodeError) : String :=
  let place :=
    if e.length = 1 then s!"byte 0x{hexByte e.byte} in position {e.offset}"
    else s!"bytes in position {e.offset}-{e.offset + e.length - 1}"
  s!"'utf-8' codec can't decode {place}: {e.reason.message}"

/-- The number of bytes that a text takes. -/
def byteLength (cs : List Char) : Nat :=
  cs.foldl (fun n c => n + c.utf8Size) 0

end CodeConventions.Text.Utf8
