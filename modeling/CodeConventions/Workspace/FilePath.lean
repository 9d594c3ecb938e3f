import CodeConventions.Text.Words
import CodeConventions.Text.Lines
import CodeConventions.Tree.Document

/-!
# Paths of files

A path is a list of names, and it may begin at the root.  Slashes in a row count as one, except
that exactly two at the beginning are a root of their own.  A single dot is no name, and two dots
are a name like any other.

The last name may have an *ending*: its last dot and what follows it.  A name has no ending if
nothing stands before or behind that dot.
-/

namespace CodeConventions

/-- A path: what it begins with (nothing, one slash or two), and its names. -/
structure FilePath where
  root : String
  parts : List String
  deriving DecidableEq, Repr, Inhabited

namespace FilePath

/-- The root of a path that begins with a number of slashes. -/
def rootOf (slashes : Nat) : String :=
  if slashes = 0 then "" else if slashes = 2 then "//" else "/"

/-- The path that a text is. -/
def ofText (s : String) : FilePath :=
  let cs := s.toList
  ⟨rootOf (cs.takeWhile (· == '/')).length,
    ((Text.splitAtChar '/' cs).filter fun p => p != [] && p != ['.']).map String.ofList⟩

/-- The text of a path. -/
def toText (p : FilePath) : String :=
  if p.root = "" && p.parts.isEmpty then "." else p.root ++ Text.joined "/" p.parts

/-- The last name. -/
def name (p : FilePath) : String := p.parts.getLast?.getD ""

/-- The path without its last name. -/
def parent (p : FilePath) : FilePath := ⟨p.root, p.parts.dropLast⟩

/-- The path of something below this path. -/
def append (p : FilePath) (parts : List String) : FilePath := ⟨p.root, p.parts ++ parts⟩

/-- A name without its ending, and the ending. -/
def splitEnding (name : List Char) : List Char × List Char :=
  let ending := (name.reverse.takeWhile (· != '.')).reverse
  match name.reverse.dropWhile (· != '.') with
  | '.' :: stem =>
    -- a dot at either end of a name begins no ending
    if stem.isEmpty || ending.isEmpty then (name, []) else (stem.reverse, '.' :: ending)
  | _ => (name, [])

/-- The last name without its ending. -/
def stem (p : FilePath) : String := String.ofList (splitEnding p.name.toList).1

/-- The ending of the last name. -/
def ending (p : FilePath) : String := String.ofList (splitEnding p.name.toList).2

/-- The two parts of a name make up the name. -/
theorem splitEnding_append (name : List Char) :
    (splitEnding name).1 ++ (splitEnding name).2 = name := by
  unfold splitEnding
  dsimp only
  split
  next stem h =>
    split
    · simp
    · have := congrArg List.reverse
        (List.takeWhile_append_dropWhile (p := fun c => c != '.') (l := name.reverse))
      rw [h, List.reverse_append, List.reverse_cons, List.reverse_reverse] at this
      simpa using this
  · simp

end FilePath

/-- The endings of files in the plain grammar. -/
def Language.plainEndings : List String := [".ts", ".mts", ".cts"]

/-- The grammar that a file is read by; it has markup unless the ending says otherwise. -/
def Language.ofPath (path : FilePath) : Language :=
  if plainEndings.contains (Text.lower path.ending) then .plain else .withMarkup

end CodeConventions
