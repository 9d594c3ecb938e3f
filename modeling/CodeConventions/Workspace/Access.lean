import CodeConventions.Text.Quoted
import CodeConventions.Workspace.Entry

/-!
# Why a path leads to no file

What keeps a path from leading to a file.  A name may be too long to be that of anything; but only a
name that is looked up is found to be too long, which is one in a directory that is there.  A path
may also be too long as a whole.

Above the workspace and at the root are directories of which nothing is known but that they are
there.
-/

namespace CodeConventions

/-- Why a path leads to no file. -/
inductive AccessFault where
  | missing
  /-- A name on the way is that of a file. -/
  | notDirectory
  /-- The path leads to a directory. -/
  | isDirectory
  /-- A name or the path as a whole is too long. -/
  | tooLong
  deriving DecidableEq, Repr

namespace AccessFault

/-- The number of the fault. -/
def number : AccessFault → Nat
  | .missing => 2
  | .notDirectory => 20
  | .isDirectory => 21
  | .tooLong => 36

/-- What the fault is called. -/
def name : AccessFault → String
  | .missing => "No such file or directory"
  | .notDirectory => "Not a directory"
  | .isDirectory => "Is a directory"
  | .tooLong => "File name too long"

/-- What is said of a path with the fault. -/
def message (f : AccessFault) (p : FilePath) : String :=
  s!"[Errno {f.number}] {f.name}: {Text.Quoted.encode p.toText}"

end AccessFault

/-- A name that is too long to be that of anything. -/
def isOverlongName (name : String) : Bool := 255 < name.utf8ByteSize

/-- A path that is too long, whatever its names are. -/
def FilePath.isOverlong (p : FilePath) : Bool := 4096 ≤ p.toText.utf8ByteSize

/-- Why some names lead to no file from a directory outside the workspace. -/
def faultOutside (parts : List String) : AccessFault :=
  match parts.dropWhile (· == "..") with
  | [] => .isDirectory
  | name :: _ => if isOverlongName name then .tooLong else .missing

/-- Why some names lead to no file from an entry; `above` are the directories that lead to it, the
nearest one first. -/
def Entry.fault? (above : List Entry) (e : Entry) : List String → Option AccessFault
  | [] => if e.isDirectory then some .isDirectory else none
  | name :: rest =>
    match e with
    | .file _ => some .notDirectory
    | .directory es =>
      if isOverlongName name then some .tooLong
      else if name = ".." then
        match above with
        | [] => some (faultOutside rest)
        | up :: above => up.fault? above rest
      else
        match es.lookup name with
        | some x => x.fault? (e :: above) rest
        | none => some .missing

namespace Workspace

/-- Why a path leads to no file. -/
def fault? (w : Workspace) (p : FilePath) : Option AccessFault :=
  if p.isOverlong then some .tooLong
  else if p.root = "" then (Entry.directory w).fault? [] p.parts
  else some (faultOutside p.parts)

/-- The path is found to be too long. -/
def isTooLong (w : Workspace) (p : FilePath) : Bool := w.fault? p = some .tooLong

/-- The file that a path leads to, or why it leads to none. -/
def openFile (w : Workspace) (p : FilePath) : Except AccessFault StoredFile :=
  match w.fault? p, w.file? p with
  | none, some f => .ok f
  | fault, _ => .error (fault.getD .missing)

/-- The workspace with a text in the file at a path.  The file must lie in a directory that is
there, and no directory may have its name. -/
def save? (w : Workspace) (p : FilePath) (text : String) : Option Workspace :=
  if w.isDirectory p.parent && [none, some .missing].contains (w.fault? p) then
    some (w.withFile ⟨"", settled [] p.parts⟩ ⟨text.toUTF8.toList, default⟩)
  else none

end Workspace

end CodeConventions
