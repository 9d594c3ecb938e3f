import CodeConventions.Text.Utf8
import CodeConventions.Workspace.FilePath

/-!
# Directories and files

A workspace is a directory: a list of names, each of which stands for a file or for a directory in
turn.  A file is some bytes; if they are text, the parser has a tree for it.

A path is followed name by name, and two dots lead back to the directory above.  There is nothing
above the workspace, and nothing where a path begins at a root.
-/

namespace CodeConventions

/-- A file: its bytes, and the parse tree of the text that they are. -/
structure StoredFile where
  bytes : List UInt8
  tree : ParseTree
  deriving Inhabited

/-- What a name stands for. -/
inductive Entry where
  | file (content : StoredFile)
  | directory (entries : List (String × Entry))

/-- A directory with everything in it. -/
abbrev Workspace := List (String × Entry)

namespace Entry

/-- A directory is below this name. -/
def isDirectory : Entry → Bool
  | .directory _ => true
  | .file _ => false

/-- The file that the name stands for. -/
def file? : Entry → Option StoredFile
  | .file f => some f
  | .directory _ => none

mutual

/-- Everything below, with the names that lead to it. -/
def descendants : Entry → List (List String × Entry)
  | .file _ => []
  | .directory es => descendantsAll es

/-- Everything that some names stand for and everything below, with the names that lead to it. -/
def descendantsAll : List (String × Entry) → List (List String × Entry)
  | [] => []
  | (name, e) :: rest =>
    ([name], e) :: ((descendants e).map fun (parts, x) => (name :: parts, x)) ++ descendantsAll rest

end

/-- What some names lead to from an entry; `above` are the directories that lead to it, the nearest
one first. -/
def follow (above : List Entry) (e : Entry) : List String → Option Entry
  | [] => some e
  | name :: rest =>
    match e with
    | .file _ => none
    | .directory es =>
      if name = ".." then
        match above with
        | [] => none
        | up :: above => up.follow above rest
      else
        match es.lookup name with
        | some x => x.follow (e :: above) rest
        | none => none

end Entry

namespace Workspace

/-- What a path leads to. -/
def at? (w : Workspace) (p : FilePath) : Option Entry :=
  if p.root = "" then (Entry.directory w).follow [] p.parts else none

/-- The path leads to a directory. -/
def isDirectory (w : Workspace) (p : FilePath) : Bool := (w.at? p).any Entry.isDirectory

/-- The file that a path leads to. -/
def file? (w : Workspace) (p : FilePath) : Option StoredFile := (w.at? p).bind Entry.file?

/-- The entries with a name put to an entry, which replaces what was there. -/
def put (w : Workspace) (name : String) (e : Entry) : Workspace :=
  match w with
  | [] => [(name, e)]
  | (n, x) :: rest => if n = name then (n, e) :: rest else (n, x) :: put rest name e

/-- The entries with a change made to what some names lead to; directories that are missing on the
way are made. -/
def change (f : Option Entry → Entry) : List String → Workspace → Workspace
  | [], w => w
  | [name], w => w.put name (f (w.lookup name))
  | name :: rest, w =>
    let inner :=
      match w.lookup name with
      | some (.directory es) => es
      | _ => []
    w.put name (.directory (change f rest inner))

/-- The workspace with a file at a path, and the directories that lead to it. -/
def withFile (w : Workspace) (p : FilePath) (f : StoredFile) : Workspace :=
  w.change (fun _ => .file f) p.parts

/-- The workspace with a directory at a path, and the directories that lead to it. -/
def withDirectory (w : Workspace) (p : FilePath) : Workspace :=
  w.change (fun e => e.getD (.directory [])) p.parts

/-- Some names without those that two dots lead back from; `seen` are the names read so far, the
last one first. -/
def settled (seen : List String) : List String → List String
  | [] => seen.reverse
  | name :: rest =>
    if name = ".." then settled (seen.drop 1) rest else settled (name :: seen) rest

end Workspace

/-- Why a file cannot be read. -/
inductive ReadFault where
  | missing (path : FilePath)
  | notText (reason : Text.Utf8.DecodeError)
  deriving DecidableEq, Repr

/-- The text of a fault in reading. -/
def ReadFault.message : ReadFault → String
  | .missing path => s!"File not found: {path.toText}"
  | .notText reason => s!"Cannot read file: {reason.message}"

/-- The text of a file, every line of which ends in a line feed. -/
def StoredFile.text (f : StoredFile) : Except Text.Utf8.DecodeError String :=
  (Text.Utf8.decodeStrict f.bytes).map fun cs => String.ofList (Text.normalizeLineEnds cs)

/-- The document that a path leads to. -/
def Workspace.document (w : Workspace) (p : FilePath) : Except ReadFault Document :=
  match w.file? p with
  | none => .error (.missing p)
  | some f =>
    match f.text with
    | .error reason => .error (.notText reason)
    | .ok text => .ok ⟨p.toText, .ofString text, f.tree⟩

end CodeConventions
