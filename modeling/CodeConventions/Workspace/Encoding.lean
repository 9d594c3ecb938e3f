import CodeConventions.Number.Digits
import CodeConventions.Tree.Encoding
import CodeConventions.Workspace.Entry

/-!
# Workspaces as values

A workspace is handed over as one value of the data format: the files by their paths, each as its
text or as its bytes in hexadecimal; directories that are empty; and the parse trees of the files
by the same paths.
-/

namespace CodeConventions.Workspace

/-- The bytes that are written as pairs of hexadecimal digits. -/
def hexBytes : List Char → List UInt8
  | a :: b :: rest =>
    let value (c : Char) : Nat := (Digits.value? c).getD 0
    (value a * 16 + value b).toUInt8 :: hexBytes rest
  | _ => []

/-- The bytes of a file. -/
def bytesOfJson : Json → List UInt8
  | .text s => s.toUTF8.toList
  | j => hexBytes (((j.get? "hex").bind Json.text?).getD "").toList

/-- The tree of a file without any code. -/
def emptyTree : ParseTree := .node ⟨"program", true, false, none, 0, 0⟩ []

/-- The entries of the object under a key, if there is one. -/
def entriesUnder (j : Json) (key : String) : Json.Entries :=
  ((j.get? key).bind Json.entries?).getD []

/-- The workspace that a value describes. -/
def ofJson (j : Json) : Workspace :=
  let trees := entriesUnder j "trees"
  let tree (name : String) : ParseTree :=
    ((trees.get? name).bind ParseTree.ofJson?).getD emptyTree
  let withFiles := (entriesUnder j "files").foldl
    (fun (w : Workspace) e => w.withFile (.ofText e.1) ⟨bytesOfJson e.2, tree e.1⟩) []
  let dirs := (((j.get? "dirs").bind Json.items?).getD []).filterMap Json.text?
  dirs.foldl (fun (w : Workspace) d => w.withDirectory (.ofText d)) withFiles

end CodeConventions.Workspace
