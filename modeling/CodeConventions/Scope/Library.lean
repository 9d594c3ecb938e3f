import CodeConventions.Scope.Basic

/-!
# Names of libraries

A name stands for an export of a library when it is imported from one of the library's modules, or
when nothing in the file declares it.  A declaration in the file, or an import from elsewhere, makes
it a name of its own.
-/

namespace CodeConventions

/-- The modules of a library. -/
structure Library where
  /-- The text names one of the library's modules. -/
  isModule : String → Bool

namespace Document

/-- The export of a library that a name stands for. -/
def libraryName? (d : Document) (library : Library) (n : Node) : Option String :=
  if n.kind = "identifier" then
    let name := d.text n
    match d.resolve? n with
    | none => some name
    | some declaration =>
      if declaration.kind = "import_statement" then
        match d.import? name with
        | some b => if library.isModule b.source then some b.imported else none
        | none => none
      else none
  else none

/-- The export of a library that a call calls by its plain name. -/
def libraryCallee? (d : Document) (library : Library) (call : Node) : Option String :=
  call.callee?.bind (d.libraryName? library)

end Document

end CodeConventions
