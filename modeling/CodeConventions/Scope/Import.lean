import CodeConventions.Expression.ObjectLiteral

/-!
# Imports

The names that an import statement brings into a file, each with the name it has in the module it
comes from.  The default export and the module as a whole go by the names `default` and `*`.
-/

namespace CodeConventions

/-- A name that an import statement introduces. -/
structure ImportBinding where
  /-- The name in this file. -/
  name : String
  /-- The name in the module. -/
  imported : String
  /-- The module. -/
  source : String
  /-- The name is imported as a type only. -/
  typeOnly : Bool
  node : Node

namespace Document

/-- The name that an import specifier introduces. -/
def specifierImport (d : Document) (source : String) (typeOnly : Bool) (specifier : Node) :
    ImportBinding :=
  let name := specifier.child? "name"
  let imported :=
    match name.bind d.keyName? with
    -- a key without a name counts as it is written
    | some s => if s = "" then d.text? name else s
    | none => d.text? name
  let local_ :=
    match specifier.child? "alias" with
    | some a => d.text a
    | none => imported
  ⟨local_, imported, source, typeOnly || specifier.hasToken "type", specifier⟩

/-- The names that one part of an import clause introduces. -/
def partImports (d : Document) (source : String) (typeOnly : Bool) (part : Node) :
    List ImportBinding :=
  if part.kind = "identifier" then [⟨d.text part, "default", source, typeOnly, part⟩]
  else if part.kind = "namespace_import" then
    match part.firstPart? with
    | some name => [⟨d.text name, "*", source, typeOnly, part⟩]
    | none => []
  else if part.kind = "named_imports" then
    (part.parts.filter fun s => s.kind == "import_specifier").map
      (d.specifierImport source typeOnly)
  else []

/-- The names that an import statement introduces. -/
def importsOf (d : Document) (statement : Node) : List ImportBinding :=
  let source := ((statement.child? "source").bind d.stringValue?).getD ""
  let typeOnly := statement.hasToken "type"
  let clauses := statement.parts.filter fun c => c.kind == "import_clause"
  clauses.flatMap fun clause => clause.parts.flatMap (d.partImports source typeOnly)

/-- The import statements of a file. -/
def importStatements (d : Document) : List Node :=
  d.root.parts.filter fun s => s.kind == "import_statement"

/-- The names that the import statements of a file introduce, repeated ones included. -/
def allImports (d : Document) : List ImportBinding := d.importStatements.flatMap d.importsOf

/-- The import that a name in the file stands for: the first one that introduces it. -/
def import? (d : Document) (name : String) : Option ImportBinding :=
  d.allImports.find? fun b => b.name == name

/-- Each imported name once, with the import that it stands for. -/
def imports (d : Document) : List ImportBinding :=
  d.allImports.foldl
    (fun kept b => if kept.any fun k => k.name == b.name then kept else kept ++ [b]) []

end Document

end CodeConventions
