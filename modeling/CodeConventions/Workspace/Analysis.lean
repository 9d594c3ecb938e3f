import CodeConventions.Analysis.File
import CodeConventions.Settings.Basic
import CodeConventions.Workspace.Access

/-!
# The analysis of a workspace

A path that leads to a directory stands for the source files below it, in the order of the names
that lead to them.  Directories that hold libraries or are hidden are passed over, unless a path
leads there itself.  A path that leads to no directory stands for itself, whatever it leads to.  But
each path is looked up, and a path that is too long for that ends the search.

Every file has a result: a file that cannot be read has one diagnostic that says so.
-/

namespace CodeConventions

/-- The directory is passed over. -/
def isSkippedDirectory (name : String) : Bool :=
  name == "node_modules" || Text.beginsWith "." name

/-- The ending of a name, in small letters. -/
def endingOf (name : String) : String :=
  Text.lower (String.ofList (FilePath.splitEnding name.toList).2)

/-- Some names come before others: the first name that differs decides. -/
def precedes (a b : List String × Entry) : Bool := !decide (b.1 < a.1)

namespace Workspace

/-- What is below a directory, in the order of the names that lead there. -/
def listing (w : Workspace) (p : FilePath) : List (List String × Entry) :=
  (((w.at? p).map Entry.descendants).getD []).mergeSort precedes

/-- The names lead to a file that is collected. -/
def isSource (endings : List String) (found : List String × Entry) : Bool :=
  found.2.file?.isSome && !found.1.dropLast.any isSkippedDirectory
    && endings.contains (endingOf (found.1.getLast?.getD ""))

/-- The files that a path stands for. -/
def collectOne (w : Workspace) (endings : List String) (p : FilePath) : List FilePath :=
  if w.isDirectory p then
    ((w.listing p).filter (isSource endings)).map fun found => p.append found.1
  else [p]

/-- The files that some paths stand for, in the order of the paths. -/
def collect (w : Workspace) (settings : Settings) (paths : List FilePath) : List FilePath :=
  paths.flatMap (w.collectOne (settings.extensions.map Text.lower))

/-- The files that some paths stand for, or the first path that is too long to be looked up. -/
def gather (w : Workspace) (settings : Settings) (paths : List FilePath) :
    Except FilePath (List FilePath) :=
  match paths.find? w.isTooLong with
  | some p => .error p
  | none => .ok (w.collect settings paths)

/-- The diagnostics of a file under some rules. -/
def diagnosticsAt (w : Workspace) (rules : List Rule) (p : FilePath) : List Diagnostic :=
  match w.document p with
  | .ok d => d.analyze rules
  | .error fault => [(ParseError.ofFile p.toText fault.message).toDiagnostic]

/-- The result of a file under some rules. -/
def analyzeFile (w : Workspace) (rules : List Rule) (p : FilePath) : FileResult :=
  ⟨p.toText, w.diagnosticsAt rules p⟩

/-- The result of a file under some rules, with the name of the file as it was given. -/
def analyzeNamed (w : Workspace) (rules : List Rule) (name : String) : FileResult :=
  ⟨name, w.diagnosticsAt rules (.ofText name)⟩

/-- The results of the files that some paths stand for. -/
def analyzeAll (w : Workspace) (settings : Settings) (rules : List Rule) (paths : List FilePath) :
    List FileResult :=
  (w.collect settings paths).map (w.analyzeFile rules)

end Workspace

end CodeConventions
