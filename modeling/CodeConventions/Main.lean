import CodeConventions.CommandLine.Run
import CodeConventions.Json.Reader
import CodeConventions.Workspace.Encoding

/-!
# The command

The words of the command are its arguments.  The workspace stands on the standard input, as it is
handed over by whoever parsed the files.
-/

open CodeConventions in
/-- Runs the command on the workspace, writes the report where it belongs, and ends with the code
of the command. -/
def main (words : List String) : IO UInt32 := do
  let input ← (← IO.getStdin).readToEnd
  let workspace :=
    match Json.read input with
    | .ok value => Workspace.ofJson value
    | .error _ => []
  let outcome := CommandLine.run workspace [] words
  match outcome.saved with
  | some (path, text) => IO.FS.writeFile path.toText text
  | none => pure ()
  IO.print outcome.printed
  return outcome.code.toUInt32
