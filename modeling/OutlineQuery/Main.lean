import OutlineQuery.Command.Report

/-!
The command line: reads the files that a command names, carries it out, and prints its report.
-/
namespace OutlineQuery.Command

/-- The reason why a file cannot be read. -/
def readFailure : IO.Error → String
  | .noFileOrDirectory _ _ _ => "No such file or directory (os error 2)"
  | e => toString e

def readText (path : String) : IO (Except String String) :=
  try
    return .ok (← IO.FS.readFile path)
  catch e =>
    return .error (readFailure e)

def gatherInputs (inv : Invocation) : IO Inputs := do
  let texts ← inv.files.mapM fun path => return (path, ← readText path)
  let stdin ← if inv.action.readsStdin then (← IO.getStdin).readToEnd else pure ""
  return {
    file := fun path => (texts.lookup path).getD (.error (readFailure (.noFileOrDirectory path 2 "")))
    stdin }

end OutlineQuery.Command

open OutlineQuery.Command in
/-- Carries out the command that the arguments ask for. -/
def main (args : List String) : IO UInt32 := do
  match Invocation.ofArguments? args with
  | none =>
    IO.eprintln "usage: [--config FILE] [--verbose] (compile | classify | inject | schema | operators)"
    return 2
  | some inv =>
    let report := inv.run (← gatherInputs inv)
    IO.print report.out
    IO.eprint report.err
    return report.code.toUInt32
