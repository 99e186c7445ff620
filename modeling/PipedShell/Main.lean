import PipedShell.Launch

/-!
# The command line

The process around `Launch.run`: it reads the variables that are settings and all of the standard
input, and writes what comes out of the run.  There is no line editor.
-/

namespace PipedShell.Launch

/-- The values of the variables that are settings. -/
def settingVariables : IO (List (Text × Text)) :=
  Config.fieldNames.filterMapM fun field => do
    let name := Config.variableName field
    return (← IO.getEnv (String.ofList name)).map fun value => (name, value.toList)

end PipedShell.Launch

open PipedShell in
/-- Runs the program on the streams and variables of the process. -/
def main (arguments : List String) : IO UInt32 := do
  let input ← IO.getStdin
  let settings ← Launch.settingVariables
  let report := Launch.run
    { arguments := arguments.map String.toList
      environment := fun name => settings.lookup name
      stdin := (← input.readToEnd).toList
      terminal := (← input.isTty)
      editor := false }
  IO.print (String.ofList report.stdout)
  IO.eprint (String.ofList (report.stderr ++ report.ending.complaint))
  return report.ending.systemCode
