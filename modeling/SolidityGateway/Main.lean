import SolidityGateway.Startup

/-!
The command: it reads the settings from the environment and says where a gateway with them listens,
or which variables are at fault.
-/

namespace SolidityGateway

/-- The variables of the environment that belong to a field, by their names in capitals. -/
def environment : IO (List (Text × Text)) :=
  Settings.names.filterMapM fun name => do
    match (Settings.variableStart ++ name).toString? with
    | none => return none
    | some variableName =>
      let value ← IO.getEnv variableName.toUpper
      return value.map fun value => (Text.ofString variableName, Text.ofString value)

def errorLine (e : FieldError) : String :=
  ((Text.join "." e.place).toString?.getD "") ++ ": " ++ e.complaint.message

end SolidityGateway

open SolidityGateway in
/-- Prints the line of a start, or the fields at fault, with the exit code that goes with it. -/
def main : IO UInt32 := do
  match Settings.load (← environment) [] with
  | .error errors =>
    errors.forM fun e => IO.eprintln (errorLine e)
    return 1
  | .ok settings =>
    match Startup.limit settings with
    | .error e =>
      IO.eprintln e.message
      return 1
    | .ok _ =>
      IO.eprint (((Startup.announcement settings).line).toString?.getD "")
      return 0
