import OpenBadges.CommandLine.Program

/-!
# Running the program

Takes the command line and the environment from the system. There is no network
behind it, so every request fails.
-/

namespace OpenBadges

/-- The variables that the program looks at. -/
def variableNames : List String := ["BADGEFLOW_BASE_URL", "BADGEFLOW_CSRF_TOKEN", "BADGEFLOW_CONFIG"]

/-- The values of variables that are set. -/
def readVariables : IO (Dict String) := do
  let found ← variableNames.mapM fun name => do
    return (← IO.getEnv name).map fun value => (name, value)
  return .ofList (found.filterMap id)

/-- The content of a file, if it can be read. -/
def readFile? (path : String) : IO (Option String) := do
  try
    return some (← IO.FS.readFile path)
  catch _ =>
    return none

/-- The configuration that a command line names. -/
def configPath? (env : String → Option String) (words : List String) : Option String :=
  match CommandLine.read env words with
  | .run options _ => options.config
  | _ => none

end OpenBadges

open OpenBadges

/-- Runs the program on the arguments of the command line. -/
def main (words : List String) : IO UInt32 := do
  let env := (← readVariables).get?
  let content ← match configPath? env words with
    | some path => readFile? path
    | none => pure none
  let (ending, _) :=
    CommandLine.program Http.Network.unreachable () env (fun _ => content) words
  IO.print ending.output
  if let some complaint := ending.complaint then
    IO.eprintln s!"Error: {complaint}"
  return ending.code.toUInt32
