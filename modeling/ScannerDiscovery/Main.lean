import ScannerDiscovery.CommandLine.Command

/-!
# The program

Takes its settings from the environment and runs the command on its arguments. The network that
it works on is a quiet one.
-/

open ScannerDiscovery

/-- The names of the settings of a group, behind what the group's variables begin with. -/
def settingVariables : List String :=
  ["debug", "log_level", Settings.groupField].map (Settings.stem ++ ·) ++
    DiscoverySettings.fieldNames.map (DiscoverySettings.stem ++ ·)

/-- The environment variables of settings that are set. -/
def readEnvironment : List String → IO (List (String × String))
  | [] => pure []
  | name :: rest => do
    let key := name.toUpper
    let others ← readEnvironment rest
    match ← IO.getEnv key with
    | some value => return (key, value) :: others
    | none => return others

/-- Runs the command. Settings that are refused end the program at once. -/
def main (arguments : List String) : IO UInt32 := do
  match Settings.read ⟨[], ← readEnvironment settingVariables⟩ with
  | .error fault =>
    IO.eprintln fault.message
    return 1
  | .ok settings =>
    let discovery := settings.discovery
    let ending := CommandLine.execute discovery discovery.readyTimeout {} arguments
    if ending.lacksTimeout then
      IO.eprintln "the timeout has no value"
    IO.print ending.output
    return UInt32.ofNat ending.exitCode
