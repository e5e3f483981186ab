import SqlAdvice.Console.Run

/-!
# The program

Gathers what the program may look at, runs it, and prints what comes out.
-/

namespace SqlAdvice.Program

/-- The variables that the program looks at. -/
def variableNames : List String :=
  ["CONFIG_FILE", "ENVIRONMENT", "HIGH_COST_THRESHOLD", "RANDOM_SEED", "REGISTRY_FILE"] ++
    OperationKind.all.flatMap fun kind => [kind.name ++ "_COST_BASE", kind.name ++ "_COST_SPREAD"]

/-- The values of the variables. -/
def readVariables : IO Variables := do
  let values ← variableNames.filterMapM fun name => do
    return (← IO.getEnv (Variables.namespacePart ++ name)).map (name, ·)
  return ⟨values⟩

/-- What a path leads to. -/
def readPlace (path : Path) : IO Place := do
  try
    return .file (← IO.FS.readBinFile path.text).toList
  catch
    | .noFileOrDirectory .. => return .missing
    | _ => return .directory

/-- What some paths lead to; any other path is taken to lead nowhere. -/
def readFiles (paths : List Path) : IO Files := do
  let places ← paths.mapM fun path => return (path, ← readPlace path)
  return fun path => ((places.find? (·.1 == path)).map (·.2)).getD .missing

/-- All bytes of a stream. -/
partial def readAll (stream : IO.FS.Stream) (bytes : ByteArray) : IO ByteArray := do
  let more ← stream.read 65536
  if more.isEmpty then return bytes else readAll stream (bytes ++ more)

/-- The surroundings of the program. -/
def readSurroundings (args : List String) : IO Console.Surroundings := do
  let vars ← readVariables
  let named := args ++ (vars.get? "CONFIG_FILE").toList ++
    (vars.get? "REGISTRY_FILE").toList
  let paths := named.map Path.ofText
  let settings := (Settings.load (← readFiles paths) vars).outcome
  let paths := paths ++ (settings.toOption.bind (·.registryFile)).toList
  let input ← if args.contains "-" then readAll (← IO.getStdin) .empty else pure .empty
  return {
    files := ← readFiles paths
    vars
    input := input.toList
    entropy := ← IO.rand 0 4294967295 }

end SqlAdvice.Program

open SqlAdvice SqlAdvice.Program in
/-- Runs the program with its arguments. -/
def main (args : List String) : IO UInt32 := do
  let outcome := Console.run (← readSurroundings args) args
  for line in outcome.log do
    if line.level == .warning || Console.isVerbose args then
      IO.eprintln (line.level.name ++ " " ++ line.message)
  for item in outcome.out do
    IO.println item.display
  for item in outcome.err do
    IO.eprintln item.display
  if let some failure := outcome.escaped then
    IO.eprintln failure.message
  return UInt32.ofNat outcome.exitCode
