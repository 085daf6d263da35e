import TableDdl.CommandLine.Run

/-!
# The program

Reads the command line, the environment and the schema file, and prints the outcome.
-/

open TableDdl TableDdl.CommandLine

/-- Reads a file, or gives the system's reason why it cannot be read. -/
def readSchemaFile (path : String) : IO (Except String String) := do
  try
    return .ok (← IO.FS.readFile path)
  catch e =>
    match e with
    | .noFileOrDirectory .. => return .error "No such file or directory (os error 2)"
    | other => return .error (toString other)

def main (arguments : List String) : IO UInt32 := do
  let environment : Environment :=
    { dialect := ← IO.getEnv "OXIDE_DDL_DIALECT", database := ← IO.getEnv "DATABASE_URL" }
  let contents ← match Invocation.ofArguments environment arguments with
    | .ok { command := .create file _ _, .. } => readSchemaFile file
    | _ => pure (.error "")
  let outcome := CommandLine.run (fun _ => contents) environment arguments
  IO.print outcome.output
  if let some report := outcome.report then
    IO.eprintln report
  if outcome.code == 2 then
    IO.eprintln "usage: [--dialect NAME] [-d URL] [-v] (create FILE -t TABLE | drop -t TABLE | types)"
  return outcome.code
