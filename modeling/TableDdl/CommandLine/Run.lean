import TableDdl.CommandLine.Invocation
import TableDdl.Dialect.Known
import TableDdl.Execution.Executor
import TableDdl.Execution.Offline
import TableDdl.Schema.OfJson

/-!
# Running a command

`run` gives the outcome of a command line: what is printed and the exit code.  The files and the
environment are arguments, so this is a function like any other.

Statements are printed.  To run them in place of that takes a database, and the library has none; a
request to do so is refused, and names the dialect where no database is meant for it at all.
-/

namespace TableDdl
namespace CommandLine

structure Outcome where
  code : UInt32 := 0
  output : String := ""
  /-- What is reported, if something failed. -/
  report : Option String := none
deriving DecidableEq, Repr

inductive Failure where
  /-- The schema file cannot be read; the cause is that of the system. -/
  | unreadable (cause : String)
  | notASchema (file : String)
  | compile (cause : CompileError)
  | emptyTableName
  /-- The dialect has no database that statements could be run on. -/
  | notExecutable (dialect : String)
  | noDatabase
deriving DecidableEq, Repr

def Failure.message : Failure → String
  | unreadable cause => "IO error: " ++ cause
  | notASchema file => "Failed to parse schema file '" ++ file ++ "': Invalid schema"
  | compile cause => cause.message
  | emptyTableName => "Table name is empty"
  | notExecutable dialect => "--execute needs the sqlite dialect, got " ++ dialect
  | noDatabase => OfflineError.message .noDatabase

def DialectChoice.dialect : DialectChoice → Dialect
  | mysql => Dialect.mysql
  | postgres => Dialect.postgres
  | sqlite => Dialect.sqlite

def refuseExecution (d : Dialect) : Failure :=
  if d.name = Dialect.sqlite.name then .noDatabase else .notExecutable d.name

def padded (name : String) : String :=
  name ++ String.ofList (List.replicate (12 - name.length) ' ')

/-- The list of the column types of a dialect, sorted by name. -/
def typeList (d : Dialect) : String :=
  let names := d.types.names.mergeSort fun a b => decide (a ≤ b)
  String.join (names.map fun name =>
    padded name ++ " " ++ ((d.types.find? name).map ColumnType.keyword).getD "" ++ "\n")

def Command.run (contentsOf : String → Except String String) (d : Dialect) :
    Command → Except Failure String
  | .create file table execute => do
      let text ← (contentsOf file).mapError .unreadable
      let some schema := TableSchema.ofText? text | throw (.notASchema file)
      if execute then throw (refuseExecution d)
      let t ← (CreateTable.ofSchema d d.quotes.quoter table schema).mapError .compile
      return Offline.lines t.statements
  | .drop table hard execute => do
      if execute then throw (refuseExecution d)
      match dropStatement? d.quotes.quoter table (!hard) with
      | none => throw .emptyTableName
      | some sql => return Offline.lines [sql]
  | .types => return typeList d

def run (contentsOf : String → Except String String) (environment : Environment)
    (arguments : List String) : Outcome :=
  match Invocation.ofArguments environment arguments with
  | .error .usage => { code := 2 }
  | .error .information => {}
  | .ok invocation =>
      match invocation.command.run contentsOf invocation.dialect.dialect with
      | .error failure => { code := 1, report := some ("Error: " ++ failure.message) }
      | .ok output => { output := output }

end CommandLine
end TableDdl
