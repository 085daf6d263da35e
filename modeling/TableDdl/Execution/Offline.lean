import TableDdl.Statement.Table

/-!
# Working without a database

An `Offline` executor has no database.  In a dry run it prints the statements in place of running
them; otherwise it cannot run any.  Each operation gives its result and what it prints.
-/

namespace TableDdl

structure Offline where
  dialect : Dialect
  /-- Whether statements are printed. -/
  dryRun : Bool := true

inductive OfflineError where
  | compile (cause : CompileError)
  | noDatabase
deriving DecidableEq, Repr

def OfflineError.message : OfflineError → String
  | compile cause => cause.message
  | noDatabase => "No database connection; only dry runs are possible"

namespace Offline

def lines (statements : List String) : String :=
  String.join (statements.map fun sql => sql ++ "\n")

/-- Runs a statement and gives what is printed: a dry run prints it, and otherwise there is nothing
that it could be run on. -/
def run (o : Offline) (sql : String) : Except OfflineError Unit × String :=
  if o.dryRun then (.ok (), sql ++ "\n") else (.error .noDatabase, "")

def runAll (o : Offline) : List String → Except OfflineError Unit × String
  | [] => (.ok (), "")
  | sql :: rest =>
      match o.run sql with
      | (.ok _, printed) =>
          let done := o.runAll rest
          (done.1, printed ++ done.2)
      | (.error e, printed) => (.error e, printed)

def createTable (o : Offline) (table : String) (s : TableSchema) :
    Except OfflineError Unit × String :=
  match CreateTable.ofSchema o.dialect o.dialect.quotes.quoter table s with
  | .error e => (.error (.compile e), "")
  | .ok t => o.runAll t.statements

/-- Drops a table and answers whether there was a statement, and gives what is printed. -/
def dropTable (o : Offline) (table : String) (soft : Bool) : Except OfflineError Bool × String :=
  match dropStatement? o.dialect.quotes.quoter table soft with
  | none => (.ok false, "")
  | some sql =>
      let done := o.run sql
      (done.1.map fun _ => true, done.2)

/-- Whether a table exists; without a database there is no answer. -/
def tableExists (_ : Offline) (_ : String) : Except OfflineError Bool :=
  .error .noDatabase

end Offline

end TableDdl
