import TableDdl.Statement.Table

/-!
# Running statements

An executor takes one statement after the other and may refuse any of them.  It is a function on a
state of its own, so everything that is said here holds for every executor.

* `Executor.runAll` runs statements up to the first that is refused;
* `Executor.createTable` and `Executor.dropTable` compile and run;
* `Executor.recorder` keeps the statements, `Executor.writer` writes them down, and `Recorder` is
  the state of an executor that keeps them and may refuse one.
-/

namespace TableDdl

/-- Takes one statement in a state: whether it was accepted, and the state afterwards. -/
abbrev Executor (σ ε : Type) := String → σ → Except ε Unit × σ

inductive ExecutionError (ε : Type) where
  | compile (cause : CompileError)
  | execution (cause : ε)
deriving DecidableEq, Repr

/-- The text of an error, given the texts of the executor's errors. -/
def ExecutionError.message {ε : Type} (describe : ε → String) : ExecutionError ε → String
  | compile cause => cause.message
  | execution cause => "Statement execution failed: " ++ describe cause

namespace Executor

variable {σ ε : Type}

/-- Runs statements in order, up to the first that is refused. -/
def runAll (execute : Executor σ ε) : List String → σ → Except ε Unit × σ
  | [], state => (.ok (), state)
  | sql :: rest, state =>
      match execute sql state with
      | (.ok _, next) => runAll execute rest next
      | (.error e, next) => (.error e, next)

/-- Creates the table of a schema.  A schema that cannot be compiled leaves the state alone. -/
def createTable (execute : Executor σ ε) (d : Dialect) (q : Quoter) (table : String)
    (s : TableSchema) (state : σ) : Except (ExecutionError ε) Unit × σ :=
  match CreateTable.ofSchema d q table s with
  | .error e => (.error (.compile e), state)
  | .ok t =>
      match execute.runAll t.statements state with
      | (.ok _, next) => (.ok (), next)
      | (.error e, next) => (.error (.execution e), next)

/-- Drops a table, and answers whether there was a statement to run.  An empty name leaves the state
alone. -/
def dropTable (execute : Executor σ ε) (q : Quoter) (table : String) (soft : Bool) (state : σ) :
    Except (ExecutionError ε) Bool × σ :=
  match dropStatement? q table soft with
  | none => (.ok false, state)
  | some sql =>
      match execute sql state with
      | (.ok _, next) => (.ok true, next)
      | (.error e, next) => (.error (.execution e), next)

def recorder : Executor (List String) Empty :=
  fun sql kept => (.ok (), kept ++ [sql])

/-- Writes every statement down on lines of its own, and refuses none. -/
def writer : Executor String Empty :=
  fun sql out => (.ok (), out ++ sql ++ "\n")

end Executor

/-! ## Keeping the statements -/

structure Recorder where
  /-- How many statements were given, refused ones among them. -/
  count : Nat := 0
  /-- The statements that were accepted, in order. -/
  statements : List String := []
deriving DecidableEq, Repr

structure Refusal where
  sql : String
deriving DecidableEq, Repr

def Refusal.message (r : Refusal) : String :=
  "refused: " ++ r.sql

/-- Keeps every statement but the one at the given place, counted from one, which is refused. -/
def Recorder.executor (failAt : Nat) : Executor Recorder Refusal :=
  fun sql r =>
    if r.count + 1 = failAt then (.error ⟨sql⟩, { r with count := r.count + 1 })
    else (.ok (), { count := r.count + 1, statements := r.statements ++ [sql] })

end TableDdl
