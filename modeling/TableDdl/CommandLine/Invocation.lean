import TableDdl.CommandLine.Option

/-!
# Invocations of the program

`Invocation.ofArguments` reads a command line: options for all commands, then one of the commands
`create`, `drop` and `types` with its own options.  A dialect that is not chosen by an option may be
chosen by the environment.
-/

namespace TableDdl
namespace CommandLine

inductive DialectChoice where
  | mysql
  | postgres
  | sqlite
deriving DecidableEq, Repr

/-- The dialect that a word chooses; it has to be spelled exactly so. -/
def DialectChoice.ofText? (s : String) : Option DialectChoice :=
  if s = "mysql" then some mysql
  else if s = "postgres" then some postgres
  else if s = "sqlite" then some sqlite
  else none

inductive Command where
  | create (file table : String) (execute : Bool)
  /-- Drop a table; a hard drop fails where there is no such table. -/
  | drop (table : String) (hard execute : Bool)
  | types
deriving DecidableEq, Repr

structure Invocation where
  dialect : DialectChoice
  database : String
  /-- Whether progress is reported. -/
  verbose : Bool
  command : Command
deriving DecidableEq, Repr

structure Environment where
  /-- The dialect, in place of the option. -/
  dialect : Option String := none
  /-- The address of the database, in place of the option. -/
  database : Option String := none
deriving DecidableEq, Repr

/-! ## Levels -/

def helpOption : Opt := { long := "help", short := some 'h' }

def outerLevel : Level where
  options :=
    [{ long := "dialect", takesValue := true },
     { long := "database", short := some 'd', takesValue := true },
     { long := "verbose", short := some 'v' },
     helpOption,
     { long := "version", short := some 'V' }]
  validValue name value := name != "dialect" || (DialectChoice.ofText? value).isSome
  endsAtWord := true

def tableOption : Opt := { long := "table", short := some 't', takesValue := true }

def executeOption : Opt := { long := "execute" }

/-- What may stand behind `create`: a schema file and options. -/
def createLevel : Level where
  options := [tableOption, executeOption, helpOption]
  wordLimit := 1

def dropLevel : Level where
  options := [tableOption, { long := "hard" }, executeOption, helpOption]

def typesLevel : Level where
  options := [helpOption]

/-! ## Reading -/

def commandNames : List String :=
  ["create", "drop", "types", "help"]

def Command.ofArguments : List String → Except Stop Command
  | [] => .error .usage
  | name :: rest => do
      if name = "create" then
        let (found, _) ← createLevel.scan {} none rest
        match found.words, found.value? "table" with
        | [file], some table => return .create file table (found.has "execute")
        | _, _ => throw .usage
      else if name = "drop" then
        let (found, _) ← dropLevel.scan {} none rest
        match found.value? "table" with
        | some table => return .drop table (found.has "hard") (found.has "execute")
        | none => throw .usage
      else if name = "types" then
        let _ ← typesLevel.scan {} none rest
        return .types
      else if name = "help" ∧ rest.length ≤ 1 ∧ rest.all commandNames.contains then
        throw .information
      else throw .usage

def Invocation.ofArguments (environment : Environment) (arguments : List String) :
    Except Stop Invocation := do
  let (found, rest) ← outerLevel.scan {} none arguments
  let command ← Command.ofArguments rest
  let chosen := (found.value? "dialect" <|> environment.dialect).getD "sqlite"
  match DialectChoice.ofText? chosen with
  | none => throw .usage
  | some dialect =>
      return {
        dialect := dialect
        database := (found.value? "database" <|> environment.database).getD "sqlite::memory:"
        verbose := found.has "verbose"
        command := command }

end CommandLine
end TableDdl
