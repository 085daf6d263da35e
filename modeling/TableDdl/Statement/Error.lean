/-!
# Why a schema has no statement

`CompileError` lists the causes, and `CompileError.message` is the only place that words them.
-/

namespace TableDdl

inductive CompileError where
  | emptyTableName
  | noFields (table : String)
  | missingColumnName
  /-- The dialect has no column type of this name. -/
  | unknownColumnType (typeName : String)
deriving DecidableEq, Repr

namespace CompileError

def mark : String :=
  String.singleton (Char.ofNat 0x60)

def message : CompileError → String
  | emptyTableName => "Invalid schema: table name is empty"
  | noFields table => "Invalid schema: table " ++ mark ++ table ++ mark ++ " has no fields"
  | missingColumnName => "Column name not defined."
  | unknownColumnType typeName => "Column type " ++ mark ++ typeName ++ mark ++ " does not exist."

end CompileError

end TableDdl
