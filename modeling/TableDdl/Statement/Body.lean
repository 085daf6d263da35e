import TableDdl.Schema.Table
import TableDdl.Statement.Constraint

/-!
# Indexes and the body of a table

Behind its columns the body of a table holds further items: indexes, where the dialect declares them
there, and constraints.  A `BodyItem` is one of them.

An index under the reserved name is no index but the primary key, and stands in the body in every
dialect.  Each other index is either an item of the body or a statement of its own.
-/

namespace TableDdl

/-- An item of the body of a table behind the columns. -/
structure BodyItem where
  sql : String
  /-- Whether the item declares the primary key. -/
  declaresKey : Bool
deriving DecidableEq, Repr

def Constraint.bodyItem? (d : Dialect) (q : Quoter) (c : Constraint) : Option BodyItem :=
  (c.sql? q d.constraints).map fun sql => ⟨sql, c.isPrimary⟩

namespace Index

def uniqueWord (index : Index) : String :=
  if index.unique then "UNIQUE " else ""

def bodySql (index : Index) (q : Quoter) (name : String) : String :=
  index.uniqueWord ++ "KEY " ++ q.name name ++ " (" ++ index.columns.sql q ++ ")"

/-- The full name of an index that is a statement of its own. -/
def fullName (withTable : Bool) (table name : String) : String :=
  if withTable then table ++ "_" ++ name else name

def statementSql (index : Index) (q : Quoter) (withTable quoted : Bool) (table name : String) :
    String :=
  let written := fun s => if quoted then q.name s else s
  "CREATE " ++ index.uniqueWord ++ "INDEX " ++ written (fullName withTable table name) ++ " ON "
    ++ written table ++ " (" ++ index.columns.sql q ++ ");"

/-- The item of the body that an index calls for, if there is one. -/
def bodyItem? (d : Dialect) (q : Quoter) (name : String) (index : Index) : Option BodyItem :=
  if name = primaryIndexName then (Constraint.primary index.columns).bodyItem? d q
  else match d.indexes with
    | .inBody => some ⟨index.bodySql q name, false⟩
    | .separate _ _ => none

/-- The statement that an index calls for, if there is one. -/
def statement? (d : Dialect) (q : Quoter) (table name : String) (index : Index) : Option String :=
  if name = primaryIndexName then none
  else match d.indexes with
    | .inBody => none
    | .separate withTable quoted => some (index.statementSql q withTable quoted table name)

end Index

/-! ## The indexes of a table -/

def indexItems (d : Dialect) (q : Quoter) (indexes : OrderedMap Index) : List BodyItem :=
  indexes.entries.filterMap fun entry => entry.2.bodyItem? d q entry.1

def indexStatements (d : Dialect) (q : Quoter) (table : String) (indexes : OrderedMap Index) :
    List String :=
  indexes.entries.filterMap fun entry => entry.2.statement? d q table entry.1

end TableDdl
