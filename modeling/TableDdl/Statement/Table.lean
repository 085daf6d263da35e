import TableDdl.Statement.Body
import TableDdl.Statement.Column

/-!
# Creating and dropping a table

`CreateTable.ofSchema` compiles a schema to the statements that create its table: the table itself,
then the indexes that are statements of their own.  `dropStatement?` is the statement that drops it.

If the schema declares primary keys by an index or by constraints, each of them is written as it
stands, however many there are, and marked fields declare none.  Otherwise the columns of marked
fields may declare the key, where the dialect has columns that do; and if none does, the last marked
field becomes the primary key by an item at the end of the body.
-/

namespace TableDdl

structure CreateTable where
  /-- The name in quotes. -/
  name : String
  /-- The columns in order. -/
  columns : List Column
  /-- The items of the body behind the columns, in order. -/
  items : List BodyItem
  /-- The attributes of the table, laid out. -/
  attributes : String
  /-- The statements of the indexes, in order. -/
  indexes : List String
deriving DecidableEq, Repr

namespace CreateTable

/-- The body of the table: the columns that have a text, then the items. -/
def body (t : CreateTable) : String :=
  ",\n".intercalate ((t.columns.map Column.sql).filter fun sql => sql != "")
    ++ String.join (t.items.map fun item => ",\n" ++ item.sql)

def statement (t : CreateTable) : String :=
  "CREATE TABLE " ++ t.name ++ " (\n" ++ t.body ++ ")" ++ t.attributes ++ ";"

def statements (t : CreateTable) : List String :=
  t.statement :: t.indexes

end CreateTable

/-! ## Compiling a schema -/

namespace TableSchema

/-- The columns of a schema, each under the name that its field has there. -/
def columns (s : TableSchema) (d : Dialect) (q : Quoter) : Except CompileError (List Column) :=
  s.fields.entries.mapM fun entry =>
    Column.ofField d q (!s.declarations.hasPrimaryKey) (entry.2.withName entry.1)

/-- The name of the last field that is marked as the primary key. -/
def lastMarked? (s : TableSchema) : Option String :=
  ((s.fields.entries.filter fun entry => entry.2.isPrimary).map Prod.fst).getLast?

/-- The primary key that follows from the marked fields, if nothing else declares one. -/
def impliedKey? (s : TableSchema) (columns : List Column) : Option Constraint :=
  if s.declarations.hasPrimaryKey || columns.any Column.declaresKey then none
  else s.lastMarked?.map fun name => .primary (.one name)

/-- The items of the body behind the given columns. -/
def items (s : TableSchema) (d : Dialect) (q : Quoter) (columns : List Column) : List BodyItem :=
  indexItems d q s.declarations.indexes
    ++ s.declarations.constraints.filterMap (Constraint.bodyItem? d q)
    ++ ((s.impliedKey? columns).bind (Constraint.bodyItem? d q)).toList

end TableSchema

/-- Compiles a schema to the statements that create its table. -/
def CreateTable.ofSchema (d : Dialect) (q : Quoter) (table : String) (s : TableSchema) :
    Except CompileError CreateTable :=
  if q.name table = "" then .error .emptyTableName
  else if s.fields.isEmpty then .error (.noFields table)
  else
    match s.columns d q with
    | .error e => .error e
    | .ok columns =>
        .ok
          { name := q.name table
            columns := columns
            items := s.items d q columns
            attributes :=
              d.layout.arrange
                (d.tableAttributes.collect q s.declarations.attributes none none)
            indexes := indexStatements d q table s.declarations.indexes }

/-- The statement that drops a table, unless its name is empty.  A soft drop is no error where there
is no such table. -/
def dropStatement? (q : Quoter) (table : String) (soft : Bool) : Option String :=
  if q.name table = "" then none
  else some ("DROP TABLE " ++ (if soft then "IF EXISTS " else "") ++ q.name table ++ ";")

end TableDdl
