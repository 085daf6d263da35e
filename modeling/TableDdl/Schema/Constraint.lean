import TableDdl.OrderedMap
import TableDdl.Schema.Scalar

/-!
# Constraints and indexes

What a schema asks for beside its columns: keys, references, uniqueness, checks and indexes.  All of
them name columns, one or several in order.
-/

namespace TableDdl

/-- One column, or several in order.  The two forms are kept apart because they are written
differently in a document; for the statement only the names matter. -/
inductive ColumnNames where
  | one (name : String)
  | many (names : List String)
deriving DecidableEq, Repr

def ColumnNames.toList : ColumnNames → List String
  | one name => [name]
  | many names => names

/-! ## Checks -/

inductive Predicate where
  /-- The column compares with an operand under every one of these operators. -/
  | compare (operands : OrderedMap Scalar)
  | equals (v : Scalar)
deriving DecidableEq

abbrev Conditions := OrderedMap Predicate

inductive CheckExpression where
  /-- An expression that is written as it is. -/
  | raw (sql : String)
  /-- Conditions that all have to hold. -/
  | conditions (conditions : Conditions)
deriving DecidableEq

/-! ## Constraints -/

inductive Constraint where
  | primary (columns : ColumnNames)
  /-- The columns refer to columns of another table; `action` says what a change there does. -/
  | foreignKey (columns : ColumnNames) (table : String) (targets : ColumnNames)
      (action : Option String)
  /-- The columns are unique; `index` asks for the dialect's index keyword. -/
  | unique (columns : ColumnNames) (index : Bool)
  /-- An expression that holds in every row. -/
  | check (expression : CheckExpression)
  /-- A constraint of a kind that is not known; it has no effect. -/
  | unknown
deriving DecidableEq

def Constraint.isPrimary : Constraint → Bool
  | primary _ => true
  | _ => false

/-! ## Indexes -/

/-- An index of a table; its name is the key under which it stands in the schema. -/
structure Index where
  columns : ColumnNames
  /-- Whether no two rows may agree on the columns. -/
  unique : Bool := false
deriving DecidableEq

/-- The index name that stands for the primary key. -/
def primaryIndexName : String := "PRIMARY"

end TableDdl
