import TableDdl.Sql.Literal

/-!
# Column types

A dialect provides a list of abstract column types.  Each stands for a native keyword and says how
long columns of the type are, how their literals are written, and whether a primary key of the type
counts up by itself.
-/

namespace TableDdl

/-- What a dialect provides for one abstract column type. -/
structure ColumnType where
  keyword : String
  /-- The length of columns that ask for none. -/
  length : Option UInt32 := none
  /-- The precision of columns that ask for none. -/
  precision : Option UInt32 := none
  /-- How literals are written. -/
  formatter : Formatter := .text
  /-- Whether a primary key of this type counts up by itself. -/
  increments : Bool := false
deriving DecidableEq

/-- How a primary key that counts up by itself is declared in its column. -/
structure KeyRule where
  /-- The native keyword that takes the place of the type's own, if there is one. -/
  keyword : Option String := none
  /-- What is written in place of nullability and default. -/
  clause : String
  /-- Whether the clause itself declares the primary key of the table. -/
  declaresKey : Bool := false
deriving DecidableEq, Repr

structure TypeRegistry where
  /-- The types by name; of a repeated name the first counts. -/
  types : List (String × ColumnType)
  /-- How a primary key that counts up by itself is declared. -/
  keyRule : KeyRule
deriving DecidableEq

namespace TypeRegistry

def find? (registry : TypeRegistry) (name : String) : Option ColumnType :=
  registry.types.lookup name

theorem mem_types_of_find? {registry : TypeRegistry} {name : String} {type : ColumnType}
    (h : registry.find? name = some type) : (name, type) ∈ registry.types := by
  rcases List.lookup_eq_some_iff.1 h with ⟨front, back, htypes, -⟩
  simp [htypes]

def names (registry : TypeRegistry) : List String :=
  registry.types.map Prod.fst

end TypeRegistry

end TableDdl
