import TableDdl.Schema.Constraint
import TableDdl.Schema.Field

/-!
# Table schemas

A `TableSchema` describes a table without reference to a dialect: its fields in order, and its
`Declarations`, which are the indexes, constraints and attributes of the table as a whole.
-/

namespace TableDdl

/-- What a schema says about the table as a whole. -/
structure Declarations where
  /-- The indexes by name; `primaryIndexName` stands for the primary key. -/
  indexes : OrderedMap Index := .empty
  /-- The constraints in order. -/
  constraints : List Constraint := []
  attributes : OrderedMap Scalar := .empty
deriving DecidableEq

namespace Declarations

instance : Inhabited Declarations := ⟨{}⟩

/-- Whether an index or a constraint declares the primary key. -/
def hasPrimaryKey (d : Declarations) : Bool :=
  d.indexes.contains primaryIndexName || d.constraints.any Constraint.isPrimary

end Declarations

structure TableSchema where
  /-- The fields by column name, in order. -/
  fields : OrderedMap Field := .empty
  /-- The indexes, constraints and attributes. -/
  declarations : Declarations := {}
deriving DecidableEq

namespace TableSchema

instance : Inhabited TableSchema := ⟨{}⟩

/-- The schema with a field; a field that is present keeps its place. -/
def addField (s : TableSchema) (name : String) (field : Field) : TableSchema :=
  { s with fields := s.fields.insert name field }

/-- The schema with an index; an index that is present keeps its place. -/
def addIndex (s : TableSchema) (name : String) (index : Index) : TableSchema :=
  { s with declarations :=
      { s.declarations with indexes := s.declarations.indexes.insert name index } }

def addConstraint (s : TableSchema) (constraint : Constraint) : TableSchema :=
  { s with declarations :=
      { s.declarations with constraints := s.declarations.constraints ++ [constraint] } }

/-- The schema with an attribute; an attribute that is present keeps its place. -/
def addAttribute (s : TableSchema) (name : String) (value : Scalar) : TableSchema :=
  { s with declarations :=
      { s.declarations with attributes := s.declarations.attributes.insert name value } }

end TableSchema

end TableDdl
