import TableDdl.OrderedMap
import TableDdl.Schema.Scalar
import TableDdl.Text.Ascii

/-!
# Fields

A `Field` asks for one column of a table.  Every part of it may be missing; the compiler fills in
what the dialect and the column type provide.  Beside the typed parts a field carries named
attributes (`comment`, `charset`, …), of which each dialect uses the ones it has a descriptor for.
-/

namespace TableDdl

open Text

inductive DefaultValue where
  /-- A literal, which is written in the form that the column type asks for. -/
  | literal (v : Scalar)
  /-- An expression that is written as it is. -/
  | raw (sql : String)
deriving DecidableEq

def DefaultValue.isEmptyText : DefaultValue → Bool
  | literal v => v.isEmptyText
  | raw _ => false

inductive KeyMark where
  | primary
  /-- Any other key; it has no effect. -/
  | other
deriving DecidableEq, Repr

/-- The mark that a word stands for; the case of letters does not matter. -/
def KeyMark.ofText (s : String) : KeyMark :=
  if sameIgnoringCase s "primary" then primary else other

def KeyMark.text : KeyMark → String
  | primary => "primary"
  | other => "other"

structure Field where
  name : Option String := none
  /-- The abstract type; a field without one is a string. -/
  typeName : Option String := none
  /-- The length, in place of the one that the type provides. -/
  length : Option UInt32 := none
  /-- The precision, in place of the one that the type provides. -/
  precision : Option UInt32 := none
  defaultValue : Option DefaultValue := none
  /-- Whether the column may hold NULL, if that is said. -/
  nullable : Option Bool := none
  /-- The key that the field is marked with. -/
  key : Option KeyMark := none
  /-- The native type, in place of the one that the abstract type stands for. -/
  nativeType : Option String := none
  /-- The attributes, in the order of their declaration. -/
  attributes : OrderedMap Scalar := .empty
deriving DecidableEq

namespace Field

instance : Inhabited Field := ⟨{}⟩

def isPrimary (f : Field) : Bool :=
  f.key == some .primary

/-! ## Building fields -/

def ofName (name : String) : Field :=
  { name := some name }

def ofType (typeName : String) : Field :=
  { typeName := some typeName }

def withName (f : Field) (name : String) : Field :=
  { f with name := some name }

def withType (f : Field) (typeName : String) : Field :=
  { f with typeName := some typeName }

def withNativeType (f : Field) (sql : String) : Field :=
  { f with nativeType := some sql }

def withLength (f : Field) (length : UInt32) : Field :=
  { f with length := some length }

def withPrecision (f : Field) (precision : UInt32) : Field :=
  { f with precision := some precision }

def withDefault (f : Field) (value : DefaultValue) : Field :=
  { f with defaultValue := some value }

def withNullable (f : Field) (nullable : Bool) : Field :=
  { f with nullable := some nullable }

def asPrimaryKey (f : Field) : Field :=
  { f with key := some .primary }

/-- The field with an attribute; an attribute that is present keeps its place. -/
def withAttribute (f : Field) (name : String) (value : Scalar) : Field :=
  { f with attributes := f.attributes.insert name value }

end Field

end TableDdl
