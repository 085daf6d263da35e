import TableDdl.Json.Print
import TableDdl.Schema.Table

/-!
# Schemas as documents

The document of a schema and of each of its parts.  Parts that a field leaves out are left out of
its document too; the three lists of a table's declarations are always there, empty or not.
-/

namespace TableDdl

def Json.ofString (s : String) : Json :=
  .scalar (.text s)

/-- The document of a map: an object with the entries as members, in order. -/
def OrderedMap.toJson {α : Type} (m : OrderedMap α) (write : α → Json) : Json :=
  .object (m.entries.map fun entry => (entry.1, write entry.2))

/-- A member, if there is a value for it. -/
def Json.member? (key : String) (value : Option Json) : List (String × Json) :=
  (value.map fun j => (key, j)).toList

def DefaultValue.toJson : DefaultValue → Json
  | literal v => .scalar v
  | raw sql => .object [("raw", .ofString sql)]

def KeyMark.toJson (mark : KeyMark) : Json :=
  .ofString mark.text

def Json.ofUInt32 (n : UInt32) : Json :=
  .scalar (.integer (Int64.ofNat n.toNat))

/-- The document of a field: the typed parts that are present, then the attributes. -/
def Field.toJson (f : Field) : Json :=
  .object <|
    Json.member? "name" (f.name.map .ofString)
      ++ Json.member? "type" (f.typeName.map .ofString)
      ++ Json.member? "length" (f.length.map .ofUInt32)
      ++ Json.member? "precision" (f.precision.map .ofUInt32)
      ++ Json.member? "default" (f.defaultValue.map DefaultValue.toJson)
      ++ Json.member? "null" (f.nullable.map fun b => .scalar (.boolean b))
      ++ Json.member? "key" (f.key.map KeyMark.toJson)
      ++ Json.member? "use" (f.nativeType.map .ofString)
      ++ f.attributes.entries.map fun entry => (entry.1, .scalar entry.2)

def ColumnNames.toJson : ColumnNames → Json
  | one name => .ofString name
  | many names => .array (names.map .ofString)

def Predicate.toJson : Predicate → Json
  | compare operands => operands.toJson .scalar
  | equals v => .scalar v

def CheckExpression.toJson : CheckExpression → Json
  | raw sql => .ofString sql
  | conditions m => m.toJson Predicate.toJson

/-- The document of a constraint: its kind under `type`, then its parts. -/
def Constraint.toJson : Constraint → Json
  | primary columns => .object [("type", .ofString "primary"), ("column", columns.toJson)]
  | foreignKey columns table targets action =>
      .object <|
        [("type", .ofString "foreign_key"), ("column", columns.toJson), ("to", .ofString table),
          ("toColumn", targets.toJson)] ++ Json.member? "on" (action.map .ofString)
  | unique columns index =>
      .object [("type", .ofString "unique"), ("column", columns.toJson),
        ("index", .scalar (.boolean index))]
  | check expression => .object [("type", .ofString "check"), ("expr", expression.toJson)]
  | unknown => .object [("type", .ofString "unknown")]

def Index.toJson (index : Index) : Json :=
  .object [("column", index.columns.toJson), ("unique", .scalar (.boolean index.unique))]

def Declarations.toJson (d : Declarations) : Json :=
  .object [("indexes", d.indexes.toJson Index.toJson),
    ("constraints", .array (d.constraints.map Constraint.toJson)),
    ("table", d.attributes.toJson .scalar)]

def TableSchema.toJson (s : TableSchema) : Json :=
  .object [("fields", s.fields.toJson Field.toJson), ("meta", s.declarations.toJson)]

end TableDdl
