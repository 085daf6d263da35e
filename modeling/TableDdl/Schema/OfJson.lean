import TableDdl.Json.Basic
import TableDdl.Schema.Table

/-!
# Schemas from documents

What counts as the document of a schema, and of each of its parts.  Rules that hold throughout:

* a member that a part knows may stand there once; where it is missing or, for optional parts of a
  field, null, the part is left out;
* a map takes repeated keys: the last value stays, in the first place, but every value has to be
  readable;
* a part with a fixed list of members may also be written as an array of their values.

The outer layers of a schema (the schema itself, its declarations, an index) are taken from the
draft: a member that they do not know is never read, so it may hold what is not readable.  From
there on inwards everything is read.
-/

namespace TableDdl

/-! ## Members -/

/-- The member under any of the given keys: `none` if there is more than one, `some none` if there
is none. -/
def single? {α : Type} (names : List String) (members : List (String × α)) : Option (Option α) :=
  match members.filter fun member => names.contains member.1 with
  | [] => some none
  | [member] => some (some member.2)
  | _ => none

def required? {α : Type} (names : List String) (members : List (String × α)) : Option α :=
  (single? names members).join

def orElse? {α β : Type} (fallback : β) (read : α → Option β) : Option α → Option β
  | none => some fallback
  | some j => read j

def optional? {α : Type} (read : Json → Option α) : Option Json → Option (Option α)
  | none => some none
  | some (.scalar .null) => some none
  | some j => (read j).map some

/-- Reads a map: every value has to be readable, and of a repeated key the last value stays. -/
def OrderedMap.ofMembers? {α β : Type} (read : α → Option β) (members : List (String × α)) :
    Option (OrderedMap β) :=
  (members.mapM fun member => (read member.2).map fun value => (member.1, value)).map .ofList

namespace Json

def scalar? : Json → Option Scalar
  | scalar v => some v
  | _ => none

def string? : Json → Option String
  | scalar (.text s) => some s
  | _ => none

def boolean? : Json → Option Bool
  | scalar (.boolean b) => some b
  | _ => none

def uint32? : Json → Option UInt32
  | scalar (.integer n) =>
      if 0 ≤ n.toInt ∧ n.toInt < UInt32.size then some (UInt32.ofNat n.toInt.toNat) else none
  | _ => none

def array? : Json → Option (List Json)
  | array items => some items
  | _ => none

def object? : Json → Option (List (String × Json))
  | object members => some members
  | _ => none

end Json

/-! ## Parts of a schema -/

/-- Reads a default: an object with an expression under `raw`, or a scalar. -/
def DefaultValue.ofJson? : Json → Option DefaultValue
  | .scalar v => some (.literal v)
  | .array _ => none
  | .object members => ((required? ["raw"] members).bind Json.string?).map .raw

def KeyMark.ofJson? (j : Json) : Option KeyMark :=
  j.string?.map .ofText

def Field.typedKeys : List String :=
  ["name", "type", "length", "precision", "default", "null", "key", "use"]

/-- Reads the members of a field.  A member that is none of the typed parts is an attribute if its
value is a scalar, and is dropped otherwise. -/
def Field.ofMembers? (members : List (String × Json)) : Option Field := do
  let name ← optional? Json.string? (← single? ["name"] members)
  let typeName ← optional? Json.string? (← single? ["type"] members)
  let length ← optional? Json.uint32? (← single? ["length"] members)
  let precision ← optional? Json.uint32? (← single? ["precision"] members)
  let defaultValue ← optional? DefaultValue.ofJson? (← single? ["default"] members)
  let nullable ← optional? Json.boolean? (← single? ["null"] members)
  let key ← optional? KeyMark.ofJson? (← single? ["key"] members)
  let nativeType ← optional? Json.string? (← single? ["use"] members)
  let others := members.filter fun member => !Field.typedKeys.contains member.1
  let attributes := (OrderedMap.ofList others).filterMap Json.scalar?
  return { name, typeName, length, precision, defaultValue, nullable, key, nativeType, attributes }

def Field.ofJson? (j : Json) : Option Field :=
  j.object?.bind Field.ofMembers?

/-- Reads a field of a schema, where a string stands for a field of that type. -/
def Field.ofTypeOrJson? : Json → Option Field
  | .scalar (.text typeName) => some (.ofType typeName)
  | j => Field.ofJson? j

def ColumnNames.ofJson? : Json → Option ColumnNames
  | .scalar (.text name) => some (.one name)
  | .array items => (items.mapM Json.string?).map .many
  | _ => none

def Predicate.ofJson? : Json → Option Predicate
  | .scalar v => some (.equals v)
  | .array _ => none
  | .object members => (OrderedMap.ofMembers? Json.scalar? members).map .compare

def CheckExpression.ofJson? : Json → Option CheckExpression
  | .scalar (.text sql) => some (.raw sql)
  | .object members => (OrderedMap.ofMembers? Predicate.ofJson? members).map .conditions
  | _ => none

/-! ## Constraints -/

/-- Reads a constraint of a given kind from its members.  A kind that is not known has none. -/
def Constraint.ofMembers? (kind : String) (members : List (String × Json)) :
    Option Constraint := do
  if kind = "primary" then
    let columns ← (required? ["column"] members).bind ColumnNames.ofJson?
    return .primary columns
  else if kind = "foreign_key" then
    let columns ← (required? ["column"] members).bind ColumnNames.ofJson?
    let table ← (required? ["to"] members).bind Json.string?
    let targets ← (required? ["toColumn"] members).bind ColumnNames.ofJson?
    let action ← optional? Json.string? (← single? ["on"] members)
    return .foreignKey columns table targets action
  else if kind = "unique" then
    let columns ← (required? ["column"] members).bind ColumnNames.ofJson?
    let index ← orElse? false Json.boolean? (← single? ["index", "key"] members)
    return .unique columns index
  else if kind = "check" then
    let expression ← (required? ["expr"] members).bind CheckExpression.ofJson?
    return .check expression
  else return .unknown

/-- The keys of a kind of constraint, in the order in which an array gives their values. -/
def Constraint.keysOfKind (kind : String) : List String :=
  if kind = "primary" then ["column"]
  else if kind = "foreign_key" then ["column", "to", "toColumn", "on"]
  else if kind = "unique" then ["column", "index"]
  else if kind = "check" then ["expr"]
  else []

/-- Reads a constraint: an object with its kind under `type`, or an array that begins with it. -/
def Constraint.ofJson? : Json → Option Constraint
  | .object members => do
      let kind ← (required? ["type"] members).bind Json.string?
      Constraint.ofMembers? kind members
  | .array (first :: rest) => do
      let kind ← first.string?
      let keys := Constraint.keysOfKind kind
      if rest.length ≤ keys.length then Constraint.ofMembers? kind (keys.zip rest) else none
  | _ => none

/-! ## The outer layers -/

namespace Draft

/-- The members of an object with their keys read, or the values of an array under the keys that
they stand for. -/
def partsUnder? (keys : List String) : Draft → Option (List (String × Draft))
  | object members => members.mapM fun member => member.1.text?.map fun key => (key, member.2)
  | array items => if items.length ≤ keys.length then some (keys.zip items) else none
  | _ => none

end Draft

/-- Reads an index in which at most `budget` arrays and objects stand inside one another. -/
def Index.ofDraft? (budget : Nat) (d : Draft) : Option Index := do
  let members ← d.partsUnder? ["column", "unique"]
  let read := fun part => Draft.read? (budget - 1) part
  let columns ← (required? ["column"] members).bind fun part =>
    (read part).bind ColumnNames.ofJson?
  let unique ← orElse? false (fun part => (read part).bind Json.boolean?)
    (← single? ["unique"] members)
  return { columns, unique }

def Declarations.indexesOfDraft? (budget : Nat) : Draft → Option (OrderedMap Index)
  | .object members => do
      let named ← members.mapM fun member => member.1.text?.map fun name => (name, member.2)
      OrderedMap.ofMembers? (Index.ofDraft? (budget - 1)) named
  | _ => none

/-- Reads the declarations of a table.  The attributes may stand under either of two keys. -/
def Declarations.ofDraft? (budget : Nat) (d : Draft) : Option Declarations := do
  let members ← d.partsUnder? ["indexes", "constraints", "table"]
  let read := fun part => Draft.read? (budget - 1) part
  let indexes ← orElse? .empty (Declarations.indexesOfDraft? (budget - 1))
    (← single? ["indexes"] members)
  let constraints ← orElse? [] (fun part =>
    ((read part).bind Json.array?).bind fun items => items.mapM Constraint.ofJson?)
    (← single? ["constraints"] members)
  let attributes ← orElse? .empty (fun part =>
    ((read part).bind Json.object?).bind (OrderedMap.ofMembers? Json.scalar?))
    (← single? ["table", "tableMetas"] members)
  return { indexes, constraints, attributes }

def TableSchema.ofDraft? (budget : Nat) (d : Draft) : Option TableSchema := do
  let members ← d.partsUnder? ["fields", "meta"]
  let fields ← (required? ["fields"] members).bind fun part =>
    ((Draft.read? (budget - 1) part).bind Json.object?).bind
      (OrderedMap.ofMembers? Field.ofTypeOrJson?)
  let declarations ← orElse? {} (Declarations.ofDraft? (budget - 1)) (← single? ["meta"] members)
  return { fields, declarations }

def TableSchema.ofText? (text : String) : Option TableSchema :=
  (Draft.ofText? text).bind (TableSchema.ofDraft? Json.depthLimit)

def Declarations.ofText? (text : String) : Option Declarations :=
  (Draft.ofText? text).bind (Declarations.ofDraft? Json.depthLimit)

def Index.ofText? (text : String) : Option Index :=
  (Draft.ofText? text).bind (Index.ofDraft? Json.depthLimit)

end TableDdl
