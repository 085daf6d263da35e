import TableDdl.Dialect.Attribute
import TableDdl.Dialect.ColumnType
import TableDdl.Dialect.LengthRules
import TableDdl.Sql.Quoter
import TableDdl.Sql.Template

/-!
# Dialects

A `Dialect` is everything that the compiler has to know about one kind of database.  The compiler
is the same for all of them.
-/

namespace TableDdl

/-! ## Clauses of a column -/

/-- The order in which a column that may not be NULL and has a default says so. -/
inductive ClauseOrder where
  /-- Nullability, then the default. -/
  | notNullFirst
  /-- The default, then nullability. -/
  | defaultFirst
deriving DecidableEq, Repr

/-- Which columns that may be NULL say so by the bare word; the others have NULL as their
default. -/
inductive BareNull where
  /-- All of them. -/
  | always
  /-- Those with one of these native keywords. -/
  | keywords (keywords : List String)
deriving DecidableEq, Repr

/-- Whether a column with a native keyword says by the bare word that it may be NULL. -/
def BareNull.applies : BareNull → String → Bool
  | always, _ => true
  | keywords known, keyword => known.contains keyword

/-- How a column says whether it may be NULL and what its default is. -/
structure ClauseRules where
  /-- The order of the two. -/
  order : ClauseOrder
  /-- Which columns say by the bare word that they may be NULL. -/
  bareNull : BareNull
deriving DecidableEq, Repr

/-! ## Constraints and indexes -/

structure ConstraintTemplate where
  /-- The text with its slots. -/
  template : Template
  /-- The word for the slot `index`, where a constraint asks for it. -/
  indexKeyword : Option String := none
deriving DecidableEq, Repr

/-- How the kinds of constraints are written; a kind without a template is passed over. -/
structure ConstraintTemplates where
  primary : Option ConstraintTemplate := none
  foreignKey : Option ConstraintTemplate := none
  unique : Option ConstraintTemplate := none
  check : Option ConstraintTemplate := none
deriving DecidableEq, Repr

inductive IndexPlacement where
  | inBody
  /-- In statements of their own.  The name of the index begins with that of the table if
  `withTable`; names are quoted if `quoted`. -/
  | separate (withTable quoted : Bool)
deriving DecidableEq, Repr

/-! ## Dialects -/

/-- Everything that the compiler has to know about one kind of database. -/
structure Dialect where
  name : String
  types : TypeRegistry
  /-- Which native keywords take a length and a precision. -/
  lengths : LengthRules
  /-- The native keyword that takes the place of the type's own, given the abstract type and the
  precision. -/
  substitute : String → Option UInt32 → Option String
  /-- How columns say whether they may be NULL and what their default is. -/
  clauses : ClauseRules
  columnAttributes : AttributeTable
  tableAttributes : AttributeTable
  /-- How the attributes of a table are laid out. -/
  layout : AttributeLayout
  /-- How constraints are written. -/
  constraints : ConstraintTemplates
  /-- Where indexes are declared. -/
  indexes : IndexPlacement
  /-- How identifiers and literals are written. -/
  quotes : QuoteStyle

end TableDdl
