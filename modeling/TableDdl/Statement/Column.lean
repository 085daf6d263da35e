import TableDdl.Dialect.Basic
import TableDdl.Schema.Field
import TableDdl.Statement.Error

/-!
# Columns

`Column.ofField` compiles a field to the declaration of its column.  The parts of a column always
stand in the same order: the quoted name, the native type with its length, the attributes before the
clause, the clause about key, nullability and default, and the attributes behind it.

The native keyword is found in three steps: what the field asks for or what the abstract type stands
for; for the latter, what the dialect puts in its place; and for a primary key that counts up by
itself, the keyword of the dialect's key rule.
-/

namespace TableDdl

open Text

/-! ## Clauses -/

/-- What a column says about key, nullability and default. -/
inductive ColumnClause where
  | unspecified
  /-- The clause of a primary key that counts up by itself. -/
  | key (sql : String)
  | notNull
  /-- The column may be NULL, said by the bare word. -/
  | null
  | default (expression : String)
  /-- The column may not be NULL and has a default. -/
  | notNullDefault (order : ClauseOrder) (expression : String)
deriving DecidableEq, Repr

def ColumnClause.sql : ColumnClause → String
  | unspecified => ""
  | key sql => sql
  | notNull => "NOT NULL"
  | null => "NULL"
  | default expression => "DEFAULT " ++ expression
  | notNullDefault .notNullFirst expression => "NOT NULL DEFAULT " ++ expression
  | notNullDefault .defaultFirst expression => "DEFAULT " ++ expression ++ " NOT NULL"

def DefaultValue.expression (q : Quoter) (formatter : Formatter) : DefaultValue → String
  | raw sql => sql
  | literal v => q.value v formatter

def ClauseRules.clause (rules : ClauseRules) (keyword : String) (expression : Option String)
    (nullable : Option Bool) : ColumnClause :=
  match expression, nullable with
  | some e, some false => .notNullDefault rules.order e
  | some e, _ => .default e
  | none, some true => if rules.bareNull.applies keyword then .null else .default "NULL"
  | none, some false => .notNull
  | none, none => .unspecified

/-! ## Columns -/

structure Column where
  /-- The name in quotes. -/
  name : String
  keyword : String
  /-- The length and the precision in parentheses, if they are written. -/
  suffix : String
  before : List String
  /-- What is said about key, nullability and default. -/
  clause : ColumnClause
  after : List String
  /-- Whether the clause declares the primary key of the table. -/
  declaresKey : Bool
deriving DecidableEq, Repr

namespace Column

/-- The parts of the declaration in order, empty ones among them. -/
def parts (c : Column) : List String :=
  c.name :: (c.keyword ++ c.suffix) :: c.before ++ c.clause.sql :: c.after

def sql (c : Column) : String :=
  " ".intercalate (c.parts.filter fun part => part != "")

end Column

/-! ## Fields of a known type -/

namespace Field

def effectiveLength (f : Field) (type : ColumnType) : Option UInt32 :=
  f.length <|> type.length

def effectivePrecision (f : Field) (type : ColumnType) : Option UInt32 :=
  f.precision <|> type.precision

/-- The default that holds for a field of a type: the empty text is no default where numbers or
truth values are expected. -/
def effectiveDefault (f : Field) (type : ColumnType) : Option DefaultValue :=
  let isBare := match type.formatter with
    | .integer | .real | .boolean => true
    | .text | .date _ => false
  f.defaultValue.filter fun value => !(isBare && value.isEmptyText)

def abstractType (f : Field) : String :=
  f.typeName.getD "string"

/-- The native keyword of a field before the key rule is considered. -/
def ownKeyword (f : Field) (d : Dialect) (type : ColumnType) : String :=
  match f.nativeType with
  | some sql => lowerAscii sql
  | none => (d.substitute f.abstractType (f.effectivePrecision type)).getD type.keyword

/-- Whether the field is a primary key that counts up by itself.  It is not if its native keyword is
not the one of the type. -/
def increments (f : Field) (d : Dialect) (type : ColumnType) : Bool :=
  f.isPrimary && type.increments && f.ownKeyword d type == type.keyword

def nativeKeyword (f : Field) (d : Dialect) (type : ColumnType) : String :=
  if f.increments d type then d.types.keyRule.keyword.getD (f.ownKeyword d type)
  else f.ownKeyword d type

/-- Whether the column of a field has the clause of the key rule.  A clause that declares the primary
key itself is only allowed where `inlineKey`. -/
def usesKeyRule (f : Field) (d : Dialect) (type : ColumnType) (inlineKey : Bool) : Bool :=
  f.increments d type && (inlineKey || !d.types.keyRule.declaresKey)

def clause (f : Field) (d : Dialect) (q : Quoter) (type : ColumnType) (inlineKey : Bool) :
    ColumnClause :=
  if f.usesKeyRule d type inlineKey then .key d.types.keyRule.clause
  else if f.isPrimary then .notNull
  else
    d.clauses.clause (f.nativeKeyword d type)
      ((f.effectiveDefault type).map (DefaultValue.expression q type.formatter)) f.nullable

def column (f : Field) (d : Dialect) (q : Quoter) (name : String) (type : ColumnType)
    (inlineKey : Bool) : Column where
  name := q.name name
  keyword := f.nativeKeyword d type
  suffix :=
    d.lengths.suffix (f.nativeKeyword d type) (f.effectiveLength type) (f.effectivePrecision type)
  before := d.columnAttributes.collect q f.attributes none (some .before)
  clause := f.clause d q type inlineKey
  after := d.columnAttributes.collect q f.attributes none (some .after)
  declaresKey := f.usesKeyRule d type inlineKey && d.types.keyRule.declaresKey

end Field

/-- The column of a field.  A primary key that counts up by itself may declare the primary key of
the table only if `inlineKey`. -/
def Column.ofField (d : Dialect) (q : Quoter) (inlineKey : Bool) (f : Field) :
    Except CompileError Column :=
  match f.name.filter fun name => name != "" with
  | none => .error .missingColumnName
  | some name =>
      match d.types.find? f.abstractType with
      | none => .error (.unknownColumnType f.abstractType)
      | some type => .ok (f.column d q name type inlineKey)

end TableDdl
