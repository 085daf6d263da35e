import TableDdl.Schema.Constraint
import TableDdl.Sql.Quoter
import TableDdl.Text.Ascii

/-!
# Conditions

Conditions on columns are compiled to clauses that are joined by `AND`.

* `Comparison` lists the operators; a condition under any other operator is passed over.
* `ConditionClause` is one clause, and `Conditions.clauses` gives those of some conditions in order.
* `CheckExpression.sql` is the text of a check.
-/

namespace TableDdl

open Text

inductive Comparison where
  | equal
  | notEqual
  | differs
  | greater
  | greaterOrEqual
  | less
  | lessOrEqual
  | like
  | notLike
deriving DecidableEq, Repr

namespace Comparison

def symbol : Comparison → String
  | equal => "="
  | notEqual => "!="
  | differs => "<>"
  | greater => ">"
  | greaterOrEqual => ">="
  | less => "<"
  | lessOrEqual => "<="
  | like => "LIKE"
  | notLike => "NOT LIKE"

def all : List Comparison :=
  [equal, notEqual, differs, greater, greaterOrEqual, less, lessOrEqual, like, notLike]

/-- The operator of a text; blanks at its ends and the case of letters do not matter. -/
def ofText? (s : String) : Option Comparison :=
  all.find? fun op => op.symbol == upperAscii (trim s)

end Comparison

/-! ## Clauses -/

inductive ConditionClause where
  | compare (column : String) (op : Comparison) (operand : Scalar)
  | equals (column : String) (v : Scalar)
  | isNull (column : String)
deriving DecidableEq

/-- The text of an operand.  Numbers and texts that read as numbers are bare, truth values are those
of the quoter, and everything else is a string. -/
def Quoter.operand (q : Quoter) (v : Scalar) : String :=
  match v with
  | .text s => if v.isNumeric then trim s else q.value v .text
  | .integer n => int64Text n
  | .real x => if x.isFinite then x.text else q.value v .text
  | .boolean _ => q.value v .boolean
  | .null => q.value v .text

def ConditionClause.sql (q : Quoter) : ConditionClause → String
  | compare column op operand =>
      "(" ++ q.name column ++ " " ++ op.symbol ++ " " ++ q.operand operand ++ ")"
  | equals column v => q.name column ++ " = " ++ q.operand v
  | isNull column => q.name column ++ " IS NULL"

def Predicate.clauses (column : String) : Predicate → List ConditionClause
  | compare operands =>
      operands.entries.filterMap fun entry =>
        (Comparison.ofText? entry.1).map fun op => .compare column op entry.2
  | equals .null => [.isNull column]
  | equals v => [.equals column v]

def Conditions.clauses (conditions : Conditions) : List ConditionClause :=
  conditions.entries.flatMap fun entry => entry.2.clauses entry.1

def Conditions.sql (q : Quoter) (conditions : Conditions) : String :=
  " AND ".intercalate (conditions.clauses.map (ConditionClause.sql q))

def CheckExpression.sql (q : Quoter) : CheckExpression → String
  | raw sql => sql
  | conditions m => Conditions.sql q m

end TableDdl
