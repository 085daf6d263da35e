import TableDdl.Dialect.Basic
import TableDdl.Statement.Condition

/-!
# Constraints

A constraint is written by filling the template that the dialect has for its kind.  A kind without a
template, and a check whose expression is blank, have no text.
-/

namespace TableDdl

open Text

def ColumnNames.sql (q : Quoter) (columns : ColumnNames) : String :=
  ", ".intercalate (columns.toList.map q.name)

def ConstraintTemplates.find? (templates : ConstraintTemplates) :
    Constraint → Option ConstraintTemplate
  | .primary _ => templates.primary
  | .foreignKey _ _ _ _ => templates.foreignKey
  | .unique _ _ => templates.unique
  | .check _ => templates.check
  | .unknown => none

namespace Constraint

/-- The values of the slots of a constraint's template; `indexKeyword` is the template's own.  A
check without an expression has none. -/
def values? (q : Quoter) (indexKeyword : Option String) : Constraint → Option Template.Values
  | primary columns => some [("column", columns.sql q)]
  | foreignKey columns table targets action =>
      some [("column", columns.sql q), ("to", q.name table), ("toColumn", targets.sql q),
        ("on", (action.map fun sql => "ON " ++ sql).getD "")]
  | unique columns index =>
      some [("column", columns.sql q), ("index", if index then indexKeyword.getD "" else "")]
  | check expression =>
      if isBlankText (expression.sql q) then none else some [("expr", expression.sql q)]
  | unknown => none

def sql? (q : Quoter) (templates : ConstraintTemplates) (c : Constraint) : Option String := do
  let form ← templates.find? c
  let values ← c.values? q form.indexKeyword
  return form.template.fill values

end Constraint

end TableDdl
