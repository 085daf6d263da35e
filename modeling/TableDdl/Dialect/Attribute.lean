import TableDdl.OrderedMap
import TableDdl.Sql.Quoter
import TableDdl.Text.Blank

/-!
# Attributes

Fields and tables carry named attributes such as `comment` or `engine`.  A dialect has a table of
`AttributeRule`s that says which of them it knows and how each is written; all others are passed
over.  The order of the table, and not that of the attributes, is the order in the statement.

* `AttributeTable.render?` writes one attribute;
* `AttributeTable.collect` writes all that are present.
-/

namespace TableDdl

open Text

/-- On which side of the column's clause an attribute stands. -/
inductive Placement where
  /-- Before it. -/
  | before
  /-- Behind it. -/
  | after
deriving DecidableEq, Repr

structure AttributeRule where
  /-- What is written in front of the value. -/
  keyword : String
  /-- Whether the value is written as a string. -/
  quoted : Bool := false
  /-- What stands between keyword and value. -/
  joint : String := " "
  /-- The values that are allowed, if not all are. -/
  allowed : Option (List String) := none
  /-- Where the attribute of a column stands. -/
  placement : Placement := .before
deriving DecidableEq, Repr

def AttributeRule.allows (rule : AttributeRule) (value : String) : Bool :=
  match rule.allowed with
  | none => true
  | some values => values.contains value

def AttributeRule.text (rule : AttributeRule) (q : Quoter) (value : Scalar) : String :=
  trim (rule.keyword ++ rule.joint ++ (if rule.quoted then q.value value .text else value.display))

/-- The attributes that a dialect knows, in the order in which they are written. -/
abbrev AttributeTable := List (String × AttributeRule)

namespace AttributeTable

/-- The text of an attribute, if the dialect knows it and allows the value.  Of a repeated name the
first rule counts. -/
def render? (table : AttributeTable) (q : Quoter) (name : String) (value : Scalar) :
    Option String :=
  match table.lookup name with
  | none => none
  | some rule => if rule.allows value.display then some (rule.text q value) else none

/-- The text that a row of the table contributes: that of the attribute it names, if the attribute
is present with a value and the text is not empty. -/
def contribution? (table : AttributeTable) (q : Quoter) (data : OrderedMap Scalar)
    (name : String) : Option String :=
  match data.get? name with
  | none => none
  | some value =>
      if value.isAbsent then none
      else (table.render? q name value).filter fun text => text != ""

/-- The texts of the attributes that are present, in the order of the table; only those named in
`names` and those on the given side, where these are given. -/
def collect (table : AttributeTable) (q : Quoter) (data : OrderedMap Scalar)
    (names : Option (List String)) (placement : Option Placement) : List String :=
  (table.filter fun row =>
      names.all (fun known => known.contains row.1)
        && placement.all (fun side => row.2.placement == side)).filterMap
    fun row => table.contribution? q data row.1

/-- The texts of the attributes that are present, each behind `joiner`. -/
def join (table : AttributeTable) (q : Quoter) (data : OrderedMap Scalar)
    (names : Option (List String)) (joiner : String) : String :=
  String.join ((table.collect q data names none).map fun text => joiner ++ text)

end AttributeTable

/-- How the attributes of a table are laid out behind its body. -/
structure AttributeLayout where
  /-- Stands before the first. -/
  lead : String
  /-- Stands between any two. -/
  separator : String
deriving DecidableEq, Repr

/-- The texts of attributes, laid out; nothing for no attribute. -/
def AttributeLayout.arrange (layout : AttributeLayout) (texts : List String) : String :=
  if texts.isEmpty then "" else layout.lead ++ layout.separator.intercalate texts

end TableDdl
