import TableDdl.Calendar.DateFormat
import TableDdl.Schema.Scalar
import TableDdl.Text.Ascii
import TableDdl.Text.Doubled

/-!
# Literals

How a scalar is written as a literal of the statement.  The column type decides by its `Formatter`
which form is tried; what does not fit that form is written as a quoted string, so every scalar has
a literal under every formatter.

* `Formatter`: the forms;
* `Literal`: what is written, before any quote character is chosen;
* `Scalar.literal`: the literal of a scalar under a formatter.

The trimmed text decides whether a text is a number, a truth value or a date; a text that is none
of these is quoted as it stands, blanks included.
-/

namespace TableDdl

open Text

/-- The forms in which the literals of a column type are written. -/
inductive Formatter where
  /-- Bare integers. -/
  | integer
  /-- Bare numbers. -/
  | real
  | boolean
  /-- Quoted strings. -/
  | text
  /-- Quoted dates in one format. -/
  | date (format : DateFormat)
deriving DecidableEq, Repr

def Formatter.describe : Formatter → String
  | integer => "integer"
  | real => "float"
  | boolean => "boolean"
  | text => "string"
  | date format => "date " ++ format.pattern

/-- A literal, before any quote character is chosen. -/
inductive Literal where
  | null
  | boolean (b : Bool)
  /-- A text that is written as it is. -/
  | bare (text : String)
  /-- A string that is written in quotes. -/
  | quoted (content : String)
deriving DecidableEq, Repr

namespace Scalar

/-- The integer that a text stands for when it is trimmed, if it fits into 64 bits. -/
def integerOfText? (s : String) : Option Int64 :=
  (integer? (trimChars s.toList)).bind int64?

/-- The truth value that a text stands for when it is trimmed; the case of letters does not
matter. -/
def booleanOfText? (s : String) : Option Bool :=
  let word := lowerAscii (trim s)
  if word ∈ ["1", "true", "t", "yes"] then some true
  else if word ∈ ["0", "false", "f", "no"] then some false
  else none

/-- The literal of a scalar as an integer.  Floating point numbers lose their fraction. -/
def integerLiteral : Scalar → Literal
  | null => .null
  | boolean b => .bare (if b then "1" else "0")
  | integer n => .bare (int64Text n)
  | real x => if x.isFinite then .bare x.truncate.text else .quoted x.text
  | text s =>
      match integerOfText? s with
      | some n => .bare (int64Text n)
      | none => .quoted s

/-- The literal of a scalar as a number.  Whatever is no number is taken as an integer. -/
def realLiteral : Scalar → Literal
  | text s => if (text s).isNumeric then .bare (trim s) else integerLiteral (text s)
  | integer n => .bare (int64Text n)
  | real x => if x.isFinite then .bare x.text else .quoted x.text
  | v => integerLiteral v

/-- The literal of a scalar as a truth value.  An integer is true unless it is zero; a floating
point number is written as an integer. -/
def booleanLiteral : Scalar → Literal
  | null => .null
  | boolean b => .boolean b
  | integer n => .boolean (n != 0)
  | real x => integerLiteral (real x)
  | text s =>
      match booleanOfText? s with
      | some b => .boolean b
      | none => .quoted s

/-- The literal of a scalar as a date.  An integer is a timestamp, and stays a number where it lies
outside the calendar. -/
def dateLiteral (format : DateFormat) : Scalar → Literal
  | null => .null
  | integer n =>
      match Moment.ofTimestamp? n.toInt with
      | some moment => .quoted (moment.print format)
      | none => .bare (int64Text n)
  | text s =>
      match Moment.ofText? s with
      | some moment => .quoted (moment.print format)
      | none => .quoted s
  | v => .quoted v.display

def literal (v : Scalar) (formatter : Formatter) : Literal :=
  if v = null then .null
  else match formatter with
    | .integer => v.integerLiteral
    | .real => v.realLiteral
    | .boolean => v.booleanLiteral
    | .text => .quoted v.display
    | .date format => v.dateLiteral format

/-- The null of a document is NULL under every formatter. -/
@[simp] theorem literal_null (formatter : Formatter) : null.literal formatter = .null := by
  simp [literal]

end Scalar

end TableDdl
