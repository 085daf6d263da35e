import TableDdl.Number.Decimal
import TableDdl.Number.Numeral
import TableDdl.Text.Blank

/-!
# Scalars

A scalar is a literal as it appears in a schema: nothing, a truth value, an integer of 64 bits, a
floating point number or a text.
-/

namespace TableDdl

open Text

inductive Scalar where
  | null
  | boolean (b : Bool)
  | integer (n : Int64)
  | real (x : Binary64)
  | text (s : String)
deriving DecidableEq

namespace Scalar

instance : Inhabited Scalar := ⟨null⟩

def display : Scalar → String
  | null => "NULL"
  | boolean b => if b then "true" else "false"
  | integer n => int64Text n
  | real x => x.text
  | text s => s

/-- Whether a scalar is a finite number or a text that reads as one when it is trimmed. -/
def isNumeric : Scalar → Bool
  | null => false
  | boolean _ => false
  | integer _ => true
  | real x => x.isFinite
  | text s => isNumericChars (trimChars s.toList)

def isEmptyText : Scalar → Bool
  | text s => s == ""
  | _ => false

/-- Whether a scalar gives an attribute no value: it is null or the empty text. -/
def isAbsent (v : Scalar) : Bool :=
  v == null || v.isEmptyText

end Scalar

end TableDdl
