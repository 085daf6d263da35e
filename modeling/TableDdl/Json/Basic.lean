import TableDdl.Json.Grammar
import TableDdl.Schema.Scalar

/-!
# Documents

A `Json` document has scalars at its leaves.  `Draft.read?` reads a draft down to them:

* an integer of 64 bits is an integer, every other numeral a floating point number, and minus zero
  is one too, because an integer could not keep its sign;
* a numeral whose value overflows is refused, as is a string with half of a surrogate pair;
* arrays and objects may be nested to a limited depth only.
-/

namespace TableDdl

inductive Json where
  | scalar (v : Scalar)
  | array (items : List Json)
  /-- An object, with all its members in order. -/
  | object (members : List (String × Json))

instance : Inhabited Json := ⟨.scalar .null⟩

/-- The scalar that a numeral of a document stands for, if its value is finite.  A numeral that is no
word of 64 bits stands for the nearest binary64 number, exactly; readers that trade this for speed
are not modelled. -/
def Numeral.scalar? (n : Numeral) : Option Scalar :=
  let magnitude : Int := digitsValue n.whole
  let whole := if n.isNegative then -magnitude else magnitude
  let isWord := n.fraction.isNone && n.exponent.isNone && !(n.isNegative && magnitude == 0)
  match if isWord then int64? whole else none with
  | some word => some (.integer word)
  | none => if n.value.isFinite then some (.real n.value) else none

/-- The number of arrays and objects that may stand inside one another. -/
def Json.depthLimit : Nat := 127

namespace Draft

mutual

/-- Reads a draft in which at most `budget` arrays and objects stand inside one another. -/
def read? (budget : Nat) : Draft → Option Json
  | .null => some (.scalar .null)
  | .boolean b => some (.scalar (.boolean b))
  | .number n => n.scalar?.map .scalar
  | .string s => s.text?.map fun text => .scalar (.text text)
  | .array items =>
      match budget with
      | 0 => none
      | rest + 1 => (readItems? rest items).map .array
  | .object members =>
      match budget with
      | 0 => none
      | rest + 1 => (readMembers? rest members).map .object

def readItems? (budget : Nat) : List Draft → Option (List Json)
  | [] => some []
  | item :: items => do
      let first ← read? budget item
      let rest ← readItems? budget items
      return first :: rest

def readMembers? (budget : Nat) : List (DraftString × Draft) → Option (List (String × Json))
  | [] => some []
  | (key, value) :: members => do
      let name ← key.text?
      let first ← read? budget value
      let rest ← readMembers? budget members
      return (name, first) :: rest

end

end Draft

namespace Json

def ofText? (text : String) : Option Json :=
  (Draft.ofText? text).bind (Draft.read? depthLimit)

end Json

end TableDdl
