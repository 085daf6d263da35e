import TableDdl.Number.Binary64

/-!
# Numerals

How numbers are written and read with decimal digits.

* `integerChars` and `integer?` write and read integers: an optional sign and ASCII digits.
* `Numeral` holds the parts of a longer numeral such as `-12.50e3` as they stand, so that each
  grammar is a condition on the parts.
* `Numeral.isDecimal` is the grammar of numbers in free text: `.5`, `5.` and `+5` are numbers there.
* `isNumericChars` asks in addition that the number be finite.
-/

namespace TableDdl

/-! ## Integers -/

def integerChars (n : Int) : List Char :=
  if n < 0 then '-' :: Nat.toDigits 10 n.natAbs else Nat.toDigits 10 n.natAbs

def isDigits (cs : List Char) : Bool :=
  !cs.isEmpty && cs.all Char.isDigit

def digitsValue (cs : List Char) : Nat :=
  Nat.ofDigitChars 10 cs 0

/-- The sign at the front of a text, if there is one, and the rest. -/
def splitSign : List Char → Option Char × List Char
  | '+' :: rest => (some '+', rest)
  | '-' :: rest => (some '-', rest)
  | cs => (none, cs)

/-- Reads an optional sign and one or more digits. -/
def integer? (cs : List Char) : Option Int :=
  let (sign, digits) := splitSign cs
  if isDigits digits then
    some (if sign = some '-' then -(digitsValue digits : Int) else digitsValue digits)
  else none

/-- The integer as a machine word, if it fits into 64 bits. -/
def int64? (n : Int) : Option Int64 :=
  if Int64.minValue.toInt ≤ n ∧ n ≤ Int64.maxValue.toInt then some (Int64.ofInt n) else none

def int64Text (n : Int64) : String :=
  String.ofList (integerChars n.toInt)

example : integer? (integerChars (-120)) = some (-120) ∧ integer? ['+', '0', '5'] = some 5
    ∧ integer? ['-'] = none := by decide

/-! ## Numerals with a fraction or an exponent -/

/-- The parts of a numeral as they are written, not yet checked. -/
structure Numeral where
  /-- The sign in front, if any. -/
  sign : Option Char
  /-- What stands before the point. -/
  whole : List Char
  /-- What stands behind the point, if there is one. -/
  fraction : Option (List Char)
  /-- What stands behind the letter `e` or `E`, if there is one. -/
  exponent : Option (List Char)
deriving DecidableEq, Repr

namespace Numeral

def isExponentMark (c : Char) : Bool :=
  c == 'e' || c == 'E'

/-- Cuts a text at its sign, its first exponent mark and the first point before that. -/
def ofChars (cs : List Char) : Numeral :=
  let (sign, body) := splitSign cs
  let mantissa := body.takeWhile fun c => !isExponentMark c
  { sign := sign
    whole := mantissa.takeWhile (· != '.')
    fraction := match mantissa.dropWhile (· != '.') with
      | [] => none
      | _ :: rest => some rest
    exponent := match body.dropWhile fun c => !isExponentMark c with
      | [] => none
      | _ :: rest => some rest }

/-- Whether the numeral is negative; the sign of zero counts. -/
def isNegative (n : Numeral) : Bool :=
  n.sign == some '-'

/-- Whether the part behind the exponent mark, if there is one, is an integer. -/
def hasExponent (n : Numeral) : Bool :=
  n.exponent.all fun cs => (integer? cs).isSome

def mantissa (n : Numeral) : List Char :=
  n.whole ++ n.fraction.getD []

/-- The power of ten that the digits of the mantissa are multiplied with. -/
def scale (n : Numeral) : Int :=
  (n.exponent.bind integer?).getD 0 - (n.fraction.getD []).length

/-- The binary64 number nearest to the numeral. -/
def value (n : Numeral) : Binary64 :=
  Binary64.ofDecimal n.isNegative (digitsValue n.mantissa) n.scale

/-- The grammar of numbers in free text: digits on at least one side of the point, and an exponent
or none. -/
def isDecimal (n : Numeral) : Bool :=
  isDigits n.mantissa && n.hasExponent

end Numeral

/-- Whether the text is a number in free text, and a finite one. -/
def isNumericChars (cs : List Char) : Bool :=
  let numeral := Numeral.ofChars cs
  numeral.isDecimal && numeral.value.isFinite

example : isNumericChars ['+', '.', '5', 'e', '-', '2'] = true ∧ isNumericChars ['5', '.'] = true
    ∧ isNumericChars ['.'] = false ∧ isNumericChars ['1', 'e', '4', '0', '0'] = false := by
  decide +kernel

end TableDdl
