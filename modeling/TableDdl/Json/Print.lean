import TableDdl.Json.Basic

/-!
# The text of a document

Documents are written without blanks.  In strings the quote, the backslash and the control
characters are escaped and everything else stands for itself.

Floating point numbers are written with the fewest digits that read back, a tie going to the even
digit.  Where the first digit stands for `10 ^ e` with `-5 ≤ e < 16` they are written positionally
and always with a fraction, elsewhere with an exponent.  There is no numeral for infinities and for
what is not a number; `null` stands in their place.
-/

namespace TableDdl
namespace Json

/-! ## Numbers -/

/-- Digits with a point behind the first, unless it is the only one. -/
def pointAfterFirst : List Char → List Char
  | [] => ['0']
  | [c] => [c]
  | c :: rest => c :: '.' :: rest

/-- The text of a decimal: positional where the leading digit stands for a power of ten that is
neither large nor small, and with an exponent elsewhere. -/
def decimalChars (d : Decimal) : List Char :=
  let exponent := d.pointPlace - 1
  if d.digits = 0 ∨ (-5 ≤ exponent ∧ exponent < 16) then
    let digits := d.positional
    if digits.contains '.' then digits else digits ++ ['.', '0']
  else
    pointAfterFirst d.significant
      ++ 'e' :: (if exponent < 0 then '-' else '+') :: Nat.toDigits 10 exponent.natAbs

def realChars : Binary64 → List Char
  | .finite negative rank =>
      let digits := decimalChars (Decimal.shortest .even rank)
      if negative then '-' :: digits else digits
  | _ => "null".toList

/-! ## Strings -/

def hexChar (n : Nat) : Char :=
  Nat.digitChar n

def escapeChar (c : Char) : List Char :=
  if c = '"' ∨ c = '\\' then ['\\', c]
  else if c = '\x08' then ['\\', 'b']
  else if c = '\x0c' then ['\\', 'f']
  else if c = '\n' then ['\\', 'n']
  else if c = '\r' then ['\\', 'r']
  else if c = '\t' then ['\\', 't']
  else if c.toNat < 0x20 then
    ['\\', 'u', '0', '0', hexChar (c.toNat / 16), hexChar (c.toNat % 16)]
  else [c]

def stringChars (cs : List Char) : List Char :=
  '"' :: cs.flatMap escapeChar ++ ['"']

/-! ## Documents -/

def scalarChars : Scalar → List Char
  | .null => "null".toList
  | .boolean b => if b then "true".toList else "false".toList
  | .integer n => integerChars n.toInt
  | .real x => realChars x
  | .text s => stringChars s.toList

mutual

def chars : Json → List Char
  | .scalar v => scalarChars v
  | .array items => '[' :: [','].intercalate (itemChars items) ++ [']']
  | .object members => '\x7b' :: [','].intercalate (memberChars members) ++ ['\x7d']

def itemChars : List Json → List (List Char)
  | [] => []
  | item :: items => item.chars :: itemChars items

def memberChars : List (String × Json) → List (List Char)
  | [] => []
  | (key, value) :: members => (stringChars key.toList ++ ':' :: value.chars) :: memberChars members

end

def print (j : Json) : String :=
  String.ofList j.chars

end Json
end TableDdl
