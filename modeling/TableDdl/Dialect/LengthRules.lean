import TableDdl.Number.Numeral

/-!
# Lengths of native types

Which native keywords take a length in parentheses, and which of these a precision behind it.  A
keyword that takes no precision may still take a length, but never the other way round.
-/

namespace TableDdl

/-- Which native keywords take a length, and which of them a precision. -/
structure LengthRules where
  /-- Whether a keyword takes a length. -/
  acceptsLength : String → Bool
  /-- Whether a keyword that takes a length also takes a precision. -/
  isPrecise : String → Bool

/-! ## Families of keywords -/

def occursIn (part : List Char) : List Char → Bool
  | [] => part.isEmpty
  | c :: cs => part.isPrefixOf (c :: cs) || occursIn part cs

/-- The keywords in which one of the given texts occurs. -/
def keywordsWith (parts : List String) (keyword : String) : Bool :=
  parts.any fun part => occursIn part.toList keyword.toList

def keywordsAmong (names : List String) (keyword : String) : Bool :=
  names.contains keyword

namespace LengthRules

variable (rules : LengthRules)

def acceptsPrecision (keyword : String) : Bool :=
  rules.acceptsLength keyword && rules.isPrecise keyword

def digits (n : UInt32) : String :=
  String.ofList (Nat.toDigits 10 n.toNat)

/-- What is written behind a keyword: nothing, the length, or length and precision.  There is no
precision without a length. -/
def suffix (keyword : String) (length precision : Option UInt32) : String :=
  match length with
  | none => ""
  | some n =>
      if rules.acceptsLength keyword then
        match precision with
        | some p =>
            if rules.acceptsPrecision keyword then "(" ++ digits n ++ "," ++ digits p ++ ")"
            else "(" ++ digits n ++ ")"
        | none => "(" ++ digits n ++ ")"
      else ""

end LengthRules

end TableDdl
