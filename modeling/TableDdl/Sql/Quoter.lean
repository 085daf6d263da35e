import TableDdl.Sql.Literal

/-!
# Quoting

The compiler writes neither identifiers nor literals itself; it asks a `Quoter`.  A `QuoteStyle`
gives the usual one: identifiers stand between two quote characters, strings between single quotes,
and in both the closing quote is doubled.  A dot in an identifier separates parts that are quoted
on their own.
-/

namespace TableDdl

open Text

/-- What writes the identifiers and the literals of a statement. -/
structure Quoter where
  name : String → String
  /-- The text of a scalar under a formatter. -/
  value : Scalar → Formatter → String

/-- The characters and words with which identifiers and literals are written. -/
structure QuoteStyle where
  /-- Stands before a part of an identifier. -/
  opening : Char
  /-- Stands behind a part of an identifier, and is doubled inside it. -/
  closing : Char
  trueLiteral : String := "1"
  falseLiteral : String := "0"
deriving DecidableEq, Repr

namespace QuoteStyle

variable (style : QuoteStyle)

/-! ## Identifiers -/

def partChars (cs : List Char) : List Char :=
  style.opening :: double style.closing cs ++ [style.closing]

/-- An identifier with each of its parts in quotes. -/
def nameChars (cs : List Char) : List Char :=
  ['.'].intercalate ((cs.splitOn '.').map style.partChars)

/-- The text of an identifier; the empty identifier is the empty text. -/
def name (identifier : String) : String :=
  if identifier = "" then "" else String.ofList (style.nameChars identifier.toList)

/-! ## Literals -/

def stringChars (cs : List Char) : List Char :=
  '\'' :: double '\'' cs ++ ['\'']

def literalText : Literal → String
  | .null => "NULL"
  | .boolean b => if b then style.trueLiteral else style.falseLiteral
  | .bare text => text
  | .quoted content => String.ofList (stringChars content.toList)

def value (v : Scalar) (formatter : Formatter) : String :=
  style.literalText (v.literal formatter)

def quoter : Quoter where
  name := style.name
  value := style.value

end QuoteStyle

example : (QuoteStyle.name ⟨'"', '"', "1", "0"⟩ "a.b\"c") = "\"a\".\"b\"\"c\"" := by decide

end TableDdl
