import TableDdl.Dialect.Basic
import TableDdl.Text.Ascii

/-!
# The dialects that are provided

MySQL, PostgreSQL and SQLite.  They differ in their types, in the keywords that take a length, in
where indexes are declared and in how a primary key that counts up by itself is written.
-/

namespace TableDdl
namespace Dialect

open Text

def exactFloat (keyword : String) (typeName : String) (precision : Option UInt32) :
    Option String :=
  if typeName = "float" ∧ precision.isSome then some keyword else none

/-! ## Templates -/

def plainWord (s : String) : List Piece :=
  [.text s]

def slotWord (before name after : String) : List Piece :=
  [.text before, .slot name, .text after]

/-- The template of primary keys: `PRIMARY KEY ({column})`. -/
def primaryTemplate : Template :=
  ⟨[plainWord "PRIMARY", plainWord "KEY", slotWord "(" "column" ")"]⟩

/-- The template of references: `FOREIGN KEY ({column}) REFERENCES {to} ({toColumn}) {on}`. -/
def foreignKeyTemplate : Template :=
  ⟨[plainWord "FOREIGN", plainWord "KEY", slotWord "(" "column" ")", plainWord "REFERENCES",
    [.slot "to"], slotWord "(" "toColumn" ")", [.slot "on"]]⟩

/-- The template of unique columns with a place for the index keyword:
`UNIQUE {index} ({column})`. -/
def uniqueIndexTemplate : Template :=
  ⟨[plainWord "UNIQUE", [.slot "index"], slotWord "(" "column" ")"]⟩

def uniqueTemplate : Template :=
  ⟨[plainWord "UNIQUE", slotWord "(" "column" ")"]⟩

def checkTemplate : Template :=
  ⟨[plainWord "CHECK", slotWord "(" "expr" ")"]⟩

example : Template.ofText "FOREIGN KEY (\x7bcolumn\x7d) REFERENCES \x7bto\x7d (\x7btoColumn\x7d) \x7bon\x7d"
    = foreignKeyTemplate := by decide +kernel

/-! ## MySQL -/

/-- Indexes stand in the body of the table, keys count up by a clause of their own, and tables have
options. -/
def mysql : Dialect where
  name := "mysql"
  types :=
    { types :=
        [("string", { keyword := "varchar", length := some 255 }),
         ("text", { keyword := "text" }),
         ("integer",
           { keyword := "int", length := some 11, formatter := .integer, increments := true }),
         ("float", { keyword := "float", formatter := .real }),
         ("datetime", { keyword := "datetime", formatter := .date .dateTime }),
         ("time", { keyword := "time", formatter := .date .time }),
         ("date", { keyword := "date", formatter := .date .date }),
         ("binary", { keyword := "blob" }),
         ("boolean", { keyword := "tinyint", length := some 1, formatter := .boolean })]
      keyRule := { clause := "NOT NULL AUTO_INCREMENT" } }
  lengths :=
    { acceptsLength :=
        keywordsWith ["char", "decimal", "int", "float", "double", "year", "timestamp"]
      isPrecise := keywordsWith ["decimal", "float", "double"] }
  substitute := exactFloat "decimal"
  clauses := { order := .defaultFirst, bareNull := .keywords ["datetime"] }
  columnAttributes :=
    [("charset", { keyword := "CHARACTER SET" }),
     ("collate", { keyword := "COLLATE" }),
     ("comment", { keyword := "COMMENT", quoted := true, placement := .after })]
  tableAttributes :=
    [("charset", { keyword := "DEFAULT CHARSET", joint := "=" }),
     ("collate", { keyword := "COLLATE", joint := "=" }),
     ("engine", { keyword := "ENGINE", joint := "=" })]
  layout := { lead := "\n", separator := ",\n" }
  constraints :=
    { primary := some { template := primaryTemplate }
      foreignKey := some { template := foreignKeyTemplate }
      unique := some { template := uniqueIndexTemplate, indexKeyword := some "KEY" }
      check := some { template := checkTemplate } }
  indexes := .inBody
  quotes := { opening := Char.ofNat 0x60, closing := Char.ofNat 0x60 }

/-! ## PostgreSQL -/

/-- Indexes are statements of their own with unquoted names, keys count up by a type of their own,
and tables have a tablespace. -/
def postgres : Dialect where
  name := "postgresql"
  types :=
    { types :=
        [("string", { keyword := "varchar", length := some 255 }),
         ("text", { keyword := "text" }),
         ("integer", { keyword := "integer", formatter := .integer, increments := true }),
         ("float", { keyword := "float", formatter := .real }),
         ("datetime", { keyword := "timestamp", formatter := .date .dateTime }),
         ("time", { keyword := "time", formatter := .date .time }),
         ("date", { keyword := "date", formatter := .date .date }),
         ("binary", { keyword := "bytea" }),
         ("boolean", { keyword := "boolean", formatter := .boolean }),
         ("number", { keyword := "numeric", formatter := .real }),
         ("inet", { keyword := "inet" })]
      keyRule := { keyword := some "serial", clause := "NOT NULL" } }
  lengths :=
    { acceptsLength := keywordsWith ["char", "numeric", "interval", "bit", "time"]
      isPrecise := keywordsAmong ["numeric"] }
  substitute := exactFloat "numeric"
  clauses := { order := .notNullFirst, bareNull := .keywords ["timestamp"] }
  columnAttributes := []
  tableAttributes := [("tablespace", { keyword := "TABLESPACE" })]
  layout := { lead := " ", separator := " " }
  constraints :=
    { primary := some { template := primaryTemplate }
      foreignKey := some { template := foreignKeyTemplate }
      unique := some { template := uniqueTemplate }
      check := some { template := checkTemplate } }
  indexes := .separate false false
  quotes :=
    { opening := '"', closing := '"', trueLiteral := "TRUE", falseLiteral := "FALSE" }

/-! ## SQLite -/

/-- Indexes are statements of their own whose names begin with that of the table, and a key that
counts up declares the primary key in its column. -/
def sqlite : Dialect where
  name := "sqlite"
  types :=
    { types :=
        [("string", { keyword := "text", length := some 255 }),
         ("text", { keyword := "text" }),
         ("integer", { keyword := "integer", formatter := .integer, increments := true }),
         ("float", { keyword := "real", formatter := .real }),
         ("fixed",
           { keyword := "numeric", length := some 10, precision := some 2, formatter := .real }),
         ("timestamp", { keyword := "numeric", formatter := .date .dateTime }),
         ("datetime", { keyword := "numeric", formatter := .date .dateTime }),
         ("time", { keyword := "numeric", formatter := .date .time }),
         ("date", { keyword := "numeric", formatter := .date .date }),
         ("binary", { keyword := "blob" }),
         ("boolean", { keyword := "numeric", length := some 1, formatter := .boolean })]
      keyRule := { clause := "PRIMARY KEY AUTOINCREMENT", declaresKey := true } }
  lengths :=
    { acceptsLength := keywordsAmong ["integer", "real", "numeric", "text"]
      isPrecise := keywordsAmong ["integer", "real", "numeric"] }
  substitute := exactFloat "numeric"
  clauses := { order := .notNullFirst, bareNull := .always }
  columnAttributes :=
    [("collate",
       { keyword := "COLLATE", quoted := true, allowed := some ["BINARY", "NOCASE", "RTRIM"] })]
  tableAttributes := []
  layout := { lead := " ", separator := " " }
  constraints :=
    { primary := some { template := primaryTemplate }
      foreignKey := some { template := foreignKeyTemplate }
      unique := some { template := uniqueIndexTemplate }
      check := some { template := checkTemplate } }
  indexes := .separate true true
  quotes := { opening := '"', closing := '"' }

/-! ## Look-up -/

/-- The dialect of a name, which may be one of several; the case of letters does not matter. -/
def find? (name : String) : Option Dialect :=
  let known := lowerAscii name
  if known ∈ ["mysql"] then some mysql
  else if known ∈ ["postgres", "postgresql", "pgsql"] then some postgres
  else if known ∈ ["sqlite", "sqlite3"] then some sqlite
  else none

end Dialect
end TableDdl
