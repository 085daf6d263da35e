import TableDdl.Calendar.Date
import TableDdl.Number.Numeral
import TableDdl.Text.Blank

/-!
# Dates in text

`DateFormat` lists the three forms in which a moment is written: day and time, the day alone, the
time alone.  `Moment.print` writes one of them.

Only these three are covered.  A format is not read from a pattern, so other patterns, which a
library for dates would take as well, are left out; no provided dialect uses one.

Reading is more lenient than writing.  Blanks may stand in front of every number, leading zeros may
be missing, and the blank between day and time may be any run of blanks or none.  Literal
characters must match, numbers must name an existing day and time, and nothing may follow.  A day
is read as its midnight, and a time as one of the first of January 1970.
-/

namespace TableDdl

open Text

inductive DateFormat where
  | dateTime
  | date
  | time
deriving DecidableEq, Repr

namespace DateFormat

/-- The pattern by which a format is known. -/
def pattern : DateFormat → String
  | dateTime => "%Y-%m-%d %H:%M:%S"
  | date => "%Y-%m-%d"
  | time => "%H:%M:%S"

end DateFormat

/-! ## Writing -/

/-- The digits of a number, filled up with zeros at the front to the given width. -/
def paddedDigits (width n : Nat) : List Char :=
  let digits := Nat.toDigits 10 n
  List.replicate (width - digits.length) '0' ++ digits

/-- The year with at least four digits, and with a sign where it lies outside 0 to 9999. -/
def yearChars (year : Int) : List Char :=
  if year < 0 then '-' :: paddedDigits 4 year.natAbs
  else if year ≤ 9999 then paddedDigits 4 year.natAbs
  else '+' :: paddedDigits 4 year.natAbs

def Date.chars (d : Date) : List Char :=
  yearChars d.year ++ '-' :: paddedDigits 2 d.month ++ '-' :: paddedDigits 2 d.day

def TimeOfDay.chars (t : TimeOfDay) : List Char :=
  paddedDigits 2 t.hour ++ ':' :: paddedDigits 2 t.minute ++ ':' :: paddedDigits 2 t.second

def Moment.chars (m : Moment) : DateFormat → List Char
  | .dateTime => m.date.chars ++ ' ' :: m.time.chars
  | .date => m.date.chars
  | .time => m.time.chars

/-- The text of a moment in one of the three forms. -/
def Moment.print (m : Moment) (format : DateFormat) : String :=
  String.ofList (m.chars format)

/-! ## Reading -/

def takeDigits? (limit : Option Nat) (cs : List Char) : Option (Nat × List Char) :=
  let run := cs.takeWhile Char.isDigit
  let digits := match limit with
    | some n => run.take n
    | none => run
  if digits.isEmpty then none else some (digitsValue digits, cs.drop digits.length)

/-- Reads a number of one or two digits, after any blanks. -/
def takeNumber? (cs : List Char) : Option (Nat × List Char) :=
  takeDigits? (some 2) (trimLeft cs)

/-- Reads a year, after any blanks: up to four digits, or a sign and any number of them. -/
def takeYear? (cs : List Char) : Option (Int × List Char) :=
  match trimLeft cs with
  | '-' :: rest => (takeDigits? none rest).map fun r => (-(r.1 : Int), r.2)
  | '+' :: rest => (takeDigits? none rest).map fun r => ((r.1 : Int), r.2)
  | rest => (takeDigits? (some 4) rest).map fun r => ((r.1 : Int), r.2)

def takeChar? (c : Char) : List Char → Option (List Char)
  | [] => none
  | d :: rest => if d = c then some rest else none

def Date.take? (cs : List Char) : Option (Date × List Char) := do
  let (year, cs) ← takeYear? cs
  let cs ← takeChar? '-' cs
  let (month, cs) ← takeNumber? cs
  let cs ← takeChar? '-' cs
  let (day, cs) ← takeNumber? cs
  let date ← Date.ofYearMonthDay? year month day
  return (date, cs)

def TimeOfDay.take? (cs : List Char) : Option (TimeOfDay × List Char) := do
  let (hour, cs) ← takeNumber? cs
  let cs ← takeChar? ':' cs
  let (minute, cs) ← takeNumber? cs
  let cs ← takeChar? ':' cs
  let (second, cs) ← takeNumber? cs
  let time ← TimeOfDay.ofHourMinuteSecond? hour minute second
  return (time, cs)

def atEnd? {α : Type} : α × List Char → Option α
  | (value, []) => some value
  | _ => none

namespace Moment

/-- Reads a day and a time with a separator between them. -/
def ofParts? (separator : List Char → Option (List Char)) (cs : List Char) : Option Moment := do
  let (date, cs) ← Date.take? cs
  let cs ← separator cs
  let time ← (TimeOfDay.take? cs).bind atEnd?
  return ⟨date, time⟩

/-- Reads a moment: a day and a time with blanks or a `T` between them, a day, or a time. -/
def ofChars? (cs : List Char) : Option Moment :=
  ofParts? (fun rest => some (trimLeft rest)) cs
    <|> ofParts? (takeChar? 'T') cs
    <|> ((Date.take? cs).bind atEnd?).map (fun date => ⟨date, TimeOfDay.midnight⟩)
    <|> ((TimeOfDay.take? cs).bind atEnd?).map (fun time => ⟨Date.epoch, time⟩)

/-- Reads a moment from a text; blanks at both ends do not matter. -/
def ofText? (text : String) : Option Moment :=
  ofChars? (trimChars text.toList)

end Moment

example : ((Moment.ofText? " 2024-2-29T7:05:60 ").map fun m => m.chars .dateTime)
    = some "2024-02-29 07:05:60".toList := by decide +kernel

end TableDdl
