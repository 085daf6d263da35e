import TableDdl.Number.Numeral

/-!
# Drafts of documents

A `Draft` is a JSON document as the grammar gives it, before its parts are read: numerals are still
text, escapes in strings are not combined yet, and an object keeps all its members in order,
repeated ones too.  What is never read need not be readable; a draft may hold a number beyond every
magnitude or half of a surrogate pair, and may be nested to any depth.
-/

namespace TableDdl

inductive StringUnit where
  /-- A character that stands for itself, or was written as a short escape. -/
  | char (c : Char)
  /-- A 16-bit unit that was written with four hexadecimal digits. -/
  | unit (u : Nat)
deriving DecidableEq, Repr

abbrev DraftString := List StringUnit

inductive Draft where
  | null
  | boolean (b : Bool)
  | number (n : Numeral)
  | string (s : DraftString)
  | array (items : List Draft)
  | object (members : List (DraftString × Draft))

instance : Inhabited Draft := ⟨.null⟩

namespace DraftString

def isHighSurrogate (u : Nat) : Bool :=
  0xD800 ≤ u && u ≤ 0xDBFF

def isLowSurrogate (u : Nat) : Bool :=
  0xDC00 ≤ u && u ≤ 0xDFFF

def pairChar (high low : Nat) : Char :=
  Char.ofNat (0x10000 + (high - 0xD800) * 0x400 + (low - 0xDC00))

/-- The characters of a string.  Written units have to form whole characters: half of a surrogate
pair makes the string unreadable. -/
def read? : DraftString → Option (List Char)
  | [] => some []
  | .char c :: rest => (read? rest).map (c :: ·)
  | .unit u :: .unit v :: rest =>
      if isHighSurrogate u then
        if isLowSurrogate v then (read? rest).map (pairChar u v :: ·) else none
      else if isLowSurrogate u then none
      else (read? (.unit v :: rest)).map (Char.ofNat u :: ·)
  | .unit u :: rest =>
      if isHighSurrogate u || isLowSurrogate u then none
      else (read? rest).map (Char.ofNat u :: ·)

def text? (s : DraftString) : Option String :=
  (read? s).map String.ofList

end DraftString

end TableDdl
