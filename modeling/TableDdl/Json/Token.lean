import TableDdl.Json.Draft

/-!
# Tokens of a document

`tokens?` cuts the text of a document into tokens.  It goes through the text once and keeps a state:
between two tokens, inside a word, or inside a string.  A word is whatever stands between blanks,
quotes and punctuation marks; it has to be one of three keywords or a numeral.
-/

namespace TableDdl
namespace Json

inductive Token where
  | openArray
  | closeArray
  | openObject
  | closeObject
  /-- The mark between two items or members. -/
  | comma
  /-- The mark between the key and the value of a member. -/
  | colon
  | string (s : DraftString)
  | word (d : Draft)

/-! ## Words -/

/-- The grammar of numerals: no sign but `-`, no zero in front of another digit, and digits on both
sides of a point. -/
def isNumber (n : Numeral) : Bool :=
  n.sign != some '+' && isDigits n.whole && (n.whole.length == 1 || n.whole.head? != some '0')
    && n.fraction.all isDigits && n.hasExponent

def word? (cs : List Char) : Option Draft :=
  if cs = "null".toList then some .null
  else if cs = "true".toList then some (.boolean true)
  else if cs = "false".toList then some (.boolean false)
  else if isNumber (Numeral.ofChars cs) then some (.number (Numeral.ofChars cs))
  else none

/-! ## The scanner -/

inductive ScanMode where
  | between
  /-- A word, of which these characters were read, the last one first. -/
  | word (read : List Char)
  /-- A string, of which these units were read, the last one first. -/
  | string (read : DraftString)
  /-- An escape in a string, right behind the backslash. -/
  | escape (read : DraftString)
  /-- An escape by four hexadecimal digits, of which some were read. -/
  | hex (read : DraftString) (count value : Nat)

structure ScanState where
  /-- What the scanner is in the middle of. -/
  mode : ScanMode
  /-- The tokens that are complete, the last one first. -/
  tokens : List Token

def isSpace (c : Char) : Bool :=
  c == ' ' || c == '\t' || c == '\n' || c == '\r'

def mark? (c : Char) : Option Token :=
  if c = '[' then some .openArray
  else if c = ']' then some .closeArray
  else if c = '\x7b' then some .openObject
  else if c = '\x7d' then some .closeObject
  else if c = ',' then some .comma
  else if c = ':' then some .colon
  else none

def shortEscape? (c : Char) : Option Char :=
  if c = '"' ∨ c = '\\' ∨ c = '/' then some c
  else if c = 'b' then some '\x08'
  else if c = 'f' then some '\x0c'
  else if c = 'n' then some '\n'
  else if c = 'r' then some '\r'
  else if c = 't' then some '\t'
  else none

def hexDigit? (c : Char) : Option Nat :=
  if '0' ≤ c ∧ c ≤ '9' then some (c.toNat - 48)
  else if 'a' ≤ c ∧ c ≤ 'f' then some (c.toNat - 87)
  else if 'A' ≤ c ∧ c ≤ 'F' then some (c.toNat - 55)
  else none

/-- Takes a character that stands between two tokens or begins one. -/
def scanOutside (tokens : List Token) (c : Char) : ScanState :=
  if isSpace c then ⟨.between, tokens⟩
  else if c = '"' then ⟨.string [], tokens⟩
  else match mark? c with
    | some mark => ⟨.between, mark :: tokens⟩
    | none => ⟨.word [c], tokens⟩

def scanChar (state : ScanState) (c : Char) : Option ScanState :=
  match state.mode with
  | .between => some (scanOutside state.tokens c)
  | .word read =>
      if isSpace c || c == '"' || (mark? c).isSome then
        (word? read.reverse).map fun d => scanOutside (.word d :: state.tokens) c
      else some ⟨.word (c :: read), state.tokens⟩
  | .string read =>
      if c = '"' then some ⟨.between, .string read.reverse :: state.tokens⟩
      else if c = '\\' then some ⟨.escape read, state.tokens⟩
      else if c.toNat < 0x20 then none
      else some ⟨.string (.char c :: read), state.tokens⟩
  | .escape read =>
      if c = 'u' then some ⟨.hex read 0 0, state.tokens⟩
      else (shortEscape? c).map fun d => ⟨.string (.char d :: read), state.tokens⟩
  | .hex read count value =>
      (hexDigit? c).map fun digit =>
        if count = 3 then ⟨.string (.unit (16 * value + digit) :: read), state.tokens⟩
        else ⟨.hex read (count + 1) (16 * value + digit), state.tokens⟩

/-- The tokens that were read when the text ends here, if it may end here. -/
def scanEnd? (state : ScanState) : Option (List Token) :=
  match state.mode with
  | .between => some state.tokens.reverse
  | .word read => (word? read.reverse).map fun d => (.word d :: state.tokens).reverse
  | _ => none

def tokens? (cs : List Char) : Option (List Token) :=
  (cs.foldlM scanChar ⟨.between, []⟩).bind scanEnd?

end Json
end TableDdl
