import TableDdl.Text.Blank
import TableDdl.Text.WordChar

/-!
# Templates

A template is a text with slots, such as `UNIQUE {index} ({column})`.  It is cut into
words once, when it is read; each word is a list of `Piece`s, which are texts and slots.  A slot is
a name of word characters between braces; any other brace stands for itself.

`Template.fill` puts values into the slots.  Because the words and slots are found beforehand, a
value is never looked at: it may hold blanks, braces and slots of its own.  A word that comes out
blank is dropped, and the others are joined by single blanks.
-/

namespace TableDdl

open Text

inductive Piece where
  /-- A text that stands for itself. -/
  | text (s : String)
  /-- A slot for the value of this name. -/
  | slot (name : String)
deriving DecidableEq, Repr

/-- A text with slots, cut into words. -/
structure Template where
  /-- The words, each as its pieces. -/
  words : List (List Piece)
deriving DecidableEq, Repr

namespace Template

/-! ## Reading -/

/-- The piece of some characters, of which the last comes first; no characters make no piece. -/
def textPiece (reversed : List Char) : List Piece :=
  if reversed.isEmpty then [] else [.text (String.ofList reversed.reverse)]

mutual

/-- The pieces of the rest of a word, where `text` was read and is not yet a piece. -/
def piecesInText (text : List Char) : List Char → List Piece
  | [] => textPiece text
  | c :: rest =>
      if c = '\x7b' then piecesInSlot text [] rest else piecesInText (c :: text) rest

/-- The pieces of the rest of a word behind an opening brace, where `name` was read since.  If what
follows is no slot, the brace and the name belong to the text in front of them. -/
def piecesInSlot (text name : List Char) : List Char → List Piece
  | [] => textPiece (name ++ '\x7b' :: text)
  | c :: rest =>
      if isWordChar c then piecesInSlot text (c :: name) rest
      else if c = '\x7d' ∧ name ≠ [] then
        textPiece text ++ .slot (String.ofList name.reverse) :: piecesInText [] rest
      else if c = '\x7b' then piecesInSlot (name ++ '\x7b' :: text) [] rest
      else piecesInText (c :: name ++ '\x7b' :: text) rest

end

def ofText (s : String) : Template :=
  ⟨(wordsOf s.toList).map (piecesInText [])⟩

/-! ## Filling -/

/-- The values of the slots.  The first value of a name counts. -/
abbrev Values := List (String × String)

/-- A piece with its slot filled; a slot without a value is empty. -/
def fillPiece (values : Values) : Piece → String
  | .text s => s
  | .slot name => (values.lookup name).getD ""

/-- A word with its slots filled. -/
def fillWord (values : Values) (word : List Piece) : String :=
  String.join (word.map (fillPiece values))

/-- The text of a template with its slots filled, without the words that came out blank. -/
def fill (template : Template) (values : Values) : String :=
  " ".intercalate ((template.words.map (fillWord values)).filter fun word => !isBlankText word)

end Template

end TableDdl
