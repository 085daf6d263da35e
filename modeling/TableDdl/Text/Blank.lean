import TableDdl.Text.CharSet

/-!
# Blanks, trimming and words

A blank is a character with the Unicode property White_Space; there are 25 of them.  Everything in
the library that trims a text or cuts it into words uses this one class:

* `trim` drops the blanks at both ends of a text;
* `words` gives the maximal runs of other characters, in order.

Both are defined on lists of characters, and the versions on `String` only convert.
-/

namespace TableDdl
namespace Text

def blankSet : CharSet :=
  [(0x09, 0x0D), (0x20, 0x20), (0x85, 0x85), (0xA0, 0xA0), (0x1680, 0x1680), (0x2000, 0x200A),
   (0x2028, 0x2029), (0x202F, 0x202F), (0x205F, 0x205F), (0x3000, 0x3000)]

def isBlank (c : Char) : Bool :=
  blankSet.contains c

example : blankSet.ascending = true ∧ isBlank 'a' = false ∧ isBlank '\u200b' = false := by decide

/-! ## Trimming -/

def trimLeft (cs : List Char) : List Char :=
  cs.dropWhile isBlank

def trimChars (cs : List Char) : List Char :=
  (trimLeft (trimLeft cs).reverse).reverse

def trim (s : String) : String :=
  String.ofList (trimChars s.toList)

/-- A text is blank when it holds nothing but blanks; the empty text is. -/
def isBlankText (s : String) : Bool :=
  s.toList.all isBlank

@[simp] theorem toList_trim (s : String) : (trim s).toList = trimChars s.toList := by
  simp [trim]

/-! ## Words -/

/-- The maximal runs of characters that are not blank, in order. -/
def wordsOf (cs : List Char) : List (List Char) :=
  (cs.splitOnP isBlank).filter fun word => !word.isEmpty

def words (s : String) : List String :=
  (wordsOf s.toList).map String.ofList

end Text
end TableDdl
