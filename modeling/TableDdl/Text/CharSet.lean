/-!
# Sets of characters given by ranges

A property of characters is kept as a list of closed ranges of code points, in ascending order and
apart from one another.  This file defines

* `CharSet`: such a list, with the two conditions as a check `CharSet.ascending`;
* `CharSet.contains`: whether a character lies in one of the ranges.
-/

namespace TableDdl
namespace Text

/-- Closed ranges of code points. -/
abbrev CharSet := List (Nat × Nat)

namespace CharSet

def contains (set : CharSet) (c : Char) : Bool :=
  set.any fun range => range.1 ≤ c.toNat && c.toNat ≤ range.2

/-- Each range is nonempty and ends before the next one begins. -/
def ascending : CharSet → Bool
  | [] => true
  | [range] => range.1 ≤ range.2
  | range :: next :: rest =>
      range.1 ≤ range.2 && range.2 < next.1 && ascending (next :: rest)

theorem contains_iff {set : CharSet} {c : Char} :
    contains set c = true ↔ ∃ range ∈ set, range.1 ≤ c.toNat ∧ c.toNat ≤ range.2 := by
  simp [contains]

end CharSet

end Text
end TableDdl
