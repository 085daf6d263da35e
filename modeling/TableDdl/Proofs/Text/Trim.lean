import TableDdl.Text.Blank

/-!
# Trimmed texts

Trimming takes away what is blank at the two ends and nothing else.

* `trimChars_eq_self`: a text without blanks at its ends stays as it is;
* `trimChars_padded`: blanks around such a text are taken away.
-/

namespace TableDdl
namespace Text

variable {cs : List Char}

theorem isBlank_eq_false_of_isDigit {c : Char} (h : c.isDigit = true) : isBlank c = false := by
  have hdigit : 48 ≤ c.toNat ∧ c.toNat ≤ 57 := Char.isDigit_iff_toNat.1 h
  simp [isBlank, blankSet, CharSet.contains]
  omega

/-- Nothing is trimmed in front of a character that is not blank. -/
theorem trimLeft_eq_self (h : ∀ c ∈ cs.head?, isBlank c = false) : trimLeft cs = cs := by
  cases cs with
  | nil => rfl
  | cons c cs =>
    have hc := h c rfl
    simp [trimLeft, hc]

/-- Nothing is trimmed off a text whose ends are not blank. -/
theorem trimChars_eq_self (hhead : ∀ c ∈ cs.head?, isBlank c = false)
    (hlast : ∀ c ∈ cs.getLast?, isBlank c = false) : trimChars cs = cs := by
  -- The end is trimmed from behind.
  have hback : trimLeft cs.reverse = cs.reverse := by
    refine trimLeft_eq_self ?_
    rw [List.head?_reverse]
    exact hlast
  rw [trimChars, trimLeft_eq_self hhead, hback, List.reverse_reverse]

/-- Blanks at the front are trimmed off. -/
theorem trimLeft_append_of_isBlank {front : List Char} (h : ∀ c ∈ front, isBlank c = true) :
    trimLeft (front ++ cs) = trimLeft cs :=
  List.dropWhile_append_of_pos h

/-- Blanks around a text that neither begins nor ends with one make no difference. -/
theorem trimChars_padded {front back : List Char} (hfront : ∀ c ∈ front, isBlank c = true)
    (hback : ∀ c ∈ back, isBlank c = true) (hne : cs ≠ [])
    (hhead : ∀ c ∈ cs.head?, isBlank c = false) (hlast : ∀ c ∈ cs.getLast?, isBlank c = false) :
    trimChars (front ++ (cs ++ back)) = cs := by
  have hleft : trimLeft (front ++ (cs ++ back)) = cs ++ back := by
    rw [trimLeft_append_of_isBlank hfront]
    rcases List.exists_cons_of_ne_nil hne with ⟨c, rest, rfl⟩
    exact trimLeft_eq_self hhead
  have hright : trimLeft (cs ++ back).reverse = cs.reverse := by
    rw [List.reverse_append, trimLeft_append_of_isBlank fun c hc => hback c (List.mem_reverse.1 hc)]
    refine trimLeft_eq_self ?_
    rw [List.head?_reverse]
    exact hlast
  rw [trimChars, hleft, hright, List.reverse_reverse]

end Text
end TableDdl
