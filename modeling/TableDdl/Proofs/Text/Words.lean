import TableDdl.Text.Blank
import TableDdl.Text.WordChar

/-!
# Words between blanks

Only the words of a text count for `wordsOf`, not how many blanks of which kind stand between them.

* `Spaced`: a text that consists of given words, with blanks between, before and behind them;
* `wordsOf_of_spaced`: these words are the ones that are read;
* `isBlank_eq_false_of_isWordChar`: a character of a name is never a blank.
-/

namespace TableDdl
namespace Text

def IsGap (cs : List Char) : Prop :=
  ∀ c ∈ cs, isBlank c = true

structure IsWord (cs : List Char) : Prop where
  ne_nil : cs ≠ []
  solid : ∀ c ∈ cs, isBlank c = false

/-- `Spaced words cs`: the text `cs` consists of `words`, with at least one blank between two of
them, and with any number of blanks before the first and behind the last. -/
inductive Spaced : List (List Char) → List Char → Prop where
  | nil {gap : List Char} (isGap : IsGap gap) : Spaced [] gap
  /-- The last word, up to the end of the text. -/
  | last {gap word : List Char} (isGap : IsGap gap) : Spaced [word] (gap ++ word)
  /-- A word and the blank that ends it. -/
  | cons {gap word rest : List Char} {c : Char} {words : List (List Char)} (isGap : IsGap gap)
      (blank : isBlank c = true) (spaced : Spaced words rest) :
      Spaced (word :: words) (gap ++ (word ++ c :: rest))

section Words

variable {gap word cs : List Char}

@[simp] theorem wordsOf_nil : wordsOf [] = [] := by
  simp [wordsOf]

/-- A blank belongs to no word, and no word goes on behind it. -/
theorem wordsOf_append_cons (cs ds : List Char) {c : Char} (hc : isBlank c = true) :
    wordsOf (cs ++ c :: ds) = wordsOf cs ++ wordsOf ds := by
  unfold wordsOf
  rw [List.splitOnP_append_cons cs ds hc, List.filter_append]

/-- A gap in front of a text adds no word. -/
theorem wordsOf_gap_append (h : IsGap gap) : wordsOf (gap ++ cs) = wordsOf cs := by
  induction gap with
  | nil => rfl
  | cons c gap ih =>
    rcases List.forall_mem_cons.1 h with ⟨hc, hgap⟩
    calc wordsOf (c :: (gap ++ cs))
        = wordsOf [] ++ wordsOf (gap ++ cs) := wordsOf_append_cons [] _ hc
      _ = wordsOf cs := by rw [wordsOf_nil, List.nil_append, ih hgap]

theorem wordsOf_of_isWord (h : IsWord word) : wordsOf word = [word] := by
  unfold wordsOf
  rw [List.splitOnP_eq_singleton h.solid]
  simp [h.ne_nil]

/-- Words with gaps around them are found as they are. -/
theorem wordsOf_of_spaced {words : List (List Char)} (h : Spaced words cs)
    (hwords : ∀ word ∈ words, IsWord word) : wordsOf cs = words := by
  induction h with
  | @nil gap isGap =>
    have hgap : wordsOf (gap ++ []) = wordsOf [] := wordsOf_gap_append isGap
    rw [List.append_nil, wordsOf_nil] at hgap
    exact hgap
  | last isGap =>
    rw [wordsOf_gap_append isGap]
    exact wordsOf_of_isWord (List.forall_mem_singleton.1 hwords)
  | cons isGap blank _ ih =>
    rcases List.forall_mem_cons.1 hwords with ⟨hword, hrest⟩
    rw [wordsOf_gap_append isGap, wordsOf_append_cons _ _ blank, wordsOf_of_isWord hword, ih hrest]
    rfl

end Words

/-! ## Blanks and names -/

namespace CharSet

/-- Whether each range of one set lies before or behind each range of the other one. -/
def apart (set other : CharSet) : Bool :=
  set.all fun range => other.all fun range' => range.2 < range'.1 || range'.2 < range.1

/-- Sets whose ranges lie apart share no character. -/
theorem contains_eq_false_of_apart {set other : CharSet} (h : set.apart other = true) {c : Char}
    (hc : set.contains c = true) : other.contains c = false := by
  rw [Bool.eq_false_iff]
  intro hother
  rcases contains_iff.1 hc with ⟨range, hrange, hlo, hhi⟩
  rcases contains_iff.1 hother with ⟨range', hrange', hlo', hhi'⟩
  have hranges := List.all_eq_true.1 (List.all_eq_true.1 h range hrange) range' hrange'
  simp only [Bool.or_eq_true, decide_eq_true_eq] at hranges
  omega

end CharSet

theorem apart_wordSet_blankSet : wordSet.apart blankSet = true := by
  decide +kernel

/-- No word character is blank. -/
theorem isBlank_eq_false_of_isWordChar {c : Char} (h : isWordChar c = true) : isBlank c = false :=
  CharSet.contains_eq_false_of_apart apart_wordSet_blankSet h

end Text
end TableDdl
