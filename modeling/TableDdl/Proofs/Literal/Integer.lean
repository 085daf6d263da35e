import TableDdl.Proofs.Dialect.Provided
import TableDdl.Proofs.Lexical.Literal
import TableDdl.Proofs.Number.Integer
import TableDdl.Proofs.Text.Trim

/-!
# Integers as literals

A text that is an integer of 64 bits is written like that integer, under the formatter for integers,
under the one for numbers and as an operand.  Any other text is quoted, however close it is to one.

* `Scalar.IsInt64Text`: the texts that are integers of 64 bits;
* `Scalar.literal_padded`: blanks around an integer;
* `QuoteStyle.value_text_integer`: what is written for a text where an integer is asked for.
-/

namespace TableDdl

open Text

/-! ## Integers with blanks around them -/

/-- Trimming takes off just the blanks around the digits. -/
theorem trimChars_padded_integerChars {front back : List Char}
    (hfront : ∀ c ∈ front, isBlank c = true) (hback : ∀ c ∈ back, isBlank c = true) (n : Int) :
    trimChars (front ++ (integerChars n ++ back)) = integerChars n := by
  have hne : integerChars n ≠ [] := by
    unfold integerChars
    split
    · simp
    · exact Nat.toDigits_ne_nil
  have hink : ∀ c ∈ integerChars n, isBlank c = false := by
    have hdigits : ∀ c ∈ Nat.toDigits 10 n.natAbs, isBlank c = false :=
      fun c hc => isBlank_eq_false_of_isDigit (forall_isDigit_toDigits _ c hc)
    unfold integerChars
    split
    · exact List.forall_mem_cons.2 ⟨rfl, hdigits⟩
    · exact hdigits
  exact trimChars_padded hfront hback hne (fun c hc => hink c (List.mem_of_mem_head? hc))
    fun c hc => hink c (List.mem_of_mem_getLast? hc)

namespace Scalar

/-- The text is an integer of 64 bits, with blanks around it or none. -/
structure IsInt64Text (s : String) (n : Int) : Prop where
  spells : SpellsInteger (trimChars s.toList) n
  lower : -9223372036854775808 ≤ n
  upper : n ≤ 9223372036854775807

theorem isInt64Text_toInt_iff {s : String} {k : Int64} :
    IsInt64Text s k.toInt ↔ SpellsInteger (trimChars s.toList) k.toInt :=
  ⟨IsInt64Text.spells, fun h => ⟨h, k.minValue_le_toInt, k.toInt_le⟩⟩

/-- The number of such a text is that of a word. -/
theorem IsInt64Text.exists_toInt {s : String} {n : Int} (h : IsInt64Text s n) :
    ∃ k : Int64, k.toInt = n :=
  ⟨Int64.ofInt n, Int64.toInt_ofInt_of_le h.lower (Int.lt_of_le_of_lt h.upper (by decide))⟩

/-- A text is read as a word if it spells it out between blanks. -/
theorem integerOfText?_eq_some_iff {s : String} {k : Int64} :
    integerOfText? s = some k ↔ IsInt64Text s k.toInt := by
  unfold integerOfText?
  simp only [Option.bind_eq_some_iff, int64?_eq_some_iff, integer?_eq_some_iff,
    isInt64Text_toInt_iff]
  constructor
  · rintro ⟨n, hspells, rfl⟩
    exact hspells
  · intro hspells
    exact ⟨k.toInt, hspells, rfl⟩

/-- A text that spells a word is written like the word. -/
theorem literal_text_integer {s : String} {k : Int64} (h : IsInt64Text s k.toInt) :
    (text s).literal .integer = (integer k).literal .integer := by
  simp [literal, integerLiteral, integerOfText?_eq_some_iff.2 h]

/-- Any other text is written in quotes. -/
theorem literal_text_integer_of_not {s : String} (h : ¬∃ n, IsInt64Text s n) :
    (text s).literal .integer = .quoted s := by
  have hnone : integerOfText? s = none := by
    cases hread : integerOfText? s with
    | none => rfl
    | some k => exact absurd ⟨k.toInt, integerOfText?_eq_some_iff.1 hread⟩ h
  simp [literal, integerLiteral, hnone]

/-- Blanks around an integer change nothing in how it is written. -/
theorem literal_padded {k : Int64} {s : String} (h : trimChars s.toList = integerChars k.toInt) :
    (text s).literal .integer = (integer k).literal .integer ∧
      (text s).literal .real = (integer k).literal .real ∧
      ∀ q : Quoter, q.operand (.text s) = q.operand (.integer k) := by
  have hinteger : IsInt64Text s k.toInt := by
    rw [isInt64Text_toInt_iff, h]
    exact (isCanonicalInteger_integerChars k.toInt).spells
  have hnumeric : (text s).isNumeric = true := by
    unfold isNumeric
    simp only [h, isNumericChars_integerChars]
  have htrim : trim s = int64Text k := by
    unfold trim int64Text
    rw [h]
  refine ⟨literal_text_integer hinteger, ?_, ?_⟩
  · simp [literal, realLiteral, hnumeric, htrim]
  · intro q
    simp [Quoter.operand, hnumeric, htrim]

end Scalar

/-! ## Integers as literals -/

/-- The literal is no string: it does not begin with a quote. -/
def IsBareLiteral (text : String) : Prop :=
  text.toList.head? ≠ some '\''

namespace QuoteStyle

variable (style : QuoteStyle)

/-- A word stands without quotes. -/
theorem isBareLiteral_integer (k : Int64) : IsBareLiteral (style.value (.integer k) .integer) := by
  have hplain : Lexical.PlainText (int64Text k).toList := .of_bareNumber (.int64Text k)
  intro hquote
  exact absurd (hplain '\'' (List.mem_of_mem_head? hquote)) (by decide)

/-- What stands in quotes does not stand without them. -/
theorem not_isBareLiteral_quoted (content : String) :
    ¬IsBareLiteral (style.literalText (.quoted content)) := by
  simp [IsBareLiteral, literalText, stringChars]

/-- A text is cast exactly where it is an integer of 64 bits, and then it is written like the
integer; every other text is quoted as it stands. -/
theorem value_text_integer :
    (∀ s : String,
      (IsBareLiteral (style.value (.text s) .integer) ↔ ∃ n, Scalar.IsInt64Text s n) ∧
      (∀ n, Scalar.IsInt64Text s n → ∃ k : Int64, k.toInt = n ∧
        style.value (.text s) .integer = style.value (.integer k) .integer ∧
        IsCanonicalInteger (style.value (.text s) .integer).toList n) ∧
      (¬IsBareLiteral (style.value (.text s) .integer) →
        style.value (.text s) .integer = String.ofList (stringChars s.toList))) ∧
    ∀ (k : Int64) (front back : List Char), (∀ c ∈ front, isBlank c = true) →
      (∀ c ∈ back, isBlank c = true) →
      let padded := Scalar.text (String.ofList (front ++ (integerChars k.toInt ++ back)))
      style.value padded .integer = style.value (.integer k) .integer ∧
        style.value padded .real = style.value (.integer k) .real ∧
        ∀ q : Quoter, q.operand padded = q.operand (.integer k) := by
  refine ⟨fun s => ?_, ?_⟩
  · have hcast : ∀ n, Scalar.IsInt64Text s n → ∃ k : Int64, k.toInt = n ∧
        style.value (.text s) .integer = style.value (.integer k) .integer := by
      intro n hn
      rcases hn.exists_toInt with ⟨k, rfl⟩
      exact ⟨k, rfl, congrArg style.literalText (Scalar.literal_text_integer hn)⟩
    have hquoted : (¬∃ n, Scalar.IsInt64Text s n) →
        style.value (.text s) .integer = style.literalText (.quoted s) :=
      fun hnone => congrArg style.literalText (Scalar.literal_text_integer_of_not hnone)
    have hbare : IsBareLiteral (style.value (.text s) .integer) ↔ ∃ n, Scalar.IsInt64Text s n := by
      constructor
      · intro hbare
        by_contra hnone
        rw [hquoted hnone] at hbare
        exact not_isBareLiteral_quoted style s hbare
      · rintro ⟨n, hn⟩
        rcases hcast n hn with ⟨k, -, hvalue⟩
        rw [hvalue]
        exact isBareLiteral_integer style k
    refine ⟨hbare, ?_, fun hnot => hquoted fun hinteger => hnot (hbare.2 hinteger)⟩
    intro n hn
    rcases hcast n hn with ⟨k, rfl, hvalue⟩
    refine ⟨k, rfl, hvalue, ?_⟩
    have hchars : (style.value (.integer k) .integer).toList = integerChars k.toInt :=
      String.toList_ofList
    rw [hvalue, hchars]
    exact isCanonicalInteger_integerChars k.toInt
  · intro k front back hfront hback
    have htrim := trimChars_padded_integerChars hfront hback k.toInt
    rw [← String.toList_ofList (l := front ++ (integerChars k.toInt ++ back))] at htrim
    rcases Scalar.literal_padded htrim with ⟨hinteger, hreal, hoperand⟩
    exact ⟨congrArg style.literalText hinteger, congrArg style.literalText hreal, hoperand⟩

/-- A sign and zeros in front, and blanks of several kinds around. -/
theorem value_text_integer_padded :
    Scalar.IsInt64Text "\u2003+007\n" 7 ∧
      Dialect.postgres.quotes.value (.text "\u2003+007\n") .integer = "7" ∧
      Dialect.postgres.quotes.quoter.operand (.text "\u00a0-9223372036854775808\t") =
        "-9223372036854775808" := by
  have hseven : Scalar.IsInt64Text "\u2003+007\n" 7 :=
    ⟨integer?_eq_some_iff.1 (by decide), by decide, by decide⟩
  rcases value_text_integer Dialect.postgres.quotes with ⟨htext, hpadded⟩
  refine ⟨hseven, ?_, ?_⟩
  · rcases (htext "\u2003+007\n").2.1 7 hseven with ⟨k, hk, hvalue, -⟩
    have hchars : Dialect.postgres.quotes.value (.integer k) .integer =
        String.ofList (integerChars k.toInt) := rfl
    rw [hvalue, hchars, hk]
    decide
  · have hfront : ∀ c ∈ ['\u00a0'], isBlank c = true := List.forall_mem_singleton.2 rfl
    have hback : ∀ c ∈ ['\t'], isBlank c = true := List.forall_mem_singleton.2 rfl
    exact (hpadded Int64.minValue ['\u00a0'] ['\t'] hfront hback).2.2 Dialect.postgres.quotes.quoter

end QuoteStyle

end TableDdl
