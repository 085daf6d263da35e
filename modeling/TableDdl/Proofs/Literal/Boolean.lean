import TableDdl.Proofs.Dialect.Provided
import TableDdl.Proofs.Lexical.Literal
import TableDdl.Proofs.Number.Positional

/-!
# Truth values as literals

Where a truth value is asked for, a scalar is written as `NULL`, as a word for a truth value or as a
string, and a number as the word for whether it is zero.  Finite floating point numbers are the
exception: they are written as integers.

* `QuoteStyle.WritesTruth`: the scalar is written as a truth value;
* `QuoteStyle.writesTruth_iff`: which scalars are, where the words are no numbers and where they are
  `1` and `0`;
* `QuoteStyle.value_boolean_two`: a number that is not.
-/

namespace TableDdl

/-! ## Numbers as truth values -/

namespace Binary64

def isZero : Binary64 → Bool
  | finite _ rank => rank.val == 0
  | _ => false

/-- There are two zeros, one of either sign. -/
theorem isZero_iff {x : Binary64} : x.isZero = true ↔ ∃ negative, x = zero negative := by
  constructor
  · intro h
    cases x with
    | nan => cases h
    | infinite negative => cases h
    | finite negative rank => exact ⟨negative, congrArg _ (Fin.ext (beq_iff_eq.1 h))⟩
  · rintro ⟨negative, rfl⟩
    rfl

theorem text_one : (ofInt 1).text = "1" := by
  decide +kernel

end Binary64

namespace Scalar

def isFiniteReal : Scalar → Bool
  | real x => x.isFinite
  | _ => false

/-- The truth value of a finite number: it is true unless it is zero. -/
def numberTruth? : Scalar → Option Bool
  | integer n => some (n != 0)
  | real x => if x.isFinite then some (!x.isZero) else none
  | _ => none

end Scalar

/-! ## The forms of a truth value -/

namespace QuoteStyle

variable {style : QuoteStyle} {v : Scalar}

/-- The texts that are written where a truth value is asked for. -/
inductive TruthForm (style : QuoteStyle) : String → Prop where
  | null : TruthForm style "NULL"
  | word (b : Bool) : TruthForm style (style.literalText (.boolean b))
  | string (content : String) : TruthForm style (style.literalText (.quoted content))

/-- The scalar is written in one of these forms, and a number by the word for its truth value. -/
structure WritesTruth (style : QuoteStyle) (v : Scalar) : Prop where
  form : style.TruthForm (style.value v .boolean)
  word : ∀ b ∈ v.numberTruth?, style.value v .boolean = style.literalText (.boolean b)

/-- A value that is no number is written as a truth value, if the form of its text is one. -/
theorem WritesTruth.of_numberTruth?_eq_none (h : v.numberTruth? = none)
    (form : style.TruthForm (style.value v .boolean)) : style.WritesTruth v := by
  refine ⟨form, ?_⟩
  intro b hb
  rw [h] at hb
  cases hb

/-- Every value but a finite real is written as its truth value. -/
theorem WritesTruth.of_not_isFiniteReal (h : v.isFiniteReal = false) : style.WritesTruth v := by
  cases v with
  | null => exact .of_numberTruth?_eq_none rfl .null
  | boolean b => exact .of_numberTruth?_eq_none rfl (.word b)
  | integer n =>
    refine ⟨.word (n != 0), ?_⟩
    intro b hb
    cases hb
    rfl
  | real x =>
    have hfinite : x.isFinite = false := h
    have hvalue : style.value (.real x) .boolean = style.literalText (.quoted x.text) := by
      unfold value Scalar.literal Scalar.booleanLiteral Scalar.integerLiteral
      simp only [reduceCtorEq, if_false, hfinite, Bool.false_eq_true]
    have hnone : (Scalar.real x).numberTruth? = none := by simp [Scalar.numberTruth?, hfinite]
    exact .of_numberTruth?_eq_none hnone (hvalue ▸ .string x.text)
  | text s =>
    refine .of_numberTruth?_eq_none rfl ?_
    unfold value Scalar.literal Scalar.booleanLiteral
    simp only [reduceCtorEq, if_false]
    split
    · exact .word _
    · exact .string s

/-- A finite real is written as the integer that is left of it. -/
theorem value_boolean_real {x : Binary64} (h : x.isFinite = true) :
    style.value (.real x) .boolean = x.truncate.text := by
  have hinteger : style.value (.real x) .boolean = style.value (.real x) .integer := rfl
  rw [hinteger, style.value_real_integer h]

/-- A finite floating point number is written without its fraction, so as a truth value only if this
is the word for it. -/
theorem writesTruth_real_iff {x : Binary64} (h : x.isFinite = true) :
    style.WritesTruth (.real x) ↔
      x.truncate.text = style.literalText (.boolean (!x.isZero)) := by
  have htruth : (Scalar.real x).numberTruth? = some (!x.isZero) := if_pos h
  constructor
  · intro hwrites
    rw [← value_boolean_real h]
    exact hwrites.word _ htruth
  · intro htext
    have hvalue : style.value (.real x) .boolean = style.literalText (.boolean (!x.isZero)) :=
      (value_boolean_real h).trans htext
    refine ⟨hvalue ▸ .word _, ?_⟩
    intro b hb
    rw [htruth] at hb
    cases hb
    exact hvalue

/-- The words for the truth values are no numbers. -/
def HasWords (style : QuoteStyle) : Prop :=
  ∀ b, ¬BareNumber (style.literalText (.boolean b)).toList

def HasDigits (style : QuoteStyle) : Prop :=
  style.trueLiteral = "1" ∧ style.falseLiteral = "0"

/-- Where truth values are words, no finite real is written as one. -/
theorem writesTruth_iff_of_hasWords (hwords : style.HasWords) :
    style.WritesTruth v ↔ v.isFiniteReal = false := by
  refine ⟨fun hwrites => ?_, .of_not_isFiniteReal⟩
  cases v with
  | real x =>
    by_contra hne
    have hfinite : x.isFinite = true := Bool.of_not_eq_false hne
    refine hwords (!x.isZero) ?_
    rw [← (writesTruth_real_iff hfinite).1 hwrites]
    exact .realText (Binary64.isFinite_truncate hfinite)
  | _ => rfl

/-- Where they are digits, only those reals are that come to 0 or 1 as their truth demands. -/
theorem writesTruth_real_iff_of_hasDigits (hdigits : style.HasDigits) {x : Binary64}
    (h : x.isFinite = true) :
    style.WritesTruth (.real x) ↔ x = .zero false ∨ x.truncate = .ofInt 1 := by
  have hwords : ∀ b, style.literalText (.boolean b) = if b then "1" else "0" := by
    intro b
    rw [literalText, hdigits.1, hdigits.2]
  rw [writesTruth_real_iff h, hwords]
  cases hzero : x.isZero with
  | true =>
    -- The sign of a zero is written as well, and then it is no word.
    rcases Binary64.isZero_iff.1 hzero with ⟨negative, rfl⟩
    rw [Binary64.truncate_zero, Binary64.text_zero]
    revert negative
    decide +kernel
  | false =>
    have hone : (Binary64.ofInt 1).isFinite = true := by decide +kernel
    have hne : x ≠ .zero false := by
      rintro rfl
      cases hzero
    have htext : x.truncate.text = "1" ↔ x.truncate = .ofInt 1 := by
      rw [← Binary64.text_one]
      exact ⟨Binary64.text_inj (Binary64.isFinite_truncate h) hone, congrArg _⟩
    simpa [hne] using htext

/-- The only scalars that are not written as truth values are finite floating point numbers: all of
them where the words are no numbers, and where they are `1` and `0` all but zero without a sign and
the numbers whose whole part is one. -/
theorem writesTruth_iff (style : QuoteStyle) (v : Scalar) :
    (style.WritesTruth v ↔ ∀ x, v = .real x → x.isFinite = true →
      x.truncate.text = style.literalText (.boolean (!x.isZero))) ∧
    (style.HasWords → (style.WritesTruth v ↔ v.isFiniteReal = false)) ∧
    (style.HasDigits → (style.WritesTruth v ↔ ∀ x, v = .real x → x.isFinite = true →
      x = .zero false ∨ x.truncate = .ofInt 1)) := by
  have hreal : ∀ P : Binary64 → Prop,
      (∀ x, x.isFinite = true → (style.WritesTruth (.real x) ↔ P x)) →
      (style.WritesTruth v ↔ ∀ x, v = .real x → x.isFinite = true → P x) := by
    intro P hP
    constructor
    · rintro hwrites x rfl hfinite
      exact (hP x hfinite).1 hwrites
    · intro hall
      by_cases hfinite : v.isFiniteReal = false
      · exact .of_not_isFiniteReal hfinite
      · cases v with
        | real x =>
          have hx : x.isFinite = true := Bool.of_not_eq_false hfinite
          exact (hP x hx).2 (hall x rfl hx)
        | _ => exact absurd rfl hfinite
  exact ⟨hreal _ fun _ => writesTruth_real_iff, writesTruth_iff_of_hasWords,
    fun hdigits => hreal _ fun _ => writesTruth_real_iff_of_hasDigits hdigits⟩

/-- Reals that are written as what they are not, and one that is written as its truth value. -/
theorem writesTruth_iff_dialects :
    ¬Dialect.postgres.quotes.WritesTruth (.real (.ofInt 1)) ∧
      Dialect.mysql.quotes.WritesTruth (.real (.ofDecimal false 15 (-1))) ∧
      ¬Dialect.mysql.quotes.WritesTruth (.real (.ofDecimal false 5 (-1))) := by
  have hwords : Dialect.postgres.quotes.HasWords := by
    intro b hnumber
    cases b with
    | true => exact absurd (hnumber.numeralText 'T' (by decide)) (by decide)
    | false => exact absurd (hnumber.numeralText 'A' (by decide)) (by decide)
  have hdigits : Dialect.mysql.quotes.HasDigits := ⟨rfl, rfl⟩
  refine ⟨fun hwrites => ?_, ?_, fun hwrites => ?_⟩
  · have hnot := ((writesTruth_iff Dialect.postgres.quotes _).2.1 hwords).1 hwrites
    exact absurd hnot (by decide +kernel)
  · refine ((writesTruth_iff Dialect.mysql.quotes _).2.2 hdigits).2 ?_
    intro x hx _
    rw [← Scalar.real.inj hx]
    exact .inr (by decide +kernel)
  · have hone := ((writesTruth_iff Dialect.mysql.quotes _).2.2 hdigits).1 hwrites _ rfl
      (by decide +kernel)
    exact absurd hone (by decide +kernel)

/-- Two is true, but written as a number. -/
theorem value_boolean_two :
    Dialect.postgres.quotes.value (.real (.ofInt 2)) .boolean = "2" ∧
      ¬Dialect.postgres.quotes.TruthForm "2" := by
  refine ⟨by decide +kernel, ?_⟩
  generalize htext : "2" = text
  intro h
  cases h with
  | null => exact absurd htext (by decide)
  | word b => cases b <;> exact absurd htext (by decide)
  | string content =>
    have hfirst := congrArg (fun s : String => s.toList.head?) htext
    simp [literalText, stringChars] at hfirst

end QuoteStyle

end TableDdl
