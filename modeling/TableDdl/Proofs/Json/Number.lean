import TableDdl.Json.Basic
import TableDdl.Json.Print
import TableDdl.Proofs.Number.Positional

/-!
# Numbers of a document read back

Integers and finite floating point numbers are written as numerals of the grammar, and reading these
gives the number that was written.

* `Json.Spells`: a numeral that spells out a decimal;
* `Json.exists_spells`: every decimal is spelled out, with a fraction or an exponent;
* `Json.numeralOf_realChars` and `Json.numeralOf_integerChars`: the numbers themselves.
-/

namespace TableDdl

open Binary64

/-! ## Decimals -/

namespace Json

/-- The numeral `n` is written as `cs`, and is read as the decimal. -/
structure Spells (cs : List Char) (d : Decimal) (n : Numeral) : Prop where
  chars_eq : cs = n.chars
  sign_eq : n.sign = none
  isNumber : isNumber n = true
  isReal : (n.fraction.isNone && n.exponent.isNone) = false
  value_eq : ∀ negative, ofDecimal negative (digitsValue n.mantissa) n.scale =
    ofDecimal negative d.digits d.exponent

variable {d : Decimal}

theorem contains_point {cs : List Char} (h : ∀ c ∈ cs, c.isDigit = true) :
    cs.contains '.' = false := by
  cases hpoint : cs.contains '.' with
  | false => rfl
  | true =>
    have hmem : '.' ∈ cs := by simpa using hpoint
    exact absurd (h '.' hmem) (by decide)

/-- What is written where the exponent is neither large nor small. -/
def positionalChars (d : Decimal) : List Char :=
  if d.positional.contains '.' then d.positional else d.positional ++ ['.', '0']

/-- Digits with a point among them spell the number that they were written for. -/
theorem exists_spells_positional (d : Decimal) : ∃ n, Spells (positionalChars d) d n := by
  rcases d.exists_positional with ⟨⟨sign, whole, fraction, exponent⟩, h⟩
  rcases h with ⟨hchars, rfl, hwhole, hfront, hfraction, rfl, hvalue⟩
  have hfirst : (whole.length == 1 || whole.head? != some '0') = true := by
    simpa using hfront
  unfold positionalChars
  cases fraction with
  | some cs =>
    have hcs : isDigits cs = true := hfraction cs rfl
    have hpoint : d.positional.contains '.' = true := by
      rw [hchars]
      simp [Numeral.chars]
    rw [if_pos hpoint]
    exact ⟨_, hchars, rfl, by simp [isNumber, hwhole, hcs, hfirst, Numeral.hasExponent], rfl, hvalue⟩
  | none =>
    -- The fraction was not asked for: it is a zero behind the digits, and a place less.
    have hpositional : d.positional = whole := by
      rw [hchars]
      simp [Numeral.chars]
    rw [hpositional, contains_point (isDigits_iff.1 hwhole).2, if_neg Bool.false_ne_true]
    refine ⟨⟨none, whole, some ['0'], none⟩, by simp [Numeral.chars], rfl, ?_, rfl, ?_⟩
    · have hzero : isDigits ['0'] = true := rfl
      simp [isNumber, hwhole, hzero, hfirst, Numeral.hasExponent]
    · intro negative
      have hmantissa : digitsValue (whole ++ ['0']) = digitsValue whole * 10 ^ 1 := by
        rw [digitsValue_append, Nat.mul_comm]
        rfl
      rw [← hvalue negative]
      have hold : digitsValue (⟨none, whole, none, none⟩ : Numeral).mantissa = digitsValue whole := by
        simp [Numeral.mantissa]
      have hnew : digitsValue (⟨none, whole, some ['0'], none⟩ : Numeral).mantissa =
          digitsValue whole * 10 ^ 1 := hmantissa
      rw [hold, hnew]
      by_cases hzero : digitsValue whole = 0
      · rw [hzero, Nat.zero_mul, ofDecimal_zero, ofDecimal_zero]
      · exact ofDecimal_mul_pow negative (Nat.pos_of_ne_zero hzero) 1 0

/-- A sign and digits are read as an integer. -/
theorem integer?_signed (negative : Bool) (n : Nat) :
    integer? ((if negative then '-' else '+') :: Nat.toDigits 10 n) =
      some (if negative then -(n : Int) else n) := by
  have hdigits := isDigits_toDigits n
  have hvalue := digitsValue_toDigits n
  cases negative with
  | false => simp [integer?, splitSign, hdigits, hvalue]
  | true => simp [integer?, splitSign, hdigits, hvalue]

/-- Digits with a power behind them spell the number that they were written for. -/
theorem exists_spells_scientific {zeros : Nat} (h : d.Trimmed zeros) (exponent : Int)
    (hexponent : exponent = d.pointPlace - 1) :
    ∃ n, Spells (pointAfterFirst d.significant
      ++ 'e' :: (if exponent < 0 then '-' else '+') :: Nat.toDigits 10 exponent.natAbs) d n := by
  cases hsig : d.significant with
  | nil => exact absurd hsig h.ne_nil
  | cons c rest =>
    have hdigit := h.isDigit
    rw [hsig] at hdigit
    have hwhole : isDigits [c] = true :=
      isDigits_iff.2 ⟨by simp, fun x hx => hdigit x (by simpa using Or.inl (List.mem_singleton.1 hx))⟩
    have hpower : integer? ((if exponent < 0 then '-' else '+') ::
        Nat.toDigits 10 exponent.natAbs) = some exponent := by
      have hsigned := integer?_signed (decide (exponent < 0)) exponent.natAbs
      simp only [decide_eq_true_eq] at hsigned
      rw [hsigned]
      congr 1
      split <;> omega
    have hplace : exponent - rest.length = d.pointPlace - d.significant.length - (0 : Nat) := by
      rw [hexponent, hsig, List.length_cons]
      omega
    have hvalue : ∀ negative, ofDecimal negative (digitsValue (c :: rest))
        (exponent - rest.length) = ofDecimal negative d.digits d.exponent := by
      intro negative
      have hsame := h.ofDecimal_eq negative 0
      rw [← hplace, hsig, Nat.pow_zero, Nat.mul_one] at hsame
      exact hsame
    -- A single digit is written without a point.
    cases rest with
    | nil =>
      refine ⟨⟨none, [c], none, some ((if exponent < 0 then '-' else '+') ::
        Nat.toDigits 10 exponent.natAbs)⟩, ?_, rfl, ?_, rfl, ?_⟩
      · simp [Numeral.chars, pointAfterFirst]
      · simp [isNumber, hwhole, Numeral.hasExponent, hpower]
      · intro negative
        simpa [Numeral.mantissa, Numeral.scale, hpower] using hvalue negative
    | cons next rest =>
      have hfraction : isDigits (next :: rest) = true :=
        isDigits_iff.2 ⟨by simp, fun x hx => hdigit x (List.mem_cons_of_mem _ hx)⟩
      refine ⟨⟨none, [c], some (next :: rest), some ((if exponent < 0 then '-' else '+') ::
        Nat.toDigits 10 exponent.natAbs)⟩, ?_, rfl, ?_, rfl, ?_⟩
      · simp [Numeral.chars, pointAfterFirst]
      · simp [isNumber, hwhole, hfraction, Numeral.hasExponent, hpower]
      · intro negative
        simpa [Numeral.mantissa, Numeral.scale, hpower] using hvalue negative

/-- Every decimal is written as a numeral that is no integer and is read as the decimal. -/
theorem exists_spells (d : Decimal) : ∃ n, Spells (decimalChars d) d n := by
  by_cases hmiddle : d.digits = 0 ∨ (-5 ≤ d.pointPlace - 1 ∧ d.pointPlace - 1 < 16)
  · have hchars : decimalChars d = positionalChars d := by
      unfold decimalChars positionalChars
      simp only [if_pos hmiddle]
    rw [hchars]
    exact exists_spells_positional d
  · rcases Decimal.exists_trimmed (Nat.pos_of_ne_zero (not_or.1 hmiddle).1) with ⟨zeros, h⟩
    have hchars : decimalChars d = pointAfterFirst d.significant
        ++ 'e' :: (if d.pointPlace - 1 < 0 then '-' else '+') ::
          Nat.toDigits 10 (d.pointPlace - 1).natAbs := by
      unfold decimalChars
      simp only [if_neg hmiddle]
    rw [hchars]
    exact exists_spells_scientific h _ rfl

/-! ## Numbers -/

/-- The text is a numeral of the grammar, and stands for the scalar. -/
structure NumeralOf (cs : List Char) (v : Scalar) : Prop where
  isNumber : isNumber (Numeral.ofChars cs) = true
  scalar?_eq : (Numeral.ofChars cs).scalar? = some v

/-- The numerals of a document are numerals of a literal as well. -/
theorem isDecimal_of_isNumber {n : Numeral} (h : isNumber n = true) : n.isDecimal = true := by
  unfold isNumber at h
  simp only [Bool.and_eq_true] at h
  rcases h with ⟨⟨⟨⟨_, hwhole⟩, _⟩, hfraction⟩, hexponent⟩
  have hdigits : isDigits n.mantissa = true := by
    have hw := isDigits_iff.1 hwhole
    refine isDigits_iff.2 ⟨?_, ?_⟩
    · unfold Numeral.mantissa
      simp [hw.1]
    · intro c hc
      rcases List.mem_append.1 hc with hc | hc
      · exact hw.2 c hc
      · cases hcs : n.fraction with
        | none => simp [hcs] at hc
        | some cs =>
          rw [hcs] at hc hfraction
          exact (isDigits_iff.1 hfraction).2 c hc
  simp [Numeral.isDecimal, hdigits, hexponent]

/-- A numeral that stands for a scalar has only the characters of numerals. -/
theorem NumeralOf.numeralText {cs : List Char} {v : Scalar} (h : NumeralOf cs v) :
    NumeralText cs :=
  (BareNumber.of_isDecimal (isDecimal_of_isNumber h.isNumber)).numeralText

/-- The numeral with a sign in front, or without one. -/
def signed (negative : Bool) (n : Numeral) : Numeral :=
  { n with sign := if negative then some '-' else none }

@[simp] theorem isNegative_signed (negative : Bool) (n : Numeral) :
    (signed negative n).isNegative = negative := by
  cases negative <;> rfl

/-- A sign in front leaves a numeral a numeral. -/
theorem isNumber_signed {n : Numeral} (hsign : n.sign = none) (h : isNumber n = true)
    (negative : Bool) : isNumber (signed negative n) = true := by
  rcases n with ⟨sign, whole, fraction, exponent⟩
  subst hsign
  cases negative with
  | false => exact h
  | true => exact h

theorem isSpelled_signed {n : Numeral} (h : isNumber n = true) (negative : Bool) :
    (signed negative n).IsSpelled := by
  unfold isNumber at h
  simp only [Bool.and_eq_true] at h
  refine ⟨?_, h.1.1.1.2, ?_⟩
  · cases negative <;> simp [signed]
  · intro cs hcs
    have hall := h.1.2
    rw [show n.fraction = some cs from hcs] at hall
    exact hall

/-- Only a minus sign shows. -/
theorem chars_signed {n : Numeral} (hsign : n.sign = none) (negative : Bool) :
    (signed negative n).chars = if negative then '-' :: n.chars else n.chars := by
  cases negative <;> simp [signed, Numeral.chars, hsign]

/-- A numeral of the grammar without a sign is read back from its text, with or without one. -/
theorem NumeralOf.of_chars {n : Numeral} {v : Scalar} (hsign : n.sign = none)
    (hnumber : Json.isNumber n = true) (negative : Bool)
    (hvalue : (signed negative n).scalar? = some v) :
    NumeralOf (if negative then '-' :: n.chars else n.chars) v := by
  rw [← chars_signed hsign negative]
  refine ⟨?_, ?_⟩
  · rw [Numeral.ofChars_chars (isSpelled_signed hnumber negative)]
    exact isNumber_signed hsign hnumber negative
  · rw [Numeral.ofChars_chars (isSpelled_signed hnumber negative)]
    exact hvalue

/-- A finite number is printed as a numeral that stands for it. -/
theorem numeralOf_realChars {x : Binary64} (hx : x.isFinite = true) :
    NumeralOf (realChars x) (.real x) := by
  cases x with
  | nan => cases hx
  | infinite negative => cases hx
  | finite negative rank =>
    rcases exists_spells (Decimal.shortest .even rank) with ⟨n, hn⟩
    have hvalue : (signed negative n).value = .finite negative rank := by
      unfold Numeral.value
      rw [isNegative_signed]
      exact (hn.value_eq negative).trans (Decimal.ofDecimal_shortest .even negative rank)
    have hscalar : (signed negative n).scalar? = some (.real (.finite negative rank)) := by
      have hreal : ((signed negative n).fraction.isNone && (signed negative n).exponent.isNone) =
          false := hn.isReal
      unfold Numeral.scalar?
      simp only [hreal, Bool.false_and, Bool.false_eq_true, if_false, hvalue]
      rfl
    have hread := NumeralOf.of_chars hn.sign_eq hn.isNumber negative hscalar
    rw [← hn.chars_eq] at hread
    exact hread

/-- A word is printed as a numeral that stands for it. -/
theorem numeralOf_integerChars (n : Int64) : NumeralOf (integerChars n.toInt) (.integer n) := by
  have hdigits := isDigits_toDigits n.toInt.natAbs
  have hfront : ((Nat.toDigits 10 n.toInt.natAbs).length == 1 ||
      (Nat.toDigits 10 n.toInt.natAbs).head? != some '0') = true := by
    by_cases hzero : n.toInt.natAbs = 0
    · simp [hzero]
    · have hhead := head?_toDigits_ne (Nat.pos_of_ne_zero hzero)
      simp [hhead]
  have hnumber : isNumber ⟨none, Nat.toDigits 10 n.toInt.natAbs, none, none⟩ = true := by
    simp [isNumber, hdigits, hfront, Numeral.hasExponent]
  -- What is read is the sign and the magnitude, and the integer they make fits by itself.
  have hfits : int64? n.toInt = some n := by
    unfold int64?
    rw [if_pos ⟨n.minValue_le_toInt, n.toInt_le⟩, Int64.ofInt_toInt]
  have hscalar : (signed (decide (n.toInt < 0))
      ⟨none, Nat.toDigits 10 n.toInt.natAbs, none, none⟩).scalar? = some (.integer n) := by
    have hmagnitude : (digitsValue (signed (decide (n.toInt < 0))
        ⟨none, Nat.toDigits 10 n.toInt.natAbs, none, none⟩).whole : Int) = n.toInt.natAbs :=
      congrArg Nat.cast (digitsValue_toDigits n.toInt.natAbs)
    have hwhole : (if decide (n.toInt < 0) = true then -(n.toInt.natAbs : Int)
        else n.toInt.natAbs) = n.toInt := by
      simp only [decide_eq_true_eq]
      split <;> omega
    -- Minus zero would be read as a floating point number, but is never written for an integer.
    have hzero : (decide (n.toInt < 0) && ((n.toInt.natAbs : Int) == 0)) = false := by
      by_cases hneg : n.toInt < 0
      · have hne : n.toInt ≠ 0 := by omega
        simp [hneg, hne]
      · simp [hneg]
    unfold Numeral.scalar?
    simp only [isNegative_signed, hmagnitude, hwhole, hzero]
    simp [signed, hfits]
  have hread := NumeralOf.of_chars rfl hnumber (decide (n.toInt < 0)) hscalar
  have hchars : integerChars n.toInt = if decide (n.toInt < 0) = true then
      '-' :: (⟨none, Nat.toDigits 10 n.toInt.natAbs, none, none⟩ : Numeral).chars
      else (⟨none, Nat.toDigits 10 n.toInt.natAbs, none, none⟩ : Numeral).chars := by
    simp [integerChars, Numeral.chars]
  rw [hchars]
  exact hread

end Json
end TableDdl
