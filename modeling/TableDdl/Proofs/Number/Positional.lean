import Mathlib.Data.List.TakeWhile
import TableDdl.Proofs.Number.Numeral
import TableDdl.Proofs.Number.Shortest

/-!
# Decimals without an exponent

A decimal is written positionally as a numeral that is worth the decimal.

* `Decimal.Trimmed`: the digits without the zeros at their end;
* `Decimal.Positional` and `Decimal.exists_positional`: the numeral as which a decimal is written;
* `Binary64.value_text`: the text of a finite number is read as this number, so that
  `Binary64.text_inj` tells finite numbers apart by their texts.
-/

namespace TableDdl

open Binary64

/-! ## Significant digits -/

namespace Decimal

variable {d : Decimal}

/-- Only zeros are cut off the end of the digits. -/
theorem toDigits_eq_significant_append (d : Decimal) :
    ∃ k, Nat.toDigits 10 d.digits = d.significant ++ List.replicate k '0' := by
  have hsplit := List.takeWhile_append_dropWhile (p := (· == '0'))
    (l := (Nat.toDigits 10 d.digits).reverse)
  have hzeros : ∀ c ∈ (Nat.toDigits 10 d.digits).reverse.takeWhile (· == '0'), c = '0' := by
    intro c hc
    simpa using List.mem_takeWhile_imp hc
  refine ⟨((Nat.toDigits 10 d.digits).reverse.takeWhile (· == '0')).length, ?_⟩
  unfold significant
  calc
    Nat.toDigits 10 d.digits = (Nat.toDigits 10 d.digits).reverse.reverse := by simp
    _ = ((Nat.toDigits 10 d.digits).reverse.dropWhile (· == '0')).reverse ++
          ((Nat.toDigits 10 d.digits).reverse.takeWhile (· == '0')).reverse := by
        rw [← List.reverse_append, hsplit]
    _ = _ := by
        congr 1
        rw [List.eq_replicate_of_mem hzeros]
        simp

/-- What the digits without the zeros at the end say about the decimal. -/
structure Trimmed (d : Decimal) (zeros : Nat) : Prop where
  digits_eq : d.digits = digitsValue d.significant * 10 ^ zeros
  value_pos : 0 < digitsValue d.significant
  ne_nil : d.significant ≠ []
  head_ne : d.significant.head? ≠ some '0'
  isDigit : ∀ c ∈ d.significant, c.isDigit = true
  pointPlace_eq : d.pointPlace = d.significant.length + zeros + d.exponent

/-- A number that is not zero has digits left after that. -/
theorem exists_trimmed (hd : 0 < d.digits) : ∃ zeros, d.Trimmed zeros := by
  rcases d.toDigits_eq_significant_append with ⟨zeros, hdigits⟩
  -- Digits with zeros behind them are worth the digits times a power of ten.
  have hvalue : d.digits = digitsValue d.significant * 10 ^ zeros := by
    have hall := digitsValue_toDigits d.digits
    rw [hdigits, digitsValue_append, digitsValue_replicate_zero, List.length_replicate] at hall
    rw [← hall, Nat.add_zero, Nat.mul_comm]
  have hpos : 0 < digitsValue d.significant := by
    refine Nat.pos_of_ne_zero ?_
    intro hzero
    rw [hvalue, hzero, Nat.zero_mul] at hd
    exact absurd hd (Nat.lt_irrefl 0)
  have hne : d.significant ≠ [] := by
    intro hnil
    rw [hnil] at hpos
    exact absurd hpos (Nat.lt_irrefl 0)
  refine ⟨zeros, hvalue, hpos, hne, ?_, ?_, ?_⟩
  · have hhead := head?_toDigits_ne hd
    cases hsig : d.significant with
    | nil => exact absurd hsig hne
    | cons c cs =>
      rw [hdigits, hsig] at hhead
      exact hhead
  · intro c hc
    refine forall_isDigit_toDigits d.digits c ?_
    rw [hdigits]
    exact List.mem_append_left _ hc
  · have hlength : (Nat.toDigits 10 d.digits).length = d.significant.length + zeros := by
      rw [hdigits, List.length_append, List.length_replicate]
    unfold pointPlace
    omega

/-- Digits that go on with zeros, and an exponent that takes them back, give the same number. -/
theorem Trimmed.ofDecimal_eq {zeros : Nat} (h : d.Trimmed zeros) (negative : Bool) (k : Nat) :
    ofDecimal negative (digitsValue d.significant * 10 ^ k)
        (d.pointPlace - d.significant.length - k) =
      ofDecimal negative d.digits d.exponent := by
  have hplace : d.exponent = d.pointPlace - d.significant.length - zeros := by
    rw [h.pointPlace_eq]
    omega
  rw [ofDecimal_mul_pow negative h.value_pos, h.digits_eq, hplace,
    ofDecimal_mul_pow negative h.value_pos]

/-! ## The numeral of a decimal -/

/-- The numeral is the text of the decimal and is worth the decimal. -/
structure Positional (d : Decimal) (n : Numeral) : Prop where
  chars_eq : d.positional = n.chars
  sign_eq : n.sign = none
  whole : isDigits n.whole = true
  front : n.whole.length = 1 ∨ n.whole.head? ≠ some '0'
  fraction : ∀ cs ∈ n.fraction, isDigits cs = true
  exponent_eq : n.exponent = none
  value_eq : ∀ negative, ofDecimal negative (digitsValue n.mantissa) n.scale =
    ofDecimal negative d.digits d.exponent

/-- Zero is written as one digit. -/
theorem positional_zero (h : d.digits = 0) : d.Positional ⟨none, ['0'], none, none⟩ := by
  have hsig : d.significant = [] := by
    simp [significant, h]
  have hchars : d.positional = ['0'] := by
    simp [positional, hsig]
  refine ⟨hchars, rfl, rfl, .inl rfl, nofun, rfl, ?_⟩
  intro negative
  have hmantissa : digitsValue (⟨none, ['0'], none, none⟩ : Numeral).mantissa = 0 := rfl
  rw [hmantissa, h, ofDecimal_zero, ofDecimal_zero]

/-- Digits with `k` zeros behind the significant ones, and a point where the decimal has it. -/
theorem Trimmed.positional {zeros k : Nat} (h : d.Trimmed zeros) {n : Numeral}
    (hchars : d.positional = n.chars) (hsign : n.sign = none) (hwhole : isDigits n.whole = true)
    (hfront : n.whole.length = 1 ∨ n.whole.head? ≠ some '0')
    (hfraction : ∀ cs ∈ n.fraction, isDigits cs = true) (hexponent : n.exponent = none)
    (hvalue : digitsValue n.mantissa = digitsValue d.significant * 10 ^ k)
    (hlength : -((n.fraction.getD []).length : Int) = d.pointPlace - d.significant.length - k) :
    d.Positional n := by
  refine ⟨hchars, hsign, hwhole, hfront, hfraction, hexponent, ?_⟩
  intro negative
  have hscale : n.scale = d.pointPlace - d.significant.length - k := by
    rw [← hlength]
    simp [Numeral.scale, hexponent]
  rw [hscale, hvalue]
  exact h.ofDecimal_eq negative k

/-- Trimmed digits can be written with a point where it belongs. -/
theorem Trimmed.exists_positional {zeros : Nat} (h : d.Trimmed zeros) : ∃ n, d.Positional n := by
  have hdigits : isDigits d.significant = true := isDigits_iff.2 ⟨h.ne_nil, h.isDigit⟩
  have hzeros : ∀ m, ∀ c ∈ List.replicate m '0', c.isDigit = true := by
    intro m c hc
    rw [List.eq_of_mem_replicate hc]
    rfl
  cases hplace : d.pointPlace with
  | negSucc m =>
    -- Only zeros in front of the digits: their value stays.
    have hfraction : isDigits (List.replicate (m + 1) '0' ++ d.significant) = true := by
      refine isDigits_iff.2 ⟨by simp, ?_⟩
      exact List.forall_mem_append.2 ⟨hzeros (m + 1), h.isDigit⟩
    have hvalue : digitsValue (['0'] ++ (List.replicate (m + 1) '0' ++ d.significant)) =
        digitsValue d.significant * 10 ^ 0 := by
      have hlead : digitsValue (['0'] ++ List.replicate (m + 1) '0') = 0 :=
        digitsValue_replicate_zero (m + 2)
      rw [← List.append_assoc, digitsValue_append, hlead]
      simp
    have hlength : -((List.replicate (m + 1) '0' ++ d.significant).length : Int) =
        d.pointPlace - d.significant.length - (0 : Nat) := by
      rw [hplace, List.length_append, List.length_replicate]
      omega
    have hchars : d.positional =
        Numeral.chars ⟨none, ['0'], some (List.replicate (m + 1) '0' ++ d.significant), none⟩ := by
      simp [Decimal.positional, h.ne_nil, hplace, Numeral.chars]
    exact ⟨_, h.positional hchars rfl rfl (.inl rfl) (by simpa using hfraction) rfl hvalue hlength⟩
  | ofNat place =>
    by_cases hle : d.significant.length ≤ place
    · -- A whole number: zeros behind the digits.
      have hwhole : isDigits (d.significant ++ List.replicate (place - d.significant.length) '0') =
          true := by
        refine isDigits_iff.2 ⟨by simp [h.ne_nil], ?_⟩
        exact List.forall_mem_append.2 ⟨h.isDigit, hzeros _⟩
      have hhead : (d.significant ++ List.replicate (place - d.significant.length) '0').head? ≠
          some '0' := by
        cases hsig : d.significant with
        | nil => exact absurd hsig h.ne_nil
        | cons c cs =>
          have hc := h.head_ne
          rw [hsig] at hc
          exact hc
      have hvalue : digitsValue (d.significant ++ List.replicate (place - d.significant.length) '0'
          ++ []) = digitsValue d.significant * 10 ^ (place - d.significant.length) := by
        rw [List.append_nil, digitsValue_append, digitsValue_replicate_zero,
          List.length_replicate, Nat.add_zero, Nat.mul_comm]
      have hlength : -((([] : List Char).length : Int)) =
          d.pointPlace - d.significant.length - (place - d.significant.length : Nat) := by
        rw [hplace, List.length_nil, Int.ofNat_eq_natCast]
        omega
      have hchars : d.positional = Numeral.chars
          ⟨none, d.significant ++ List.replicate (place - d.significant.length) '0', none, none⟩ := by
        simp [Decimal.positional, h.ne_nil, hplace, hle, Numeral.chars]
      exact ⟨_, h.positional hchars rfl hwhole (.inr hhead) nofun rfl hvalue hlength⟩
    · by_cases hzero : place = 0
      · -- The point falls in front of the digits: a zero is written before it.
        have hvalue : digitsValue (['0'] ++ d.significant) =
            digitsValue d.significant * 10 ^ 0 := by
          have hlead : digitsValue ['0'] = 0 := rfl
          rw [digitsValue_append, hlead]
          simp
        have hlength : -(d.significant.length : Int) =
            d.pointPlace - d.significant.length - (0 : Nat) := by
          rw [hplace, hzero, Int.ofNat_eq_natCast]
          omega
        have hchars : d.positional = Numeral.chars ⟨none, ['0'], some d.significant, none⟩ := by
          simp [Decimal.positional, h.ne_nil, hplace, hzero, Numeral.chars]
        exact ⟨_, h.positional hchars rfl rfl (.inl rfl) (by simpa using hdigits) rfl hvalue
          hlength⟩
      · -- The point falls between two digits.
        have hwhole : isDigits (d.significant.take place) = true := by
          refine isDigits_iff.2 ⟨?_, fun c hc => h.isDigit c (List.mem_of_mem_take hc)⟩
          simp [h.ne_nil, hzero]
        have hfraction : isDigits (d.significant.drop place) = true := by
          refine isDigits_iff.2 ⟨?_, fun c hc => h.isDigit c (List.mem_of_mem_drop hc)⟩
          simpa using hle
        have hhead : (d.significant.take place).head? ≠ some '0' := by
          rw [List.head?_take, if_neg hzero]
          exact h.head_ne
        have hvalue : digitsValue (d.significant.take place ++ d.significant.drop place) =
            digitsValue d.significant * 10 ^ 0 := by
          rw [List.take_append_drop, Nat.pow_zero, Nat.mul_one]
        have hlength : -((d.significant.drop place).length : Int) =
            d.pointPlace - d.significant.length - (0 : Nat) := by
          rw [hplace, List.length_drop, Int.ofNat_eq_natCast]
          omega
        have hchars : d.positional = Numeral.chars
            ⟨none, d.significant.take place, some (d.significant.drop place), none⟩ := by
          simp [Decimal.positional, h.ne_nil, hplace, hle, hzero, Numeral.chars]
        exact ⟨_, h.positional hchars rfl hwhole (.inr hhead) (by simpa using hfraction) rfl hvalue
          hlength⟩

/-- Every decimal can be written without a power. -/
theorem exists_positional (d : Decimal) : ∃ n, d.Positional n := by
  by_cases hzero : d.digits = 0
  · exact ⟨_, positional_zero hzero⟩
  · rcases exists_trimmed (Nat.pos_of_ne_zero hzero) with ⟨zeros, h⟩
    exact h.exists_positional

end Decimal

/-! ## The text of a number -/

namespace Binary64

/-- The text of a finite number is read as this number. -/
theorem value_text {x : Binary64} (hx : x.isFinite = true) :
    (Numeral.ofChars x.text.toList).value = x := by
  cases x with
  | nan => cases hx
  | infinite negative => cases hx
  | finite negative rank =>
    rcases (Decimal.shortest .up rank).exists_positional with ⟨⟨sign, whole, fraction, exponent⟩, h⟩
    rcases h with ⟨hchars, rfl, hwhole, -, hfraction, rfl, hvalue⟩
    have hspelled : Numeral.IsSpelled
        ⟨if negative then some '-' else none, whole, fraction, none⟩ := by
      refine ⟨?_, hwhole, hfraction⟩
      cases negative <;> simp
    have htext : (finite negative rank).text.toList =
        Numeral.chars ⟨if negative then some '-' else none, whole, fraction, none⟩ := by
      cases negative <;> simp [text, hchars, Numeral.chars]
    rw [htext, Numeral.ofChars_chars hspelled]
    have hsign : Numeral.isNegative ⟨if negative then some '-' else none, whole, fraction, none⟩ =
        negative := by
      cases negative <;> rfl
    unfold Numeral.value
    rw [hsign]
    exact (hvalue negative).trans (Decimal.ofDecimal_shortest .up negative rank)

/-- Finite numbers with one text are one number. -/
theorem text_inj {x y : Binary64} (hx : x.isFinite = true) (hy : y.isFinite = true)
    (h : x.text = y.text) : x = y := by
  rw [← value_text hx, h, value_text hy]

/-- The sign of zero shows. -/
theorem text_zero (negative : Bool) : (zero negative).text = if negative then "-0" else "0" := by
  cases negative <;> decide +kernel

end Binary64

end TableDdl
