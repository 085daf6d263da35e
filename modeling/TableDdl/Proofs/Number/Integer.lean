import TableDdl.Proofs.Number.Numeral
import TableDdl.Proofs.Number.Rounding

/-!
# Integers in text

* `SpellsInteger`: the texts of an integer, and `integer?_eq_some_iff`: these are read as it;
* `Numeral.exists_ofChars_of_spells`: such a text as a numeral;
* `int64?_eq_some_iff`: the integers that fit into 64 bits;
* `IsCanonicalInteger`: the text without anything superfluous, which is the one that is written
  (`isCanonicalInteger_integerChars`).
-/

namespace TableDdl

/-! ## Integers in text -/

/-- The text is the integer: digits with a sign or none. -/
inductive SpellsInteger : List Char → Int → Prop where
  | unsigned {ds : List Char} (digits : isDigits ds = true) : SpellsInteger ds (digitsValue ds)
  | plus {ds : List Char} (digits : isDigits ds = true) :
      SpellsInteger ('+' :: ds) (digitsValue ds)
  | minus {ds : List Char} (digits : isDigits ds = true) :
      SpellsInteger ('-' :: ds) (-(digitsValue ds : Int))

theorem splitSign_of_isDigits {ds : List Char} (h : isDigits ds = true) :
    splitSign ds = (none, ds) := by
  have hdigits := forall_isDigit_of_isDigits h
  exact Numeral.splitSign_append_digits (.inl rfl) fun c hc => hdigits c (List.mem_of_mem_head? hc)

/-- The reader of integers accepts just their spellings. -/
theorem integer?_eq_some_iff {cs : List Char} {n : Int} :
    integer? cs = some n ↔ SpellsInteger cs n := by
  constructor
  · intro h
    unfold integer? at h
    revert h
    fun_cases splitSign cs with
    | case1 rest =>
      intro h
      obtain ⟨hdigits, rfl⟩ : isDigits rest = true ∧ (digitsValue rest : Int) = n := by
        simpa using h
      exact .plus hdigits
    | case2 rest =>
      intro h
      obtain ⟨hdigits, rfl⟩ : isDigits rest = true ∧ -(digitsValue rest : Int) = n := by
        simpa using h
      exact .minus hdigits
    | case3 =>
      intro h
      obtain ⟨hdigits, rfl⟩ : isDigits cs = true ∧ (digitsValue cs : Int) = n := by
        simpa using h
      exact .unsigned hdigits
  · intro h
    cases h with
    | unsigned digits => simp [integer?, splitSign_of_isDigits digits, digits]
    | plus digits => simp [integer?, splitSign, digits]
    | minus digits => simp [integer?, splitSign, digits]

theorem int64?_eq_some_iff {n : Int} {k : Int64} : int64? n = some k ↔ k.toInt = n := by
  constructor
  · intro h
    unfold int64? at h
    split at h
    · next hrange =>
      cases h
      exact Int64.toInt_ofInt_of_le hrange.1 (Int.lt_of_le_of_lt hrange.2 (by decide))
    · cases h
  · rintro rfl
    unfold int64?
    rw [if_pos ⟨k.minValue_le_toInt, k.toInt_le⟩, Int64.ofInt_toInt]

/-! ## Integers as numerals -/

namespace Numeral

/-- A numeral of digits alone has neither fraction nor power. -/
theorem ofChars_of_splitSign {cs ds : List Char} {sign : Option Char}
    (hsplit : splitSign cs = (sign, ds)) (hdigits : isDigits ds = true) :
    ofChars cs = ⟨sign, ds, none, none⟩ := by
  have hunsigned : ofChars ds = ⟨none, ds, none, none⟩ := by
    have hspelled : IsSpelled ⟨none, ds, none, none⟩ := ⟨.inl rfl, hdigits, by simp⟩
    simpa [chars] using ofChars_chars hspelled
  -- The sign is cut off first, and nothing else depends on it.
  have hsigned : ofChars cs = { ofChars ds with sign := sign } := by
    unfold ofChars
    rw [hsplit, splitSign_of_isDigits hdigits]
  rw [hsigned, hunsigned]

/-- The value of such a numeral is the number nearest to its integer. -/
theorem value_of_isWhole (sign : Option Char) (ds : List Char) :
    (⟨sign, ds, none, none⟩ : Numeral).value =
      Binary64.ofDecimal (sign == some '-') (digitsValue ds) 0 := by
  simp [value, isNegative, mantissa, scale]

/-- An integer is a numeral without a fraction and without an exponent. -/
theorem exists_ofChars_of_spells {cs : List Char} {n : Int} (h : SpellsInteger cs n) :
    ∃ sign ds, ofChars cs = ⟨sign, ds, none, none⟩ ∧
      n = if sign = some '-' then -(digitsValue ds : Int) else digitsValue ds := by
  cases h with
  | unsigned digits =>
    exact ⟨none, _, ofChars_of_splitSign (splitSign_of_isDigits digits) digits, rfl⟩
  | plus digits => exact ⟨some '+', _, ofChars_of_splitSign rfl digits, rfl⟩
  | minus digits => exact ⟨some '-', _, ofChars_of_splitSign rfl digits, rfl⟩

end Numeral

/-! ## How an integer is written -/

/-- The text is the integer as it is usually written: without a plus sign, without a zero in front
of other digits, and zero without a sign. -/
structure IsCanonicalInteger (cs : List Char) (n : Int) : Prop where
  spells : SpellsInteger cs n
  no_plus : cs.head? ≠ some '+'
  zero_eq : n = 0 → cs = ['0']
  no_zero : n ≠ 0 → (splitSign cs).2.head? ≠ some '0'

/-- An integer is written as its digits, with a minus sign where it is negative. -/
theorem splitSign_integerChars (n : Int) :
    splitSign (integerChars n) = (if n < 0 then some '-' else none, Nat.toDigits 10 n.natAbs) := by
  unfold integerChars
  split
  · rfl
  · exact splitSign_of_isDigits (isDigits_toDigits n.natAbs)

/-- This is the shortest spelling. -/
theorem isCanonicalInteger_integerChars (n : Int) : IsCanonicalInteger (integerChars n) n := by
  have hsplit := splitSign_integerChars n
  have hdigits := isDigits_toDigits n.natAbs
  have hvalue := digitsValue_toDigits n.natAbs
  refine ⟨integer?_eq_some_iff.1 ?_, ?_, ?_, ?_⟩
  · unfold integer?
    rw [hsplit]
    simp only [hdigits, hvalue, if_true]
    by_cases hneg : n < 0
    · simp only [if_pos hneg, if_true, Option.some.injEq]
      omega
    · simp only [if_neg hneg, reduceCtorEq, if_false, Option.some.injEq]
      omega
  · intro hplus
    have hsign : (splitSign (integerChars n)).1 ≠ some '+' := by
      rw [hsplit]
      split <;> simp
    rcases List.head?_eq_some_iff.1 hplus with ⟨rest, hrest⟩
    exact hsign (by rw [hrest]; rfl)
  · rintro rfl
    decide
  · intro hne
    rw [hsplit]
    exact head?_toDigits_ne (Int.natAbs_pos.2 hne)

/-- An integer is a number as well. -/
theorem isNumericChars_integerChars (k : Int64) : isNumericChars (integerChars k.toInt) = true := by
  have hspelled : Numeral.ofChars (integerChars k.toInt) =
      ⟨if k.toInt < 0 then some '-' else none, Nat.toDigits 10 k.toInt.natAbs, none, none⟩ :=
    Numeral.ofChars_of_splitSign (splitSign_integerChars k.toInt) (isDigits_toDigits _)
  have hlt : k.toInt.natAbs < 2 ^ 64 := by
    have hlower := k.le_toInt
    have hupper := k.toInt_lt
    omega
  unfold isNumericChars
  rw [hspelled]
  simp [Numeral.isDecimal, Numeral.mantissa, Numeral.hasExponent, Numeral.value, Numeral.scale,
    isDigits_toDigits, digitsValue_toDigits, Binary64.isFinite_ofDecimal _ hlt]

end TableDdl
