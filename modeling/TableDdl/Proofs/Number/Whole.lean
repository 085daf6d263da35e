import TableDdl.Proofs.Number.Integer
import TableDdl.Proofs.Number.Positional

/-!
# Large whole numbers

From `2 ^ 52` on, floating point numbers have no fraction, and where a number has 17 digits in front
of the point its text has no other digits.

* `Binary64.exists_magnitude_nearestRank`: what is nearest to a large number is a multiple of a
  large power of two;
* `Binary64.truncate_eq_self`: a whole number has no fraction to lose;
* `Decimal.isDigits_positional`: a whole decimal is written without a point;
* `Binary64.exists_spells_text`: the text of a large whole number is an integer that is read as it;
* `Binary64.truncate_ofInt`: so is the number nearest to an integer that does not fit into 64 bits.
-/

namespace TableDdl

open Binary64

namespace Binary64

/-! ## Numbers without a fraction -/

theorem div_le_roundDiv (num den : Nat) : num / den ≤ roundDiv num den := by
  unfold roundDiv
  simp only
  split
  · exact Nat.le_refl _
  · exact Nat.le_succ _
  · split
    · exact Nat.le_refl _
    · exact Nat.le_succ _

/-- A number with more bits than fit is rounded to a multiple of what does not fit. -/
theorem exists_magnitude_nearestRank {num s : Nat} (h : 2 ^ (52 + s) ≤ num) :
    ∃ c, 2 ^ 52 ≤ c ∧ magnitude (nearestRank num 1) = c * 2 ^ s := by
  have hblock : blockSize = 2 ^ 52 := rfl
  have hpos : 0 < blockSize := by rw [hblock]; exact Nat.two_pow_pos 52
  have hne : num ≠ 0 := by
    rintro rfl
    exact absurd h (Nat.not_le_of_lt (Nat.two_pow_pos _))
  have hlog : 52 + s ≤ num.log2 := (Nat.le_log2 hne).2 h
  obtain ⟨shift, hshift⟩ : ∃ shift, num.log2 = 52 + shift := ⟨num.log2 - 52, by omega⟩
  have hrank : nearestRank num 1 = shift * blockSize + roundDiv num (2 ^ shift) := by
    unfold nearestRank
    simp only [Nat.div_one, hshift, Nat.add_sub_cancel_left, Nat.one_mul, Nat.pow_eq]
  -- The significand has all its 53 digits, so the rank lies behind the block of the shift.
  have hround : blockSize ≤ roundDiv num (2 ^ shift) := by
    refine Nat.le_trans ?_ (div_le_roundDiv num (2 ^ shift))
    rw [Nat.le_div_iff_mul_le (Nat.two_pow_pos shift), hblock, ← Nat.pow_add, ← hshift]
    exact Nat.log2_self_le hne
  have hdiv : shift + 1 ≤ nearestRank num 1 / blockSize := by
    rw [Nat.le_div_iff_mul_le hpos, hrank, Nat.add_mul, Nat.one_mul]
    exact Nat.add_le_add_left hround _
  have hlarge : ¬nearestRank num 1 < blockSize := by
    intro hlt
    rw [Nat.div_eq_of_lt hlt] at hdiv
    exact absurd hdiv (Nat.not_succ_le_zero shift)
  -- Of the factors two, `s` are split off; the others stay with the significand.
  have hexponent : nearestRank num 1 / blockSize - 1 =
      (nearestRank num 1 / blockSize - 1 - s) + s := by omega
  refine ⟨(blockSize + nearestRank num 1 % blockSize) *
    2 ^ (nearestRank num 1 / blockSize - 1 - s), ?_, ?_⟩
  · rw [← hblock]
    exact Nat.le_trans (Nat.le_add_right _ _) (Nat.le_mul_of_pos_right _ (Nat.two_pow_pos _))
  · unfold magnitude
    rw [if_neg hlarge, Nat.pow_eq, Nat.mul_assoc, ← Nat.pow_add, ← hexponent]

/-- A whole number is not truncated. -/
theorem truncate_eq_self {rank : Fin rankCount} (h : unitsInOne ∣ magnitude rank)
    (negative : Bool) : truncate (finite negative rank) = finite negative rank := by
  unfold truncate
  simp only
  rw [Nat.div_mul_cancel h, ofQuotient_magnitude]

end Binary64

/-! ## Whole decimals -/

namespace Decimal

variable {d : Decimal} {zeros : Nat}

/-- A negative exponent only takes zeros from the end of the digits. -/
def IsWhole (d : Decimal) : Prop :=
  10 ^ (-d.exponent).toNat ∣ d.digits

/-- The last significant digit is not zero. -/
theorem Trimmed.not_dvd (h : d.Trimmed zeros) : ¬10 ∣ digitsValue d.significant := by
  have hlast := List.head?_dropWhile_not (· == '0') (Nat.toDigits 10 d.digits).reverse
  rcases List.eq_nil_or_concat d.significant with hnil | ⟨front, c, hsig⟩
  · exact absurd hnil h.ne_nil
  · -- Cutting zeros off stopped at this digit, so it is none.
    have hc : c.isDigit = true := h.isDigit c (by simp [hsig])
    have hreversed : (Nat.toDigits 10 d.digits).reverse.dropWhile (· == '0') =
        c :: front.reverse := by
      have hback := congrArg List.reverse hsig
      unfold significant at hback
      simpa using hback
    have hzero : c ≠ '0' := by
      rw [hreversed] at hlast
      simpa using hlast
    have hrange : 48 ≤ c.toNat ∧ c.toNat ≤ 57 := Char.isDigit_iff_toNat.1 hc
    have hne : c.toNat ≠ 48 := fun hsame => hzero (Char.toNat_inj.1 hsame)
    have hvalue : digitsValue [c] = c.toNat - 48 := by
      simp [digitsValue, Nat.ofDigitChars_cons]
    rw [hsig, List.concat_eq_append, digitsValue_append, hvalue, List.length_singleton]
    omega

/-- The zeros at the end of the digits of a whole decimal make up for a negative exponent. -/
theorem Trimmed.exponent_le (h : d.Trimmed zeros) (hd : d.IsWhole) :
    (-d.exponent).toNat ≤ zeros := by
  unfold IsWhole at hd
  rw [h.digits_eq] at hd
  -- If the exponent took more than the zeros, ten would divide the significant digits.
  by_contra hlt
  obtain ⟨more, hmore⟩ : ∃ more, (-d.exponent).toNat = (more + 1) + zeros :=
    ⟨(-d.exponent).toNat - zeros - 1, by omega⟩
  rw [hmore, Nat.pow_add] at hd
  have hdvd := Nat.dvd_of_mul_dvd_mul_right (Nat.pow_pos (by decide)) hd
  exact h.not_dvd (Nat.dvd_trans (Nat.dvd_mul_left 10 (10 ^ more)) hdvd)

/-- A whole decimal is written in digits alone. -/
theorem isDigits_positional (hd : d.IsWhole) : isDigits d.positional = true := by
  by_cases hzero : d.digits = 0
  · have hsig : d.significant = [] := by
      simp [significant, hzero]
    simp [positional, hsig, isDigits]
  · rcases exists_trimmed (Nat.pos_of_ne_zero hzero) with ⟨zeros, h⟩
    have hle := h.exponent_le hd
    have hplace := h.pointPlace_eq
    obtain ⟨place, hpoint⟩ : ∃ place : Nat, d.pointPlace = Int.ofNat place :=
      ⟨d.pointPlace.toNat, by rw [Int.ofNat_eq_natCast]; omega⟩
    have hlength : d.significant.length ≤ place := by
      rw [hpoint, Int.ofNat_eq_natCast] at hplace
      omega
    have hpositional : d.positional =
        d.significant ++ List.replicate (place - d.significant.length) '0' := by
      simp [positional, h.ne_nil, hpoint, hlength]
    rw [hpositional]
    refine isDigits_iff.2 ⟨by simp [h.ne_nil], List.forall_mem_append.2 ⟨h.isDigit, ?_⟩⟩
    intro c hc
    rw [List.eq_of_mem_replicate hc]
    rfl

/-! ## The shortest decimal of a large whole number -/

section Shortest

variable {rank : Fin rankCount} {q k : Nat}

theorem eq_or_eq_of_nearer? {tie : Tie} {order : Ordering} {below above : Decimal}
    (h : nearer? tie rank order below above = some d) : d = below ∨ d = above := by
  unfold nearer? at h
  grind

/-- The digits of a whole number are its own, with zeros for the places behind the point. -/
theorem exactDigits_eq (hk : k = 1074) (hq : magnitude rank = q * 2 ^ k) :
    exactDigits rank = q * 10 ^ k := by
  rw [exactDigits_eq_mul hk, hq, Nat.mul_assoc, ← Nat.mul_pow]

/-- Seventeen digits do not reach behind the point of such a number. -/
theorem isWhole_shortest (tie : Tie) (hk : k = 1074) (hq : magnitude rank = q * 2 ^ k)
    (hlarge : 10 ^ 16 ≤ q) : (shortest tie rank).IsWhole := by
  have hexact := exactDigits_eq hk hq
  have hlength : 17 + k ≤ (Nat.toDigits 10 (exactDigits rank)).length := by
    by_contra hshort
    have hlt : exactDigits rank < 10 ^ (16 + k) :=
      (Nat.length_toDigits_le_iff (by decide) (by omega)).1 (by omega)
    rw [hexact, Nat.pow_add] at hlt
    exact absurd (Nat.lt_of_mul_lt_mul_right hlt) (Nat.not_lt_of_le hlarge)
  -- With so many digits in front of the point, a decimal of 17 digits at most has no others.
  have hgrid : ∀ drop d, k ≤ drop → onGrid? tie rank drop = some d → d.IsWhole := by
    intro drop d hdrop h
    have hexponent : d.exponent = (drop : Int) - 1074 := by
      rcases eq_or_eq_of_nearer? h with rfl | rfl <;> rfl
    have hnone : (-d.exponent).toNat = 0 := by omega
    unfold IsWhole
    rw [hnone]
    exact Nat.one_dvd _
  unfold shortest
  split
  · exact Nat.one_dvd 0
  · simp only
    cases hfound : (List.range 17).findSome? fun n => onGrid? tie rank
        ((Nat.toDigits 10 (exactDigits rank)).length - (n + 1)) with
    | none =>
      -- The exact digits end with as many zeros as the exponent takes away.
      have hback : (-(exact rank).exponent).toNat = k := by
        rw [hk]
        rfl
      have hdigits : (exact rank).digits = q * 10 ^ k := hexact
      unfold IsWhole
      rw [Option.getD_none, hback, hdigits]
      exact Nat.dvd_mul_left _ q
    | some d =>
      rcases List.exists_of_findSome?_eq_some hfound with ⟨n, hn, h⟩
      have hlt : n < 17 := List.mem_range.1 hn
      exact hgrid _ d (by omega) h

end Shortest

end Decimal

/-! ## The text of a large whole number -/

namespace Binary64

/-- The text is an integer that is read as the number. -/
theorem exists_spells_text {rank : Fin rankCount} {q k : Nat} (hk : k = 1074)
    (hq : magnitude rank = q * 2 ^ k) (hlarge : 10 ^ 16 ≤ q) (negative : Bool) :
    ∃ m : Nat,
      SpellsInteger (finite negative rank).text.toList (if negative then -(m : Int) else m) ∧
      ofDecimal negative m 0 = finite negative rank := by
  have hdigits := Decimal.isDigits_positional (Decimal.isWhole_shortest .up hk hq hlarge)
  generalize hchars : (Decimal.shortest .up rank).positional = ds at hdigits
  have htext : (finite negative rank).text.toList = if negative then '-' :: ds else ds := by
    cases negative <;> simp [text, hchars]
  have hvalue := value_text (x := finite negative rank) rfl
  rw [htext] at hvalue ⊢
  refine ⟨digitsValue ds, ?_⟩
  cases negative with
  | false =>
    have hsplit := splitSign_of_isDigits hdigits
    rw [if_neg Bool.false_ne_true, Numeral.ofChars_of_splitSign hsplit hdigits,
      Numeral.value_of_isWhole] at hvalue
    exact ⟨.unsigned hdigits, hvalue⟩
  | true =>
    have hsplit : splitSign ('-' :: ds) = (some '-', ds) := rfl
    rw [if_pos rfl, Numeral.ofChars_of_splitSign hsplit hdigits, Numeral.value_of_isWhole] at hvalue
    exact ⟨.minus hdigits, hvalue⟩

/-! ## Integers -/

/-- An integer is rounded like the decimal of its digits. -/
theorem ofInt_eq_ofDecimal {n : Int} (hn : n ≠ 0) : ofInt n = ofDecimal (n < 0) n.natAbs 0 := by
  rw [ofDecimal_eq_ofQuotient _ (Int.natAbs_pos.2 hn)]
  simp [ofInt]

/-- A large integer in text, whose digits are read as a number, has this as its nearest number. -/
theorem ofInt_signed {negative : Bool} {m : Nat} (hm : m ≠ 0) :
    ofInt (if negative then -(m : Int) else m) = ofDecimal negative m 0 := by
  cases negative with
  | false =>
    have hne : (m : Int) ≠ 0 := by omega
    have hsign : ¬(m : Int) < 0 := by omega
    simp [ofInt_eq_ofDecimal hne, hsign]
  | true =>
    have hne : -(m : Int) ≠ 0 := by omega
    have hpos : 0 < m := Nat.pos_of_ne_zero hm
    simp [ofInt_eq_ofDecimal hne, hpos]

/-- The number nearest to an integer beyond 64 bits is whole, and its text is an integer to which it
is the nearest number, too. -/
theorem truncate_ofInt {n : Int} (hn : 2 ^ 63 ≤ n.natAbs) (hfinite : (ofInt n).isFinite = true) :
    (ofInt n).truncate = ofInt n ∧
      ∃ m, SpellsInteger (ofInt n).text.toList m ∧ ofInt m = ofInt n := by
  obtain ⟨k, hk⟩ : ∃ k, k = 1074 := ⟨1074, rfl⟩
  have hunits := unitsInOne_eq_two_pow hk
  have hnum : 2 ^ (52 + (11 + k)) ≤ n.natAbs * 2 ^ k := by
    rw [← Nat.add_assoc, Nat.pow_add]
    exact Nat.mul_le_mul_right _ hn
  rcases exists_magnitude_nearestRank hnum with ⟨c, hc, hmagnitude⟩
  have hlt : nearestRank (n.natAbs * 2 ^ k) 1 < rankCount := by
    unfold ofInt ofQuotient at hfinite
    rw [hunits] at hfinite
    split at hfinite
    · assumption
    · cases hfinite
  have hx : ofInt n = finite (n < 0) ⟨nearestRank (n.natAbs * 2 ^ k) 1, hlt⟩ := by
    unfold ofInt ofQuotient
    simp only [hunits, dif_pos hlt]
  generalize hrank : (⟨nearestRank (n.natAbs * 2 ^ k) 1, hlt⟩ : Fin rankCount) = rank at hx
  have hq : magnitude rank = c * 2 ^ 11 * 2 ^ k := by
    rw [← hrank, Nat.mul_assoc, ← Nat.pow_add]
    exact hmagnitude
  -- The nearest number is a multiple of `2 ^ 11`, and has 17 digits.
  have hlarge : 10 ^ 16 ≤ c * 2 ^ 11 := by omega
  rcases exists_spells_text hk hq hlarge (decide (n < 0)) with ⟨m, hspells, hm⟩
  -- The number is not zero, so neither is the integer in its text.
  have hne : m ≠ 0 := by
    rintro rfl
    rw [ofDecimal_zero] at hm
    cases hm
    have hzero : magnitude 0 = 0 := if_pos (by decide)
    have hpos : 0 < c * 2 ^ 11 * 2 ^ k := Nat.mul_pos (by omega) (Nat.two_pow_pos k)
    rw [← hq, hzero] at hpos
    exact absurd hpos (Nat.lt_irrefl 0)
  rw [hx]
  refine ⟨truncate_eq_self (hunits ▸ Dvd.intro_left _ hq.symm) _, _, hspells, ?_⟩
  rw [ofInt_signed hne, hm]

end Binary64

end TableDdl
