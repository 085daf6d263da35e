import TableDdl.Number.Decimal
import TableDdl.Proofs.Number.Rounding

/-!
# The shortest decimal reads back

`Decimal.shortest` only gives decimals that were tried, except for the exact value at the end, and
this is its own rounding (`readsBack_exact`).  So whatever decimal is written for a finite number is
read as this number (`ofDecimal_shortest`).
-/

namespace TableDdl

open Binary64

namespace Decimal

variable {rank : Fin rankCount}

/-- Reading back means that rounding gives the number again. -/
theorem readsBack_iff {d : Decimal} :
    d.readsBack rank = true ↔ ofDecimal false d.digits d.exponent = finite false rank := by
  simp [readsBack]

/-- A candidate is chosen only if it reads back. -/
theorem readsBack_of_nearer? {tie : Tie} {order : Ordering} {below above d : Decimal}
    (h : nearer? tie rank order below above = some d) : d.readsBack rank = true := by
  -- Whichever of the two neighbours is chosen, it was tested.
  unfold nearer? at h
  split at h
  · next hbelow habove =>
    have hd : below = d ∨ above = d := by
      split at h
      · exact Or.inl (Option.some.inj h)
      · exact Or.inr (Option.some.inj h)
      · exact Or.inr (Option.some.inj h)
      · split at h
        · exact Or.inl (Option.some.inj h)
        · exact Or.inr (Option.some.inj h)
    rcases hd with rfl | rfl
    · exact hbelow
    · exact habove
  · next hbelow _ =>
    cases h
    exact hbelow
  · next _ habove =>
    cases h
    exact habove
  · cases h

theorem magnitude_pos {n : Nat} (h : 0 < n) : 0 < magnitude n := by
  have hblock : 0 < blockSize := by decide
  unfold magnitude
  split
  · exact h
  · exact Nat.mul_pos (by omega) (Nat.pow_pos (by decide))

/-- The exponent goes by a name, so that no power of it is worked out. -/
theorem exactDigits_eq_mul {k : Nat} (hk : k = 1074) :
    exactDigits rank = magnitude rank * 5 ^ k := by
  unfold exactDigits
  rw [← hk]
  rfl

/-- All digits of a number read back as it. -/
theorem readsBack_exact (hrank : 0 < rank.val) : (exact rank).readsBack rank = true := by
  obtain ⟨k, hk⟩ : ∃ k, k = 1074 := ⟨1074, rfl⟩
  have hdigits : exactDigits rank = magnitude rank * 5 ^ k := exactDigits_eq_mul hk
  have hexponent : (-1074 : Int) = -(k : Int) := by omega
  have hpos : 0 < exactDigits rank := by
    rw [hdigits]
    exact Nat.mul_pos (magnitude_pos hrank) (Nat.pow_pos (by decide))
  have hvalue : ofDecimal false (exactDigits rank) (-1074) = ofQuotient false (magnitude rank) 1 := by
    rw [ofDecimal_eq_ofQuotient false hpos, hdigits, hexponent, unitsInOne_eq_two_pow hk]
    refine ofQuotient_congr false (Nat.pow_pos (by decide)) Nat.one_pos ?_
    have hzero : (-(k : Int)).toNat = 0 := by omega
    have hback : (- -(k : Int)).toNat = k := by omega
    rw [hzero, hback]
    calc
      magnitude rank * 5 ^ k * 10 ^ 0 * 2 ^ k * 1 = magnitude rank * (5 ^ k * 2 ^ k) := by ring
      _ = magnitude rank * 10 ^ k := by rw [← Nat.mul_pow]
  rw [readsBack_iff]
  unfold exact
  rw [hvalue, ofQuotient_magnitude]

/-- The shortest digits of a number read back as it. -/
theorem readsBack_shortest (tie : Tie) (rank : Fin rankCount) :
    (shortest tie rank).readsBack rank = true := by
  unfold shortest
  split
  · next hzero =>
    have hrank : rank = ⟨0, by decide⟩ := Fin.ext hzero
    rw [readsBack_iff, hrank]
    rfl
  · next hne =>
    simp only
    -- If no short decimal was found, the exact one is written.
    cases hfound : (List.range 17).findSome? fun n => onGrid? tie rank
        ((Nat.toDigits 10 (exactDigits rank)).length - (n + 1)) with
    | none => exact readsBack_exact (Nat.pos_of_ne_zero hne)
    | some d =>
      rcases List.exists_of_findSome?_eq_some hfound with ⟨_, _, hgrid⟩
      exact readsBack_of_nearer? hgrid

/-- What is written for a finite number is read as this number. -/
theorem ofDecimal_shortest (tie : Tie) (negative : Bool) (rank : Fin rankCount) :
    ofDecimal negative (shortest tie rank).digits (shortest tie rank).exponent =
      finite negative rank :=
  ofDecimal_eq_finite negative (readsBack_iff.1 (readsBack_shortest tie rank))

end Decimal
end TableDdl
