/-!
# Case of ASCII letters

Case matters only for the letters `a` to `z` here; every other character is left as it is.
-/

namespace TableDdl
namespace Text

def lowerAscii (s : String) : String :=
  String.ofList (s.toList.map Char.toLower)

def upperAscii (s : String) : String :=
  String.ofList (s.toList.map Char.toUpper)

@[simp] theorem toList_lowerAscii (s : String) :
    (lowerAscii s).toList = s.toList.map Char.toLower := by
  simp [lowerAscii]

@[simp] theorem toList_upperAscii (s : String) :
    (upperAscii s).toList = s.toList.map Char.toUpper := by
  simp [upperAscii]

/-- No letter becomes a character below the letters, and no such character a letter. -/
theorem toLower_eq_iff {c low : Char} (h : low.toNat < 65) : c.toLower = low ↔ c = low := by
  unfold Char.toLower
  split
  · next hupper =>
    have hrange : 65 ≤ c.val.toNat ∧ c.val.toNat ≤ 90 := by
      simpa [UInt32.le_iff_toNat_le] using hupper
    have hne : c ≠ low := by
      rintro rfl
      exact absurd hrange.1 (Nat.not_le.2 h)
    refine iff_of_false (fun hlower => ?_) hne
    rw [← hlower] at h
    -- The letter in lower case stands 32 places further on.
    have hval : (c.val.toNat + 32) % 2 ^ 32 < 65 := h
    omega
  · rfl

/-- Whether two texts differ at most in the case of ASCII letters. -/
def sameIgnoringCase (s t : String) : Bool :=
  lowerAscii s == lowerAscii t

end Text
end TableDdl
