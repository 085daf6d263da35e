/-!
# Binary64 numbers

A floating point number of 64 bits, kept so that its value is plain integer arithmetic.  The finite
magnitudes in ascending order are numbered from `0`; this number is the *rank*, and the value of a
rank is a whole multiple of `2 ^ -1074`, the least positive magnitude.

* `Binary64`: not a number, an infinity, or a sign and a rank;
* `Binary64.magnitude`: the value of a rank, in units of `2 ^ -1074`;
* `Binary64.ofQuotient`: the number nearest to a quotient of naturals, a half going to the even rank;
* `Binary64.ofDecimal`: the number nearest to `digits * 10 ^ exponent`;
* `Binary64.truncate`: rounding toward zero to a whole number.

No operation here rounds twice, so each is its exact result correctly rounded.  For reading decimals
this is an idealization: a reader that works in floating point throughout may give a neighbour of
the nearest number where a numeral has many digits or a large exponent.
-/

namespace TableDdl

/-- The number of ranks after which the distance between neighbours changes. -/
def Binary64.blockSize : Nat := Nat.pow 2 52

def Binary64.rankCount : Nat := 2047 * blockSize

inductive Binary64 where
  | nan
  | infinite (negative : Bool)
  /-- A finite number: its sign and the rank of its magnitude. -/
  | finite (negative : Bool) (rank : Fin Binary64.rankCount)
deriving DecidableEq, Repr

namespace Binary64

instance : Inhabited Binary64 := ⟨nan⟩

def zero (negative : Bool) : Binary64 :=
  finite negative ⟨0, by decide⟩

def isFinite : Binary64 → Bool
  | finite _ _ => true
  | _ => false

/-! ## Magnitudes -/

def unitsInOne : Nat := Nat.pow 2 1074

/-- The magnitude of a rank, in units of `2 ^ -1074`.  In the first two blocks of ranks the distance
between neighbours is one unit, and it doubles from each further block to the next. -/
def magnitude (rank : Nat) : Nat :=
  if rank < blockSize then rank
  else (blockSize + rank % blockSize) * Nat.pow 2 (rank / blockSize - 1)

/-! ## Rounding -/

/-- The quotient rounded to the nearest natural number, a half going to the even one. -/
def roundDiv (num den : Nat) : Nat :=
  let quotient := num / den
  match compare (2 * (num % den)) den with
  | .lt => quotient
  | .gt => quotient + 1
  | .eq => if quotient % 2 = 0 then quotient else quotient + 1

/-- The rank nearest to the quotient in units of `2 ^ -1074`, a half going to the even rank; ranks
from `rankCount` on stand for overflow. -/
def nearestRank (num den : Nat) : Nat :=
  let shift := (num / den).log2 - 52
  shift * blockSize + roundDiv num (den * Nat.pow 2 shift)

/-- The number nearest to `num / den` in units of `2 ^ -1074`, with the given sign. -/
def ofQuotient (negative : Bool) (num den : Nat) : Binary64 :=
  if h : nearestRank num den < rankCount then finite negative ⟨nearestRank num den, h⟩
  else infinite negative

/-- The number nearest to `digits * 10 ^ exponent`, with the given sign.  An exponent so large or so
small that the answer is an infinity or zero whatever the digits is not raised to a power. -/
def ofDecimal (negative : Bool) (digits : Nat) (exponent : Int) : Binary64 :=
  if digits = 0 then zero negative
  else match exponent with
    | .ofNat e =>
        if 400 < e then infinite negative
        else ofQuotient negative (digits * Nat.pow 10 e * unitsInOne) 1
    | .negSucc e =>
        if digits.log2 + 400 < e then zero negative
        else ofQuotient negative (digits * unitsInOne) (Nat.pow 10 (e + 1))

def ofInt (n : Int) : Binary64 :=
  ofQuotient (n < 0) (n.natAbs * unitsInOne) 1

/-- The whole number next to the given one in the direction of zero.  The sign stays, also on zero;
numbers that are not finite stay as they are. -/
def truncate : Binary64 → Binary64
  | finite negative rank => ofQuotient negative (magnitude rank / unitsInOne * unitsInOne) 1
  | x => x

example : ofDecimal false 1 (-1) = finite false ⟨0x3FB999999999999A, by decide⟩ := by decide +kernel
example : ofDecimal false 5 (-324) = finite false ⟨1, by decide⟩ := by decide +kernel
example : ofDecimal false 17976931348623159 292 = infinite false := by decide +kernel
example : truncate (ofDecimal true 5 (-1)) = zero true := by decide +kernel

end Binary64

end TableDdl
