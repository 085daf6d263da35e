import TableDdl.Number.Binary64

/-!
# The shortest decimal that reads back

`Decimal.shortest` picks the decimal that stands for a binary64 magnitude in text: of the decimals
that `Binary64.ofDecimal` reads back to it those with the fewest digits, and of these the nearest to
the exact value.  Where two are equally near, the format decides (`Tie`).

The exact value of a magnitude is `units * 2 ^ -1074 = units * 5 ^ 1074 * 10 ^ -1074`, so all of
this is arithmetic on naturals.  `Decimal.positional` writes a decimal without an exponent.
-/

namespace TableDdl

structure Decimal where
  /-- The digits, as a natural number. -/
  digits : Nat
  /-- The power of ten that the digits are multiplied with. -/
  exponent : Int
deriving DecidableEq, Repr

inductive Tie where
  /-- The greater one. -/
  | up
  /-- The one with an even last digit. -/
  | even
deriving DecidableEq, Repr

namespace Decimal

/-- Whether reading the decimal gives the magnitude of this rank. -/
def readsBack (d : Decimal) (rank : Fin Binary64.rankCount) : Bool :=
  Binary64.ofDecimal false d.digits d.exponent = Binary64.finite false rank

/-- The digits of the exact value of a rank, which is these digits times `10 ^ -1074`. -/
def exactDigits (rank : Fin Binary64.rankCount) : Nat :=
  Binary64.magnitude rank * Nat.pow 5 1074

def exact (rank : Fin Binary64.rankCount) : Decimal :=
  ⟨exactDigits rank, -1074⟩

/-- Of two neighbouring decimals the nearer one of those that read back, where `order` says on which
side of their middle the exact value lies. -/
def nearer? (tie : Tie) (rank : Fin Binary64.rankCount) (order : Ordering) (below above : Decimal) :
    Option Decimal :=
  match below.readsBack rank, above.readsBack rank with
  | true, true =>
      match order, tie with
      | .lt, _ => some below
      | .gt, _ => some above
      | .eq, .up => some above
      | .eq, .even => some (if below.digits % 2 = 0 then below else above)
  | true, false => some below
  | false, true => some above
  | false, false => none

/-- Of the two neighbours of the exact value among the multiples of `10 ^ (drop - 1074)`, the nearer
one of those that read back. -/
def onGrid? (tie : Tie) (rank : Fin Binary64.rankCount) (drop : Nat) : Option Decimal :=
  let unit := Nat.pow 10 drop
  nearer? tie rank (compare (2 * (exactDigits rank % unit)) unit)
    ⟨exactDigits rank / unit, (drop : Int) - 1074⟩
    ⟨exactDigits rank / unit + 1, (drop : Int) - 1074⟩

/-- The shortest decimal that reads back to a rank.  Seventeen digits are enough for every binary64
number; the exact value stands at the end so that nothing has to be known about that. -/
def shortest (tie : Tie) (rank : Fin Binary64.rankCount) : Decimal :=
  if rank.val = 0 then ⟨0, 0⟩
  else
    let length := (Nat.toDigits 10 (exactDigits rank)).length
    ((List.range 17).findSome? fun n => onGrid? tie rank (length - (n + 1))).getD (exact rank)

/-! ## Digits without zeros at the end -/

/-- The digits without the zeros at their end; zero keeps no digit. -/
def significant (d : Decimal) : List Char :=
  ((Nat.toDigits 10 d.digits).reverse.dropWhile (· == '0')).reverse

/-- The number of places before the point, negative when zeros follow the point: the value is
`0.` followed by the significant digits, times ten to this power. -/
def pointPlace (d : Decimal) : Int :=
  (Nat.toDigits 10 d.digits).length + d.exponent

/-- The decimal written without an exponent, and without a point where it is whole. -/
def positional (d : Decimal) : List Char :=
  let digits := d.significant
  if digits = [] then ['0']
  else match d.pointPlace with
    | .ofNat place =>
        if digits.length ≤ place then digits ++ List.replicate (place - digits.length) '0'
        else if place = 0 then '0' :: '.' :: digits
        else digits.take place ++ '.' :: digits.drop place
    | .negSucc zeros => '0' :: '.' :: (List.replicate (zeros + 1) '0' ++ digits)

example : positional ⟨150, -1⟩ = ['1', '5'] ∧ positional ⟨15, -3⟩ = ['0', '.', '0', '1', '5']
    ∧ positional ⟨15, 2⟩ = ['1', '5', '0', '0'] := by decide

end Decimal

namespace Binary64

/-- The text of a number: the shortest digits, never an exponent, and no point in a whole number. -/
def text : Binary64 → String
  | nan => "NaN"
  | infinite negative => if negative then "-inf" else "inf"
  | finite negative rank =>
      let digits := String.ofList (Decimal.shortest .up rank).positional
      if negative then "-" ++ digits else digits

end Binary64

end TableDdl
