import Mathlib.Tactic.Ring
import TableDdl.Number.Numeral

/-!
# Numerals from their parts

* `isNumeralChar`: the characters of which numerals consist;
* `BareNumber`: the grammar of numbers in free text, and `BareNumber.of_isDecimal`: what is taken for
  a number obeys it;
* `Numeral.chars`: the text of a numeral, and `Numeral.ofChars_chars`: cutting it gives the numeral
  back;
* the value of digits with zeros at either end.
-/

namespace TableDdl

/-! ## The characters of a numeral -/

def isNumeralChar (c : Char) : Bool :=
  c.isDigit || c == '+' || c == '-' || c == '.' || Numeral.isExponentMark c

def NumeralText (cs : List Char) : Prop :=
  ∀ c ∈ cs, isNumeralChar c = true

variable {cs ds : List Char}

theorem NumeralText.append (hcs : NumeralText cs) (hds : NumeralText ds) :
    NumeralText (cs ++ ds) := by
  intro c hc
  rcases List.mem_append.1 hc with h | h
  · exact hcs c h
  · exact hds c h

theorem NumeralText.cons {c : Char} (hc : isNumeralChar c = true) (hcs : NumeralText cs) :
    NumeralText (c :: cs) := by
  intro x hx
  rcases List.mem_cons.1 hx with rfl | hx
  · exact hc
  · exact hcs x hx

theorem NumeralText.of_isDigit (h : ∀ c ∈ cs, c.isDigit = true) : NumeralText cs := by
  intro c hc
  simp [isNumeralChar, h c hc]

theorem forall_isDigit_of_isDigits (h : isDigits cs = true) : ∀ c ∈ cs, c.isDigit = true := by
  simpa [isDigits] using (Bool.and_eq_true_iff.1 h).2

theorem forall_isDigit_toDigits (n : Nat) : ∀ c ∈ Nat.toDigits 10 n, c.isDigit = true :=
  fun _ hc => Nat.isDigit_of_mem_toDigits (by decide) (by decide) hc

theorem isDigits_iff : isDigits cs = true ↔ cs ≠ [] ∧ ∀ c ∈ cs, c.isDigit = true := by
  simp [isDigits]

/-! ## The grammar of numbers in free text -/

inductive IsSign : List Char → Prop where
  | none : IsSign []
  | plus : IsSign ['+']
  | minus : IsSign ['-']

/-- Digits, with a point at most in front of them, among them or behind them. -/
inductive IsMantissa : List Char → Prop where
  | whole {ds : List Char} (digits : isDigits ds = true) : IsMantissa ds
  | pointed {ds fs : List Char} (digits : isDigits ds = true)
      (fraction : ∀ c ∈ fs, c.isDigit = true) : IsMantissa (ds ++ '.' :: fs)
  | fraction {fs : List Char} (digits : isDigits fs = true) : IsMantissa ('.' :: fs)

inductive IsPower : List Char → Prop where
  | none : IsPower []
  | some {mark : Char} {sign ds : List Char} (isMark : mark = 'e' ∨ mark = 'E')
      (isSign : IsSign sign) (digits : isDigits ds = true) : IsPower (mark :: (sign ++ ds))

/-- A number in free text: a sign, a mantissa and a power of ten. -/
inductive BareNumber : List Char → Prop where
  | mk {sign mantissa power : List Char} (isSign : IsSign sign) (isMantissa : IsMantissa mantissa)
      (isPower : IsPower power) : BareNumber (sign ++ (mantissa ++ power))

/-- What is split off is a sign or nothing. -/
theorem exists_sign_splitSign (cs : List Char) :
    ∃ sign, IsSign sign ∧ cs = sign ++ (splitSign cs).2 := by
  unfold splitSign
  split
  · exact ⟨['+'], .plus, rfl⟩
  · exact ⟨['-'], .minus, rfl⟩
  · exact ⟨[], .none, rfl⟩

theorem isDigits_splitSign_of_integer? (h : (integer? cs).isSome = true) :
    isDigits (splitSign cs).2 = true := by
  unfold integer? at h
  simp only at h
  split at h
  · assumption
  · cases h

/-- Digits that a point divides into two runs are a mantissa, even if one of the runs is empty. -/
theorem IsMantissa.of_point
    (h : isDigits (cs.takeWhile (· != '.') ++ (cs.dropWhile (· != '.')).tail) = true) :
    IsMantissa cs := by
  have hsplit := List.takeWhile_append_dropWhile (p := (· != '.')) (l := cs)
  have hhead := List.head?_dropWhile_not (· != '.') cs
  have hdigits := forall_isDigit_of_isDigits h
  cases hdrop : cs.dropWhile (· != '.') with
  | nil =>
    rw [hdrop, List.append_nil] at hsplit
    rw [hdrop, List.tail_nil, List.append_nil, hsplit] at h
    exact .whole h
  | cons point fs =>
    rw [hdrop] at hsplit hhead hdigits
    have hpoint : point = '.' := by simpa using hhead
    have hfraction : ∀ c ∈ fs, c.isDigit = true :=
      fun c hc => hdigits c (List.mem_append_right _ hc)
    rw [← hsplit, hpoint]
    by_cases hempty : cs.takeWhile (· != '.') = []
    · rw [hdrop, hempty] at h
      rw [hempty]
      exact .fraction h
    · have hwhole : ∀ c ∈ cs.takeWhile (· != '.'), c.isDigit = true :=
        fun c hc => hdigits c (List.mem_append_left _ hc)
      exact .pointed (isDigits_iff.2 ⟨hempty, hwhole⟩) hfraction

/-- Behind a mark stands a power of ten. -/
theorem IsPower.of_integer? {mark : Char} (hmark : Numeral.isExponentMark mark = true)
    (h : (integer? cs).isSome = true) : IsPower (mark :: cs) := by
  rcases exists_sign_splitSign cs with ⟨sign, hsign, hcs⟩
  rw [hcs]
  exact .some (by simpa [Numeral.isExponentMark] using hmark) hsign
    (isDigits_splitSign_of_integer? h)

/-- A numeral in the decimal form is a number. -/
theorem BareNumber.of_isDecimal (h : (Numeral.ofChars cs).isDecimal = true) : BareNumber cs := by
  rcases exists_sign_splitSign cs with ⟨sign, hsign, hcs⟩
  have hsplit := List.takeWhile_append_dropWhile (p := fun c => !Numeral.isExponentMark c)
    (l := (splitSign cs).2)
  have hmantissa : IsMantissa ((splitSign cs).2.takeWhile fun c => !Numeral.isExponentMark c) := by
    have hdigits : isDigits (Numeral.ofChars cs).mantissa = true := (Bool.and_eq_true_iff.1 h).1
    refine .of_point ?_
    -- The fraction is what follows the point; without a point there is nothing to follow it.
    have hfraction : (Numeral.ofChars cs).fraction.getD [] =
        (((splitSign cs).2.takeWhile fun c => !Numeral.isExponentMark c).dropWhile
          (· != '.')).tail := by
      unfold Numeral.ofChars
      simp only
      split
      · next hdrop =>
        rw [hdrop]
        rfl
      · next hdrop =>
        rw [hdrop]
        rfl
    rw [← hfraction]
    exact hdigits
  have hpower : IsPower ((splitSign cs).2.dropWhile fun c => !Numeral.isExponentMark c) := by
    have hexponent : (Numeral.ofChars cs).hasExponent = true := (Bool.and_eq_true_iff.1 h).2
    have hhead := List.head?_dropWhile_not (fun c => !Numeral.isExponentMark c) (splitSign cs).2
    cases hdrop : (splitSign cs).2.dropWhile fun c => !Numeral.isExponentMark c with
    | nil => exact .none
    | cons mark rest =>
      rw [hdrop] at hhead
      have hsome : (Numeral.ofChars cs).exponent = some rest := by
        simp [Numeral.ofChars, hdrop]
      rw [Numeral.hasExponent, hsome] at hexponent
      exact .of_integer? (by simpa using hhead) hexponent
  rw [hcs, ← hsplit]
  exact .mk hsign hmantissa hpower

theorem IsSign.numeralText (h : IsSign cs) : NumeralText cs := by
  cases h with
  | none => exact NumeralText.of_isDigit nofun
  | plus => exact NumeralText.cons rfl (NumeralText.of_isDigit nofun)
  | minus => exact NumeralText.cons rfl (NumeralText.of_isDigit nofun)

theorem NumeralText.of_isDigits (h : isDigits cs = true) : NumeralText cs :=
  .of_isDigit (forall_isDigit_of_isDigits h)

theorem IsMantissa.numeralText (h : IsMantissa cs) : NumeralText cs := by
  cases h with
  | whole digits => exact .of_isDigits digits
  | pointed digits fraction =>
    exact (NumeralText.of_isDigits digits).append ((NumeralText.of_isDigit fraction).cons rfl)
  | fraction digits => exact (NumeralText.of_isDigits digits).cons rfl

theorem IsPower.numeralText (h : IsPower cs) : NumeralText cs := by
  cases h with
  | none => exact NumeralText.of_isDigit nofun
  | some isMark isSign digits =>
    refine (isSign.numeralText.append (.of_isDigits digits)).cons ?_
    rcases isMark with rfl | rfl <;> rfl

/-- A number has only the characters of numerals. -/
theorem BareNumber.numeralText (h : BareNumber cs) : NumeralText cs := by
  rcases h with ⟨isSign, isMantissa, isPower⟩
  exact isSign.numeralText.append (isMantissa.numeralText.append isPower.numeralText)

/-! ## Numerals as text -/

namespace Numeral

def chars (n : Numeral) : List Char :=
  n.sign.toList ++ (n.whole ++ (n.fraction.elim [] fun cs => '.' :: cs)
    ++ n.exponent.elim [] fun cs => 'e' :: cs)

/-- The parts are such that the text can be cut into them again. -/
structure IsSpelled (n : Numeral) : Prop where
  sign : n.sign = none ∨ n.sign = some '-'
  whole : isDigits n.whole = true
  fraction : ∀ cs ∈ n.fraction, isDigits cs = true

theorem takeWhile_append_stop (p : Char → Bool) (cs ds : List Char) (hcs : ∀ c ∈ cs, p c = true)
    (hds : ∀ c ∈ ds.head?, p c = false) :
    (cs ++ ds).takeWhile p = cs ∧ (cs ++ ds).dropWhile p = ds := by
  rw [List.takeWhile_append_of_pos hcs, List.dropWhile_append_of_pos hcs]
  cases ds with
  | nil => simp
  | cons d ds =>
    have hd := hds d rfl
    simp [hd]

theorem isDigit_ne {c x : Char} (hc : c.isDigit = true) (hx : x.isDigit = false) : c ≠ x := by
  rintro rfl
  rw [hc] at hx
  cases hx

/-- Digits in front of the rest show where the sign ends. -/
theorem splitSign_append_digits {sign : Option Char} (hsign : sign = none ∨ sign = some '-')
    {body : List Char} (hbody : ∀ c ∈ body.head?, c.isDigit = true) :
    splitSign (sign.toList ++ body) = (sign, body) := by
  rcases hsign with rfl | rfl
  · cases body with
    | nil => rfl
    | cons c rest =>
      have hc := hbody c rfl
      have hplus := isDigit_ne hc (rfl : '+'.isDigit = false)
      have hminus := isDigit_ne hc (rfl : '-'.isDigit = false)
      rw [Option.toList_none, List.nil_append]
      unfold splitSign
      split
      · next heq =>
        cases heq
        exact absurd rfl hplus
      · next heq =>
        cases heq
        exact absurd rfl hminus
      · rfl
  · rfl

/-- A numeral is read back from its characters. -/
theorem ofChars_chars {n : Numeral} (h : n.IsSpelled) : ofChars n.chars = n := by
  have hwhole := forall_isDigit_of_isDigits h.whole
  have hsign : splitSign n.chars = (n.sign, n.whole ++ (n.fraction.elim [] fun cs => '.' :: cs)
      ++ n.exponent.elim [] fun cs => 'e' :: cs) := by
    refine splitSign_append_digits h.sign ?_
    intro c hc
    cases hcs : n.whole with
    | nil =>
      have hempty := h.whole
      rw [hcs] at hempty
      cases hempty
    | cons first rest =>
      rw [hcs] at hc hwhole
      have hfirst : first = c := Option.some.inj hc
      exact hwhole c (hfirst ▸ List.mem_cons_self)
  -- No digit is a mark, so the first mark is the one between two parts.
  have hnotMark : ∀ c, c.isDigit = true → isExponentMark c = false := by
    intro c hc
    have hlower := isDigit_ne hc (rfl : 'e'.isDigit = false)
    have hupper := isDigit_ne hc (rfl : 'E'.isDigit = false)
    simp [isExponentMark, hlower, hupper]
  have hmantissa : ∀ c ∈ n.whole ++ (n.fraction.elim [] fun cs => '.' :: cs),
      (!isExponentMark c) = true := by
    intro c hc
    rcases List.mem_append.1 hc with hc | hc
    · rw [hnotMark c (hwhole c hc)]
      rfl
    · cases hfraction : n.fraction with
      | none => simp [hfraction] at hc
      | some cs =>
        rw [hfraction] at hc
        rcases List.mem_cons.1 hc with rfl | hc
        · rfl
        · rw [hnotMark c (forall_isDigit_of_isDigits (h.fraction cs hfraction) c hc)]
          rfl
  have hnotPoint : ∀ c ∈ n.whole, (c != '.') = true := by
    intro c hc
    simpa using isDigit_ne (hwhole c hc) (rfl : '.'.isDigit = false)
  have hexponent := takeWhile_append_stop (fun c => !isExponentMark c) _
    (n.exponent.elim [] fun cs => 'e' :: cs) hmantissa
    (by cases n.exponent <;> simp [isExponentMark])
  have hpoint := takeWhile_append_stop (· != '.') n.whole
    (n.fraction.elim [] fun cs => '.' :: cs) hnotPoint (by cases n.fraction <;> simp)
  unfold ofChars
  rw [hsign]
  simp only [hexponent.1, hexponent.2, hpoint.1, hpoint.2]
  rcases n with ⟨sign, whole, fraction, exponent⟩
  cases fraction <;> cases exponent <;> rfl

end Numeral

/-! ## Digits -/

/-- Digits behind others shift these by their number. -/
theorem digitsValue_append (cs ds : List Char) :
    digitsValue (cs ++ ds) = 10 ^ ds.length * digitsValue cs + digitsValue ds := by
  unfold digitsValue
  rw [Nat.ofDigitChars_append, Nat.ofDigitChars_eq_ofDigitChars_zero]

theorem digitsValue_replicate_zero (n : Nat) : digitsValue (List.replicate n '0') = 0 := by
  simp [digitsValue]

/-- The digits of a number have its value. -/
theorem digitsValue_toDigits (n : Nat) : digitsValue (Nat.toDigits 10 n) = n :=
  Nat.ofDigitChars_ten_toDigits

theorem isDigits_toDigits (n : Nat) : isDigits (Nat.toDigits 10 n) = true := by
  have hne : Nat.toDigits 10 n ≠ [] := Nat.toDigits_ne_nil
  simpa [isDigits, hne] using forall_isDigit_toDigits n

/-- A number that is not zero is written without a zero in front. -/
theorem head?_toDigits_ne {n : Nat} (hn : 0 < n) : (Nat.toDigits 10 n).head? ≠ some '0' := by
  induction n using Nat.strongRecOn with
  | ind n ih =>
    -- The first digit of a number is that of its tenth, down to a single digit.
    by_cases hsmall : n < 10
    · rw [Nat.toDigits_of_lt_base hsmall]
      have hdigit : ∀ m < 10, 0 < m → Nat.digitChar m ≠ '0' := by decide
      simpa using hdigit n hsmall hn
    · have hlarge : 10 ≤ n := Nat.le_of_not_lt hsmall
      have hrest := ih (n / 10) (by omega) (by omega)
      have hne : Nat.toDigits 10 (n / 10) ≠ [] := Nat.toDigits_ne_nil
      rw [Nat.toDigits_of_base_le (by decide) hlarge, List.head?_append]
      cases hdigits : Nat.toDigits 10 (n / 10) with
      | nil => exact absurd hdigits hne
      | cons c cs =>
        rw [hdigits] at hrest
        exact hrest

/-- Where no digit follows, the digits show the number and where it ends. -/
theorem toDigits_append_inj {m n : Nat} {cs ds : List Char}
    (hcs : ∀ c ∈ cs.head?, c.isDigit = false) (hds : ∀ c ∈ ds.head?, c.isDigit = false)
    (h : Nat.toDigits 10 m ++ cs = Nat.toDigits 10 n ++ ds) : m = n ∧ cs = ds := by
  have hm := Numeral.takeWhile_append_stop Char.isDigit _ cs (forall_isDigit_toDigits m) hcs
  have hn := Numeral.takeWhile_append_stop Char.isDigit _ ds (forall_isDigit_toDigits n) hds
  rw [h] at hm
  have hdigits : Nat.toDigits 10 m = Nat.toDigits 10 n := hm.1.symm.trans hn.1
  refine ⟨?_, hm.2.symm.trans hn.2⟩
  rw [← digitsValue_toDigits m, hdigits, digitsValue_toDigits]

end TableDdl
