import TableDdl.Calendar.DateFormat
import TableDdl.Proofs.Calendar.Date
import TableDdl.Proofs.Number.Numeral
import TableDdl.Proofs.Text.Trim

/-!
# Printed dates are read back

What is printed in one of the three forms is read as what that form shows of the moment:
`Moment.ofText?_print_eq_shown`, where `Moment.shown` is what is left of a moment.

Reading tries day and time, a day alone and a time alone in turn.  A printed time is no day, since a
colon follows its hour (`Date.take?_timeChars`), and behind a printed day nothing is left that could
be a time, so no form is taken for an earlier one.
-/

namespace TableDdl

open Text

variable {cs ds rest : List Char} {n width : Nat}

/-! ## Padded digits -/

/-- Zeros at the front do not change the value of digits. -/
theorem digitsValue_paddedDigits (width n : Nat) : digitsValue (paddedDigits width n) = n := by
  unfold paddedDigits
  simp only
  rw [digitsValue_append, digitsValue_replicate_zero, digitsValue_toDigits, Nat.mul_zero,
    Nat.zero_add]

theorem isDigit_of_mem_paddedDigits {c : Char} (h : c ∈ paddedDigits width n) :
    c.isDigit = true := by
  rcases List.mem_append.1 h with hzero | hdigit
  · rw [List.eq_of_mem_replicate hzero]
    rfl
  · exact forall_isDigit_toDigits n c hdigit

theorem isDigits_paddedDigits (width n : Nat) : isDigits (paddedDigits width n) = true := by
  refine isDigits_iff.2 ⟨?_, fun _ => isDigit_of_mem_paddedDigits⟩
  have hne : Nat.toDigits 10 n ≠ [] := Nat.toDigits_ne_nil
  simp [paddedDigits, hne]

/-- A number that fits into the width fills just that. -/
theorem length_paddedDigits (hwidth : 0 < width) (h : n < 10 ^ width) :
    (paddedDigits width n).length = width := by
  have hlength : (Nat.toDigits 10 n).length ≤ width := by
    exact (Nat.length_toDigits_le_iff (by decide) hwidth).2 h
  simp [paddedDigits]
  omega

/-! ## Reading digits -/

/-- All digits are read if no further one follows and no more are asked for than there are. -/
theorem takeDigits?_of_stop {limit : Option Nat} (hlimit : ∀ n ∈ limit, ds.length ≤ n)
    (hds : isDigits ds = true) (hrest : ∀ c ∈ rest.head?, c.isDigit = false) :
    takeDigits? limit (ds ++ rest) = some (digitsValue ds, rest) := by
  have hspan := Numeral.takeWhile_append_stop Char.isDigit ds rest (isDigits_iff.1 hds).2 hrest
  have hne := (isDigits_iff.1 hds).1
  unfold takeDigits?
  simp only [hspan.1]
  cases limit with
  | none => simp [hne]
  | some n => simp [List.take_of_length_le (hlimit n rfl), hne]

/-- As many digits as are asked for are read, whatever follows. -/
theorem takeDigits?_some (hds : isDigits ds = true) :
    takeDigits? (some ds.length) (ds ++ rest) = some (digitsValue ds, rest) := by
  rcases isDigits_iff.1 hds with ⟨hne, hall⟩
  have htake : ((ds ++ rest).takeWhile Char.isDigit).take ds.length = ds := by
    rw [List.takeWhile_append_of_pos hall, List.take_left']
    rfl
  unfold takeDigits?
  simp only [htake]
  simp [hne]

/-- What begins with digits begins with a digit. -/
theorem isDigit_of_mem_head? (hds : isDigits ds = true) :
    ∀ c ∈ (ds ++ rest).head?, c.isDigit = true := by
  rcases isDigits_iff.1 hds with ⟨hne, hall⟩
  rcases List.exists_cons_of_ne_nil hne with ⟨first, tail, rfl⟩
  intro c hc
  cases hc
  exact hall first List.mem_cons_self

/-- Digits are not blank, so nothing is trimmed in front of them. -/
theorem trimLeft_isDigits (hds : isDigits ds = true) : trimLeft (ds ++ rest) = ds ++ rest :=
  trimLeft_eq_self fun c hc => isBlank_eq_false_of_isDigit (isDigit_of_mem_head? hds c hc)

/-- A number of two digits is taken whole, whatever stands behind it. -/
theorem takeNumber?_paddedDigits (h : n < 100) :
    takeNumber? (paddedDigits 2 n ++ rest) = some (n, rest) := by
  have hdigits := isDigits_paddedDigits 2 n
  have hlength : (paddedDigits 2 n).length = 2 := length_paddedDigits (by decide) h
  have hread : takeDigits? (some (paddedDigits 2 n).length) (paddedDigits 2 n ++ rest) = _ :=
    takeDigits?_some hdigits
  rw [hlength, digitsValue_paddedDigits] at hread
  unfold takeNumber?
  rw [trimLeft_isDigits hdigits, hread]

/-- Where a digit stands, a year has no sign and at most four digits. -/
theorem takeYear?_of_isDigits (hds : isDigits ds = true) :
    takeYear? (ds ++ rest) =
      (takeDigits? (some 4) (ds ++ rest)).map fun read => ((read.1 : Int), read.2) := by
  have hfirst : ∀ sign : Char, sign.isDigit = false → ∀ tail, ds ++ rest ≠ sign :: tail := by
    intro sign hsign tail hcons
    have hdigit := isDigit_of_mem_head? hds sign (by rw [hcons]; rfl)
    rw [hdigit] at hsign
    cases hsign
  unfold takeYear?
  rw [trimLeft_isDigits hds]
  split
  · next tail hminus => exact absurd hminus (hfirst '-' rfl tail)
  · next tail hplus => exact absurd hplus (hfirst '+' rfl tail)
  · rfl

/-- A year is read up to where no digit follows. -/
theorem takeYear?_yearChars (year : Int) (hrest : ∀ c ∈ rest.head?, c.isDigit = false) :
    takeYear? (yearChars year ++ rest) = some (year, rest) := by
  have hdigits := isDigits_paddedDigits 4 year.natAbs
  have hvalue := digitsValue_paddedDigits 4 year.natAbs
  have hall : takeDigits? none (paddedDigits 4 year.natAbs ++ rest) = _ :=
    takeDigits?_of_stop nofun hdigits hrest
  rw [hvalue] at hall
  unfold yearChars
  split
  · next hnegative =>
    have htrim : trimLeft ('-' :: paddedDigits 4 year.natAbs ++ rest) =
        '-' :: (paddedDigits 4 year.natAbs ++ rest) := rfl
    have hyear : -(year.natAbs : Int) = year := by omega
    unfold takeYear?
    rw [htrim]
    simp only [hall, Option.map_some, hyear]
  · next hnonnegative =>
    have hyear : (year.natAbs : Int) = year := by omega
    split
    · next hsmall =>
      have hlength : (paddedDigits 4 year.natAbs).length = 4 :=
        length_paddedDigits (by decide) (by omega)
      rw [takeYear?_of_isDigits hdigits, takeDigits?_of_stop (by simp [hlength]) hdigits hrest,
        hvalue]
      simp only [Option.map_some, hyear]
    · have htrim : trimLeft ('+' :: paddedDigits 4 year.natAbs ++ rest) =
          '+' :: (paddedDigits 4 year.natAbs ++ rest) := rfl
      unfold takeYear?
      rw [htrim]
      simp only [hall, Option.map_some, hyear]

/-! ## Reading dates and times -/

theorem daysInMonth_le (year : Int) (month : Nat) : daysInMonth year month ≤ 31 := by
  have hlengths : ∀ length ∈ monthLengths year, length ≤ 31 := by
    unfold monthLengths
    cases isLeapYear year <;> decide
  unfold daysInMonth
  split
  · decide
  · rw [List.getD_eq_getElem?_getD]
    cases hlength : (monthLengths year)[month - 1]? with
    | none => exact Nat.zero_le _
    | some length => exact hlengths length (List.mem_of_getElem? hlength)

/-- Only the twelve months have days. -/
theorem month_lt_of_daysInMonth_pos {year : Int} {month : Nat} (h : 0 < daysInMonth year month) :
    month < 13 := by
  refine Nat.lt_of_not_le fun hle => ?_
  have hnone : (monthLengths year)[month - 1]? = none := by
    refine List.getElem?_eq_none ?_
    have hlength : (monthLengths year).length = 12 := rfl
    omega
  unfold daysInMonth at h
  rw [List.getD_eq_getElem?_getD, hnone] at h
  split at h <;> exact absurd h (by decide)

/-- A date is taken back from the front of a text. -/
theorem Date.take?_chars (d : Date) (rest : List Char) :
    Date.take? (d.chars ++ rest) = some (d, rest) := by
  have hday := d.day_mem
  have hmonth : d.month < 100 := by
    have hlt := month_lt_of_daysInMonth_pos (Nat.lt_of_lt_of_le Nat.one_pos (hday.1.trans hday.2))
    omega
  have hdayLt : d.day < 100 := by
    have hle := daysInMonth_le d.year d.month
    omega
  have hdate : Date.ofYearMonthDay? d.year d.month d.day = some d :=
    Date.ofYearMonthDay?_eq_some_iff.2 ⟨rfl, rfl, rfl⟩
  have hyear : ∀ tail, takeYear? (yearChars d.year ++ '-' :: tail) = some (d.year, '-' :: tail) :=
    fun _ => takeYear?_yearChars d.year (by simp)
  unfold Date.take? Date.chars
  simp only [List.append_assoc, List.cons_append, hyear, Option.bind_eq_bind, Option.bind_some,
    takeChar?, if_true, takeNumber?_paddedDigits hmonth, takeNumber?_paddedDigits hdayLt, hdate]
  rfl

/-- A time is taken back from the front of a text. -/
theorem TimeOfDay.take?_chars (t : TimeOfDay) (rest : List Char) :
    TimeOfDay.take? (t.chars ++ rest) = some (t, rest) := by
  have hhour : t.hour < 100 := t.hour_lt.trans (by decide)
  have hminute : t.minute < 100 := t.minute_lt.trans (by decide)
  have hsecond : t.second < 100 := Nat.lt_of_le_of_lt t.second_le (by decide)
  have htime : TimeOfDay.ofHourMinuteSecond? t.hour t.minute t.second = some t := by
    unfold ofHourMinuteSecond?
    rw [dif_pos ⟨t.hour_lt, t.minute_lt, t.second_le⟩]
  unfold TimeOfDay.take? TimeOfDay.chars
  simp only [List.append_assoc, List.cons_append, Option.bind_eq_bind, Option.bind_some,
    takeChar?, if_true, takeNumber?_paddedDigits hhour, takeNumber?_paddedDigits hminute,
    takeNumber?_paddedDigits hsecond, htime]
  rfl

/-- Where a time stands, no date can be read: behind the hour is no hyphen. -/
theorem Date.take?_timeChars (t : TimeOfDay) : Date.take? t.chars = none := by
  have hdigits := isDigits_paddedDigits 2 t.hour
  have hlength : (paddedDigits 2 t.hour).length ≤ 4 :=
    (length_paddedDigits (by decide) (t.hour_lt.trans (by decide))).trans_le (by decide)
  have hyear : takeYear? t.chars = some ((t.hour : Int),
      ':' :: (paddedDigits 2 t.minute ++ ':' :: paddedDigits 2 t.second)) := by
    have hchars : t.chars = paddedDigits 2 t.hour ++
        ':' :: (paddedDigits 2 t.minute ++ ':' :: paddedDigits 2 t.second) := by
      simp [TimeOfDay.chars]
    rw [hchars, takeYear?_of_isDigits hdigits,
      takeDigits?_of_stop (by simpa using hlength) hdigits (by simp), digitsValue_paddedDigits]
    rfl
  unfold Date.take?
  rw [hyear]
  rfl

/-! ## Characters of dates and times -/

theorem isBlank_eq_false_of_mem_paddedDigits {c : Char} (h : c ∈ paddedDigits width n) :
    isBlank c = false :=
  isBlank_eq_false_of_isDigit (isDigit_of_mem_paddedDigits h)

theorem isBlank_eq_false_of_mem_dateChars {d : Date} {c : Char} (h : c ∈ d.chars) :
    isBlank c = false := by
  have hyear : ∀ c ∈ yearChars d.year, isBlank c = false := by
    intro c hc
    have hdigits : ∀ sign : Char, isBlank sign = false →
        ∀ c ∈ sign :: paddedDigits 4 d.year.natAbs, isBlank c = false := by
      intro sign hsign
      exact List.forall_mem_cons.2 ⟨hsign, fun _ => isBlank_eq_false_of_mem_paddedDigits⟩
    unfold yearChars at hc
    split at hc
    · exact hdigits '-' rfl c hc
    · split at hc
      · exact isBlank_eq_false_of_mem_paddedDigits hc
      · exact hdigits '+' rfl c hc
  simp only [Date.chars, List.mem_append, List.mem_cons] at h
  rcases h with ((hc | rfl | hc)) | rfl | hc
  · exact hyear c hc
  · rfl
  · exact isBlank_eq_false_of_mem_paddedDigits hc
  · rfl
  · exact isBlank_eq_false_of_mem_paddedDigits hc

theorem isBlank_eq_false_of_mem_timeChars {t : TimeOfDay} {c : Char} (h : c ∈ t.chars) :
    isBlank c = false := by
  simp only [TimeOfDay.chars, List.mem_append, List.mem_cons] at h
  rcases h with (hc | rfl | hc) | rfl | hc
  · exact isBlank_eq_false_of_mem_paddedDigits hc
  · rfl
  · exact isBlank_eq_false_of_mem_paddedDigits hc
  · rfl
  · exact isBlank_eq_false_of_mem_paddedDigits hc

theorem trimLeft_timeChars (t : TimeOfDay) : trimLeft t.chars = t.chars :=
  trimLeft_eq_self fun _ hc => isBlank_eq_false_of_mem_timeChars (List.mem_of_mem_head? hc)

/-! ## Moments -/

namespace Moment

/-- What a format shows of a moment: a day alone is its midnight, and a time alone is one of the
first of January 1970. -/
def shown (m : Moment) : DateFormat → Moment
  | .dateTime => m
  | .date => ⟨m.date, TimeOfDay.midnight⟩
  | .time => ⟨Date.epoch, m.time⟩

/-- What a format leaves out does not show in the text. -/
theorem print_shown (m : Moment) (format : DateFormat) :
    (m.shown format).print format = m.print format := by
  cases format <;> rfl

/-- A time that is the whole text leaves nothing behind it. -/
theorem bind_atEnd?_take?_chars (t : TimeOfDay) :
    (TimeOfDay.take? t.chars).bind atEnd? = some t := by
  have hread := TimeOfDay.take?_chars t []
  rw [List.append_nil] at hread
  rw [hread]
  rfl

/-- The text of a moment reads back as what its format shows of it. -/
theorem ofChars?_chars (m : Moment) (format : DateFormat) :
    ofChars? (m.chars format) = some (m.shown format) := by
  cases format with
  | dateTime =>
    have htrim : trimLeft (' ' :: m.time.chars) = m.time.chars := trimLeft_timeChars m.time
    have hfirst : ofParts? (fun rest => some (trimLeft rest))
        (m.date.chars ++ ' ' :: m.time.chars) = some m := by
      unfold ofParts?
      simp only [Date.take?_chars, Option.bind_eq_bind, Option.bind_some, htrim,
        bind_atEnd?_take?_chars]
      rfl
    unfold ofChars? chars
    simp only [hfirst]
    rfl
  | date =>
    have hread := Date.take?_chars m.date []
    rw [List.append_nil] at hread
    have hfirst : ofParts? (fun rest => some (trimLeft rest)) m.date.chars = none := by
      unfold ofParts?
      simp only [hread]
      rfl
    have hsecond : ofParts? (takeChar? 'T') m.date.chars = none := by
      unfold ofParts?
      simp only [hread]
      rfl
    unfold ofChars? chars
    simp only [hfirst, hsecond, hread]
    rfl
  | time =>
    have hread := Date.take?_timeChars m.time
    have hparts : ∀ separator, ofParts? separator m.time.chars = none := by
      intro separator
      unfold ofParts?
      rw [hread]
      rfl
    unfold ofChars? chars
    simp only [hparts, hread, bind_atEnd?_take?_chars]
    rfl

/-- The text of a moment neither begins nor ends with a blank. -/
theorem trimChars_chars (m : Moment) (format : DateFormat) :
    trimChars (m.chars format) = m.chars format := by
  have hdate : ∀ c ∈ m.date.chars, isBlank c = false := fun _ => isBlank_eq_false_of_mem_dateChars
  have htime : ∀ c ∈ m.time.chars, isBlank c = false := fun _ => isBlank_eq_false_of_mem_timeChars
  cases format with
  | dateTime =>
    -- The blank in the middle is at neither end.
    refine trimChars_eq_self ?_ ?_
    · intro c hc
      have hne : m.date.chars ≠ [] := by simp [Date.chars]
      rcases List.exists_cons_of_ne_nil hne with ⟨first, tail, hchars⟩
      rw [chars, hchars] at hc
      cases hc
      exact hdate c (by rw [hchars]; exact List.mem_cons_self)
    · intro c hc
      have hne : m.time.chars ≠ [] := by simp [TimeOfDay.chars]
      have hlast : (m.date.chars ++ ' ' :: m.time.chars).getLast? = m.time.chars.getLast? := by
        rw [List.append_cons, List.getLast?_append, List.getLast?_eq_some_getLast hne]
        rfl
      rw [chars, hlast] at hc
      exact htime c (List.mem_of_mem_getLast? hc)
  | date =>
    exact trimChars_eq_self (fun c hc => hdate c (List.mem_of_mem_head? hc))
      fun c hc => hdate c (List.mem_of_mem_getLast? hc)
  | time =>
    exact trimChars_eq_self (fun c hc => htime c (List.mem_of_mem_head? hc))
      fun c hc => htime c (List.mem_of_mem_getLast? hc)

/-- A printed moment is read as what its format shows of it. -/
theorem ofText?_print_eq_shown (m : Moment) (format : DateFormat) :
    ofText? (m.print format) = some (m.shown format) := by
  unfold ofText? print
  rw [String.toList_ofList, trimChars_chars, ofChars?_chars]

end Moment

end TableDdl
