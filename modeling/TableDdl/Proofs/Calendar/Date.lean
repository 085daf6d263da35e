import TableDdl.Calendar.Date

/-!
# Counting days and seconds

The calendar and the count of its days are inverse to each other.

* `Date.ofDayNumber?_eq_some_iff`: the date of a day number is the only one with that number;
* `Date.exists_dayNumber_eq_iff`: the day numbers that have a date;
* `Moment.ofTimestamp?_eq_some_iff`, `Moment.exists_ofTimestamp?_iff`: the same for the moments and
  their timestamps, among which leap seconds have none.
-/

namespace TableDdl

/-! ## Years -/

/-- Every fourth year is a leap year, but of the full centuries only every fourth. -/
theorem isLeapYear_iff {year : Int} :
    isLeapYear year = true ↔ year % 4 = 0 ∧ (year % 100 ≠ 0 ∨ year % 400 = 0) := by
  simp [isLeapYear]

/-- A year has 365 days, and a leap year one more. -/
theorem daysBeforeYear_succ (year : Int) :
    daysBeforeYear (year + 1) = daysBeforeYear year + if isLeapYear year then 366 else 365 := by
  have hleap := @isLeapYear_iff year
  unfold daysBeforeYear
  split
  · next h =>
    have := hleap.1 h
    omega
  · next h =>
    have := mt hleap.2 h
    omega

/-- The years begin where the mean length of a year puts them, up to two days. -/
theorem daysBeforeYear_bounds (year : Int) :
    146097 * year - 400 < 400 * daysBeforeYear year ∧
      400 * daysBeforeYear year < 146097 * year + 800 := by
  unfold daysBeforeYear
  omega

/-- The year of a day has begun, and the next one has not. -/
theorem yearOfDay_spec (day : Int) :
    daysBeforeYear (yearOfDay day) ≤ day ∧ day < daysBeforeYear (yearOfDay day + 1) := by
  unfold yearOfDay
  simp only
  have hguess : 146097 * (400 * day / 146097) ≤ 400 * day ∧
      400 * day < 146097 * (400 * day / 146097) + 146097 := by
    omega
  generalize 400 * day / 146097 = guess at hguess ⊢
  -- The guess is at most one year off.
  have hbefore := daysBeforeYear_bounds (guess - 1)
  have hafter := daysBeforeYear_bounds (guess + 1 + 1)
  split
  · next hearly =>
    rw [Int.sub_add_cancel]
    exact ⟨by omega, hearly⟩
  · next hnotEarly =>
    split
    · next hlate => exact ⟨hlate, by omega⟩
    · next hnotLate => exact ⟨Int.not_lt.1 hnotEarly, Int.not_le.1 hnotLate⟩

theorem daysBeforeYear_le {year year' : Int} (h : year ≤ year') :
    daysBeforeYear year ≤ daysBeforeYear year' := by
  unfold daysBeforeYear
  omega

/-- A day that lies within a year belongs to it. -/
theorem yearOfDay_eq {day year : Int} (hfrom : daysBeforeYear year ≤ day)
    (hto : day < daysBeforeYear (year + 1)) : yearOfDay day = year := by
  rcases yearOfDay_spec day with ⟨hlower, hupper⟩
  rcases Int.lt_trichotomy (yearOfDay day) year with hlt | heq | hgt
  · have hle := daysBeforeYear_le (Int.add_one_le_of_lt hlt)
    omega
  · exact heq
  · have hle := daysBeforeYear_le (Int.add_one_le_of_lt hgt)
    omega

/-! ## Months -/

/-- The number of days of some months together. -/
def daysOf (lengths : List Nat) : Nat :=
  lengths.foldl (· + ·) 0

@[simp] theorem daysOf_nil : daysOf [] = 0 :=
  rfl

@[simp] theorem daysOf_cons (length : Nat) (lengths : List Nat) :
    daysOf (length :: lengths) = length + daysOf lengths := by
  unfold daysOf
  rw [List.foldl_cons, Nat.add_comm 0 length, List.foldl_assoc]

/-- The day `k` of the month `i` lies behind the days of the months before. -/
theorem placeInMonths_eq {lengths : List Nat} {i k : Nat} (hk : k < lengths.getD i 0)
    (month : Nat) :
    placeInMonths month (daysOf (lengths.take i) + k) lengths = (month + i, k + 1) := by
  induction lengths generalizing i month with
  | nil => simp at hk
  | cons length lengths ih =>
    cases i with
    | zero =>
      have hlt : k < length := by simpa using hk
      simp [placeInMonths, hlt]
    | succ i =>
      have hrest : length + daysOf (lengths.take i) + k - length = daysOf (lengths.take i) + k := by
        omega
      have hnot : ¬length + daysOf (lengths.take i) + k < length := by omega
      calc
        placeInMonths month (daysOf ((length :: lengths).take (i + 1)) + k) (length :: lengths)
            = placeInMonths (month + 1) (daysOf (lengths.take i) + k) lengths := by
              rw [List.take_succ_cons, daysOf_cons, placeInMonths, if_neg hnot, hrest]
        _ = (month + 1 + i, k + 1) := ih (by simpa using hk) (month + 1)
        _ = (month + (i + 1), k + 1) := by
              rw [Nat.add_assoc, Nat.add_comm 1 i]

/-- A day of a month lies before the end of all the months. -/
theorem daysOf_take_add_lt {lengths : List Nat} {i k : Nat} (hk : k < lengths.getD i 0) :
    daysOf (lengths.take i) + k < daysOf lengths := by
  induction lengths generalizing i with
  | nil => simp at hk
  | cons length lengths ih =>
    cases i with
    | zero =>
      have hlt : k < length := by simpa using hk
      simp
      omega
    | succ i =>
      have hrest := ih (i := i) (by simpa using hk)
      simp
      omega

/-- Every day lies in one of the months. -/
theorem exists_daysOf_take_add {lengths : List Nat} {offset : Nat} (h : offset < daysOf lengths) :
    ∃ i k, k < lengths.getD i 0 ∧ offset = daysOf (lengths.take i) + k := by
  induction lengths generalizing offset with
  | nil => simp at h
  | cons length lengths ih =>
    by_cases hlt : offset < length
    · exact ⟨0, offset, by simpa using hlt, by simp⟩
    · have hrest : offset - length < daysOf lengths := by
        rw [daysOf_cons] at h
        omega
      rcases ih hrest with ⟨i, k, hk, hoffset⟩
      refine ⟨i + 1, k, by simpa using hk, ?_⟩
      rw [List.take_succ_cons, daysOf_cons]
      omega

/-- The months of a year make up the year. -/
theorem daysOf_monthLengths (year : Int) :
    (daysOf (monthLengths year) : Int) = if isLeapYear year then 366 else 365 := by
  unfold monthLengths
  cases isLeapYear year <;> rfl

/-- The days before a month are those of the months before it. -/
theorem daysBeforeMonth_eq (year : Int) (month : Nat) :
    daysBeforeMonth year month = daysOf ((monthLengths year).take (month - 1)) :=
  rfl

/-! ## Dates -/

namespace Date

/-- A date is made of nothing but its three numbers. -/
theorem ofYearMonthDay?_eq_some_iff {year : Int} {month day : Nat} {d : Date} :
    ofYearMonthDay? year month day = some d ↔ d.year = year ∧ d.month = month ∧ d.day = day := by
  unfold ofYearMonthDay?
  constructor
  · intro h
    split at h
    · split at h
      · cases h
        exact ⟨rfl, rfl, rfl⟩
      · cases h
    · cases h
  · rintro ⟨rfl, rfl, rfl⟩
    rw [dif_pos d.year_mem, dif_pos d.day_mem]

/-- A date is a day of one of the twelve months. -/
theorem day_lt (d : Date) :
    d.month ≠ 0 ∧ d.day - 1 < (monthLengths d.year).getD (d.month - 1) 0 := by
  have hday := d.day_mem
  unfold daysInMonth at hday
  split at hday
  · omega
  · next hmonth => exact ⟨hmonth, by omega⟩

/-- The number of a day counts the days of the years before, of the months before, and of the month.
-/
theorem dayNumber_eq (d : Date) :
    d.dayNumber = daysBeforeYear d.year +
      (daysOf ((monthLengths d.year).take (d.month - 1)) + (d.day - 1) : Nat) := by
  have hday := d.day_mem.1
  unfold dayNumber
  rw [daysBeforeMonth_eq]
  omega

/-- A date lies between the beginnings of its year and of the next one. -/
theorem dayNumber_mem (d : Date) :
    daysBeforeYear d.year ≤ d.dayNumber ∧ d.dayNumber < daysBeforeYear (d.year + 1) := by
  have hlt := daysOf_take_add_lt d.day_lt.2
  have hlength := daysOf_monthLengths d.year
  rw [dayNumber_eq, daysBeforeYear_succ]
  omega

/-- The number of a date gives it back. -/
theorem ofDayNumber?_dayNumber (d : Date) : ofDayNumber? d.dayNumber = some d := by
  have hyear : yearOfDay d.dayNumber = d.year := yearOfDay_eq d.dayNumber_mem.1 d.dayNumber_mem.2
  have hoffset : (d.dayNumber - daysBeforeYear d.year).toNat =
      daysOf ((monthLengths d.year).take (d.month - 1)) + (d.day - 1) := by
    rw [dayNumber_eq]
    omega
  have hday := d.day_mem.1
  have hmonth := d.day_lt.1
  unfold ofDayNumber?
  simp only [hyear, hoffset, placeInMonths_eq d.day_lt.2]
  rw [ofYearMonthDay?_eq_some_iff]
  exact ⟨rfl, by omega, by omega⟩

/-- Every day lies in a month of its year. -/
theorem exists_place (number : Int) :
    ∃ i k, k < (monthLengths (yearOfDay number)).getD i 0 ∧
      number = daysBeforeYear (yearOfDay number) +
        (daysOf ((monthLengths (yearOfDay number)).take i) + k : Nat) := by
  rcases yearOfDay_spec number with ⟨hfrom, hto⟩
  have hlength := daysOf_monthLengths (yearOfDay number)
  rw [daysBeforeYear_succ] at hto
  have hoffset : (number - daysBeforeYear (yearOfDay number)).toNat <
      daysOf (monthLengths (yearOfDay number)) := by
    omega
  rcases exists_daysOf_take_add hoffset with ⟨i, k, hk, hplace⟩
  exact ⟨i, k, hk, by omega⟩

/-- A date that is made from a number has it. -/
theorem dayNumber_of_ofDayNumber? {number : Int} {d : Date} (h : ofDayNumber? number = some d) :
    d.dayNumber = number := by
  rcases exists_place number with ⟨i, k, hk, hnumber⟩
  have hoffset : (number - daysBeforeYear (yearOfDay number)).toNat =
      daysOf ((monthLengths (yearOfDay number)).take i) + k := by
    omega
  unfold ofDayNumber? at h
  simp only [hoffset, placeInMonths_eq hk, ofYearMonthDay?_eq_some_iff] at h
  rcases h with ⟨hyear, hmonth, hday⟩
  have hindex : d.month - 1 = i := by omega
  have hplace : d.day - 1 = k := by omega
  rw [dayNumber_eq, hyear, hindex, hplace, ← hnumber]

/-- Dates and their numbers correspond to each other. -/
theorem ofDayNumber?_eq_some_iff {number : Int} {d : Date} :
    ofDayNumber? number = some d ↔ d.dayNumber = number := by
  refine ⟨dayNumber_of_ofDayNumber?, ?_⟩
  rintro rfl
  exact ofDayNumber?_dayNumber d

/-- Every day of the years of the calendar has a date. -/
theorem exists_dayNumber_eq_iff {number : Int} :
    (∃ d : Date, d.dayNumber = number) ↔
      daysBeforeYear (-262143) ≤ number ∧ number < daysBeforeYear 262143 := by
  constructor
  · rintro ⟨d, rfl⟩
    have hlower := daysBeforeYear_le d.year_mem.1
    have hupper := daysBeforeYear_le (Int.add_le_add_right d.year_mem.2 1)
    rcases d.dayNumber_mem with ⟨hfrom, hto⟩
    exact ⟨Int.le_trans hlower hfrom, Int.lt_of_lt_of_le hto hupper⟩
  · rintro ⟨hlower, hupper⟩
    rcases yearOfDay_spec number with ⟨hfrom, hto⟩
    have hyear : -262143 ≤ yearOfDay number ∧ yearOfDay number ≤ 262142 := by
      refine ⟨Int.not_lt.1 fun hbelow => ?_, Int.not_lt.1 fun habove => ?_⟩
      · have hle := daysBeforeYear_le (Int.add_one_le_of_lt hbelow)
        omega
      · have hle : daysBeforeYear 262143 ≤ daysBeforeYear (yearOfDay number) :=
          daysBeforeYear_le (Int.add_one_le_of_lt habove)
        omega
    rcases exists_place number with ⟨i, k, hk, hnumber⟩
    have hday : 1 ≤ k + 1 ∧ k + 1 ≤ daysInMonth (yearOfDay number) (i + 1) :=
      ⟨Nat.le_add_left 1 k, hk⟩
    exact ⟨⟨yearOfDay number, i + 1, k + 1, hyear, hday⟩, (dayNumber_eq _).trans hnumber.symm⟩

end Date

/-! ## Times -/

namespace TimeOfDay

def seconds (t : TimeOfDay) : Nat :=
  t.hour * 3600 + t.minute * 60 + t.second

/-- Less than a day of seconds gives a time with this many seconds. -/
theorem seconds_ofSeconds {s : Nat} (h : s < 86400) : (ofSeconds s).seconds = s := by
  unfold seconds ofSeconds
  simp only
  omega

/-- No leap second comes out of a number of seconds. -/
theorem second_ofSeconds_lt (s : Nat) : (ofSeconds s).second < 60 :=
  Nat.mod_lt s (by decide)

/-- A time that is no leap second is told by its seconds. -/
theorem ofSeconds_seconds {t : TimeOfDay} (h : t.second < 60) : ofSeconds t.seconds = t := by
  rcases t with ⟨hour, minute, second, hhour, hminute, hsecond⟩
  have hlt : second < 60 := h
  simp only [ofSeconds, seconds, mk.injEq]
  omega

theorem seconds_lt {t : TimeOfDay} (h : t.second < 60) : t.seconds < 86400 := by
  have hhour := t.hour_lt
  have hminute := t.minute_lt
  unfold seconds
  omega

end TimeOfDay

/-! ## Timestamps -/

namespace Moment

def timestamp (m : Moment) : Int :=
  (m.date.dayNumber - Date.epoch.dayNumber) * 86400 + m.time.seconds

/-- A timestamp stands for the moment that lies so many seconds after the beginning of 1970, and for
no leap second. -/
theorem ofTimestamp?_eq_some_iff {seconds : Int} {m : Moment} :
    ofTimestamp? seconds = some m ↔ m.timestamp = seconds ∧ m.time.second < 60 := by
  unfold ofTimestamp?
  simp only [Option.map_eq_some_iff, Date.ofDayNumber?_eq_some_iff]
  constructor
  · rintro ⟨date, hdate, rfl⟩
    refine ⟨?_, TimeOfDay.second_ofSeconds_lt _⟩
    unfold timestamp
    rw [TimeOfDay.seconds_ofSeconds (by omega), hdate]
    omega
  · rintro ⟨rfl, hsecond⟩
    have hlt := TimeOfDay.seconds_lt hsecond
    have hday : m.timestamp / 86400 = m.date.dayNumber - Date.epoch.dayNumber := by
      unfold timestamp
      omega
    have htime : (m.timestamp % 86400).toNat = m.time.seconds := by
      unfold timestamp
      omega
    refine ⟨m.date, by omega, ?_⟩
    rw [htime, TimeOfDay.ofSeconds_seconds hsecond]

/-- The timestamps of the calendar: from the first second of the year -262143 to the last one of the
year 262142. -/
theorem exists_ofTimestamp?_iff {seconds : Int} :
    (∃ m, ofTimestamp? seconds = some m) ↔
      -8334601228800 ≤ seconds ∧ seconds ≤ 8210266876799 := by
  have hlower : daysBeforeYear (-262143) = -95745764 := by decide
  have hupper : daysBeforeYear 262143 = 95745765 := by decide
  have hepoch : Date.epoch.dayNumber = 719528 := by decide
  have hmoment : (∃ m, ofTimestamp? seconds = some m) ↔
      ∃ d : Date, d.dayNumber = Date.epoch.dayNumber + seconds / 86400 := by
    simp only [ofTimestamp?, Option.map_eq_some_iff, Date.ofDayNumber?_eq_some_iff]
    exact ⟨fun ⟨_, d, hd, _⟩ => ⟨d, hd⟩, fun ⟨d, hd⟩ => ⟨_, d, hd, rfl⟩⟩
  rw [hmoment, Date.exists_dayNumber_eq_iff, hlower, hupper, hepoch]
  omega

end Moment

end TableDdl
