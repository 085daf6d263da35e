import TableDdl.Proofs.Calendar.DateFormat
import TableDdl.Proofs.Dialect.Provided
import TableDdl.Proofs.Lexical.Literal

/-!
# Dates as literals

A scalar that stands for a moment is written as that moment in the format of its column type, and
what is written stands for a moment again.

* `Scalar.literal_date_of_moment?`: the literal of a moment;
* `Scalar.IsDate`: the scalars that stand for one;
* `QuoteStyle.value_date_normal`: a date is written in a normal form, and day and time lose nothing.
-/

namespace TableDdl

namespace Scalar

variable {v : Scalar} {s : String} {m : Moment}

theorem literal_date (v : Scalar) (format : DateFormat) :
    v.literal (.date format) = v.dateLiteral format := by
  unfold literal
  split
  · next hnull =>
    rw [hnull]
    rfl
  · rfl

theorem moment?_text (s : String) : (text s).moment? = Moment.ofText? s := by
  unfold moment?
  simp only

theorem moment?_integer (n : Int64) : (integer n).moment? = Moment.ofTimestamp? n.toInt := by
  unfold moment?
  simp only

/-- A value that stands for a moment is written as that moment. -/
theorem literal_date_of_moment? (h : v.moment? = some m) (format : DateFormat) :
    v.literal (.date format) = .quoted (m.print format) := by
  rw [literal_date]
  cases v with
  | null => simp [moment?] at h
  | boolean b => simp [moment?] at h
  | integer n =>
    rw [moment?_integer] at h
    unfold dateLiteral
    simp only
    rw [h]
  | real x => simp [moment?] at h
  | text s =>
    rw [moment?_text] at h
    unfold dateLiteral
    simp only
    rw [h]

/-- A text that stands for none is written as it is. -/
theorem literal_date_text_of_none (h : Moment.ofText? s = none) (format : DateFormat) :
    (text s).literal (.date format) = .quoted s := by
  rw [literal_date]
  unfold dateLiteral
  simp only
  rw [h]

/-- The text of a moment stands for what its format shows of it. -/
theorem moment?_print (m : Moment) (format : DateFormat) :
    (text (m.print format)).moment? = some (m.shown format) := by
  rw [moment?_text, Moment.ofText?_print_eq_shown]

/-- The scalar is a timestamp of the calendar, or a text in one of the forms of a date. -/
inductive IsDate : Scalar → Prop where
  | timestamp {n : Int64} (lower : -8334601228800 ≤ n.toInt) (upper : n.toInt ≤ 8210266876799) :
      IsDate (integer n)
  | text {s : String} (reads : (Moment.ofText? s).isSome = true) : IsDate (text s)

/-- A date stands for a moment. -/
theorem IsDate.exists_moment? (h : v.IsDate) : ∃ m, v.moment? = some m := by
  cases h with
  | timestamp lower upper =>
    simp only [moment?_integer]
    exact Moment.exists_ofTimestamp?_iff.2 ⟨lower, upper⟩
  | text reads =>
    simp only [moment?_text]
    exact Option.isSome_iff_exists.1 reads

end Scalar

namespace QuoteStyle

variable (style : QuoteStyle) {v : Scalar} {m : Moment}

/-- A value that stands for a moment is written in quotes as that moment. -/
theorem value_date_of_moment? (h : v.moment? = some m) (format : DateFormat) :
    style.value v (.date format) = String.ofList (stringChars (m.print format).toList) := by
  unfold value
  rw [Scalar.literal_date_of_moment? h]
  unfold literalText
  simp only

theorem value_date_text_of_none {s : String} (h : Moment.ofText? s = none) (format : DateFormat) :
    style.value (.text s) (.date format) = String.ofList (stringChars s.toList) := by
  unfold value
  rw [Scalar.literal_date_text_of_none h]
  unfold literalText
  simp only

/-- Dates are written in a normal form: writing one again changes nothing, and going through day and
time first changes nothing either, whether a date is given as a timestamp or as a text. -/
theorem value_date_normal :
    (∀ (s : String) (format : DateFormat), ∃ content : String,
      style.value (.text s) (.date format) = String.ofList (stringChars content.toList) ∧
      style.value (.text content) (.date format) = style.value (.text s) (.date format)) ∧
    ∀ v : Scalar, v.IsDate → ∃ content : String,
      style.value v (.date .dateTime) = String.ofList (stringChars content.toList) ∧
      (∀ format, style.value (.text content) (.date format) = style.value v (.date format)) ∧
      ∃ m, Moment.ofText? content = some m ∧ v.moment? = some m ∧
        ∀ n : Int64, v = .integer n → m.timestamp = n.toInt := by
  refine ⟨fun s format => ?_, fun v hv => ?_⟩
  · cases hs : Moment.ofText? s with
    | none => exact ⟨s, style.value_date_text_of_none hs format, rfl⟩
    | some m =>
      have hm : (Scalar.text s).moment? = some m := (Scalar.moment?_text s).trans hs
      refine ⟨m.print format, style.value_date_of_moment? hm format, ?_⟩
      rw [style.value_date_of_moment? (Scalar.moment?_print m format),
        style.value_date_of_moment? hm, Moment.print_shown]
  · rcases hv.exists_moment? with ⟨m, hm⟩
    -- Day and time show the whole moment.
    have hshown : m.shown .dateTime = m := rfl
    have hprint := Scalar.moment?_print m .dateTime
    rw [hshown] at hprint
    refine ⟨m.print .dateTime, style.value_date_of_moment? hm .dateTime, ?_, m, ?_, hm, ?_⟩
    · intro format
      rw [style.value_date_of_moment? hprint, style.value_date_of_moment? hm]
    · rw [← Scalar.moment?_text, hprint]
    · rintro n rfl
      rw [Scalar.moment?_integer, Moment.ofTimestamp?_eq_some_iff] at hm
      exact hm.1

/-- The first second of the calendar. -/
theorem value_date_normal_first :
    Scalar.IsDate (.integer (-8334601228800)) ∧ ∃ content : String,
      Dialect.mysql.quotes.value (.integer (-8334601228800)) (.date .dateTime) =
        String.ofList (stringChars content.toList) ∧
      Dialect.mysql.quotes.value (.text content) (.date .date) = "'-262143-01-01'" := by
  have hdate : Scalar.IsDate (.integer (-8334601228800)) := .timestamp (by decide) (by decide)
  rcases (value_date_normal Dialect.mysql.quotes).2 _ hdate with ⟨content, hcontent, hnormal, -⟩
  refine ⟨hdate, content, hcontent, ?_⟩
  rw [hnormal]
  decide +kernel

end QuoteStyle

end TableDdl
