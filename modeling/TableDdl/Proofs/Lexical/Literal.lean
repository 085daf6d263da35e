import TableDdl.Proofs.Lexical.Scan
import TableDdl.Proofs.Number.Numeral
import TableDdl.Proofs.Number.Rounding
import TableDdl.Statement.Condition

/-!
# What a literal is

A literal is a keyword, a number or a string.

* `BareNumber.int64Text` and `BareNumber.realText`: what is written for a finite number is one;
* `Scalar.Renders`: the literals that stand for a scalar under a formatter, and
  `Scalar.renders_literal`: the literal of a scalar is one of them;
* `QuoteStyle.operand_eq_value`: the operand of a condition is a literal as well.

Keywords and numbers hold only plain characters, and a string closes itself, so no literal shows a
parenthesis or a comma to the scanner: whatever text a schema gives as a default (`Quiet.value`) or
as an operand (`Quiet.operand`).
-/

namespace TableDdl

open Text

/-! ## Numbers -/

theorem Decimal.forall_isDigit_significant (d : Decimal) : ∀ c ∈ d.significant, c.isDigit = true := by
  -- The significant digits are some of the digits, without the zeros at the end.
  intro c hc
  have hmem := (List.dropWhile_sublist _).subset (List.mem_reverse.1 hc)
  exact forall_isDigit_toDigits d.digits c (List.mem_reverse.1 hmem)

/-- Digits with a point among them are a mantissa. -/
theorem IsMantissa.positional (d : Decimal) : IsMantissa d.positional := by
  have hdigits := d.forall_isDigit_significant
  have hzeros : ∀ n, ∀ c ∈ List.replicate n '0', c.isDigit = true := by
    intro n c hc
    rw [List.eq_of_mem_replicate hc]
    rfl
  have hzero : ∀ fs : List Char, (∀ c ∈ fs, c.isDigit = true) → IsMantissa ('0' :: '.' :: fs) :=
    fun fs hfs => @IsMantissa.pointed ['0'] fs rfl hfs
  unfold Decimal.positional
  simp only
  split
  · exact .whole rfl
  · next hne =>
    split
    · next place _ =>
      split
      · refine .whole (isDigits_iff.2 ⟨by simp [hne], ?_⟩)
        exact List.forall_mem_append.2 ⟨hdigits, hzeros _⟩
      · split
        · exact hzero _ hdigits
        · -- The point stands among the digits, some of which are in front of it.
          next hpos =>
          refine .pointed (isDigits_iff.2 ⟨by simp [hne, hpos], ?_⟩) ?_
          · exact fun c hc => hdigits c (List.mem_of_mem_take hc)
          · exact fun c hc => hdigits c (List.mem_of_mem_drop hc)
    · exact hzero _ (List.forall_mem_append.2 ⟨hzeros _, hdigits⟩)

namespace BareNumber

variable {sign mantissa : List Char}

theorem of_mantissa (hsign : IsSign sign) (hmantissa : IsMantissa mantissa) :
    BareNumber (sign ++ mantissa) := by
  simpa using mk hsign hmantissa .none

theorem int64Text (n : Int64) : BareNumber (int64Text n).toList := by
  have hdigits : IsMantissa (Nat.toDigits 10 n.toInt.natAbs) := .whole (isDigits_toDigits _)
  unfold TableDdl.int64Text integerChars
  rw [String.toList_ofList]
  split
  · exact of_mantissa .minus hdigits
  · exact of_mantissa .none hdigits

theorem realText {x : Binary64} (hx : x.isFinite = true) : BareNumber x.text.toList := by
  cases x with
  | nan => cases hx
  | infinite negative => cases hx
  | finite negative rank =>
    have hdigits := IsMantissa.positional (Decimal.shortest .up rank)
    cases negative with
    | false => simpa [Binary64.text] using of_mantissa .none hdigits
    | true => simpa [Binary64.text] using of_mantissa .minus hdigits

end BareNumber

/-! ## The literals of a scalar -/

namespace Scalar

def integer? : Scalar → Option Int64
  | null => none
  | boolean b => some (if b then 1 else 0)
  | integer n => some n
  | real _ => none
  | text s => integerOfText? s

def truth? : Scalar → Option Bool
  | null => none
  | boolean b => some b
  | integer n => some (n != 0)
  | real _ => none
  | text s => booleanOfText? s

def moment? : Scalar → Option Moment
  | integer n => Moment.ofTimestamp? n.toInt
  | text s => Moment.ofText? s
  | _ => none

/-- The numbers that a scalar is written as. -/
inductive NumberText (v : Scalar) : String → Prop where
  | integer {n : Int64} (given : v.integer? = some n) : NumberText v (int64Text n)
  | real {x : Binary64} (given : v = .real x) (finite : x.isFinite = true) : NumberText v x.text
  /-- A number without its fraction. -/
  | whole {x : Binary64} (given : v = .real x) (finite : x.isFinite = true) :
      NumberText v x.truncate.text
  /-- A text that reads as a number, without the blanks at its ends. -/
  | numeral {s : String} (given : v = .text s) (numeric : v.isNumeric = true) :
      NumberText v (trim s)

/-- The literals that stand for a scalar under a formatter. -/
inductive Renders (v : Scalar) (formatter : Formatter) : Literal → Prop where
  | null (absent : v = .null) : Renders v formatter .null
  | boolean {b : Bool} (asked : formatter = .boolean) (given : v.truth? = some b) :
      Renders v formatter (.boolean b)
  | number {text : String} (shown : v.NumberText text) (form : BareNumber text.toList) :
      Renders v formatter (.bare text)
  | display (present : v ≠ .null) : Renders v formatter (.quoted v.display)
  | date {format : DateFormat} {moment : Moment} (asked : formatter = .date format)
      (given : v.moment? = some moment) : Renders v formatter (.quoted (moment.print format))

variable {v : Scalar} {formatter : Formatter}

/-- The text of a scalar that stands without quotes as a number is one. -/
theorem NumberText.bareNumber {text : String} (h : v.NumberText text) :
    BareNumber text.toList := by
  cases h with
  | integer given => exact .int64Text _
  | real given finite => exact .realText finite
  | whole given finite => exact .realText (Binary64.isFinite_truncate finite)
  | numeral given numeric =>
    subst given
    rw [toList_trim]
    exact .of_isDecimal (Bool.and_eq_true_iff.1 numeric).1

theorem Renders.of_numberText {text : String} (h : v.NumberText text) :
    v.Renders formatter (.bare text) :=
  .number h h.bareNumber

/-- The literal of an integer is one of the allowed forms. -/
theorem renders_integerLiteral (v : Scalar) (formatter : Formatter) :
    v.Renders formatter v.integerLiteral := by
  cases v with
  | null => exact .null rfl
  | boolean b =>
    cases b with
    | false => exact .of_numberText (.integer (n := 0) rfl)
    | true => exact .of_numberText (.integer (n := 1) rfl)
  | integer n => exact .of_numberText (.integer rfl)
  | real x =>
    unfold integerLiteral
    simp only
    split
    · next hfinite => exact .of_numberText (.whole rfl hfinite)
    · exact .display nofun
  | text s =>
    unfold integerLiteral
    simp only
    split
    · next n hn => exact .of_numberText (.integer hn)
    · exact .display nofun

theorem renders_realLiteral (v : Scalar) (formatter : Formatter) :
    v.Renders formatter v.realLiteral := by
  cases v with
  | null => exact .null rfl
  | boolean b => exact renders_integerLiteral (.boolean b) formatter
  | integer n => exact .of_numberText (.integer rfl)
  | real x =>
    unfold realLiteral
    simp only
    split
    · next hfinite => exact .of_numberText (.real rfl hfinite)
    · exact .display nofun
  | text s =>
    unfold realLiteral
    simp only
    split
    · next hnumeric => exact .of_numberText (.numeral rfl hnumeric)
    · exact renders_integerLiteral (.text s) formatter

theorem renders_booleanLiteral (v : Scalar) : v.Renders .boolean v.booleanLiteral := by
  cases v with
  | null => exact .null rfl
  | boolean b => exact .boolean rfl rfl
  | integer n => exact .boolean rfl rfl
  | real x => exact renders_integerLiteral (.real x) .boolean
  | text s =>
    unfold booleanLiteral
    simp only
    split
    · next b hb => exact .boolean rfl hb
    · exact .display nofun

theorem renders_dateLiteral (format : DateFormat) (v : Scalar) :
    v.Renders (.date format) (v.dateLiteral format) := by
  cases v with
  | null => exact .null rfl
  | boolean b => exact .display nofun
  | integer n =>
    unfold dateLiteral
    simp only
    split
    · next moment hmoment => exact .date rfl hmoment
    · exact .of_numberText (.integer rfl)
  | real x => exact .display nofun
  | text s =>
    unfold dateLiteral
    simp only
    split
    · next moment hmoment => exact .date rfl hmoment
    · exact .display nofun

/-- Every scalar has a literal of the allowed forms under every formatter. -/
theorem renders_literal (v : Scalar) (formatter : Formatter) :
    v.Renders formatter (v.literal formatter) := by
  unfold literal
  split
  · next hnull => exact .null hnull
  · next hne =>
    cases formatter with
    | integer => exact renders_integerLiteral v .integer
    | real => exact renders_realLiteral v .real
    | boolean => exact renders_booleanLiteral v
    | text => exact .display hne
    | date format => exact renders_dateLiteral format v

/-- The formatter under which an operand is written. -/
def operandFormatter : Scalar → Formatter
  | boolean _ => .boolean
  | v => if v.isNumeric then .real else .text

end Scalar

/-- An operand is a value under the formatter that its kind calls for. -/
theorem QuoteStyle.operand_eq_value (style : QuoteStyle) (v : Scalar) :
    style.quoter.operand v = style.value v v.operandFormatter := by
  cases v with
  | null => rfl
  | boolean b => rfl
  | integer n => rfl
  | real x =>
    unfold Quoter.operand Scalar.operandFormatter Scalar.isNumeric
    simp only
    split
    · next hfinite => simp [value, Scalar.literal, Scalar.realLiteral, hfinite, literalText]
    · rfl
  | text s =>
    unfold Quoter.operand Scalar.operandFormatter
    simp only
    split
    · next hnumeric => simp [value, Scalar.literal, Scalar.realLiteral, hnumeric, literalText]
    · rfl

/-- A finite floating point number loses its fraction where an integer is asked for. -/
theorem QuoteStyle.value_real_integer (style : QuoteStyle) {x : Binary64} (h : x.isFinite = true) :
    style.value (.real x) .integer = x.truncate.text :=
  calc
    style.value (.real x) .integer = style.literalText (.bare x.truncate.text) :=
      congrArg style.literalText (if_pos h)
    _ = x.truncate.text := rfl

namespace Lexical

variable {style : QuoteStyle} {cs ds : List Char}

/-! ## Plain texts -/

theorem isPlain_of_isDigit {c : Char} (h : c.isDigit = true) : isPlain c = true := by
  have hne : ∀ x : Char, x.isDigit = false → c ≠ x := fun _ => Numeral.isDigit_ne h
  have hopen := hne '(' rfl
  have hclose := hne ')' rfl
  have hcomma := hne ',' rfl
  have hquote := hne '\'' rfl
  have hdouble := hne '"' rfl
  have hback := hne (Char.ofNat 0x60) rfl
  simp [isPlain, isStructural, hopen, hclose, hcomma, hquote, hdouble, hback]

theorem PlainText.toDigits (n : Nat) : PlainText (Nat.toDigits 10 n) := by
  intro c hc
  exact isPlain_of_isDigit (Nat.isDigit_of_mem_toDigits (by decide) (by decide) hc)

theorem isPlain_of_isNumeralChar {c : Char} (h : isNumeralChar c = true) : isPlain c = true := by
  have hcases : c.isDigit = true ∨ c ∈ ['+', '-', '.', 'e', 'E'] := by
    simpa [isNumeralChar, Numeral.isExponentMark, or_assoc] using h
  rcases hcases with hdigit | hmark
  · exact isPlain_of_isDigit hdigit
  · have hmarks : PlainText ['+', '-', '.', 'e', 'E'] := by decide
    exact hmarks c hmark

/-- A number holds no character with a meaning of its own. -/
theorem PlainText.of_bareNumber (h : BareNumber cs) : PlainText cs :=
  fun c hc => isPlain_of_isNumeralChar (h.numeralText c hc)

/-! ## The texts of a quote style -/

/-- The words for the truth values hold only plain characters. -/
structure PlainWords (style : QuoteStyle) : Prop where
  onTrue : PlainText style.trueLiteral.toList
  onFalse : PlainText style.falseLiteral.toList

/-- A value leaves the scanner where it was, quotes and all. -/
theorem Quiet.value (hstyle : Usual style) (hwords : PlainWords style) (v : Scalar)
    (formatter : Formatter) : Quiet style (style.value v formatter).toList := by
  have hrenders := v.renders_literal formatter
  have hquoted : ∀ content, Quiet style (style.literalText (.quoted content)).toList := by
    intro content
    unfold QuoteStyle.literalText
    rw [String.toList_ofList]
    exact Quiet.stringChars content.toList
  -- Keywords and bare numbers are plain; a quoted text closes itself.
  unfold QuoteStyle.value
  generalize v.literal formatter = literal at hrenders ⊢
  cases hrenders with
  | null =>
    have hword : PlainText "NULL".toList := by decide
    exact Quiet.of_plain hstyle hword
  | @boolean b =>
    cases b with
    | false => exact Quiet.of_plain hstyle hwords.onFalse
    | true => exact Quiet.of_plain hstyle hwords.onTrue
  | number shown form => exact Quiet.of_plain hstyle (.of_bareNumber form)
  | display => exact hquoted _
  | date => exact hquoted _

theorem Quiet.operand (hstyle : Usual style) (hwords : PlainWords style) (v : Scalar) :
    Quiet style (style.quoter.operand v).toList := by
  rw [QuoteStyle.operand_eq_value]
  exact Quiet.value hstyle hwords v _

end Lexical
end TableDdl
