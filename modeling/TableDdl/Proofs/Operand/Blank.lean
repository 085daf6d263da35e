import TableDdl.Proofs.Lexical.Fragment
import TableDdl.Proofs.Lexical.Identifier

/-!
# Texts that are never blank

A quoted identifier and a literal hold at least one character that is not blank, whatever they stand
for; only the identifier of the empty name is empty.  A scalar that is written without quotes is
blank only if it is a blank text.
-/

namespace TableDdl

open Text Lexical

def HasInk (cs : List Char) : Prop :=
  ∃ c ∈ cs, isBlank c = false

/-- A text is not blank if some character in it is not. -/
theorem isBlankText_eq_false_iff {s : String} : isBlankText s = false ↔ HasInk s.toList := by
  unfold isBlankText HasInk
  rw [List.all_eq_false]
  simp

namespace HasInk

variable {cs ds : List Char}

theorem cons {c : Char} (hc : isBlank c = false) : HasInk (c :: cs) :=
  ⟨c, List.mem_cons_self, hc⟩

theorem of_subset (hcs : HasInk cs) (h : cs ⊆ ds) : HasInk ds := by
  rcases hcs with ⟨c, hmem, hc⟩
  exact ⟨c, h hmem, hc⟩

/-! ## Numbers -/

theorem of_isDigit (hne : cs ≠ []) (h : ∀ c ∈ cs, c.isDigit = true) : HasInk cs := by
  rcases List.exists_cons_of_ne_nil hne with ⟨c, rest, rfl⟩
  exact cons (isBlank_eq_false_of_isDigit (h c List.mem_cons_self))

theorem of_mantissa (h : IsMantissa cs) : HasInk cs := by
  have hdigits : ∀ {ds : List Char}, isDigits ds = true → HasInk ds :=
    fun hds => of_isDigit (isDigits_iff.1 hds).1 (isDigits_iff.1 hds).2
  cases h with
  | whole digits => exact hdigits digits
  | pointed digits => exact (hdigits digits).of_subset (List.subset_append_left _ _)
  | fraction digits => exact cons (by decide)

/-- Every number has a digit. -/
theorem of_bareNumber (h : BareNumber cs) : HasInk cs := by
  rcases h with ⟨_, isMantissa, _⟩
  refine (of_mantissa isMantissa).of_subset ?_
  exact fun c hc => List.mem_append_right _ (List.mem_append_left _ hc)

theorem realText (x : Binary64) : HasInk x.text.toList := by
  cases x with
  | nan => exact ⟨'N', by decide, by decide⟩
  | infinite negative => cases negative <;> exact ⟨'i', by decide, by decide⟩
  | finite negative rank => exact of_bareNumber (.realText rfl)

end HasInk

/-! ## What a dialect writes -/

section Quoter

variable {d : Dialect}

/-- A value is never written as a blank text. -/
theorem HasInk.literal (hd : d ∈ Dialect.provided) (v : Scalar) (formatter : Formatter) :
    HasInk (d.quotes.quoter.value v formatter).toList := by
  have hrenders := v.renders_literal formatter
  have hwords : HasInk d.quotes.trueLiteral.toList ∧ HasInk d.quotes.falseLiteral.toList := by
    rcases Dialect.mem_provided_iff.1 hd with rfl | rfl | rfl <;>
      exact ⟨.cons rfl, .cons rfl⟩
  have hquoted : ∀ content, HasInk (d.quotes.literalText (.quoted content)).toList := by
    intro content
    unfold QuoteStyle.literalText
    rw [String.toList_ofList]
    exact .cons (by decide)
  unfold QuoteStyle.quoter QuoteStyle.value
  simp only
  generalize v.literal formatter = literal at hrenders ⊢
  cases hrenders with
  | null =>
    have hword : HasInk "NULL".toList := ⟨'N', by decide, rfl⟩
    exact hword
  | @boolean b =>
    cases b with
    | false => exact hwords.2
    | true => exact hwords.1
  | number shown form => exact .of_bareNumber form
  | display => exact hquoted _
  | date => exact hquoted _

/-- A quoted name is never blank, unless it is empty. -/
theorem HasInk.name (hd : d ∈ Dialect.provided) {name : String} (hne : name ≠ "") :
    HasInk (d.quotes.quoter.name name).toList := by
  unfold QuoteStyle.quoter QuoteStyle.name
  simp only
  rw [if_neg hne, String.toList_ofList, nameChars_eq_cons_nameBody]
  exact .cons (PlainDialect.of_mem_provided hd).usual.opening_not_blank

/-- Only the empty name has a blank text. -/
theorem isBlankText_name_iff (hd : d ∈ Dialect.provided) {name : String} :
    isBlankText (d.quotes.quoter.name name) = true ↔ name = "" := by
  constructor
  · intro h
    by_contra hne
    rw [isBlankText_eq_false_iff.2 (.name hd hne)] at h
    cases h
  · rintro rfl
    rfl

/-- Only a text is written as a blank. -/
theorem Scalar.eq_text_of_isBlankText_display {v : Scalar} (h : isBlankText v.display = true) :
    ∃ s, v = .text s ∧ isBlankText s = true := by
  have hink : HasInk v.display.toList → ∃ s, v = .text s ∧ isBlankText s = true := by
    intro hink
    rw [isBlankText_eq_false_iff.2 hink] at h
    cases h
  cases v with
  | null => exact hink (.cons rfl)
  | boolean b => cases b <;> exact hink (.cons rfl)
  | integer n => exact hink (.of_bareNumber (.int64Text n))
  | real x => exact hink (.realText x)
  | text s => exact ⟨s, rfl, h⟩

end Quoter

end TableDdl
