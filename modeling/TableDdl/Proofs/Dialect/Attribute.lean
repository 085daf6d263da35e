import TableDdl.Dialect.Attribute

/-!
# Which attributes are written

`AttributeTable.collect` passes over everything that the table does not know or does not allow.
`contribution?_eq_some_iff` says what a row needs so that it contributes a text, and
`mem_collect_iff` says it for the list as a whole.
-/

namespace TableDdl
namespace AttributeTable

variable {table : AttributeTable} {q : Quoter} {data : OrderedMap Scalar} {name text : String}

/-- The value `value` is written as `text` under the rule for `name`. -/
structure Writes (table : AttributeTable) (q : Quoter) (data : OrderedMap Scalar) (name : String)
    (value : Scalar) (rule : AttributeRule) (text : String) : Prop where
  given : data.get? name = some value
  present : value.isAbsent = false
  known : table.lookup name = some rule
  allowed : rule.allows value.display = true
  text_eq : text = rule.text q value
  text_ne : text ≠ ""

/-- An attribute contributes a text if its rule lets it write one. -/
theorem contribution?_eq_some_iff :
    table.contribution? q data name = some text ↔
      ∃ value rule, Writes table q data name value rule text := by
  unfold contribution? render?
  constructor
  · intro h
    -- Each of these steps may pass over the row; what is left is the text itself.
    cases hget : data.get? name with
    | none => simp [hget] at h
    | some value =>
      cases hlookup : table.lookup name with
      | none => simp [hget, hlookup] at h
      | some rule =>
        by_cases hpresent : value.isAbsent = true
        · simp [hget, hpresent] at h
        · by_cases hallowed : rule.allows value.display = true
          · have htext : rule.text q value = text ∧ text ≠ "" := by
              simpa [hget, hlookup, hpresent, hallowed, Option.filter_eq_some_iff] using h
            exact ⟨value, rule, hget, by simpa using hpresent, hlookup, hallowed, htext.1.symm,
              htext.2⟩
          · simp [hget, hlookup, hallowed] at h
  · rintro ⟨value, rule, h⟩
    have hne := h.text_ne
    rw [h.text_eq] at hne ⊢
    simp [h.given, h.present, h.known, h.allowed, hne]

/-- What is collected are the texts that the rows on this side write for the known names. -/
theorem mem_collect_iff {names : Option (List String)} {side : Option Placement} :
    text ∈ table.collect q data names side ↔
      ∃ row ∈ table,
        (names.all (fun known => known.contains row.1)
          && side.all (fun place => row.2.placement == place)) = true ∧
        ∃ value rule, Writes table q data row.1 value rule text := by
  unfold collect
  simp only [List.mem_filterMap, List.mem_filter, and_assoc, contribution?_eq_some_iff]

end AttributeTable
end TableDdl
