import TableDdl.Dialect.Known
import TableDdl.Proofs.Dialect.Attribute
import TableDdl.Proofs.OrderedMap

/-!
# Attributes are selected row by row

The texts of the attributes are a selection of the rows of the table, each with what it contributes.
Names and sides only thin this selection out:

* `AttributeTable.entries`: the rows that contribute a text, with this text;
* `AttributeTable.selected`: those of them that given names and a given side leave;
* `Interleaves`: a list that is put together from two others, each in its own order;
* `AttributeTable.collectsByRow`: what `AttributeTable.collect` and `AttributeTable.join` give, for
  every table in which no name is repeated.
-/

namespace TableDdl

/-! ## Interleaved lists -/

section Interleaving

variable {α β : Type}

/-- `Interleaves xs ys zs`: the items of `xs` and `ys` make up `zs`, and stand there in the order in
which they stand in `xs` and in `ys`. -/
inductive Interleaves : List α → List α → List α → Prop where
  | nil : Interleaves [] [] []
  /-- The next item comes from the first list. -/
  | left {x : α} {xs ys zs : List α} (rest : Interleaves xs ys zs) :
      Interleaves (x :: xs) ys (x :: zs)
  /-- The next item comes from the second list. -/
  | right {y : α} {xs ys zs : List α} (rest : Interleaves xs ys zs) :
      Interleaves xs (y :: ys) (y :: zs)

/-- Putting two lists together commutes with a map over both. -/
theorem Interleaves.map {xs ys zs : List α} (h : Interleaves xs ys zs) (f : α → β) :
    Interleaves (xs.map f) (ys.map f) (zs.map f) := by
  induction h with
  | nil => exact .nil
  | left _ ih => exact .left ih
  | right _ ih => exact .right ih

/-- Two conditions of which exactly one holds of each item divide a list into two that make it
up. -/
theorem Interleaves.of_filter {p p' : α → Bool} (h : ∀ x, p' x = !p x) (zs : List α) :
    Interleaves (zs.filter p) (zs.filter p') zs := by
  induction zs with
  | nil => exact .nil
  | cons z zs ih =>
    cases hp : p z with
    | true =>
      have hp' : ¬p' z = true := by simp [h, hp]
      rw [List.filter_cons_of_pos hp, List.filter_cons_of_neg hp']
      exact .left ih
    | false =>
      have hp' : p' z = true := by simp [h, hp]
      rw [List.filter_cons_of_neg (by simp [hp]), List.filter_cons_of_pos hp']
      exact .right ih

end Interleaving

/-! ## Rows and what they contribute -/

namespace AttributeTable

/-- A row of a table with the text that it contributes. -/
structure Entry where
  /-- The name that the row is for, and its rule. -/
  row : String × AttributeRule
  text : String

/-- Whether a row is one of those asked for: by its name, if names are given, and by the side on
which it stands, if a side is given. -/
def isAskedFor (names : Option (List String)) (side : Option Placement)
    (row : String × AttributeRule) : Bool :=
  names.all (fun known => known.contains row.1)
    && side.all (fun place => row.2.placement == place)

variable (table : AttributeTable) (q : Quoter) (data : OrderedMap Scalar)

/-- The rows that contribute a text, in the order of the table. -/
def entries : List Entry :=
  table.filterMap fun row => (table.contribution? q data row.1).map fun text => ⟨row, text⟩

/-- The entries that are asked for. -/
def selected (names : Option (List String)) (side : Option Placement) : List Entry :=
  (table.entries q data).filter fun entry => isAskedFor names side entry.row

variable {table : AttributeTable} {q : Quoter} {data : OrderedMap Scalar}

/-- The rows with an entry are those that contribute something, so they are some of the table. -/
theorem rows_sublist : ((table.entries q data).map Entry.row).Sublist table := by
  have hrows : ∀ rows : AttributeTable,
      ((rows.filterMap fun row =>
        (table.contribution? q data row.1).map fun text => Entry.mk row text).map
          Entry.row).Sublist rows := by
    intro rows
    induction rows with
    | nil => exact List.Sublist.slnil
    | cons row rows ih =>
      cases hrow : table.contribution? q data row.1 with
      | none => simpa [hrow] using ih.cons row
      | some text => simpa [hrow] using ih.cons_cons row
  exact hrows table

/-- There is an entry for each row that contributes, and no other. -/
theorem mem_entries {entry : Entry} :
    entry ∈ table.entries q data ↔
      entry.row ∈ table ∧ table.contribution? q data entry.row.1 = some entry.text := by
  rcases entry with ⟨row, text⟩
  unfold entries
  rw [List.mem_filterMap]
  constructor
  · rintro ⟨row', hrow', hentry⟩
    rcases Option.map_eq_some_iff.1 hentry with ⟨text', htext', hsame⟩
    cases hsame
    exact ⟨hrow', htext'⟩
  · rintro ⟨hrow, htext⟩
    exact ⟨row, hrow, by simp [htext]⟩

/-- What the table writes are the texts of the entries that are asked for. -/
theorem collect_eq_map_selected (names : Option (List String)) (side : Option Placement) :
    table.collect q data names side = (table.selected q data names side).map Entry.text := by
  unfold collect selected entries
  rw [List.filterMap_filter, List.filter_filterMap, List.map_filterMap]
  -- Row by row: it is asked for or not, and contributes something or not.
  refine List.filterMap_congr fun row _ => ?_
  unfold isAskedFor
  cases table.contribution? q data row.1 with
  | none => simp
  | some text =>
    simp only [Option.map_some, Option.filter_some]
    split <;> rfl

/-- Naming attributes selects among the entries of their side. -/
theorem selected_names (names : List String) (side : Option Placement) :
    table.selected q data (some names) side =
      (table.selected q data none side).filter fun entry => names.contains entry.row.1 := by
  unfold selected
  rw [List.filter_filter]
  rfl

/-- Every row stands on one of the two sides. -/
theorem interleaves_selected (names : Option (List String)) :
    Interleaves (table.selected q data names (some .before))
      (table.selected q data names (some .after)) (table.selected q data names none) := by
  have hside : ∀ place, table.selected q data names (some place) =
      (table.selected q data names none).filter fun entry => entry.row.2.placement == place := by
    intro place
    unfold selected isAskedFor
    rw [List.filter_filter]
    simp [Bool.and_comm]
  rw [hside, hside]
  refine Interleaves.of_filter (fun entry => ?_) _
  cases entry.row.2.placement <;> rfl

/-- A row looks at the data under its own name only. -/
theorem contribution?_congr {data' : OrderedMap Scalar} {name : String}
    (h : data.get? name = data'.get? name) :
    table.contribution? q data name = table.contribution? q data' name := by
  unfold contribution?
  rw [h]

/-! ## What is written -/

/-- The texts of the attributes are a selection of the rows of the table. -/
structure CollectsByRow (table : AttributeTable) (q : Quoter) (data : OrderedMap Scalar) :
    Prop where
  /-- The rows of the entries stand in the order of the table, and none of them twice. -/
  rows_sublist : ((table.entries q data).map Entry.row).Sublist table
  /-- A row has an entry exactly if its name is present with a value other than null and the empty
  text, the row allows the value, and the attribute is written as a text that is not empty; and
  this is the text of the entry. -/
  mem_entries_iff : ∀ row text, Entry.mk row text ∈ table.entries q data ↔
    row ∈ table ∧ ∃ value, data.get? row.1 = some value ∧ value ≠ .null ∧ value ≠ .text "" ∧
      (∀ values ∈ row.2.allowed, value.display ∈ values) ∧
      table.render? q row.1 value = some text ∧ text ≠ ""
  collect_eq : ∀ names side,
    table.collect q data names side = (table.selected q data names side).map Entry.text
  /-- Given names leave exactly the entries of the rows so named. -/
  selected_names : ∀ names side, table.selected q data (some names) side =
    (table.selected q data none side).filter fun entry => names.contains entry.row.1
  /-- Without a side, the texts of the two sides are put together in their orders. -/
  interleaves : ∀ names, Interleaves (table.collect q data names (some .before))
    (table.collect q data names (some .after)) (table.collect q data names none)
  rows_ne : ∀ names, ∀ entry ∈ table.selected q data names (some .before),
    ∀ entry' ∈ table.selected q data names (some .after), entry.row.1 ≠ entry'.row.1
  /-- Only what is found under the names of the table counts, and not in which order it was put
  in. -/
  collect_congr : ∀ data' : OrderedMap Scalar,
    (∀ row ∈ table, data.get? row.1 = data'.get? row.1) → ∀ names side,
      table.collect q data names side = table.collect q data' names side
  join_eq : ∀ names joiner, (table.join q data names joiner).toList =
    (table.collect q data names none).flatMap fun text => joiner.toList ++ text.toList

/-- In a table without repeated names, the rule that is looked up for a row is its own. -/
theorem lookup_eq_some_iff (hdistinct : (table.map Prod.fst).Nodup) {name : String}
    {rule : AttributeRule} : table.lookup name = some rule ↔ (name, rule) ∈ table :=
  OrderedMap.get?_eq_some_iff (m := ⟨table, hdistinct⟩)

/-- Where no name is repeated, an entry is the text that its own row writes. -/
theorem mem_entries_iff_writes (hdistinct : (table.map Prod.fst).Nodup)
    {row : String × AttributeRule} {text : String} :
    Entry.mk row text ∈ table.entries q data ↔
      row ∈ table ∧ ∃ value, Writes table q data row.1 value row.2 text := by
  rw [mem_entries, contribution?_eq_some_iff]
  refine and_congr_right fun hrow => ?_
  constructor
  · rintro ⟨value, rule, hwrites⟩
    have hrule : rule = row.2 := by
      have hknown := (lookup_eq_some_iff hdistinct).2 hrow
      rw [hwrites.known] at hknown
      exact Option.some.inj hknown
    exact ⟨value, hrule ▸ hwrites⟩
  · rintro ⟨value, hwrites⟩
    exact ⟨value, row.2, hwrites⟩

/-- A row writes a value that is there, is not empty and is allowed. -/
theorem Writes.iff_render? {row : String × AttributeRule} {value : Scalar} {text : String}
    (hknown : table.lookup row.1 = some row.2) :
    Writes table q data row.1 value row.2 text ↔
      data.get? row.1 = some value ∧ value ≠ .null ∧ value ≠ .text "" ∧
        (∀ values ∈ row.2.allowed, value.display ∈ values) ∧
        table.render? q row.1 value = some text ∧ text ≠ "" := by
  have hpresent : value.isAbsent = false ↔ value ≠ .null ∧ value ≠ .text "" := by
    cases value <;> simp [Scalar.isAbsent, Scalar.isEmptyText]
  have hallowed : row.2.allows value.display = true ↔
      ∀ values ∈ row.2.allowed, value.display ∈ values := by
    unfold AttributeRule.allows
    cases row.2.allowed <;> simp
  have hrender : row.2.allows value.display = true →
      (table.render? q row.1 value = some text ↔ text = row.2.text q value) := by
    intro hallows
    unfold render?
    simp only [hknown, if_pos hallows, Option.some.injEq]
    exact eq_comm
  constructor
  · intro hwrites
    have hvalue := hpresent.1 hwrites.present
    exact ⟨hwrites.given, hvalue.1, hvalue.2, hallowed.1 hwrites.allowed,
      (hrender hwrites.allowed).2 hwrites.text_eq, hwrites.text_ne⟩
  · rintro ⟨hgiven, hnull, hempty, hvalues, htext, hne⟩
    have hallows := hallowed.2 hvalues
    exact ⟨hgiven, hpresent.2 ⟨hnull, hempty⟩, hknown, hallows, (hrender hallows).1 htext, hne⟩

/-- If no name is repeated in the table, the texts of the attributes are a selection of its rows. -/
theorem collectsByRow (hdistinct : (table.map Prod.fst).Nodup) (q : Quoter)
    (data : OrderedMap Scalar) : table.CollectsByRow q data where
  rows_sublist := rows_sublist
  mem_entries_iff := by
    intro row text
    rw [mem_entries_iff_writes hdistinct]
    refine and_congr_right fun hrow => exists_congr fun value => ?_
    exact Writes.iff_render? ((lookup_eq_some_iff hdistinct).2 hrow)
  collect_eq := collect_eq_map_selected
  selected_names := selected_names
  interleaves := by
    intro names
    rw [collect_eq_map_selected, collect_eq_map_selected, collect_eq_map_selected]
    exact (interleaves_selected names).map Entry.text
  rows_ne := by
    intro names entry hentry entry' hentry' hname
    have hbefore := List.mem_filter.1 hentry
    have hafter := List.mem_filter.1 hentry'
    -- Rows of one name are one row, and this stands on one side only.
    have hrule : some entry.row.2 = some entry'.row.2 := by
      rw [← (lookup_eq_some_iff hdistinct).2 (mem_entries.1 hbefore.1).1, hname,
        (lookup_eq_some_iff hdistinct).2 (mem_entries.1 hafter.1).1]
    have hside := (Bool.and_eq_true_iff.1 hbefore.2).2
    have hside' := (Bool.and_eq_true_iff.1 hafter.2).2
    rw [Option.some.inj hrule] at hside
    simp only [Option.all_some, beq_iff_eq] at hside hside'
    rw [hside] at hside'
    cases hside'
  collect_congr := by
    intro data' hsame names side
    refine List.filterMap_congr fun row hrow => ?_
    exact contribution?_congr (hsame row (List.mem_filter.1 hrow).1)
  join_eq := by
    intro names joiner
    unfold join
    rw [String.toList_join, List.flatMap_map]
    simp only [String.toList_append]

/-- Of four attributes one is null and one unknown; the other two stand on different sides, and not
in the order of the table. -/
theorem collectsByRow_mysql :
    let data := OrderedMap.ofList
      [("comment", .text "it's"), ("colour", .text "red"), ("collate", .null),
        ("charset", .text "utf8")]
    (Dialect.mysql.columnAttributes.map Prod.fst).Nodup ∧
      Dialect.mysql.columnAttributes.CollectsByRow Dialect.mysql.quotes.quoter data ∧
      Dialect.mysql.columnAttributes.collect Dialect.mysql.quotes.quoter data none none =
        ["CHARACTER SET utf8", "COMMENT 'it''s'"] := by
  have hdistinct : (Dialect.mysql.columnAttributes.map Prod.fst).Nodup := by decide
  exact ⟨hdistinct, collectsByRow hdistinct _ _, by decide⟩

end AttributeTable

end TableDdl
