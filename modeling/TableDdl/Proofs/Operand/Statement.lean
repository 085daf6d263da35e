import TableDdl.Proofs.Compilation
import TableDdl.Proofs.Json.RoundTrip
import TableDdl.Proofs.Operand.Blank
import TableDdl.Proofs.Operand.Phrase
import TableDdl.Schema.OfJson
import TableDdl.Schema.ToJson

/-!
# Operands in the statements of a schema

A keyword that takes an operand is written only where there is one.  A schema may spell out a blank
of its own, and the compiler passes it on: an expression or an action that is blank, an attribute
that is a text of blanks, and a list of columns that is empty or names the empty column.

* `TableSchema.phrases` writes the statements of a schema as phrases, and
  `CreateTable.Compiles.statements_eq` says that these are its statements;
* `TableSchema.SpellsBlank` lists the blanks that a schema spells out;
* `CreateTable.spellsBlank_of_wanting_phrase` says that nothing else is wanting in the statements.
-/

namespace TableDdl

open Text Phrase

/-! ## The phrases of a schema -/

namespace Index

/-- The phrases of the item of the body that an index calls for. -/
def bodyPhrases? (d : Dialect) (q : Quoter) (name : String) (index : Index) :
    Option (List Phrase) :=
  if name = primaryIndexName then (Constraint.primary index.columns).phrases? q d.constraints
  else match d.indexes with
    | .inBody => some (index.bodyPhrases q name)
    | .separate _ _ => none

/-- The phrases of the statement that an index calls for. -/
def statementPhrases? (d : Dialect) (q : Quoter) (table name : String) (index : Index) :
    Option (List Phrase) :=
  if name = primaryIndexName then none
  else match d.indexes with
    | .inBody => none
    | .separate withTable quoted => some (index.statementPhrases q withTable quoted table name)

end Index

namespace TableSchema

variable (s : TableSchema) (d : Dialect) (q : Quoter)

def columnPhrases : List (List Phrase) :=
  s.fields.entries.filterMap fun entry =>
    (d.types.find? entry.2.abstractType).map fun type =>
      (entry.2.withName entry.1).phrases d q entry.1 type (!s.declarations.hasPrimaryKey)

def itemPhrases (columns : List Column) : List (List Phrase) :=
  s.declarations.indexes.entries.filterMap (fun entry => entry.2.bodyPhrases? d q entry.1)
    ++ s.declarations.constraints.filterMap (Constraint.phrases? q d.constraints)
    ++ ((s.impliedKey? columns).bind (Constraint.phrases? q d.constraints)).toList

/-- The phrases of the statement that creates the table with the given columns. -/
def tablePhrases (table : String) (columns : List Column) : List Phrase :=
  .text ("CREATE TABLE " ++ q.name table ++ " (\n")
      :: [Phrase.text ",\n"].intercalate
        ((s.columnPhrases d q).filter fun column => sqlOf column != "")
    ++ (s.itemPhrases d q columns).flatMap (Phrase.text ",\n" :: ·)
    ++ .text ")"
      :: d.layout.phrases (d.tableAttributes.phrases q s.declarations.attributes none none)
    ++ [.text ";"]

/-- The phrases of all statements, in the order in which they are run. -/
def phrases (table : String) (columns : List Column) : List (List Phrase) :=
  s.tablePhrases d q table columns
    :: s.declarations.indexes.entries.filterMap fun entry =>
      entry.2.statementPhrases? d q table entry.1

end TableSchema

/-! ## Their texts -/

section Texts

variable {d : Dialect} {q : Quoter} {table : String} {s : TableSchema} {t : CreateTable}

/-- The phrases of a constraint spell its item of the body. -/
theorem Constraint.sql_bodyItem? (c : Constraint) :
    (c.bodyItem? d q).map BodyItem.sql = (c.phrases? q d.constraints).map sqlOf := by
  unfold bodyItem?
  rw [sql?_eq, Option.map_map, Option.map_map]
  rfl

theorem Index.sql_bodyItem? (name : String) (index : Index) :
    (index.bodyItem? d q name).map BodyItem.sql = (index.bodyPhrases? d q name).map sqlOf := by
  unfold bodyItem? bodyPhrases?
  split
  · exact Constraint.sql_bodyItem? _
  · cases d.indexes with
    | inBody => simp [sqlOf_bodyPhrases]
    | separate withTable quoted => rfl

theorem Index.statement?_eq (name : String) (index : Index) :
    index.statement? d q table name = (index.statementPhrases? d q table name).map sqlOf := by
  unfold statement? statementPhrases?
  split
  · rfl
  · cases d.indexes with
    | inBody => rfl
    | separate withTable quoted => simp [sqlOf_statementPhrases]

/-- The items of the body are spelled by their phrases. -/
theorem TableSchema.sql_items (columns : List Column) :
    (s.items d q columns).map BodyItem.sql = (s.itemPhrases d q columns).map sqlOf := by
  unfold items itemPhrases indexItems
  simp only [List.map_append, List.map_filterMap, Index.sql_bodyItem?, Constraint.sql_bodyItem?]
  cases s.impliedKey? columns with
  | none => rfl
  | some key =>
    have hkey := Constraint.sql_bodyItem? (d := d) (q := q) key
    rw [Option.bind_some, Option.bind_some, ← Option.toList_map, ← Option.toList_map, hkey]

namespace CreateTable

/-- The columns are spelled by theirs. -/
theorem Compiles.sql_columns (h : Compiles d q table s t) :
    t.columns.map Column.sql = (s.columnPhrases d q).map sqlOf := by
  -- Fields and columns are paired up by the compiler; the induction follows the pairs.
  have hcolumns : ∀ (entries : List (String × Field)) (columns : List Column),
      List.Forall₂
        (fun entry c =>
          ∃ type, entry.2.Compiles d q (!s.declarations.hasPrimaryKey) entry.1 type c)
        entries columns →
      columns.map Column.sql = (entries.filterMap fun entry =>
        (d.types.find? entry.2.abstractType).map fun type =>
          (entry.2.withName entry.1).phrases d q entry.1 type
            (!s.declarations.hasPrimaryKey)).map sqlOf := by
    intro entries columns hforall
    induction hforall with
    | nil => rfl
    | cons hentry _ ih =>
      rcases hentry with ⟨type, hc⟩
      rw [List.map_cons, List.filterMap_cons, hc.known, Option.map_some, List.map_cons, ih,
        Field.sqlOf_phrases, hc.column_eq]
  exact hcolumns _ _ h.columns

/-- The body is spelled by the phrases of its columns and items. -/
theorem Compiles.body_eq (h : Compiles d q table s t) :
    t.body =
      sqlOf ([Phrase.text ",\n"].intercalate
        ((s.columnPhrases d q).filter fun column => sqlOf column != ""))
      ++ sqlOf ((s.itemPhrases d q t.columns).flatMap (Phrase.text ",\n" :: ·)) := by
  have hitems : (t.items.map fun item => ",\n" ++ item.sql) =
      (s.itemPhrases d q t.columns).map fun phrases => ",\n" ++ sqlOf phrases := by
    have hsql := congrArg (List.map (",\n" ++ ·)) (s.sql_items (d := d) (q := q) t.columns)
    rw [List.map_map, List.map_map, ← h.items_eq] at hsql
    exact hsql
  unfold body
  rw [sqlOf_intercalate, sqlOf_flatMap, h.sql_columns, List.filter_map, hitems]
  simp only [sqlOf_cons, sql]
  rfl

/-- The statement that creates the table is spelled by its phrases. -/
theorem Compiles.statement_eq (h : Compiles d q table s t) :
    t.statement = sqlOf (s.tablePhrases d q table t.columns) := by
  have hattributes : t.attributes = sqlOf (d.layout.phrases
      (d.tableAttributes.phrases q s.declarations.attributes none none)) := by
    rw [AttributeLayout.sqlOf_phrases, ← AttributeTable.collect_eq, h.attributes_eq]
  unfold statement TableSchema.tablePhrases
  rw [h.body_eq, h.name_eq, hattributes]
  simp only [sqlOf_append, sqlOf_cons, sqlOf_nil, sql, String.append_assoc, String.append_empty]

/-- The phrases of a schema spell out its statements. -/
theorem Compiles.statements_eq (h : Compiles d q table s t) :
    t.statements = (s.phrases d q table t.columns).map sqlOf := by
  unfold statements TableSchema.phrases
  rw [List.map_cons, h.statement_eq, h.indexes_eq, List.map_filterMap]
  unfold indexStatements
  simp only [Index.statement?_eq]

end CreateTable

end Texts

/-! ## What is wanting -/

/-- What is wanting in some phrases is of one kind. -/
def Phrase.WantsOnly (R : Phrase → Prop) (phrases : List Phrase) : Prop :=
  ∀ phrase ∈ phrases, phrase.isWanting = true → R phrase

namespace Phrase.WantsOnly

variable {R : Phrase → Prop} {phrases phrases' : List Phrase} {phrase : Phrase}

theorem nil : WantsOnly R [] :=
  nofun

theorem cons (hphrase : phrase.isWanting = true → R phrase) (h : WantsOnly R phrases) :
    WantsOnly R (phrase :: phrases) :=
  List.forall_mem_cons.2 ⟨hphrase, h⟩

theorem cons_text (sql : String) (h : WantsOnly R phrases) :
    WantsOnly R (.text sql :: phrases) :=
  h.cons nofun

theorem singleton (h : phrase.isWanting = true → R phrase) : WantsOnly R [phrase] :=
  nil.cons h

/-- What is wanting in two lists of phrases is wanting in one of them. -/
theorem append (h : WantsOnly R phrases) (h' : WantsOnly R phrases') :
    WantsOnly R (phrases ++ phrases') :=
  List.forall_mem_append.2 ⟨h, h'⟩

/-- A text between groups of phrases wants nothing. -/
theorem intercalate (sep : String) {parts : List (List Phrase)}
    (h : ∀ part ∈ parts, WantsOnly R part) : WantsOnly R ([Phrase.text sep].intercalate parts) :=
  intercalate_induction nil append (nil.cons_text sep) h

theorem settings {settings : List Phrase} (h : WantsOnly R settings) :
    ∀ part ∈ settings.map ([·]), WantsOnly R part := by
  intro part hpart
  rcases List.mem_map.1 hpart with ⟨phrase, hmem, rfl⟩
  exact singleton (h phrase hmem)

/-- What is wanting in a filled template is wanting in one of its values. -/
theorem template {template : Template} {values : List (String × Phrase)}
    (h : ∀ value ∈ values, value.2.isWanting = true → R value.2) :
    WantsOnly R (template.phrases values) := by
  refine intercalate " " ?_
  intro part hpart
  rcases List.mem_map.1 (List.mem_filter.1 hpart).1 with ⟨word, _, rfl⟩
  intro phrase hphrase
  rcases List.mem_map.1 hphrase with ⟨piece, _, rfl⟩
  cases piece with
  | text s =>
    intro hwanting
    cases hwanting
  | slot name =>
    -- A slot that has no value is left out: its phrase is an empty text, and no operand.
    rw [Template.piecePhrase]
    cases hlookup : values.lookup name with
    | none =>
      intro hwanting
      cases hwanting
    | some value =>
      rcases List.lookup_eq_some_iff.1 hlookup with ⟨front, back, hvalues, _⟩
      have hmem : (name, value) ∈ values := by simp [hvalues]
      exact h _ hmem

end Phrase.WantsOnly

/-! ## Blanks that a schema spells out -/

def Constraint.columnLists : Constraint → List ColumnNames
  | primary columns => [columns]
  | foreignKey columns _ targets _ => [columns, targets]
  | unique columns _ => [columns]
  | check _ => []
  | unknown => []

/-- The lists of columns that a schema gives for its indexes and constraints. -/
def Declarations.columnLists (d : Declarations) : List ColumnNames :=
  d.indexes.entries.map (fun entry => entry.2.columns)
    ++ d.constraints.flatMap Constraint.columnLists

theorem Declarations.columns_mem_columnLists {declared : Declarations} {entry : String × Index}
    (h : entry ∈ declared.indexes.entries) : entry.2.columns ∈ declared.columnLists :=
  List.mem_append_left _ (List.mem_map.2 ⟨entry, h, rfl⟩)

theorem Constraint.mem_columnLists {declared : Declarations} {c : Constraint}
    {columns : ColumnNames} (hc : c ∈ declared.constraints) (hcolumns : columns ∈ c.columnLists) :
    columns ∈ declared.columnLists :=
  List.mem_append_right _ (List.mem_flatMap.2 ⟨c, hc, hcolumns⟩)

/-- The text of an attribute that a dialect writes without quotes is there, but blank. -/
structure AttributeTable.SpellsBlank (table : AttributeTable) (data : OrderedMap Scalar)
    (phrase : Phrase) (name : String) (rule : AttributeRule) (text : String) : Prop where
  given : data.get? name = some (.text text)
  known : table.lookup name = some rule
  bare : rule.quoted = false
  nonempty : text ≠ ""
  blank : isBlankText text = true
  phrase_eq : phrase = .setting (rule.keyword ++ rule.joint) text

/-- A phrase is wanting because of a blank that the schema itself spells out. -/
inductive TableSchema.SpellsBlank (d : Dialect) (s : TableSchema) : Phrase → Prop where
  | default {entry : String × Field} {sql : String} (field : entry ∈ s.fields.entries)
      (unmarked : entry.2.isPrimary = false) (given : entry.2.defaultValue = some (.raw sql))
      (blank : isBlankText sql = true) : SpellsBlank d s (.operand "DEFAULT " sql)
  | action {columns targets : ColumnNames} {table sql : String}
      (given : .foreignKey columns table targets (some sql) ∈ s.declarations.constraints)
      (blank : isBlankText sql = true) : SpellsBlank d s (.operand "ON " sql)
  | fieldAttribute {entry : String × Field} {phrase : Phrase} {name text : String}
      {rule : AttributeRule} (field : entry ∈ s.fields.entries)
      (given : d.columnAttributes.SpellsBlank entry.2.attributes phrase name rule text) :
      SpellsBlank d s phrase
  | tableAttribute {phrase : Phrase} {name text : String} {rule : AttributeRule}
      (given : d.tableAttributes.SpellsBlank s.declarations.attributes phrase name rule text) :
      SpellsBlank d s phrase
  | columns {columns : ColumnNames} (given : columns ∈ s.declarations.columnLists)
      (lacking : columns.toList = [] ∨ "" ∈ columns.toList) :
      SpellsBlank d s (columns.phrase d.quotes.quoter)

section Wanting

variable {d : Dialect} {table : String} {s : TableSchema} {t : CreateTable}

/-- Columns are wanting if there are none, or if one has no name. -/
theorem ColumnNames.isWanting_phrase_iff (hd : d ∈ Dialect.provided) {columns : ColumnNames} :
    (columns.phrase d.quotes.quoter).isWanting = true ↔
      columns.toList = [] ∨ "" ∈ columns.toList := by
  simp [phrase, isWanting, isBlankText_name_iff hd]

/-- An attribute is wanting only if its value is blank and stands without quotes. -/
theorem AttributeTable.spellsBlank_of_isWanting (hd : d ∈ Dialect.provided)
    {attributes : AttributeTable} {data : OrderedMap Scalar} {names : Option (List String)}
    {side : Option Placement} {phrase : Phrase}
    (hmem : phrase ∈ attributes.phrases d.quotes.quoter data names side)
    (hwanting : phrase.isWanting = true) :
    ∃ name rule text, attributes.SpellsBlank data phrase name rule text := by
  rcases List.mem_filterMap.1 hmem with ⟨row, _, hphrase⟩
  rcases Option.bind_eq_some_iff.1 hphrase with ⟨value, hgiven, hfiltered⟩
  rcases Option.map_eq_some_iff.1 (Option.filter_eq_some_iff.1 hfiltered).1 with ⟨rule, hrule, rfl⟩
  rcases Option.filter_eq_some_iff.1 hrule with ⟨hknown, hheeded⟩
  have hpresent : value.isAbsent = false := by
    simpa using (Bool.and_eq_true_iff.1 hheeded).1
  have hblank : isBlankText
      (if rule.quoted then d.quotes.quoter.value value .text else value.display) = true := hwanting
  -- What is written in quotes is not blank, and neither is a number or a truth value.
  cases hquoted : rule.quoted with
  | true =>
    rw [hquoted, if_pos rfl, isBlankText_eq_false_iff.2 (HasInk.literal hd value .text)] at hblank
    cases hblank
  | false =>
    rw [hquoted, if_neg Bool.false_ne_true] at hblank
    rcases Scalar.eq_text_of_isBlankText_display hblank with ⟨text, rfl, htext⟩
    have hnonempty : text ≠ "" := by
      rintro rfl
      cases hpresent
    refine ⟨row.1, rule, text, hgiven, hknown, hquoted, hnonempty, htext, ?_⟩
    unfold AttributeRule.phrase
    rw [hquoted]
    rfl

/-- A clause wants nothing but its default. -/
theorem ClauseRules.wantsOnly {R : Phrase → Prop} (rules : ClauseRules) (keyword : String)
    {expression : Option String}
    (h : ∀ sql ∈ expression, isBlankText sql = true → R (.operand "DEFAULT " sql))
    (nullable : Option Bool) : WantsOnly R (rules.clause keyword expression nullable).phrases := by
  unfold ClauseRules.clause
  cases expression with
  | some sql =>
    have hdefault : WantsOnly R [.operand "DEFAULT " sql] := .singleton (h sql rfl)
    rcases nullable with _ | _ | _
    · exact hdefault
    · cases rules.order with
      | notNullFirst => exact hdefault.cons_text _
      | defaultFirst => exact hdefault.append (WantsOnly.nil.cons_text _)
    · exact hdefault
  | none =>
    -- A nullable column has the default `NULL` where the dialect writes no `NULL` of its own.
    have hnull : isBlankText "NULL" = false := by decide
    rcases nullable with _ | _ | _
    · exact WantsOnly.nil.cons_text _
    · exact WantsOnly.nil.cons_text _
    · simp only
      split
      · exact WantsOnly.nil.cons_text _
      · refine .singleton fun hwanting => ?_
        rw [isWanting, hnull] at hwanting
        cases hwanting

/-- A constraint wants nothing but its columns, its table and its action. -/
theorem Constraint.wantsOnly {R : Phrase → Prop} {q : Quoter} {templates : ConstraintTemplates}
    {c : Constraint} {phrases : List Phrase} (h : c.phrases? q templates = some phrases)
    (hlists : ∀ columns ∈ c.columnLists,
      (columns.phrase q).isWanting = true → R (columns.phrase q))
    (haction : ∀ columns table targets sql, c = .foreignKey columns table targets (some sql) →
      isBlankText sql = true → R (.operand "ON " sql)) : WantsOnly R phrases := by
  rcases Option.bind_eq_some_iff.1 h with ⟨form, _, hform⟩
  rcases Option.map_eq_some_iff.1 hform with ⟨values, hvalues, rfl⟩
  refine .template ?_
  cases c with
  | primary columns =>
    cases hvalues
    simpa using hlists columns List.mem_cons_self
  | foreignKey columns name targets action =>
    cases hvalues
    have hcolumns := hlists columns List.mem_cons_self
    have htargets := hlists targets (List.mem_cons_of_mem _ List.mem_cons_self)
    simp only [List.forall_mem_cons]
    refine ⟨hcolumns, nofun, htargets, ?_, nofun⟩
    cases action with
    | none => exact nofun
    | some sql => exact haction columns name targets sql rfl
  | unique columns index =>
    cases hvalues
    simp only [List.forall_mem_cons]
    exact ⟨hlists columns List.mem_cons_self, nofun, nofun⟩
  | check expression =>
    -- A check is only written if its expression is not blank.
    simp only [phraseValues?] at hvalues
    split at hvalues
    · cases hvalues
    · next hblank =>
      cases hvalues
      simp [isWanting, hblank]
  | unknown => cases hvalues

namespace TableSchema.SpellsBlank

/-- The clause of a field is wanting only as the schema has it. -/
theorem clause (hd : d ∈ Dialect.provided) {entry : String × Field}
    (hentry : entry ∈ s.fields.entries) (type : ColumnType) (inlineKey : Bool) :
    WantsOnly (s.SpellsBlank d)
      ((entry.2.withName entry.1).clause d d.quotes.quoter type inlineKey).phrases := by
  unfold Field.clause
  split
  · exact WantsOnly.nil.cons_text _
  · split
    · exact WantsOnly.nil.cons_text _
    · next hkey =>
      have hunmarked : (entry.2.withName entry.1).isPrimary = false := by simpa using hkey
      refine ClauseRules.wantsOnly _ _ ?_ _
      intro sql hsql hblank
      rcases Option.map_eq_some_iff.1 hsql with ⟨value, hvalue, rfl⟩
      have hgiven : entry.2.defaultValue = some value := (Option.filter_eq_some_iff.1 hvalue).1
      -- A literal is never blank.
      cases value with
      | literal v =>
        rw [DefaultValue.expression, isBlankText_eq_false_iff.2 (HasInk.literal hd v _)] at hblank
        cases hblank
      | raw expression => exact .default hentry hunmarked hgiven hblank

theorem column (hd : d ∈ Dialect.provided) {entry : String × Field}
    (hentry : entry ∈ s.fields.entries) (type : ColumnType) (inlineKey : Bool) :
    WantsOnly (s.SpellsBlank d)
      ((entry.2.withName entry.1).phrases d d.quotes.quoter entry.1 type inlineKey) := by
  have hattributes : ∀ side, WantsOnly (s.SpellsBlank d)
      (d.columnAttributes.phrases d.quotes.quoter entry.2.attributes none side) := by
    intro side phrase hmem hwanting
    rcases AttributeTable.spellsBlank_of_isWanting hd hmem hwanting with ⟨name, rule, text, hblank⟩
    exact .fieldAttribute hentry hblank
  have hparts : ∀ part ∈ (entry.2.withName entry.1).partPhrases d d.quotes.quoter entry.1 type
      inlineKey, WantsOnly (s.SpellsBlank d) part := by
    have hclause := clause hd hentry type inlineKey
    have hbefore := WantsOnly.settings (hattributes (some .before))
    have hafter := WantsOnly.settings (hattributes (some .after))
    unfold Field.partPhrases
    simp only [List.forall_mem_append, List.forall_mem_cons]
    exact ⟨⟨WantsOnly.nil.cons_text _, WantsOnly.nil.cons_text _, hbefore⟩, hclause, hafter⟩
  exact .intercalate " " fun part hpart => hparts part (List.mem_filter.1 hpart).1

/-- A list of columns that the schema gives is wanting only if it is empty or names no column. -/
theorem columnList (hd : d ∈ Dialect.provided) {columns : ColumnNames}
    (hcolumns : columns ∈ s.declarations.columnLists)
    (hwanting : (columns.phrase d.quotes.quoter).isWanting = true) :
    s.SpellsBlank d (columns.phrase d.quotes.quoter) :=
  .columns hcolumns ((ColumnNames.isWanting_phrase_iff hd).1 hwanting)

theorem constraint (hd : d ∈ Dialect.provided) {c : Constraint}
    (hc : c ∈ s.declarations.constraints) {phrases : List Phrase}
    (h : c.phrases? d.quotes.quoter d.constraints = some phrases) :
    WantsOnly (s.SpellsBlank d) phrases := by
  refine Constraint.wantsOnly h ?_ ?_
  · intro columns hcolumns hwanting
    exact columnList hd (Constraint.mem_columnLists hc hcolumns) hwanting
  · rintro columns name targets sql rfl hblank
    exact .action hc hblank

theorem index (hd : d ∈ Dialect.provided) {entry : String × Index}
    (hentry : entry ∈ s.declarations.indexes.entries) (front back : String) :
    WantsOnly (s.SpellsBlank d)
      [.text front, entry.2.columns.phrase d.quotes.quoter, .text back] := by
  have hlist := columnList hd (Declarations.columns_mem_columnLists hentry)
  exact ((WantsOnly.nil.cons_text back).cons hlist).cons_text front

theorem indexItem (hd : d ∈ Dialect.provided) {entry : String × Index}
    (hentry : entry ∈ s.declarations.indexes.entries) {phrases : List Phrase}
    (h : entry.2.bodyPhrases? d d.quotes.quoter entry.1 = some phrases) :
    WantsOnly (s.SpellsBlank d) phrases := by
  unfold Index.bodyPhrases? at h
  split at h
  · -- The reserved name stands for a primary key.
    refine Constraint.wantsOnly h ?_ nofun
    intro columns hcolumns
    rw [List.mem_singleton.1 hcolumns]
    exact columnList hd (Declarations.columns_mem_columnLists hentry)
  · cases hplace : d.indexes with
    | inBody =>
      rw [hplace] at h
      cases h
      exact index hd hentry _ _
    | separate withTable quoted =>
      rw [hplace] at h
      cases h

/-- The key that follows from the marked fields has the name of a column, which is not empty. -/
theorem impliedKey (hd : d ∈ Dialect.provided)
    (h : CreateTable.Compiles d d.quotes.quoter table s t) {key : Constraint}
    (hkey : s.impliedKey? t.columns = some key) {phrases : List Phrase}
    (hphrases : key.phrases? d.quotes.quoter d.constraints = some phrases) :
    WantsOnly (s.SpellsBlank d) phrases := by
  unfold TableSchema.impliedKey? at hkey
  split at hkey
  · cases hkey
  · rcases Option.map_eq_some_iff.1 hkey with ⟨name, hlast, rfl⟩
    rcases List.mem_map.1 (List.mem_of_getLast? hlast) with ⟨entry, hentry, rfl⟩
    have hne : entry.1 ≠ "" := by
      rcases exists_of_forall₂_of_mem h.columns.flip (List.mem_filter.1 hentry).1 with
        ⟨_, _, type, hcompiles⟩
      exact hcompiles.key_ne
    refine Constraint.wantsOnly hphrases ?_ nofun
    intro columns hcolumns hwanting
    rw [List.mem_singleton.1 hcolumns, ColumnNames.isWanting_phrase_iff hd] at hwanting
    simp [ColumnNames.toList, hne.symm] at hwanting

/-- What is wanting in the items of the body stands blank in the schema. -/
theorem item (hd : d ∈ Dialect.provided)
    (h : CreateTable.Compiles d d.quotes.quoter table s t) :
    ∀ phrases ∈ s.itemPhrases d d.quotes.quoter t.columns,
      WantsOnly (s.SpellsBlank d) phrases := by
  unfold TableSchema.itemPhrases
  simp only [List.forall_mem_append]
  refine ⟨⟨?_, ?_⟩, ?_⟩
  · intro phrases hphrases
    rcases List.mem_filterMap.1 hphrases with ⟨entry, hentry, hitem⟩
    exact indexItem hd hentry hitem
  · intro phrases hphrases
    rcases List.mem_filterMap.1 hphrases with ⟨c, hc, hitem⟩
    exact constraint hd hc hitem
  · intro phrases hphrases
    rcases Option.bind_eq_some_iff.1 (Option.mem_toList.1 hphrases) with ⟨key, hkey, hitem⟩
    exact impliedKey hd h hkey hitem

/-- What is wanting in the statement that creates the table stands blank in the schema. -/
theorem tableStatement (hd : d ∈ Dialect.provided)
    (h : CreateTable.Compiles d d.quotes.quoter table s t) :
    WantsOnly (s.SpellsBlank d) (s.tablePhrases d d.quotes.quoter table t.columns) := by
  have hcolumns : ∀ column ∈ s.columnPhrases d d.quotes.quoter,
      WantsOnly (s.SpellsBlank d) column := by
    intro phrases hphrases
    rcases List.mem_filterMap.1 hphrases with ⟨entry, hentry, htype⟩
    rcases Option.map_eq_some_iff.1 htype with ⟨type, _, rfl⟩
    exact column hd hentry type _
  have hitems : WantsOnly (s.SpellsBlank d)
      ((s.itemPhrases d d.quotes.quoter t.columns).flatMap (Phrase.text ",\n" :: ·)) := by
    intro phrase hphrase
    rcases List.mem_flatMap.1 hphrase with ⟨phrases, hphrases, hmem⟩
    exact (item hd h phrases hphrases).cons_text _ phrase hmem
  have hattributes : WantsOnly (s.SpellsBlank d)
      (d.tableAttributes.phrases d.quotes.quoter s.declarations.attributes none none) := by
    intro phrase hmem hwanting
    rcases AttributeTable.spellsBlank_of_isWanting hd hmem hwanting with ⟨name, rule, text, hblank⟩
    exact .tableAttribute hblank
  have hlayout : WantsOnly (s.SpellsBlank d) (d.layout.phrases
      (d.tableAttributes.phrases d.quotes.quoter s.declarations.attributes none none)) := by
    unfold AttributeLayout.phrases
    split
    · exact .nil
    · exact (WantsOnly.intercalate _ hattributes.settings).cons_text _
  have hbody : WantsOnly (s.SpellsBlank d) ([Phrase.text ",\n"].intercalate
      ((s.columnPhrases d d.quotes.quoter).filter fun column => sqlOf column != "")) :=
    .intercalate _ fun column hcolumn => hcolumns column (List.mem_filter.1 hcolumn).1
  -- The columns, the other items of the body, the attributes of the table, and what ends it.
  exact (((hbody.cons_text _).append hitems).append (hlayout.cons_text _)).append
    (WantsOnly.nil.cons_text _)

/-- What is wanting in the statement of an index stands blank in the schema. -/
theorem indexStatement (hd : d ∈ Dialect.provided) {entry : String × Index}
    (hentry : entry ∈ s.declarations.indexes.entries) {phrases : List Phrase}
    (h : entry.2.statementPhrases? d d.quotes.quoter table entry.1 = some phrases) :
    WantsOnly (s.SpellsBlank d) phrases := by
  unfold Index.statementPhrases? at h
  split at h
  · cases h
  · cases hplace : d.indexes with
    | inBody =>
      rw [hplace] at h
      cases h
    | separate withTable quoted =>
      rw [hplace] at h
      cases h
      exact index hd hentry _ _

end TableSchema.SpellsBlank

/-- The statements of a schema are spelled out by its phrases, and whatever is wanting in them is a
blank of the schema: an expression or an action that is blank, an attribute that is a text of blanks
and written without quotes, or a list of columns that is empty or names the empty column.  What is
missing from the schema, or a check that is blank, leaves no keyword behind. -/
theorem CreateTable.spellsBlank_of_wanting_phrase (hd : d ∈ Dialect.provided)
    (h : CreateTable.ofSchema d d.quotes.quoter table s = .ok t) :
    t.statements = (s.phrases d d.quotes.quoter table t.columns).map sqlOf ∧
      ∀ statement ∈ s.phrases d d.quotes.quoter table t.columns, ∀ phrase ∈ statement,
        phrase.isWanting = true → s.SpellsBlank d phrase := by
  have hcompiles := CreateTable.ofSchema_eq_ok_iff.1 h
  refine ⟨hcompiles.statements_eq, ?_⟩
  intro statement hstatement
  rcases List.mem_cons.1 hstatement with rfl | hindex
  · exact TableSchema.SpellsBlank.tableStatement hd hcompiles
  · rcases List.mem_filterMap.1 hindex with ⟨entry, hentry, hphrases⟩
    exact TableSchema.SpellsBlank.indexStatement hd hentry hphrases

end Wanting

/-- A schema with a blank in every place where one may be spelled out. -/
def TableSchema.gapped : TableSchema where
  fields := .ofList
    [("a", { typeName := some "integer", defaultValue := some (.raw "") }),
      ("b", { attributes := .ofList [("collate", .text " ")] })]
  declarations :=
    { indexes := .ofList [("i", ⟨.one "", false⟩)]
      constraints := [.foreignKey (.one "a") "u" (.one "id") (some ""), .unique (.many []) false] }

/-- A default, an attribute, an action and columns that are blank, each of them found. -/
theorem CreateTable.spellsBlank_of_wanting_phrase_gapped :
    ∃ t, CreateTable.ofSchema Dialect.mysql Dialect.mysql.quotes.quoter "t" .gapped = .ok t ∧
      TableSchema.gapped.SpellsBlank Dialect.mysql (.operand "DEFAULT " "") ∧
      TableSchema.gapped.SpellsBlank Dialect.mysql (.setting "COLLATE " " ") ∧
      TableSchema.gapped.SpellsBlank Dialect.mysql (.operand "ON " "") ∧
      TableSchema.gapped.SpellsBlank Dialect.mysql (.list [""]) ∧
      TableSchema.gapped.SpellsBlank Dialect.mysql (.list []) := by
  obtain ⟨t, h⟩ : ∃ t, CreateTable.ofSchema Dialect.mysql Dialect.mysql.quotes.quoter "t" .gapped =
      .ok t := ⟨_, rfl⟩
  have honly := (CreateTable.spellsBlank_of_wanting_phrase Dialect.mysql_mem_provided h).2 _
    List.mem_cons_self
  refine ⟨t, h, ?_⟩
  cases h
  refine ⟨honly _ ?_ rfl, honly _ ?_ rfl, honly _ ?_ rfl, honly _ ?_ rfl, honly _ ?_ rfl⟩ <;> decide

/-- The compiler passes the blanks of a schema on, and their keywords with them. -/
theorem CreateTable.statements_gapped :
    TableSchema.ofText? TableSchema.gapped.toJson.print = some .gapped ∧
      ∃ t, CreateTable.ofSchema Dialect.mysql Dialect.mysql.quotes.quoter "t" .gapped = .ok t ∧
        t.statements = ["CREATE TABLE `t` (\n`a` int(11) DEFAULT ,\n`b` varchar(255) COLLATE,\n" ++
          "KEY `i` (),\nFOREIGN KEY (`a`) REFERENCES `u` (`id`) ON ,\nUNIQUE ());"] ∧
        (TableSchema.gapped.phrases Dialect.mysql Dialect.mysql.quotes.quoter "t" t.columns).map
            (fun statement => statement.filter Phrase.isWanting) =
          [[.operand "DEFAULT " "", .setting "COLLATE " " ", .list [""], .operand "ON " "",
            .list []]] := by
  refine ⟨?_, _, rfl, ?_, ?_⟩
  · unfold TableSchema.ofText?
    rw [Draft.ofText?_printed, Option.bind_some]
    decide +kernel
  · decide +kernel
  · decide +kernel

end TableDdl
