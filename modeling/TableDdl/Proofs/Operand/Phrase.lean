import TableDdl.Proofs.Text.Join
import TableDdl.Statement.Table

/-!
# The phrases of a statement

The text of a statement does not show where a keyword ends and what a schema gives for it begins.
This file writes the statements once more, as lists of `Phrase`s that keep the two apart, and shows
for each part that its phrases spell out the text that the compiler gives it:

* `Phrase`: a text that stands for itself, an operand behind its keyword, an attribute behind its
  keyword, or a list of names;
* `Phrase.isWanting`: whether nothing is written where something should be;
* `phrases` of templates, attributes, clauses, fields, constraints and indexes, each with a lemma
  that `Phrase.sqlOf` gives the text.
-/

namespace TableDdl

open Text

inductive Phrase where
  /-- A text that stands for itself. -/
  | text (sql : String)
  /-- What stands behind a keyword. -/
  | operand (keyword value : String)
  /-- The value of an attribute behind its keyword; blanks at the ends of both are trimmed. -/
  | setting (keyword value : String)
  /-- Names in quotes, with commas between them. -/
  | list (names : List String)
deriving DecidableEq, Repr

namespace Phrase

def sql : Phrase → String
  | text sql => sql
  | operand keyword value => keyword ++ value
  | setting keyword value => trim (keyword ++ value)
  | list names => ", ".intercalate names

/-- Whether nothing is written where something should be: behind a keyword, in a list or at one of
its places. -/
def isWanting : Phrase → Bool
  | text _ => false
  | operand _ value => isBlankText value
  | setting _ value => isBlankText value
  | list names => names.isEmpty || names.any isBlankText

def sqlOf (phrases : List Phrase) : String :=
  String.join (phrases.map sql)

theorem toList_sqlOf (phrases : List Phrase) :
    (sqlOf phrases).toList = phrases.flatMap fun phrase => phrase.sql.toList := by
  unfold sqlOf
  rw [String.toList_join, List.flatMap_map]

@[simp] theorem sqlOf_nil : sqlOf [] = "" := rfl

@[simp] theorem sqlOf_cons (phrase : Phrase) (phrases : List Phrase) :
    sqlOf (phrase :: phrases) = phrase.sql ++ sqlOf phrases := by
  rw [← String.toList_inj]
  simp [toList_sqlOf]

theorem sqlOf_singleton (phrase : Phrase) : sqlOf [phrase] = phrase.sql := by
  rw [sqlOf_cons, sqlOf_nil, String.append_empty]

@[simp] theorem sqlOf_append (phrases phrases' : List Phrase) :
    sqlOf (phrases ++ phrases') = sqlOf phrases ++ sqlOf phrases' := by
  rw [← String.toList_inj]
  simp [toList_sqlOf]

/-- Phrases that are made one group after the other have the texts of the groups, joined. -/
theorem sqlOf_flatMap {α : Type} (f : α → List Phrase) (xs : List α) :
    sqlOf (xs.flatMap f) = String.join (xs.map fun x => sqlOf (f x)) := by
  rw [← String.toList_inj]
  simp [toList_sqlOf, List.flatMap_assoc, List.flatMap_map]

/-- Groups of phrases with a text between them have their texts with it between them. -/
theorem sqlOf_intercalate (sep : String) (parts : List (List Phrase)) :
    sqlOf ([text sep].intercalate parts) = sep.intercalate (parts.map sqlOf) := by
  rw [← String.toList_inj, toList_sqlOf, String.toList_intercalate, List.map_map]
  cases parts with
  | nil => rfl
  | cons part parts =>
    rw [List.map_cons, intercalate_cons_eq_append_flatMap, intercalate_cons_eq_append_flatMap]
    simp [toList_sqlOf, List.flatMap_assoc, List.flatMap_map, sql]

end Phrase

open Phrase

/-! ## Templates -/

theorem lookup_map_snd {α β : Type} (f : α → β) (pairs : List (String × α)) (key : String) :
    (pairs.map fun pair => (pair.1, f pair.2)).lookup key = (pairs.lookup key).map f := by
  induction pairs with
  | nil => rfl
  | cons pair pairs ih =>
    rw [List.map_cons, List.lookup_cons, List.lookup_cons, ih]
    split <;> rfl

namespace Template

def piecePhrase (values : List (String × Phrase)) : Piece → Phrase
  | .text s => .text s
  | .slot name => (values.lookup name).getD (.text "")

def wordPhrases (values : List (String × Phrase)) (word : List Piece) : List Phrase :=
  word.map (piecePhrase values)

def phrases (template : Template) (values : List (String × Phrase)) : List Phrase :=
  [Phrase.text " "].intercalate
    ((template.words.map (wordPhrases values)).filter fun word => !isBlankText (sqlOf word))

/-- The phrases of a template spell the filled template. -/
theorem sqlOf_phrases (template : Template) (values : List (String × Phrase)) :
    sqlOf (template.phrases values) =
      template.fill (values.map fun value => (value.1, value.2.sql)) := by
  have hpiece : ∀ piece, (piecePhrase values piece).sql =
      fillPiece (values.map fun value => (value.1, value.2.sql)) piece := by
    intro piece
    cases piece with
    | text s => rfl
    | slot name =>
      simp only [piecePhrase, fillPiece, lookup_map_snd]
      cases values.lookup name <;> rfl
  have hword : ∀ word, sqlOf (wordPhrases values word) =
      fillWord (values.map fun value => (value.1, value.2.sql)) word := by
    intro word
    unfold sqlOf wordPhrases fillWord
    rw [List.map_map]
    exact congrArg String.join (List.map_congr_left fun piece _ => hpiece piece)
  unfold phrases fill
  rw [sqlOf_intercalate, List.filter_map, List.filter_map, List.map_map]
  simp only [Function.comp_def, hword]

end Template

/-! ## Attributes -/

def AttributeRule.phrase (rule : AttributeRule) (q : Quoter) (value : Scalar) : Phrase :=
  .setting (rule.keyword ++ rule.joint)
    (if rule.quoted then q.value value .text else value.display)

namespace AttributeTable

variable (table : AttributeTable) (q : Quoter) (data : OrderedMap Scalar)

/-- The phrase that a row of the table contributes. -/
def phrase? (name : String) : Option Phrase :=
  (data.get? name).bind fun value =>
    (((table.lookup name).filter fun rule => !value.isAbsent && rule.allows value.display).map
      fun rule => rule.phrase q value).filter fun phrase => phrase.sql != ""

def phrases (names : Option (List String)) (placement : Option Placement) : List Phrase :=
  (table.filter fun row =>
      names.all (fun known => known.contains row.1)
        && placement.all (fun side => row.2.placement == side)).filterMap
    fun row => table.phrase? q data row.1

/-- The contribution of an attribute is the text of its phrase. -/
theorem contribution?_eq (name : String) :
    table.contribution? q data name = (table.phrase? q data name).map Phrase.sql := by
  unfold contribution? phrase? render?
  cases data.get? name with
  | none => rfl
  | some value =>
    cases table.lookup name with
    | none => cases h : value.isAbsent <;> simp [h]
    | some rule =>
      have htext : (rule.phrase q value).sql = rule.text q value := rfl
      -- Absent, not allowed, or empty once it is trimmed: each is dropped on both sides.
      cases habsent : value.isAbsent <;> cases hallowed : rule.allows value.display <;>
        by_cases hempty : rule.text q value = "" <;>
          simp [habsent, hallowed, hempty, htext, Option.filter]

/-- What is collected are the texts of the phrases. -/
theorem collect_eq (names : Option (List String)) (placement : Option Placement) :
    table.collect q data names placement = (table.phrases q data names placement).map sql := by
  unfold collect phrases
  rw [List.map_filterMap]
  simp only [contribution?_eq]

end AttributeTable

def AttributeLayout.phrases (layout : AttributeLayout) (attributes : List Phrase) : List Phrase :=
  if attributes.isEmpty then []
  else .text layout.lead :: [Phrase.text layout.separator].intercalate (attributes.map ([·]))

/-- The phrases of a layout spell what it arranges. -/
theorem AttributeLayout.sqlOf_phrases (layout : AttributeLayout) (attributes : List Phrase) :
    sqlOf (layout.phrases attributes) = layout.arrange (attributes.map sql) := by
  unfold phrases arrange
  rw [List.isEmpty_map]
  split
  · rfl
  · rw [sqlOf_cons, sqlOf_intercalate, List.map_map]
    simp only [Function.comp_def, sqlOf_cons, sqlOf_nil, String.append_empty]
    rfl

/-! ## Columns -/

def ColumnClause.phrases : ColumnClause → List Phrase
  | default expression => [.operand "DEFAULT " expression]
  | notNullDefault .notNullFirst expression => [.text "NOT NULL ", .operand "DEFAULT " expression]
  | notNullDefault .defaultFirst expression => [.operand "DEFAULT " expression, .text " NOT NULL"]
  | clause => [.text clause.sql]

/-- The phrases of a clause spell the clause. -/
theorem ColumnClause.sqlOf_phrases (clause : ColumnClause) : sqlOf clause.phrases = clause.sql := by
  match clause with
  | unspecified | key _ | notNull | null | default _ => exact sqlOf_singleton _
  | notNullDefault .notNullFirst expression =>
    have hfront : "NOT NULL " ++ "DEFAULT " = "NOT NULL DEFAULT " := by decide
    calc
      sqlOf (notNullDefault .notNullFirst expression).phrases =
          "NOT NULL " ++ ("DEFAULT " ++ expression) := by
        rw [phrases, sqlOf_cons, sqlOf_singleton]
        rfl
      _ = ("NOT NULL " ++ "DEFAULT ") ++ expression := (String.append_assoc ..).symm
      _ = "NOT NULL DEFAULT " ++ expression := congrArg (· ++ expression) hfront
  | notNullDefault .defaultFirst expression =>
    rw [phrases, sqlOf_cons, sqlOf_singleton]
    rfl

/-- The phrases of the parts of a column. -/
def Field.partPhrases (f : Field) (d : Dialect) (q : Quoter) (name : String) (type : ColumnType)
    (inlineKey : Bool) : List (List Phrase) :=
  let column := f.column d q name type inlineKey
  let attributes := fun side =>
    (d.columnAttributes.phrases q f.attributes none (some side)).map ([·])
  [.text column.name] :: [.text (column.keyword ++ column.suffix)] :: attributes .before
    ++ column.clause.phrases :: attributes .after

def Field.phrases (f : Field) (d : Dialect) (q : Quoter) (name : String) (type : ColumnType)
    (inlineKey : Bool) : List Phrase :=
  [Phrase.text " "].intercalate
    ((f.partPhrases d q name type inlineKey).filter fun part => sqlOf part != "")

/-- The phrases of a field spell its column. -/
theorem Field.sqlOf_phrases (f : Field) (d : Dialect) (q : Quoter) (name : String)
    (type : ColumnType) (inlineKey : Bool) :
    sqlOf (f.phrases d q name type inlineKey) = (f.column d q name type inlineKey).sql := by
  have hparts : (f.column d q name type inlineKey).parts =
      (f.partPhrases d q name type inlineKey).map sqlOf := by
    have hattributes : ∀ side, d.columnAttributes.collect q f.attributes none (some side) =
        ((d.columnAttributes.phrases q f.attributes none (some side)).map ([·])).map sqlOf := by
      intro side
      rw [AttributeTable.collect_eq, List.map_map]
      simp [Function.comp_def]
    simp [Column.parts, partPhrases, column, hattributes, ColumnClause.sqlOf_phrases, sql]
  unfold phrases Column.sql
  rw [sqlOf_intercalate, hparts, List.filter_map]
  rfl

/-! ## Constraints -/

def ColumnNames.phrase (q : Quoter) (columns : ColumnNames) : Phrase :=
  .list (columns.toList.map q.name)

namespace Constraint

/-- The phrases for the slots of a constraint's template. -/
def phraseValues? (q : Quoter) (indexKeyword : Option String) :
    Constraint → Option (List (String × Phrase))
  | primary columns => some [("column", columns.phrase q)]
  | foreignKey columns table targets action =>
      some [("column", columns.phrase q), ("to", .text (q.name table)),
        ("toColumn", targets.phrase q), ("on", (action.map (.operand "ON ")).getD (.text ""))]
  | unique columns index =>
      some [("column", columns.phrase q),
        ("index", .text (if index then indexKeyword.getD "" else ""))]
  | check expression =>
      if isBlankText (expression.sql q) then none else some [("expr", .operand "" (expression.sql q))]
  | unknown => none

/-- The values of a constraint are the texts of its phrases. -/
theorem values?_eq (q : Quoter) (indexKeyword : Option String) (c : Constraint) :
    c.values? q indexKeyword =
      (c.phraseValues? q indexKeyword).map fun values =>
        values.map fun value => (value.1, value.2.sql) := by
  cases c with
  | primary columns => rfl
  | foreignKey columns table targets action => cases action <;> rfl
  | unique columns index => rfl
  | check expression =>
    unfold values? phraseValues?
    simp only
    split
    · rfl
    · simp [sql]
  | unknown => rfl

def phrases? (q : Quoter) (templates : ConstraintTemplates) (c : Constraint) :
    Option (List Phrase) :=
  (templates.find? c).bind fun form =>
    (c.phraseValues? q form.indexKeyword).map form.template.phrases

/-- The phrases of a constraint spell the constraint. -/
theorem sql?_eq (q : Quoter) (templates : ConstraintTemplates) (c : Constraint) :
    c.sql? q templates = (c.phrases? q templates).map sqlOf := by
  unfold sql? phrases?
  cases templates.find? c with
  | none => rfl
  | some form =>
    simp only [Option.bind_eq_bind, Option.bind_some, values?_eq]
    cases c.phraseValues? q form.indexKeyword with
    | none => rfl
    | some values => simp [Template.sqlOf_phrases]

end Constraint

/-! ## Indexes -/

namespace Index

def bodyPhrases (index : Index) (q : Quoter) (name : String) : List Phrase :=
  [.text (index.uniqueWord ++ "KEY " ++ q.name name ++ " ("), index.columns.phrase q, .text ")"]

theorem sqlOf_bodyPhrases (index : Index) (q : Quoter) (name : String) :
    sqlOf (index.bodyPhrases q name) = index.bodySql q name := by
  unfold bodyPhrases bodySql
  rw [sqlOf_cons, sqlOf_cons, sqlOf_singleton, ← String.append_assoc]
  rfl

def statementPhrases (index : Index) (q : Quoter) (withTable quoted : Bool) (table name : String) :
    List Phrase :=
  let written := fun s => if quoted then q.name s else s
  [.text ("CREATE " ++ index.uniqueWord ++ "INDEX " ++ written (fullName withTable table name)
      ++ " ON " ++ written table ++ " ("),
    index.columns.phrase q, .text ");"]

/-- The phrases of an index in a statement of its own spell the statement. -/
theorem sqlOf_statementPhrases (index : Index) (q : Quoter) (withTable quoted : Bool)
    (table name : String) :
    sqlOf (index.statementPhrases q withTable quoted table name) =
      index.statementSql q withTable quoted table name := by
  unfold statementPhrases statementSql
  rw [sqlOf_cons, sqlOf_cons, sqlOf_singleton, ← String.append_assoc]
  rfl

end Index

end TableDdl
