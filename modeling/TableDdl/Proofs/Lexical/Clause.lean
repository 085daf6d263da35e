import TableDdl.Proofs.Compilation
import TableDdl.Proofs.Lexical.Reader
import TableDdl.Proofs.Lexical.Token

/-!
# Reading clauses back

The clause of a column says whether the column may hold NULL and what its default is.  No literal
looks like the words of the clause, so both can be told from it, whatever text a default holds.

* `ColumnClause.read?` reads a clause, and `ColumnClause.read?_sql` says that it finds a clause again
  whose expression is a literal;
* `Field.defaultText?` is the text of the default that a field asks for;
* `ClauseRules.sql_clause_eq_iff`: which defaults and answers have the same clause.

`Column.clause_of_ofField` adds what the clause of a marked field is.
-/

namespace TableDdl

open Lexical

/-! ## Literals -/

def Lexical.LiteralToken.chars : LiteralToken → List Char
  | bare cs => cs
  | string content => QuoteStyle.stringChars content

def IsLiteralText (style : QuoteStyle) (text : String) : Prop :=
  ∃ v formatter, text = style.value v formatter

/-- The characters of a literal's token are those of its text. -/
theorem Literal.chars_token (style : QuoteStyle) (literal : Literal) :
    (literal.token style).chars = (style.literalText literal).toList := by
  cases literal with
  | null => rfl
  | boolean b => rfl
  | bare text => rfl
  | quoted content =>
    unfold QuoteStyle.literalText
    rw [String.toList_ofList]
    rfl

section Literals

variable {style : QuoteStyle} {text : String} {rest : List Char}

/-- A reader takes just the literal and gives it back as it was written. -/
theorem IsLiteralText.read (hwords : TokenWords style) (h : IsLiteralText style text)
    (hrest : EndsLiteral rest) :
    ∃ token, readLiteral? (text.toList ++ rest) = some (token, rest) ∧
      String.ofList token.chars = text := by
  rcases h with ⟨v, formatter, rfl⟩
  refine ⟨(v.literal formatter).token style, readLiteral?_value hwords v formatter hrest, ?_⟩
  rw [Literal.chars_token, String.ofList_toList]
  rfl

/-- Only a missing value is written as the word for it. -/
theorem QuoteStyle.value_ne_null {d : Dialect} (hd : d ∈ Dialect.provided) {v : Scalar}
    (hv : v ≠ .null) (formatter : Formatter) : d.quotes.value v formatter ≠ "NULL" := by
  have hrenders := v.renders_literal formatter
  have hquoted : ∀ content, d.quotes.literalText (.quoted content) ≠ "NULL" := by
    intro content hsame
    have hchars := congrArg String.toList hsame
    simp [QuoteStyle.literalText, QuoteStyle.stringChars] at hchars
  unfold QuoteStyle.value
  generalize v.literal formatter = literal at hrenders ⊢
  cases hrenders with
  | null absent => exact absurd absent hv
  | boolean =>
    rcases Dialect.mem_provided_iff.1 hd with rfl | rfl | rfl <;> cases ‹Bool› <;> decide
  | number shown form =>
    intro hsame
    have htext : _ = "NULL" := hsame
    subst htext
    exact absurd (form.numeralText 'N' (by simp)) (by decide)
  | display => exact hquoted _
  | date => exact hquoted _

end Literals

/-! ## The reader -/

namespace ColumnClause

def readNotNullFirst? (cs : List Char) : Option ColumnClause := do
  let cs ← cs.dropPrefix? "NOT NULL DEFAULT ".toList
  let (token, cs) ← readLiteral? cs
  if cs = [] then some (.notNullDefault .notNullFirst (String.ofList token.chars)) else none

/-- Reads what stands behind a default: nothing, or nullability up to the end. -/
def readBehind? (text : String) : List Char → Option ColumnClause
  | [] => some (.default text)
  | c :: cs =>
      if c :: cs = " NOT NULL".toList then some (.notNullDefault .defaultFirst text) else none

/-- Reads a default, which nullability may follow. -/
def readDefault? (cs : List Char) : Option ColumnClause := do
  let cs ← cs.dropPrefix? "DEFAULT ".toList
  let (token, cs) ← readLiteral? cs
  readBehind? (String.ofList token.chars) cs

def readPhrase? (cs : List Char) : Option ColumnClause :=
  if cs = [] then some .unspecified
  else if cs = "NULL".toList then some .null
  else if cs = "NOT NULL".toList then some .notNull
  else none

/-- Reads a whole text as the clause of a column that has no key of its own. -/
def read? (cs : List Char) : Option ColumnClause :=
  readNotNullFirst? cs <|> readDefault? cs <|> readPhrase? cs

/-- The clause is not that of a key rule, and its expression is a literal. -/
inductive IsLiteral (style : QuoteStyle) : ColumnClause → Prop where
  | unspecified : IsLiteral style .unspecified
  | null : IsLiteral style .null
  | notNull : IsLiteral style .notNull
  | default {text : String} (literal : IsLiteralText style text) : IsLiteral style (.default text)
  | notNullDefault {order : ClauseOrder} {text : String} (literal : IsLiteralText style text) :
      IsLiteral style (.notNullDefault order text)

variable {style : QuoteStyle} {clause other : ColumnClause} {text : String}

theorem toList_sql_default (text : String) :
    (sql (.default text)).toList = "DEFAULT ".toList ++ text.toList :=
  String.toList_append

theorem toList_sql_notNullFirst (text : String) :
    (sql (.notNullDefault .notNullFirst text)).toList =
      "NOT NULL DEFAULT ".toList ++ text.toList :=
  String.toList_append

/-- The words behind a default stand at the end of the clause. -/
theorem toList_sql_defaultFirst (text : String) :
    (sql (.notNullDefault .defaultFirst text)).toList =
      "DEFAULT ".toList ++ (text.toList ++ " NOT NULL".toList) := by
  have htext : sql (.notNullDefault .defaultFirst text) = "DEFAULT " ++ text ++ " NOT NULL" := rfl
  rw [htext, String.toList_append, String.toList_append, List.append_assoc]

/-- A clause with a default behind NOT NULL reads back. -/
theorem readNotNullFirst?_sql (hwords : TokenWords style) (h : IsLiteralText style text) :
    readNotNullFirst? (sql (.notNullDefault .notNullFirst text)).toList =
      some (.notNullDefault .notNullFirst text) := by
  rcases h.read hwords .nil with ⟨token, hread, hchars⟩
  rw [List.append_nil] at hread
  unfold readNotNullFirst?
  rw [toList_sql_notNullFirst, dropPrefix?_append]
  simp only [Option.bind_eq_bind, Option.bind_some, hread, if_pos, hchars]

/-- A clause that begins with the default is not taken for one with NOT NULL in front. -/
theorem readNotNullFirst?_default (cs : List Char) :
    readNotNullFirst? ("DEFAULT ".toList ++ cs) = none := by
  simp [readNotNullFirst?, List.dropPrefix?]

/-- A clause that begins with a default reads back, with NOT NULL behind it or without. -/
theorem readDefault?_sql (hwords : TokenWords style) (h : IsLiteralText style text) :
    readDefault? (sql (.default text)).toList = some (.default text) ∧
      readDefault? (sql (.notNullDefault .defaultFirst text)).toList =
        some (.notNullDefault .defaultFirst text) := by
  have hbehind : readBehind? text " NOT NULL".toList = some (.notNullDefault .defaultFirst text) :=
    rfl
  have hends : EndsLiteral " NOT NULL".toList := .cons (c := ' ') (by simp) _
  rcases h.read hwords .nil with ⟨token, hread, hchars⟩
  rcases h.read hwords hends with ⟨before, hreadBefore, hcharsBefore⟩
  rw [List.append_nil] at hread
  unfold readDefault?
  refine ⟨?_, ?_⟩
  · rw [toList_sql_default, dropPrefix?_append]
    simp only [Option.bind_eq_bind, Option.bind_some, hread, hchars]
    rfl
  · rw [toList_sql_defaultFirst, dropPrefix?_append]
    simp only [Option.bind_eq_bind, Option.bind_some, hreadBefore, hcharsBefore, hbehind]

/-- The first word tells the readers apart, and each of them reads its own texts. -/
theorem read?_sql (hwords : TokenWords style) (h : clause.IsLiteral style) :
    read? clause.sql.toList = some clause := by
  unfold read?
  cases h with
  | unspecified => rfl
  | null => rfl
  | notNull => rfl
  | @default text literal =>
    have hother : readNotNullFirst? (sql (.default text)).toList = none := by
      rw [toList_sql_default, readNotNullFirst?_default]
    rw [hother, (readDefault?_sql hwords literal).1]
    rfl
  | @notNullDefault order text literal =>
    cases order with
    | notNullFirst =>
      rw [readNotNullFirst?_sql hwords literal]
      rfl
    | defaultFirst =>
      have hother : readNotNullFirst? (sql (.notNullDefault .defaultFirst text)).toList = none := by
        rw [toList_sql_defaultFirst, readNotNullFirst?_default]
      rw [hother, (readDefault?_sql hwords literal).2]
      rfl

/-- Clauses with literals that have the same text are the same. -/
theorem sql_inj (hwords : TokenWords style) (h : clause.IsLiteral style)
    (hother : other.IsLiteral style) (hsame : clause.sql = other.sql) : clause = other := by
  apply Option.some_inj.1
  calc
    some clause = read? clause.sql.toList := (read?_sql hwords h).symm
    _ = read? other.sql.toList := by rw [hsame]
    _ = some other := read?_sql hwords hother

end ColumnClause

/-! ## Defaults and answers -/

namespace ClauseRules

variable {style : QuoteStyle} (rules : ClauseRules) (keyword : String)
  {expression other : Option String} {nullable answer : Option Bool}

/-- If the default is a literal, so is what the clause says. -/
theorem isLiteral_clause (h : ∀ text ∈ expression, IsLiteralText style text) :
    (rules.clause keyword expression nullable).IsLiteral style := by
  have hnull : IsLiteralText style "NULL" := ⟨.null, .text, rfl⟩
  unfold clause
  cases expression with
  | none =>
    rcases nullable with _ | _ | _
    · exact .unspecified
    · exact .notNull
    · -- Said by the bare word, or by the missing value as the default.
      simp only
      split
      · exact .null
      · exact .default hnull
  | some text =>
    have htext := h text rfl
    rcases nullable with _ | _ | _
    · exact .default htext
    · exact .notNullDefault htext
    · exact .default htext

/-- Beside a default it only matters whether the column may not hold NULL. -/
theorem clause_eq_iff (h : expression ≠ some "NULL") (hother : other ≠ some "NULL") :
    rules.clause keyword expression nullable = rules.clause keyword other answer ↔
      expression = other ∧ (nullable = answer ∨
        expression.isSome = true ∧ nullable ≠ some false ∧ answer ≠ some false) := by
  cases expression with
  | none =>
    cases other with
    | none =>
      -- Without a default, each answer has a clause of its own.
      cases hbare : rules.bareNull.applies keyword <;> rcases nullable with _ | _ | _ <;>
        rcases answer with _ | _ | _ <;> simp [clause, hbare]
    | some text =>
      have hne : "NULL" ≠ text := fun hsame => hother (by rw [hsame])
      cases hbare : rules.bareNull.applies keyword <;> rcases nullable with _ | _ | _ <;>
        rcases answer with _ | _ | _ <;> simp [clause, hbare, hne]
  | some text =>
    have hne : text ≠ "NULL" := fun hsame => h (by rw [hsame])
    cases other with
    | none =>
      cases hbare : rules.bareNull.applies keyword <;> rcases nullable with _ | _ | _ <;>
        rcases answer with _ | _ | _ <;> simp [clause, hbare, hne]
    | some text' =>
      rcases nullable with _ | _ | _ <;> rcases answer with _ | _ | _ <;> simp [clause]

/-- With literals for defaults the text of the clause tells them, and it tells what the field answers
as far as the clause does. -/
theorem sql_clause_eq_iff (hwords : TokenWords style)
    (h : ∀ text ∈ expression, IsLiteralText style text ∧ text ≠ "NULL")
    (hother : ∀ text ∈ other, IsLiteralText style text ∧ text ≠ "NULL") :
    (rules.clause keyword expression nullable).sql = (rules.clause keyword other answer).sql ↔
      expression = other ∧ (nullable = answer ∨
        expression.isSome = true ∧ nullable ≠ some false ∧ answer ≠ some false) := by
  rw [← rules.clause_eq_iff keyword (fun hnull => (h _ hnull).2 rfl)
    (fun hnull => (hother _ hnull).2 rfl)]
  constructor
  · exact ColumnClause.sql_inj hwords (rules.isLiteral_clause keyword fun text htext => (h text htext).1)
      (rules.isLiteral_clause keyword fun text htext => (hother text htext).1)
  · intro hsame
    rw [hsame]

end ClauseRules

/-! ## The clause of a field -/

namespace Field

variable {d : Dialect} {q : Quoter} {f : Field} {type : ColumnType} {inlineKey : Bool}

/-- The text of the default that holds for the field.  Where numbers or truth values are expected,
the empty text is no default. -/
def defaultText? (q : Quoter) (type : ColumnType) (f : Field) : Option String :=
  match f.defaultValue with
  | none => none
  | some (.raw sql) => some sql
  | some (.literal v) =>
      if v = .text "" ∧ type.formatter ∈ [.integer, .real, .boolean] then none
      else some (q.value v type.formatter)

/-- The default of the field, if it has one, is a literal and not the missing value. -/
def HasLiteralDefault (f : Field) : Prop :=
  ∀ value ∈ f.defaultValue, ∃ v, value = .literal v ∧ v ≠ .null

/-- A key of this field would count up by itself: keys of the type do, no other keyword stands in
place of the type's own, and the clause for it may stand in the column. -/
def CountsUp (d : Dialect) (type : ColumnType) (inlineKey : Bool) (f : Field) : Prop :=
  type.increments = true ∧ f.ownKeyword d type = type.keyword ∧
    (inlineKey = true ∨ d.types.keyRule.declaresKey = false)

/-- The key rule applies to a marked field that counts up by itself. -/
theorem usesKeyRule_iff :
    f.usesKeyRule d type inlineKey = true ↔
      f.isPrimary = true ∧ f.CountsUp d type inlineKey := by
  unfold usesKeyRule increments CountsUp
  simp only [Bool.and_eq_true, Bool.or_eq_true, Bool.not_eq_true', beq_iff_eq, and_assoc]

/-- The text of the default that holds is the one that the field calls for. -/
theorem map_expression_effectiveDefault :
    (f.effectiveDefault type).map (DefaultValue.expression q type.formatter) =
      f.defaultText? q type := by
  have hempty : ∀ v : Scalar, v.isEmptyText = true ↔ v = .text "" := by
    intro v
    cases v <;> simp [Scalar.isEmptyText]
  unfold effectiveDefault defaultText?
  cases f.defaultValue with
  | none => rfl
  | some value =>
    cases value with
    | raw sql => simp [DefaultValue.isEmptyText, DefaultValue.expression]
    | literal v =>
      by_cases hv : v = .text ""
      · subst hv
        cases type.formatter <;> simp [DefaultValue.isEmptyText, Scalar.isEmptyText,
          DefaultValue.expression]
      · have hfull : v.isEmptyText = false := by
          rw [← Bool.not_eq_true, hempty]
          exact hv
        simp [DefaultValue.isEmptyText, hfull, hv, DefaultValue.expression]

/-- In a provided dialect the text of such a default is a literal, and not NULL. -/
theorem HasLiteralDefault.text {p : Dialect} (hp : p ∈ Dialect.provided)
    (h : f.HasLiteralDefault) : ∀ text ∈ f.defaultText? p.quotes.quoter type,
      IsLiteralText p.quotes text ∧ text ≠ "NULL" := by
  intro text htext
  unfold defaultText? at htext
  cases hdefault : f.defaultValue with
  | none =>
    rw [hdefault] at htext
    cases htext
  | some value =>
    rcases h value hdefault with ⟨v, rfl, hv⟩
    rw [hdefault] at htext
    simp only at htext
    split at htext
    · cases htext
    · cases htext
      exact ⟨⟨v, type.formatter, rfl⟩, QuoteStyle.value_ne_null hp hv type.formatter⟩

/-- What the clause of a column says, as far as the field and its type decide it. -/
structure HasClause (d : Dialect) (q : Quoter) (inlineKey : Bool) (f : Field) (type : ColumnType)
    (c : Column) : Prop where
  /-- A marked field that counts up by itself has the clause of the key rule. -/
  sql_of_countsUp : f.isPrimary = true → f.CountsUp d type inlineKey →
    c.clause.sql = d.types.keyRule.clause
  sql_of_not_countsUp : f.isPrimary = true → ¬f.CountsUp d type inlineKey →
    c.clause.sql = "NOT NULL"
  /-- Neither the default nor the answer of a marked field has an effect. -/
  clause_of_isPrimary : f.isPrimary = true → ∀ defaultValue nullable,
    ∃ c', Column.ofField d q inlineKey { f with defaultValue, nullable } = .ok c' ∧
      c'.clause = c.clause
  declaresKey_iff : c.declaresKey = true ↔
    f.isPrimary = true ∧ f.CountsUp d type inlineKey ∧ d.types.keyRule.declaresKey = true
  /-- The clause of any other field tells its default, and its answer up to one case: beside a
  default, no answer is the same as that the column may hold NULL. -/
  sql_eq_iff : f.isPrimary = false → f.HasLiteralDefault →
    ∀ inlineKey' g c', Column.ofField d q inlineKey' g = .ok c' →
      d.types.find? g.abstractType = some type → g.isPrimary = false → g.HasLiteralDefault →
      c'.keyword = c.keyword →
      (c'.clause.sql = c.clause.sql ↔
        g.defaultText? q type = f.defaultText? q type ∧ (g.nullable = f.nullable ∨
          (g.defaultText? q type).isSome = true ∧ g.nullable ≠ some false ∧
            f.nullable ≠ some false))

/-- Where the key rule applies it decides about the whole clause. -/
theorem clause_of_usesKeyRule (h : f.usesKeyRule d type inlineKey = true) :
    f.clause d q type inlineKey = .key d.types.keyRule.clause :=
  if_pos h

/-- Any other marked field is NOT NULL and has no default. -/
theorem clause_of_marked (hkey : f.isPrimary = true) (h : ¬f.usesKeyRule d type inlineKey = true) :
    f.clause d q type inlineKey = .notNull :=
  (if_neg h).trans (if_pos hkey)

/-- A field that is not marked says what its default and nullability are. -/
theorem clause_of_unmarked (hkey : f.isPrimary = false) :
    f.clause d q type inlineKey =
      d.clauses.clause (f.nativeKeyword d type) (f.defaultText? q type) f.nullable := by
  have hrule : ¬f.usesKeyRule d type inlineKey = true := by
    rw [usesKeyRule_iff, hkey]
    exact fun h => Bool.false_ne_true h.1
  have hunmarked : ¬f.isPrimary = true := by simp [hkey]
  rw [← map_expression_effectiveDefault]
  exact (if_neg hrule).trans (if_neg hunmarked)

/-- What is said of the field holds of the clause that the compiler gives its column. -/
theorem Compiles.hasClause {p : Dialect} (hp : p ∈ Dialect.provided) {name : String} {c : Column}
    (hname : f.name = some name) (hc : f.Compiles d p.quotes.quoter inlineKey name type c) :
    f.HasClause d p.quotes.quoter inlineKey type c := by
  have hclause : ∀ {g : Field} {key : String} {inlineKey : Bool} {c : Column},
      g.Compiles d p.quotes.quoter inlineKey key type c →
        c.clause = g.clause d p.quotes.quoter type inlineKey ∧
          c.keyword = g.nativeKeyword d type := by
    intro g key inlineKey c hg
    rw [hg.column_eq]
    exact ⟨rfl, rfl⟩
  refine ⟨?_, ?_, ?_, ?_, ?_⟩
  · intro hkey hcounts
    rw [(hclause hc).1, clause_of_usesKeyRule (usesKeyRule_iff.2 ⟨hkey, hcounts⟩)]
    rfl
  · intro hkey hcounts
    rw [(hclause hc).1, clause_of_marked hkey fun h => hcounts (usesKeyRule_iff.1 h).2]
    rfl
  · intro hkey defaultValue nullable
    have hg : ({ f with defaultValue, nullable } : Field).Compiles d p.quotes.quoter inlineKey name
        type ((({ f with defaultValue, nullable } : Field).withName name).column d p.quotes.quoter
          name type inlineKey) := ⟨hc.key_ne, hc.known, rfl⟩
    refine ⟨_, Column.ofField_eq_ok_iff.2 ⟨name, type, hname, hg⟩, ?_⟩
    rw [(hclause hg).1, (hclause hc).1]
    -- Neither of the two changes which of the first two clauses a marked field has.
    by_cases hrule : f.usesKeyRule d type inlineKey = true
    · rw [clause_of_usesKeyRule hrule]
      exact clause_of_usesKeyRule hrule
    · rw [clause_of_marked hkey hrule]
      exact clause_of_marked hkey hrule
  · have hdeclares : c.declaresKey =
        (f.usesKeyRule d type inlineKey && d.types.keyRule.declaresKey) := by
      rw [hc.column_eq]
      rfl
    rw [hdeclares, Bool.and_eq_true, usesKeyRule_iff, and_assoc]
  · intro hkey hdefault inlineKey' g c' hg hknown hother hotherDefault hkeyword
    -- Both clauses come from the rules, and with the same keyword.
    rcases Column.ofField_eq_ok_iff.1 hg with ⟨key, type', _, hgc⟩
    have htype : type' = type := Option.some_inj.1 (hgc.known.symm.trans hknown)
    subst htype
    rw [(hclause hc).2, (hclause hgc).2] at hkeyword
    rw [(hclause hc).1, (hclause hgc).1, clause_of_unmarked hkey, clause_of_unmarked hother,
      hkeyword]
    exact d.clauses.sql_clause_eq_iff _ (.of_mem_provided hp) (hotherDefault.text hp)
      (hdefault.text hp)

end Field

/-- Every field with a name and a known type compiles.  If it is marked as the key its clause depends
on the key rule alone; otherwise its clause tells its default and whether it may hold NULL. -/
theorem Column.clause_of_ofField {d p : Dialect} (hp : p ∈ Dialect.provided) {f : Field}
    {name : String} {type : ColumnType} (hname : f.name = some name) (hne : name ≠ "")
    (hknown : d.types.find? f.abstractType = some type) (inlineKey : Bool) :
    ∃ c, Column.ofField d p.quotes.quoter inlineKey f = .ok c ∧
      f.HasClause d p.quotes.quoter inlineKey type c := by
  have hc : f.Compiles d p.quotes.quoter inlineKey name type
      ((f.withName name).column d p.quotes.quoter name type inlineKey) := ⟨hne, hknown, rfl⟩
  exact ⟨_, Column.ofField_eq_ok_iff.2 ⟨name, type, hname, hc⟩, hc.hasClause hp hname⟩

/-- The second default holds the first one with the words behind it. -/
theorem Column.clause_of_ofField_imitated :
    ∃ c c', Column.ofField Dialect.mysql Dialect.mysql.quotes.quoter true
        (((Field.ofName "a").withDefault (.literal (.text "x"))).withNullable false) = .ok c ∧
      Column.ofField Dialect.mysql Dialect.mysql.quotes.quoter true
        ((Field.ofName "b").withDefault (.literal (.text "x' NOT NULL"))) = .ok c' ∧
      c.clause.sql = "DEFAULT 'x' NOT NULL" ∧ c'.clause.sql ≠ c.clause.sql := by
  obtain ⟨c, hc, hclause⟩ := clause_of_ofField Dialect.mysql_mem_provided (d := Dialect.mysql)
    (f := ((Field.ofName "a").withDefault (.literal (.text "x"))).withNullable false)
    rfl (by decide) rfl true
  obtain ⟨c', hc', -⟩ := clause_of_ofField Dialect.mysql_mem_provided (d := Dialect.mysql)
    (f := (Field.ofName "b").withDefault (.literal (.text "x' NOT NULL"))) rfl (by decide) rfl true
  have hliteral : ∀ (f : Field) (s : String), f.defaultValue = some (.literal (.text s)) →
      f.HasLiteralDefault := by
    intro f s hdefault value hvalue
    rw [hdefault] at hvalue
    cases hvalue
    exact ⟨.text s, rfl, by simp⟩
  refine ⟨c, c', hc, hc', ?_, ?_⟩
  · cases hc
    decide +kernel
  · have hkeyword : c'.keyword = c.keyword := by
      cases hc
      cases hc'
      rfl
    rw [Ne, hclause.sql_eq_iff rfl (hliteral _ _ rfl) true _ c' hc' rfl rfl (hliteral _ _ rfl)
      hkeyword]
    rintro ⟨htexts, -⟩
    exact absurd htexts (by decide +kernel)

end TableDdl
