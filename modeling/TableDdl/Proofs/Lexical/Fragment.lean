import TableDdl.Proofs.Dialect.Attribute
import TableDdl.Proofs.Dialect.Provided
import TableDdl.Proofs.Lexical.Literal
import TableDdl.Proofs.Text.Trim
import TableDdl.Statement.Table

/-!
# The parts of a statement are closed

Columns, conditions, constraints and indexes keep their parentheses and commas to themselves as long
as the schema gives no text that is written as it stands.

* `PlainDialect`: the words that a dialect writes by itself are plain, and its templates put lists
  of columns in parentheses;
* `Field.IsEscaped`, `Constraint.IsEscaped`: no text is written as it stands;
* `Closed.column`, `Closed.constraint` and `Closed.index` for the parts of the body.
-/

namespace TableDdl

open Text

/-! ## Schemas without verbatim texts -/

/-- Nothing that the field asks for is written as it stands. -/
structure Field.IsEscaped (d : Dialect) (f : Field) : Prop where
  nativeType_eq : f.nativeType = none
  defaultValue_ne : ∀ sql, f.defaultValue ≠ some (.raw sql)
  attributes_quoted : ∀ name ∈ f.attributes.keys, ∀ rule,
    d.columnAttributes.lookup name = some rule → rule.quoted = true

/-- Nothing that the constraint asks for is written as it stands. -/
def Constraint.IsEscaped : Constraint → Prop
  | foreignKey _ _ _ action => action = none
  | check (.raw _) => False
  | _ => True

/-- Nothing that the schema asks for inside the body of the table is written as it stands. -/
structure TableSchema.IsEscaped (d : Dialect) (s : TableSchema) : Prop where
  fields : ∀ entry ∈ s.fields.entries, entry.2.IsEscaped d
  constraints : ∀ c ∈ s.declarations.constraints, c.IsEscaped

namespace Lexical

/-! ## The words of a dialect -/

/-- Whether a word of a template is plain, or a slot for a closed text, or any slot in
parentheses. -/
def fitsWord : List Piece → Bool
  | [.text s] => decide (PlainText s.toList)
  | [.slot name] => ["to", "index", "on"].contains name
  | [.text before, .slot _, .text after] => before == "(" && after == ")"
  | _ => false

/-- The template of a constraint shows the scanner nothing but its own parentheses. -/
structure PlainTemplate (form : ConstraintTemplate) : Prop where
  words : ∀ word ∈ form.template.words, fitsWord word = true
  indexKeyword : PlainText (form.indexKeyword.getD "").toList

/-- The words that a dialect writes by itself show the scanner nothing. -/
structure PlainDialect (d : Dialect) : Prop where
  usual : Usual d.quotes
  truth : PlainWords d.quotes
  types : ∀ row ∈ d.types.types, PlainText row.2.keyword.toList
  keyKeyword : ∀ keyword ∈ d.types.keyRule.keyword, PlainText keyword.toList
  keyClause : PlainText d.types.keyRule.clause.toList
  substitute : ∀ typeName precision, ∀ keyword ∈ d.substitute typeName precision,
    PlainText keyword.toList
  attributes : ∀ row ∈ d.columnAttributes, PlainText (row.2.keyword ++ row.2.joint).toList
  attributes_head : ∀ row ∈ d.columnAttributes,
    (row.2.keyword ++ row.2.joint).toList.head?.all (fun c => !isBlank c) = true
  templates : ∀ c, ∀ form ∈ d.constraints.find? c, PlainTemplate form

/-- The exact type in the place of a float has a plain keyword. -/
theorem plainText_of_exactFloat {exact typeName keyword : String} {precision : Option UInt32}
    (hexact : PlainText exact.toList)
    (h : keyword ∈ Dialect.exactFloat exact typeName precision) : PlainText keyword.toList := by
  unfold Dialect.exactFloat at h
  split at h
  · cases h
    exact hexact
  · cases h

/-- The words of the provided dialects have no quotes, parentheses and commas in them. -/
theorem PlainDialect.of_mem_provided {d : Dialect} (h : d ∈ Dialect.provided) : PlainDialect d := by
  rcases Dialect.mem_provided_iff.1 h with rfl | rfl | rfl
  all_goals
    exact
      { usual := ⟨rfl, by decide⟩
        truth := ⟨by decide, by decide⟩
        types := by decide
        keyKeyword := by decide
        keyClause := by decide
        substitute := fun _ _ _ => plainText_of_exactFloat (by decide)
        attributes := by decide
        attributes_head := by decide
        templates := by
          rintro (_ | _ | _ | _ | _) form hform <;> cases hform <;> exact ⟨by decide, by decide⟩ }

variable {d : Dialect} {style : QuoteStyle}

/-! ## Columns -/

theorem PlainText.typeKeyword (hd : PlainDialect d) {name : String} {type : ColumnType}
    (hknown : d.types.find? name = some type) : PlainText type.keyword.toList :=
  hd.types (name, type) (TypeRegistry.mem_types_of_find? hknown)

/-- Without a native type of its own, a field has the keyword of its type, the substitute or that of
the key rule. -/
theorem PlainText.nativeKeyword (hd : PlainDialect d) {f : Field} (hf : f.nativeType = none)
    {type : ColumnType} (hknown : d.types.find? f.abstractType = some type) :
    PlainText (f.nativeKeyword d type).toList := by
  have hown : PlainText (f.ownKeyword d type).toList := by
    unfold Field.ownKeyword
    rw [hf]
    cases hsub : d.substitute f.abstractType (f.effectivePrecision type) with
    | none => exact PlainText.typeKeyword hd hknown
    | some keyword => exact hd.substitute _ _ keyword hsub
  unfold Field.nativeKeyword
  split
  · cases hkey : d.types.keyRule.keyword with
    | none => exact hown
    | some keyword => exact hd.keyKeyword keyword hkey
  · exact hown

/-- The length of a type opens as many parentheses as it closes. -/
theorem Closed.suffix (hstyle : Usual style) (rules : LengthRules) (keyword : String)
    (length precision : Option UInt32) :
    Closed style (rules.suffix keyword length precision).toList := by
  -- A suffix is at most two numbers in parentheses with a comma between them.
  have hdigits : ∀ n, Quiet style (LengthRules.digits n).toList := by
    intro n
    unfold LengthRules.digits
    rw [String.toList_ofList]
    exact Quiet.of_plain hstyle (PlainText.toDigits n.toNat)
  have hone : ∀ n, Closed style ("(" ++ LengthRules.digits n ++ ")").toList := by
    intro n
    simpa using (hdigits n).closed.nested.parens hstyle
  unfold LengthRules.suffix
  cases length with
  | none => exact Closed.nil
  | some n =>
    simp only
    split
    · cases precision with
      | none => exact hone n
      | some p =>
        simp only
        split
        · have hboth := ((hdigits n).closed.nested.append hstyle.nested_comma).append
            (hdigits p).closed.nested
          simpa using hboth.parens hstyle
        · exact hone n
    · exact Closed.nil

/-- A quoted attribute is its keyword and a string in quotes. -/
theorem toList_attributeText {rule : AttributeRule} {value : Scalar}
    (hhead : ∀ c ∈ (rule.keyword ++ rule.joint).toList.head?, isBlank c = false)
    (hquoted : rule.quoted = true) (hvalue : value.isAbsent = false) :
    (rule.text style.quoter value).toList =
      (rule.keyword ++ rule.joint).toList ++ QuoteStyle.stringChars value.display.toList := by
  have hne : value ≠ .null := by
    rintro rfl
    cases hvalue
  have hliteral : (style.quoter.value value .text).toList =
      QuoteStyle.stringChars value.display.toList := by
    simp [QuoteStyle.quoter, QuoteStyle.value, Scalar.literal, hne, QuoteStyle.literalText]
  unfold AttributeRule.text
  -- A quoted value ends in a quote, so trimming cannot reach into it.
  rw [if_pos hquoted, toList_trim, String.toList_append, hliteral]
  refine trimChars_eq_self ?_ ?_
  · intro c hc
    cases hlead : (rule.keyword ++ rule.joint).toList with
    | nil =>
      rw [hlead] at hc
      cases hc
      rfl
    | cons first rest =>
      rw [hlead] at hc hhead
      exact hhead c hc
  · intro c hc
    rw [QuoteStyle.stringChars, ← List.append_assoc, List.getLast?_concat] at hc
    cases hc
    rfl

/-- The text of a column's attribute leaves the scanner where it was. -/
theorem Quiet.columnAttribute (hd : PlainDialect d) {f : Field} (hf : f.IsEscaped d)
    {names : Option (List String)} {side : Option Placement} {text : String}
    (h : text ∈ d.columnAttributes.collect d.quotes.quoter f.attributes names side) :
    Quiet d.quotes text.toList := by
  rcases AttributeTable.mem_collect_iff.1 h with ⟨row, _, _, value, rule, hwrites⟩
  have hkey : row.1 ∈ f.attributes.keys := by
    rcases List.lookup_eq_some_iff.1 hwrites.given with ⟨front, back, hentries, _⟩
    simp [OrderedMap.keys, hentries]
  have hmem : (row.1, rule) ∈ d.columnAttributes := by
    rcases List.lookup_eq_some_iff.1 hwrites.known with ⟨front, back, hrows, _⟩
    simp [hrows]
  have hquoted := hf.attributes_quoted row.1 hkey rule hwrites.known
  have hlead := Quiet.of_plain hd.usual (hd.attributes _ hmem)
  have hhead : ∀ c ∈ (rule.keyword ++ rule.joint).toList.head?, isBlank c = false := by
    intro c hc
    have hall := hd.attributes_head _ hmem
    rw [hc] at hall
    simpa using hall
  rw [hwrites.text_eq, toList_attributeText hhead hquoted hwrites.present]
  exact hlead.append (Quiet.stringChars _)

theorem Quiet.append_text {s t : String} (hs : Quiet style s.toList) (ht : Quiet style t.toList) :
    Quiet style (s ++ t).toList := by
  rw [String.toList_append]
  exact hs.append ht

theorem Quiet.ownClause (hstyle : Usual style) (rules : ClauseRules) (keyword : String)
    {expression : Option String} (hexpression : ∀ e ∈ expression, Quiet style e.toList)
    (nullable : Option Bool) :
    Quiet style (rules.clause keyword expression nullable).sql.toList := by
  have hnot : Quiet style "NOT NULL".toList := Quiet.of_plain hstyle (by decide)
  have hnull : Quiet style "NULL".toList := Quiet.of_plain hstyle (by decide)
  have hdefault : Quiet style "DEFAULT ".toList := Quiet.of_plain hstyle (by decide)
  unfold ClauseRules.clause
  cases expression with
  | none =>
    rcases nullable with _ | _ | _
    · exact Quiet.nil
    · exact hnot
    · simp only
      split
      · exact hnull
      · exact hdefault.append_text hnull
  | some e =>
    have he := hexpression e rfl
    have hbehind : Quiet style " NOT NULL".toList := Quiet.of_plain hstyle (by decide)
    have hfront : Quiet style "NOT NULL DEFAULT ".toList := Quiet.of_plain hstyle (by decide)
    rcases nullable with _ | _ | _
    · exact hdefault.append_text he
    · cases rules.order with
      | notNullFirst => exact hfront.append_text he
      | defaultFirst => exact (hdefault.append_text he).append_text hbehind
    · exact hdefault.append_text he

/-- The clause of an escaped field leaves the scanner where it was. -/
theorem Quiet.clause (hd : PlainDialect d) {f : Field} (hf : f.IsEscaped d) (type : ColumnType)
    (inlineKey : Bool) : Quiet d.quotes (f.clause d d.quotes.quoter type inlineKey).sql.toList := by
  unfold Field.clause
  split
  · exact Quiet.of_plain hd.usual hd.keyClause
  · split
    · have hword : PlainText "NOT NULL".toList := by decide
      exact Quiet.of_plain hd.usual hword
    · refine Quiet.ownClause hd.usual _ _ ?_ _
      intro e he
      rcases Option.map_eq_some_iff.1 he with ⟨value, hvalue, rfl⟩
      have hgiven : f.defaultValue = some value := (Option.filter_eq_some_iff.1 hvalue).1
      -- A default that is written as it stands is excluded; a literal goes through the quoter.
      cases value with
      | raw sql => exact absurd hgiven (hf.defaultValue_ne sql)
      | literal v => exact Quiet.value hd.usual hd.truth v type.formatter

/-- A column has no comma outside of parentheses, and closes all that it opens. -/
theorem Closed.column (hd : PlainDialect d) {f : Field} (hf : f.IsEscaped d) {type : ColumnType}
    (hknown : d.types.find? f.abstractType = some type) (name : String) (inlineKey : Bool) :
    Closed d.quotes (f.column d d.quotes.quoter name type inlineKey).sql.toList := by
  have hblank : Quiet d.quotes " ".toList := Quiet.of_plain hd.usual (by decide)
  have hparts : ∀ part ∈ (f.column d d.quotes.quoter name type inlineKey).parts,
      Closed d.quotes part.toList := by
    intro part hpart
    -- The name, the type, the attributes on either side, and the clause between them.
    have hcases : part = d.quotes.name name ∨
        part = f.nativeKeyword d type ++ d.lengths.suffix (f.nativeKeyword d type)
          (f.effectiveLength type) (f.effectivePrecision type) ∨
        part ∈ d.columnAttributes.collect d.quotes.quoter f.attributes none (some .before) ∨
        part = (f.clause d d.quotes.quoter type inlineKey).sql ∨
        part ∈ d.columnAttributes.collect d.quotes.quoter f.attributes none (some .after) := by
      simpa [Column.parts, Field.column, QuoteStyle.quoter] using hpart
    rcases hcases with rfl | rfl | hbefore | rfl | hafter
    · exact (Quiet.name hd.usual name).closed
    · have hkeyword : Quiet d.quotes (f.nativeKeyword d type).toList :=
        Quiet.of_plain hd.usual (PlainText.nativeKeyword hd hf.nativeType_eq hknown)
      rw [String.toList_append]
      exact hkeyword.closed.append (Closed.suffix hd.usual _ _ _ _)
    · exact (Quiet.columnAttribute hd hf hbefore).closed
    · exact (Quiet.clause hd hf type inlineKey).closed
    · exact (Quiet.columnAttribute hd hf hafter).closed
  unfold Column.sql
  rw [String.toList_intercalate]
  refine intercalate_induction Closed.nil Closed.append hblank.closed ?_
  intro cs hcs
  rcases List.mem_map.1 hcs with ⟨part, hpart, rfl⟩
  exact hparts part (List.mem_filter.1 hpart).1

/-! ## Conditions -/

theorem Closed.conditionClause (hstyle : Usual style) (hwords : PlainWords style)
    (clause : ConditionClause) : Closed style (clause.sql style.quoter).toList := by
  have hname : ∀ column, Quiet style (style.name column).toList := Quiet.name hstyle
  have hoperand : ∀ v, Quiet style (style.quoter.operand v).toList := Quiet.operand hstyle hwords
  have hblank : Quiet style " ".toList := Quiet.of_plain hstyle (by decide)
  cases clause with
  | compare column op v =>
    have hop : Quiet style op.symbol.toList := by
      refine Quiet.of_plain hstyle ?_
      cases op <;> decide
    have hinside := (hname column).append (hblank.append (hop.append (hblank.append (hoperand v))))
    -- A comparison stands in parentheses of its own.
    simpa [ConditionClause.sql, QuoteStyle.quoter] using hinside.closed.nested.parens hstyle
  | equals column v =>
    have hequal : Quiet style " = ".toList := Quiet.of_plain hstyle (by decide)
    have hall := (hname column).append (hequal.append (hoperand v))
    simpa [ConditionClause.sql, QuoteStyle.quoter] using hall.closed
  | isNull column =>
    have hnull : Quiet style " IS NULL".toList := Quiet.of_plain hstyle (by decide)
    simpa [ConditionClause.sql, QuoteStyle.quoter] using ((hname column).append hnull).closed

theorem Closed.conditions (hstyle : Usual style) (hwords : PlainWords style)
    (conditions : Conditions) : Closed style (Conditions.sql style.quoter conditions).toList := by
  have hand : Quiet style " AND ".toList := Quiet.of_plain hstyle (by decide)
  unfold Conditions.sql
  rw [String.toList_intercalate]
  refine intercalate_induction Closed.nil Closed.append hand.closed ?_
  intro cs hcs
  rw [List.map_map] at hcs
  rcases List.mem_map.1 hcs with ⟨clause, _, rfl⟩
  exact Closed.conditionClause hstyle hwords clause

/-! ## Constraints and indexes -/

/-- Quoted names with commas between them may stand in parentheses. -/
theorem Nested.columnNames (hstyle : Usual style) (columns : ColumnNames) :
    Nested style (columns.sql style.quoter).toList := by
  have hblank : Quiet style " ".toList := Quiet.of_plain hstyle (by decide)
  have hseparator : Nested style ", ".toList := hstyle.nested_comma.append hblank.closed.nested
  unfold ColumnNames.sql
  rw [String.toList_intercalate]
  refine intercalate_induction Closed.nil.nested Nested.append hseparator ?_
  intro cs hcs
  rw [List.map_map] at hcs
  rcases List.mem_map.1 hcs with ⟨name, _, rfl⟩
  exact (Quiet.name hstyle name).closed.nested

/-- The value of every slot may stand in parentheses, and that of a slot outside them by itself. -/
structure SafeValues (style : QuoteStyle) (values : Template.Values) : Prop where
  inside : ∀ slot, Nested style ((values.lookup slot).getD "").toList
  outside : ∀ slot ∈ ["to", "index", "on"], Closed style ((values.lookup slot).getD "").toList

/-- A word of a template is closed whatever is put in, since lists stand in parentheses there. -/
theorem Closed.fillWord (hstyle : Usual style) {values : Template.Values}
    (hvalues : SafeValues style values) {word : List Piece} (hword : fitsWord word = true) :
    Closed style (Template.fillWord values word).toList := by
  -- A word is plain text, a slot by itself, or a slot in parentheses.
  unfold fitsWord at hword
  split at hword
  · next s =>
    have hs : PlainText s.toList := of_decide_eq_true hword
    simpa [Template.fillWord, Template.fillPiece] using (Quiet.of_plain hstyle hs).closed
  · next slot =>
    have hslot := hvalues.outside slot (by simpa using hword)
    simpa [Template.fillWord, Template.fillPiece] using hslot
  · next before slot after =>
    have hmarks : before = "(" ∧ after = ")" := by simpa using hword
    rw [hmarks.1, hmarks.2]
    simpa [Template.fillWord, Template.fillPiece] using (hvalues.inside slot).parens hstyle
  · cases hword

/-- A filled template closes all that it opens, whatever safe values are put in. -/
theorem Closed.fill (hstyle : Usual style) {template : Template} {values : Template.Values}
    (hwords : ∀ word ∈ template.words, fitsWord word = true) (hvalues : SafeValues style values) :
    Closed style (template.fill values).toList := by
  have hblank : Quiet style " ".toList := Quiet.of_plain hstyle (by decide)
  unfold Template.fill
  rw [String.toList_intercalate]
  refine intercalate_induction Closed.nil Closed.append hblank.closed ?_
  intro cs hcs
  rcases List.mem_map.1 hcs with ⟨text, htext, rfl⟩
  rcases List.mem_map.1 (List.mem_filter.1 htext).1 with ⟨word, hword, rfl⟩
  exact Closed.fillWord hstyle hvalues (hwords word hword)

theorem SafeValues.nil : SafeValues style [] :=
  ⟨fun _ => Closed.nil.nested, fun _ _ => Closed.nil⟩

theorem SafeValues.cons {name value : String} {values : Template.Values}
    (hinside : Nested style value.toList)
    (houtside : name ∈ ["to", "index", "on"] → Closed style value.toList)
    (hvalues : SafeValues style values) : SafeValues style ((name, value) :: values) := by
  refine ⟨?_, ?_⟩
  · intro slot
    rw [List.lookup_cons]
    split
    · exact hinside
    · exact hvalues.inside slot
  · intro slot hslot
    rw [List.lookup_cons]
    split
    · next hsame =>
      have : slot = name := by simpa using hsame
      exact houtside (this ▸ hslot)
    · exact hvalues.outside slot hslot

theorem SafeValues.cons_closed {name value : String} {values : Template.Values}
    (hvalues : SafeValues style values) (hvalue : Closed style value.toList) :
    SafeValues style ((name, value) :: values) :=
  hvalues.cons hvalue.nested fun _ => hvalue

theorem SafeValues.cons_nested {name value : String} {values : Template.Values}
    (hvalues : SafeValues style values) (hname : name ∉ ["to", "index", "on"])
    (hvalue : Nested style value.toList) : SafeValues style ((name, value) :: values) :=
  hvalues.cons hvalue fun h => absurd h hname

/-- The values of an escaped constraint may be put into its template. -/
theorem SafeValues.of_values? (hstyle : Usual style) (hwords : PlainWords style)
    {keyword : Option String} (hkeyword : PlainText (keyword.getD "").toList) {c : Constraint}
    (hc : c.IsEscaped) {values : Template.Values}
    (h : c.values? style.quoter keyword = some values) : SafeValues style values := by
  have hcolumns : ∀ columns : ColumnNames, Nested style (columns.sql style.quoter).toList :=
    Nested.columnNames hstyle
  cases c with
  | primary columns =>
    cases h
    exact SafeValues.nil.cons_nested (by decide) (hcolumns columns)
  | foreignKey columns table targets action =>
    have haction : action = none := hc
    subst haction
    cases h
    have htable := (Quiet.name hstyle table).closed
    have hnone : SafeValues style [("on", "")] := SafeValues.nil.cons_closed Closed.nil
    have htargets : SafeValues style [("toColumn", targets.sql style.quoter), ("on", "")] :=
      hnone.cons_nested (by decide) (hcolumns targets)
    exact (htargets.cons_closed htable).cons_nested (by decide) (hcolumns columns)
  | unique columns index =>
    cases h
    have hindex : Closed style (if index then keyword.getD "" else "").toList := by
      cases index with
      | false => exact Closed.nil
      | true => exact (Quiet.of_plain hstyle hkeyword).closed
    exact (SafeValues.nil.cons_closed hindex).cons_nested (by decide) (hcolumns columns)
  | check expression =>
    cases expression with
    | raw sql => exact absurd hc id
    | conditions m =>
      unfold Constraint.values? at h
      simp only at h
      split at h
      · cases h
      · cases h
        exact SafeValues.nil.cons_closed (Closed.conditions hstyle hwords m)
  | unknown => cases h

/-- The item of a constraint is closed. -/
theorem Closed.constraint (hd : PlainDialect d) {c : Constraint} (hc : c.IsEscaped)
    {item : BodyItem} (h : c.bodyItem? d d.quotes.quoter = some item) :
    Closed d.quotes item.sql.toList := by
  rcases Option.map_eq_some_iff.1 h with ⟨sql, hsql, rfl⟩
  unfold Constraint.sql? at hsql
  rcases Option.bind_eq_some_iff.1 hsql with ⟨form, hform, hrest⟩
  rcases Option.bind_eq_some_iff.1 hrest with ⟨values, hvalues, hfill⟩
  have hplain := hd.templates c form hform
  have hsafe := SafeValues.of_values? hd.usual hd.truth hplain.indexKeyword hc hvalues
  cases hfill
  exact Closed.fill hd.usual hplain.words hsafe

/-- The item of an index closes all that it opens. -/
theorem Closed.index (hd : PlainDialect d) {name : String} {index : Index} {item : BodyItem}
    (h : index.bodyItem? d d.quotes.quoter name = some item) : Closed d.quotes item.sql.toList := by
  unfold Index.bodyItem? at h
  split at h
  · -- Under the reserved name the index is written as a primary key.
    have hprimary : (Constraint.primary index.columns).IsEscaped := trivial
    exact Closed.constraint hd hprimary h
  · cases hplace : d.indexes with
    | separate withTable quoted => simp [hplace] at h
    | inBody =>
      rw [hplace] at h
      cases h
      have hunique : Quiet d.quotes index.uniqueWord.toList := by
        unfold Index.uniqueWord
        split
        · exact Quiet.of_plain hd.usual (by decide)
        · exact Quiet.nil
      have hkey : Quiet d.quotes "KEY ".toList := Quiet.of_plain hd.usual (by decide)
      have hblank : Quiet d.quotes " ".toList := Quiet.of_plain hd.usual (by decide)
      have hfront := hunique.append (hkey.append ((Quiet.name hd.usual name).append hblank))
      have hcolumns := (Nested.columnNames hd.usual index.columns).parens hd.usual
      simpa [Index.bodySql, QuoteStyle.quoter] using hfront.closed.append hcolumns

end Lexical
end TableDdl
