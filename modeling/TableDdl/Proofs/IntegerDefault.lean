import TableDdl.Proofs.Json.MemberOrder
import TableDdl.Proofs.Lexical.Clause
import TableDdl.Proofs.Number.Whole
import TableDdl.Proofs.Schema.Accounting

/-!
# Integers as defaults

An integer in a document is followed to the clause of the column whose default it is.  It is kept
as it is if it fits into 64 bits.  Any other is read as the floating point number that is nearest to
it, and this number is written out without a point.

* `Scalar.IsReadInteger`: what an integer of a document is read as;
* `WritesInteger`: what is written for it where an integer is asked for;
* `TableSchema.WritesDefault`: the text of a schema in which an integer is the default of a field;
* `ColumnClause.operand?`: what stands behind the word `DEFAULT`.
-/

namespace TableDdl

open Json

/-! ## Integers in documents -/

def FitsInt64 (n : Int) : Prop :=
  -9223372036854775808 ≤ n ∧ n ≤ 9223372036854775807

theorem fitsInt64_toInt (k : Int64) : FitsInt64 k.toInt :=
  ⟨k.minValue_le_toInt, k.toInt_le⟩

/-- A number is no word if it does not fit into one. -/
theorem int64?_eq_none_iff {n : Int} : int64? n = none ↔ ¬FitsInt64 n := by
  have hrange : (Int64.minValue.toInt ≤ n ∧ n ≤ Int64.maxValue.toInt) ↔ FitsInt64 n := Iff.rfl
  unfold int64?
  rw [← hrange]
  split <;> simp_all

namespace Scalar

/-- What an integer of a document is read as: an integer of 64 bits, minus zero, or the floating
point number that is nearest to a larger integer. -/
inductive IsReadInteger (n : Int) : Scalar → Prop where
  | word {k : Int64} (toInt_eq : k.toInt = n) : IsReadInteger n (.integer k)
  | minusZero (eq_zero : n = 0) : IsReadInteger n (.real (.zero true))
  | large (beyond : ¬FitsInt64 n) (finite : (Binary64.ofInt n).isFinite = true) :
      IsReadInteger n (.real (.ofInt n))

theorem IsReadInteger.ne_null {n : Int} {v : Scalar} (h : v.IsReadInteger n) : v ≠ .null := by
  rintro rfl
  cases h

theorem IsReadInteger.ne_text {n : Int} {v : Scalar} (h : v.IsReadInteger n) (s : String) :
    v ≠ .text s := by
  rintro rfl
  cases h

/-- The numeral of an integer is read as its word, or as the number nearest to it. -/
theorem isReadInteger_of_scalar? {cs : List Char} {n : Int} {v : Scalar}
    (h : SpellsInteger cs n) (hv : (Numeral.ofChars cs).scalar? = some v) :
    v.IsReadInteger n := by
  rcases Numeral.exists_ofChars_of_spells h with ⟨sign, ds, hchars, hn⟩
  unfold Numeral.scalar? at hv
  rw [hchars, Numeral.value_of_isWhole] at hv
  simp only [Numeral.isNegative, Option.isNone_none, Bool.true_and, beq_iff_eq, ← hn] at hv
  split at hv
  · next k hword =>
    cases hv
    split at hword
    · exact .word (int64?_eq_some_iff.1 hword)
    · cases hword
  · next hnone =>
    split at hv
    · next hfinite =>
      cases hv
      -- Minus zero is the only small integer that does not become one of 64 bits.
      by_cases hminus : sign = some '-' ∧ digitsValue ds = 0
      · obtain ⟨rfl, hzero⟩ := hminus
        rw [hzero, Binary64.ofDecimal_zero]
        refine .minusZero ?_
        rw [hn, hzero]
        rfl
      · have hother : sign ≠ some '-' ∨ digitsValue ds ≠ 0 := not_and_or.1 hminus
        have hword : int64? n = none := by simpa [hother] using hnone
        have hne : digitsValue ds ≠ 0 := by
          intro hzero
          have hn0 : n = 0 := by
            rw [hn, hzero]
            split <;> rfl
          rw [hn0] at hword
          cases hword
        have hreal : Binary64.ofDecimal (sign == some '-') (digitsValue ds) 0 =
            Binary64.ofInt n := by
          rw [← Binary64.ofInt_signed hne, hn]
          simp only [beq_iff_eq]
        rw [hreal] at hfinite ⊢
        exact .large (int64?_eq_none_iff.1 hword) hfinite
    · cases hv

end Scalar

/-! ## Integers as literals -/

/-- The text that stands for the integer `n` where an integer is asked for. -/
inductive WritesInteger (n : Int) : String → Prop where
  /-- The integer itself, if it fits into 64 bits. -/
  | exact {text : String} (fits : FitsInt64 n) (spells : SpellsInteger text.toList n) :
      WritesInteger n text
  /-- Otherwise the floating point number nearest to it, which is written as an integer to which the
  same number is nearest. -/
  | nearest {m : Int} (beyond : ¬FitsInt64 n) (finite : (Binary64.ofInt n).isFinite = true)
      (spells : SpellsInteger (Binary64.ofInt n).text.toList m)
      (same : Binary64.ofInt m = Binary64.ofInt n) : WritesInteger n (Binary64.ofInt n).text

/-- What fits into no word is at least `2 ^ 63` away from zero. -/
theorem two_pow_le_natAbs_of_not_fitsInt64 {n : Int} (h : ¬FitsInt64 n) : 2 ^ 63 ≤ n.natAbs := by
  unfold FitsInt64 at h
  omega

/-- A number that was read from the numeral of an integer is written as an integer. -/
theorem QuoteStyle.writesInteger_value (style : QuoteStyle) {v : Scalar} {n : Int}
    (h : v.IsReadInteger n) : WritesInteger n (style.value v .integer) := by
  cases h with
  | @word k toInt_eq =>
    -- The digits of a machine word are those of its value.
    have hchars : (style.value (.integer k) .integer).toList = integerChars k.toInt :=
      String.toList_ofList
    refine .exact (toInt_eq ▸ fitsInt64_toInt k) ?_
    rw [hchars, toInt_eq]
    exact (isCanonicalInteger_integerChars n).spells
  | minusZero eq_zero =>
    have hdigits : isDigits ['0'] = true := rfl
    have hspells : SpellsInteger ['-', '0'] 0 := .minus hdigits
    rw [eq_zero, style.value_real_integer rfl, Binary64.truncate_zero, Binary64.text_zero]
    exact .exact ⟨by decide, by decide⟩ hspells
  | large beyond finite =>
    -- There is no fraction to lose, and the text is an integer to which this number is nearest.
    rcases Binary64.truncate_ofInt (two_pow_le_natAbs_of_not_fitsInt64 beyond) finite with
      ⟨htruncate, m, hspells, hsame⟩
    rw [style.value_real_integer finite, htruncate]
    exact .nearest beyond finite hspells hsame

/-! ## Documents with a default -/

namespace Draft

/-- An object is read member by member, at the cost of one level. -/
theorem read?_object_eq_some_iff {budget : Nat} {members : List (DraftString × Draft)} {j : Json} :
    read? budget (.object members) = some j ↔
      ∃ rest given, budget = rest + 1 ∧ members.mapM (readMember? rest) = some given ∧
        j = .object given := by
  cases budget with
  | zero => simp [read?]
  | succ rest =>
    simp only [read?, readMembers?_eq_mapM, Option.map_eq_some_iff, Nat.add_right_cancel_iff]
    constructor
    · rintro ⟨given, hgiven, rfl⟩
      exact ⟨rest, given, rfl, hgiven, rfl⟩
    · rintro ⟨_, given, rfl, hgiven, rfl⟩
      exact ⟨given, hgiven, rfl⟩

/-- The last member under a key is still the last when the members are read. -/
theorem exists_isLast_of_mapM {budget : Nat} {front back : List (DraftString × Draft)}
    {member : DraftString × Draft} {given : List (String × Json)} {name : String}
    (h : (front ++ member :: back).mapM (readMember? budget) = some given)
    (hkey : member.1.text? = some name) (hlast : ∀ other ∈ back, other.1.text? ≠ some name) :
    ∃ j, read? budget member.2 = some j ∧ IsLast name j given := by
  simp only [List.mapM_append, List.mapM_cons, Option.bind_eq_bind, Option.bind_eq_some_iff] at h
  rcases h with ⟨front', _, behind, ⟨pair, hpair, back', hback, hbehind⟩, hgiven⟩
  cases hbehind
  cases hgiven
  unfold readMember? at hpair
  rw [hkey, Option.bind_some] at hpair
  rcases Option.map_eq_some_iff.1 hpair with ⟨j, hj, rfl⟩
  refine ⟨j, hj, front', back', rfl, ?_⟩
  -- Reading keeps the keys, so the key comes no more behind the member.
  rw [map_fst_of_readMembers? hback]
  intro hmem
  rcases List.mem_filterMap.1 hmem with ⟨other, hother, hname⟩
  exact hlast other hother hname

end Draft

/-- The text of a schema in which `cs` is the default of the field `column`.  Where several fields
have this name, it is the default of the last one, which is the one that counts. -/
inductive TableSchema.WritesDefault (text column : String) (cs : List Char) : Prop where
  | mk {whole : Draft → Draft} {front back members : List (DraftString × Draft)}
      {key defaultKey : DraftString} (holdsFields : Draft.HoldsFields whole)
      (draft_eq : Draft.ofText? text =
        some (whole (.object (front ++ (key, .object members) :: back))))
      (key_eq : key.text? = some column) (last : ∀ other ∈ back, other.1.text? ≠ some column)
      (default_eq : defaultKey.text? = some "default")
      (mem : (defaultKey, .number (Numeral.ofChars cs)) ∈ members)

/-- A default that is a scalar other than null is kept as it is. -/
theorem Field.ReadFrom.defaultValue_of_mem {f : Field} {members : List (String × Json)}
    (h : f.ReadFrom members) {v : Scalar} (hv : v ≠ .null)
    (hmem : ("default", .scalar v) ∈ members) : f.defaultValue = some (.literal v) := by
  rcases Option.bind_eq_some_iff.1 h.defaultValue with ⟨found, hfound, hread⟩
  rw [eq_some_of_single? hfound hmem] at hread
  cases v with
  | null => exact absurd rfl hv
  | _ => exact (Option.some.inj hread).symm

/-- The default of a column in the text is that of its field in the schema. -/
theorem TableSchema.exists_isReadInteger_of_writesDefault {text column : String} {cs : List Char}
    {n : Int} {s : TableSchema} (h : WritesDefault text column cs) (hcs : SpellsInteger cs n)
    (hs : ofText? text = some s) :
    ∃ f v, s.fields.get? column = some f ∧ f.defaultValue = some (.literal v) ∧
      v.IsReadInteger n := by
  rcases h with ⟨holdsFields, draft_eq, key_eq, last, default_eq, mem⟩
  unfold ofText? at hs
  rw [draft_eq, Option.bind_some] at hs
  -- The entry of the field is the last one under its name, so it is the field that counts.
  rcases exists_entries_of_holdsFields holdsFields hs with ⟨entries, hread, hfields⟩
  rcases Draft.read?_object_eq_some_iff.1 hread with ⟨rest, given, _, hgiven, hentries⟩
  cases hentries
  rcases Draft.exists_isLast_of_mapM hgiven key_eq last with ⟨j, hj, hlast⟩
  rcases OrderedMap.get?_of_ofMembers? hfields hlast with ⟨f, hf, hfield⟩
  -- The members of the field are read one by one, the default among them.
  rcases Draft.read?_object_eq_some_iff.1 hj with ⟨inner, members', _, hmembers, rfl⟩
  rcases exists_of_forall₂_of_mem (mapM_eq_some_iff.1 hmembers).flip mem with
    ⟨member, hmember, hdefault⟩
  unfold Draft.readMember? at hdefault
  rw [default_eq, Option.bind_some] at hdefault
  rcases Option.map_eq_some_iff.1 hdefault with ⟨value, hvalue, rfl⟩
  rw [Draft.read?] at hvalue
  rcases Option.map_eq_some_iff.1 hvalue with ⟨v, hv, rfl⟩
  have hinteger : v.IsReadInteger n := Scalar.isReadInteger_of_scalar? hcs hv
  have hreadFrom : f.ReadFrom members' := Field.ofMembers?_eq_some_iff.1 hfield
  exact ⟨f, v, hf, hreadFrom.defaultValue_of_mem hinteger.ne_null hmember, hinteger⟩

/-! ## Clauses with a default -/

def ColumnClause.operand? : ColumnClause → Option String
  | default expression => some expression
  | notNullDefault _ expression => some expression
  | _ => none

/-- Whatever is said of NULL, a default shows in the clause. -/
theorem ClauseRules.operand?_clause (rules : ClauseRules) (keyword expression : String)
    (nullable : Option Bool) :
    (rules.clause keyword (some expression) nullable).operand? = some expression := by
  rcases nullable with _ | _ | _ <;> rfl

/-- The default of a field that is not marked is found in the text of its clause. -/
theorem Field.Compiles.read_operand {d : Dialect} (hd : d ∈ Dialect.provided) {inlineKey : Bool}
    {key text : String} {f : Field} {type : ColumnType} {c : Column}
    (h : f.Compiles d d.quotes.quoter inlineKey key type c) (hkey : f.isPrimary = false)
    (htext : f.defaultText? d.quotes.quoter type = some text)
    (hliteral : IsLiteralText d.quotes text) :
    ColumnClause.read? c.clause.sql.toList = some c.clause ∧ c.clause.operand? = some text := by
  have hclause : c.clause = d.clauses.clause (f.nativeKeyword d type) (some text) f.nullable := by
    rw [← htext, ← Field.clause_of_unmarked hkey, h.column_eq]
    rfl
  have hliterals : ∀ other ∈ some text, IsLiteralText d.quotes other := by
    rintro _ ⟨⟩
    exact hliteral
  rw [hclause]
  exact ⟨ColumnClause.read?_sql (.of_mem_provided hd) (d.clauses.isLiteral_clause _ hliterals),
    d.clauses.operand?_clause _ text _⟩

namespace CreateTable

/-- The column of a field stands in the place of the field. -/
theorem Compiles.exists_column {d : Dialect} {q : Quoter} {table column : String}
    {s : TableSchema} {t : CreateTable} {f : Field} (h : Compiles d q table s t)
    (hf : s.fields.get? column = some f) :
    ∃ c type, ((column, f), c) ∈ s.fields.entries.zip t.columns ∧
      f.Compiles d q (!s.declarations.hasPrimaryKey) column type c := by
  have hplace : (column, f) ∈ (s.fields.entries.zip t.columns).map Prod.fst := by
    rw [List.map_fst_zip (Nat.le_of_eq h.columns.length_eq)]
    exact OrderedMap.get?_eq_some_iff.1 hf
  rcases List.mem_map.1 hplace with ⟨⟨_, c⟩, hmem, rfl⟩
  rcases (List.forall₂_iff_zip.1 h.columns).2 hmem with ⟨type, hc⟩
  exact ⟨c, type, hmem, hc⟩

/-- An integer that is given as the default of a field with an integer type, and no key, is what the
clause of its column has for a default. -/
theorem writesInteger_of_writesDefault {d : Dialect} (hd : d ∈ Dialect.provided)
    {text column table : String} {cs : List Char} {n : Int} {s : TableSchema} {f : Field}
    {type : ColumnType} {t : CreateTable} (hdefault : TableSchema.WritesDefault text column cs)
    (hcs : SpellsInteger cs n) (hs : TableSchema.ofText? text = some s)
    (hf : s.fields.get? column = some f) (hkey : f.isPrimary = false)
    (hknown : d.types.find? f.abstractType = some type) (hformatter : type.formatter = .integer)
    (ht : CreateTable.ofSchema d d.quotes.quoter table s = .ok t) :
    ∃ c operand, ((column, f), c) ∈ s.fields.entries.zip t.columns ∧
      ColumnClause.read? c.clause.sql.toList = some c.clause ∧
      c.clause.operand? = some operand ∧ WritesInteger n operand := by
  rcases TableSchema.exists_isReadInteger_of_writesDefault hdefault hcs hs with
    ⟨f', v, hf', hvalue, hinteger⟩
  cases Option.some.inj (hf.symm.trans hf')
  rcases (ofSchema_eq_ok_iff.1 ht).exists_column hf with ⟨c, type', hmem, hc⟩
  cases Option.some.inj (hknown.symm.trans hc.known)
  -- An integer is never taken for a missing default, as the empty text would be.
  have htext : f.defaultText? d.quotes.quoter type = some (d.quotes.value v .integer) := by
    unfold Field.defaultText?
    rw [hvalue]
    simp only [hinteger.ne_text, false_and, if_false, hformatter]
    rfl
  rcases hc.read_operand hd hkey htext ⟨v, .integer, rfl⟩ with ⟨hread, hoperand⟩
  exact ⟨c, _, hmem, hread, hoperand, d.quotes.writesInteger_value hinteger⟩

end CreateTable

/-! ## An integer beyond 64 bits -/

namespace TableSchema

def largeText : String :=
  "\x7b\"fields\":\x7b\"id\":\x7b\"type\":\"integer\",\"default\":18446744073709551615\x7d\x7d\x7d"

def largeDigits : List Char :=
  "18446744073709551615".toList

def largeField : Field where
  typeName := some "integer"
  defaultValue := some (.literal (.real (.ofInt 18446744073709551615)))

def largeSchema : TableSchema where
  fields := .ofList [("id", largeField)]

theorem draft_largeText : Draft.ofText? largeText =
    some (.object [("fields".toList.map .char,
      .object [("id".toList.map .char,
        .object [("type".toList.map .char, .string ("integer".toList.map .char)),
          ("default".toList.map .char, .number (Numeral.ofChars largeDigits))])])]) := by
  rfl

theorem spellsInteger_largeDigits : SpellsInteger largeDigits 18446744073709551615 := by
  have hdigits : isDigits largeDigits = true := by decide
  exact .unsigned hdigits

theorem writesDefault_largeText : WritesDefault largeText "id" largeDigits :=
  @WritesDefault.mk _ _ _ _ [] [] _ _ _ (.object [] [] (by decide)) draft_largeText (by decide)
    (List.forall_mem_nil _) (by decide) (List.mem_cons_of_mem _ List.mem_cons_self)

theorem ofText?_largeText : ofText? largeText = some largeSchema := by
  unfold ofText?
  rw [draft_largeText, Option.bind_some]
  decide +kernel

end TableSchema

namespace CreateTable

/-- A default that fits into no word is written as the number nearest to it. -/
theorem writesInteger_of_writesDefault_largeText :
    TableSchema.ofText? TableSchema.largeText = some TableSchema.largeSchema ∧
    ∃ t c operand, ofSchema .mysql Dialect.mysql.quotes.quoter "t" TableSchema.largeSchema = .ok t ∧
      (("id", TableSchema.largeField), c) ∈
        TableSchema.largeSchema.fields.entries.zip t.columns ∧
      ColumnClause.read? c.clause.sql.toList = some c.clause ∧
      c.clause.operand? = some operand ∧ WritesInteger 18446744073709551615 operand := by
  obtain ⟨t, ht⟩ : ∃ t, ofSchema .mysql Dialect.mysql.quotes.quoter "t" TableSchema.largeSchema =
      .ok t := ⟨_, rfl⟩
  obtain ⟨c, operand, h⟩ := writesInteger_of_writesDefault Dialect.mysql_mem_provided
    TableSchema.writesDefault_largeText TableSchema.spellsInteger_largeDigits
    TableSchema.ofText?_largeText (f := TableSchema.largeField) rfl rfl rfl rfl ht
  exact ⟨TableSchema.ofText?_largeText, t, c, operand, ht, h⟩

/-- The default of this schema is not the integer that its text gives. -/
theorem exists_default_ne_largeText :
    TableSchema.WritesDefault TableSchema.largeText "id" TableSchema.largeDigits ∧
    SpellsInteger TableSchema.largeDigits 18446744073709551615 ∧
    TableSchema.ofText? TableSchema.largeText = some TableSchema.largeSchema ∧
    TableSchema.largeSchema.fields.entries = [("id", TableSchema.largeField)] ∧
    TableSchema.largeField.isPrimary = false ∧
    (Dialect.mysql.types.find? TableSchema.largeField.abstractType).map ColumnType.formatter =
      some .integer ∧
    ∃ t c, ofSchema .mysql Dialect.mysql.quotes.quoter "t" TableSchema.largeSchema = .ok t ∧
      t.columns = [c] ∧ c.sql = "`id` int(11) DEFAULT 18446744073709552000" ∧
      c.clause.operand? = some "18446744073709552000" ∧
      ¬SpellsInteger "18446744073709552000".toList 18446744073709551615 := by
  refine ⟨TableSchema.writesDefault_largeText, TableSchema.spellsInteger_largeDigits,
    TableSchema.ofText?_largeText, rfl, rfl, rfl, _, _, rfl, rfl, ?_, ?_, ?_⟩
  · decide +kernel
  · decide +kernel
  · rw [← integer?_eq_some_iff]
    decide

end CreateTable

end TableDdl
