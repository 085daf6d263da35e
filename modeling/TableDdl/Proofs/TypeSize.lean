import TableDdl.Proofs.NativeType

/-!
# Length and precision

What a column shows of the length and the precision that its field asks for or its type provides.

* `LengthRules.sizeChars`: the text of a size, and `LengthRules.suffix_eq_iff`: when two sizes are
  written alike behind a keyword;
* `Field.SameButSize.column_eq`: the columns of two fields that differ in their size only, and have
  one keyword, differ in the suffix only;
* `Column.sql_eq_iff_sameSize`: so the texts of the columns differ exactly where the sizes do.

The precision also has a say in the keyword, but only for a type that never counts up; this is why
the clause of the column does not depend on it.
-/

namespace TableDdl

open Text

/-! ## The text of a size -/

namespace LengthRules

variable {rules : LengthRules} {keyword : String}
  {length length' precision precision' : Option UInt32}

def sizeChars (length : UInt32) (precision : Option UInt32) : List Char :=
  '(' :: (Nat.toDigits 10 length.toNat ++
    ((precision.elim [] fun p => ',' :: Nat.toDigits 10 p.toNat) ++ [')']))

/-- The text of a size tells both its numbers. -/
theorem sizeChars_inj {m n : UInt32} {p r : Option UInt32} :
    sizeChars m p = sizeChars n r ↔ m = n ∧ p = r := by
  refine ⟨fun h => ?_, fun h => by rw [h.1, h.2]⟩
  -- Behind the length stands a comma or the end, so no digit.
  have hstop : ∀ p : Option UInt32, ∀ c ∈
      ((p.elim [] fun p => ',' :: Nat.toDigits 10 p.toNat) ++ [')']).head?,
      c.isDigit = false := by
    intro p
    cases p <;> simp
  rcases toDigits_append_inj (hstop p) (hstop r) (List.cons.inj h).2 with ⟨hlength, hrest⟩
  refine ⟨UInt32.toNat_inj.1 hlength, ?_⟩
  have hprecision := List.append_cancel_right hrest
  cases p with
  | none =>
    cases r with
    | none => rfl
    | some r => cases hprecision
  | some p =>
    cases r with
    | none => cases hprecision
    | some r =>
      have hdigits := @toDigits_append_inj p.toNat r.toNat [] [] nofun nofun
        (by simpa using hprecision)
      rw [UInt32.toNat_inj.1 hdigits.1]

/-- The precision that is written, where a length is. -/
def shownPrecision (rules : LengthRules) (keyword : String) (precision : Option UInt32) :
    Option UInt32 :=
  if rules.isPrecise keyword then precision else none

/-- Where a keyword takes a length, the size is its suffix. -/
theorem toList_suffix_of_acceptsLength (h : rules.acceptsLength keyword = true) (n : UInt32)
    (precision : Option UInt32) :
    (rules.suffix keyword (some n) precision).toList =
      sizeChars n (rules.shownPrecision keyword precision) := by
  simp only [suffix, shownPrecision, acceptsPrecision, h, Bool.true_and]
  cases precision with
  | none => cases rules.isPrecise keyword <;> simp [sizeChars, digits]
  | some p => cases rules.isPrecise keyword <;> simp [sizeChars, digits]

/-- Two sizes are written alike behind a keyword: it takes no length, or there is none, or the sizes
agree as far as the keyword takes them. -/
def SameSize (rules : LengthRules) (keyword : String)
    (length precision length' precision' : Option UInt32) : Prop :=
  rules.acceptsLength keyword = false ∨ (length = none ∧ length' = none) ∨
    (length = length' ∧ (rules.isPrecise keyword = false ∨ precision = precision'))

/-- Where it takes none there is no suffix. -/
theorem suffix_of_rejects (h : rules.acceptsLength keyword = false) :
    rules.suffix keyword length precision = "" :=
  suffix_of_not_writes fun hwrites => Bool.false_ne_true (h.symm.trans hwrites.2)

/-- Two suffixes are the same just if the sizes that show are. -/
theorem suffix_eq_iff :
    rules.suffix keyword length precision = rules.suffix keyword length' precision' ↔
      rules.SameSize keyword length precision length' precision' := by
  unfold SameSize
  cases haccepts : rules.acceptsLength keyword with
  | false =>
    rw [suffix_of_rejects haccepts, suffix_of_rejects haccepts]
    simp
  | true =>
    have hnone : ∀ precision, (rules.suffix keyword none precision).toList = [] := fun _ => rfl
    have hsome := toList_suffix_of_acceptsLength haccepts
    rw [← String.toList_inj]
    cases length with
    | none =>
      cases length' with
      | none => simp [hnone]
      | some n => simp [hnone, hsome, sizeChars]
    | some m =>
      cases length' with
      | none => simp [hnone, hsome, sizeChars]
      | some n =>
        rw [hsome, hsome, sizeChars_inj]
        cases hprecise : rules.isPrecise keyword <;> simp [shownPrecision, hprecise]

end LengthRules

/-! ## Fields that differ in their size -/

def Field.SameButSize (f g : Field) : Prop :=
  g = { f with length := g.length, precision := g.precision }

section Fields

variable {d : Dialect} {q : Quoter} {inlineKey : Bool} {f g : Field} {type : ColumnType}
  {c c' : Column}

/-- What a dialect puts in the place of a keyword depends on the precision only for types that do
not count up. -/
theorem Dialect.substitute_eq_of_increments (hd : d ∈ Dialect.provided) {name : String}
    (hknown : d.types.find? name = some type) (h : type.increments = true)
    (precision : Option UInt32) : d.substitute name precision = none := by
  have hname : name ≠ "float" := by
    rintro rfl
    rcases Dialect.mem_provided_iff.1 hd with rfl | rfl | rfl <;> cases hknown <;> cases h
  rcases Dialect.mem_provided_iff.1 hd with rfl | rfl | rfl <;>
    exact if_neg fun hfloat => hname hfloat.1

/-- A size has no part in counting up. -/
theorem Field.SameButSize.increments_eq (h : f.SameButSize g) (hd : d ∈ Dialect.provided)
    (hknown : d.types.find? f.abstractType = some type) :
    f.increments d type = g.increments d type := by
  have habstract : g.abstractType = f.abstractType := by rw [h]; rfl
  have hprimary : g.isPrimary = f.isPrimary := by rw [h]; rfl
  have hnative : g.nativeType = f.nativeType := by rw [h]
  unfold increments
  cases hincrements : type.increments with
  | false => simp
  | true =>
    have hsubstitute := Dialect.substitute_eq_of_increments hd hknown hincrements
    have hown : f.ownKeyword d type = g.ownKeyword d type := by
      unfold ownKeyword
      rw [hnative, habstract, hsubstitute, hsubstitute]
    rw [hprimary, hown]

/-- Where they have one keyword as well, their columns differ in the suffix only. -/
theorem Field.SameButSize.column_eq (h : f.SameButSize g) (hd : d ∈ Dialect.provided)
    (hknown : d.types.find? f.abstractType = some type)
    (hkeyword : f.nativeKeyword d type = g.nativeKeyword d type) (name : String) :
    g.column d q name type inlineKey =
      { f.column d q name type inlineKey with
        suffix := (g.column d q name type inlineKey).suffix } := by
  have hincrements := h.increments_eq hd hknown
  have hclause : f.clause d q type inlineKey = g.clause d q type inlineKey := by
    unfold clause usesKeyRule
    rw [hincrements, hkeyword]
    rw [h]
    rfl
  have hattributes : g.attributes = f.attributes := by rw [h]
  unfold column usesKeyRule
  rw [hclause, hincrements, hkeyword, hattributes]

/-- Fields that differ in their size alone have columns that differ in their suffix alone. -/
theorem Field.SameButSize.column_eq_of_ofField (h : f.SameButSize g) (hd : d ∈ Dialect.provided)
    (hknown : d.types.find? f.abstractType = some type)
    (hc : Column.ofField d q inlineKey f = .ok c) (hc' : Column.ofField d q inlineKey g = .ok c')
    (hkeyword : f.nativeKeyword d type = g.nativeKeyword d type) :
    c' = { c with suffix := c'.suffix } := by
  rcases Column.ofField_eq_ok_iff.1 hc with ⟨name, _, hname, hcompiles⟩
  rcases Column.ofField_eq_ok_iff.1 hc' with ⟨name', _, hname', hcompiles'⟩
  have habstract : g.abstractType = f.abstractType := by rw [h]; rfl
  have htype := Option.some_inj.1 (hcompiles.known.symm.trans hknown)
  have htype' := Option.some_inj.1 (hcompiles'.known.symm.trans (habstract ▸ hknown))
  have hnames : name' = name := by
    rw [h] at hname'
    exact Option.some_inj.1 (hname'.symm.trans hname)
  subst htype htype' hnames
  rw [hcompiles.column_eq, hcompiles'.column_eq]
  exact h.column_eq hd hknown hkeyword name'

/-- A column is its name, its native type and the rest, with blanks between them. -/
theorem Column.toList_sql (hne : c.nativeType ≠ "") :
    c.sql.toList = " ".toList.intercalate
      ((([c.name].filter fun part => part != "").map String.toList) ++ c.nativeType.toList ::
        ((c.before ++ c.clause.sql :: c.after).filter fun part => part != "").map
          String.toList) := by
  have hparts : c.parts = [c.name] ++ c.nativeType :: (c.before ++ c.clause.sql :: c.after) := by
    rw [Column.parts_eq]
    rfl
  have hkeep : (fun part => part != "") c.nativeType = true := by simpa using hne
  unfold Column.sql
  rw [hparts, List.filter_append, @List.filter_cons_of_pos _ _ c.nativeType _ hkeep,
    String.toList_intercalate, List.map_append, List.map_cons]

/-- Columns that differ in the suffix only are told apart by their native types. -/
theorem Column.sql_eq_iff_suffix_eq (hne : c.keyword ≠ "") {suffix : String} :
    c.sql = { c with suffix := suffix : Column }.sql ↔ c.suffix = suffix := by
  have hnative : ∀ suffix, c.keyword ++ suffix ≠ "" := fun suffix hempty =>
    hne (String.append_eq_empty_iff.1 hempty).1
  have hleft := Column.toList_sql (c := c) (hnative c.suffix)
  have hright := Column.toList_sql (c := { c with suffix := suffix }) (hnative suffix)
  rw [← String.toList_inj, hleft, hright, intercalate_append_cons_inj, String.toList_inj]
  simp only [Column.nativeType]
  rw [← String.toList_inj, String.toList_append, String.toList_append, List.append_cancel_left_eq,
    String.toList_inj]

/-- Length and precision show exactly where the rules accept them: two columns of one keyword have
one text just where their sizes are written alike. -/
theorem Column.sql_eq_iff_sameSize (hd : d ∈ Dialect.provided)
    (hknown : d.types.find? f.abstractType = some type) (h : f.SameButSize g)
    (hc : Column.ofField d q inlineKey f = .ok c) (hc' : Column.ofField d q inlineKey g = .ok c')
    (hkeyword : c.keyword = c'.keyword) :
    (c.sql = c'.sql ↔
      d.lengths.SameSize c.keyword (f.effectiveLength type) (f.effectivePrecision type)
        (g.effectiveLength type) (g.effectivePrecision type)) ∧
      (d.lengths.acceptsLength c.keyword = false ∨ f.effectiveLength type = none →
        c.nativeType = c.keyword) := by
  have hknown' : d.types.find? g.abstractType = some type := by
    rw [h]
    exact hknown
  rcases keyword_and_suffix_of_ofField hknown hc with ⟨hnative, hsuffix⟩
  rcases keyword_and_suffix_of_ofField hknown' hc' with ⟨hnative', hsuffix'⟩
  rw [← hnative] at hsuffix
  rw [← hnative', ← hkeyword] at hsuffix'
  have hsame : f.nativeKeyword d type = g.nativeKeyword d type := by
    rw [← hnative, ← hnative', hkeyword]
  have hcolumn := h.column_eq_of_ofField hd hknown hc hc' hsame
  refine ⟨?_, ?_⟩
  · rw [← LengthRules.suffix_eq_iff, ← hsuffix, ← hsuffix', hcolumn]
    cases haccepts : d.lengths.acceptsLength c.keyword with
    | false =>
      have hempty : c.suffix = c'.suffix := by
        rw [hsuffix, hsuffix', LengthRules.suffix_of_rejects haccepts,
          LengthRules.suffix_of_rejects haccepts]
      rw [← hempty]
      exact iff_of_true rfl rfl
    | true =>
      refine sql_eq_iff_suffix_eq fun hempty => ?_
      rw [hempty] at haccepts
      rcases Dialect.mem_provided_iff.1 hd with rfl | rfl | rfl <;>
        exact absurd haccepts (by decide)
  · intro hnone
    have hempty : c.suffix = "" := by
      rw [hsuffix]
      rcases hnone with hrejects | habsent
      · exact LengthRules.suffix_of_rejects hrejects
      · rw [habsent]
        rfl
    rw [nativeType, hempty, String.append_empty]

/-- What the type provides counts like what the field asks for, and one digit of the precision makes
a difference. -/
theorem Column.sql_eq_iff_sameSize_fixed :
    ∃ c c' c'', Column.ofField Dialect.sqlite Dialect.sqlite.quotes.quoter true
        ((Field.ofName "price").withType "fixed") = .ok c ∧
      Column.ofField Dialect.sqlite Dialect.sqlite.quotes.quoter true
        ((((Field.ofName "price").withType "fixed").withLength 10).withPrecision 2) = .ok c' ∧
      Column.ofField Dialect.sqlite Dialect.sqlite.quotes.quoter true
        (((Field.ofName "price").withType "fixed").withPrecision 3) = .ok c'' ∧
      c.sql = c'.sql ∧ c.sql ≠ c''.sql := by
  have hknown : Dialect.sqlite.types.find? ((Field.ofName "price").withType "fixed").abstractType =
      some { keyword := "numeric", length := some 10, precision := some 2, formatter := .real } :=
    rfl
  have hsame : ((Field.ofName "price").withType "fixed").SameButSize
      ((((Field.ofName "price").withType "fixed").withLength 10).withPrecision 2) := rfl
  have hother : ((Field.ofName "price").withType "fixed").SameButSize
      (((Field.ofName "price").withType "fixed").withPrecision 3) := rfl
  refine ⟨_, _, _, rfl, rfl, rfl, ?_, ?_⟩
  · exact (Column.sql_eq_iff_sameSize Dialect.sqlite_mem_provided hknown hsame rfl rfl rfl).1.2
      (.inr (.inr ⟨rfl, .inr rfl⟩))
  · intro hsql
    rcases (Column.sql_eq_iff_sameSize Dialect.sqlite_mem_provided hknown hother rfl rfl rfl).1.1
      hsql with
      hrejects | hnone | ⟨-, himprecise | hprecision⟩
    · exact absurd hrejects (by decide)
    · exact absurd hnone.1 (by decide)
    · exact absurd himprecise (by decide)
    · exact absurd hprecision (by decide)

end Fields

end TableDdl
