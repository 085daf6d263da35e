import TableDdl.Proofs.Compilation
import TableDdl.Proofs.Lexical.Fragment

/-!
# Native types

The native type of a column is its keyword with what the length rules write behind it.

* `Nesting` counts the groups in parentheses of a text;
* `LengthRules.groups_append_suffix_le_one_iff`: where a length is one group too many;
* `Column.hasNativeType_iff`: where a column has the native type that its field asks for;
* `Column.groups_nativeType_le_one_iff`: where a native type has no second group.

A field that asks for a native type can miss both: the rules look for a keyword anywhere in the
text, and the key rule looks at the text only and not at where it comes from.
-/

namespace TableDdl

open Lexical Text

/-- The native type as it stands in the declaration of the column. -/
def Column.nativeType (c : Column) : String :=
  c.keyword ++ c.suffix

theorem Column.parts_eq (c : Column) :
    c.parts = c.name :: c.nativeType :: c.before ++ c.clause.sql :: c.after :=
  rfl

/-! ## Groups in parentheses -/

/-- What a text has been read to: how many parentheses are open, and how many groups are closed that
do not stand inside of another one. -/
structure Nesting where
  depth : Nat
  groups : Nat
deriving DecidableEq, Repr

namespace Nesting

/-- Reads on by one character.  A parenthesis that closes nothing is passed over. -/
def step (s : Nesting) (c : Char) : Nesting :=
  if c = '(' then { s with depth := s.depth + 1 }
  else if c = ')' then
    -- The group that closes here is an outer one if no other is open.
    { depth := s.depth - 1, groups := if s.depth = 1 then s.groups + 1 else s.groups }
  else s

def ofText (text : String) : Nesting :=
  text.toList.foldl step ⟨0, 0⟩

/-- The text is closed and has one group. -/
def IsSingle (text : String) : Prop :=
  ofText text = ⟨0, 1⟩

instance (text : String) : Decidable (IsSingle text) :=
  inferInstanceAs (Decidable (_ = _))

def IsFree (cs : List Char) : Prop :=
  ∀ c ∈ cs, c ≠ '(' ∧ c ≠ ')'

variable {s : Nesting} {cs : List Char} {text : String}

/-- Plain text has no parentheses. -/
theorem IsFree.of_plainText (h : PlainText cs) : IsFree cs := by
  intro c hc
  have hplain : isPlain c = true := h c hc
  refine ⟨?_, ?_⟩
  · rintro rfl
    exact absurd hplain (by decide)
  · rintro rfl
    exact absurd hplain (by decide)

/-- A text without parentheses changes nothing about the nesting. -/
theorem foldl_step_of_isFree (h : IsFree cs) : cs.foldl step s = s := by
  induction cs with
  | nil => rfl
  | cons c cs ih =>
    have hc : step s c = s := by
      have hne := h c List.mem_cons_self
      rw [step, if_neg hne.1, if_neg hne.2]
    rw [List.foldl_cons, hc]
    exact ih fun c' hc' => h c' (List.mem_cons_of_mem c hc')

theorem ofText_of_plainText (h : PlainText text.toList) : ofText text = ⟨0, 0⟩ :=
  foldl_step_of_isFree (.of_plainText h)

/-- A group counts if nothing is open in front of it. -/
theorem foldl_step_group (h : IsFree cs) :
    ('(' :: (cs ++ [')'])).foldl step s =
      { s with groups := if s.depth = 0 then s.groups + 1 else s.groups } := by
  rw [List.foldl_cons, List.foldl_append, foldl_step_of_isFree h]
  simp [step]

theorem step_toLower (s : Nesting) (c : Char) : step s c.toLower = step s c := by
  have hopens : c.toLower = '(' ↔ c = '(' := toLower_eq_iff (by decide)
  have hcloses : c.toLower = ')' ↔ c = ')' := toLower_eq_iff (by decide)
  simp only [step, hopens, hcloses]

/-- Lower case changes nothing about parentheses. -/
theorem ofText_lowerAscii (text : String) : ofText (lowerAscii text) = ofText text := by
  unfold ofText
  rw [toList_lowerAscii, List.foldl_map]
  simp only [step_toLower]

end Nesting

/-! ## What stands behind a keyword -/

namespace LengthRules

variable {rules : LengthRules} {keyword : String} {length precision : Option UInt32}

/-- The rules write a length behind the keyword. -/
def Writes (rules : LengthRules) (keyword : String) (length : Option UInt32) : Prop :=
  length.isSome = true ∧ rules.acceptsLength keyword = true

/-- Where no length is written there is no suffix. -/
theorem suffix_of_not_writes (h : ¬rules.Writes keyword length) :
    rules.suffix keyword length precision = "" := by
  unfold suffix
  cases length with
  | none => rfl
  | some n => exact if_neg fun haccepts => h ⟨rfl, haccepts⟩

theorem isFree_digits (n : UInt32) : Nesting.IsFree (digits n).toList := by
  rw [digits, String.toList_ofList]
  exact .of_plainText (PlainText.toDigits n.toNat)

/-- Length and precision together are one group. -/
theorem exists_toList_suffix (h : rules.Writes keyword length) (precision : Option UInt32) :
    ∃ cs, Nesting.IsFree cs ∧
      (rules.suffix keyword length precision).toList = '(' :: (cs ++ [')']) := by
  rcases h with ⟨hlength, haccepts⟩
  rcases Option.isSome_iff_exists.1 hlength with ⟨n, rfl⟩
  have hone : ∃ cs, Nesting.IsFree cs ∧ ("(" ++ digits n ++ ")").toList = '(' :: (cs ++ [')']) :=
    ⟨(digits n).toList, isFree_digits n, by simp⟩
  simp only [suffix, if_pos haccepts]
  cases precision with
  | none => exact hone
  | some p =>
    simp only
    split
    · refine ⟨(digits n).toList ++ ',' :: (digits p).toList, ?_, by simp⟩
      intro c hc
      rcases List.mem_append.1 hc with hn | hp
      · exact isFree_digits n c hn
      · rcases List.mem_cons.1 hp with rfl | hp
        · decide
        · exact isFree_digits p c hp
    · exact hone

/-- Behind an open parenthesis the length is no group of its own. -/
theorem groups_append_suffix_le_one_iff (h : (Nesting.ofText keyword).groups ≤ 1) :
    (Nesting.ofText (keyword ++ rules.suffix keyword length precision)).groups ≤ 1 ↔
      ¬(Nesting.IsSingle keyword ∧ rules.Writes keyword length) := by
  by_cases hwrites : rules.Writes keyword length
  · rcases exists_toList_suffix hwrites precision with ⟨cs, hfree, hsuffix⟩
    have hread : (Nesting.ofText (keyword ++ rules.suffix keyword length precision)).groups =
        if (Nesting.ofText keyword).depth = 0 then (Nesting.ofText keyword).groups + 1
        else (Nesting.ofText keyword).groups := by
      unfold Nesting.ofText
      rw [String.toList_append, List.foldl_append, hsuffix, Nesting.foldl_step_group hfree]
    rw [hread, Nesting.IsSingle]
    clear hread
    -- From here on only the two counts of the keyword matter.
    generalize Nesting.ofText keyword = s at h ⊢
    rcases s with ⟨depth, groups⟩
    have hgroups : groups ≤ 1 := h
    simp only [hwrites, and_true, Nesting.mk.injEq]
    split <;> omega
  · rw [suffix_of_not_writes hwrites, String.append_empty]
    exact iff_of_true h fun hboth => hwrites hboth.2

end LengthRules

/-! ## What a field asks for -/

section Fields

variable {d : Dialect} {q : Quoter} {inlineKey : Bool} {f : Field} {type : ColumnType}
  {use : String} {c : Column}

/-- The column has the native type that the field asks for, in lower case, with the length that the
rules write behind it. -/
structure Column.HasNativeType (c : Column) (d : Dialect) (f : Field) (type : ColumnType)
    (use : String) : Prop where
  keyword_eq : c.keyword = lowerAscii use
  suffix_eq : c.suffix =
    d.lengths.suffix (lowerAscii use) (f.effectiveLength type) (f.effectivePrecision type)

/-- The native type is what the field asks for, in lower case, with the length behind it. -/
theorem Column.HasNativeType.nativeType_eq (h : c.HasNativeType d f type use) :
    c.nativeType = lowerAscii use ++
      d.lengths.suffix (lowerAscii use) (f.effectiveLength type) (f.effectivePrecision type) := by
  rw [Column.nativeType, h.keyword_eq, h.suffix_eq]

/-- The field is the primary key and asks for the keyword that its type stands for anyway, which for
keys that count up by themselves is another one. -/
structure Field.IsSwapped (f : Field) (d : Dialect) (type : ColumnType) (use : String) : Prop where
  isPrimary : f.isPrimary = true
  increments : type.increments = true
  keyword_eq : lowerAscii use = type.keyword
  serial : ∃ serial, d.types.keyRule.keyword = some serial ∧ serial ≠ lowerAscii use

/-- What the field asks for comes before what its type stands for. -/
theorem Field.ownKeyword_of_nativeType (h : f.nativeType = some use) :
    f.ownKeyword d type = lowerAscii use := by
  rw [ownKeyword, h]

/-- A request that reads like the type's own keyword gives way to that of the key rule. -/
theorem Field.nativeKeyword_of_isSwapped (h : f.nativeType = some use)
    (hswapped : f.IsSwapped d type use) :
    ∃ serial, d.types.keyRule.keyword = some serial ∧ serial ≠ lowerAscii use ∧
      f.nativeKeyword d type = serial := by
  have hincrements : f.increments d type = true := by
    simp [increments, ownKeyword_of_nativeType h, hswapped.isPrimary, hswapped.increments,
      hswapped.keyword_eq]
  rcases hswapped.serial with ⟨serial, hserial, hne⟩
  refine ⟨serial, hserial, hne, ?_⟩
  rw [nativeKeyword, if_pos hincrements, hserial]
  rfl

/-- Any other request is kept. -/
theorem Field.nativeKeyword_eq_iff (h : f.nativeType = some use) :
    f.nativeKeyword d type = lowerAscii use ↔ ¬f.IsSwapped d type use := by
  have hown : f.ownKeyword d type = lowerAscii use := ownKeyword_of_nativeType h
  constructor
  · intro hsame hswapped
    rcases nativeKeyword_of_isSwapped h hswapped with ⟨serial, -, hne, hkeyword⟩
    exact hne (hkeyword.symm.trans hsame)
  · intro hnot
    unfold nativeKeyword
    split
    · next hincrements =>
      -- The key rule has no keyword of its own, or it is the same one.
      simp only [increments, hown, Bool.and_eq_true, beq_iff_eq] at hincrements
      rcases hincrements with ⟨⟨hprimary, htype⟩, hkeyword⟩
      cases hserial : d.types.keyRule.keyword with
      | none => exact hown
      | some serial =>
        by_contra hne
        exact hnot ⟨hprimary, htype, hkeyword, serial, hserial, hne⟩
    · exact hown

/-- The native type of a compiled column. -/
theorem Column.keyword_and_suffix_of_ofField (hknown : d.types.find? f.abstractType = some type)
    (hc : Column.ofField d q inlineKey f = .ok c) :
    c.keyword = f.nativeKeyword d type ∧
      c.suffix = d.lengths.suffix (f.nativeKeyword d type) (f.effectiveLength type)
        (f.effectivePrecision type) := by
  rcases Column.ofField_eq_ok_iff.1 hc with ⟨name, type', -, hcompiles⟩
  have htype : type' = type := Option.some_inj.1 (hcompiles.known.symm.trans hknown)
  subst htype
  rw [hcompiles.column_eq]
  exact ⟨rfl, rfl⟩

/-- A request that is not swapped shows in the column. -/
theorem Column.HasNativeType.of_not_isSwapped (huse : f.nativeType = some use)
    (hknown : d.types.find? f.abstractType = some type)
    (hc : Column.ofField d q inlineKey f = .ok c) (h : ¬f.IsSwapped d type use) :
    c.HasNativeType d f type use := by
  rcases keyword_and_suffix_of_ofField hknown hc with ⟨hkeyword, hsuffix⟩
  rw [(Field.nativeKeyword_eq_iff huse).2 h] at hkeyword hsuffix
  exact ⟨hkeyword, hsuffix⟩

/-- A column has the native type that its field asks for unless the key rule puts its own keyword in
the place. -/
theorem Column.hasNativeType_iff (huse : f.nativeType = some use)
    (hknown : d.types.find? f.abstractType = some type)
    (hc : Column.ofField d q inlineKey f = .ok c) :
    c.HasNativeType d f type use ↔ ¬f.IsSwapped d type use := by
  constructor
  · intro h
    rw [← Field.nativeKeyword_eq_iff huse, ← (keyword_and_suffix_of_ofField hknown hc).1,
      h.keyword_eq]
  · exact HasNativeType.of_not_isSwapped huse hknown hc

/-- A key that counts up is asked for in another native type, and keeps it. -/
theorem Column.hasNativeType_bigint :
    ∃ c, Column.ofField Dialect.postgres Dialect.postgres.quotes.quoter true
        (((Field.ofName "id").withType "integer").withNativeType "BigInt").asPrimaryKey = .ok c ∧
      c.HasNativeType Dialect.postgres
        (((Field.ofName "id").withType "integer").withNativeType "BigInt").asPrimaryKey
        { keyword := "integer", formatter := .integer, increments := true } "BigInt" := by
  refine ⟨_, rfl, (Column.hasNativeType_iff rfl rfl rfl).2 ?_⟩
  intro hswapped
  exact absurd hswapped.keyword_eq (by decide)

/-- The field asks for `integer` and gets `serial`. -/
theorem Column.nativeType_integer_eq_serial :
    ∃ c, Column.ofField Dialect.postgres Dialect.postgres.quotes.quoter true
        (((Field.ofName "id").withType "integer").withNativeType "integer").asPrimaryKey = .ok c ∧
      c.nativeType = "serial" ∧
      c.nativeType ≠ lowerAscii "integer" ++
        Dialect.postgres.lengths.suffix (lowerAscii "integer") none none :=
  ⟨_, rfl, by decide, by decide⟩

/-- Only integers count up there. -/
theorem Dialect.increments_of_mem_types : ∀ row ∈ postgres.types.types,
    row.2.increments = true → row.1 = "integer" ∧ row.2.keyword = "integer" := by
  decide

/-- Among the provided dialects this is PostgreSQL with `integer` for an integer. -/
theorem Field.isSwapped_iff_of_mem_provided (hd : d ∈ Dialect.provided)
    (hknown : d.types.find? f.abstractType = some type) :
    f.IsSwapped d type use ↔
      d = Dialect.postgres ∧ f.isPrimary = true ∧ f.abstractType = "integer" ∧
        lowerAscii use = "integer" := by
  constructor
  · intro h
    rcases h.serial with ⟨serial, hserial, -⟩
    rcases Dialect.mem_provided_iff.1 hd with rfl | rfl | rfl
    · cases hserial
    · rcases Dialect.increments_of_mem_types _ (TypeRegistry.mem_types_of_find? hknown)
        h.increments with ⟨hname, hkeyword⟩
      exact ⟨rfl, h.isPrimary, hname, h.keyword_eq.trans hkeyword⟩
    · cases hserial
  · rintro ⟨rfl, hprimary, hname, huse⟩
    rw [hname] at hknown
    cases hknown
    exact ⟨hprimary, rfl, huse, "serial", rfl, by rw [huse]; decide⟩

/-- So on the provided dialects the text itself shows where the field is not followed. -/
theorem Column.nativeType_eq_iff_of_mem_provided (hd : d ∈ Dialect.provided)
    (huse : f.nativeType = some use) (hknown : d.types.find? f.abstractType = some type)
    (hc : Column.ofField d q inlineKey f = .ok c) :
    c.nativeType = lowerAscii use ++
        d.lengths.suffix (lowerAscii use) (f.effectiveLength type) (f.effectivePrecision type) ↔
      ¬(d = Dialect.postgres ∧ f.isPrimary = true ∧ f.abstractType = "integer" ∧
        lowerAscii use = "integer") := by
  rw [← Field.isSwapped_iff_of_mem_provided hd hknown]
  constructor
  · -- The key rule would have to write the same text by another keyword.
    intro htext hswapped
    rcases (Field.isSwapped_iff_of_mem_provided hd hknown).1 hswapped with ⟨rfl, -, -, hinteger⟩
    rcases Field.nativeKeyword_of_isSwapped huse hswapped with ⟨serial, hserial, -, hserialKeyword⟩
    cases hserial
    -- Neither of the two keywords takes a length.
    have hnone : ∀ keyword ∈ ["serial", "integer"], ∀ length precision,
        Dialect.postgres.lengths.suffix keyword length precision = "" := by
      intro keyword hkeyword length precision
      refine LengthRules.suffix_of_not_writes fun hwrites => ?_
      have hrejects : ∀ keyword ∈ ["serial", "integer"],
          Dialect.postgres.lengths.acceptsLength keyword = false := by
        decide
      exact Bool.false_ne_true ((hrejects keyword hkeyword).symm.trans hwrites.2)
    rcases keyword_and_suffix_of_ofField hknown hc with ⟨hkeyword, hsuffix⟩
    rw [nativeType, hkeyword, hsuffix, hserialKeyword, hinteger, hnone "serial" (by simp),
      hnone "integer" (by simp)] at htext
    exact absurd htext (by decide)
  · intro hnot
    exact (HasNativeType.of_not_isSwapped huse hknown hc hnot).nativeType_eq

/-! ## Groups of a native type -/

/-- The parentheses of a keyword are those of the native type that the field asks for, if it does. -/
theorem Field.ofText_nativeKeyword (hd : PlainDialect d)
    (hknown : d.types.find? f.abstractType = some type) :
    Nesting.ofText (f.nativeKeyword d type) = Nesting.ofText (f.nativeType.getD "") := by
  cases hasked : f.nativeType with
  | none => exact Nesting.ofText_of_plainText (PlainText.nativeKeyword hd hasked hknown)
  | some use =>
    by_cases hswapped : f.IsSwapped d type use
    · -- Neither the keyword of the type nor that of the key rule has parentheses.
      rcases nativeKeyword_of_isSwapped hasked hswapped with ⟨serial, hserial, -, hkeyword⟩
      calc
        Nesting.ofText (f.nativeKeyword d type) = ⟨0, 0⟩ := by
          rw [hkeyword, Nesting.ofText_of_plainText (hd.keyKeyword serial hserial)]
        _ = Nesting.ofText (lowerAscii use) := by
          rw [hswapped.keyword_eq, Nesting.ofText_of_plainText (PlainText.typeKeyword hd hknown)]
        _ = Nesting.ofText use := Nesting.ofText_lowerAscii use
    · rw [(nativeKeyword_eq_iff hasked).2 hswapped, Nesting.ofText_lowerAscii]
      rfl

/-- The field asks for a native type with a group, and a length is written behind it all the same. -/
def Field.HasSecondGroup (f : Field) (d : Dialect) (type : ColumnType) : Prop :=
  ∃ use, f.nativeType = some use ∧ Nesting.IsSingle use ∧
    d.lengths.Writes (lowerAscii use) (f.effectiveLength type)

/-- A native type has at most one group in parentheses unless the length is a second one. -/
theorem Column.groups_nativeType_le_one_iff (hd : d ∈ Dialect.provided)
    (hknown : d.types.find? f.abstractType = some type)
    (hc : Column.ofField d q inlineKey f = .ok c)
    (huse : ∀ use ∈ f.nativeType, (Nesting.ofText use).groups ≤ 1) :
    (Nesting.ofText c.nativeType).groups ≤ 1 ↔ ¬f.HasSecondGroup d type := by
  rcases keyword_and_suffix_of_ofField hknown hc with ⟨hnative, hsuffix⟩
  have hplain : PlainDialect d := .of_mem_provided hd
  have hkeyword := Field.ofText_nativeKeyword hplain hknown
  have hgroups : (Nesting.ofText (f.nativeKeyword d type)).groups ≤ 1 := by
    rw [hkeyword]
    cases hasked : f.nativeType with
    | none => decide
    | some use => exact huse use hasked
  rw [nativeType, hnative, hsuffix, LengthRules.groups_append_suffix_le_one_iff hgroups,
    not_iff_not]
  unfold Field.HasSecondGroup
  cases hasked : f.nativeType with
  | none =>
    -- No keyword of the dialect has a group, so that neither side holds.
    rw [Nesting.IsSingle, hkeyword, hasked]
    simp [Nesting.ofText]
  | some use =>
    have hsingle : Nesting.IsSingle (f.nativeKeyword d type) ↔ Nesting.IsSingle use := by
      rw [Nesting.IsSingle, hkeyword, hasked]
      rfl
    -- The keyword of a key rule would have no group.
    have hkept : Nesting.IsSingle use → f.nativeKeyword d type = lowerAscii use := by
      intro h
      rw [Field.nativeKeyword_eq_iff hasked]
      intro hswapped
      have hfree := Nesting.ofText_of_plainText (PlainText.typeKeyword hplain hknown)
      rw [← hswapped.keyword_eq, Nesting.ofText_lowerAscii, h] at hfree
      cases hfree
    rw [hsingle]
    constructor
    · rintro ⟨h, hwrites⟩
      rw [hkept h] at hwrites
      exact ⟨use, rfl, h, hwrites⟩
    · rintro ⟨use', hsame, h, hwrites⟩
      cases hsame
      rw [← hkept h] at hwrites
      exact ⟨h, hwrites⟩

/-- A request with parentheses of its own, to which no length is added. -/
theorem Column.groups_nativeType_le_one_enum :
    ∃ c, Column.ofField Dialect.mysql Dialect.mysql.quotes.quoter true
        ((Field.ofName "a").withNativeType "ENUM('x','y')") = .ok c ∧
      (Nesting.ofText c.nativeType).groups ≤ 1 := by
  refine ⟨_, rfl, (Column.groups_nativeType_le_one_iff Dialect.mysql_mem_provided
    (f := (Field.ofName "a").withNativeType "ENUM('x','y')") rfl rfl ?_).2 ?_⟩
  · intro use huse
    cases huse
    decide
  · rintro ⟨use, huse, -, -, haccepts⟩
    cases huse
    exact absurd haccepts (by decide)

/-- The length of the type is written behind the one that the field asks for. -/
theorem Column.two_groups_varchar :
    ∃ c, Column.ofField Dialect.mysql Dialect.mysql.quotes.quoter true
        ((Field.ofName "a").withNativeType "varchar(32)") = .ok c ∧
      (Nesting.ofText "varchar(32)").groups = 1 ∧
      c.nativeType = "varchar(32)(255)" ∧ (Nesting.ofText c.nativeType).groups = 2 :=
  ⟨_, rfl, by decide, by decide, by decide⟩

/-- SQLite compares whole keywords, none of which has a group. -/
theorem Field.not_hasSecondGroup_sqlite : ¬f.HasSecondGroup Dialect.sqlite type := by
  rintro ⟨use, -, hsingle, -, haccepts⟩
  have hplain : ∀ keyword ∈ ["integer", "real", "numeric", "text"],
      Nesting.ofText keyword = ⟨0, 0⟩ := by
    decide
  have hkeyword := hplain (lowerAscii use) (List.contains_iff_mem.1 haccepts)
  rw [Nesting.ofText_lowerAscii, hsingle] at hkeyword
  cases hkeyword

end Fields

end TableDdl
