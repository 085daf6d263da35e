import TableDdl.Proofs.Dialect.Provided
import TableDdl.Proofs.FirstFault
import TableDdl.Proofs.Lexical.Fragment

/-!
# Which table a statement refers to

A database reads a reference to a table as a list of parts.  A part in quotes stands for its
content; a part without quotes has to be a plain name, and some databases fold its letters to lower
case.

* `readPartsFrom?` reads a reference at the front of a text and gives its parts and what follows;
* `Dialect.readTable?` reads the reference behind the words in front of it, and
  `Dialect.readIndexedTable?` the one behind the name of an index, which it has to read first;
* `readPartsFrom?_nameBody`: an identifier in quotes reads back as its parts;
* `readPartsFrom?_bare_iff`: one without quotes does so only if its parts are plain names without
  letters in upper case.

`CreateTable.readTable?_of_mem_provided` compares the references in the statements of one table.
An index that stands without quotes in its statement may have any name there, words and references
among them, so nothing can be said of what follows unless the name is one reference.
-/

namespace TableDdl
namespace Lexical

/-! ## The reader -/

def opensPlainName (c : Char) : Bool :=
  c.isAlpha || c == '_'

def continuesPlainName (c : Char) : Bool :=
  c.isAlphanum || c == '_'

inductive ReferencePlace where
  /-- In front of a part. -/
  | start
  /-- Inside a part without quotes. -/
  | bare
  /-- Inside a part in quotes. -/
  | quoted
  /-- Behind a mark that closes the part or is the first of two. -/
  | behind
deriving DecidableEq, Repr

def pushChar (c : Char) (read : List (List Char) × List Char) : List (List Char) × List Char :=
  (read.1.modifyHead (c :: ·), read.2)

def pushPart (read : List (List Char) × List Char) : List (List Char) × List Char :=
  ([] :: read.1, read.2)

/-- Reads a reference from a place in it and gives its parts and what follows.  Characters of parts
without quotes are folded. -/
def readPartsFrom? (style : QuoteStyle) (fold : Char → Char) :
    ReferencePlace → List Char → Option (List (List Char) × List Char)
  | .start, [] => none
  | .start, c :: cs =>
      if c = style.opening then readPartsFrom? style fold .quoted cs
      else if opensPlainName c then
        (readPartsFrom? style fold .bare cs).map (pushChar (fold c))
      else none
  | .bare, [] => some ([[]], [])
  | .bare, c :: cs =>
      if c = '.' then (readPartsFrom? style fold .start cs).map pushPart
      else if continuesPlainName c then
        (readPartsFrom? style fold .bare cs).map (pushChar (fold c))
      else some ([[]], c :: cs)
  | .quoted, [] => none
  | .quoted, c :: cs =>
      if c = style.closing then readPartsFrom? style fold .behind cs
      else (readPartsFrom? style fold .quoted cs).map (pushChar c)
  | .behind, [] => some ([[]], [])
  | .behind, c :: cs =>
      if c = style.closing then (readPartsFrom? style fold .quoted cs).map (pushChar c)
      else if c = '.' then (readPartsFrom? style fold .start cs).map pushPart
      else some ([[]], c :: cs)

def nameParts (identifier : String) : List (List Char) :=
  identifier.toList.splitOn '.'

variable {style : QuoteStyle} {fold : Char → Char} {rest : List Char}

/-! ## Identifiers in quotes -/

/-- A reference ends where no mark and no dot follows. -/
theorem readPartsFrom?_behind (h : EndsName style rest) :
    readPartsFrom? style fold .behind rest = some ([[]], rest) := by
  cases rest with
  | nil => rfl
  | cons c cs =>
    have hc := h c rfl
    rw [readPartsFrom?, if_neg hc.1, if_neg hc.2]

theorem splitOn_dot_cons (cs : List Char) : ('.' :: cs).splitOn '.' = [] :: cs.splitOn '.' := by
  rw [List.splitOn_cons_eq_if_modifyHead, if_pos (beq_self_eq_true '.')]

theorem splitOn_cons_of_ne {c : Char} (h : c ≠ '.') (cs : List Char) :
    (c :: cs).splitOn '.' = (cs.splitOn '.').modifyHead (c :: ·) := by
  have hbeq : (c == '.') = false := by simp [h]
  rw [List.splitOn_cons_eq_if_modifyHead, hbeq, if_neg Bool.false_ne_true]

/-- From inside the first quotes, a quoted identifier reads back as its parts. -/
theorem readPartsFrom?_nameBody (hclosing : style.closing ≠ '.') (h : EndsName style rest)
    (cs : List Char) :
    readPartsFrom? style fold .quoted (nameBody style cs ++ rest) =
      some (cs.splitOn '.', rest) := by
  induction cs with
  | nil =>
    have hend : readPartsFrom? style fold .behind rest = some ([[]], rest) :=
      readPartsFrom?_behind h
    simp [nameBody, readPartsFrom?, hend]
  | cons c cs ih =>
    -- A dot begins a new part, and every other character goes into the part that it stands in.
    by_cases hdot : c = '.'
    · subst hdot
      rw [splitOn_dot_cons]
      simp [nameBody, readPartsFrom?, Ne.symm hclosing, ih, pushPart]
    · rw [splitOn_cons_of_ne hdot]
      by_cases hc : c = style.closing
      · simp [nameBody, readPartsFrom?, hdot, ← hc, ih, pushChar]
      · simp [nameBody, readPartsFrom?, hdot, hc, ih, pushChar]

/-! ## Identifiers without quotes -/

/-- Whether a part is a plain name without letters in upper case. -/
def isLowerName : List Char → Bool
  | [] => false
  | c :: cs => opensPlainName c && (c :: cs).all fun c => continuesPlainName c && !c.isUpper

/-- A character was pushed onto the first part that was read. -/
theorem map_pushChar_eq_some {read? : Option (List (List Char) × List Char)} {c : Char}
    {part : List Char} {parts : List (List Char)}
    (h : read?.map (pushChar c) = some (part :: parts, rest)) :
    ∃ part', part = c :: part' ∧ read? = some (part' :: parts, rest) := by
  rcases Option.map_eq_some_iff.1 h with ⟨⟨parts', rest'⟩, hread, heq⟩
  cases parts' with
  | nil => cases heq
  | cons part' others =>
    cases heq
    exact ⟨part', rfl, hread⟩

/-- An empty part was pushed in front of those that were read. -/
theorem map_pushPart_eq_some {read? : Option (List (List Char) × List Char)} {part : List Char}
    {parts : List (List Char)} (h : read?.map pushPart = some (part :: parts, rest)) :
    part = [] ∧ read? = some (parts, rest) := by
  rcases Option.map_eq_some_iff.1 h with ⟨⟨parts', rest'⟩, hread, heq⟩
  cases heq
  exact ⟨rfl, hread⟩

theorem map_pushPart_eq_some_iff {read? : Option (List (List Char) × List Char)}
    {parts : List (List Char)} :
    read?.map pushPart = some ([] :: parts, rest) ↔ read? = some (parts, rest) := by
  constructor
  · intro h
    exact (map_pushPart_eq_some h).2
  · intro h
    rw [h]
    rfl

theorem map_pushChar_eq_some_iff {read? : Option (List (List Char) × List Char)} {c c' : Char}
    {part : List Char} {parts : List (List Char)} :
    read?.map (pushChar c) = some ((c' :: part) :: parts, rest) ↔
      c = c' ∧ read? = some (part :: parts, rest) := by
  constructor
  · intro h
    rcases map_pushChar_eq_some h with ⟨part', heq, hread⟩
    cases heq
    exact ⟨rfl, hread⟩
  · rintro ⟨rfl, h⟩
    rw [h]
    rfl

def leadingMarks (style : QuoteStyle) (cs : List Char) : Nat :=
  (cs.takeWhile fun c => c == style.closing).length

theorem leadingMarks_cons_self (cs : List Char) :
    leadingMarks style (style.closing :: cs) = leadingMarks style cs + 1 := by
  simp [leadingMarks]

theorem leadingMarks_cons_of_ne {c : Char} (h : c ≠ style.closing) (cs : List Char) :
    leadingMarks style (c :: cs) = 0 := by
  simp [leadingMarks, h]

/-- Marks in front of a text stand in its first part, since they are no dots. -/
theorem leadingMarks_splitOn (hclosing : style.closing ≠ '.') {cs part : List Char}
    {parts : List (List Char)} (h : cs.splitOn '.' = part :: parts) :
    leadingMarks style part = leadingMarks style cs := by
  induction cs generalizing part parts with
  | nil =>
    rw [List.splitOn_nil] at h
    cases h
    rfl
  | cons c cs ih =>
    by_cases hdot : c = '.'
    · subst hdot
      rw [splitOn_dot_cons] at h
      cases h
      exact (leadingMarks_cons_of_ne (Ne.symm hclosing) cs).symm
    · rcases List.exists_cons_of_ne_nil (List.splitOn_ne_nil '.' cs) with ⟨part', parts', hparts⟩
      rw [splitOn_cons_of_ne hdot, hparts, List.modifyHead_cons] at h
      cases h
      by_cases hc : c = style.closing
      · subst hc
        rw [leadingMarks_cons_self, leadingMarks_cons_self, ih hparts]
      · rw [leadingMarks_cons_of_ne hc, leadingMarks_cons_of_ne hc]

/-- Inside quotes two marks stand for one, so the first part does not begin with more marks than the
text does. -/
theorem leadingMarks_readPartsFrom? (hmark : style.closing ≠ ' ') {cs part : List Char}
    {parts : List (List Char)} {rest' : List Char} {place : ReferencePlace}
    (hplace : place = .quoted ∨ place = .behind)
    (h : readPartsFrom? style fold place (cs ++ ' ' :: rest) = some (part :: parts, rest')) :
    leadingMarks style part ≤ leadingMarks style cs := by
  induction cs generalizing part place with
  | nil =>
    rw [List.nil_append] at h
    rcases hplace with rfl | rfl
    · rw [readPartsFrom?, if_neg (Ne.symm hmark)] at h
      rcases map_pushChar_eq_some h with ⟨part', rfl, _⟩
      exact (leadingMarks_cons_of_ne (Ne.symm hmark) part').le
    · rw [readPartsFrom?, if_neg (Ne.symm hmark), if_neg (by decide)] at h
      cases h
      exact Nat.le_refl _
  | cons c cs ih =>
    rw [List.cons_append] at h
    rcases hplace with rfl | rfl
    · -- A mark leads behind the part, and any other character is the first of the part.
      rw [readPartsFrom?] at h
      split at h
      · next hc =>
        have hmarks := ih (.inr rfl) h
        rw [hc, leadingMarks_cons_self]
        omega
      · next hc =>
        rcases map_pushChar_eq_some h with ⟨part', rfl, _⟩
        rw [leadingMarks_cons_of_ne hc]
        exact Nat.zero_le _
    · -- A second mark goes into the part, and anything else ends it before its first character.
      rw [readPartsFrom?] at h
      split at h
      · next hc =>
        rcases map_pushChar_eq_some h with ⟨part', rfl, hread⟩
        have hmarks := ih (.inl rfl) hread
        rw [hc, leadingMarks_cons_self, leadingMarks_cons_self]
        omega
      · split at h
        · rcases map_pushPart_eq_some h with ⟨rfl, _⟩
          exact Nat.zero_le _
        · cases h
          exact Nat.zero_le _

/-- A mark that is taken for a quote is missing in the first part. -/
theorem readPartsFrom?_quoted_ne (h : Usual style) {cs part : List Char}
    {parts : List (List Char)} (hparts : cs.splitOn '.' = part :: parts) (rest' : List Char) :
    readPartsFrom? style fold .quoted (cs ++ ' ' :: rest) ≠
      some ((style.closing :: part) :: parts, rest') := by
  intro hread
  have hmarks := leadingMarks_readPartsFrom? h.closing_ne.1 (.inl rfl) hread
  rw [leadingMarks_cons_self, leadingMarks_splitOn h.closing_ne.2 hparts] at hmarks
  omega

/-- Folding keeps just the characters that are not in upper case. -/
theorem toLower_eq_self_iff {c : Char} : c.toLower = c ↔ c.isUpper = false := by
  unfold Char.toLower
  split
  · next hrange =>
    have hupper : c.isUpper = true := decide_eq_true hrange
    rw [hupper]
    constructor
    · intro hsame
      have hval := congrArg Char.val hsame
      simp at hval
    · intro h
      cases h
  · next hrange =>
    have hlower : c.isUpper = false := decide_eq_false hrange
    simp [hlower]

/-- Whether the first part goes on a plain name without letters in upper case, and the others are
such names. -/
def isLowerRest : List (List Char) → Bool
  | [] => false
  | part :: parts =>
      part.all (fun c => continuesPlainName c && !c.isUpper) && parts.all isLowerName

theorem continuesPlainName_of_opens {c : Char} (h : opensPlainName c = true) :
    continuesPlainName c = true := by
  unfold opensPlainName at h
  rw [Bool.or_eq_true] at h
  unfold continuesPlainName Char.isAlphanum
  rcases h with h | h <;> simp [h]

/-- No name without quotes begins with a quote. -/
theorem Usual.opensPlainName_opening (h : Usual style) : opensPlainName style.opening = false := by
  rcases h.opening_cases with hmark | hmark <;> rw [hmark] <;> decide

/-- A part without quotes goes on with a character that folding keeps. -/
theorem readPartsFrom?_bare_cons_iff {c : Char} (hdot : c ≠ '.') {cs part : List Char}
    {parts : List (List Char)} {rest' : List Char} :
    readPartsFrom? style Char.toLower .bare (c :: cs ++ ' ' :: rest) =
        some ((c :: part) :: parts, rest') ↔
      continuesPlainName c = true ∧ c.isUpper = false ∧
        readPartsFrom? style Char.toLower .bare (cs ++ ' ' :: rest) =
          some (part :: parts, rest') := by
  rw [List.cons_append, readPartsFrom?, if_neg hdot]
  split
  · next hcontinues =>
    rw [map_pushChar_eq_some_iff, toLower_eq_self_iff]
    simp [hcontinues]
  · next hcontinues =>
    -- Any other character ends the name, which then has no character at all.
    simp [hcontinues]

/-- A part begins without quotes with a letter that folding keeps, or with a line; beginning with a
quote it would lose it. -/
theorem readPartsFrom?_start_cons_iff (h : Usual style) {c : Char} {cs part : List Char}
    {parts : List (List Char)} (hparts : cs.splitOn '.' = part :: parts) {rest' : List Char} :
    readPartsFrom? style Char.toLower .start (c :: cs ++ ' ' :: rest) =
        some ((c :: part) :: parts, rest') ↔
      opensPlainName c = true ∧ c.isUpper = false ∧
        readPartsFrom? style Char.toLower .bare (cs ++ ' ' :: rest) =
          some (part :: parts, rest') := by
  rw [List.cons_append, readPartsFrom?]
  split
  · next hopening =>
    have hquoted : readPartsFrom? style Char.toLower .quoted (cs ++ ' ' :: rest) ≠
        some ((c :: part) :: parts, rest') := by
      rw [hopening, ← h.closing_eq]
      exact readPartsFrom?_quoted_ne h hparts rest'
    have hopens : opensPlainName c = false := by rw [hopening, h.opensPlainName_opening]
    simp [hquoted, hopens]
  · split
    · next hopens =>
      rw [map_pushChar_eq_some_iff, toLower_eq_self_iff]
      simp [hopens]
    · next hopens => simp [hopens]

/-- Without quotes an identifier reads back as its parts only if all of them are plain names without
letters in upper case. -/
theorem readPartsFrom?_bare_iff (h : Usual style) (cs : List Char) {rest' : List Char} :
    (readPartsFrom? style Char.toLower .start (cs ++ ' ' :: rest) =
        some (cs.splitOn '.', rest') ↔
      (cs.splitOn '.').all isLowerName = true ∧ rest' = ' ' :: rest) ∧
    (readPartsFrom? style Char.toLower .bare (cs ++ ' ' :: rest) =
        some (cs.splitOn '.', rest') ↔
      isLowerRest (cs.splitOn '.') = true ∧ rest' = ' ' :: rest) := by
  induction cs with
  | nil =>
    have hblank : ' ' ≠ style.opening := h.ne_opening (by simp)
    have hopens : opensPlainName ' ' = false := by decide
    have hcontinues : continuesPlainName ' ' = false := by decide
    refine ⟨?_, ?_⟩
    · simp [readPartsFrom?, hblank, hopens, isLowerName]
    · simp [readPartsFrom?, hcontinues, isLowerRest, eq_comm]
  | cons c cs ih =>
    by_cases hdot : c = '.'
    · -- A dot cannot begin a part; inside a part it ends that and begins the next.
      subst hdot
      have hmark : '.' ≠ style.opening := h.ne_opening (by simp)
      have hopens : opensPlainName '.' = false := by decide
      rw [splitOn_dot_cons]
      refine ⟨?_, ?_⟩
      · simp [readPartsFrom?, hmark, hopens, isLowerName]
      · rw [List.cons_append, readPartsFrom?, if_pos rfl, map_pushPart_eq_some_iff, ih.1]
        simp [isLowerRest]
    · rcases List.exists_cons_of_ne_nil (List.splitOn_ne_nil '.' cs) with ⟨part, parts, hparts⟩
      rw [hparts] at ih
      rw [splitOn_cons_of_ne hdot, hparts, List.modifyHead_cons]
      refine ⟨?_, ?_⟩
      · rw [readPartsFrom?_start_cons_iff h hparts, ih.2]
        by_cases hopens : opensPlainName c = true
        · simp [isLowerRest, isLowerName, hopens, continuesPlainName_of_opens hopens, and_assoc]
        · simp [isLowerName, hopens]
      · rw [readPartsFrom?_bare_cons_iff hdot, ih.2]
        simp [isLowerRest, and_assoc]

/-! ## References in front of a blank -/

/-- A blank ends a reference, inside a part without quotes or behind one with them. -/
theorem Usual.readPartsFrom?_blank (h : Usual style) {place : ReferencePlace}
    (hplace : place = .bare ∨ place = .behind) :
    readPartsFrom? style fold place (' ' :: rest) = some ([[]], ' ' :: rest) := by
  have hcontinues : continuesPlainName ' ' = false := by decide
  rcases hplace with rfl | rfl
  · simp [readPartsFrom?, hcontinues]
  · simp [readPartsFrom?, Ne.symm h.closing_ne.1]

/-- A blank behind a text changes nothing about the reference in front of it. -/
theorem readPartsFrom?_append_blank (h : Usual style) {place : ReferencePlace} {cs : List Char}
    {read : List (List Char) × List Char} (hread : readPartsFrom? style fold place cs = some read) :
    readPartsFrom? style fold place (cs ++ ' ' :: rest) =
      some (read.1, read.2 ++ ' ' :: rest) := by
  induction cs generalizing place read with
  | nil =>
    cases place with
    | start => cases hread
    | bare =>
      cases hread
      exact h.readPartsFrom?_blank (.inl rfl)
    | quoted => cases hread
    | behind =>
      cases hread
      exact h.readPartsFrom?_blank (.inr rfl)
  | cons c cs ih =>
    -- What is pushed onto the parts does not touch what follows them.
    have hpush : ∀ {place' : ReferencePlace} (push : List (List Char) → List (List Char)),
        (readPartsFrom? style fold place' cs).map (fun read => (push read.1, read.2)) = some read →
        (readPartsFrom? style fold place' (cs ++ ' ' :: rest)).map
            (fun read => (push read.1, read.2)) =
          some (read.1, read.2 ++ ' ' :: rest) := by
      intro place' push hmap
      rcases Option.map_eq_some_iff.1 hmap with ⟨read', hread', rfl⟩
      rw [ih hread']
      rfl
    rw [List.cons_append]
    cases place with
    | start =>
      rw [readPartsFrom?] at hread ⊢
      split_ifs at hread ⊢
      · exact ih hread
      · exact hpush _ hread
    | bare =>
      rw [readPartsFrom?] at hread ⊢
      split_ifs at hread ⊢
      · exact hpush _ hread
      · exact hpush _ hread
      · cases hread
        rfl
    | quoted =>
      rw [readPartsFrom?] at hread ⊢
      split_ifs at hread ⊢
      · exact ih hread
      · exact hpush _ hread
    | behind =>
      rw [readPartsFrom?] at hread ⊢
      split_ifs at hread ⊢
      · exact hpush _ hread
      · exact hpush _ hread
      · cases hread
        rfl

end Lexical

open Lexical

/-! ## References in statements -/

/-- The database folds the letters of names without quotes to lower case. -/
def Dialect.foldsNames (d : Dialect) : Bool :=
  d.name == "postgresql"

/-- Reads the reference at the front of a text: its parts and what follows. -/
def Dialect.readReference? (d : Dialect) (cs : List Char) :
    Option (List (List Char) × List Char) :=
  readPartsFrom? d.quotes (if d.foldsNames then Char.toLower else id) .start cs

/-- Reads the reference behind the words `front` of a statement: its parts and what follows. -/
def Dialect.readTable? (d : Dialect) (front sql : String) :
    Option (List (List Char) × List Char) :=
  if front.toList.isPrefixOf sql.toList then
    d.readReference? (sql.toList.drop front.toList.length)
  else none

/-- Behind the words in front of it, the reference is read. -/
theorem Dialect.readTable?_append (d : Dialect) (front rest : String) :
    d.readTable? front (front ++ rest) = d.readReference? rest.toList := by
  unfold Dialect.readTable?
  rw [String.toList_append, if_pos (List.isPrefixOf_iff_prefix.2 (List.prefix_append _ _)),
    List.drop_left]

/-- Reads the name of an index from its statement: its parts and what follows. -/
def Dialect.readIndexName? (d : Dialect) (sql : String) : Option (List (List Char) × List Char) :=
  d.readTable? "CREATE INDEX " sql <|> d.readTable? "CREATE UNIQUE INDEX " sql

/-- Reads the reference behind the name of an index in its statement: its parts and what follows. -/
def Dialect.readIndexedTable? (d : Dialect) (sql : String) :
    Option (List (List Char) × List Char) :=
  (d.readIndexName? sql).bind fun read => d.readTable? " ON " (String.ofList read.2)

/-- The statement of an index is read from its name on, whether the index is unique or not. -/
theorem Dialect.readIndexName?_append (d : Dialect) (index : Index) (rest : String) :
    d.readIndexName? ("CREATE " ++ index.uniqueWord ++ "INDEX " ++ rest) =
      d.readReference? rest.toList := by
  unfold Dialect.readIndexName? Index.uniqueWord
  cases index.unique with
  | false =>
    have hfront : "CREATE " ++ (if false = true then "UNIQUE " else "") ++ "INDEX " =
        "CREATE INDEX " := by decide
    have hother : d.readTable? "CREATE UNIQUE INDEX " ("CREATE INDEX " ++ rest) = none := by
      unfold Dialect.readTable?
      rw [String.toList_append]
      rfl
    rw [hfront, hother, Dialect.readTable?_append]
    cases d.readReference? rest.toList <;> rfl
  | true =>
    have hfront : "CREATE " ++ (if true = true then "UNIQUE " else "") ++ "INDEX " =
        "CREATE UNIQUE INDEX " := by decide
    have hother : d.readTable? "CREATE INDEX " ("CREATE UNIQUE INDEX " ++ rest) = none := by
      unfold Dialect.readTable?
      rw [String.toList_append]
      rfl
    rw [hfront, hother, Dialect.readTable?_append]
    rfl

variable {d : Dialect} {table : String} {s : TableSchema} {t : CreateTable}

/-- A name in quotes reads back as its parts, whatever stands in it. -/
theorem Dialect.readReference?_name (hd : d ∈ Dialect.provided) (hname : table ≠ "") {tail : String}
    (htail : EndsName d.quotes tail.toList) :
    d.readReference? (d.quotes.name table ++ tail).toList =
      some (nameParts table, tail.toList) := by
  have hclosing := (PlainDialect.of_mem_provided hd).usual.closing_ne.2
  unfold Dialect.readReference? QuoteStyle.name
  rw [if_neg hname, String.toList_append, String.toList_ofList, nameChars_eq_cons_nameBody,
    List.cons_append, readPartsFrom?, if_pos rfl]
  exact readPartsFrom?_nameBody hclosing htail table.toList

/-- A reference is read the same in front of a blank. -/
theorem Dialect.readReference?_append (hd : d ∈ Dialect.provided) {cs rest : List Char}
    {parts : List (List Char)} (hread : d.readReference? cs = some (parts, []))
    (hrest : rest.head? = some ' ') : d.readReference? (cs ++ rest) = some (parts, rest) := by
  have husual := (PlainDialect.of_mem_provided hd).usual
  rcases List.head?_eq_some_iff.1 hrest with ⟨rest', rfl⟩
  exact readPartsFrom?_append_blank husual hread

/-- A name without quotes reads back as its parts only if they are plain and in lower case. -/
theorem Dialect.readReference?_bare_iff {tail : String} {rest : List Char}
    (htail : tail.toList.head? = some ' ') :
    Dialect.postgres.readReference? (table ++ tail).toList = some (nameParts table, rest) ↔
      (∀ part ∈ nameParts table, isLowerName part = true) ∧ rest = tail.toList := by
  have husual : Usual Dialect.postgres.quotes :=
    (PlainDialect.of_mem_provided Dialect.postgres_mem_provided).usual
  have hfold : Dialect.postgres.foldsNames = true := by decide
  rcases List.head?_eq_some_iff.1 htail with ⟨cs, hcs⟩
  unfold Dialect.readReference?
  rw [hfold, if_pos rfl, String.toList_append, hcs]
  unfold nameParts
  rw [(readPartsFrom?_bare_iff husual table.toList).1, List.all_eq_true]

/-! ## The statements of one table -/

/-- A name as the statement of an index has it. -/
def Quoter.spelling (q : Quoter) (quoted : Bool) (name : String) : String :=
  if quoted then q.name name else name

/-- What stands behind the table in the statement of an index. -/
def Index.columnsTail (index : Index) (q : Quoter) : String :=
  " (" ++ index.columns.sql q ++ ");"

/-- The statement of an index is its words with the two names between them. -/
theorem Index.statementSql_eq (index : Index) (q : Quoter) (withTable quoted : Bool)
    (table name : String) :
    index.statementSql q withTable quoted table name =
      "CREATE " ++ index.uniqueWord ++ "INDEX " ++
        (q.spelling quoted (fullName withTable table name) ++
          (" ON " ++ (q.spelling quoted table ++ index.columnsTail q))) := by
  unfold statementSql columnsTail
  simp only [String.append_assoc]
  rfl

theorem Index.head?_columnsTail (index : Index) (q : Quoter) :
    (index.columnsTail q).toList.head? = some ' ' := by
  unfold columnsTail
  rw [String.toList_append, String.toList_append]
  rfl

/-- Where the name of an index is one reference, the reader comes to the table behind it. -/
theorem Index.readIndexedTable?_statementSql (hd : d ∈ Dialect.provided) (index : Index)
    {withTable quoted : Bool} {name : String} {parts : List (List Char)}
    (hname : d.readReference?
        (d.quotes.quoter.spelling quoted (fullName withTable table name)).toList =
      some (parts, [])) :
    d.readIndexedTable? (index.statementSql d.quotes.quoter withTable quoted table name) =
      d.readReference?
        (d.quotes.quoter.spelling quoted table ++ index.columnsTail d.quotes.quoter).toList := by
  have hblank : ∀ rest : String, (" ON " ++ rest).toList.head? = some ' ' := by
    intro rest
    rw [String.toList_append]
    rfl
  -- The blank in front of the word `ON` ends the name.
  have hread := Dialect.readReference?_append hd hname (hblank
    (d.quotes.quoter.spelling quoted table ++ index.columnsTail d.quotes.quoter))
  unfold Dialect.readIndexedTable?
  rw [statementSql_eq, Dialect.readIndexName?_append, String.toList_append, hread,
    Option.bind_some, String.ofList_toList, Dialect.readTable?_append]

/-- With the name of the table in front, no index is without a name. -/
theorem Index.fullName_ne_empty (table name : String) : fullName true table name ≠ "" := by
  rw [Ne, ← String.toList_inj]
  simp [fullName]

/-- The name of an index is one reference in its statement, unless it stands there without quotes
and is none by itself. -/
theorem Index.readReference?_fullName (hd : d ∈ Dialect.provided) {withTable quoted : Bool}
    (hindexes : d.indexes = .separate withTable quoted) (table : String) {name : String}
    (hname : d = Dialect.postgres → ∃ parts, d.readReference? name.toList = some (parts, [])) :
    ∃ parts, d.readReference?
        (d.quotes.quoter.spelling quoted (fullName withTable table name)).toList =
      some (parts, []) := by
  rcases Dialect.mem_provided_iff.1 hd with rfl | rfl | rfl
  · -- Here indexes stand in the body of the table.
    cases hindexes
  · cases hindexes
    exact hname rfl
  · cases hindexes
    have hend : EndsName Dialect.sqlite.quotes "".toList := fun c hc => by cases hc
    have hread := Dialect.readReference?_name hd (fullName_ne_empty table name) hend
    rw [String.append_empty] at hread
    exact ⟨_, hread⟩

/-- The statement of an index refers to the table by the parts of its name if it has that in quotes,
or if the parts are the same without quotes. -/
theorem Index.readIndexedTable?_statementSql_iff (hd : d ∈ Dialect.provided) (htable : table ≠ "")
    {withTable quoted : Bool} (hindexes : d.indexes = .separate withTable quoted) (index : Index)
    {name : String}
    (hname : d = Dialect.postgres → ∃ parts, d.readReference? name.toList = some (parts, []))
    (rest : List Char) :
    d.readIndexedTable? (index.statementSql d.quotes.quoter withTable quoted table name) =
        some (nameParts table, rest) ↔
      (d = Dialect.postgres → ∀ part ∈ nameParts table, isLowerName part = true) ∧
      rest = (index.columnsTail d.quotes.quoter).toList := by
  rcases readReference?_fullName hd hindexes table hname with ⟨parts, hparts⟩
  have htail := index.head?_columnsTail d.quotes.quoter
  rw [readIndexedTable?_statementSql hd index hparts]
  rcases Dialect.mem_provided_iff.1 hd with rfl | rfl | rfl
  · cases hindexes
  · cases hindexes
    rw [Quoter.spelling, if_neg Bool.false_ne_true, Dialect.readReference?_bare_iff htail]
    constructor
    · rintro ⟨hlower, hrest⟩
      exact ⟨fun _ => hlower, hrest⟩
    · rintro ⟨hlower, hrest⟩
      exact ⟨hlower rfl, hrest⟩
  · cases hindexes
    have hother : Dialect.sqlite ≠ Dialect.postgres := by
      intro hsame
      exact absurd (congrArg Dialect.name hsame) (by decide)
    have hends : EndsName Dialect.sqlite.quotes
        (index.columnsTail Dialect.sqlite.quotes.quoter).toList := by
      rcases List.head?_eq_some_iff.1 htail with ⟨cs, hcs⟩
      rw [hcs]
      exact (PlainDialect.of_mem_provided hd).usual.endsName (by simp) cs
    have hread := Dialect.readReference?_name hd htable hends
    rw [Quoter.spelling, if_pos rfl, show Dialect.sqlite.quotes.quoter.name table =
      Dialect.sqlite.quotes.name table from rfl, hread, Option.some_inj, Prod.mk_inj]
    constructor
    · rintro ⟨_, hrest⟩
      exact ⟨fun hsame => absurd hsame hother, hrest.symm⟩
    · rintro ⟨_, hrest⟩
      exact ⟨rfl, hrest.symm⟩

theorem filterMap_ite_some {α β : Type} (p : α → Bool) (f : α → β) (xs : List α) :
    (xs.filterMap fun x => if p x = true then some (f x) else none) = (xs.filter p).map f := by
  rw [← List.filterMap_eq_map, List.filterMap_filter]
  rfl

/-- Where indexes stand in the body, no statement is left for them. -/
theorem indexStatements_of_inBody (q : Quoter) (indexes : OrderedMap Index)
    (hplace : d.indexes = .inBody) : indexStatements d q table indexes = [] := by
  unfold indexStatements
  rw [List.filterMap_eq_nil_iff]
  intro entry _
  simp [Index.statement?, hplace]

/-- Every index that is not the primary key has a statement of its own. -/
theorem indexStatements_of_separate (q : Quoter) (indexes : OrderedMap Index)
    {withTable quoted : Bool} (hplace : d.indexes = .separate withTable quoted) :
    indexStatements d q table indexes =
      (indexes.entries.filter fun entry => entry.1 != primaryIndexName).map fun entry =>
        entry.2.statementSql q withTable quoted table entry.1 := by
  have hstatement : ∀ entry : String × Index, entry.2.statement? d q table entry.1 =
      if (entry.1 != primaryIndexName) = true then
        some (entry.2.statementSql q withTable quoted table entry.1) else none := by
    intro entry
    by_cases hname : entry.1 = primaryIndexName <;> simp [Index.statement?, hname, hplace]
  unfold indexStatements
  simp only [hstatement]
  exact filterMap_ite_some _ _ _

/-- The statement of an index refers to the table by the parts of its name.  Where it has neither
the name of the index nor that of the table in quotes, the former has to be one reference, and the
parts have to be plain names without letters in upper case. -/
structure Index.RefersTo (d : Dialect) (table : String) (entry : String × Index) (sql : String) :
    Prop where
  /-- The names stand in the statement as they are. -/
  verbatim : d = Dialect.postgres →
    sql = "CREATE " ++ entry.2.uniqueWord ++ "INDEX " ++ entry.1 ++ " ON " ++ table ++ " ("
      ++ entry.2.columns.sql d.quotes.quoter ++ ");"
  readable_iff : (d = Dialect.postgres →
      ∃ parts, d.readReference? entry.1.toList = some (parts, [])) →
    ∀ rest, d.readIndexedTable? sql = some (nameParts table, rest) ↔
      (d = Dialect.postgres → ∀ part ∈ nameParts table, isLowerName part = true) ∧
        rest = (" (" ++ entry.2.columns.sql d.quotes.quoter ++ ");").toList

/-- Every statement of an index refers to the table as far as that can be said. -/
theorem Index.refersTo_statementSql (hd : d ∈ Dialect.provided) (htable : table ≠ "")
    {withTable quoted : Bool} (hindexes : d.indexes = .separate withTable quoted)
    (entry : String × Index) :
    RefersTo d table entry
      (entry.2.statementSql d.quotes.quoter withTable quoted table entry.1) where
  verbatim := by
    rintro rfl
    cases hindexes
    rfl
  readable_iff := readIndexedTable?_statementSql_iff hd htable hindexes entry.2

/-- The statement that creates a table refers to it by the parts of its name. -/
theorem CreateTable.Compiles.readTable?_statement (hd : d ∈ Dialect.provided)
    (h : CreateTable.Compiles d d.quotes.quoter table s t) :
    d.readTable? "CREATE TABLE " t.statement =
      some (nameParts table, (" (\n" ++ t.body ++ ")" ++ t.attributes ++ ";").toList) := by
  have hname : table ≠ "" := mt name_eq_empty_iff.2 h.name_ne
  have husual := (PlainDialect.of_mem_provided hd).usual
  have htable : t.statement = "CREATE TABLE " ++ (d.quotes.name table
      ++ (" (\n" ++ t.body ++ ")" ++ t.attributes ++ ";")) := by
    unfold CreateTable.statement
    rw [h.name_eq]
    simp only [String.append_assoc]
    rfl
  rw [htable, Dialect.readTable?_append]
  refine Dialect.readReference?_name hd hname ?_
  simp only [String.toList_append]
  exact husual.endsName (c := ' ') (by simp) _

/-- The statement that drops a table does so too. -/
theorem readTable?_dropStatement? (hd : d ∈ Dialect.provided) (hname : table ≠ "") (soft : Bool) :
    ∃ sql, dropStatement? d.quotes.quoter table soft = some sql ∧
      d.readTable? ("DROP TABLE " ++ if soft then "IF EXISTS " else "") sql =
        some (nameParts table, [';']) := by
  have husual := (PlainDialect.of_mem_provided hd).usual
  have hquoted : d.quotes.quoter.name table ≠ "" := mt name_eq_empty_iff.1 hname
  refine ⟨"DROP TABLE " ++ (if soft then "IF EXISTS " else "") ++ (d.quotes.name table ++ ";"),
    ?_, ?_⟩
  · unfold dropStatement?
    rw [if_neg hquoted]
    simp only [String.append_assoc]
    rfl
  · rw [Dialect.readTable?_append]
    exact Dialect.readReference?_name hd hname (husual.endsName (c := ';') (by simp) [])

/-- The statements that create and drop a table all refer to it by the parts of its name, and so do
those of its indexes, with one exception: where these have the names without quotes, the parts have
to be plain names without letters in upper case, behind an index whose name is one reference. -/
theorem CreateTable.readTable?_of_mem_provided (hd : d ∈ Dialect.provided)
    (h : CreateTable.ofSchema d d.quotes.quoter table s = .ok t) :
    d.readTable? "CREATE TABLE " t.statement =
        some (nameParts table, (" (\n" ++ t.body ++ ")" ++ t.attributes ++ ";").toList) ∧
    (∀ soft, ∃ sql, dropStatement? d.quotes.quoter table soft = some sql ∧
      d.readTable? ("DROP TABLE " ++ if soft then "IF EXISTS " else "") sql =
        some (nameParts table, [';'])) ∧
    (d.indexes = .inBody → t.indexes = []) ∧
    (d.indexes ≠ .inBody →
      List.Forall₂ (Index.RefersTo d table)
        (s.declarations.indexes.entries.filter fun entry => entry.1 != primaryIndexName)
        t.indexes) := by
  have hc := CreateTable.ofSchema_eq_ok_iff.1 h
  have hname : table ≠ "" := mt name_eq_empty_iff.2 hc.name_ne
  refine ⟨hc.readTable?_statement hd, readTable?_dropStatement? hd hname, ?_, ?_⟩
  · intro hplace
    rw [hc.indexes_eq]
    exact indexStatements_of_inBody d.quotes.quoter s.declarations.indexes hplace
  · intro hplace
    rw [hc.indexes_eq]
    cases hindexes : d.indexes with
    | inBody => exact absurd hindexes hplace
    | separate withTable quoted =>
      rw [indexStatements_of_separate _ _ hindexes, List.forall₂_map_right_iff]
      exact List.forall₂_same.2 fun entry _ => Index.refersTo_statementSql hd hname hindexes entry

def TableSchema.indexedBy (name : String) : TableSchema :=
  (({} : TableSchema).addField "id" (Field.ofType "integer")).addIndex name ⟨.one "id", false⟩

/-- The names of the table and of the index are plain, and that of the table has two parts. -/
theorem CreateTable.readTable?_of_mem_provided_plain :
    ∃ t sql, CreateTable.ofSchema Dialect.postgres Dialect.postgres.quotes.quoter "app.users_1"
        (.indexedBy "by_id") = .ok t ∧
      Dialect.postgres.readTable? "CREATE TABLE " t.statement =
        some (["app".toList, "users_1".toList], " (\n\"id\" integer);".toList) ∧
      t.indexes = [sql] ∧ sql = "CREATE INDEX by_id ON app.users_1 (\"id\");" ∧
      Dialect.postgres.readIndexedTable? sql =
        some (["app".toList, "users_1".toList], " (\"id\");".toList) := by
  have hparts : nameParts "app.users_1" = ["app".toList, "users_1".toList] := by decide
  obtain ⟨t, h⟩ : ∃ t, CreateTable.ofSchema Dialect.postgres Dialect.postgres.quotes.quoter
      "app.users_1" (.indexedBy "by_id") = .ok t := ⟨_, rfl⟩
  obtain ⟨htable, _, _, hindexes⟩ :=
    CreateTable.readTable?_of_mem_provided Dialect.postgres_mem_provided h
  have hentries : (TableSchema.indexedBy "by_id").declarations.indexes.entries.filter
      (fun entry => entry.1 != primaryIndexName) = [("by_id", ⟨.one "id", false⟩)] := by decide
  have hall := hindexes (by decide)
  rw [hentries, List.forall₂_cons_left_iff] at hall
  rcases hall with ⟨sql, others, hrefers, hothers, hsqls⟩
  rw [List.forall₂_nil_left_iff.1 hothers] at hsqls
  refine ⟨t, sql, h, ?_, hsqls, ?_, ?_⟩
  · rw [htable, hparts]
    cases h
    decide
  · rw [hrefers.verbatim rfl]
    decide
  · rw [← hparts]
    refine (hrefers.readable_iff ?_ _).2 ⟨?_, ?_⟩
    · exact fun _ => ⟨["by_id".toList], by decide⟩
    · intro _
      rw [hparts]
      decide
    · decide

/-- With a letter in upper case in the name of the table, or with a whole statement in the name of
the index, the index is on another table. -/
theorem CreateTable.index_refers_to_other_table :
    (∃ t sql, CreateTable.ofSchema Dialect.postgres Dialect.postgres.quotes.quoter "Users"
        (.indexedBy "by_id") = .ok t ∧
      (Dialect.postgres.readTable? "CREATE TABLE " t.statement).map Prod.fst =
        some ["Users".toList] ∧
      t.indexes = [sql] ∧ sql = "CREATE INDEX by_id ON Users (\"id\");" ∧
      (Dialect.postgres.readIndexedTable? sql).map Prod.fst = some ["users".toList]) ∧
    ∃ t sql, CreateTable.ofSchema Dialect.postgres Dialect.postgres.quotes.quoter "users"
        (.indexedBy "x ON secrets (\"id\"); --") = .ok t ∧
      (Dialect.postgres.readTable? "CREATE TABLE " t.statement).map Prod.fst =
        some ["users".toList] ∧
      t.indexes = [sql] ∧
      sql = "CREATE INDEX x ON secrets (\"id\"); -- ON users (\"id\");" ∧
      (Dialect.postgres.readIndexedTable? sql).map Prod.fst = some ["secrets".toList] := by
  refine ⟨⟨_, _, rfl, ?_, rfl, ?_, ?_⟩, ⟨_, _, rfl, ?_, rfl, ?_, ?_⟩⟩ <;> decide

end TableDdl
