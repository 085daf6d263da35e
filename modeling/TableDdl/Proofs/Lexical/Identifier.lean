import TableDdl.Proofs.Lexical.Scan

/-!
# Reading identifiers back

* `NamePlace`: where the reader of a quoted identifier stands;
* `readName?`: the identifier at the front of a text, with its dots put back, and what follows.

`readName?` is a left inverse of `QuoteStyle.nameChars` wherever the text behind the identifier does
not continue it (`readName?_nameChars`).  `QuoteStyle.readName?_of_closing_ne` draws from this that
an identifier can be told from its text.
-/

namespace TableDdl
namespace Lexical

inductive NamePlace where
  /-- In front of a part. -/
  | start
  /-- Inside a part. -/
  | inside
  /-- Behind a mark that closes the part or is the first of two. -/
  | behind
deriving DecidableEq, Repr

/-- Reads an identifier from a place in it and gives its characters and what follows. -/
def readNameFrom? (style : QuoteStyle) : NamePlace → List Char → Option (List Char × List Char)
  | .start, [] => none
  | .start, c :: cs => if c = style.opening then readNameFrom? style .inside cs else none
  | .inside, [] => none
  | .inside, c :: cs =>
      if c = style.closing then readNameFrom? style .behind cs
      else (readNameFrom? style .inside cs).map fun read => (c :: read.1, read.2)
  | .behind, [] => some ([], [])
  | .behind, c :: cs =>
      if c = style.closing then
        (readNameFrom? style .inside cs).map fun read => (c :: read.1, read.2)
      else if c = '.' then
        (readNameFrom? style .start cs).map fun read => (c :: read.1, read.2)
      else some ([], c :: cs)

/-- Reads the identifier at the front of a text. -/
def readName? (style : QuoteStyle) (cs : List Char) : Option (List Char × List Char) :=
  readNameFrom? style .start cs

/-- No identifier goes on in the text. -/
def EndsName (style : QuoteStyle) (rest : List Char) : Prop :=
  ∀ c ∈ rest.head?, c ≠ style.closing ∧ c ≠ '.'

variable {style : QuoteStyle} {rest : List Char}

theorem EndsName.nil : EndsName style [] := by
  intro c hc
  cases hc

theorem Usual.ne_opening (h : Usual style) {c : Char} (hc : c ∈ [' ', '.', ',', ';', '(', ')']) :
    c ≠ style.opening := by
  rintro rfl
  rcases h.opening_cases with hmark | hmark <;> rw [hmark] at hc <;> exact absurd hc (by decide)

/-- An identifier ends in front of a blank, a comma, the end of a statement and a parenthesis. -/
theorem Usual.endsName (h : Usual style) {c : Char} (hc : c ∈ [' ', ',', ';', ')'])
    (cs : List Char) : EndsName style (c :: cs) := by
  intro c' hfirst
  cases hfirst
  have hne : c ≠ style.opening ∧ c ≠ '.' := by
    simp only [List.mem_cons, List.not_mem_nil, or_false] at hc
    rcases hc with rfl | rfl | rfl | rfl <;> exact ⟨h.ne_opening (by simp), by decide⟩
  rw [h.closing_eq]
  exact hne

/-- A name ends where no mark and no dot follows. -/
theorem readNameFrom?_behind (h : EndsName style rest) :
    readNameFrom? style .behind rest = some ([], rest) := by
  cases rest with
  | nil => rfl
  | cons c cs =>
    have hc := h c rfl
    rw [readNameFrom?, if_neg hc.1, if_neg hc.2]

/-! ## Identifiers character by character -/

/-- What follows the opening mark of an identifier. -/
def nameBody (style : QuoteStyle) : List Char → List Char
  | [] => [style.closing]
  | c :: cs =>
      if c = '.' then style.closing :: '.' :: style.opening :: nameBody style cs
      else (if c = style.closing then [c, c] else [c]) ++ nameBody style cs

/-- The characters of a part are put in one by one, marks twice. -/
theorem partChars_cons (c : Char) (part : List Char) :
    style.partChars (c :: part) =
      style.opening :: (if c = style.closing then [c, c] else [c]) ++
        (style.partChars part).tail := by
  simp [QuoteStyle.partChars]

/-- A dot ends a part and begins the next; any other character stays in the part it is in. -/
theorem nameChars_eq_cons_nameBody (cs : List Char) :
    style.nameChars cs = style.opening :: nameBody style cs := by
  unfold QuoteStyle.nameChars
  induction cs with
  | nil => simp [nameBody, QuoteStyle.partChars]
  | cons c cs ih =>
    -- Splitting always gives a first part, and the character is put in front of it.
    rcases List.exists_cons_of_ne_nil (List.splitOn_ne_nil '.' cs) with ⟨part, parts, hparts⟩
    rw [hparts, List.map_cons] at ih
    rw [List.splitOn_cons_eq_if_modifyHead, hparts]
    by_cases hc : c = '.'
    · subst hc
      rw [if_pos (beq_self_eq_true '.'), List.map_cons, List.map_cons,
        List.intercalate_cons_cons, ih]
      simp [nameBody, QuoteStyle.partChars]
    · have hbeq : (c == '.') = false := by simp [hc]
      rw [hbeq, if_neg Bool.false_ne_true, List.modifyHead_cons, List.map_cons, partChars_cons,
        nameBody, if_neg hc]
      -- What follows the character is the same whether its part goes on or another one follows.
      have htail : ∀ front : List Char,
          ['.'].intercalate ((front ++ (style.partChars part).tail) :: parts.map style.partChars) =
            front ++ (['.'].intercalate (style.partChars part :: parts.map style.partChars)).tail := by
        intro front
        cases parts <;> simp [QuoteStyle.partChars, List.intercalate_cons_cons]
      rw [htail, ih]
      rfl

/-- Only the empty identifier has an empty text. -/
theorem name_eq_empty_iff {identifier : String} : style.name identifier = "" ↔ identifier = "" := by
  unfold QuoteStyle.name
  split
  · next hempty => simp [hempty]
  · next hempty =>
    rw [← String.toList_inj, String.toList_ofList, nameChars_eq_cons_nameBody]
    simp [hempty]

/-! ## Reading back -/

/-- From inside the first quotes, a name reads back whole. -/
theorem readNameFrom?_nameBody (hclosing : style.closing ≠ '.') (h : EndsName style rest) :
    ∀ cs : List Char,
      readNameFrom? style .inside (nameBody style cs ++ rest) = some (cs, rest) := by
  intro cs
  induction cs with
  | nil =>
    have hend := readNameFrom?_behind h
    simp [nameBody, readNameFrom?, hend]
  | cons c cs ih =>
    -- A dot closes the part, a closing mark is doubled, and anything else stands for itself.
    by_cases hdot : c = '.'
    · subst hdot
      simp [nameBody, readNameFrom?, Ne.symm hclosing, ih]
    · by_cases hc : c = style.closing
      · simp [nameBody, readNameFrom?, hdot, ← hc, ih]
      · simp [nameBody, readNameFrom?, hdot, hc, ih]

/-- A name in quotes reads back, whatever stands in it. -/
theorem readName?_nameChars (hclosing : style.closing ≠ '.') (h : EndsName style rest)
    (cs : List Char) : readName? style (style.nameChars cs ++ rest) = some (cs, rest) := by
  have hbody := readNameFrom?_nameBody hclosing h cs
  rw [nameChars_eq_cons_nameBody, List.cons_append, readName?, readNameFrom?, if_pos rfl, hbody]

/-- A quoted identifier reads back as its characters. -/
theorem readName?_name (hclosing : style.closing ≠ '.') (h : EndsName style rest)
    {identifier : String} (hne : identifier ≠ "") :
    readName? style ((style.name identifier).toList ++ rest) = some (identifier.toList, rest) := by
  have hread := readName?_nameChars hclosing h identifier.toList
  simpa [QuoteStyle.name, hne] using hread

/-- An identifier is read in front of any text that begins with a blank. -/
theorem readName?_quoter_name (hstyle : Usual style) {identifier : String} (hne : identifier ≠ "")
    (word : List Char) (hword : word.head? = some ' ') (cs : List Char) :
    readName? style ((style.quoter.name identifier).toList ++ (word ++ cs)) =
      some (identifier.toList, word ++ cs) := by
  rcases List.head?_eq_some_iff.1 hword with ⟨others, rfl⟩
  exact readName?_name hstyle.closing_ne.2 (hstyle.endsName (by simp) (others ++ cs)) hne

/-- Two identifiers with texts behind them are the same text only if both are the same. -/
theorem name_append_inj (hclosing : style.closing ≠ '.') {rest' : List Char}
    (hrest : EndsName style rest) (hrest' : EndsName style rest') {identifier other : String}
    (hne : identifier ≠ "") (hother : other ≠ "")
    (hsame : (style.name identifier).toList ++ rest = (style.name other).toList ++ rest') :
    identifier = other ∧ rest = rest' := by
  have hpair : (identifier.toList, rest) = (other.toList, rest') := by
    apply Option.some_inj.1
    calc
      some (identifier.toList, rest) =
          readName? style ((style.name identifier).toList ++ rest) :=
        (readName?_name hclosing hrest hne).symm
      _ = readName? style ((style.name other).toList ++ rest') := by rw [hsame]
      _ = some (other.toList, rest') := readName?_name hclosing hrest' hother
  exact ⟨String.toList_inj.1 (congrArg Prod.fst hpair), congrArg Prod.snd hpair⟩

/-- Different identifiers have different texts. -/
theorem name_injective (hclosing : style.closing ≠ '.') : Function.Injective style.name := by
  intro identifier other hsame
  by_cases hne : identifier = ""
  · have hempty : style.name other = "" := by
      rw [← hsame]
      exact name_eq_empty_iff.2 hne
    rw [hne, name_eq_empty_iff.1 hempty]
  · have hother : other ≠ "" := by
      intro hempty
      apply hne
      apply name_eq_empty_iff.1
      rw [hsame]
      exact name_eq_empty_iff.2 hempty
    have hchars : (style.name identifier).toList ++ [] = (style.name other).toList ++ [] := by
      rw [hsame]
    exact (name_append_inj hclosing .nil .nil hne hother hchars).1

end Lexical

open Lexical

/-- The text of an identifier reads back, whatever follows that does not go on with it.  So it tells
the identifier, and also where it ends. -/
theorem QuoteStyle.readName?_of_closing_ne (style : QuoteStyle) (hclosing : style.closing ≠ '.') :
    (∀ identifier, identifier ≠ "" → ∀ rest, EndsName style rest →
      readName? style ((style.name identifier).toList ++ rest) = some (identifier.toList, rest)) ∧
    Function.Injective style.name ∧
    (∀ identifier, style.name identifier = "" ↔ identifier = "") ∧
    ∀ identifier other, identifier ≠ "" → other ≠ "" → ∀ rest rest', EndsName style rest →
      EndsName style rest' →
      (style.name identifier).toList ++ rest = (style.name other).toList ++ rest' →
      identifier = other ∧ rest = rest' := by
  refine ⟨?_, name_injective hclosing, fun _ => name_eq_empty_iff, ?_⟩
  · intro identifier hne rest hrest
    exact readName?_name hclosing hrest hne
  · intro identifier other hne hother rest rest' hrest hrest' hsame
    exact name_append_inj hclosing hrest hrest' hne hother hsame

/-- The parts are a letter, closing marks, and nothing. -/
theorem QuoteStyle.readName?_of_closing_ne_brackets :
    readName? ⟨'[', ']', "1", "0"⟩ "[a].[]]]]].[] = [b]".toList =
      some ("a.]].".toList, " = [b]".toList) := by
  have hclosing : ']' ≠ '.' := by decide
  have hends : EndsName ⟨'[', ']', "1", "0"⟩ " = [b]".toList := by
    intro c hc
    cases hc
    exact ⟨by decide, by decide⟩
  exact (readName?_of_closing_ne ⟨'[', ']', "1", "0"⟩ hclosing).1 "a.]]." (by decide) _ hends

end TableDdl
