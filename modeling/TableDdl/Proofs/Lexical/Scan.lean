import TableDdl.Proofs.Text.Join
import TableDdl.Sql.Quoter

/-!
# Scanning a statement

A scanner that knows strings in single quotes, quoted identifiers and the depth of parentheses, and
nothing else of the language.  This file defines

* `Region`: what a place of the statement is inside of;
* `cutItems`: the items between an opening parenthesis and the one that closes it;
* `StatementText.read?`: a statement as the text in front of its first parenthesis, the items inside,
  and the text behind;

and says which texts the scanner passes over.  A `Quiet` text shows no parenthesis and no comma, a
`Closed` one keeps both inside parentheses of its own, and a `Nested` one shows no parenthesis but
may show commas.
-/

namespace TableDdl
namespace Lexical

/-! ## The scanner -/

inductive Region where
  /-- Neither a string nor a quoted identifier. -/
  | code
  | string
  | name
deriving DecidableEq, Repr

/-- The region behind a character.  A doubled quote leaves a region and enters it again, so it needs
no rule of its own. -/
def Region.next (style : QuoteStyle) : Region → Char → Region
  | code, c => if c = '\'' then string else if c = style.opening then name else code
  | string, c => if c = '\'' then code else string
  | name, c => if c = style.closing then code else name

def depthAfter (region : Region) (depth : Nat) (c : Char) : Nat :=
  if region = .code ∧ c = '(' then depth + 1
  else if region = .code ∧ c = ')' then depth - 1
  else depth

def pushChars (cs : List Char) (cut : List (List Char) × List Char) :
    List (List Char) × List Char :=
  (cut.1.modifyHead (cs ++ ·), cut.2)

/-- Cuts the text behind an opening parenthesis at its commas, up to the parenthesis that closes it,
and gives the items and what follows.  Inside, `depth` further parentheses are open. -/
def cutItems (style : QuoteStyle) :
    Region → Nat → List Char → Option (List (List Char) × List Char)
  | _, _, [] => none
  | region, depth, c :: cs =>
      if region = .code ∧ depth = 0 ∧ c = ')' then some ([[]], cs)
      else if region = .code ∧ depth = 0 ∧ c = ',' then
        (cutItems style .code 0 cs).map fun cut => ([] :: cut.1, cut.2)
      else
        (cutItems style (region.next style c) (depthAfter region depth c) cs).map (pushChars [c])

/-- Cuts a text at its first parenthesis. -/
def splitBody? (style : QuoteStyle) : Region → List Char → Option (List Char × List Char)
  | _, [] => none
  | region, c :: cs =>
      if region = .code ∧ c = '(' then some ([], cs)
      else (splitBody? style (region.next style c) cs).map fun cut => (c :: cut.1, cut.2)

structure StatementText where
  /-- What stands in front of the first parenthesis. -/
  head : List Char
  /-- The items inside this parenthesis. -/
  items : List (List Char)
  /-- What stands behind the parenthesis that closes it. -/
  tail : List Char
deriving DecidableEq, Repr

def StatementText.read? (style : QuoteStyle) (cs : List Char) : Option StatementText := do
  let (head, body) ← splitBody? style .code cs
  let (items, tail) ← cutItems style .code 0 body
  return ⟨head, items, tail⟩

/-! ## Texts that the scanner passes over -/

/-- Whether a character has a meaning for the scanner where it stands in code. -/
def isStructural (c : Char) : Bool :=
  c == '(' || c == ')' || c == ','

def codeChars (style : QuoteStyle) : Region → List Char → List Char
  | _, [] => []
  | .code, c :: cs => c :: codeChars style (Region.next style .code c) cs
  | region, c :: cs => codeChars style (region.next style c) cs

/-- The text ends in code if it begins there, and shows neither a parenthesis nor a comma. -/
structure Quiet (style : QuoteStyle) (cs : List Char) : Prop where
  back : cs.foldl (Region.next style) .code = .code
  free : ∀ c ∈ codeChars style .code cs, isStructural c = false

/-- At every depth the text becomes part of an item as a whole. -/
def Closed (style : QuoteStyle) (cs : List Char) : Prop :=
  ∀ depth rest, cutItems style .code depth (cs ++ rest) =
    (cutItems style .code depth rest).map (pushChars cs)

/-- Inside a further parenthesis the text becomes part of an item as a whole. -/
def Nested (style : QuoteStyle) (cs : List Char) : Prop :=
  ∀ depth rest, cutItems style .code (depth + 1) (cs ++ rest) =
    (cutItems style .code (depth + 1) rest).map (pushChars cs)

variable {style : QuoteStyle} {cs ds : List Char}

@[simp] theorem pushChars_nil (cut : List (List Char) × List Char) : pushChars [] cut = cut := by
  rcases cut with ⟨items, rest⟩
  cases items <;> rfl

theorem pushChars_append (cs ds : List Char) (cut : List (List Char) × List Char) :
    pushChars (cs ++ ds) cut = pushChars cs (pushChars ds cut) := by
  rcases cut with ⟨items, rest⟩
  cases items <;> simp [pushChars]

theorem codeChars_code_cons (c : Char) (cs : List Char) :
    codeChars style .code (c :: cs) = c :: codeChars style (Region.next style .code c) cs := rfl

/-- The code of a text goes on where the scanner was left. -/
theorem codeChars_append (region : Region) (cs ds : List Char) :
    codeChars style region (cs ++ ds) =
      codeChars style region cs ++ codeChars style (cs.foldl (Region.next style) region) ds := by
  induction cs generalizing region with
  | nil => rfl
  | cons c cs ih => cases region <;> simp [codeChars, ih]

/-- A character of the code behind the first is one of the whole. -/
theorem mem_codeChars_cons {region : Region} {c x : Char}
    (h : x ∈ codeChars style (region.next style c) cs) :
    x ∈ codeChars style region (c :: cs) := by
  cases region with
  | code => exact List.mem_cons_of_mem _ h
  | string => exact h
  | name => exact h

theorem Quiet.nil : Quiet style [] :=
  ⟨rfl, by simp [codeChars]⟩

/-- Two quiet texts make a quiet text. -/
theorem Quiet.append (hcs : Quiet style cs) (hds : Quiet style ds) : Quiet style (cs ++ ds) := by
  refine ⟨?_, ?_⟩
  · rw [List.foldl_append, hcs.back, hds.back]
  · intro c hc
    rw [codeChars_append, hcs.back] at hc
    rcases List.mem_append.1 hc with h | h
    · exact hcs.free c h
    · exact hds.free c h

/-- Where a text has no structure, the cutter takes it into the present item. -/
theorem cutItems_append {region : Region}
    (hfree : ∀ c ∈ codeChars style region cs, isStructural c = false) (depth : Nat)
    (rest : List Char) :
    cutItems style region depth (cs ++ rest) =
      (cutItems style (cs.foldl (Region.next style) region) depth rest).map (pushChars cs) := by
  induction cs generalizing region with
  | nil =>
    have hid : (pushChars [] : List (List Char) × List Char → _) = id := funext pushChars_nil
    simp [hid]
  | cons c cs ih =>
    have hrest : ∀ x ∈ codeChars style (region.next style c) cs, isStructural x = false :=
      fun x hx => hfree x (mem_codeChars_cons hx)
    -- The scanner only looks at parentheses and commas while it is in code.
    have hc : region = .code → c ≠ '(' ∧ c ≠ ')' ∧ c ≠ ',' := by
      rintro rfl
      have := hfree c List.mem_cons_self
      simpa [isStructural, and_assoc] using this
    have hdepth : depthAfter region depth c = depth := by
      unfold depthAfter
      rw [if_neg (fun h => (hc h.1).1 h.2), if_neg (fun h => (hc h.1).2.1 h.2)]
    -- Neither the end of the body nor the end of an item: the character joins the item.
    calc
      cutItems style region depth (c :: cs ++ rest)
          = (cutItems style (region.next style c) depth (cs ++ rest)).map (pushChars [c]) := by
            rw [List.cons_append, cutItems, if_neg (fun h => (hc h.1).2.1 h.2.2),
              if_neg (fun h => (hc h.1).2.2 h.2.2), hdepth]
      _ = (cutItems style ((c :: cs).foldl (Region.next style) region) depth rest).map
            (pushChars [c] ∘ pushChars cs) := by
            rw [ih hrest, Option.map_map, List.foldl_cons]
      _ = (cutItems style ((c :: cs).foldl (Region.next style) region) depth rest).map
            (pushChars (c :: cs)) := by
            congr 1
            funext cut
            exact (pushChars_append [c] cs cut).symm

/-- A text without structure is closed. -/
theorem Quiet.closed (h : Quiet style cs) : Closed style cs := by
  intro depth rest
  rw [cutItems_append h.free, h.back]

/-- The first parenthesis behind a quiet text opens the body. -/
theorem Quiet.splitBody? (h : Quiet style cs) (rest : List Char) :
    splitBody? style .code (cs ++ '(' :: rest) = some (cs, rest) := by
  -- The region changes on the way, so the induction is on texts that begin in any region.
  have hgo : ∀ (cs : List Char) (region : Region),
      (∀ c ∈ codeChars style region cs, isStructural c = false) →
      Lexical.splitBody? style region (cs ++ '(' :: rest) =
        (Lexical.splitBody? style (cs.foldl (Region.next style) region) ('(' :: rest)).map
          fun cut => (cs ++ cut.1, cut.2) := by
    intro cs
    induction cs with
    | nil => simp
    | cons c cs ih =>
      intro region hfree
      have hne : ¬(region = .code ∧ c = '(') := by
        rintro ⟨rfl, rfl⟩
        have := hfree '(' List.mem_cons_self
        simp [isStructural] at this
      have hrest : ∀ x ∈ codeChars style (region.next style c) cs, isStructural x = false :=
        fun x hx => hfree x (mem_codeChars_cons hx)
      rw [List.cons_append, Lexical.splitBody?, if_neg hne, ih _ hrest, Option.map_map]
      rfl
  rw [hgo cs .code h.free, h.back]
  simp [Lexical.splitBody?]

theorem Closed.nested (h : Closed style cs) : Nested style cs :=
  fun depth rest => h (depth + 1) rest

theorem Closed.nil : Closed style [] :=
  Quiet.nil.closed

/-- Two closed texts make a closed text. -/
theorem Closed.append (hcs : Closed style cs) (hds : Closed style ds) :
    Closed style (cs ++ ds) := by
  intro depth rest
  rw [List.append_assoc, hcs, hds, Option.map_map]
  congr 1
  funext cut
  exact (pushChars_append cs ds cut).symm

theorem Nested.append (hcs : Nested style cs) (hds : Nested style ds) :
    Nested style (cs ++ ds) := by
  intro depth rest
  rw [List.append_assoc, hcs, hds, Option.map_map]
  congr 1
  funext cut
  exact (pushChars_append cs ds cut).symm

/-! ## Plain characters, strings and names -/

/-- Whether a character has no meaning for the scanner under any of the usual quote styles. -/
def isPlain (c : Char) : Bool :=
  !isStructural c && c != '\'' && c != '"' && c != Char.ofNat 0x60

def PlainText (cs : List Char) : Prop :=
  ∀ c ∈ cs, isPlain c = true

instance (cs : List Char) : Decidable (PlainText cs) :=
  List.decidableBAll (fun c => isPlain c = true) cs

/-- Identifiers stand between two equal marks, which are one of the two usual ones. -/
structure Usual (style : QuoteStyle) : Prop where
  closing_eq : style.closing = style.opening
  opening_mem : style.opening ∈ ['"', Char.ofNat 0x60]

theorem Usual.opening_cases (h : Usual style) :
    style.opening = '"' ∨ style.opening = Char.ofNat 0x60 := by
  simpa using h.opening_mem

/-- Plain characters and structure leave the scanner in the code. -/
theorem Usual.next_code (h : Usual style) {c : Char} (hc : isPlain c = true ∨ isStructural c = true) :
    Region.next style .code c = .code := by
  have hquote : c ≠ '\'' := by
    rintro rfl
    exact absurd hc (by decide)
  have hopening : c ≠ style.opening := by
    rintro rfl
    rcases h.opening_cases with hmark | hmark <;> rw [hmark] at hc <;> exact absurd hc (by decide)
  simp [Region.next, hquote, hopening]

theorem Usual.opening_not_blank (h : Usual style) : Text.isBlank style.opening = false := by
  rcases h.opening_cases with hmark | hmark <;> rw [hmark] <;> decide

theorem Usual.closing_ne (h : Usual style) : style.closing ≠ ' ' ∧ style.closing ≠ '.' := by
  rw [h.closing_eq]
  rcases h.opening_cases with hmark | hmark <;> rw [hmark] <;> decide

/-- Plain text is quiet. -/
theorem Quiet.of_plain (h : Usual style) (hcs : PlainText cs) : Quiet style cs := by
  induction cs with
  | nil => exact Quiet.nil
  | cons c cs ih =>
    have hc : isPlain c = true := hcs c List.mem_cons_self
    have hnext := h.next_code (Or.inl hc)
    have hrest := ih fun x hx => hcs x (List.mem_cons_of_mem _ hx)
    refine ⟨?_, ?_⟩
    · rw [List.foldl_cons, hnext, hrest.back]
    · intro x hx
      rw [codeChars_code_cons, hnext] at hx
      rcases List.mem_cons.1 hx with rfl | hx
      · unfold isPlain at hc
        simp only [Bool.and_eq_true, Bool.not_eq_true'] at hc
        exact hc.1.1.1
      · exact hrest.free x hx

/-- Behind an opening quote, doubled content stays inside; only marks are left over as code. -/
theorem scan_doubled (region : Region) {quote : Char}
    (hinside : ∀ c, c ≠ quote → region.next style c = region)
    (hclose : region.next style quote = .code) (hopen : Region.next style .code quote = region)
    (hregion : region ≠ .code) (cs : List Char) :
    (Text.double quote cs ++ [quote]).foldl (Region.next style) region = .code ∧
      ∀ c ∈ codeChars style region (Text.double quote cs ++ [quote]), c = quote := by
  -- Outside of code a character is not seen at all.
  have hskip : ∀ (c : Char) (rest : List Char),
      codeChars style region (c :: rest) = codeChars style (region.next style c) rest := by
    intro c rest
    cases region with
    | code => exact absurd rfl hregion
    | string => rfl
    | name => rfl
  -- Both halves at once: the marks that are left over depend on the region in between.
  induction cs with
  | nil => simp [hclose, hskip, codeChars]
  | cons c cs ih =>
    by_cases hc : c = quote
    · -- The first of the two marks leaves the region, the second enters it again.
      subst hc
      refine ⟨?_, ?_⟩
      · simpa [hclose, hopen] using ih.1
      · intro x hx
        rw [Text.double_cons, if_pos rfl, List.cons_append, List.cons_append, List.cons_append,
          hskip, hclose, List.nil_append, List.cons_append, codeChars_code_cons, hopen] at hx
        rcases List.mem_cons.1 hx with rfl | hx
        · rfl
        · exact ih.2 x hx
    · refine ⟨?_, ?_⟩
      · simpa [hc, hinside c hc] using ih.1
      · intro x hx
        rw [Text.double_cons, if_neg hc, List.cons_append, List.cons_append, hskip,
          hinside c hc] at hx
        exact ih.2 x hx

/-- What stands in quotes is quiet, since each quote inside is doubled. -/
theorem Quiet.of_doubled (region : Region) {quote : Char}
    (hinside : ∀ c, c ≠ quote → region.next style c = region)
    (hclose : region.next style quote = .code) (hopen : Region.next style .code quote = region)
    (hregion : region ≠ .code) (hquote : isStructural quote = false) (cs : List Char) :
    Quiet style (quote :: Text.double quote cs ++ [quote]) := by
  have hscan := scan_doubled region hinside hclose hopen hregion cs
  refine ⟨?_, ?_⟩
  · simpa [hopen] using hscan.1
  · intro c hc
    rw [List.cons_append, codeChars_code_cons, hopen] at hc
    rcases List.mem_cons.1 hc with rfl | hc
    · exact hquote
    · rw [hscan.2 c hc]
      exact hquote

/-- A string in quotes is quiet. -/
theorem Quiet.stringChars (cs : List Char) : Quiet style (QuoteStyle.stringChars cs) := by
  refine Quiet.of_doubled .string ?_ ?_ ?_ ?_ ?_ cs
  · intro c hc
    simp [Region.next, hc]
  · rfl
  · rfl
  · decide
  · decide

/-- A part of an identifier in quotes is quiet. -/
theorem Quiet.partChars (h : Usual style) (cs : List Char) : Quiet style (style.partChars cs) := by
  have hmark := h.opening_cases
  unfold QuoteStyle.partChars
  rw [h.closing_eq]
  refine Quiet.of_doubled .name ?_ ?_ ?_ ?_ ?_ cs
  · intro c hc
    simp [Region.next, h.closing_eq, hc]
  · simp [Region.next, h.closing_eq]
  · rcases hmark with hmark | hmark <;> rw [Region.next, hmark] <;> decide
  · decide
  · rcases hmark with hmark | hmark <;> rw [hmark] <;> decide

/-- A quoted identifier is quiet. -/
theorem Quiet.name (h : Usual style) (identifier : String) :
    Quiet style (style.name identifier).toList := by
  by_cases hempty : identifier = ""
  · simpa [QuoteStyle.name, hempty] using Quiet.nil
  · have hdot : Quiet style ['.'] := Quiet.of_plain h (by decide)
    have hparts : Quiet style (style.nameChars identifier.toList) := by
      refine Text.intercalate_induction Quiet.nil Quiet.append hdot ?_
      intro cs hcs
      rcases List.mem_map.1 hcs with ⟨part, _, rfl⟩
      exact Quiet.partChars h part
    simpa [QuoteStyle.name, hempty] using hparts

/-! ## Parentheses and commas -/

theorem Usual.nested_comma (h : Usual style) : Nested style [','] := by
  intro depth rest
  have hnext : Region.next style .code ',' = .code := h.next_code (Or.inr rfl)
  rw [List.cons_append, cutItems, if_neg (by simp), if_neg (by simp), hnext]
  rfl

/-- In parentheses of its own a text may show commas. -/
theorem Nested.parens (h : Usual style) (hcs : Nested style cs) :
    Closed style ('(' :: cs ++ [')']) := by
  intro depth rest
  have hopen : Region.next style .code '(' = .code := h.next_code (Or.inr rfl)
  have hclose : Region.next style .code ')' = .code := h.next_code (Or.inr rfl)
  -- Behind the opening parenthesis one more is open, so the closing one does not end the item.
  have hend : cutItems style .code (depth + 1) (')' :: rest) =
      (cutItems style .code depth rest).map (pushChars [')']) := by
    rw [cutItems, if_neg (by simp), if_neg (by simp), hclose]
    rfl
  calc
    cutItems style .code depth ('(' :: cs ++ [')'] ++ rest)
        = (cutItems style .code (depth + 1) (cs ++ ')' :: rest)).map (pushChars ['(']) := by
          rw [List.cons_append, List.cons_append, cutItems, if_neg (by simp), if_neg (by simp),
            hopen, List.append_assoc]
          rfl
    _ = (cutItems style .code depth rest).map
          (fun cut => pushChars ['('] (pushChars cs (pushChars [')'] cut))) := by
          rw [hcs, hend, Option.map_map, Option.map_map]
          rfl
    _ = (cutItems style .code depth rest).map (pushChars ('(' :: cs ++ [')'])) := by
          congr 1
          funext cut
          rw [← pushChars_append, ← pushChars_append]
          rfl

end Lexical
end TableDdl
