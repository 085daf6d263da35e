import TableDdl.Proofs.Json.Number
import TableDdl.Proofs.Text.Join
import TableDdl.Proofs.Traversal

/-!
# The tokens of a printed document

* `Json.draft`: the draft that the text of a document spells out; numbers without a numeral become
  null there;
* `Json.tokens`: its tokens;
* `Json.tokens?_chars`: the scanner finds these tokens in the text.

A word only ends at the character behind it, so `Holds` says that the scanner has read some tokens
up to a word that any such character would end.
-/

namespace TableDdl
namespace Json

/-! ## Drafts and tokens of a document -/

def unitOf (c : Char) : StringUnit :=
  if c ∈ ['\x08', '\x0c', '\n', '\r', '\t'] then .char c
  else if c.toNat < 0x20 then .unit c.toNat
  else .char c

def unitsOf (s : String) : DraftString :=
  s.toList.map unitOf

def scalarDraft : Scalar → Draft
  | .null => .null
  | .boolean b => .boolean b
  | .integer n => .number (Numeral.ofChars (integerChars n.toInt))
  | .real x => if x.isFinite then .number (Numeral.ofChars (realChars x)) else .null
  | .text s => .string (unitsOf s)

def scalarToken : Scalar → Token
  | .text s => .string (unitsOf s)
  | v => .word (scalarDraft v)

mutual

/-- The draft that the text of a document spells out. -/
def draft : Json → Draft
  | .scalar v => scalarDraft v
  | .array items => .array (itemDrafts items)
  | .object members => .object (memberDrafts members)

def itemDrafts : List Json → List Draft
  | [] => []
  | item :: items => item.draft :: itemDrafts items

def memberDrafts : List (String × Json) → List (DraftString × Draft)
  | [] => []
  | (key, value) :: members => (unitsOf key, value.draft) :: memberDrafts members

end

theorem memberDrafts_eq_map (members : List (String × Json)) :
    memberDrafts members = members.map fun member => (unitsOf member.1, member.2.draft) := by
  induction members with
  | nil => rfl
  | cons member members ih => simp [memberDrafts, ih]

mutual

def tokens : Json → List Token
  | .scalar v => [scalarToken v]
  | .array items => .openArray :: [Token.comma].intercalate (itemTokens items) ++ [.closeArray]
  | .object members =>
      .openObject :: [Token.comma].intercalate (memberTokens members) ++ [.closeObject]

def itemTokens : List Json → List (List Token)
  | [] => []
  | item :: items => item.tokens :: itemTokens items

def memberTokens : List (String × Json) → List (List Token)
  | [] => []
  | (key, value) :: members =>
      (.string (unitsOf key) :: .colon :: value.tokens) :: memberTokens members

end

/-! ## Texts that the scanner reads as tokens -/

/-- The scanner has read these tokens, the last one first, and may be in the middle of the last. -/
def Holds (state : ScanState) (tokens : List Token) : Prop :=
  state = ⟨.between, tokens⟩ ∨
    ∃ read d rest, state = ⟨.word read, rest⟩ ∧ word? read.reverse = some d ∧
      tokens = .word d :: rest

/-- Between two tokens the text is read as these tokens. -/
def Scans (cs : List Char) (ts : List Token) : Prop :=
  ∀ before, ∃ state, cs.foldlM scanChar ⟨.between, before⟩ = some state ∧
    Holds state (ts.reverse ++ before)

variable {cs ds : List Char} {ts us : List Token}

/-- A mark is neither a space nor a quote. -/
theorem isSpace_of_mark? {c : Char} {mark : Token} (h : mark? c = some mark) :
    isSpace c = false ∧ c ≠ '"' := by
  refine ⟨?_, ?_⟩
  · cases hspace : isSpace c with
    | false => rfl
    | true =>
      have hcases : c = ' ' ∨ c = '\t' ∨ c = '\n' ∨ c = '\r' := by
        simpa [isSpace, or_assoc] using hspace
      rcases hcases with rfl | rfl | rfl | rfl <;> simp [mark?] at h
  · rintro rfl
    simp [mark?] at h

/-- A mark ends whatever word stands before it and is a token of its own. -/
theorem Holds.scanChar_mark {state : ScanState} (h : Holds state ts) {c : Char} {mark : Token}
    (hmark : mark? c = some mark) : scanChar state c = some ⟨.between, mark :: ts⟩ := by
  have hc := isSpace_of_mark? hmark
  have houtside : ∀ before, scanOutside before c = ⟨.between, mark :: before⟩ := by
    intro before
    simp [scanOutside, hc.1, hc.2, hmark]
  rcases h with rfl | ⟨read, d, rest, rfl, hword, rfl⟩
  · -- Between two tokens.
    simp [scanChar, houtside]
  · -- Inside a word, which the mark ends.
    simp [scanChar, hmark, hword, houtside]

/-- At the end the scanner gives the tokens that it holds, in order. -/
theorem Holds.scanEnd? {state : ScanState} (h : Holds state ts) :
    scanEnd? state = some ts.reverse := by
  rcases h with rfl | ⟨read, d, rest, rfl, hword, rfl⟩
  · rfl
  · simp [Json.scanEnd?, hword]

theorem Scans.nil : Scans [] [] :=
  fun _ => ⟨_, rfl, Or.inl rfl⟩

/-- Two texts with a mark between them have the tokens of both with that of the mark between them.
-/
theorem Scans.append_mark (hcs : Scans cs ts) {c : Char} {mark : Token}
    (hmark : mark? c = some mark) (hds : Scans ds us) : Scans (cs ++ c :: ds) (ts ++ mark :: us) := by
  intro before
  rcases hcs before with ⟨state, hstate, hholds⟩
  rcases hds (mark :: (ts.reverse ++ before)) with ⟨last, hlast, hend⟩
  refine ⟨last, ?_, ?_⟩
  · rw [foldlM_append_of_eq_some hstate, foldlM_cons_of_eq_some (hholds.scanChar_mark hmark)]
    exact hlast
  · simpa using hend

/-- Texts with commas between them have their tokens with commas between these. -/
theorem Scans.intercalate {css : List (List Char)} {tss : List (List Token)}
    (h : List.Forall₂ Scans css tss) :
    Scans ([','].intercalate css) ([Token.comma].intercalate tss) := by
  induction h with
  | nil => exact Scans.nil
  | cons hfirst hrest ih =>
    cases hrest with
    | nil => simpa using hfirst
    | cons hnext hmore =>
      rw [List.intercalate_cons_cons, List.intercalate_cons_cons]
      simpa using hfirst.append_mark (c := ',') rfl ih

/-- What a text scans to is what the scanner makes of it. -/
theorem tokens?_of_scans (h : Scans cs ts) : tokens? cs = some ts := by
  rcases h [] with ⟨state, hstate, hholds⟩
  have hend := hholds.scanEnd?
  unfold tokens?
  rw [hstate, Option.bind_some, hend]
  simp

/-! ## Words -/

/-- Whether a character goes on with a word. -/
def isInWord (c : Char) : Bool :=
  !isSpace c && c != '"' && (mark? c).isNone

theorem isInWord_iff {c : Char} :
    isInWord c = true ↔ isSpace c = false ∧ c ≠ '"' ∧ mark? c = none := by
  simp [isInWord, and_assoc]

/-- The characters of a word are collected. -/
theorem foldlM_scanChar_word (hcs : ∀ c ∈ cs, isInWord c = true) (before : List Token) :
    ∀ read, cs.foldlM scanChar ⟨.word read, before⟩ = some ⟨.word (cs.reverse ++ read), before⟩ := by
  induction cs with
  | nil => exact fun _ => rfl
  | cons c cs ih =>
    intro read
    have hc := isInWord_iff.1 (hcs c List.mem_cons_self)
    have hrest := ih (fun x hx => hcs x (List.mem_cons_of_mem _ hx)) (c :: read)
    have hstep : scanChar ⟨.word read, before⟩ c = some ⟨.word (c :: read), before⟩ := by
      simp [scanChar, hc.1, hc.2.1, hc.2.2]
    rw [foldlM_cons_of_eq_some hstep]
    simpa using hrest

theorem Scans.word (hne : cs ≠ []) (hcs : cs.all isInWord = true) {d : Draft}
    (hword : word? cs = some d) : Scans cs [.word d] := by
  intro before
  rw [List.all_eq_true] at hcs
  cases cs with
  | nil => exact absurd rfl hne
  | cons c cs =>
    have hc := isInWord_iff.1 (hcs c List.mem_cons_self)
    have hfirst : scanChar ⟨.between, before⟩ c = some ⟨.word [c], before⟩ := by
      simp [scanChar, scanOutside, hc.1, hc.2.1, hc.2.2]
    have hrest := foldlM_scanChar_word (fun x hx => hcs x (List.mem_cons_of_mem _ hx)) before [c]
    refine ⟨⟨.word (cs.reverse ++ [c]), before⟩, ?_, Or.inr ⟨_, d, before, rfl, ?_, rfl⟩⟩
    · rw [foldlM_cons_of_eq_some hfirst]
      exact hrest
    · simpa using hword

/-- The characters of numerals belong to words. -/
theorem isInWord_of_isNumeralChar {c : Char} (h : isNumeralChar c = true) : isInWord c = true := by
  have hcases : c.isDigit = true ∨ c ∈ ['+', '-', '.', 'e', 'E'] := by
    simpa [isNumeralChar, Numeral.isExponentMark, or_assoc] using h
  rcases hcases with hdigit | hmark
  · have hne : ∀ x : Char, x.isDigit = false → c ≠ x := fun _ => Numeral.isDigit_ne hdigit
    simp [isInWord, isSpace, mark?, hne ' ' rfl, hne '\t' rfl, hne '\n' rfl, hne '\r' rfl,
      hne '"' rfl, hne '[' rfl, hne ']' rfl, hne '\x7b' rfl, hne '\x7d' rfl, hne ',' rfl,
      hne ':' rfl]
  · have hall : ['+', '-', '.', 'e', 'E'].all isInWord = true := by decide
    exact List.all_eq_true.1 hall c hmark

/-- A numeral is one token. -/
theorem Scans.numeral {v : Scalar} (h : NumeralOf cs v) :
    Scans cs [.word (.number (Numeral.ofChars cs))] := by
  have htext := h.numeralText
  -- Each keyword holds a letter that no numeral does.
  have hkeyword : ∀ (word : String) (c : Char), c ∈ word.toList → isNumeralChar c = false →
      cs ≠ word.toList := by
    rintro word c hmem hc rfl
    rw [htext c hmem] at hc
    cases hc
  have hne : cs ≠ [] := by
    rintro rfl
    cases h.isNumber
  have hall : cs.all isInWord = true := by
    rw [List.all_eq_true]
    exact fun c hc => isInWord_of_isNumeralChar (htext c hc)
  refine Scans.word hne hall ?_
  unfold word?
  rw [if_neg (hkeyword "null" 'n' (by decide) rfl), if_neg (hkeyword "true" 't' (by decide) rfl),
    if_neg (hkeyword "false" 'f' (by decide) rfl), if_pos h.isNumber]

/-! ## Strings -/

/-- A digit of base sixteen reads back as its value. -/
theorem hexDigit?_hexChar : ∀ n < 16, hexDigit? (hexChar n) = some n := by
  decide

/-- A character of a string is read back as its unit, escaped or not. -/
theorem foldlM_scanChar_escapeChar (c : Char) (read : DraftString) (before : List Token) :
    (escapeChar c).foldlM scanChar ⟨.string read, before⟩ =
      some ⟨.string (unitOf c :: read), before⟩ := by
  by_cases hquote : c = '"' ∨ c = '\\'
  · rcases hquote with rfl | rfl <;> rfl
  · by_cases hshort : c ∈ ['\x08', '\x0c', '\n', '\r', '\t']
    · have hcases : c = '\x08' ∨ c = '\x0c' ∨ c = '\n' ∨ c = '\r' ∨ c = '\t' := by
        simpa using hshort
      rcases hcases with rfl | rfl | rfl | rfl | rfl <;> rfl
    · have hne : c ≠ '\x08' ∧ c ≠ '\x0c' ∧ c ≠ '\n' ∧ c ≠ '\r' ∧ c ≠ '\t' := by
        simpa using hshort
      -- Control characters without a short escape are written with four digits.
      by_cases hcontrol : c.toNat < 0x20
      · have hchars : escapeChar c =
            ['\\', 'u', '0', '0', hexChar (c.toNat / 16), hexChar (c.toNat % 16)] := by
          simp [escapeChar, hquote, hne, hcontrol]
        have hunit : unitOf c = .unit c.toNat := by
          simp [unitOf, hne, hcontrol]
        have hhigh := hexDigit?_hexChar (c.toNat / 16) (by omega)
        have hlow := hexDigit?_hexChar (c.toNat % 16) (by omega)
        have hzero : hexDigit? '0' = some 0 := rfl
        have hvalue : 16 * (c.toNat / 16) + c.toNat % 16 = c.toNat := Nat.div_add_mod c.toNat 16
        rw [hchars, hunit]
        simp [scanChar, hhigh, hlow, hzero, hvalue]
      · have hchars : escapeChar c = [c] := by
          simp [escapeChar, hquote, hne, hcontrol]
        have hunit : unitOf c = .char c := by
          simp [unitOf, hne, hcontrol]
        have hmarks : c ≠ '"' ∧ c ≠ '\\' := not_or.1 hquote
        rw [hchars, hunit]
        simp [scanChar, hmarks, hcontrol]

/-- The characters of a string are read back one after the other. -/
theorem foldlM_scanChar_flatMap (cs : List Char) (before : List Token) :
    ∀ read, (cs.flatMap escapeChar).foldlM scanChar ⟨.string read, before⟩ =
      some ⟨.string ((cs.map unitOf).reverse ++ read), before⟩ := by
  induction cs with
  | nil => exact fun _ => rfl
  | cons c cs ih =>
    intro read
    rw [List.flatMap_cons, List.foldlM_append, foldlM_scanChar_escapeChar]
    simpa using ih (unitOf c :: read)

/-- A string in quotes is one token. -/
theorem Scans.string (s : String) : Scans (stringChars s.toList) [.string (unitsOf s)] := by
  intro before
  have hbegin : scanChar ⟨.between, before⟩ '"' = some ⟨.string [], before⟩ := rfl
  have hunits := foldlM_scanChar_flatMap s.toList before []
  refine ⟨⟨.between, .string (unitsOf s) :: before⟩, ?_, Or.inl rfl⟩
  calc
    (stringChars s.toList).foldlM scanChar ⟨.between, before⟩
        = (s.toList.flatMap escapeChar ++ ['"']).foldlM scanChar ⟨.string [], before⟩ := by
          rw [stringChars, List.cons_append, foldlM_cons_of_eq_some hbegin]
    _ = ['"'].foldlM scanChar ⟨.string ((s.toList.map unitOf).reverse ++ []), before⟩ :=
          foldlM_append_of_eq_some hunits ['"']
    _ = some ⟨.between, .string (unitsOf s) :: before⟩ := by
          simp [scanChar, unitsOf]

/-- A printed scalar is one token. -/
theorem Scans.scalar (v : Scalar) : Scans (scalarChars v) [scalarToken v] := by
  have hnull : Scans "null".toList [.word .null] := Scans.word (by decide) (by decide) rfl
  cases v with
  | null => exact hnull
  | boolean b =>
    cases b with
    | false => exact Scans.word (by decide) (by decide) rfl
    | true => exact Scans.word (by decide) (by decide) rfl
  | integer n => exact Scans.numeral (numeralOf_integerChars n)
  | real x =>
    by_cases hx : x.isFinite = true
    · have hscan := Scans.numeral (numeralOf_realChars hx)
      simpa [scalarChars, scalarToken, scalarDraft, hx] using hscan
    · have hchars : realChars x = "null".toList := by
        cases x with
        | finite negative rank => exact absurd rfl hx
        | nan => rfl
        | infinite negative => rfl
      simpa [scalarChars, scalarToken, scalarDraft, hx, hchars] using hnull
  | text s => exact Scans.string s

/-! ## Documents -/

mutual

/-- A printed document scans to its tokens. -/
theorem scans_chars : ∀ j : Json, Scans j.chars j.tokens
  | .scalar v => by
    rw [chars, tokens]
    exact Scans.scalar v
  | .array items => by
    have hinside := Scans.intercalate (forall₂_scans_items items)
    have hbody := hinside.append_mark (c := ']') rfl Scans.nil
    have hall := Scans.nil.append_mark (c := '[') rfl hbody
    rw [chars, tokens]
    exact hall
  | .object members => by
    have hinside := Scans.intercalate (forall₂_scans_members members)
    have hbody := hinside.append_mark (c := '\x7d') rfl Scans.nil
    have hall := Scans.nil.append_mark (c := '\x7b') rfl hbody
    rw [chars, tokens]
    exact hall

theorem forall₂_scans_items : ∀ items : List Json,
    List.Forall₂ Scans (itemChars items) (itemTokens items)
  | [] => .nil
  | item :: items => .cons (scans_chars item) (forall₂_scans_items items)

theorem forall₂_scans_members : ∀ members : List (String × Json),
    List.Forall₂ Scans (memberChars members) (memberTokens members)
  | [] => .nil
  | (key, value) :: members =>
    .cons ((Scans.string key).append_mark (c := ':') rfl (scans_chars value))
      (forall₂_scans_members members)

end

/-- The scanner finds the tokens of a printed document. -/
theorem tokens?_chars (j : Json) : tokens? j.chars = some j.tokens :=
  tokens?_of_scans (scans_chars j)

end Json
end TableDdl
