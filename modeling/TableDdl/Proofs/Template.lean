import Mathlib.Data.List.Forall2
import TableDdl.Proofs.Text.Words
import TableDdl.Sql.Template

/-!
# Templates are filled in one pass

A template is looked at once, before any value is put in, so a value ends up in the text as it is.

* `Piece.spelling` and `Template.IsToken`: tokens as a template spells them;
* `Template.FillsTo`: the text of a token, given by what each of its pieces becomes;
* `Template.Renders`: the text of a template, given by what each of its words becomes;
* `Template.fill_ofText_of_isToken`: whatever blanks stand between the tokens, the filled template
  is the tokens' texts with single blanks between them, without the texts that are blank.
-/

namespace TableDdl

open Text

namespace Piece

/-! ## Pieces as they are written -/

def spelling : Piece → List Char
  | text s => s.toList
  | slot name => '\x7b' :: (name.toList ++ ['\x7d'])

/-- Whether a piece can stand in a token: a text without braces and blanks, and a slot whose name
consists of word characters. -/
def IsSpellable : Piece → Prop
  | text s => ∀ c ∈ s.toList, c ≠ '\x7b' ∧ c ≠ '\x7d' ∧ isBlank c = false
  | slot name => name ≠ "" ∧ ∀ c ∈ name.toList, isWordChar c = true

/-- No blank stands in a piece, so that a token is never cut. -/
theorem IsSpellable.solid {piece : Piece} (h : piece.IsSpellable) :
    ∀ c ∈ piece.spelling, isBlank c = false := by
  intro c hc
  cases piece with
  | text s => exact (h c hc).2.2
  | slot name =>
    rcases List.mem_cons.1 hc with rfl | hc
    · decide
    · rcases List.mem_append.1 hc with hname | hbrace
      · exact isBlank_eq_false_of_isWordChar (h.2 c hname)
      · rw [List.mem_singleton.1 hbrace]
        decide

/-- What becomes of a piece: a text stays, and a slot turns into the first value of its name or, if
there is none, into nothing. -/
inductive FillsTo (values : Template.Values) : Piece → List Char → Prop where
  | text (s : String) : FillsTo values (text s) s.toList
  | bound {name value : String} {front back : Template.Values}
      (first : name ∉ front.map Prod.fst) (values_eq : values = front ++ (name, value) :: back) :
      FillsTo values (slot name) value.toList
  | unbound {name : String} (absent : name ∉ values.map Prod.fst) : FillsTo values (slot name) []

end Piece

namespace Template

variable {values : Values}

/-! ## Tokens as they are written -/

def spelling (token : List Piece) : List Char :=
  token.flatMap Piece.spelling

/-- Pieces that make up one token. -/
structure IsToken (token : List Piece) : Prop where
  spellable : ∀ piece ∈ token, piece.IsSpellable
  ne_nil : spelling token ≠ []

/-- A token is a word. -/
theorem IsToken.isWord {token : List Piece} (h : IsToken token) : IsWord (spelling token) where
  ne_nil := h.ne_nil
  solid := by
    intro c hc
    rcases List.mem_flatMap.1 hc with ⟨piece, hpiece, hc⟩
    exact (h.spellable piece hpiece).solid c hc

/-- What becomes of the pieces of a token, one behind the other. -/
inductive FillsTo (values : Values) : List Piece → List Char → Prop where
  | nil : FillsTo values [] []
  | cons {piece : Piece} {pieces : List Piece} {text rest : List Char}
      (head : piece.FillsTo values text) (tail : FillsTo values pieces rest) :
      FillsTo values (piece :: pieces) (text ++ rest)

/-! ## Filling -/

/-- The value that is found is the first of its name. -/
theorem lookup_eq_some_iff {name value : String} :
    values.lookup name = some value ↔
      ∃ front back, values = front ++ (name, value) :: back ∧ name ∉ front.map Prod.fst := by
  rw [List.lookup_eq_some_iff]
  have hnames : ∀ front : Values,
      (∀ entry ∈ front, (name != entry.1) = true) ↔ name ∉ front.map Prod.fst := by
    intro front
    simp only [bne_iff_ne, List.mem_map]
    grind
  simp only [hnames]

theorem lookup_eq_none_iff {name : String} :
    values.lookup name = none ↔ name ∉ values.map Prod.fst := by
  rw [List.lookup_eq_none_iff]
  simp only [bne_iff_ne, List.mem_map]
  grind

/-- What becomes of a piece is determined, and `fillPiece` finds it. -/
theorem piece_fillsTo_iff {piece : Piece} {text : List Char} :
    piece.FillsTo values text ↔ text = (fillPiece values piece).toList := by
  have hslot : ∀ name, fillPiece values (.slot name) = (values.lookup name).getD "" :=
    fun _ => rfl
  constructor
  · intro h
    cases h with
    | text s => rfl
    | bound first values_eq =>
      rw [hslot, lookup_eq_some_iff.2 ⟨_, _, values_eq, first⟩]
      rfl
    | unbound absent =>
      rw [hslot, lookup_eq_none_iff.2 absent]
      rfl
  · rintro rfl
    cases piece with
    | text s => exact .text s
    | slot name =>
      rw [hslot]
      cases hvalue : values.lookup name with
      | none => exact .unbound (lookup_eq_none_iff.1 hvalue)
      | some value =>
        rcases lookup_eq_some_iff.1 hvalue with ⟨front, back, hvalues, hfirst⟩
        exact .bound hfirst hvalues

theorem fillWord_nil : fillWord values [] = "" := rfl

theorem fillWord_cons (piece : Piece) (pieces : List Piece) :
    fillWord values (piece :: pieces) = fillPiece values piece ++ fillWord values pieces := by
  rw [← String.toList_inj]
  simp [fillWord]

theorem fillWord_append (front back : List Piece) :
    fillWord values (front ++ back) = fillWord values front ++ fillWord values back := by
  rw [← String.toList_inj]
  simp [fillWord]

/-- A text that was read backwards is filled in as it was. -/
theorem fillWord_textPiece (read : List Char) :
    fillWord values (textPiece read) = String.ofList read.reverse := by
  unfold textPiece
  cases read with
  | nil => rfl
  | cons c read => simp [fillWord, fillPiece]

/-- What becomes of a token is determined, and `fillWord` finds it. -/
theorem fillsTo_iff {token : List Piece} {text : List Char} :
    FillsTo values token text ↔ text = (fillWord values token).toList := by
  constructor
  · intro h
    induction h with
    | nil => rfl
    | cons head _ ih => rw [fillWord_cons, String.toList_append, piece_fillsTo_iff.1 head, ih]
  · rintro rfl
    induction token with
    | nil => exact .nil
    | cons piece pieces ih =>
      rw [fillWord_cons, String.toList_append]
      exact .cons (piece_fillsTo_iff.2 rfl) ih

/-- The text of a template is what becomes of its words, in order and with single blanks between
them, without what is blank. -/
def Renders (template : Template) (values : Values) (text : String) : Prop :=
  ∃ texts, List.Forall₂ (FillsTo values) template.words texts ∧
    text.toList = [' '].intercalate (texts.filter fun text => !text.all isBlank)

/-- The text of a template is determined, and `fill` finds it. -/
theorem renders_iff {template : Template} {text : String} :
    template.Renders values text ↔ text = template.fill values := by
  have hfill : (template.fill values).toList = [' '].intercalate
      ((template.words.map fun word => (fillWord values word).toList).filter fun text =>
        !text.all isBlank) := by
    rw [fill, String.toList_intercalate, List.filter_map, List.filter_map, List.map_map]
    rfl
  constructor
  · rintro ⟨texts, htexts, htext⟩
    have hdetermined : template.words.map (fun word => (fillWord values word).toList) = texts := by
      rw [← List.forall₂_eq_eq_eq, List.forall₂_map_left_iff]
      exact htexts.imp fun _ _ h => (fillsTo_iff.1 h).symm
    rw [← String.toList_inj, htext, hfill, hdetermined]
  · rintro rfl
    refine ⟨_, ?_, hfill⟩
    rw [List.forall₂_map_right_iff]
    exact List.forall₂_same.2 fun word _ => fillsTo_iff.2 rfl

/-! ## Reading the pieces of a token -/

section Reading

variable {read name s rest : List Char}

/-- Without an opening brace everything belongs to the text. -/
theorem piecesInText_append (h : ∀ c ∈ s, c ≠ '\x7b') :
    piecesInText read (s ++ rest) = piecesInText (s.reverse ++ read) rest := by
  induction s generalizing read with
  | nil => rfl
  | cons c s ih =>
    rcases List.forall_mem_cons.1 h with ⟨hc, hs⟩
    rw [List.cons_append, piecesInText, if_neg hc, ih hs]
    simp

/-- Behind an opening brace word characters belong to the name. -/
theorem piecesInSlot_append (h : ∀ c ∈ s, isWordChar c = true) :
    piecesInSlot read name (s ++ rest) = piecesInSlot read (s.reverse ++ name) rest := by
  induction s generalizing name with
  | nil => rfl
  | cons c s ih =>
    rcases List.forall_mem_cons.1 h with ⟨hc, hs⟩
    rw [List.cons_append, piecesInSlot, if_pos hc, ih hs]
    simp

/-- A slot ends the text in front of it. -/
theorem piecesInText_slot {name : String} (h : (Piece.slot name).IsSpellable) :
    piecesInText read ((Piece.slot name).spelling ++ rest) =
      textPiece read ++ .slot name :: piecesInText [] rest := by
  rcases h with ⟨hne, hname⟩
  have hclose : isWordChar '\x7d' = false := by decide +kernel
  have hreversed : name.toList.reverse ≠ [] := by simpa using hne
  calc piecesInText read ((Piece.slot name).spelling ++ rest)
      = piecesInSlot read [] (name.toList ++ ('\x7d' :: rest)) := by
        simp [Piece.spelling, piecesInText]
    _ = piecesInSlot read name.toList.reverse ('\x7d' :: rest) := by
        rw [piecesInSlot_append hname, List.append_nil]
    _ = textPiece read ++ .slot name :: piecesInText [] rest := by
        simp [piecesInSlot, hclose, hreversed]

end Reading

/-- Reading the pieces of a token and filling them gives the filled pieces, behind the text that was
read before them. -/
theorem fillWord_piecesInText {token : List Piece} (h : ∀ piece ∈ token, piece.IsSpellable)
    (read : List Char) :
    fillWord values (piecesInText read (spelling token)) =
      String.ofList read.reverse ++ fillWord values token := by
  induction token generalizing read with
  | nil =>
    rw [spelling, List.flatMap_nil, piecesInText, fillWord_textPiece, fillWord_nil,
      String.append_empty]
  | cons piece token ih =>
    rcases List.forall_mem_cons.1 h with ⟨hpiece, htoken⟩
    have hspelling : spelling (piece :: token) = piece.spelling ++ spelling token := rfl
    rw [hspelling, fillWord_cons]
    cases piece with
    | text s =>
      -- The text is not cut off here: the next piece may be a text as well.
      have htext : piecesInText read (s.toList ++ spelling token) =
          piecesInText (s.toList.reverse ++ read) (spelling token) :=
        piecesInText_append fun c hc => (hpiece c hc).1
      calc fillWord values (piecesInText read (s.toList ++ spelling token))
          = String.ofList (s.toList.reverse ++ read).reverse ++ fillWord values token := by
            rw [htext, ih htoken]
        _ = String.ofList read.reverse ++ (s ++ fillWord values token) := by
            rw [← String.toList_inj]
            simp
    | slot name =>
      rw [piecesInText_slot hpiece, fillWord_append, fillWord_textPiece, fillWord_cons, ih htoken]
      rfl

/-- The words of a template are its tokens: they are filled alike, though they may be cut into other
pieces. -/
theorem map_fillWord_ofText {tokens : List (List Piece)} (h : ∀ token ∈ tokens, IsToken token)
    {s : String} (hs : Spaced (tokens.map spelling) s.toList) :
    (ofText s).words.map (fillWord values) = tokens.map (fillWord values) := by
  have hwords : wordsOf s.toList = tokens.map spelling := by
    refine wordsOf_of_spaced hs ?_
    intro word hword
    rcases List.mem_map.1 hword with ⟨token, htoken, rfl⟩
    exact (h token htoken).isWord
  have hfill : ∀ token ∈ tokens,
      fillWord values (piecesInText [] (spelling token)) = fillWord values token := by
    intro token htoken
    rw [fillWord_piecesInText (h token htoken).spellable]
    rfl
  unfold ofText
  rw [hwords, List.map_map, List.map_map]
  exact List.map_congr_left hfill

/-- A filled template consists of the texts of its tokens, in order and with single blanks between
them, without those that are blank.  Nothing of this depends on what the values are or which blanks
the template has between its tokens. -/
theorem fill_ofText_of_isToken (values : Values) {tokens : List (List Piece)}
    (h : ∀ token ∈ tokens, IsToken token) :
    ∃ texts, List.Forall₂ (FillsTo values) tokens texts ∧
      ∀ s : String, Spaced (tokens.map spelling) s.toList →
        ((ofText s).fill values).toList = [' '].intercalate (texts.filter fun text =>
          !text.all isBlank) := by
  refine ⟨tokens.map fun token => (fillWord values token).toList, ?_, ?_⟩
  · rw [List.forall₂_map_right_iff]
    exact List.forall₂_same.2 fun token _ => fillsTo_iff.2 rfl
  · intro s hs
    unfold fill
    rw [map_fillWord_ofText h hs, String.toList_intercalate, List.filter_map, List.filter_map,
      List.map_map]
    rfl

/-- Values that look like slots or hold blanks come out unchanged. -/
theorem fill_ofText_of_isToken_slotLike :
    (∀ token ∈ [[Piece.slot "a"], [.slot "c"], [.slot "b", .text "(", .slot "a", .text ")"]],
      IsToken token) ∧
    Spaced ([[Piece.slot "a"], [.slot "c"], [.slot "b", .text "(", .slot "a", .text ")"]].map
      spelling) "\t\x7ba\x7d\u2003 \x7bc\x7d\n\x7bb\x7d(\x7ba\x7d)".toList ∧
    (ofText "\t\x7ba\x7d\u2003 \x7bc\x7d\n\x7bb\x7d(\x7ba\x7d)").fill
      [("a", "\x7bb\x7d  $1"), ("b", " "), ("a", "")] = "\x7bb\x7d  $1  (\x7bb\x7d  $1)" := by
  have htokens : ∀ token ∈
      [[Piece.slot "a"], [.slot "c"], [.slot "b", .text "(", .slot "a", .text ")"]],
      IsToken token := by
    have hslots : ∀ name ∈ ["a", "b", "c"], (Piece.slot name).IsSpellable := by
      simp [Piece.IsSpellable]
      decide +kernel
    have htexts : ∀ s ∈ ["(", ")"], (Piece.text s).IsSpellable := by
      simp [Piece.IsSpellable]
      decide
    simp only [List.mem_cons, List.not_mem_nil, or_false, forall_eq_or_imp, forall_eq]
      at hslots htexts ⊢
    refine ⟨⟨?_, ?_⟩, ⟨?_, ?_⟩, ⟨?_, ?_⟩⟩ <;> simp_all [spelling, Piece.spelling]
  have hspaced : Spaced
      ([[Piece.slot "a"], [.slot "c"], [.slot "b", .text "(", .slot "a", .text ")"]].map spelling)
      "\t\x7ba\x7d\u2003 \x7bc\x7d\n\x7bb\x7d(\x7ba\x7d)".toList := by
    have htab : IsGap ['\t'] := List.forall_mem_singleton.2 (by decide)
    have hspace : IsGap [' '] := List.forall_mem_singleton.2 (by decide)
    have hnone : IsGap [] := List.forall_mem_nil _
    have hquad : isBlank '\u2003' = true := by decide
    have hnewline : isBlank '\n' = true := by decide
    exact .cons htab hquad (.cons hspace hnewline (.last hnone))
  refine ⟨htokens, hspaced, ?_⟩
  rcases fill_ofText_of_isToken [("a", "\x7bb\x7d  $1"), ("b", " "), ("a", "")] htokens with
    ⟨texts, htexts, hfill⟩
  -- What the tokens become is determined, so their texts can be worked out.
  simp only [List.forall₂_cons_left_iff, List.forall₂_nil_left_iff, fillsTo_iff] at htexts
  rcases htexts with ⟨_, _, rfl, ⟨_, _, rfl, ⟨_, _, rfl, rfl, rfl⟩, rfl⟩, rfl⟩
  rw [← String.toList_inj, hfill _ hspaced]
  rfl

end Template
end TableDdl
