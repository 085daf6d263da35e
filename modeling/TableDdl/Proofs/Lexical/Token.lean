import TableDdl.Proofs.Lexical.Reference

/-!
# Literals as tokens

A reader that stands in front of a literal takes all of it and nothing of what follows, as long as
the text behind does not go on with a string, a word or a number.

* `NumberPlace.step?`: an automaton that walks through a number, and `BareNumber.accepted`: the
  grammar of numbers leads it to one of its ends;
* `readLiteral?`: the literal at the front of a text, and what follows;
* `Literal.token`: what the reader has to find;
* `readLiteral?_value`: it finds the literal of a scalar, whatever the scalar is.

`QuoteStyle.value_isOneToken` says this for defaults and operands, with what the literal stands for.
-/

namespace TableDdl

open Text

namespace Lexical

inductive LiteralToken where
  /-- A word or a number, as it stands. -/
  | bare (cs : List Char)
  /-- What a string holds. -/
  | string (content : List Char)
deriving DecidableEq, Repr

/-! ## Numbers -/

inductive NumberSign where
  | digit
  | sign
  | point
  /-- Stands in front of a power of ten. -/
  | mark
deriving DecidableEq, Repr

def numberSign? (c : Char) : Option NumberSign :=
  if c.isDigit then some .digit
  else if c = '+' ∨ c = '-' then some .sign
  else if c = '.' then some .point
  else if c = 'e' ∨ c = 'E' then some .mark
  else none

inductive NumberPlace where
  /-- In front of the number. -/
  | start
  | behindSign
  /-- Behind a digit and in front of any point. -/
  | whole
  /-- Behind a point that has no digit in front of it. -/
  | behindPoint
  /-- Behind a digit and a point. -/
  | fraction
  | behindMark
  /-- Behind the sign of the power. -/
  | behindPowerSign
  /-- Behind a digit of the power. -/
  | power
deriving DecidableEq, Repr

namespace NumberPlace

def step? : NumberPlace → NumberSign → Option NumberPlace
  | start, .sign => some behindSign
  | start, .digit | behindSign, .digit | whole, .digit => some whole
  | start, .point | behindSign, .point => some behindPoint
  | whole, .point => some fraction
  | behindPoint, .digit | fraction, .digit => some fraction
  | whole, .mark | fraction, .mark => some behindMark
  | behindMark, .sign => some behindPowerSign
  | behindMark, .digit | behindPowerSign, .digit | power, .digit => some power
  | _, _ => none

def next? (place : NumberPlace) (c : Char) : Option NumberPlace :=
  (numberSign? c).bind place.step?

/-- Whether a number may end here. -/
def isEnd : NumberPlace → Bool
  | whole | fraction | power => true
  | _ => false

end NumberPlace

/-- Reads a number from a place in it, as far as it goes, and gives its characters and what
follows. -/
def readNumberFrom? : NumberPlace → List Char → Option (List Char × List Char)
  | place, [] => if place.isEnd then some ([], []) else none
  | place, c :: cs =>
      match place.next? c with
      | some next => (readNumberFrom? next cs).map fun read => (c :: read.1, read.2)
      | none => if place.isEnd then some ([], c :: cs) else none

/-! ## Literals -/

def readString? : List Char → Option (List Char × List Char)
  | [] => none
  | '\'' :: '\'' :: cs => (readString? cs).map fun read => ('\'' :: read.1, read.2)
  | '\'' :: cs => some ([], cs)
  | c :: cs => (readString? cs).map fun read => (c :: read.1, read.2)

/-- Reads the literal at the front of a text: a string, a word or a number. -/
def readLiteral? : List Char → Option (LiteralToken × List Char)
  | [] => none
  | c :: cs =>
      if c = '\'' then (readString? cs).map fun read => (.string read.1, read.2)
      else if opensPlainName c then
        some (.bare ((c :: cs).takeWhile continuesPlainName),
          (c :: cs).dropWhile continuesPlainName)
      else (readNumberFrom? .start (c :: cs)).map fun read => (.bare read.1, read.2)

/-- No string, word or number goes on in the text. -/
def EndsLiteral (rest : List Char) : Prop :=
  ∀ c ∈ rest.head?, c ≠ '\'' ∧ continuesPlainName c = false ∧ c ≠ '.'

variable {cs ds rest : List Char} {place next : NumberPlace}

theorem EndsLiteral.nil : EndsLiteral [] :=
  nofun

theorem EndsLiteral.cons {c : Char} (hc : c ∈ [' ', ')', ',', ';', '\n']) (rest : List Char) :
    EndsLiteral (c :: rest) := by
  intro c' hfirst
  cases hfirst
  simp only [List.mem_cons, List.not_mem_nil, or_false] at hc
  rcases hc with rfl | rfl | rfl | rfl | rfl <;> decide

/-! ## Reading a number -/

theorem numberSign?_of_isDigit {c : Char} (h : c.isDigit = true) : numberSign? c = some .digit :=
  if_pos h

/-- Characters that the reader accepts are read, and then it goes on. -/
theorem readNumberFrom?_append (h : cs.foldlM NumberPlace.next? place = some next) :
    readNumberFrom? place (cs ++ rest) =
      (readNumberFrom? next rest).map fun read => (cs ++ read.1, read.2) := by
  induction cs generalizing place with
  | nil =>
    cases h
    simp
  | cons c cs ih =>
    rcases Option.bind_eq_some_iff.1 h with ⟨behind, hstep, htail⟩
    rw [List.cons_append, readNumberFrom?, hstep]
    simp only [ih htail, Option.map_map]
    rfl

/-- Where a number may end, only a digit, a point or a mark can go on with it. -/
theorem NumberPlace.next?_eq_none {c : Char} (hend : place.isEnd = true)
    (hc : continuesPlainName c = false ∧ c ≠ '.') : place.next? c = none := by
  have hword : c.isDigit = false ∧ c.isAlpha = false := by
    have hneither := hc.1
    simp only [continuesPlainName, Char.isAlphanum, Bool.or_eq_false_iff] at hneither
    exact ⟨hneither.1.2, hneither.1.1⟩
  have hmark : ¬(c = 'e' ∨ c = 'E') := by
    rintro (rfl | rfl) <;> exact absurd hword.2 (by decide)
  unfold next? numberSign?
  rw [hword.1, if_neg Bool.false_ne_true, if_neg hc.2, if_neg hmark]
  split
  · -- A number does not go on with a sign where it may end.
    revert hend
    cases place <;> decide
  · rfl

/-- Where a number may end, what follows ends it. -/
theorem readNumberFrom?_end (hend : place.isEnd = true) (hrest : EndsLiteral rest) :
    readNumberFrom? place rest = some ([], rest) := by
  cases rest with
  | nil => rw [readNumberFrom?, if_pos hend]
  | cons c rest =>
    have hstop := NumberPlace.next?_eq_none hend (hrest c rfl).2
    rw [readNumberFrom?, hstop]
    exact if_pos hend

/-- A place that a digit leads back to is kept by any number of them. -/
theorem foldlM_next?_of_keeps (hkeeps : place.step? .digit = some place)
    (h : ∀ c ∈ cs, c.isDigit = true) : cs.foldlM NumberPlace.next? place = some place := by
  induction cs with
  | nil => rfl
  | cons c cs ih =>
    have hc := numberSign?_of_isDigit (h c List.mem_cons_self)
    have hstep : place.next? c = some place := by
      simpa [NumberPlace.next?, hc] using hkeeps
    rw [foldlM_cons_of_eq_some hstep]
    exact ih fun x hx => h x (List.mem_cons_of_mem _ hx)

/-- Digits lead to a place where further digits stay. -/
theorem foldlM_next?_digits (hfirst : place.step? .digit = some next)
    (hkeeps : next.step? .digit = some next) (h : isDigits cs = true) :
    cs.foldlM NumberPlace.next? place = some next := by
  rcases isDigits_iff.1 h with ⟨hne, hall⟩
  rcases List.exists_cons_of_ne_nil hne with ⟨c, ds, rfl⟩
  have hc := numberSign?_of_isDigit (hall c List.mem_cons_self)
  have hstep : place.next? c = some next := by
    simpa [NumberPlace.next?, hc] using hfirst
  rw [foldlM_cons_of_eq_some hstep]
  exact foldlM_next?_of_keeps hkeeps fun x hx => hall x (List.mem_cons_of_mem _ hx)

/-- A sign is accepted at the front, and may be missing. -/
theorem IsSign.accepted (h : IsSign cs) :
    ∃ next, (next = .start ∨ next = .behindSign) ∧
      cs.foldlM NumberPlace.next? .start = some next := by
  cases h with
  | none => exact ⟨.start, .inl rfl, rfl⟩
  | plus => exact ⟨.behindSign, .inr rfl, rfl⟩
  | minus => exact ⟨.behindSign, .inr rfl, rfl⟩

/-- Behind it a mantissa is accepted. -/
theorem IsMantissa.accepted (hplace : place = .start ∨ place = .behindSign) (h : IsMantissa cs) :
    ∃ next, (next = .whole ∨ next = .fraction) ∧ cs.foldlM NumberPlace.next? place = some next := by
  have hfirst : place.step? .digit = some .whole := by rcases hplace with rfl | rfl <;> rfl
  cases h with
  | whole digits => exact ⟨.whole, .inl rfl, foldlM_next?_digits hfirst rfl digits⟩
  | pointed digits fraction =>
    have hpoint : NumberPlace.next? .whole '.' = some .fraction := rfl
    have hwhole := foldlM_next?_digits hfirst rfl digits
    refine ⟨.fraction, .inr rfl, ?_⟩
    rw [foldlM_append_of_eq_some hwhole, foldlM_cons_of_eq_some hpoint]
    exact foldlM_next?_of_keeps rfl fraction
  | fraction digits =>
    have hpoint : place.next? '.' = some .behindPoint := by
      rcases hplace with rfl | rfl <;> rfl
    refine ⟨.fraction, .inr rfl, ?_⟩
    rw [foldlM_cons_of_eq_some hpoint]
    exact foldlM_next?_digits rfl rfl digits

/-- A power is accepted behind a mantissa, and may be missing; then the number may end. -/
theorem IsPower.accepted (hplace : place = .whole ∨ place = .fraction) (h : IsPower cs) :
    ∃ next, next.isEnd = true ∧ cs.foldlM NumberPlace.next? place = some next := by
  cases h with
  | none => exact ⟨place, by rcases hplace with rfl | rfl <;> rfl, rfl⟩
  | @some mark sign ds isMark isSign digits =>
    have hmark : [mark].foldlM NumberPlace.next? place = some .behindMark := by
      rcases isMark with rfl | rfl <;> rcases hplace with rfl | rfl <;> rfl
    have hpower : (sign ++ ds).foldlM NumberPlace.next? .behindMark = some .power := by
      cases isSign with
      | none => exact foldlM_next?_digits rfl rfl digits
      | plus =>
        have hsign : ['+'].foldlM NumberPlace.next? .behindMark = some .behindPowerSign := rfl
        rw [foldlM_append_of_eq_some hsign]
        exact foldlM_next?_digits rfl rfl digits
      | minus =>
        have hsign : ['-'].foldlM NumberPlace.next? .behindMark = some .behindPowerSign := rfl
        rw [foldlM_append_of_eq_some hsign]
        exact foldlM_next?_digits rfl rfl digits
    exact ⟨.power, rfl, (foldlM_append_of_eq_some hmark _).trans hpower⟩

/-- The automaton walks through every number of the grammar and ends where a number may end. -/
theorem BareNumber.accepted (h : BareNumber cs) :
    ∃ next, next.isEnd = true ∧ cs.foldlM NumberPlace.next? .start = some next := by
  rcases h with ⟨isSign, isMantissa, isPower⟩
  rcases IsSign.accepted isSign with ⟨front, hfront, hsign⟩
  rcases IsMantissa.accepted hfront isMantissa with ⟨middle, hmiddle, hmantissa⟩
  rcases IsPower.accepted hmiddle isPower with ⟨next, hnext, hpower⟩
  refine ⟨next, hnext, ?_⟩
  rw [foldlM_append_of_eq_some hsign, foldlM_append_of_eq_some hmantissa]
  exact hpower

/-- A number is read whole. -/
theorem readNumberFrom?_bareNumber (h : BareNumber cs) (hrest : EndsLiteral rest) :
    readNumberFrom? .start (cs ++ rest) = some (cs, rest) := by
  rcases BareNumber.accepted h with ⟨next, hend, haccepted⟩
  rw [readNumberFrom?_append haccepted, readNumberFrom?_end hend hrest]
  simp

/-! ## Reading a literal -/

def isWord : List Char → Bool
  | [] => false
  | c :: cs => opensPlainName c && (c :: cs).all continuesPlainName

/-- Words and numbers are written as they stand. -/
inductive BareText (cs : List Char) : Prop where
  | word (h : isWord cs = true)
  | number (h : BareNumber cs)

theorem opensPlainName_eq_false_of_isDigit {c : Char} (h : c.isDigit = true) :
    opensPlainName c = false := by
  have hrange : 48 ≤ c.toNat ∧ c.toNat ≤ 57 := Char.isDigit_iff_toNat.1 h
  -- The letters begin behind the digits.
  have hletter : c.isAlpha ≠ true := by
    intro halpha
    rcases Bool.or_eq_true_iff.1 halpha with hupper | hlower
    · have hbounds : 'A'.val ≤ c.val ∧ c.val ≤ 'Z'.val := of_decide_eq_true hupper
      have hfirst : 65 ≤ c.toNat := UInt32.le_iff_toNat_le.1 hbounds.1
      omega
    · have hbound : 'a'.val ≤ c.val := of_decide_eq_true (Bool.and_eq_true_iff.1 hlower).1
      have hfirst : 97 ≤ c.toNat := UInt32.le_iff_toNat_le.1 hbound
      omega
  have hline : c ≠ '_' := Numeral.isDigit_ne h rfl
  simp [opensPlainName, hletter, hline]

/-- The first character of a number is neither a quote nor the first one of a word. -/
theorem NumberPlace.first_of_next?_start {c : Char} (h : NumberPlace.start.next? c = some next) :
    c ≠ '\'' ∧ opensPlainName c = false := by
  have hsome : (numberSign? c).bind start.step? = some next := h
  by_cases hdigit : c.isDigit = true
  · exact ⟨Numeral.isDigit_ne hdigit rfl, opensPlainName_eq_false_of_isDigit hdigit⟩
  · -- Without a digit, a number begins with a sign or a point.
    have hmarks : c = '+' ∨ c = '-' ∨ c = '.' := by
      by_contra hnone
      rw [not_or, not_or] at hnone
      unfold numberSign? at hsome
      rw [if_neg hdigit, if_neg (not_or.2 ⟨hnone.1, hnone.2.1⟩), if_neg hnone.2.2] at hsome
      split at hsome <;> cases hsome
    rcases hmarks with rfl | rfl | rfl <;> decide

/-- A string is read up to its closing quote, with the doubled ones undone. -/
theorem readString?_double (hrest : ∀ c ∈ rest.head?, c ≠ '\'') (content : List Char) :
    readString? (double '\'' content ++ '\'' :: rest) = some (content, rest) := by
  induction content with
  | nil =>
    cases rest with
    | nil => rfl
    | cons c rest =>
      have hc := hrest c rfl
      simp [readString?, hc]
  | cons c content ih =>
    by_cases hc : c = '\''
    · subst hc
      simpa [readString?] using ih
    · simp [readString?, hc, ih]

/-- A word is one token. -/
theorem readLiteral?_word (h : isWord cs = true) (hrest : EndsLiteral rest) :
    readLiteral? (cs ++ rest) = some (.bare cs, rest) := by
  cases cs with
  | nil => cases h
  | cons c cs =>
    obtain ⟨hopens, hall⟩ : opensPlainName c = true ∧
        ∀ x ∈ c :: cs, continuesPlainName x = true := by
      rcases Bool.and_eq_true_iff.1 h with ⟨hopens, hall⟩
      exact ⟨hopens, List.all_eq_true.1 hall⟩
    have hquote : c ≠ '\'' := by
      rintro rfl
      exact absurd hopens (by decide)
    have hspan := Numeral.takeWhile_append_stop continuesPlainName (c :: cs) rest hall
      fun x hx => (hrest x hx).2.1
    rw [List.cons_append, readLiteral?, if_neg hquote, if_pos hopens, ← List.cons_append,
      hspan.1, hspan.2]

/-- A number is one token. -/
theorem readLiteral?_number (h : BareNumber cs) (hrest : EndsLiteral rest) :
    readLiteral? (cs ++ rest) = some (.bare cs, rest) := by
  have hread := readNumberFrom?_bareNumber h hrest
  rcases BareNumber.accepted h with ⟨next, hend, haccepted⟩
  cases cs with
  | nil =>
    cases haccepted
    cases hend
  | cons c cs =>
    rcases Option.bind_eq_some_iff.1 haccepted with ⟨behind, hstep, _⟩
    rcases NumberPlace.first_of_next?_start hstep with ⟨hquote, hopens⟩
    rw [List.cons_append] at hread ⊢
    rw [readLiteral?, if_neg hquote, hopens, if_neg Bool.false_ne_true, hread]
    rfl

/-- A text without quotes is one token, be it a word or a number. -/
theorem readLiteral?_bareText (h : BareText cs) (hrest : EndsLiteral rest) :
    readLiteral? (cs ++ rest) = some (.bare cs, rest) := by
  cases h with
  | word h => exact readLiteral?_word h hrest
  | number h => exact readLiteral?_number h hrest

/-- A string in quotes is one token. -/
theorem readLiteral?_stringChars (hrest : EndsLiteral rest) (content : List Char) :
    readLiteral? (QuoteStyle.stringChars content ++ rest) = some (.string content, rest) := by
  have hread := readString?_double (fun c hc => (hrest c hc).1) content
  simpa [QuoteStyle.stringChars, readLiteral?] using hread

end Lexical

open Lexical

/-! ## The literals of a dialect -/

/-- What a reader has to find where the literal is written. -/
def Literal.token (style : QuoteStyle) : Literal → LiteralToken
  | .quoted content => .string content.toList
  | literal => .bare (style.literalText literal).toList

/-- The words for the truth values are words or numbers. -/
structure TokenWords (style : QuoteStyle) : Prop where
  truth : ∀ b, BareText (style.literalText (.boolean b)).toList

/-- The words for truth values are words in all provided dialects. -/
theorem TokenWords.of_mem_provided {d : Dialect} (hd : d ∈ Dialect.provided) :
    TokenWords d.quotes := by
  have hdigit : ∀ c : Char, c.isDigit = true → BareText [c] := by
    intro c hc
    exact .number (.of_mantissa .none (.whole (by simp [isDigits, hc])))
  refine ⟨fun b => ?_⟩
  rcases Dialect.mem_provided_iff.1 hd with rfl | rfl | rfl
  · cases b
    · exact hdigit '0' rfl
    · exact hdigit '1' rfl
  · cases b
    · exact .word (by decide)
    · exact .word (by decide)
  · cases b
    · exact hdigit '0' rfl
    · exact hdigit '1' rfl

variable {style : QuoteStyle} {v : Scalar} {formatter : Formatter} {literal : Literal}
  {rest : List Char}

/-- The text of a literal is one token, and nothing behind it is taken along. -/
theorem readLiteral?_literalText (hwords : TokenWords style) (h : v.Renders formatter literal)
    (hrest : EndsLiteral rest) :
    readLiteral? ((style.literalText literal).toList ++ rest) =
      some (literal.token style, rest) := by
  have hquoted : ∀ content : String,
      readLiteral? ((style.literalText (.quoted content)).toList ++ rest) =
        some (.string content.toList, rest) := by
    intro content
    unfold QuoteStyle.literalText
    rw [String.toList_ofList]
    exact readLiteral?_stringChars hrest content.toList
  cases h with
  | null =>
    have hword : isWord "NULL".toList = true := by decide
    exact readLiteral?_word hword hrest
  | boolean => exact readLiteral?_bareText (hwords.truth _) hrest
  | number shown form => exact readLiteral?_number form hrest
  | display => exact hquoted _
  | date => exact hquoted _

/-- A reader takes just the literal of a scalar. -/
theorem readLiteral?_value (hwords : TokenWords style) (v : Scalar) (formatter : Formatter)
    (hrest : EndsLiteral rest) :
    readLiteral? ((style.value v formatter).toList ++ rest) =
      some ((v.literal formatter).token style, rest) :=
  readLiteral?_literalText hwords (v.renders_literal formatter) hrest

/-- The text is the literal, and a reader that stands in front of it takes just this, whatever
follows. -/
structure QuoteStyle.ShowsToken (style : QuoteStyle) (text : String) (literal : Literal) :
    Prop where
  text_eq : text = style.literalText literal
  read : ∀ rest, EndsLiteral rest →
    readLiteral? (text.toList ++ rest) = some (literal.token style, rest)

/-- Every default and every operand is written as one token, which stands for the scalar: the word
for nothing, a truth value, a number, or a string with the text of the scalar or of a moment. -/
theorem QuoteStyle.value_isOneToken {d : Dialect} (hd : d ∈ Dialect.provided) (v : Scalar) :
    (∀ formatter, v.Renders formatter (v.literal formatter) ∧
      d.quotes.ShowsToken (d.quotes.value v formatter) (v.literal formatter)) ∧
    v.Renders v.operandFormatter (v.literal v.operandFormatter) ∧
      d.quotes.ShowsToken (d.quotes.quoter.operand v) (v.literal v.operandFormatter) := by
  have hwords := TokenWords.of_mem_provided hd
  have hshows : ∀ formatter,
      d.quotes.ShowsToken (d.quotes.value v formatter) (v.literal formatter) :=
    fun formatter => ⟨rfl, fun _ hrest => readLiteral?_value hwords v formatter hrest⟩
  refine ⟨fun formatter => ⟨v.renders_literal formatter, hshows formatter⟩,
    v.renders_literal _, ?_⟩
  rw [QuoteStyle.operand_eq_value]
  exact hshows _

/-- A text with a quote and a parenthesis in it, and a number that is given as a text. -/
theorem QuoteStyle.value_isOneToken_tricky :
    readLiteral? ((Dialect.postgres.quotes.value (.text " it's 1) ") .real).toList
          ++ ") OR".toList) =
        some (.string " it's 1) ".toList, ") OR".toList) ∧
      readLiteral? ((Dialect.postgres.quotes.quoter.operand (.text " +.5E-3 ")).toList
          ++ ") OR".toList) = some (.bare "+.5E-3".toList, ") OR".toList) := by
  have hends : EndsLiteral ") OR".toList := .cons (c := ')') (by simp) _
  have hquoted :=
    ((value_isOneToken Dialect.postgres_mem_provided (.text " it's 1) ")).1 .real).2.read _ hends
  have hnumber :=
    (value_isOneToken Dialect.postgres_mem_provided (.text " +.5E-3 ")).2.2.read _ hends
  refine ⟨hquoted.trans ?_, hnumber.trans ?_⟩ <;> decide +kernel

end TableDdl
