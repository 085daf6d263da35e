import TableDdl.Proofs.Json.Scan

/-!
# Printed documents read back

* `Json.stored`: what is left of a document when numbers without a numeral become null;
* `Json.FitsIn`: how many arrays and objects stand inside one another;
* `Draft.ofText?_printed`: the text of a document spells out its draft;
* `Draft.read?_draft`: reading this draft gives what is left of the document;
* `Draft.stored_of_read?`: nothing is lost of a document that was read.
-/

namespace TableDdl

/-- What is left of a scalar in a document: there is no numeral for every number. -/
def Scalar.stored : Scalar → Scalar
  | .real x => if x.isFinite then .real x else .null
  | v => v

/-- Whether a scalar is no infinity and not undefined. -/
def Scalar.IsStorable : Scalar → Prop
  | .real x => x.isFinite = true
  | _ => True

/-- Printing changes a scalar only if it is a number that is not finite. -/
theorem Scalar.stored_eq_self_iff {v : Scalar} : v.stored = v ↔ v.IsStorable := by
  cases v with
  | real x => by_cases hx : x.isFinite = true <;> simp [stored, IsStorable, hx]
  | null => simp [stored, IsStorable]
  | boolean b => simp [stored, IsStorable]
  | integer n => simp [stored, IsStorable]
  | text s => simp [stored, IsStorable]

namespace Json

mutual

/-- What is left of a document in its text. -/
def stored : Json → Json
  | .scalar v => .scalar v.stored
  | .array items => .array (storedItems items)
  | .object members => .object (storedMembers members)

def storedItems : List Json → List Json
  | [] => []
  | item :: items => item.stored :: storedItems items

def storedMembers : List (String × Json) → List (String × Json)
  | [] => []
  | (key, value) :: members => (key, value.stored) :: storedMembers members

end

theorem storedItems_eq_map (items : List Json) : storedItems items = items.map stored := by
  induction items with
  | nil => rfl
  | cons item items ih => simp [storedItems, ih]

theorem storedMembers_eq_map (members : List (String × Json)) :
    storedMembers members = members.map fun member => (member.1, member.2.stored) := by
  induction members with
  | nil => rfl
  | cons member members ih => simp [storedMembers, ih]

/-- At most so many arrays and objects stand inside one another. -/
inductive FitsIn : Nat → Json → Prop where
  | scalar {budget : Nat} (v : Scalar) : FitsIn budget (.scalar v)
  | array {budget : Nat} {items : List Json} (h : ∀ item ∈ items, FitsIn budget item) :
    FitsIn (budget + 1) (.array items)
  | object {budget : Nat} {members : List (String × Json)}
    (h : ∀ member ∈ members, FitsIn budget member.2) : FitsIn (budget + 1) (.object members)

/-! ## From tokens to the draft -/

/-- In front of a value the machine takes these tokens and puts the draft into its place. -/
def Builds (ts : List Token) (d : Draft) : Prop :=
  ∀ frames, ts.foldlM Machine.step? ⟨frames, .value⟩ = some (Machine.plug d frames)

variable {ts : List Token} {d : Draft}

theorem Builds.ne_nil (h : Builds ts d) : ts ≠ [] := by
  rintro rfl
  cases h []

/-- A value may stand where an item or the end of an array is expected. -/
theorem Builds.firstItem (h : Builds ts d) (frames : List Frame) :
    ts.foldlM Machine.step? ⟨frames, .firstItem⟩ = some ⟨frames, .afterItem [d]⟩ := by
  have hitem := h (.item [] :: frames)
  -- Only the end of the array is taken differently, and no value begins with it.
  cases ts with
  | nil => exact absurd rfl h.ne_nil
  | cons t ts =>
    have hstep : Machine.step? ⟨frames, .firstItem⟩ t =
        Machine.step? ⟨.item [] :: frames, .value⟩ t := by
      cases t with
      | closeArray => cases hitem
      | openArray => rfl
      | openObject => rfl
      | closeObject => rfl
      | comma => rfl
      | colon => rfl
      | string s => rfl
      | word w => rfl
    rw [List.foldlM_cons, hstep]
    exact hitem

/-- Behind the first item, each comma and item adds one to the array. -/
theorem foldlM_step?_items {tss : List (List Token)} {ds : List Draft}
    (h : List.Forall₂ Builds tss ds) (frames : List Frame) :
    ∀ before, (tss.flatMap ([Token.comma] ++ ·)).foldlM Machine.step?
        ⟨frames, .afterItem before⟩ = some ⟨frames, .afterItem (ds.reverse ++ before)⟩ := by
  induction h with
  | nil => exact fun _ => rfl
  | @cons ts d tss ds hfirst hrest ih =>
    intro before
    have hcomma : Machine.step? ⟨frames, .afterItem before⟩ .comma =
        some ⟨.item before :: frames, .value⟩ := rfl
    -- The comma opens a place for the item, and the item fills it.
    calc
      ((ts :: tss).flatMap ([Token.comma] ++ ·)).foldlM Machine.step? ⟨frames, .afterItem before⟩
          = (ts ++ tss.flatMap ([Token.comma] ++ ·)).foldlM Machine.step?
              ⟨.item before :: frames, .value⟩ := by
            rw [List.flatMap_cons, List.append_assoc, List.singleton_append,
              foldlM_cons_of_eq_some hcomma]
      _ = (tss.flatMap ([Token.comma] ++ ·)).foldlM Machine.step?
              ⟨frames, .afterItem (d :: before)⟩ :=
            foldlM_append_of_eq_some (hfirst (.item before :: frames)) _
      _ = some ⟨frames, .afterItem ((d :: ds).reverse ++ before)⟩ := by
            simpa using ih (d :: before)

/-- The tokens of the items, with commas between them and in brackets, build the array. -/
theorem Builds.array {tss : List (List Token)} {ds : List Draft} (h : List.Forall₂ Builds tss ds) :
    Builds (.openArray :: [Token.comma].intercalate tss ++ [.closeArray]) (.array ds) := by
  intro frames
  have hopen : Machine.step? ⟨frames, .value⟩ .openArray = some ⟨frames, .firstItem⟩ := rfl
  rw [List.cons_append, foldlM_cons_of_eq_some hopen]
  cases h with
  | nil => rfl
  | @cons ts d tss ds hfirst hrest =>
    rw [Text.intercalate_cons_eq_append_flatMap, List.append_assoc]
    calc
      (ts ++ (tss.flatMap ([Token.comma] ++ ·) ++ [Token.closeArray])).foldlM Machine.step?
            ⟨frames, .firstItem⟩
          = (tss.flatMap ([Token.comma] ++ ·) ++ [Token.closeArray]).foldlM Machine.step?
              ⟨frames, .afterItem [d]⟩ :=
            foldlM_append_of_eq_some (hfirst.firstItem frames) _
      _ = [Token.closeArray].foldlM Machine.step? ⟨frames, .afterItem (ds.reverse ++ [d])⟩ :=
            foldlM_append_of_eq_some (foldlM_step?_items hrest frames [d]) _
      _ = some (Machine.plug (.array (d :: ds)) frames) := by
            simp [Machine.step?]

def BuildsMember (ts : List Token) (member : DraftString × Draft) : Prop :=
  ∃ rest, ts = .string member.1 :: .colon :: rest ∧ Builds rest member.2

/-- The tokens of a member add it to the object, wherever a member may begin. -/
theorem BuildsMember.foldlM_step? {member : DraftString × Draft} (h : BuildsMember ts member)
    (frames : List Frame) (before : List (DraftString × Draft)) (need : Need)
    (hneed : Machine.step? ⟨frames, need⟩ (.string member.1) =
      some ⟨frames, .colon before member.1⟩) :
    ts.foldlM Machine.step? ⟨frames, need⟩ = some ⟨frames, .afterMember (member :: before)⟩ := by
  rcases h with ⟨rest, rfl, hrest⟩
  have hcolon : Machine.step? ⟨frames, .colon before member.1⟩ .colon =
      some ⟨.member before member.1 :: frames, .value⟩ := rfl
  rw [foldlM_cons_of_eq_some hneed, foldlM_cons_of_eq_some hcolon]
  exact hrest (.member before member.1 :: frames)

/-- Behind the first member, each comma and member adds one to the object. -/
theorem foldlM_step?_members {tss : List (List Token)} {members : List (DraftString × Draft)}
    (h : List.Forall₂ BuildsMember tss members) (frames : List Frame) :
    ∀ before, (tss.flatMap ([Token.comma] ++ ·)).foldlM Machine.step?
        ⟨frames, .afterMember before⟩ = some ⟨frames, .afterMember (members.reverse ++ before)⟩ := by
  induction h with
  | nil => exact fun _ => rfl
  | @cons ts member tss members hfirst hrest ih =>
    intro before
    have hcomma : Machine.step? ⟨frames, .afterMember before⟩ .comma =
        some ⟨frames, .key before⟩ := rfl
    calc
      ((ts :: tss).flatMap ([Token.comma] ++ ·)).foldlM Machine.step?
            ⟨frames, .afterMember before⟩
          = (ts ++ tss.flatMap ([Token.comma] ++ ·)).foldlM Machine.step?
              ⟨frames, .key before⟩ := by
            rw [List.flatMap_cons, List.append_assoc, List.singleton_append,
              foldlM_cons_of_eq_some hcomma]
      _ = (tss.flatMap ([Token.comma] ++ ·)).foldlM Machine.step?
              ⟨frames, .afterMember (member :: before)⟩ :=
            foldlM_append_of_eq_some (hfirst.foldlM_step? frames before (.key before) rfl) _
      _ = some ⟨frames, .afterMember ((member :: members).reverse ++ before)⟩ := by
            simpa using ih (member :: before)

/-- The tokens of the members, with commas between them and in braces, build the object. -/
theorem Builds.object {tss : List (List Token)} {members : List (DraftString × Draft)}
    (h : List.Forall₂ BuildsMember tss members) :
    Builds (.openObject :: [Token.comma].intercalate tss ++ [.closeObject]) (.object members) := by
  intro frames
  have hopen : Machine.step? ⟨frames, .value⟩ .openObject = some ⟨frames, .firstKey⟩ := rfl
  rw [List.cons_append, foldlM_cons_of_eq_some hopen]
  cases h with
  | nil => rfl
  | @cons ts member tss members hfirst hrest =>
    rw [Text.intercalate_cons_eq_append_flatMap, List.append_assoc]
    calc
      (ts ++ (tss.flatMap ([Token.comma] ++ ·) ++ [Token.closeObject])).foldlM Machine.step?
            ⟨frames, .firstKey⟩
          = (tss.flatMap ([Token.comma] ++ ·) ++ [Token.closeObject]).foldlM Machine.step?
              ⟨frames, .afterMember [member]⟩ :=
            foldlM_append_of_eq_some (hfirst.foldlM_step? frames [] .firstKey rfl) _
      _ = [Token.closeObject].foldlM Machine.step?
              ⟨frames, .afterMember (members.reverse ++ [member])⟩ :=
            foldlM_append_of_eq_some (foldlM_step?_members hrest frames [member]) _
      _ = some (Machine.plug (.object (member :: members)) frames) := by
            simp [Machine.step?]

theorem Builds.scalar (v : Scalar) : Builds [scalarToken v] (scalarDraft v) := by
  intro frames
  cases v <;> rfl

mutual

/-- The tokens of a document build its draft. -/
theorem builds_tokens : ∀ j : Json, Builds j.tokens j.draft
  | .scalar v => by
    rw [tokens, draft]
    exact Builds.scalar v
  | .array items => by
    rw [tokens, draft]
    exact Builds.array (forall₂_builds_items items)
  | .object members => by
    rw [tokens, draft]
    exact Builds.object (forall₂_builds_members members)

theorem forall₂_builds_items : ∀ items : List Json,
    List.Forall₂ Builds (itemTokens items) (itemDrafts items)
  | [] => .nil
  | item :: items => .cons (builds_tokens item) (forall₂_builds_items items)

theorem forall₂_builds_members : ∀ members : List (String × Json),
    List.Forall₂ BuildsMember (memberTokens members) (memberDrafts members)
  | [] => .nil
  | (_, value) :: members =>
    .cons ⟨value.tokens, rfl, builds_tokens value⟩ (forall₂_builds_members members)

end

end Json

/-! ## Reading the draft -/

namespace DraftString

/-- The code of a control character is read as this character. -/
theorem read?_unit_cons {u : Nat} (hu : u < 0x20) (rest : DraftString) :
    read? (.unit u :: rest) = (read? rest).map (Char.ofNat u :: ·) := by
  -- A control character is no half of a pair, so it does not depend on what follows.
  have hhigh : isHighSurrogate u = false := by
    simp [isHighSurrogate]
    omega
  have hlow : isLowSurrogate u = false := by
    simp [isLowSurrogate]
    omega
  cases rest with
  | nil => simp [read?, hhigh, hlow]
  | cons unit rest =>
    cases unit with
    | char c => simp [read?, hhigh, hlow]
    | unit v => simp [read?, hhigh, hlow]

/-- Only control characters are written as codes. -/
theorem unitOf_cases (c : Char) :
    Json.unitOf c = .char c ∨ Json.unitOf c = .unit c.toNat ∧ c.toNat < 0x20 := by
  unfold Json.unitOf
  split
  · exact Or.inl rfl
  · split
    · next hcontrol => exact Or.inr ⟨rfl, hcontrol⟩
    · exact Or.inl rfl

/-- A string is read back from the units that it was written as. -/
theorem read?_map_unitOf (cs : List Char) : read? (cs.map Json.unitOf) = some cs := by
  induction cs with
  | nil => rfl
  | cons c cs ih =>
    rw [List.map_cons]
    rcases unitOf_cases c with hunit | ⟨hunit, hcontrol⟩
    · rw [hunit, read?, ih]
      rfl
    · rw [hunit, read?_unit_cons hcontrol, ih]
      simp

theorem text?_unitsOf (s : String) : text? (Json.unitsOf s) = some s := by
  simp [text?, Json.unitsOf, read?_map_unitOf]

end DraftString

namespace Draft

open Json

/-- A printed document is parsed as its draft. -/
theorem ofText?_printed (j : Json) : ofText? j.print = some j.draft := by
  have htokens := Json.tokens?_chars j
  have hbuilds := Json.builds_tokens j []
  -- The text is cut into tokens, and the machine builds the draft from them.
  unfold ofText? Json.print
  rw [String.toList_ofList, htokens, Option.bind_some, ofTokens?, hbuilds]
  rfl

/-- The draft of a scalar is read as what is stored of it. -/
theorem read?_scalarDraft (budget : Nat) (v : Scalar) :
    read? budget (scalarDraft v) = some (.scalar v.stored) := by
  cases v with
  | null => simp [scalarDraft, read?, Scalar.stored]
  | boolean b => simp [scalarDraft, read?, Scalar.stored]
  | integer n =>
    have hn := (numeralOf_integerChars n).scalar?_eq
    simp [scalarDraft, read?, Scalar.stored, hn]
  | real x =>
    -- Infinities and what is no number have become null in the draft already.
    by_cases hx : x.isFinite = true
    · have hread := (numeralOf_realChars hx).scalar?_eq
      simp [scalarDraft, read?, Scalar.stored, hx, hread]
    · simp [scalarDraft, read?, Scalar.stored, hx]
  | text s => simp [scalarDraft, read?, Scalar.stored, DraftString.text?_unitsOf]

/-- If all items are read as what is stored of them, the array is. -/
theorem readItems?_itemDrafts {budget : Nat} {items : List Json}
    (h : ∀ item ∈ items, read? budget item.draft = some item.stored) :
    readItems? budget (itemDrafts items) = some (storedItems items) := by
  induction items with
  | nil => simp [itemDrafts, storedItems, readItems?]
  | cons item items ih =>
    have hitem := h item List.mem_cons_self
    have hrest := ih fun x hx => h x (List.mem_cons_of_mem _ hx)
    simp [itemDrafts, storedItems, readItems?, hitem, hrest]

/-- If all members are read as what is stored of them, the object is. -/
theorem readMembers?_memberDrafts {budget : Nat} {members : List (String × Json)}
    (h : ∀ member ∈ members, read? budget member.2.draft = some member.2.stored) :
    readMembers? budget (memberDrafts members) = some (storedMembers members) := by
  induction members with
  | nil => simp [memberDrafts, storedMembers, readMembers?]
  | cons member members ih =>
    rcases member with ⟨key, value⟩
    have hvalue := h (key, value) List.mem_cons_self
    have hrest := ih fun x hx => h x (List.mem_cons_of_mem _ hx)
    simp [memberDrafts, storedMembers, readMembers?, DraftString.text?_unitsOf, hvalue, hrest]

/-- A document that is not nested too deep is read as what is stored of it. -/
theorem read?_draft {budget : Nat} {j : Json} (h : FitsIn budget j) :
    read? budget j.draft = some j.stored := by
  induction h with
  | scalar v =>
    rw [draft, stored]
    exact read?_scalarDraft _ v
  | array _ ih =>
    have hitems := readItems?_itemDrafts ih
    simp [draft, stored, read?, hitems]
  | object _ ih =>
    have hmembers := readMembers?_memberDrafts ih
    simp [draft, stored, read?, hmembers]

end Draft

/-! ## Documents that were read -/

/-- What a numeral stands for is finite. -/
theorem Numeral.isStorable_of_scalar? {n : Numeral} {v : Scalar} (h : n.scalar? = some v) :
    v.IsStorable := by
  unfold Numeral.scalar? at h
  extract_lets magnitude whole isWord at h
  split at h
  · cases h
    trivial
  · split at h
    · next hfinite =>
      cases h
      exact hfinite
    · cases h

namespace Draft

mutual

/-- Nothing is lost of a document that was read. -/
theorem stored_of_read? : ∀ (budget : Nat) (d : Draft) {j : Json},
    read? budget d = some j → j.stored = j
  | budget, .null, j, h => by
    simp only [read?, Option.some.injEq] at h
    subst h
    rfl
  | budget, .boolean b, j, h => by
    simp only [read?, Option.some.injEq] at h
    subst h
    rfl
  | budget, .number n, j, h => by
    simp only [read?] at h
    rcases Option.map_eq_some_iff.1 h with ⟨v, hv, rfl⟩
    have hstored := Scalar.stored_eq_self_iff.2 (Numeral.isStorable_of_scalar? hv)
    rw [Json.stored, hstored]
  | budget, .string s, j, h => by
    simp only [read?] at h
    rcases Option.map_eq_some_iff.1 h with ⟨text, _, rfl⟩
    rfl
  | 0, .array items, j, h => by
    simp [read?] at h
  | budget + 1, .array items, j, h => by
    simp only [read?] at h
    rcases Option.map_eq_some_iff.1 h with ⟨read, hread, rfl⟩
    rw [Json.stored, stored_of_readItems? budget items hread]
  | 0, .object members, j, h => by
    simp [read?] at h
  | budget + 1, .object members, j, h => by
    simp only [read?] at h
    rcases Option.map_eq_some_iff.1 h with ⟨read, hread, rfl⟩
    rw [Json.stored, stored_of_readMembers? budget members hread]

/-- Items that were read are stored as they are. -/
theorem stored_of_readItems? : ∀ (budget : Nat) (items : List Draft) {read : List Json},
    readItems? budget items = some read → Json.storedItems read = read
  | budget, [], read, h => by
    simp only [readItems?, Option.some.injEq] at h
    subst h
    rfl
  | budget, item :: items, read, h => by
    simp only [readItems?, Option.bind_eq_bind, Option.bind_eq_some_iff] at h
    rcases h with ⟨first, hfirst, rest, hrest, hread⟩
    cases hread
    rw [Json.storedItems, stored_of_read? budget item hfirst,
      stored_of_readItems? budget items hrest]

theorem stored_of_readMembers? : ∀ (budget : Nat) (members : List (DraftString × Draft))
    {read : List (String × Json)},
    readMembers? budget members = some read → Json.storedMembers read = read
  | budget, [], read, h => by
    simp only [readMembers?, Option.some.injEq] at h
    subst h
    rfl
  | budget, (key, value) :: members, read, h => by
    simp only [readMembers?, Option.bind_eq_bind, Option.bind_eq_some_iff] at h
    rcases h with ⟨name, _, first, hfirst, rest, hrest, hread⟩
    cases hread
    rw [Json.storedMembers, stored_of_read? budget value hfirst,
      stored_of_readMembers? budget members hrest]

end

end Draft

end TableDdl
