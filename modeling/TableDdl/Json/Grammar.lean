import TableDdl.Json.Token

/-!
# From tokens to a draft

`Draft.ofTokens?` builds the draft of a document from its tokens.  It is a machine with a stack: a
`Frame` is an array or an object that is still open, with the place where the value that is being
read will go, and a `Need` says what the next token may be.  The stack takes the place of recursion,
so the depth of a document is not limited here.
-/

namespace TableDdl
namespace Json

/-- An array or an object with a place left open for one value.  What was read before is kept with
the last first. -/
inductive Frame where
  | item (before : List Draft)
  /-- An object, and the key that the value belongs to. -/
  | member (before : List (DraftString × Draft)) (key : DraftString)

inductive Need where
  | value
  /-- The first item of an array, or its end. -/
  | firstItem
  /-- What follows an item. -/
  | afterItem (items : List Draft)
  /-- The first key of an object, or its end. -/
  | firstKey
  | key (members : List (DraftString × Draft))
  | colon (members : List (DraftString × Draft)) (key : DraftString)
  /-- What follows a member. -/
  | afterMember (members : List (DraftString × Draft))
  /-- Nothing: the document is complete. -/
  | nothing (root : Draft)

structure Machine where
  /-- The open arrays and objects, the innermost first. -/
  frames : List Frame
  /-- What the next token may be. -/
  need : Need

namespace Machine

def plug (d : Draft) : List Frame → Machine
  | [] => ⟨[], .nothing d⟩
  | .item before :: frames => ⟨frames, .afterItem (d :: before)⟩
  | .member before key :: frames => ⟨frames, .afterMember ((key, d) :: before)⟩

def begin? (frames : List Frame) : Token → Option Machine
  | .word d => some (plug d frames)
  | .string s => some (plug (.string s) frames)
  | .openArray => some ⟨frames, .firstItem⟩
  | .openObject => some ⟨frames, .firstKey⟩
  | _ => none

def step? (machine : Machine) (token : Token) : Option Machine :=
  match machine.need, token with
  | .value, t => begin? machine.frames t
  | .firstItem, .closeArray => some (plug (.array []) machine.frames)
  | .firstItem, t => begin? (.item [] :: machine.frames) t
  | .afterItem items, .comma => some ⟨.item items :: machine.frames, .value⟩
  | .afterItem items, .closeArray => some (plug (.array items.reverse) machine.frames)
  | .firstKey, .closeObject => some (plug (.object []) machine.frames)
  | .firstKey, .string s => some ⟨machine.frames, .colon [] s⟩
  | .key members, .string s => some ⟨machine.frames, .colon members s⟩
  | .colon members key, .colon => some ⟨.member members key :: machine.frames, .value⟩
  | .afterMember members, .comma => some ⟨machine.frames, .key members⟩
  | .afterMember members, .closeObject => some (plug (.object members.reverse) machine.frames)
  | _, _ => none

def root? (machine : Machine) : Option Draft :=
  match machine.need with
  | .nothing root => some root
  | _ => none

end Machine

end Json

namespace Draft

def ofTokens? (tokens : List Json.Token) : Option Draft :=
  (tokens.foldlM Json.Machine.step? ⟨[], .value⟩).bind Json.Machine.root?

def ofText? (text : String) : Option Draft :=
  (Json.tokens? text.toList).bind ofTokens?

end Draft

end TableDdl
