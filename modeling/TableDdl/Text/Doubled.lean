/-!
# Doubled characters

Inside a quoted text the closing quote is written twice.  `double` does this for a given character
and leaves all others as they are.
-/

namespace TableDdl
namespace Text

/-- The text with every occurrence of `quote` written twice. -/
def double (quote : Char) (cs : List Char) : List Char :=
  cs.flatMap fun c => if c = quote then [c, c] else [c]

@[simp] theorem double_nil (quote : Char) : double quote [] = [] := rfl

@[simp] theorem double_cons (quote c : Char) (cs : List Char) :
    double quote (c :: cs) = (if c = quote then [c, c] else [c]) ++ double quote cs := by
  simp [double]

@[simp] theorem double_append (quote : Char) (cs ds : List Char) :
    double quote (cs ++ ds) = double quote cs ++ double quote ds := by
  simp [double]

end Text
end TableDdl
