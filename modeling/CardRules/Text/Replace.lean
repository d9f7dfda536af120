/-!
# Replacing a pattern

Every occurrence of a pattern, found from left to right and without overlap, gives way to another
text. The replacement itself is not searched again.
-/

namespace CardRules.Text

/-- `cs` with each occurrence of the non-empty pattern `first :: more` replaced by `new`; `skip`
characters of `cs` still belong to the occurrence found last. -/
def replaceFrom (first : Char) (more new : List Char) : Nat → List Char → List Char
  | _, [] => []
  | skip + 1, _ :: rest => replaceFrom first more new skip rest
  | 0, c :: rest =>
    if (first :: more).isPrefixOf (c :: rest) then new ++ replaceFrom first more new more.length rest
    else c :: replaceFrom first more new 0 rest

/-- The text with each occurrence of the pattern `first :: more` replaced by `new`. -/
def replaceAll (first : Char) (more new cs : List Char) : List Char :=
  replaceFrom first more new 0 cs

end CardRules.Text
