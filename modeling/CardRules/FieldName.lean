import CardRules.Text.Case

/-!
# Spellings of field names

Rules write field names in camel case (`hasDrawn`), records declare them with underscores
(`has_drawn`). `underscored` takes the first spelling to the second and `camel` the second to the
first.
-/

namespace CardRules.FieldName

/-- Whether a hump starts at the character: a capital letter of ASCII. -/
def isHump (c : Char) : Bool := c.isUpper

/-- An underscore set before every hump but one at the start. -/
def marked : List Char → List Char
  | [] => []
  | c :: cs => c :: cs.flatMap fun d => if isHump d then ['_', d] else [d]

/-- The name with underscores, in small letters. -/
def underscored (s : String) : String := String.ofList (Text.small (marked s.toList))

/-- The parts between underscores; there is always one. -/
def partsOf : List Char → List (List Char)
  | [] => [[]]
  | c :: cs =>
    if c = '_' then [] :: partsOf cs
    else match partsOf cs with
      | [] => [[c]]
      | p :: ps => (c :: p) :: ps

/-- The name in camel case: the parts after the first begin with a title letter, all their other
letters are small. -/
def camel (s : String) : String :=
  match partsOf s.toList with
  | [] => ""
  | p :: ps => String.ofList (p ++ ps.flatMap Text.title)

end CardRules.FieldName
