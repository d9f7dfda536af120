import CardRules.Text.Ranges

/-!
# Blank characters

Two classes of blanks. Expressions skip `isBlank`, which counts the four information separators U+001C
to U+001F as blank; numbers in texts may have characters around them with the narrower White_Space
property (`isWhiteSpace`), which does not.
-/

namespace CardRules.Text

/-- The characters with the White_Space property. -/
def whiteSpace : Ranges :=
  [(0x9, 0xd), (0x20, 0x20), (0x85, 0x85), (0xa0, 0xa0), (0x1680, 0x1680), (0x2000, 0x200a),
   (0x2028, 0x2029), (0x202f, 0x202f), (0x205f, 0x205f), (0x3000, 0x3000)]

/-- Whether the character has the White_Space property. -/
def isWhiteSpace (c : Char) : Bool := whiteSpace.holds c.toNat

/-- Whether the character is blank: white space or an information separator. -/
def isBlank (c : Char) : Bool := isWhiteSpace c || (0x1c ≤ c.toNat && c.toNat ≤ 0x1f)

/-- The text without the characters of a class at either end. -/
def trimBy (p : Char → Bool) (cs : List Char) : List Char :=
  ((cs.dropWhile p).reverse.dropWhile p).reverse

/-- A text of blanks alone, the empty text included. -/
def isBlankText (s : String) : Bool := s.toList.all isBlank

end CardRules.Text
