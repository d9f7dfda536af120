import CardRules.Text.CaseTable

/-!
# Letter case

`small` maps a text to small letters and `title` makes its first letter a title letter and the
others small. ASCII is mapped by its own rule, all else by the tables. A capital sigma becomes the
final small sigma where a cased letter stands before it and none after it, characters that are
ignored for case being passed over on both sides.
-/

namespace CardRules.Text

/-- Whether looking outwards from a sigma meets a cased letter first. -/
def meetsCased (cs : List Char) : Bool :=
  match cs.dropWhile fun c => caseIgnorable.holds c.toNat with
  | [] => false
  | c :: _ => casedLetters.holds c.toNat

/-- A character that is no sigma, in small letters. -/
def smallChar (c : Char) : List Char :=
  if c.toNat < 0x80 then [c.toLower]
  else if c.toNat = 0x130 then ['i', '\u0307']
  else [((LetterRun.find? smallRuns c.toNat).map Char.ofNat).getD c]

/-- The small letters of `rest`, where `before` lists the characters ahead of it, nearest first. -/
def smallAfter (before : List Char) : List Char → List Char
  | [] => []
  | c :: rest =>
    (if c = 'Σ' then [if meetsCased before && !meetsCased rest then 'ς' else 'σ'] else smallChar c)
      ++ smallAfter (c :: before) rest

/-- The text in small letters. -/
def small (cs : List Char) : List Char := smallAfter [] cs

/-- A first letter as a title letter. -/
def titleChar (c : Char) : List Char :=
  if c.toNat < 0x80 then [c.toUpper]
  else match longTitles.lookup c.toNat with
    | some ns => ns.map Char.ofNat
    | none => [((LetterRun.find? titleRuns c.toNat).map Char.ofNat).getD c]

/-- The text with its first letter as a title letter and the others small. -/
def title : List Char → List Char
  | [] => []
  | c :: rest => titleChar c ++ smallAfter [c] rest

end CardRules.Text
