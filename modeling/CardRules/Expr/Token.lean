import CardRules.Text.Blank
import CardRules.Text.Digit
import CardRules.Text.Quoted
import CardRules.Number
import CardRules.Decimal.Reading

/-!
# Tokens

The words that conditions are written with. `tokenize` cuts a text into tokens: at each place that is
not blank it takes the longest token that starts there, and it fails at the first character where
none does. A token carries the position of its first character, and the list of tokens ends with
`finish` at the end of the text.
-/

namespace CardRules.Expr

open Decimal Text

/-! ## Symbols -/

/-- Operators and punctuation. Spellings of one operator are one symbol. -/
inductive Symbol where
  | or | and | not
  | eq | ne | lt | le | gt | ge
  | plus | minus | times | over | modulo
  | bang | dot | comma
  | openParen | closeParen | openBracket | closeBracket
  deriving DecidableEq, Repr

/-- The spelling that messages use for a symbol. -/
def Symbol.text : Symbol → String
  | .or => "or"
  | .and => "and"
  | .not => "not"
  | .eq => "=="
  | .ne => "!="
  | .lt => "<"
  | .le => "<="
  | .gt => ">"
  | .ge => ">="
  | .plus => "+"
  | .minus => "-"
  | .times => "*"
  | .over => "/"
  | .modulo => "%"
  | .bang => "!"
  | .dot => "."
  | .comma => ","
  | .openParen => "("
  | .closeParen => ")"
  | .openBracket => "["
  | .closeBracket => "]"

/-- The spellings of the symbols that are not words, each before its own beginnings. -/
def symbolSpellings : List (List Char × Symbol) :=
  [(['=', '=', '='], .eq), (['!', '=', '='], .ne), (['=', '='], .eq), (['!', '='], .ne),
   (['<', '='], .le), (['>', '='], .ge), (['&', '&'], .and), (['|', '|'], .or),
   (['<'], .lt), (['>'], .gt), (['!'], .bang), (['+'], .plus), (['-'], .minus), (['*'], .times),
   (['/'], .over), (['%'], .modulo), (['('], .openParen), ([')'], .closeParen), (['.'], .dot),
   ([','], .comma), (['['], .openBracket), ([']'], .closeBracket)]

/-! ## Lexemes -/

/-- What a token says, apart from its place. -/
inductive Lexeme where
  | number (n : Number)
  | text (s : String)
  | name (s : String)
  | symbol (s : Symbol)
  /-- A truth value, or null for none. -/
  | constant (b : Option Bool)
  | finish
  deriving DecidableEq, Repr

/-- A token and the position of its first character. -/
structure Token where
  lexeme : Lexeme
  pos : Nat
  deriving DecidableEq, Repr

/-- The words that stand for constants. -/
def constantWords : List (String × Option Bool) :=
  [("true", some true), ("false", some false), ("null", none), ("undefined", none),
   ("True", some true), ("False", some false), ("None", none)]

/-- The words that are operators. -/
def operatorWords : List (String × Symbol) := [("and", .and), ("or", .or), ("not", .not)]

/-- The lexeme that a word spells. -/
def wordLexeme (s : String) : Lexeme :=
  match constantWords.lookup s with
  | some c => .constant c
  | none => match operatorWords.lookup s with
    | some o => .symbol o
    | none => .name s

/-! ## The token at a place

Each scanner gives the lexeme at the start of a text and the characters that spell it. -/

/-- A character that a word may start with. -/
def startsWord (c : Char) : Bool := c.isAlpha || c = '_' || c = '$'

/-- A character that may follow in a word. -/
def continuesWord (c : Char) : Bool := startsWord c || c.isDigit

/-- Digits, and a fraction if the point is followed by a digit. -/
def number? (cs : List Char) : Option (Lexeme × List Char) :=
  let whole := cs.takeWhile isDecimalDigit
  if whole.isEmpty then none
  else match cs.dropWhile isDecimalDigit with
    | '.' :: rest =>
      let places := rest.takeWhile isDecimalDigit
      if places.isEmpty then some (.number (.int (digitsValue whole)), whole)
      else some (.number (.float (.ofDecimal false (digitsValue (whole ++ places))
        (-places.length))), whole ++ '.' :: places)
    | _ => some (.number (.int (digitsValue whole)), whole)

/-- The characters of a quoted text between its quotes, where a backslash belongs to the character
behind it, which may be any but a line break. None if the text does not end. -/
def quotedBody? (quote : Char) : List Char → Option (List Char)
  | [] => none
  | '\\' :: c :: cs => if c = '\n' then none else (quotedBody? quote cs).map ('\\' :: c :: ·)
  | c :: cs =>
    if c = quote then some [] else (quotedBody? quote cs).map (c :: ·)

/-- The character that a backslash and `c` stand for. -/
def unescapedChar (c : Char) : Char :=
  if c = 'n' then '\n' else if c = 't' then '\t' else if c = 'r' then '\r' else c

/-- The text that the characters between quotes stand for. -/
def unescape : List Char → List Char
  | '\\' :: c :: cs => unescapedChar c :: unescape cs
  | c :: cs => c :: unescape cs
  | [] => []

/-- A text in single or double quotes. -/
def text? : List Char → Option (Lexeme × List Char)
  | q :: cs =>
    if q = '"' || q = '\'' then
      (quotedBody? q cs).map fun body =>
        (.text (String.ofList (unescape body)), q :: body ++ [q])
    else none
  | [] => none

/-- A word: a constant, an operator or a name. -/
def word? : List Char → Option (Lexeme × List Char)
  | c :: cs =>
    if startsWord c then
      let word := c :: cs.takeWhile continuesWord
      some (wordLexeme (String.ofList word), word)
    else none
  | [] => none

/-- An operator or a punctuation mark. -/
def symbol? (cs : List Char) : Option (Lexeme × List Char) :=
  (symbolSpellings.find? fun s => s.1.isPrefixOf cs).map fun s => (.symbol s.2, s.1)

/-- The token at the start of a text and the characters that spell it. -/
def lexeme? (cs : List Char) : Option (Lexeme × List Char) :=
  (number? cs).or ((text? cs).or ((word? cs).or (symbol? cs)))

/-! ## Texts -/

/-- Why a text is no list of tokens: no token starts with the character at a position. -/
structure UnexpectedCharacter where
  char : Char
  pos : Nat
  deriving DecidableEq, Repr

/-- The tokens of the text from `pos` on, whose first `skip` characters belong to a token already
taken. -/
def tokensFrom (pos : Nat) : Nat → List Char → Except UnexpectedCharacter (List Token)
  | _, [] => .ok [⟨.finish, pos⟩]
  | skip + 1, _ :: cs => tokensFrom (pos + 1) skip cs
  | 0, c :: cs =>
    if isBlank c then tokensFrom (pos + 1) 0 cs
    else match lexeme? (c :: cs) with
      | none => .error ⟨c, pos⟩
      | some (lexeme, spelling) =>
        (tokensFrom (pos + 1) (spelling.length - 1) cs).map (⟨lexeme, pos⟩ :: ·)

/-- The tokens of a text. -/
def tokenize (s : String) : Except UnexpectedCharacter (List Token) := tokensFrom 0 0 s.toList

end CardRules.Expr
