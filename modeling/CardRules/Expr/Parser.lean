import CardRules.Expr.Tree
import CardRules.Value.Writing

/-!
# Parsing

From tokens to trees, loosest operators first:

    disjunction     conjunction ('or' conjunction)*
    conjunction     negation ('and' negation)*
    negation        'not' negation | equality
    equality        relation (('==' | '!=') relation)*
    relation        sum (('<' | '<=' | '>' | '>=') sum)*
    sum             product (('+' | '-') product)*
    product         signed (('*' | '/' | '%') signed)*
    signed          ('!' | '-' | '+') signed | suffixed
    suffixed        primary ('.' name | '[' disjunction ']' | '(' arguments ')')*
    primary         number | text | constant | name | '(' disjunction ')'

Binary operators group to the left, and a call must follow a name. Every stacked operator and every
bracket takes one or more steps of a depth budget; a text that uses it up is nested too deeply.
-/

namespace CardRules.Expr

/-! ## Failures -/

/-- Why a text is no expression. -/
inductive SyntaxError where
  | unexpectedCharacter (c : Char) (pos : Nat)
  | unexpected (l : Lexeme) (pos : Nat)
  | expected (s : Symbol) (pos : Nat)
  | expectedFieldName (pos : Nat)
  | callOfNoName
  | unexpectedEnd
  | nestedTooDeeply
  deriving DecidableEq, Repr

/-- What a lexeme says, as messages write it. -/
def Lexeme.written : Lexeme → String
  | .number n => n.writeIn Number.messageLayout
  | .text s => Text.quoted s
  | .name s => Text.quoted s
  | .symbol s => Text.quoted s.text
  | .constant (some b) => (Value.bool b).written
  | .constant none => Value.null.written
  | .finish => Value.null.written

/-- The words for an expression that nests too deeply, in its text or in its evaluation. -/
def tooDeepText : String := "expression is nested too deeply"

def SyntaxError.message : SyntaxError → String
  | .unexpectedCharacter c pos =>
    s!"unexpected character {Text.quoted (String.singleton c)} at position {pos}"
  | .unexpected l pos => s!"unexpected {l.written} at position {pos}"
  | .expected s pos => s!"expected {Text.quoted s.text} at position {pos}"
  | .expectedFieldName pos => s!"expected a field name at position {pos}"
  | .callOfNoName => "only scope functions can be called"
  | .unexpectedEnd => "unexpected end of expression"
  | .nestedTooDeeply => tooDeepText

/-! ## Parsers -/

/-- A parser of expressions: the tree at the start of a list of tokens, and the tokens behind it. -/
abbrev Parser := List Token → Except SyntaxError (Expr × List Token)

/-- The place of the next token. -/
def posOf : List Token → Nat
  | [] => 0
  | t :: _ => t.pos

/-- The tokens behind a symbol, which must come next. -/
def expect (s : Symbol) (ts : List Token) : Except SyntaxError (List Token) :=
  match ts with
  | ⟨.symbol s', pos⟩ :: rest => if s' = s then .ok rest else .error (.expected s pos)
  | ts => .error (.expected s (posOf ts))

/-! ### Operators of one level -/

/-- How the operators of one level join two trees. -/
abbrev Joiner := Symbol → Option (Expr → Expr → Expr)

/-- Further operands of one level, `left` being the tree so far; at most `n` of them. -/
def chainFrom (join : Joiner) (next : Parser) : Nat → Expr → Parser
  | n + 1, left, ⟨.symbol s, pos⟩ :: ts =>
    match join s with
    | none => .ok (left, ⟨.symbol s, pos⟩ :: ts)
    | some f => do
      let (right, ts) ← next ts
      chainFrom join next n (f left right) ts
  | _, left, ts => .ok (left, ts)

/-- Operands of one level with its operators between them, grouped to the left; at most `n` of them
follow the first. -/
def chain (n : Nat) (join : Joiner) (next : Parser) : Parser := fun ts => do
  let (left, ts) ← next ts
  chainFrom join next n left ts

def joinOr : Joiner
  | .or => some (.logical .or)
  | _ => none

def joinAnd : Joiner
  | .and => some (.logical .and)
  | _ => none

def joinEquality : Joiner
  | .eq => some (.binary .eq)
  | .ne => some (.binary .ne)
  | _ => none

def joinRelation : Joiner
  | .lt => some (.binary (.compare .lt))
  | .le => some (.binary (.compare .le))
  | .gt => some (.binary (.compare .gt))
  | .ge => some (.binary (.compare .ge))
  | _ => none

def joinSum : Joiner
  | .plus => some (.binary .add)
  | .minus => some (.binary .sub)
  | _ => none

def joinProduct : Joiner
  | .times => some (.binary .mul)
  | .over => some (.binary .div)
  | .modulo => some (.binary .mod)
  | _ => none

/-- The operator that a symbol in front of an operand stands for. -/
def signOf : Symbol → Option UnaryOp
  | .bang => some .bang
  | .minus => some .minus
  | .plus => some .plus
  | _ => none

/-! ### Brackets

`inner` parses what stands between brackets. -/

/-- A literal, a name or an expression in parentheses. -/
def primary (inner : Parser) : Parser
  | ⟨.number n, _⟩ :: ts => .ok (.literal (.number n), ts)
  | ⟨.text s, _⟩ :: ts => .ok (.literal (.text s), ts)
  | ⟨.constant (some b), _⟩ :: ts => .ok (.literal (.bool b), ts)
  | ⟨.constant none, _⟩ :: ts => .ok (.literal .null, ts)
  | ⟨.name n, _⟩ :: ts => .ok (.name n, ts)
  | ⟨.symbol .openParen, _⟩ :: ts => do
    let (e, ts) ← inner ts
    let ts ← expect .closeParen ts
    return (e, ts)
  | ⟨.symbol s, pos⟩ :: _ => .error (.unexpected (.symbol s) pos)
  | ⟨.finish, _⟩ :: _ | [] => .error .unexpectedEnd

/-- Further arguments of a call up to its closing parenthesis; at most `n` of them. -/
def argumentsFrom (inner : Parser) : Nat → List Token → Except SyntaxError (List Expr × List Token)
  | n + 1, ⟨.symbol .comma, _⟩ :: ts => do
    let (e, ts) ← inner ts
    let (es, ts) ← argumentsFrom inner n ts
    return (e :: es, ts)
  | _, ts => do
    let ts ← expect .closeParen ts
    return ([], ts)

/-- The arguments of a call, the opening parenthesis being read; at most `n` follow the first. -/
def arguments (n : Nat) (inner : Parser) : List Token → Except SyntaxError (List Expr × List Token)
  | ⟨.symbol .closeParen, _⟩ :: ts => .ok ([], ts)
  | ts => do
    let (e, ts) ← inner ts
    let (es, ts) ← argumentsFrom inner n ts
    return (e :: es, ts)

/-- Further suffixes, `e` being the tree so far; at most `n` of them. -/
def suffixesFrom (inner : Parser) : Nat → Expr → Parser
  | n + 1, e, ⟨.symbol .dot, _⟩ :: ts =>
    match ts with
    | ⟨.name f, _⟩ :: ts => suffixesFrom inner n (.member e f) ts
    | ts => .error (.expectedFieldName (posOf ts))
  | n + 1, e, ⟨.symbol .openBracket, _⟩ :: ts => do
    let (i, ts) ← inner ts
    let ts ← expect .closeBracket ts
    suffixesFrom inner n (.index e i) ts
  | n + 1, e, ⟨.symbol .openParen, _⟩ :: ts =>
    match e with
    | .name f => do
      let (es, ts) ← arguments n inner ts
      suffixesFrom inner n (.call f es) ts
    | _ => .error .callOfNoName
  | _, e, ts => .ok (e, ts)

/-- A primary expression with its suffixes, at most `n` of them. -/
def suffixed (n : Nat) (inner : Parser) : Parser := fun ts => do
  let (e, ts) ← primary inner ts
  suffixesFrom inner n e ts

/-! ### The levels

`n` bounds the operators, suffixes and arguments that follow one another on a level; the number of
tokens is always enough. -/

mutual

/-- An expression, within a depth budget. -/
def disjunction (n : Nat) : Nat → Parser
  | 0 => fun _ => .error .nestedTooDeeply
  | d + 1 => chain n joinOr (chain n joinAnd (negation n d))

/-- An operand of a logical operator. -/
def negation (n : Nat) : Nat → Parser
  | 0 => fun _ => .error .nestedTooDeeply
  | d + 1 => fun ts =>
    match ts with
    | ⟨.symbol .not, _⟩ :: ts => do
      let (e, ts) ← negation n d ts
      return (.unary .not e, ts)
    | ts =>
      chain n joinEquality
        (chain n joinRelation (chain n joinSum (chain n joinProduct (signed n d)))) ts

/-- An operand of a product. -/
def signed (n : Nat) : Nat → Parser
  | 0 => fun _ => .error .nestedTooDeeply
  | d + 1 => fun ts =>
    match ts with
    | ⟨.symbol s, pos⟩ :: ts =>
      match signOf s with
      | some op => do
        let (e, ts) ← signed n d ts
        return (.unary op e, ts)
      | none => suffixed n (disjunction n d) (⟨.symbol s, pos⟩ :: ts)
    | ts => suffixed n (disjunction n d) ts

end

/-! ## Texts -/

/-- The depth budget of a text: a stacked operator takes one step, a bracket three. -/
def parseDepth : Nat := 1500

/-- The tree of a list of tokens within a depth budget. -/
def ofTokensWithin (depth : Nat) (ts : List Token) : Except SyntaxError Expr := do
  let (e, ts) ← disjunction ts.length depth ts
  match ts with
  | ⟨.finish, _⟩ :: _ | [] => return e
  | ⟨l, pos⟩ :: _ => throw (.unexpected l pos)

/-- The tree of a list of tokens. -/
def ofTokens (ts : List Token) : Except SyntaxError Expr := ofTokensWithin parseDepth ts

/-- The tree of a text. -/
def parse (s : String) : Except SyntaxError Expr :=
  match tokenize s with
  | .error e => .error (.unexpectedCharacter e.char e.pos)
  | .ok ts => ofTokens ts

end CardRules.Expr
