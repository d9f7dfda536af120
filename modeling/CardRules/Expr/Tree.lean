import CardRules.Expr.Token
import CardRules.Value.Basic

/-!
# Expression trees

What a condition says, as a tree. Logical operators stand apart from the other binary ones because
they may leave their right side unevaluated.
-/

namespace CardRules

namespace Expr

inductive UnaryOp where
  /-- Negation that binds tighter than arithmetic, written with an exclamation mark. -/
  | bang
  /-- Negation that binds looser than comparisons, written as a word. -/
  | not
  | minus
  | plus
  deriving DecidableEq, Repr

inductive BinaryOp where
  | eq | ne
  | compare (op : Comparison)
  | add | sub | mul | div | mod
  deriving DecidableEq, Repr

inductive LogicalOp where
  | and | or
  deriving DecidableEq, Repr

/-- The spelling of an operator. -/
def UnaryOp.text : UnaryOp → String
  | .bang => "!"
  | .not => "not"
  | .minus => "-"
  | .plus => "+"

/-- The spelling of an operator. -/
def BinaryOp.text : BinaryOp → String
  | .eq => "=="
  | .ne => "!="
  | .compare .lt => "<"
  | .compare .le => "<="
  | .compare .gt => ">"
  | .compare .ge => ">="
  | .add => "+"
  | .sub => "-"
  | .mul => "*"
  | .div => "/"
  | .mod => "%"

/-- The spelling of an operator. -/
def LogicalOp.text : LogicalOp → String
  | .and => "and"
  | .or => "or"

end Expr

/-- The tree of an expression. -/
inductive Expr where
  | literal (v : Value)
  | name (n : String)
  | member (target : Expr) (field : String)
  | index (target place : Expr)
  | call (function : String) (args : List Expr)
  | unary (op : Expr.UnaryOp) (operand : Expr)
  | binary (op : Expr.BinaryOp) (left right : Expr)
  | logical (op : Expr.LogicalOp) (left right : Expr)
  deriving Repr, Inhabited

end CardRules
