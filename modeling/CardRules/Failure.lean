import CardRules.Expr.Eval

/-!
# Rule errors

What can go wrong by the rules, as causes. A rule error also names the action or ability that was
running and the operation that was being applied, once they are known; the first name given stays.
A *failure* is a rule error or a fault.
-/

namespace CardRules

/-- The two kinds of rule a document declares. -/
inductive RuleKind where
  | action | ability
  deriving DecidableEq, Repr

/-- The kind as the first word of a message. -/
def RuleKind.capitalized : RuleKind → String
  | .action => "Action"
  | .ability => "Ability"

/-- Why an expression failed: it is none, or it has no value. -/
inductive ExprError where
  | parsing (e : Expr.SyntaxError)
  | evaluation (e : Expr.EvalError)
  deriving DecidableEq, Repr

def ExprError.message : ExprError → String
  | .parsing e => e.message
  | .evaluation e => e.message

inductive Cause where
  | ruleNotFound (kind : RuleKind) (id : Value)
  | phaseNotAllowed (kind : RuleKind) (id : String) (phase : Value)
  | actionNotAllowed (id condition : String)
  | conditionNotSatisfied (id condition : String)
  | unsupportedOperation (op : Value)
  | unsupportedReference (ref : Value)
  | unsupportedTarget (ref : Value)
  | missingParameter (param : Option String)
  | invalidIndex (index : Value) (size : Nat)
  | invalidExpression (text : String) (reason : ExprError)
  | malformedEffect (details : String)
  | playerNotFound (id : Value)
  | invalidScore (id score : Value)
  deriving DecidableEq, Repr

namespace Cause

/-- The machine-readable code of a cause. -/
def code : Cause → String
  | .ruleNotFound _ _ => "NOT_FOUND"
  | .phaseNotAllowed _ _ _ => "PHASE_NOT_ALLOWED"
  | .actionNotAllowed _ _ => "ACTION_NOT_ALLOWED"
  | .conditionNotSatisfied _ _ => "CONDITION_NOT_SATISFIED"
  | .unsupportedOperation _ => "UNSUPPORTED_OPERATION"
  | .unsupportedReference _ => "UNSUPPORTED_REFERENCE"
  | .unsupportedTarget _ => "UNSUPPORTED_TARGET"
  | .missingParameter _ => "MISSING_PARAMETER"
  | .invalidIndex _ _ => "INVALID_INDEX"
  | .invalidExpression _ _ => "INVALID_EXPRESSION"
  | .malformedEffect _ => "MALFORMED_EFFECT"
  | .playerNotFound _ => "PLAYER_NOT_FOUND"
  | .invalidScore _ _ => "INVALID_SCORE"

/-- What went wrong, in words. -/
def message : Cause → String
  | .ruleNotFound kind id => s!"{kind.capitalized} not found: {id.shown}"
  | .phaseNotAllowed kind id phase =>
    s!"{kind.capitalized} '{id}' is not allowed in phase {phase.shown}"
  | .actionNotAllowed id condition =>
    s!"Action '{id}' is not allowed: condition failed: {condition}"
  | .conditionNotSatisfied id condition =>
    s!"Condition not satisfied for ability '{id}': {condition}"
  | .unsupportedOperation op => s!"Unsupported operation: {op.shown}"
  | .unsupportedReference ref => s!"Unsupported pile reference: {ref.shown}"
  | .unsupportedTarget ref => s!"Unsupported target: {ref.shown}"
  | .missingParameter (some param) => s!"Missing required parameter '{param}'"
  | .missingParameter none => s!"Missing required parameter '{Value.null.shown}'"
  | .invalidIndex index size => s!"Invalid hand index {index.written} for hand of {size} card(s)"
  | .invalidExpression text reason =>
    s!"Invalid expression {Text.quoted text}: {reason.message}"
  | .malformedEffect details => s!"Malformed effect: {details}"
  | .playerNotFound id => s!"Player not found: {id.shown}"
  | .invalidScore id score => s!"Player {id.shown} has a non-numeric score: {score.written}"

end Cause

structure RuleError where
  cause : Cause
  /-- The id of the rule; of a rule that was not found, whatever was given for it. -/
  ruleId : Option Value := none
  op : Option String := none
  deriving DecidableEq, Repr

namespace RuleError

/-- The error with the rule named, unless one is named already. -/
def inRule (id : String) (e : RuleError) : RuleError :=
  { e with ruleId := e.ruleId.or (some (.text id)) }

/-- The error with the operation named, unless one is named already. -/
def inOp (op : String) (e : RuleError) : RuleError :=
  { e with op := e.op.or (some op) }

/-- The full text: what went wrong, then the rule and the operation as far as they are known. -/
def message (e : RuleError) : String :=
  let named (label : String) : Option Value → List String
    | some v => if v.isVoid then [] else [label ++ "=" ++ v.shown]
    | none => []
  match named "rule" e.ruleId ++ named "op" (e.op.map .text) with
  | [] => e.cause.message
  | context =>
    let known := Value.joined ", " context
    s!"{e.cause.message} ({known})"

end RuleError

/-- How a call fails. -/
inductive Failure where
  | rule (e : RuleError)
  | fault (f : Fault)
  deriving DecidableEq, Repr

namespace Failure

/-- A rule error of which neither rule nor operation is known. -/
def of (c : Cause) : Failure := .rule { cause := c }

/-- A failure with its rule error changed. -/
def mapRule (f : RuleError → RuleError) : Failure → Failure
  | .rule e => .rule (f e)
  | .fault e => .fault e

end Failure

/-- A result in which a fault is a failure. -/
def orFault {α : Type} : Except Fault α → Except Failure α
  | .ok a => .ok a
  | .error f => .error (.fault f)

end CardRules
