import CardRules.Expr.Operand
import CardRules.Expr.Parser
import CardRules.Score

/-!
# Evaluation

The value of an expression in a scope. A scope holds the variables an expression may read and the
functions it may call; nothing else is within its reach. Sides of a logical operator that decide
nothing are not evaluated.
-/

namespace CardRules.Expr

/-! ## Failures -/

/-- Why an expression has no value in a scope. -/
inductive EvalError where
  | unknownName (n : String)
  | functionNotCalled (n : String)
  | unknownFunction (n : String)
  | functionFailed (n : String)
  /-- A sign in front of something that is no number, as messages write it. -/
  | signNeedsNumber (op : UnaryOp) (operand : String)
  | operatorNeedsNumbers (op : BinaryOp) (left right : String)
  | divisionByZero (op : BinaryOp)
  | nestedTooDeeply
  deriving DecidableEq, Repr

def EvalError.message : EvalError → String
  | .unknownName n => s!"unknown name '{n}'"
  | .functionNotCalled n => s!"function '{n}' must be called"
  | .unknownFunction n => s!"unknown function '{n}'"
  | .functionFailed n => s!"{n}() failed"
  | .signNeedsNumber op x => s!"unary {op.text} needs a number, got {x}"
  | .operatorNeedsNumbers op x y => s!"operator {op.text} needs numbers, got {x} and {y}"
  | .divisionByZero op => s!"division by zero in {op.text}"
  | .nestedTooDeeply => tooDeepText

/-- How an evaluation fails: for a reason of its own, or by a fault of an operation. -/
inductive Interrupt where
  | reason (e : EvalError)
  | fault (f : Fault)
  deriving DecidableEq, Repr

/-! ## Scopes -/

/-- A function that expressions may call. -/
inductive Function where
  /-- The score of a hand by a table of rank values. -/
  | handScore (values : Value)
  deriving DecidableEq, Repr

/-- The value of a call. A void argument counts as an empty hand. -/
def Function.call : Function → List Operand → Except Fault Operand
  | .handScore values, [.data hand] =>
    (handScore? values (if hand.isVoid then .list [] else hand)).map fun n => .data (.number n)
  | .handScore values, [.players ps] =>
    if ps.isEmpty then .ok (.count 0)
    else if values.entries?.isSome then .error .wrongKind
    else .error .missingMember
  | .handScore _, _ => .error .wrongKind

structure Scope where
  names : Table Operand
  functions : Table Function
  deriving Repr

/-- A scope with variables and no functions. -/
def Scope.ofValues (es : Table Value) : Scope := ⟨es.map fun (n, v) => (n, .data v), []⟩

/-! ## Operators -/

/-- The number an operand is; truth values are no numbers here. -/
def Operand.number? : Operand → Option Number
  | .data (.number n) => some n
  | _ => none

/-- The truth of an operand. -/
def truthOf (x : Operand) : Except Interrupt Bool := x.truth?.mapError .fault

/-- The text of an operand. -/
def writtenOf (x : Operand) : Except Interrupt String := x.written?.mapError .fault

/-- A sign or negation applied to an operand. -/
def applyUnary (op : UnaryOp) (x : Operand) : Except Interrupt Operand :=
  match op with
  | .bang | .not => do return .bool !(← truthOf x)
  | .minus =>
    match x.number? with
    | some n => .ok (.data (.number n.neg))
    | none => do throw (.reason (.signNeedsNumber op (← writtenOf x)))
  | .plus =>
    match x.number? with
    | some n => .ok (.data (.number n))
    | none => do throw (.reason (.signNeedsNumber op (← writtenOf x)))

/-- A result of arithmetic, unless it is too large. -/
def arithmetic : Option Number → Except Interrupt Operand
  | some n => .ok (.data (.number n))
  | none => .error (.fault .overflow)

/-- An arithmetic operator applied to two numbers. -/
def applyNumbers (op : BinaryOp) (m n : Number) : Except Interrupt Operand :=
  match op with
  | .add => arithmetic (m.add n)
  | .sub => arithmetic (m.sub n)
  | .mul => arithmetic (m.mul n)
  | .div => if n.isZero then .error (.reason (.divisionByZero op)) else arithmetic (m.div n)
  | .mod => if n.isZero then .error (.reason (.divisionByZero op)) else arithmetic (m.mod n)
  | .eq => .ok (.bool (m.eqv n))
  | .ne => .ok (.bool !m.eqv n)
  | .compare c => .ok (.bool (m.holds c n))

/-- An operator applied to two operands. Equality and order are defined of all operands, addition of
two texts, and arithmetic of numbers. -/
def applyBinary (op : BinaryOp) (x y : Operand) : Except Interrupt Operand :=
  match op with
  | .eq => .ok (.bool (x.equals y))
  | .ne => .ok (.bool !x.equals y)
  | .compare c => .ok (.bool (x.holds c y))
  | op =>
    match op, x, y with
    | .add, .data (.text s), .data (.text t) => .ok (.data (.text (s ++ t)))
    | op, x, y =>
      match x.number?, y.number? with
      | some m, some n => applyNumbers op m n
      | _, _ => do throw (.reason (.operatorNeedsNumbers op (← writtenOf x) (← writtenOf y)))

/-! ## Trees -/

/-- What a name stands for. -/
def lookUp (scope : Scope) (n : String) : Except Interrupt Operand :=
  match scope.names.get? n with
  | some x => .ok x
  | none =>
    if scope.functions.has n then .error (.reason (.functionNotCalled n))
    else .error (.reason (.unknownName n))

/-- The value of a call of a function on evaluated arguments; a function that has no meaning for its
arguments fails. -/
def applyFunction (n : String) (f : Function) (args : List Operand) : Except Interrupt Operand :=
  match f.call args with
  | .ok x => .ok x
  | .error .wrongKind | .error .unreadable => .error (.reason (.functionFailed n))
  | .error f => .error (.fault f)

/-- The value of a tree, within a depth budget. -/
def eval (scope : Scope) : Nat → Expr → Except Interrupt Operand
  | 0, _ => .error (.reason .nestedTooDeeply)
  | _ + 1, .literal v => .ok (.data v)
  | _ + 1, .name n => lookUp scope n
  | d + 1, .member target n => do return (← eval scope d target).member n
  | d + 1, .index target i => do
    let target ← eval scope d target
    let i ← eval scope d i
    (target.index i).mapError .fault
  | d + 1, .call n args =>
    match scope.functions.get? n with
    | none => .error (.reason (.unknownFunction n))
    | some f => do applyFunction n f (← args.mapM (eval scope d))
  | d + 1, .unary op x => do applyUnary op (← eval scope d x)
  | d + 1, .binary op x y => do
    let x ← eval scope d x
    let y ← eval scope d y
    applyBinary op x y
  | d + 1, .logical op x y => do
    let x ← eval scope d x
    if (← truthOf x) == (op == .and) then eval scope d y else return x

/-- The depth budget of an evaluation. -/
def evalDepth : Nat := 1000

end CardRules.Expr
