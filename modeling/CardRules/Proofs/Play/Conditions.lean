import CardRules.Proofs.Expr.Conjunction
import CardRules.Proofs.Play.Gates

/-!
# Lists of conditions

A list of conditions gates just what the conditions gate that are written as one: both gates are
open, both are closed or both fail in the same way (`conjoined_gate`). For conditions that parse, a
gate is open if all their trees are true in the scope of the game, evaluated in turn (`outcome_eq`).
-/

namespace CardRules

open CardRules.Expr (Interrupt Scope truthAt allTrue conjoined)

/-! ## Kinds of failures -/

/-- The kind of a failure: the code of a rule error, or the fault. -/
inductive Failure.Kind where
  | rule (code : String)
  | fault (f : Fault)
  deriving DecidableEq, Repr

def Failure.kind : Failure → Failure.Kind
  | .rule e => .rule e.cause.code
  | .fault f => .fault f

/-- How a condition fails whose evaluation is interrupted. -/
def Expr.Interrupt.failure (text : String) : Interrupt → Failure
  | .reason r => .of (.invalidExpression text (.evaluation r))
  | .fault f => .fault f

/-- The kind of failure that an interruption is, in whichever condition. -/
def Expr.Interrupt.kind : Interrupt → Failure.Kind
  | .reason _ => .rule "INVALID_EXPRESSION"
  | .fault f => .fault f

@[simp] theorem Expr.Interrupt.kind_failure (text : String) (i : Interrupt) :
    (i.failure text).kind = i.kind := by cases i <;> rfl

/-! ## Conditions that parse -/

variable {s : String} {t : Expr}

theorem evaluate_of_parse (h : Expr.parse s = .ok t) (scope : Scope) :
    evaluate s scope = (Expr.eval scope Expr.evalDepth t).mapError (Interrupt.failure s) := by
  rw [evaluate, h]
  dsimp only
  cases Expr.eval scope Expr.evalDepth t with
  | error i => cases i <;> rfl
  | ok x => rfl

theorem truthIn_of_parse (h : Expr.parse s = .ok t) (scope : Scope) :
    truthIn s scope = (truthAt scope Expr.evalDepth t).mapError (Interrupt.failure s) := by
  rw [truthIn, evaluate_of_parse h, truthAt]
  cases Expr.eval scope Expr.evalDepth t with
  | error i => rfl
  | ok x =>
    simp only [bind, Except.bind, Except.mapError, Expr.truthOf]
    cases x.truth? <;> rfl

namespace Rulebook

variable {b : Rulebook} {g : Game} {c : Circumstances} {conditions : List String}
  {trees : List Expr}

theorem holds?_of_parse (h : Expr.parse s = .ok t) :
    b.holds? g c (.text s) = (orFault (scopeOf? g b.document.metadata.normal c)).bind fun scope =>
      (truthAt scope Expr.evalDepth t).mapError (Interrupt.failure s) := by
  have htext : conditionText? (.text s) = some s := by
    simp [conditionText?, Value.shown, Expr.isBlankText_of_parse h]
  rw [holds?, htext]
  simp only [truthIn_of_parse h]
  rfl

/-- Whether the gate that the conditions make is open, or the kind of its failure. -/
def outcome (b : Rulebook) (g : Game) (c : Circumstances) (conditions : List String) :
    Except Failure.Kind Bool :=
  ((b.failing? g c conditions).map Option.isNone).mapError Failure.kind

/-- The first condition decides if it is false or fails, and the others decide if it is true. -/
theorem outcome_cons (s : String) (rest : List String) :
    b.outcome g c (s :: rest) = do
      if ← (b.holds? g c (.text s)).mapError Failure.kind then b.outcome g c rest
      else return false := by
  unfold outcome
  rw [failing?]
  cases b.holds? g c (.text s) with
  | error f => rfl
  | ok truth => cases truth <;> rfl

/-- The gate is open if all trees are true. -/
theorem outcome_eq {scope : Scope}
    (hscope : scopeOf? g b.document.metadata.normal c = .ok scope)
    (h : List.Forall₂ (fun s t => Expr.parse s = .ok t) conditions trees) :
    b.outcome g c conditions = (allTrue scope Expr.evalDepth trees).mapError Interrupt.kind := by
  induction h with
  | nil => rfl
  | @cons s t rest ts hs _ ih =>
    rw [outcome_cons, holds?_of_parse hs, hscope, ih, allTrue]
    simp only [orFault, Except.bind]
    cases truthAt scope Expr.evalDepth t with
    | error i => exact congrArg Except.error (i.kind_failure s)
    | ok truth => cases truth <;> rfl

/-- Without a scope no condition has a truth. -/
theorem outcome_of_error {f : Fault} {rest : List String}
    (hscope : scopeOf? g b.document.metadata.normal c = .error f) (h : Expr.parse s = .ok t) :
    b.outcome g c (s :: rest) = .error (.fault f) := by
  rw [outcome_cons, holds?_of_parse h, hscope]
  rfl

theorem ComesTo.outcome {x : Except Failure Bool} (h : b.ComesTo g c conditions s x)
    (hx : x ≠ .ok true) : b.outcome g c conditions = x.mapError Failure.kind := by
  rw [Rulebook.outcome, h.failing? hx]
  match x, hx with
  | .ok false, _ | .error f, _ => rfl
  | .ok true, hx => exact absurd rfl hx

theorem actionAllowed?_kind (b : Rulebook) (g : Game) (actor : Value) (r : Rule) :
    (b.actionAllowed? g actor r).mapError Failure.kind =
      if actionPhaseAllowed r g.turn.phase then b.outcome g { playerId := actor } r.conditions
      else .ok false := by
  unfold actionAllowed?
  split <;> rfl

/-- The trees of conditions that all parse. -/
theorem exists_trees (h : ∀ s ∈ conditions, Expr.Parses s) :
    ∃ trees, List.Forall₂ (fun s t => Expr.parse s = .ok t) conditions trees := by
  induction conditions with
  | nil => exact ⟨[], .nil⟩
  | cons s rest ih =>
    obtain ⟨⟨t, ht⟩, hrest⟩ := List.forall_mem_cons.1 h
    obtain ⟨ts, hts⟩ := ih hrest
    exact ⟨t :: ts, .cons ht hts⟩

theorem outcome_conjoined (hne : conditions ≠ [])
    (hparse : ∀ s ∈ conditions, Expr.Parses s)
    (hnest : Expr.NestsWithinLimits (conjoined conditions)) :
    b.outcome g c [conjoined conditions] = b.outcome g c conditions := by
  obtain ⟨trees, htrees⟩ := exists_trees hparse
  cases htrees with
  | nil => exact absurd rfl hne
  | @cons s t rest ts hs hrest =>
    have hall : Expr.parse (conjoined (s :: rest)) = .ok (Expr.conjunctionOf t ts) :=
      (Expr.parse_conjoined hs hrest).resolve_left hnest.1
    have hdepth := hnest.2 _ hall
    cases hscope : scopeOf? g b.document.metadata.normal c with
    | error f => rw [outcome_of_error hscope hall, outcome_of_error hscope hs]
    | ok scope =>
      rw [outcome_eq hscope (.cons hall .nil), outcome_eq hscope (.cons hs hrest),
        Expr.allTrue_singleton, Expr.truthAt_conjunctionOf hdepth]

end Rulebook

/-- A list of conditions is the same gate as the conditions written as one. Let each of them parse,
and their conjunction be not nested too deeply. Then the two gates have the same outcome, for an
action too; and where a condition is false and those before it hold, both are closed, whatever
conditions come behind it. -/
theorem conjoined_gate (b : Rulebook) (g : Game) (c : Circumstances) {conditions : List String}
    (hne : conditions ≠ []) (hparse : ∀ s ∈ conditions, Expr.Parses s)
    (hnest : Expr.NestsWithinLimits (conjoined conditions)) :
    b.outcome g c [conjoined conditions] = b.outcome g c conditions ∧
      (∀ (actor : Value) (r : Rule),
        (b.actionAllowed? g actor { r with conditions := [conjoined conditions] }).mapError
            Failure.kind =
          (b.actionAllowed? g actor { r with conditions := conditions }).mapError Failure.kind) ∧
      ∀ s, b.ComesTo g c conditions s (.ok false) →
        b.outcome g c conditions = .ok false ∧
          b.outcome g c [conjoined conditions] = .ok false := by
  have heq (c : Circumstances) : b.outcome g c [conjoined conditions] = b.outcome g c conditions :=
    Rulebook.outcome_conjoined hne hparse hnest
  refine ⟨heq c, fun actor r => ?_, fun s hs => ?_⟩
  · rw [Rulebook.actionAllowed?_kind, Rulebook.actionAllowed?_kind, heq]
    rfl
  · have hclosed := hs.outcome (by simp)
    exact ⟨hclosed, (heq c).trans hclosed⟩

/-- The second condition is false but for one player; the third has no truth. -/
def Sample.conditions : List String := ["'ok'", "playerId == 2", "nobody"]

/-- For the second player the gates fail at the third condition, for the first they are closed
before it. -/
theorem conjoined_gate_sample :
    conjoined Sample.conditions = "('ok') && (playerId == 2) && (nobody)" ∧
      Sample.conditions ≠ [] ∧ (∀ s ∈ Sample.conditions, Expr.Parses s) ∧
      Expr.NestsWithinLimits (conjoined Sample.conditions) ∧
      Rulebook.outcome default {} { playerId := .int 2 } [conjoined Sample.conditions] =
        .error (.rule "INVALID_EXPRESSION") ∧
      Rulebook.outcome default {} { playerId := .int 1 } Sample.conditions = .ok false ∧
      Rulebook.outcome default {} { playerId := .int 1 } [conjoined Sample.conditions] =
        .ok false := by
  have hne : Sample.conditions ≠ [] := by decide
  have hparse : ∀ s ∈ Sample.conditions, Expr.Parses s := by decide +kernel
  have hnest : Expr.NestsWithinLimits (conjoined Sample.conditions) := by decide +kernel
  have hfails : Rulebook.outcome default {} { playerId := .int 2 } Sample.conditions =
      .error (.rule "INVALID_EXPRESSION") := by decide +kernel
  have hfirst : Rulebook.ComesTo default {} { playerId := .int 1 } Sample.conditions
      "playerId == 2" (.ok false) := by
    refine ⟨["'ok'"], ["nobody"], rfl, ?_, by decide +kernel⟩
    simp only [Rulebook.AllHold]
    decide +kernel
  obtain ⟨hsame, -, -⟩ := conjoined_gate default {} { playerId := .int 2 } hne hparse hnest
  obtain ⟨-, -, hclosed⟩ := conjoined_gate default {} { playerId := .int 1 } hne hparse hnest
  exact ⟨rfl, hne, hparse, hnest, hsame.trans hfails, hclosed _ hfirst⟩

end CardRules
