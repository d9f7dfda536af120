import CardRules.Failure
import CardRules.Schema.View

/-!
# Effects

The operations that rules are written in. An effect is written as an object that names its operation
under `op`, or under `type`; `ofRaw?` checks the object by the fields of that operation. Operations
act on the game at once; the two control effects, a branch and the ability of a card, run further
effects.
-/

namespace CardRules

open Schema

/-- An effect as it is written. -/
abbrev RawEffect := Table Value

/-! ## The vocabulary -/

/-- An effect that acts on the game at once. -/
inductive Operation where
  | moveCard (source target : String) (count : Int) (param : Option String)
  | moveCardByIndex (source target param : String)
  | setFlag (target flag : String) (value : Value)
  | advanceTurnOrder (phase : Option String)
  | resetTurnFlags
  | setPhase (phase : Option String)
  | log (template : String)
  | revealAllHands
  | scoreRound
  | swapCards (fromPlayer toPlayer : String) (fromIndex toIndex : Option String) (reveal : Bool)
  | swapCardsWithPeek (fromPlayer toPlayer : String) (fromIndex toIndex : Option String)
  | revealCard (target : String) (indexParam : Option String)
  deriving DecidableEq, Repr

inductive Effect where
  | operation (o : Operation)
  /-- One of two lists of effects, by a condition. -/
  | branch (condition : Option String) (yes no : List RawEffect)
  /-- The ability bound to a card of the current player's hand. -/
  | cardAbility (indexParam : Option String)
  deriving DecidableEq, Repr

/-- How effects of one operation are written and read. -/
structure Wording where
  op : String
  fields : List Field
  /-- The effect that a normal form writes. -/
  read : Value → Effect

/-- The reference to the player whose turn it is. -/
def currentPlayerRef : String := "currentPlayer"

/-- The reference to the player after the current one. -/
def nextPlayerRef : String := "nextPlayer"

/-- A field with a reference to a player. -/
def playerField (camel name default : String) : Field :=
  withDefault camel name text (.text default)

/-- The operations a document may name. -/
def vocabulary : List Wording :=
  [⟨"moveCard",
    [required "from" "from_" text, required "to" "to" text, withDefault "count" "count" whole (.int 1),
     nullable "param" "param" text],
    fun v => .operation (.moveCard (asText (fieldOf v "from")) (asText (fieldOf v "to"))
      (asWhole (fieldOf v "count")) (asOption asText (fieldOf v "param")))⟩,
   ⟨"moveCardByIndex",
    [required "from" "from_" text, required "to" "to" text, required "param" "param" text],
    fun v => .operation (.moveCardByIndex (asText (fieldOf v "from")) (asText (fieldOf v "to"))
      (asText (fieldOf v "param")))⟩,
   ⟨"setFlag",
    [required "target" "target" text, required "flag" "flag" text,
     withDefault "value" "value" anything .null],
    fun v => .operation (.setFlag (asText (fieldOf v "target")) (asText (fieldOf v "flag"))
      (fieldOf v "value"))⟩,
   ⟨"advanceTurnOrder", [nullable "phaseId" "phase_id" text],
    fun v => .operation (.advanceTurnOrder (asOption asText (fieldOf v "phaseId")))⟩,
   ⟨"resetTurnFlags", [], fun _ => .operation .resetTurnFlags⟩,
   ⟨"setPhase", [nullable "phaseId" "phase_id" text],
    fun v => .operation (.setPhase (asOption asText (fieldOf v "phaseId")))⟩,
   ⟨"log", [withDefault "template" "template" text (.text "")],
    fun v => .operation (.log (asText (fieldOf v "template")))⟩,
   ⟨"revealAllHands", [], fun _ => .operation .revealAllHands⟩,
   ⟨"scoreRound", [], fun _ => .operation .scoreRound⟩,
   ⟨"if",
    [nullable "condition" "condition" text,
     withDefault "then" "then" (listOf anyObject) (.list []),
     withDefault "else" "else_" (listOf anyObject) (.list [])],
    fun v => .branch (asOption asText (fieldOf v "condition"))
      ((asItems (fieldOf v "then")).map asEntries) ((asItems (fieldOf v "else")).map asEntries)⟩,
   ⟨"runAbilityForCard", [nullable "handIndexParam" "hand_index_param" text],
    fun v => .cardAbility (asOption asText (fieldOf v "handIndexParam"))⟩,
   ⟨"swapCards",
    [playerField "fromPlayer" "from_player" currentPlayerRef,
     playerField "toPlayer" "to_player" nextPlayerRef,
     nullable "fromIndexParam" "from_index_param" text,
     nullable "toIndexParam" "to_index_param" text,
     withDefault "reveal" "reveal" truth (.bool false)],
    fun v => .operation (.swapCards (asText (fieldOf v "fromPlayer"))
      (asText (fieldOf v "toPlayer")) (asOption asText (fieldOf v "fromIndexParam"))
      (asOption asText (fieldOf v "toIndexParam")) (asTruth (fieldOf v "reveal")))⟩,
   ⟨"swapCardsWithPeek",
    [playerField "fromPlayer" "from_player" currentPlayerRef,
     playerField "toPlayer" "to_player" nextPlayerRef,
     nullable "myIndexParam" "my_index_param" text,
     nullable "opponentIndexParam" "opponent_index_param" text],
    fun v => .operation (.swapCardsWithPeek (asText (fieldOf v "fromPlayer"))
      (asText (fieldOf v "toPlayer")) (asOption asText (fieldOf v "myIndexParam"))
      (asOption asText (fieldOf v "opponentIndexParam")))⟩,
   ⟨"revealCard",
    [playerField "target" "target" currentPlayerRef,
     nullable "handIndexParam" "hand_index_param" text],
    fun v => .operation (.revealCard (asText (fieldOf v "target"))
      (asOption asText (fieldOf v "handIndexParam")))⟩]

/-! ## Reading -/

/-- What an effect names as its operation. -/
def RawEffect.op (raw : RawEffect) : Value :=
  let op := (Table.get? raw "op").getD .null
  if op.isVoid then (Table.get? raw "type").getD .null else op

/-- The wording of an operation. -/
def wordingOf? : Value → Option Wording
  | .text op => vocabulary.find? fun w => w.op == op
  | _ => none

/-- The check of effects of one operation. -/
def Wording.check (w : Wording) : Check :=
  model w.op (withDefault "op" "op" text (.text w.op) :: w.fields)

/-- An issue of an effect: where it is found, or the operation for the effect as a whole. -/
def issueText (op : String) (i : Issue) : String :=
  let path := Value.joined "." (i.path.map Step.text)
  (if path = "" then op else path) ++ ": " ++ i.problem.text

/-- An effect, with its operation and its normal form. -/
structure CheckedEffect where
  op : String
  effect : Effect
  normal : Value
  deriving DecidableEq, Repr

/-- The effect that a raw one writes. -/
def CheckedEffect.ofRaw? (raw : RawEffect) : Except RuleError CheckedEffect :=
  match wordingOf? (RawEffect.op raw) with
  | none =>
    .error { cause := .unsupportedOperation (RawEffect.op raw), op := some (RawEffect.op raw).shown }
  | some w =>
    match w.check (.object (Table.put "op" (.text w.op) (Table.erase raw "type"))) with
    | .ok v => .ok ⟨w.op, w.read v, v⟩
    | .error issues =>
      .error {
        cause := .malformedEffect (Value.joined "; " (issues.map (issueText w.op)))
        op := some w.op }

end CardRules
