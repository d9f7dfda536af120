import CardRules.Fault
import CardRules.Schema.View

/-!
# Rule documents

The description of a card game: metadata (the deck, the setup, the values of ranks, the abilities
bound to cards), the actions players may take and the abilities that cards trigger. `ofValue?` checks
a value and reads it; the document keeps the normal form of the value it was read from. Effects stay
as they were written and are read when they run.
-/

namespace CardRules

open Schema

/-! ## Parts -/

structure DeckConfig where
  ranks : List String
  suits : List String
  deriving DecidableEq, Repr, Inhabited

structure SetupConfig where
  handSize : Int
  /-- None means yes. -/
  shuffle : Option Bool
  /-- None means the main phase. -/
  firstPhase : Option String
  deriving DecidableEq, Repr, Inhabited

structure Metadata where
  deck : DeckConfig
  setup : SetupConfig
  cardValues : Table Number
  cardAbilities : Table String
  /-- The score at or below which a player wins. -/
  winScore : Option Number
  /-- The normal form, which conditions see. -/
  normal : Table Value
  deriving DecidableEq, Repr, Inhabited

/-- An action or an ability. -/
structure Rule where
  /-- None means that no phases were declared. -/
  phases : Option (List String)
  conditions : List String
  effects : List (Table Value)
  deriving DecidableEq, Repr, Inhabited

structure Document where
  metadata : Metadata
  actions : Table Rule
  abilities : Table Rule
  /-- The normal form of the whole document. -/
  normal : Value
  deriving DecidableEq, Repr, Inhabited

/-! ## Checks -/

def DeckConfig.fields : List Field :=
  [withDefault "ranks" "ranks" (listOf text) (.list []),
   withDefault "suits" "suits" (listOf text) (.list [])]

def DeckConfig.check : Check := model "DeckConfig" fields

def SetupConfig.fields : List Field :=
  [withDefault "initialHandSize" "initial_hand_size" whole (.int 4),
   nullable "shuffle" "shuffle" truth,
   nullable "initialPhaseId" "initial_phase_id" text]

def SetupConfig.check : Check := model "SetupConfig" fields

/-- The normal form of a deck that is left out. -/
def DeckConfig.default : Value := .object [("ranks", .list []), ("suits", .list [])]

/-- The normal form of a setup that is left out. -/
def SetupConfig.default : Value :=
  .object [("initialHandSize", .int 4), ("shuffle", .null), ("initialPhaseId", .null)]

def Metadata.fields : List Field :=
  [withDefault "deck" "deck" DeckConfig.check DeckConfig.default,
   withDefault "setup" "setup" SetupConfig.check SetupConfig.default,
   withDefault "cardValues" "card_values" (tableOf number) (.object []),
   withDefault "cardAbilities" "card_abilities" (tableOf text) (.object []),
   nullable "kabuWinScore" "kabu_win_score" number]

def Metadata.check : Check := model "Metadata" fields

/-- The normal form of metadata that are left out. -/
def Metadata.default : Value :=
  .object
    [("deck", DeckConfig.default), ("setup", SetupConfig.default), ("cardValues", .object []),
     ("cardAbilities", .object []), ("kabuWinScore", .null)]

def Rule.fields : List Field :=
  [nullable "id" "id" text,
   nullable "allowedPhases" "allowed_phases" (listOf text),
   withDefault "conditions" "conditions" (listOf text) (.list []),
   withDefault "effects" "effects" (listOf anyObject) (.list [])]

def Rule.check : Check := model "RuleDefinition" fields

def Document.fields : List Field :=
  [withDefault "metadata" "metadata" Metadata.check Metadata.default,
   withDefault "actions" "actions" (tableOf Rule.check) (.object []),
   withDefault "abilities" "abilities" (tableOf Rule.check) (.object [])]

def Document.check : Check := model "RuleDocument" fields

/-! ## Reading normal forms -/

def DeckConfig.ofNormal (v : Value) : DeckConfig where
  ranks := asTexts (fieldOf v "ranks")
  suits := asTexts (fieldOf v "suits")

def SetupConfig.ofNormal (v : Value) : SetupConfig where
  handSize := asWhole (fieldOf v "initialHandSize")
  shuffle := asOption asTruth (fieldOf v "shuffle")
  firstPhase := asOption asText (fieldOf v "initialPhaseId")

def Metadata.ofNormal (v : Value) : Metadata where
  deck := .ofNormal (fieldOf v "deck")
  setup := .ofNormal (fieldOf v "setup")
  cardValues := asTable asNumber (fieldOf v "cardValues")
  cardAbilities := asTable asText (fieldOf v "cardAbilities")
  winScore := asOption asNumber (fieldOf v "kabuWinScore")
  normal := asEntries v

def Rule.ofNormal (v : Value) : Rule where
  phases := asOption asTexts (fieldOf v "allowedPhases")
  conditions := asTexts (fieldOf v "conditions")
  effects := (asItems (fieldOf v "effects")).map asEntries

def Document.ofNormal (v : Value) : Document where
  metadata := .ofNormal (fieldOf v "metadata")
  actions := asTable Rule.ofNormal (fieldOf v "actions")
  abilities := asTable Rule.ofNormal (fieldOf v "abilities")
  normal := v

/-! ## Documents -/

namespace Document

/-- The document a value writes, or what is wrong with it. -/
def ofValue? (v : Value) : Except (List Issue) Document := (check v).map ofNormal

def action? (d : Document) (id : String) : Option Rule := d.actions.get? id

def ability? (d : Document) (id : String) : Option Rule := d.abilities.get? id

/-- The id of the ability bound to a card, if one is. A list or object is no card. -/
def abilityForCard? (d : Document) (card : Value) : Except Fault (Option String) :=
  match card.scalar? with
  | some (.text code) => .ok (d.metadata.cardAbilities.get? code)
  | some _ => .ok none
  | none => .error .wrongKind

/-- The values of ranks as conditions see them. -/
def rankValues (d : Document) : Value :=
  .object (d.metadata.cardValues.map fun (k, n) => (k, .number n))

end Document

end CardRules
