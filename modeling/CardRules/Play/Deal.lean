import CardRules.Game.State
import CardRules.Rules.Document
import CardRules.Shuffle

/-!
# Dealing

The state of a fresh match: the deck is built or given, shuffled unless told not to, and dealt in
seat order from its front. Players are given by name or as objects with an id and a name; what is
missing is filled in from the seat's number.
-/

namespace CardRules

/-- One card for each rank and suit, the suits of a rank together. -/
def buildDeck (ranks suits : List String) : List String :=
  ranks.flatMap fun rank => suits.map fun suit => rank ++ suit

/-- The configured deck, unshuffled. -/
def Metadata.cards (m : Metadata) : List Value := (buildDeck m.deck.ranks m.deck.suits).map .text

/-- Whether to shuffle: the first that is set of the argument, the setup and yes. -/
def Metadata.shuffles (m : Metadata) (argument : Value) : Bool :=
  if argument = .null then m.setup.shuffle.getD true else !argument.isVoid

/-- The phase of the first turn. -/
def Metadata.firstPhase (m : Metadata) : String :=
  match m.setup.firstPhase with
  | none | some "" => mainPhase
  | some phase => phase

/-- The id and name of a player entry in a seat. -/
def playerEntry? (seat : Nat) : Value → Except Fault (Value × Value)
  | .text name => .ok (.int (seat + 1), .text name)
  | .object es =>
    let id := (Table.get? es "id").getD .null
    let name := (Table.get? es "name").getD .null
    .ok (if id = .null then .int (seat + 1) else id,
      if name.isVoid then .text s!"Player {seat + 1}" else name)
  | _ => .error .missingMember

/-- The players of the entries from a seat on, each with a hand from the front of the cards, and the
cards left over. -/
def dealFrom? (handSize : Nat) : Nat → List Value → List Value →
    Except Fault (List Player × List Value)
  | _, [], cards => .ok ([], cards)
  | seat, entry :: entries, cards => do
    let (id, name) ← playerEntry? seat entry
    let hand := cards.take handSize
    let known := List.replicate hand.length (.bool false)
    let (players, rest) ← dealFrom? handSize (seat + 1) entries (cards.drop handSize)
    return ({ id, name, hand := .list hand, known := .list known } :: players, rest)

/-- The state of a match dealt from cards. -/
def dealGame? (m : Metadata) (players : Value) (cards : List Value) : Except Fault Game := do
  let (players, deck) ← dealFrom? m.setup.handSize.toNat 0 (← players.parts?) cards
  return { deck, players, turn := { phase := .text m.firstPhase } }

/-- The cards of a match before they are shuffled: the given ones, or the configured deck. -/
def Metadata.startCards? (m : Metadata) (deck : Value) : Except Fault (List Value) :=
  if deck = .null then .ok m.cards else deck.parts?

/-- The state of a fresh match, and the random source after the shuffle, which has advanced also if
dealing fails. -/
def newGame (m : Metadata) (source : Source) (players deck shuffled : Value) :
    Except Fault Game × Source :=
  match m.startCards? deck with
  | .error f => (.error f, source)
  | .ok cards =>
    if m.shuffles shuffled then
      let s := shuffle source cards
      match s.fault with
      | some f => (.error f, s.source)
      | none => (dealGame? m players s.items, s.source)
    else (dealGame? m players cards, source)

end CardRules
