import CardRules.Play.Gate
import CardRules.Play.Pile
import CardRules.Text.Replace

/-!
# Operations

What each operation does to the game and what it reports. An operation looks up everything it needs
before it changes anything, so that a rule error leaves the game as it was (apart from flags that
were brought in line with a hand).
-/

namespace CardRules

/-! ## Events -/

/-- A card was shown. -/
def cardReveal (playerId : Value) (index : Nat) (card : Value) : Value :=
  .object
    [("type", .text "card_reveal"), ("playerId", playerId), ("cardIndex", .int index),
     ("card", card)]

/-- A whole hand was shown. -/
def handReveal (playerId : Value) (hand : List Value) : Value :=
  .object [("type", .text "hand_reveal"), ("playerId", playerId), ("hand", .list hand)]

/-- A hand was scored. -/
def roundScore (playerId : Value) (score : Number) (round : Value) : Value :=
  .object
    [("type", .text "round_score"), ("playerId", playerId), ("score", .number score),
     ("round", round)]

namespace Circumstances

/-- The value of a named parameter; null if it is not given or no name is. -/
def param? (c : Circumstances) : Option String → Except Fault Value
  | none => .ok .null
  | some n => c.params.named? n

end Circumstances

namespace Play

/-! ## Places in hands -/

/-- The index that a parameter holds, which must be given. -/
def requiredIndex (c : Circumstances) (param : Option String) : Play Value := do
  let index ← orFault (c.param? param)
  if index = .null then fail (.missingParameter param)
  orFault (asIndex? index)

/-- The place in a seat's hand that an index names, which must exist. -/
def requiredSlot (seat : Nat) (index : Value) : Play Nat := do
  let size ← orFault (← player seat).hand.size?
  match slot? index size with
  | some n => return n
  | none => fail (.invalidIndex index size)

/-- The card in a place of a hand. -/
def cardAt? (hand : Value) (n : Nat) : Except Fault Value :=
  match hand with
  | .list cards => match cards[n]? with
    | some card => .ok card
    | none => .error .outOfRange
  | .text s => match s.toList[n]? with
    | some c => .ok (.text (String.singleton c))
    | none => .error .outOfRange
  | hand => .error (if hand.entries?.isSome then .missingKey else .wrongKind)

/-- The card in a place of a seat's hand. -/
def cardAt (seat n : Nat) : Play Value := do orFault (cardAt? (← player seat).hand n)

/-- Lays a card into a place of a seat's hand, in place of the card there. -/
def layCard (seat n : Nat) (card : Value) : Play Unit := do
  match (← player seat).hand with
  | .list cards => modifyPlayer seat fun p => { p with hand := .list (cards.set n card) }
  | _ => throw (.fault .wrongKind)

/-- Flags with the one in a place set. Flags kept as an object get an entry under its number. -/
def withFlag? (flags : Value) (n : Nat) (known : Bool) : Except Fault Value :=
  match flags with
  | .list ks => .ok (.list (ks.set n (.bool known)))
  | flags =>
    match flags.entries? with
    | some es => .ok (.ofEntries (es.put (.number (.int n)) (.bool known)))
    | none => .error .wrongKind

/-- Sets the flag in a place of a seat's flags, after bringing them in line with the hand. -/
def markKnown (seat n : Nat) (known : Bool) : Play Unit := do
  align seat
  let known ← orFault (withFlag? (← player seat).known n known)
  modifyPlayer seat fun p => { p with known }

/-- The id of the player in a seat. -/
def idOf (seat : Nat) : Play Value := do return (← player seat).id

/-- The seat a reference to a player means. -/
def seatOf (b : Rulebook) (c : Circumstances) (ref : String) : Play Nat := do
  lift ((← game).resolveSeat? b.strict c.playerId (.text ref))

/-! ## Moving cards -/

def moveCard (c : Circumstances) (source target : String) (count : Int)
    (param : Option String) : Play Unit := do
  let source ← resolvePile (.text source) param c.params .null
  let target ← resolvePile (.text target) none .null .null
  moveMany source target count.toNat

def moveCardByIndex (c : Circumstances) (source target param : String) : Play Unit := do
  let index ← orFault (c.param? (some param))
  if index = .null then fail (.missingParameter (some param))
  let source ← resolvePile (.text source) none .null index
  let target ← resolvePile (.text target) none .null .null
  moveOne source target

/-! ## Swapping cards -/

/-- The two places that a swap is about. -/
structure SwapSides where
  fromSeat : Nat
  fromSlot : Nat
  toSeat : Nat
  toSlot : Nat
  deriving DecidableEq, Repr

/-- The places that two references and two parameters name. -/
def swapSides (b : Rulebook) (c : Circumstances) (fromPlayer toPlayer : String)
    (fromIndex toIndex : Option String) : Play SwapSides := do
  let fromSeat ← seatOf b c fromPlayer
  let toSeat ← seatOf b c toPlayer
  let fromIndex ← requiredIndex c fromIndex
  let toIndex ← requiredIndex c toIndex
  let fromSlot ← requiredSlot fromSeat fromIndex
  let toSlot ← requiredSlot toSeat toIndex
  return { fromSeat, fromSlot, toSeat, toSlot }

/-- Exchanges two cards and marks both places. -/
def exchangeCards (s : SwapSides) (fromCard toCard : Value) (known : Bool) : Play Unit := do
  layCard s.fromSeat s.fromSlot toCard
  layCard s.toSeat s.toSlot fromCard
  markKnown s.fromSeat s.fromSlot known
  markKnown s.toSeat s.toSlot known

def swapCards (b : Rulebook) (c : Circumstances) (fromPlayer toPlayer : String)
    (fromIndex toIndex : Option String) (reveal : Bool) : Play Unit := do
  let s ← swapSides b c fromPlayer toPlayer fromIndex toIndex
  let fromCard ← cardAt s.fromSeat s.fromSlot
  let toCard ← cardAt s.toSeat s.toSlot
  exchangeCards s fromCard toCard reveal
  if reveal then
    emit (cardReveal (← idOf s.fromSeat) s.fromSlot toCard)
    emit (cardReveal (← idOf s.toSeat) s.toSlot fromCard)

/-- Both cards are shown where they were before the swap. -/
def swapCardsWithPeek (b : Rulebook) (c : Circumstances) (fromPlayer toPlayer : String)
    (fromIndex toIndex : Option String) : Play Unit := do
  let s ← swapSides b c fromPlayer toPlayer fromIndex toIndex
  let fromCard ← cardAt s.fromSeat s.fromSlot
  let toCard ← cardAt s.toSeat s.toSlot
  emit (cardReveal (← idOf s.fromSeat) s.fromSlot fromCard)
  emit (cardReveal (← idOf s.toSeat) s.toSlot toCard)
  exchangeCards s fromCard toCard true

/-! ## Showing cards -/

def revealCard (b : Rulebook) (c : Circumstances) (target : String)
    (indexParam : Option String) : Play Unit := do
  let seat ← seatOf b c target
  let index ← orFault (do asIndex? (← c.param? indexParam))
  let n ← requiredSlot seat index
  markKnown seat n true
  emit (cardReveal (← idOf seat) n (← cardAt seat n))

/-- Shows the hand in a seat. -/
def revealHand (seat : Nat) : Play Unit := do
  let p ← player seat
  let size ← orFault p.hand.size?
  modifyPlayer seat fun p => { p with known := .list (List.replicate size (.bool true)) }
  emit (handReveal p.id (← orFault p.hand.parts?))

def revealAllHands : Play Unit := do
  (List.range (← game).seats).forM revealHand

/-! ## The turn -/

/-- Writes a field of a record. What is written is a copy, also of a list; how it goes where hands
share the lists of the rules is said by `SharedPlay.setFlag`. -/
def setFlag (target flag : String) (value : Value) : Play Unit := do
  let target ← lift ((← game).resolveTarget? (.text target))
  modifyGame fun g => g.writeTarget flag value target

/-- The phase of a turn, if a name is given. -/
def withPhase (phase : Option String) (t : Turn) : Turn :=
  match phase with
  | none | some "" => t
  | some phase => { t with phase := .text phase }

def advanceTurnOrder (phase : Option String) : Play Unit := do
  let g ← game
  if !g.players.isEmpty then
    let seat ← orFault g.nextSeatValue?
    modifyGame fun g => { g with turn := { g.turn with seat } }
  modifyGame fun g => { g with turn := (withPhase phase g.turn).resetFlags }

def resetTurnFlags : Play Unit := modifyGame fun g => { g with turn := g.turn.resetFlags }

def setPhase (phase : Option String) : Play Unit :=
  modifyGame fun g =>
    { g with turn := { g.turn with phase := (phase.map Value.text).getD .null } }

/-! ## Scoring -/

/-- The number that a running score counts as; null counts as zero. -/
def scoreNumber? : Value → Option Number
  | .null => some (.int 0)
  | .number n => some (if n.isZero then .int 0 else n)
  | _ => none

/-- Adds the score of a seat's hand to its player's score. -/
def scoreSeat (d : Document) (seat : Nat) : Play Unit := do
  let p ← player seat
  let score ← orFault (handScore? d.rankValues p.hand)
  let old := (scoreNumber? p.score).getD (.int 0)
  match old.add score with
  | none => throw (.fault .overflow)
  | some total =>
    modifyPlayer seat fun p => { p with score := .number total }
    emit (roundScore p.id score (← game).round.number)

/-- Whether a score reaches the winning score from above. -/
def reaches (limit : Number) (score : Value) : Bool :=
  match score with
  | .number n => n.holds .le limit
  | _ => false

/-- Decides the match for the first player whose score reaches the winning score, if one does. -/
def decideMatch (limit : Number) : Play Unit := do
  match (← game).players.find? fun p => reaches limit p.score with
  | none => return ()
  | some winner =>
    modifyGame fun g =>
      { g with
        contest := { g.contest with decided := .bool true, winner := winner.id }
        turn := { g.turn with phase := .text gameOverPhase } }

/-- A player's score in words. -/
def announced? (p : Player) : Except Fault String := do
  return (← p.name.shown?) ++ "=" ++ (← p.score.shown?)

/-- The text that announces the scores of players. -/
def announcement? (players : List Player) : Except Fault String := do
  return Value.joined ", " (← players.mapM announced?)

/-- Puts the scores in words, for a reader outside. -/
def announceScores : Play Unit := do
  let _ ← orFault (announcement? (← game).players)

/-- Scores all hands. The scores are announced before one of them can decide the match. -/
def scoreRound (d : Document) : Play Unit := do
  let g ← game
  match g.players.find? fun p => (scoreNumber? p.score).isNone with
  | some p => fail (.invalidScore p.id p.score)
  | none =>
    (List.range g.seats).forM (scoreSeat d)
    announceScores
    match d.metadata.winScore with
    | none => return ()
    | some limit => decideMatch limit

/-! ## The log -/

/-- The name that a log text calls the current player by. -/
def logName (actor : Value) (g : Game) : Except Fault Value := do
  if g.players.isEmpty then return .text ("Player " ++ actor.shown)
  let p ← g.player? (← g.currentSeat?)
  return if p.name.isVoid then .text ("Player " ++ actor.shown) else p.name

/-- A template with the name and then the parameters filled in. -/
def fillTemplate (template name params : String) : String :=
  let named := Text.replaceAll '\x7b' "player\x7d".toList name.toList template.toList
  String.ofList (Text.replaceAll '\x7b' "param\x7d".toList params.toList named)

def log (c : Circumstances) (template : String) : Play Unit := do
  match ← orFault (logName c.playerId (← game)) with
  | .text name =>
    let text := fillTemplate template name c.params.compact
    modifyGame fun g => { g with log := g.log ++ [.text text] }
    tell text
  | _ => throw (.fault .wrongKind)

/-! ## All operations -/

/-- Carries out an operation. -/
def perform (b : Rulebook) (c : Circumstances) : Operation → Play Unit
  | .moveCard source target count param => moveCard c source target count param
  | .moveCardByIndex source target param => moveCardByIndex c source target param
  | .setFlag target flag value => setFlag target flag value
  | .advanceTurnOrder phase => advanceTurnOrder phase
  | .resetTurnFlags => resetTurnFlags
  | .setPhase phase => setPhase phase
  | .log template => log c template
  | .revealAllHands => revealAllHands
  | .scoreRound => scoreRound b.document
  | .swapCards fromPlayer toPlayer fromIndex toIndex reveal =>
    swapCards b c fromPlayer toPlayer fromIndex toIndex reveal
  | .swapCardsWithPeek fromPlayer toPlayer fromIndex toIndex =>
    swapCardsWithPeek b c fromPlayer toPlayer fromIndex toIndex
  | .revealCard target indexParam => revealCard b c target indexParam

end Play

end CardRules
