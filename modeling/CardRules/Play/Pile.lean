import CardRules.Play.Index
import CardRules.Play.Reference
import CardRules.Play.Run

/-!
# Piles

Cards lie in the deck, in the discard pile and in hands. A resolved pile also says which place cards
are taken from: the top, which is the end, or a given place. A hand takes its flags along: whatever
enters or leaves a hand enters or leaves `known` in the same place, and a card that enters a hand
starts unknown.
-/

namespace CardRules

inductive Pile where
  | deck | discard
  | hand (seat : Nat)
  deriving DecidableEq, Repr

/-- A pile and the place that cards are taken from, null meaning the top. -/
structure PileRef where
  pile : Pile
  index : Value
  deriving DecidableEq, Repr

namespace Player

/-- The player with as many flags as cards: flags that are missing are false and surplus ones are
cut. -/
def aligned? (p : Player) : Except Fault Player := do
  let flags ← p.known.size?
  let cards ← p.hand.size?
  if flags < cards then
    match p.known with
    | .list ks => return { p with known := .list (ks ++ List.replicate (cards - flags) (.bool false)) }
    | _ => throw .missingMember
  else if cards < flags then
    match p.known with
    | .list ks => return { p with known := .list (ks.take cards) }
    | _ => throw .wrongKind
  else return p

end Player

namespace Play

/-- Gives the player in a seat as many flags as cards. -/
def align (seat : Nat) : Play Unit := do
  let p ← orFault (← player seat).aligned?
  modifyPlayer seat fun _ => p

/-! ## Resolving -/

/-- Whether one text occurs in another. -/
def occursIn (part cs : List Char) : Bool :=
  match cs with
  | [] => part.isEmpty
  | c :: rest => part.isPrefixOf (c :: rest) || occursIn part rest

/-- The index that a hand is read at: the forced one, or the named parameter if there are any. -/
def indexFor? (forced : Value) (param : Option String) (params : Value) : Except Fault Value :=
  if forced ≠ .null ∨ params.isVoid then .ok forced
  else match param with
    | some n => params.named? n
    | none => .ok .null

/-- The pile a reference means. References that end in `hand` mean the hand of the next player if
they name that player, and of the current one if not. -/
def resolvePile (ref : Value) (param : Option String) (params forced : Value) :
    Play PileRef := do
  if ref = .text "deck" then return ⟨.deck, ← orFault (asIndex? forced)⟩
  else if ref = .text "discard" then return ⟨.discard, ← orFault (asIndex? forced)⟩
  else match ref with
    | .text s =>
      if "hand".toList.isSuffixOf s.toList then
        let g ← game
        let next := occursIn nextPlayerRef.toList s.toList
        let seat ← orFault (if next then g.nextSeat? else g.currentSeat?)
        let index ← orFault (indexFor? forced param params)
        align seat
        return ⟨.hand seat, ← orFault (asIndex? index)⟩
      else fail (.unsupportedReference ref)
    | _ => fail (.unsupportedReference ref)

/-! ## Taking and putting -/

/-- The place to take from, of `size` cards. -/
def PileRef.slot? (r : PileRef) (size : Nat) : Option Nat :=
  if r.index = .null then some (size - 1) else CardRules.slot? r.index size

/-- Takes the card in a place out of a stack. -/
def takeAt (xs : List Value) (r : PileRef) (store : List Value → Game → Game) : Play Value := do
  match xs with
  | [] => return .null
  | _ =>
    match (PileRef.slot? r xs.length).bind fun n => xs[n]?.map (n, ·) with
    | none => return .null
    | some (n, card) =>
      modifyGame (store (xs.eraseIdx n))
      return card

/-- Flags without the one in a place. Flags kept as an object lose the entry under its number. -/
def withoutFlag? (known : Value) (n : Nat) : Except Fault Value :=
  match known with
  | .list ks => if n < ks.length then .ok (.list (ks.eraseIdx n)) else .error .outOfRange
  | known =>
    match known.entries? with
    | some es =>
      if (es.get? (.number (.int n))).isSome then .ok (.ofEntries (es.erase (.number (.int n))))
      else .error .missingKey
    | none => .error .missingMember

/-- Drops the flag in a place of a seat's flags. -/
def dropFlag (seat n : Nat) : Play Unit := do
  let known ← orFault (withoutFlag? (← player seat).known n)
  modifyPlayer seat fun p => { p with known }

/-- Takes a card out of a seat's hand, with its flag. -/
def takeFromHand (seat : Nat) (r : PileRef) : Play Value := do
  let p ← player seat
  if p.hand.isVoid then return .null
  match PileRef.slot? r (← orFault p.hand.size?) with
  | none => return .null
  | some n =>
    match p.hand with
    | .list cards =>
      match cards[n]? with
      | none => return .null
      | some card =>
        modifyPlayer seat fun p => { p with hand := .list (cards.eraseIdx n) }
        dropFlag seat n
        return card
    | hand => throw (.fault (if hand.entries?.isSome then .missingKey else .missingMember))

/-- Takes one card out of a pile; null if there is none in the place asked for. -/
def take (r : PileRef) : Play Value := do
  match r.pile with
  | .deck => takeAt (← game).deck r fun xs g => { g with deck := xs }
  | .discard => takeAt (← game).discard r fun xs g => { g with discard := xs }
  | .hand seat => takeFromHand seat r

/-- Puts a card on top of a pile. -/
def put (r : PileRef) (card : Value) : Play Unit := do
  match r.pile with
  | .deck => modifyGame fun g => { g with deck := g.deck ++ [card] }
  | .discard => modifyGame fun g => { g with discard := g.discard ++ [card] }
  | .hand seat =>
    match (← player seat).hand with
    | .list cards => modifyPlayer seat fun p => { p with hand := .list (cards ++ [card]) }
    | _ => throw (.fault .missingMember)
    match (← player seat).known with
    | .list ks => modifyPlayer seat fun p => { p with known := .list (ks ++ [.bool false]) }
    | _ => throw (.fault .missingMember)

/-- Takes a card from one pile and puts it on another, if there is one to take. -/
def moveOne (source target : PileRef) : Play Unit := do
  let card ← take source
  if card ≠ .null then put target card

/-- Moves cards one by one. -/
def moveMany (source target : PileRef) : Nat → Play Unit
  | 0 => return ()
  | n + 1 => do
    moveOne source target
    moveMany source target n

end Play

/-- The name of a pile as callers see it; a hand is named after its player. -/
def Pile.name (g : Game) : Pile → String
  | .deck => "deck"
  | .discard => "discard"
  | .hand seat =>
    let id := (g.players[seat]?.map Player.id).getD .null
    s!"player:{id.shown}.hand"

end CardRules
