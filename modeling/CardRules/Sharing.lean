import CardRules.Play.Descent
import CardRules.Play.Execute

/-!
# Shared lists

`Play` gives a hand or its flags a copy of the list that a rule writes there. In a session they get
the list of the rule itself: what moves do to it in place they do to the rule as well, and to every
other hand that has the same list. `Sharing` keeps count of that, and `SharedPlay` carries out rules
with it. A list that is changed in place is changed for all its holders at once (`inPlace`); one that
is replaced in a hand loses that holder. The two hands of a swap or a transfer may be one list, so
these operations go step by step here, with a change of one hand at a time.

Lists of rules are told apart by where they stand (`Location`). A copy of a game has copies of all
lists: its holders still have a list in common, but no longer with the rule.
-/

namespace CardRules

/-! ## Places -/

/-- A list of effects: that of a rule, or one of the two of a branching effect. -/
inductive Block where
  | rule (kind : RuleKind) (id : String)
  | branch (outer : Block) (place : Nat) (passed : Bool)
  deriving DecidableEq, Repr

/-- The place of an effect in the rules. -/
structure Location where
  block : Block
  place : Nat
  deriving DecidableEq, Repr

/-- The hand or the flags of a seat: what moves change in place. -/
inductive Slot where
  | hand (seat : Nat)
  | known (seat : Nat)
  deriving DecidableEq, Repr

namespace Slot

/-- What the slot holds in a game. -/
def get (g : Game) : Slot → Value
  | hand seat => (g.players[seat]?.map Player.hand).getD .null
  | known seat => (g.players[seat]?.map Player.known).getD .null

/-- The game with a value in the slot. -/
def set (g : Game) (v : Value) : Slot → Game
  | hand seat => g.modifyPlayer seat fun p => { p with hand := v }
  | known seat => g.modifyPlayer seat fun p => { p with known := v }

end Slot

/-- The slot that a flag of a record means, if it means one. -/
def Game.slotOf? (g : Game) (target flag : String) : Option Slot :=
  match g.resolveTarget? (.text target), (Record.field? Player flag : Option Player.Field) with
  | .ok (.player seat), some .hand => some (.hand seat)
  | .ok (.player seat), some .known => some (.known seat)
  | _, _ => none

/-! ## Holders -/

/-- A list that comes from a rule: the one in the rule, or what it has become after so many copies
of the game. -/
structure SharedList where
  origin : Location
  copies : Nat := 0
  deriving DecidableEq, Repr

/-- Which lists of rules the slots of a game hold, and what such lists contain by now. -/
structure Sharing where
  held : List (Slot × SharedList) := []
  /-- Changes of the lists in the rules, the newest first. -/
  changed : List (Location × Value) := []
  deriving DecidableEq, Repr

namespace Sharing

/-- What a rule writes at a place where it was written with a value. -/
def valueAt (s : Sharing) (here : Location) (written : Value) : Value :=
  (s.changed.lookup here).getD written

/-- A slot no longer holds a list of a rule. -/
def release (s : Sharing) (slot : Slot) : Sharing :=
  { s with held := s.held.filter fun e => e.1 ≠ slot }

/-- A slot holds the list of the rule at a place, and no other. -/
def hold (s : Sharing) (slot : Slot) (origin : Location) : Sharing :=
  { s with held := (slot, { origin }) :: (s.release slot).held }

/-- The holders in a copy of the game. -/
def copied (s : Sharing) : List (Slot × SharedList) :=
  s.held.map fun (slot, list) => (slot, { list with copies := list.copies + 1 })

/-- A list has new contents, which reach all its holders, and the rule if it is in a rule. -/
def spread (s : Sharing) (list : SharedList) (v : Value) (g : Game) : Game × Sharing :=
  ((s.held.filter fun e => e.2 = list).foldl (fun g e => e.1.set g v) g,
    if list.copies = 0 then { s with changed := (list.origin, v) :: s.changed } else s)

/-- The changes of a step that was carried out for one holder reach the others. -/
def settle (s : Sharing) (before after : Game) : Game × Sharing :=
  s.held.foldl
    (fun (g, s) (slot, list) =>
      if slot.get before = slot.get after then (g, s) else s.spread list (slot.get after) g)
    (after, s)

end Sharing

/-! ## Runs -/

/-- A run, with what it shares with the rules. -/
structure SharedRun where
  run : Run
  sharing : Sharing
  deriving DecidableEq, Repr

/-- A step of a run that shares lists with the rules. -/
abbrev SharedPlay := EStateM Failure SharedRun

namespace SharedPlay

/-- A step that changes no list in place. -/
def plainly {α : Type} (x : Play α) : SharedPlay α := fun s =>
  match x s.run with
  | .ok a r => .ok a { s with run := r }
  | .error e r => .error e { s with run := r }

/-- The run after a step that may have changed lists in place. -/
def settled (s : SharedRun) (r : Run) : SharedRun :=
  let (game, sharing) := s.sharing.settle s.run.game r.game
  { run := { r with game }, sharing }

/-- A step that changes lists of one seat in place, also if it fails. -/
def inPlace {α : Type} (x : Play α) : SharedPlay α := fun s =>
  match x s.run with
  | .ok a r => .ok a (settled s r)
  | .error e r => .error e (settled s r)

/-- The game as it stands. -/
def game : SharedPlay Game := plainly Play.game

/-- Changes who holds what. -/
def share (f : Sharing → Sharing) : SharedPlay Unit :=
  modify fun s => { s with sharing := f s.sharing }

/-! ## Operations

The steps are those of `Play`, each in place where it changes a hand or its flags. -/

def moveOne (source target : PileRef) : SharedPlay Unit := do
  let card ← inPlace (Play.take source)
  if card ≠ .null then inPlace (Play.put target card)

def moveMany (source target : PileRef) : Nat → SharedPlay Unit
  | 0 => return ()
  | n + 1 => do
    moveOne source target
    moveMany source target n

def moveCard (c : Circumstances) (source target : String) (count : Int)
    (param : Option String) : SharedPlay Unit := do
  let source ← inPlace (Play.resolvePile (.text source) param c.params .null)
  let target ← inPlace (Play.resolvePile (.text target) none .null .null)
  moveMany source target count.toNat

def moveCardByIndex (c : Circumstances) (source target param : String) : SharedPlay Unit := do
  let index ← plainly (Play.orFault (c.param? (some param)))
  if index = .null then plainly (Play.fail (.missingParameter (some param)))
  let source ← inPlace (Play.resolvePile (.text source) none .null index)
  let target ← inPlace (Play.resolvePile (.text target) none .null .null)
  moveOne source target

def exchangeCards (s : Play.SwapSides) (fromCard toCard : Value) (known : Bool) :
    SharedPlay Unit := do
  inPlace (Play.layCard s.fromSeat s.fromSlot toCard)
  inPlace (Play.layCard s.toSeat s.toSlot fromCard)
  inPlace (Play.markKnown s.fromSeat s.fromSlot known)
  inPlace (Play.markKnown s.toSeat s.toSlot known)

def swapCards (b : Rulebook) (c : Circumstances) (fromPlayer toPlayer : String)
    (fromIndex toIndex : Option String) (reveal : Bool) : SharedPlay Unit := do
  let s ← plainly (Play.swapSides b c fromPlayer toPlayer fromIndex toIndex)
  let fromCard ← plainly (Play.cardAt s.fromSeat s.fromSlot)
  let toCard ← plainly (Play.cardAt s.toSeat s.toSlot)
  exchangeCards s fromCard toCard reveal
  if reveal then
    plainly (Play.emit (cardReveal (← plainly (Play.idOf s.fromSeat)) s.fromSlot toCard))
    plainly (Play.emit (cardReveal (← plainly (Play.idOf s.toSeat)) s.toSlot fromCard))

def swapCardsWithPeek (b : Rulebook) (c : Circumstances) (fromPlayer toPlayer : String)
    (fromIndex toIndex : Option String) : SharedPlay Unit := do
  let s ← plainly (Play.swapSides b c fromPlayer toPlayer fromIndex toIndex)
  let fromCard ← plainly (Play.cardAt s.fromSeat s.fromSlot)
  let toCard ← plainly (Play.cardAt s.toSeat s.toSlot)
  plainly (Play.emit (cardReveal (← plainly (Play.idOf s.fromSeat)) s.fromSlot fromCard))
  plainly (Play.emit (cardReveal (← plainly (Play.idOf s.toSeat)) s.toSlot toCard))
  exchangeCards s fromCard toCard true

/-- The flags of a hand that is shown are a new list. -/
def revealHand (seat : Nat) : SharedPlay Unit := do
  plainly (Play.revealHand seat)
  share (·.release (.known seat))

def revealAllHands : SharedPlay Unit := do
  (List.range (← game).seats).forM revealHand

/-- Writes a flag. A list or object goes into a hand or its flags as it is, so that it is shared from
then on; everything else is written as a copy. -/
def setFlag (here : Location) (target flag : String) (value : Value) : SharedPlay Unit := do
  match (← game).slotOf? target flag with
  | none => plainly (Play.setFlag target flag value)
  | some slot =>
    if value.scalar?.isSome then
      plainly (Play.setFlag target flag value)
      share (·.release slot)
    else
      plainly (Play.setFlag target flag ((← get).sharing.valueAt here value))
      share (·.hold slot here)

/-- Carries out the operation of the effect at a place. -/
def perform (b : Rulebook) (c : Circumstances) (here : Location) : Operation → SharedPlay Unit
  | .moveCard source target count param => moveCard c source target count param
  | .moveCardByIndex source target param => moveCardByIndex c source target param
  | .setFlag target flag value => setFlag here target flag value
  | .revealAllHands => revealAllHands
  | .swapCards fromPlayer toPlayer fromIndex toIndex reveal =>
    swapCards b c fromPlayer toPlayer fromIndex toIndex reveal
  | .swapCardsWithPeek fromPlayer toPlayer fromIndex toIndex =>
    swapCardsWithPeek b c fromPlayer toPlayer fromIndex toIndex
  | .revealCard target indexParam => inPlace (Play.revealCard b c target indexParam)
  | o => plainly (Play.perform b c o)

/-! ## Effects and rules -/

/-- Runs effects that are nested one level deeper. -/
abbrev Nested := Block → Circumstances → List RawEffect → SharedPlay Unit

/-- Runs the effects that a rule of a kind comes down to. -/
def enter (nested : Nested) (kind : RuleKind) : Descent → SharedPlay Unit
  | .list (some id) c raws => Play.inRule id (nested (.rule kind id) c raws)
  | _ => return ()

/-- Runs the effect at a place. -/
def effect (b : Rulebook) (nested : Nested) (c : Circumstances) (here : Location) :
    Effect → SharedPlay Unit
  | .operation o => perform b c here o
  | .branch condition yes no => do
    let condition := (condition.map Value.text).getD .null
    let passed ← plainly (Play.lift (b.holds? (← game) c condition))
    nested (.branch here.block here.place passed) c (if passed then yes else no)
  | .cardAbility indexParam => do
    enter nested .ability (← plainly (Play.lift (b.cardDescent? c (← game) indexParam)))

/-- Reads the raw effect at a place and runs it. -/
def rawEffect (b : Rulebook) (nested : Nested) (c : Circumstances) (here : Location)
    (raw : RawEffect) : SharedPlay Unit :=
  Play.inOp (RawEffect.op raw) do
    let e ← plainly (Play.lift ((CheckedEffect.ofRaw? raw).mapError .rule))
    effect b nested c here e.effect

/-- Runs effects in order from a place on. -/
def inOrder (x : Nat → RawEffect → SharedPlay Unit) : Nat → List RawEffect → SharedPlay Unit
  | _, [] => return ()
  | place, raw :: raws => do
    x place raw
    inOrder x (place + 1) raws

/-- Runs the effects of a list, within a budget for lists nested in one another. -/
def effects (b : Rulebook) : Nat → Nested
  | _, _, _, [] => return ()
  | 0, _, _, _ :: _ => throw (.fault .nestedTooDeeply)
  | n + 1, block, c, raws =>
    inOrder (fun place => rawEffect b (effects b n) c ⟨block, place⟩) 0 raws

/-- Runs the effects of a list, within the budget of a call that starts with them. -/
def runEffects (b : Rulebook) : Nested := fun block c raws =>
  effects b (b.budget (branchDepth raws)) block c raws

/-- Runs an action or an ability, if it may run. -/
def runRule (b : Rulebook) (kind : RuleKind) (actor id params : Value) : SharedPlay Unit := do
  let d ← plainly (Play.lift (b.ruleDescent? (← game) kind actor id params))
  enter (runEffects b) kind d

end SharedPlay

end CardRules
