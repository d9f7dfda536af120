import CardRules.Play.Gate
import CardRules.Proofs.Expr.Names
import Mathlib.Control.Monad.Basic

/-!
# What a condition can see

A scope names the actor in one variable (`scopeOf?_actor`). Of the piles it tells the sizes, and of
the players the current and the next one; everything else of the game is behind `state`. Games that
look alike (`Game.LooksLike`) are therefore the same to every expression that does not name `state`,
whatever cards lie where and whatever the other players hold (`hidden_cards_unseen`).
-/

namespace CardRules

open CardRules.Expr (Operand Scope)

/-! ## Scopes that differ in a variable -/

section

variable {n : String} {x : Operand} {scope? scope?' : Except Fault Scope}

/-- What does not look at a variable goes the same way in scopes that differ in it, and without a
scope. -/
theorem scope_bind_congr {α : Type} {k : Scope → Except Failure α}
    (hscope : scope?' = (·.set n x) <$> scope?) (hk : ∀ s : Scope, k (s.set n x) = k s) :
    (orFault scope?' >>= k) = orFault scope? >>= k := by
  subst hscope
  cases scope? with
  | error f => rfl
  | ok s => exact hk s

/-- A condition does not look at the variable. -/
def Omitted (n : String) (condition : Value) : Prop :=
  ∀ text, conditionText? condition = some text → Expr.Omits n text

theorem omitted_null (n : String) : Omitted n .null := fun _ h => by cases h

theorem omitted_text {text : String} (h : Expr.Omits n text) : Omitted n (.text text) := by
  intro t ht
  have hblank : conditionText? (.text text) =
      if Text.isBlankText text then none else some text := rfl
  rw [hblank, Option.ite_none_left_eq_some] at ht
  exact Option.some.inj ht.2 ▸ h

theorem Rulebook.holds?_congr {b : Rulebook} {g h : Game} {c c' : Circumstances} {condition : Value}
    (hscope : scopeOf? h b.document.metadata.normal c' =
      (·.set n x) <$> scopeOf? g b.document.metadata.normal c) (homits : Omitted n condition) :
    b.holds? h c' condition = b.holds? g c condition := by
  unfold holds?
  cases htext : conditionText? condition with
  | none => rfl
  | some text => exact scope_bind_congr hscope fun s => truthIn_set (homits text htext) s x

end

/-- Scopes for different actors are the same but for the variable that names the actor. -/
theorem scopeOf?_actor (g : Game) (metadata : Table Value) (c : Circumstances) (actor : Value) :
    scopeOf? g metadata { c with playerId := actor } =
      (·.set "playerId" (.data actor)) <$> scopeOf? g metadata c := by
  unfold scopeOf?
  simp only [map_bind]
  rfl

/-! ## Games that look alike -/

namespace Game

/-- The player whose turn it is. -/
def currentPlayer? (g : Game) : Except Fault Player := do g.player? (← g.currentSeat?)

/-- The player after the current one. -/
def nextPlayer? (g : Game) : Except Fault Player := do g.player? (← g.nextSeat?)

/-- The same turn, as many players, the same current and next player, and as many cards in the deck
and in the discard pile. -/
structure LooksLike (g h : Game) : Prop where
  turn : g.turn = h.turn
  seats : g.seats = h.seats
  current : g.currentPlayer? = h.currentPlayer?
  next : g.nextPlayer? = h.nextPlayer?
  deck : g.deck.length = h.deck.length
  discard : g.discard.length = h.discard.length

namespace LooksLike

variable {g h : Game}

theorem currentSeat? (hlike : g.LooksLike h) : g.currentSeat? = h.currentSeat? := by
  rw [Game.currentSeat?, Game.currentSeat?, seatAt?, seatAt?, hlike.turn, hlike.seats]

theorem nextSeat? (hlike : g.LooksLike h) : g.nextSeat? = h.nextSeat? := by
  have hvalue : g.nextSeatValue? = h.nextSeatValue? := by
    rw [nextSeatValue?, nextSeatValue?, hlike.turn, hlike.seats]
  have hseat (v : Value) : g.seatAt? v = h.seatAt? v := by rw [seatAt?, seatAt?, hlike.seats]
  rw [Game.nextSeat?, Game.nextSeat?, hvalue, funext hseat]

/-- What a scope holds of the player in a seat. -/
theorem seated (hlike : g.LooksLike h) {seat? : Except Fault Nat}
    (hplayer : (do g.player? (← seat?)) = (do h.player? (← seat?))) :
    (if g.players.isEmpty then .ok .null
      else do
        let seat ← seat?
        return Operand.player seat (← g.player? seat)) =
      if h.players.isEmpty then .ok .null
      else do
        let seat ← seat?
        return Operand.player seat (← h.player? seat) := by
  have hseats : g.players.length = h.players.length := hlike.seats
  have hempty : g.players.isEmpty = h.players.isEmpty := by
    rw [Bool.eq_iff_iff, List.isEmpty_iff_length_eq_zero, List.isEmpty_iff_length_eq_zero, hseats]
  rw [hempty]
  cases seat? with
  | error f => rfl
  | ok seat =>
    have hseat : g.player? seat = h.player? seat := hplayer
    simp only [bind, Except.bind, hseat]

/-- Games that look alike have the same scopes but for the variable that names the game. -/
theorem scopeOf?_eq (hlike : g.LooksLike h) (metadata : Table Value) (c : Circumstances) :
    scopeOf? h metadata c = (·.set "state" (.game h)) <$> scopeOf? g metadata c := by
  have hcurrent := hlike.current
  have hnext := hlike.next
  rw [currentPlayer?, currentPlayer?, hlike.currentSeat?] at hcurrent
  rw [nextPlayer?, nextPlayer?, hlike.nextSeat?] at hnext
  unfold scopeOf?
  dsimp only
  rw [hlike.currentSeat?, hlike.nextSeat?, hlike.seated hcurrent, hlike.seated hnext, hlike.deck,
    hlike.discard, hlike.turn]
  simp only [map_bind]
  rfl

end LooksLike

end Game

/-- Hidden cards cannot influence a condition that does not name `state`. In games that look alike
such an expression has the same value or fails in the same way, and such a condition has the same
truth, whatever else there is in the games. -/
theorem hidden_cards_unseen {g h : Game} (hlike : g.LooksLike h) {text : String}
    (homits : Expr.Omits "state" text) (metadata : Table Value) (c : Circumstances) :
    (do evaluate text (← orFault (scopeOf? g metadata c))) =
        (do evaluate text (← orFault (scopeOf? h metadata c))) ∧
      ∀ b : Rulebook, b.holds? g c (.text text) = b.holds? h c (.text text) := by
  refine ⟨?_, fun b => ?_⟩
  · exact (scope_bind_congr (hlike.scopeOf?_eq metadata c) fun s => evaluate_set homits s _).symm
  · exact (Rulebook.holds?_congr (hlike.scopeOf?_eq _ c) (omitted_text homits)).symm

namespace Sample

/-- The first of three players is at turn, with an ace. -/
def table : Game where
  deck := [.text "KS", .text "AH"]
  players :=
    [{ id := .int 1, name := .text "Ann", hand := .list [.text "AS"] },
     { id := .int 2, name := .text "Bob", hand := .list [.text "2S"] },
     { id := .int 3, name := .text "Cid", hand := .list [.text "2H"] }]

/-- The last player has drawn the king, and there is an ace in its place. -/
def redealt : Game where
  deck := [.text "AH", .text "AD"]
  players :=
    [{ id := .int 1, name := .text "Ann", hand := .list [.text "AS"] },
     { id := .int 2, name := .text "Bob", hand := .list [.text "2S"] },
     { id := .int 3, name := .text "Cid", hand := .list [.text "2H", .text "KS"], score := .int 9 }]
  round := { number := .int 4 }
  log := [.text "Cid draws"]

end Sample

/-- The hands of two players are seen and scored in either game alike; only `state` tells the decks
apart. -/
theorem hidden_cards_unseen_sample :
    let text := "handScore(currentPlayer.hand) < handScore(nextPlayer.hand) and deck.size == 2"
    let c : Circumstances := { playerId := .int 1 }
    let b : Rulebook := { document := { (default : Document) with
      metadata := { (default : Metadata) with
        normal := [("cardValues", .object [("A", .int 1), ("2", .int 2)])] } } }
    Sample.table.LooksLike Sample.redealt ∧ Expr.Omits "state" text ∧
      b.holds? Sample.table c (.text text) = .ok true ∧
      b.holds? Sample.redealt c (.text text) = .ok true ∧
      b.holds? Sample.table c (.text "state.deck[1] == 'AH'") = .ok true ∧
      b.holds? Sample.redealt c (.text "state.deck[1] == 'AH'") = .ok false := by
  intro text c b
  have hlike : Sample.table.LooksLike Sample.redealt := ⟨rfl, rfl, rfl, rfl, rfl, rfl⟩
  have homits : Expr.Omits "state" text := by decide +kernel
  have hholds : b.holds? Sample.table c (.text text) = .ok true := by decide +kernel
  obtain ⟨-, hsame⟩ := hidden_cards_unseen hlike homits [] c
  exact ⟨hlike, homits, hholds, (hsame b).symm.trans hholds, by decide +kernel, by decide +kernel⟩

end CardRules
