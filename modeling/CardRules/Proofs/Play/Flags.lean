import CardRules.Proofs.Play.Reading
import CardRules.Proofs.Play.Trace
import CardRules.Proofs.Records.Laws

/-!
# Flags written by rules

A rule may write a flag under any name into the record of a player, also under the names of the hand
and of its flags. `Operation.SparesHands` excludes just that; `setFlag_cases` says what is left.
-/

namespace CardRules

/-- A write into a player's record leaves the hand and the flags alone. Other operations always do,
and so do writes into other records. -/
def Operation.SparesHands : Operation → Prop
  | .setFlag target flag _ =>
    target = currentPlayerRef ∨ target = "turn.currentPlayer" ∨ target = nextPlayerRef →
      FieldName.underscored flag ≠ "hand" ∧ FieldName.underscored flag ≠ "known"
  | _ => True

instance : DecidablePred Operation.SparesHands
  | .setFlag _ _ _ => inferInstanceAs (Decidable (_ → _))
  | .moveCard _ _ _ _ | .moveCardByIndex _ _ _ | .advanceTurnOrder _ | .resetTurnFlags
  | .setPhase _ | .log _ | .revealAllHands | .scoreRound | .swapCards _ _ _ _ _
  | .swapCardsWithPeek _ _ _ _ | .revealCard _ _ => .isTrue trivial

/-- A flag that the step writes, if it gets to that, is neither a hand nor its flags. -/
def Step.SparesHands (b : Rulebook) (s : Step) : Prop :=
  s.completes b = true → s.leaf.operation.SparesHands

instance (b : Rulebook) (s : Step) : Decidable (s.SparesHands b) :=
  inferInstanceAs (Decidable (_ → _))

theorem Player.write_spared (p : Player) {flag : String} (v : Value)
    (hhand : FieldName.underscored flag ≠ "hand") (hknown : FieldName.underscored flag ≠ "known") :
    (Record.write p flag v).hand = p.hand ∧ (Record.write p flag v).known = p.known :=
  ⟨Record.get_write_of_ne (r := p) (f := Player.Field.hand) hhand v,
    Record.get_write_of_ne (r := p) (f := Player.Field.known) hknown v⟩

theorem Game.resolveTarget?_player {g : Game} {target : String} {a : Nat}
    (h : g.resolveTarget? (.text target) = .ok (.player a)) :
    target = currentPlayerRef ∨ target = "turn.currentPlayer" ∨ target = nextPlayerRef := by
  cases Game.resolveTarget?_ok h with
  | current href ha => exact href.imp Value.text.inj (.inl ∘ Value.text.inj)
  | next ha => exact .inr (.inr rfl)

theorem Play.setFlag_apply (target flag : String) (value : Value) (r : Run) :
    setFlag target flag value r =
      match r.game.resolveTarget? (.text target) with
      | .ok t => .ok () { r with game := r.game.writeTarget flag value t }
      | .error e => .error e r := by
  have happly : setFlag target flag value r =
      (lift (r.game.resolveTarget? (.text target)) >>= fun t =>
        modifyGame fun g => g.writeTarget flag value t) r := rfl
  rw [happly]
  cases r.game.resolveTarget? (.text target) <;> rfl

/-- The target of a flag is not found and nothing changes, or the flag is written. A flag that
spares hands changes no player's hand and no player's flags. -/
theorem Play.setFlag_cases (target flag : String) (value : Value) (r : Run) :
    (∃ e, setFlag target flag value r = .error e r) ∨
      ∃ t, setFlag target flag value r =
          .ok () { r with game := r.game.writeTarget flag value t } ∧
        ((Operation.setFlag target flag value).SparesHands → ∀ a, t = .player a → ∀ p : Player,
          (Record.write p flag value).hand = p.hand ∧
            (Record.write p flag value).known = p.known) := by
  rw [setFlag_apply]
  cases ht : r.game.resolveTarget? (.text target) with
  | error e => exact .inl ⟨e, rfl⟩
  | ok t =>
    refine .inr ⟨t, rfl, ?_⟩
    rintro hspares a rfl p
    obtain ⟨hhand, hknown⟩ := hspares (Game.resolveTarget?_player ht)
    exact p.write_spared value hhand hknown

end CardRules
