import CardRules.Proofs.Play.Reading

/-!
# References and the turn

Rules refer to players, to hands and to the records of players in texts. Whatever such a text means
goes by the turn, and never by who acts (`Game.followsTurn`).
-/

namespace CardRules

/-- The seat is the current or the next one. -/
def Game.AtTurn (g : Game) (a : Nat) : Prop := g.currentSeat? = .ok a ∨ g.nextSeat? = .ok a

/-- A pile that a text means is no hand, or a hand at turn. -/
theorem Play.resolvePile_atTurn {ref params forced i : Value} {param : Option String} {r r' : Run}
    {a : Nat} (h : resolvePile ref param params forced r = .ok ⟨.hand a, i⟩ r') :
    r.game.AtTurn a := by
  unfold resolvePile at h
  split at h
  · obtain ⟨index, r₁, -, h⟩ := bind_ok h
    cases h
  split at h
  · obtain ⟨index, r₁, -, h⟩ := bind_ok h
    cases h
  split at h
  · split at h
    · obtain ⟨g, r₁, hg, h₁⟩ := bind_ok h
      cases hg
      obtain ⟨seat, r₂, hseat, h₂⟩ := bind_ok h₁
      obtain ⟨rfl, hseat⟩ := orFault_ok_inv hseat
      obtain ⟨index, r₃, -, h₃⟩ := bind_ok h₂
      obtain ⟨_, r₄, -, h₄⟩ := bind_ok h₃
      obtain ⟨_, r₅, -, h₅⟩ := bind_ok h₄
      cases h₅
      split at hseat
      · exact .inr hseat
      · exact .inl hseat
    · cases h
  · cases h

namespace Game

variable {g : Game}

/-- A reference in a text does not mean the actor. -/
theorem resolveSeat?_text (g : Game) (strict : Bool) (actor actor' : Value) (ref : String) :
    g.resolveSeat? strict actor (.text ref) = g.resolveSeat? strict actor' (.text ref) := by
  have hne : Value.text ref ≠ .null := by simp
  rw [resolveSeat?, resolveSeat?, if_neg hne, if_neg hne]

/-- A player's record that a reference means is one at turn. -/
theorem resolveTarget?_atTurn {ref : Value} {a : Nat} (h : g.resolveTarget? ref = .ok (.player a)) :
    g.AtTurn a := by
  cases resolveTarget?_ok h with
  | current href ha => exact .inl ha
  | next ha => exact .inr ha

/-- References go by the turn, whoever acts: those to players are the same for all actors and mean
the current or the next one by their names, and the hands and players' records that are meant are
those of the current or the next player. -/
structure FollowsTurn (g : Game) : Prop where
  player : ∀ strict actor actor' ref,
    g.resolveSeat? strict actor (.text ref) = g.resolveSeat? strict actor' (.text ref)
  current : ∀ strict actor,
    g.resolveSeat? strict actor (.text currentPlayerRef) = orFault g.currentSeat?
  next : ∀ strict actor, g.resolveSeat? strict actor (.text nextPlayerRef) = orFault g.nextSeat?
  hand : ∀ ref param params forced r a i r', r.game = g →
    Play.resolvePile ref param params forced r = .ok ⟨.hand a, i⟩ r' → g.AtTurn a
  target : ∀ ref a, g.resolveTarget? ref = .ok (.player a) → g.AtTurn a

theorem followsTurn (g : Game) : g.FollowsTurn where
  player := g.resolveSeat?_text
  current strict actor := if_pos rfl
  next strict actor := by
    have hne : Value.text nextPlayerRef ≠ .text currentPlayerRef := by
      simp [nextPlayerRef, currentPlayerRef]
    rw [resolveSeat?, if_neg hne, if_pos rfl]
  hand ref param params forced r a i r' hr h := hr ▸ Play.resolvePile_atTurn h
  target ref a := resolveTarget?_atTurn

end Game

end CardRules
