import CardRules.Proofs.Play.Flags
import CardRules.Proofs.Play.Footprint
import CardRules.Proofs.Records.Laws

/-!
# What players are called

Of the fields of a player an operation changes the hand, its flags and the score. Any other one it
leaves alone, seat by seat, but for a flag that spells it (`Step.column_left`). So a match whose
players all have names (`Game.Named`) keeps them through a call that writes no such flag
(`Call.named`).
-/

namespace CardRules

/-! ## Flags that leave a field alone -/

/-- A write into a player's record is not to the field. Other operations write no flags. -/
def Operation.Spares (f : Player.Field) : Operation → Prop
  | .setFlag target flag _ =>
    target = currentPlayerRef ∨ target = "turn.currentPlayer" ∨ target = nextPlayerRef →
      FieldName.underscored flag ≠ @Record.name Player _ f
  | _ => True

instance (f : Player.Field) : DecidablePred (Operation.Spares f)
  | .setFlag _ _ _ => inferInstanceAs (Decidable (_ → _))
  | .moveCard _ _ _ _ | .moveCardByIndex _ _ _ | .advanceTurnOrder _ | .resetTurnFlags
  | .setPhase _ | .log _ | .revealAllHands | .scoreRound | .swapCards _ _ _ _ _
  | .swapCardsWithPeek _ _ _ _ | .revealCard _ _ => .isTrue trivial

/-- A flag that the step writes, if it gets to that, is not the field of a player. -/
def Step.Spares (f : Player.Field) (b : Rulebook) (s : Step) : Prop :=
  s.completes b = true → s.leaf.operation.Spares f

instance (f : Player.Field) (b : Rulebook) (s : Step) : Decidable (s.Spares f b) :=
  inferInstanceAs (Decidable (_ → _))

/-! ## Fields, seat by seat -/

/-- A field that is written by flags only. -/
def Player.Field.Lasting : Player.Field → Prop
  | .hand | .known | .score => False
  | .id | .name | .declared | .justDrawn | .drawSource | .drawnCard => True

/-- A lasting field is neither the hand, nor its flags, nor the score. -/
theorem Player.Field.Lasting.get_eq {f : Player.Field} (hf : f.Lasting) (p : Player)
    (hand known score : Value) : Record.get { p with hand, known, score } f = Record.get p f := by
  cases f with
  | hand | known | score => exact hf.elim
  | id | name | declared | justDrawn | drawSource | drawnCard => rfl

/-- The step writes the field of the player in a seat. -/
def Step.WritesField (b : Rulebook) (s : Step) (f : Player.Field) (a : Nat) : Prop :=
  s.completes b = true ∧ ∃ target flag value, s.leaf.operation = .setFlag target flag value ∧
    s.game.resolveTarget? (.text target) = .ok (.player a) ∧
    FieldName.underscored flag = @Record.name Player _ f

namespace Game

/-- What the players hold in a field, seat by seat. -/
def column (g : Game) (f : Player.Field) : List Value := g.players.map (Record.get · f)

theorem column_modifyPlayer {g : Game} {a : Nat} {f : Player.Field} {h : Player → Player}
    (hf : ∀ p, g.players[a]? = some p → Record.get (h p) f = Record.get p f) :
    (g.modifyPlayer a h).column f = g.column f := by
  refine List.ext_getElem? fun i => ?_
  rw [column, column, modifyPlayer, List.getElem?_map, List.getElem?_map, List.getElem?_modify]
  cases hp : g.players[i]? with
  | none => simp
  | some p =>
    by_cases ha : a = i
    · subst ha
      simp [hf p hp]
    · simp [ha]

/-- A flag changes at most the field that it spells, of the player whose record it is written to. -/
theorem column_writeTarget (g : Game) {flag : String} (value : Value) {t : Target} {a : Nat}
    {f : Player.Field}
    (h : t = .player a → FieldName.underscored flag ≠ @Record.name Player _ f) :
    ((g.writeTarget flag value t).column f)[a]? = (g.column f)[a]? := by
  cases t with
  | turn | round | contest => rfl
  | player a' =>
    by_cases ha : a' = a
    · subst ha
      rw [writeTarget, column_modifyPlayer fun p _ => Record.get_write_of_ne (h rfl) value]
    · rw [writeTarget, column, column, modifyPlayer, List.getElem?_map, List.getElem?_map,
        List.getElem?_modify]
      simp [ha]

end Game

theorem Write.column {part : Part} {r r' : Run} (h : Write part r r') (hpart : part ≠ .flags)
    {f : Player.Field} (hf : f.Lasting) : r'.game.column f = r.game.column f := by
  cases h with
  | hand a hhand =>
    refine Game.column_modifyPlayer fun p hp => ?_
    obtain ⟨hand, known, hfp⟩ := hhand p hp
    rw [hfp]
    exact hf.get_eq p hand known p.score
  | score a score => exact Game.column_modifyPlayer fun p _ => hf.get_eq p p.hand p.known score
  | flag => exact absurd rfl hpart
  | deck | discard | turn | contest | log | event => rfl

theorem Play.column_perform (b : Rulebook) (c : Circumstances) {o : Operation} {r : Run}
    (h : Part.flags ∉ o.parts) {f : Player.Field} (hf : f.Lasting) :
    (gameOf (perform b c o r)).column f = r.game.column f := by
  refine (perform_writes b c o).keeps (M := fun g => g.column f = r.game.column f) ?_ rfl
  exact fun part hpart _ _ hwrite hr => (hwrite.column (fun heq => h (heq ▸ hpart)) hf).trans hr

/-- A step changes a lasting field of the player in a seat only if it writes it. -/
theorem Step.column_left {b : Rulebook} {s : Step} {f : Player.Field} (hf : f.Lasting) {a : Nat}
    (h : ¬ s.WritesField b f a) : ((s.left b).game.column f)[a]? = (s.game.column f)[a]? := by
  have hresult : s.result b =
      Play.perform b s.leaf.circumstances s.leaf.operation { game := s.game } := rfl
  rw [Step.game_left]
  cases ho : s.leaf.operation with
  | setFlag target flag value =>
    rw [ho, Play.perform, Play.setFlag_apply] at hresult
    cases ht : s.game.resolveTarget? (.text target) with
    | error e =>
      rw [hresult, ht]
      rfl
    | ok t =>
      rw [ht] at hresult
      rw [hresult]
      refine s.game.column_writeTarget value fun ha heq => h ⟨completes_of_ok hresult, ?_⟩
      exact ⟨target, flag, value, ho, ht.trans (congrArg Except.ok ha), heq⟩
  | _ =>
    rw [hresult, Play.column_perform b _ (by rw [ho]; simp [Operation.parts]) hf]

/-! ## Names -/

namespace Game

/-- The names of the players. -/
def names (g : Game) : List Value := g.players.map Player.name

/-- There are players, and each has a text for a name that is not empty. -/
structure Named (g : Game) : Prop where
  seated : g.names ≠ []
  named : ∀ n ∈ g.names, ∃ s, n = .text s ∧ s ≠ ""

theorem Named.of_names_eq {g h : Game} (hg : g.Named) (heq : h.names = g.names) : h.Named :=
  ⟨heq ▸ hg.seated, heq ▸ hg.named⟩

end Game

/-- A step that spares the names leaves the players the names that it finds. -/
theorem Step.names_left {b : Rulebook} {s : Step} (h : s.Spares .name b) :
    (s.left b).game.names = s.game.names := by
  refine List.ext_getElem? fun a => Step.column_left (f := .name) trivial ?_
  rintro ⟨hok, target, flag, value, ho, htarget, hflag⟩
  have hspares := h hok
  rw [ho] at hspares
  exact hspares (Game.resolveTarget?_player htarget) hflag

/-! ## Named players through a call -/

/-- What holds at the start of a walk and is kept by the steps that complete holds wherever a step
starts. -/
theorem Walk.games {b : Rulebook} {M : Game → Prop} {g : Game} {ss : List Step}
    {res : EStateM.Result Failure Run Unit} (h : Walk b g ss res) (hg : M g)
    (hstep : ∀ s ∈ ss, s.completes b = true → M s.game → M (s.left b).game) :
    ∀ s ∈ ss, M s.game := by
  induction h with
  | done | refused => exact fun s hs => absurd hs List.not_mem_nil
  | failed f hs => exact List.forall_mem_singleton.2 hg
  | @next s r ss res hs hw ih =>
    obtain ⟨hfirst, hrest⟩ := List.forall_mem_cons.1 hstep
    have hr := hfirst (Step.completes_of_ok hs) hg
    rw [Step.left_of_ok hs] at hr
    exact List.forall_mem_cons.2 ⟨hg, ih hr hrest⟩

/-- In a call that spares the names all steps find players with names, if the call does. -/
theorem Call.named {b : Rulebook} {g : Game} (hg : g.Named) {call : Call}
    (hspares : ∀ s ∈ call.steps b g, s.Spares .name b) : ∀ s ∈ call.steps b g, s.game.Named :=
  (call.walk b g).games hg fun s hs _ hnamed =>
    hnamed.of_names_eq (Step.names_left (hspares s hs))

end CardRules
