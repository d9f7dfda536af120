import CardRules.Proofs.Play.Naming
import CardRules.Proofs.Play.References
import CardRules.Proofs.Play.Scopes
import CardRules.Proofs.Results
import CardRules.Proofs.Rules.Occurrence
import CardRules.Proofs.Tables

/-!
# Who acts

The acting player is known to conditions as `playerId`, and to a log text where the current player
has no name. Everything else goes by the turn. So where no condition names `playerId` and all
players have names, calls by different actors are the same call (`Call.play_withActor`), and the
same actions may run (`actor_irrelevant`).
-/

namespace CardRules

/-- The circumstances with another actor. -/
def Circumstances.withActor (c : Circumstances) (actor : Value) : Circumstances :=
  { c with playerId := actor }

/-! ## Operations -/

theorem Game.Named.logName {g : Game} (hg : g.Named) (actor actor' : Value) :
    Play.logName actor g = Play.logName actor' g := by
  have hplayers : g.players.isEmpty = false := by
    simpa [Game.names, List.isEmpty_eq_false_iff] using hg.seated
  unfold Play.logName
  rw [hplayers]
  cases hseat : g.currentSeat? with
  | error f => rfl
  | ok a =>
    simp only [bind, Except.bind, Game.player?]
    cases hp : g.players[a]? with
    | none => rfl
    | some p =>
      obtain ⟨s, hs, hne⟩ := hg.named p.name (List.mem_map_of_mem (List.mem_of_getElem? hp))
      simp [hs, hne, Value.isVoid]

namespace Play

variable {b : Rulebook} {c : Circumstances} {actor : Value}

theorem seatOf_withActor (ref : String) : seatOf b (c.withActor actor) ref = seatOf b c ref := by
  funext r
  simp only [seatOf, bind_apply, game_apply]
  rw [r.game.resolveSeat?_text b.strict (c.withActor actor).playerId c.playerId]

theorem swapSides_withActor (fromPlayer toPlayer : String) (fromIndex toIndex : Option String) :
    swapSides b (c.withActor actor) fromPlayer toPlayer fromIndex toIndex =
      swapSides b c fromPlayer toPlayer fromIndex toIndex := by
  unfold swapSides
  rw [seatOf_withActor, seatOf_withActor]
  rfl

/-- An operation does the same for whichever actor, if all players have names. -/
theorem perform_withActor {r : Run} (hr : r.game.Named) (o : Operation) :
    perform b (c.withActor actor) o r = perform b c o r := by
  cases o with
  | log template =>
    simp only [perform, log, bind_apply, game_apply,
      hr.logName (c.withActor actor).playerId c.playerId]
    rfl
  | swapCards | swapCardsWithPeek =>
    simp only [perform, swapCards, swapCardsWithPeek, swapSides_withActor]
  | revealCard =>
    simp only [perform, revealCard, seatOf_withActor]
    rfl
  | moveCard | moveCardByIndex | setFlag | advanceTurnOrder | resetTurnFlags | setPhase
  | revealAllHands | scoreRound => rfl

end Play

/-! ## Gates -/

namespace Rulebook

variable {b : Rulebook} {g : Game} {c : Circumstances} {p q : Value}

theorem holds?_withActor {condition : Value} (h : Omitted "playerId" condition) (actor : Value) :
    b.holds? g (c.withActor actor) condition = b.holds? g c condition :=
  holds?_congr (scopeOf?_actor g b.document.metadata.normal c actor) h

theorem failing?_withActor {conditions : List String}
    (h : ∀ s ∈ conditions, Expr.Omits "playerId" s) (actor : Value) :
    b.failing? g (c.withActor actor) conditions = b.failing? g c conditions := by
  induction conditions with
  | nil => rfl
  | cons s rest ih =>
    obtain ⟨hs, hrest⟩ := List.forall_mem_cons.1 h
    rw [failing?, failing?, holds?_withActor (omitted_text hs), ih hrest]

theorem actionAllowed?_actor {r : Rule} (h : r.Omits "playerId") (p q : Value) :
    b.actionAllowed? g q r = b.actionAllowed? g p r := by
  have hgate := failing?_withActor (b := b) (g := g) (c := { playerId := p }) h.gate q
  rw [actionAllowed?, actionAllowed?, ← hgate]
  rfl

theorem allowedAmong?_actor {t : Table Rule} (h : ∀ e ∈ t, e.2.Omits "playerId") (p q : Value) :
    b.allowedAmong? g q t = b.allowedAmong? g p t := by
  induction t with
  | nil => rfl
  | cons e t ih =>
    obtain ⟨he, ht⟩ := List.forall_mem_cons.1 h
    rw [allowedAmong?, allowedAmong?, actionAllowed?_actor he p q, ih ht]

theorem action?_ok {id : String} {r : Rule} (h : b.action? id = .ok r) :
    b.document.action? id = some r := by
  unfold action? at h
  split at h <;> cases h
  assumption

theorem ability?_ok {id : String} {r : Rule} (h : b.ability? id = .ok r) :
    b.document.ability? id = some r := by
  unfold ability? at h
  split at h <;> cases h
  assumption

theorem checkedAction?_ok {id : String} {r : Rule} (h : b.checkedAction? g p id = .ok r) :
    b.action? id = .ok r := by
  unfold checkedAction? at h
  obtain ⟨r', hr', h⟩ := bind_eq_ok h
  split at h
  · obtain ⟨failing, -, h⟩ := bind_eq_ok h
    split at h <;> cases h
    exact hr'
  · cases h

theorem checkedAbility?_ok {id : String} {params : Value} {r : Rule}
    (h : b.checkedAbility? g p id params = .ok r) : b.ability? id = .ok r := by
  unfold checkedAbility? at h
  obtain ⟨r', hr', h⟩ := bind_eq_ok h
  split at h
  · obtain ⟨failing, -, h⟩ := bind_eq_ok h
    split at h <;> cases h
    exact hr'
  · cases h

section

variable (hdoc : b.document.Omits "playerId")

include hdoc

theorem action?_omits {id : String} {r : Rule} (h : b.action? id = .ok r) : r.Omits "playerId" :=
  hdoc.actions _ (Table.mem_of_get? (action?_ok h))

theorem ability?_omits {id : String} {r : Rule} (h : b.ability? id = .ok r) :
    r.Omits "playerId" :=
  hdoc.abilities _ (Table.mem_of_get? (ability?_ok h))

theorem checkedAction?_actor (id : String) (p q : Value) :
    b.checkedAction? g q id = b.checkedAction? g p id := by
  unfold checkedAction?
  cases hr : b.action? id with
  | error f => rfl
  | ok r =>
    have hgate := failing?_withActor (b := b) (g := g) (c := { playerId := p })
      (action?_omits hdoc hr).gate q
    simp only [bind, Except.bind, ← hgate]
    rfl

theorem checkedAbility?_actor (id : String) (params p q : Value) :
    b.checkedAbility? g q id params = b.checkedAbility? g p id params := by
  unfold checkedAbility?
  cases hr : b.ability? id with
  | error f => rfl
  | ok r =>
    have hgate := failing?_withActor (b := b) (g := g)
      (c := { playerId := p, abilityContext := params }) (ability?_omits hdoc hr).gate q
    simp only [bind, Except.bind, ← hgate]
    rfl

end

end Rulebook

/-! ## Descents -/

namespace Descent

/-- The descent with another actor. -/
def withActor (actor : Value) : Descent → Descent
  | .leaf l => .leaf { l with circumstances := l.circumstances.withActor actor }
  | .list rule c raws => .list rule (c.withActor actor) raws
  | .nothing => .nothing

/-- No condition of a branch in the descent names the variable. -/
def Omits (n : String) : Descent → Prop
  | .list _ _ raws => BranchesOmit n raws
  | .leaf _ | .nothing => True

end Descent

namespace Rulebook

variable {b : Rulebook} {g : Game} {c : Circumstances}

section

variable (hdoc : b.document.Omits "playerId")

include hdoc

theorem abilityDescent?_actor (id : String) (params p q : Value) :
    b.abilityDescent? g q id params = (·.withActor q) <$> b.abilityDescent? g p id params := by
  unfold abilityDescent?
  rw [checkedAbility?_actor hdoc id params p q]
  simp only [map_bind]
  rfl

theorem cardDescent?_actor (indexParam : Option String) (actor : Value) :
    b.cardDescent? (c.withActor actor) g indexParam =
      (·.withActor actor) <$> b.cardDescent? c g indexParam := by
  have hbound (index card : Value) : b.boundDescent? g actor index card =
      (·.withActor actor) <$> b.boundDescent? g c.playerId index card := by
    unfold boundDescent?
    simp only [map_bind]
    refine bind_congr fun id? => ?_
    split
    · rfl
    · rfl
    · exact abilityDescent?_actor hdoc _ _ c.playerId actor
  unfold cardDescent?
  simp only [map_bind]
  refine bind_congr fun index => bind_congr fun seat => ?_
  refine bind_congr fun p => bind_congr fun size => ?_
  split
  · simp only [map_bind]
    exact bind_congr fun card => hbound index card
  · exact hbound index .null

/-- What an effect comes down to for another actor is the same with that actor. -/
theorem descent?_actor {raw : RawEffect}
    (hraw : ∀ s, RawEffect.condition? raw = some s → Expr.Omits "playerId" s) (actor : Value) :
    b.descent? (c.withActor actor) g raw = (·.withActor actor) <$> b.descent? c g raw := by
  unfold descent?
  cases he : CheckedEffect.ofRaw? raw with
  | error e => rfl
  | ok e =>
    change b.effectDescent? (c.withActor actor) g e.effect =
      (·.withActor actor) <$> b.effectDescent? c g e.effect
    cases heffect : e.effect with
    | operation o => rfl
    | branch condition yes no =>
      have homits : Omitted "playerId" ((condition.map Value.text).getD .null) := by
        cases condition with
        | none => exact omitted_null _
        | some s =>
          exact omitted_text (hraw s (by simp [RawEffect.condition?, he, Except.map, heffect]))
      unfold effectDescent?
      simp only [map_bind, holds?_withActor homits]
      rfl
    | cardAbility indexParam => exact cardDescent?_actor hdoc indexParam actor

theorem abilityDescent?_omits {id : String} {params p : Value} {d : Descent}
    (h : b.abilityDescent? g p id params = .ok d) : d.Omits "playerId" := by
  obtain ⟨r, hr, h⟩ := bind_eq_ok h
  cases h
  exact (ability?_omits hdoc (checkedAbility?_ok hr)).branches

theorem cardDescent?_omits {indexParam : Option String} {d : Descent}
    (h : b.cardDescent? c g indexParam = .ok d) : d.Omits "playerId" := by
  have hbound {index card : Value} (h : b.boundDescent? g c.playerId index card = .ok d) :
      d.Omits "playerId" := by
    obtain ⟨id?, -, h⟩ := bind_eq_ok h
    split at h
    · cases h
      trivial
    · cases h
      trivial
    · exact abilityDescent?_omits hdoc h
  obtain ⟨index, -, h⟩ := bind_eq_ok h
  obtain ⟨seat, -, h⟩ := bind_eq_ok h
  obtain ⟨p, -, h⟩ := bind_eq_ok h
  obtain ⟨size, -, h⟩ := bind_eq_ok h
  split at h
  · obtain ⟨card, -, h⟩ := bind_eq_ok h
    exact hbound h
  · exact hbound h

/-- No condition in what an effect comes down to names the actor. -/
theorem descent?_omits {raw : RawEffect}
    (hraw : ∀ branch ∈ RawEffect.branches raw, BranchesOmit "playerId" branch) {d : Descent}
    (h : b.descent? c g raw = .ok d) : d.Omits "playerId" := by
  unfold descent? at h
  obtain ⟨e, he, h⟩ := bind_eq_ok h
  cases hofRaw : CheckedEffect.ofRaw? raw with
  | error e' => rw [hofRaw] at he; cases he
  | ok e' =>
    rw [hofRaw] at he
    cases he
    cases heffect : e.effect with
    | operation o =>
      rw [heffect] at h
      cases h
      trivial
    | branch condition yes no =>
      rw [heffect] at h
      obtain ⟨passed, -, h⟩ := bind_eq_ok h
      cases h
      have hbranches : RawEffect.branches raw = [yes, no] := by
        simp [RawEffect.branches, hofRaw, Except.map, heffect]
      rw [hbranches] at hraw
      cases passed with
      | true => exact hraw yes (by simp)
      | false => exact hraw no (by simp)
    | cardAbility indexParam =>
      rw [heffect] at h
      exact cardDescent?_omits hdoc h

end

end Rulebook

/-! ## Effects -/

namespace Play

variable {b : Rulebook} {g : Game} {actor : Value}

/-- What an effect comes down to is done the same for another actor, if nested lists are. -/
theorem descend_withActor {nested : Nested} {d? : Except Failure Descent}
    {steps : Circumstances → List RawEffect → Game → List Step}
    (hnamed : ∀ s ∈ stepsOfDescent steps g d?, s.game.Named)
    (hnested : ∀ rule c raws, d? = .ok (.list rule c raws) →
      nested (c.withActor actor) raws { game := g } = nested c raws { game := g }) :
    (lift ((·.withActor actor) <$> d?) >>= descend b nested) { game := g } =
      (lift d? >>= descend b nested) { game := g } := by
  match d? with
  | .error e => rfl
  | .ok (.leaf l) =>
    have hg : g.Named := hnamed ⟨l, g⟩ (List.mem_singleton_self _)
    exact perform_withActor (r := { game := g }) hg l.operation
  | .ok .nothing => rfl
  | .ok (.list none c raws) => exact hnested none c raws rfl
  | .ok (.list (some id) c raws) =>
    have hsame := congrArg (renamed (RuleError.inRule id)) (hnested (some id) c raws rfl)
    rwa [← mapRule_apply, ← mapRule_apply] at hsame

/-- Two ways to run effects are the same in order, if they are the same for each effect whose steps
are as asked. -/
theorem forM_congr {one : RawEffect → Game → List Step} {x y : RawEffect → Play Unit}
    (hx : ∀ raw, Framed (x raw)) (hy : ∀ raw, Framed (y raw)) {M : Step → Prop}
    {raws : List RawEffect} {g : Game} (h : ∀ s ∈ stepsInOrder one x raws g, M s)
    (hsame : ∀ raw ∈ raws, ∀ g, (∀ s ∈ one raw g, M s) →
      y raw { game := g } = x raw { game := g }) :
    raws.forM y { game := g } = raws.forM x { game := g } := by
  induction raws generalizing g with
  | nil => rfl
  | cons raw raws ih =>
    have hcons (z : RawEffect → Play Unit) : (raw :: raws).forM z { game := g } =
        (z raw >>= fun _ => raws.forM z) { game := g } := rfl
    obtain ⟨hone, hrest⟩ := List.forall_mem_append.1 h
    rw [hcons, hcons, bind_apply, bind_apply, hsame raw List.mem_cons_self g hone]
    cases hr : x raw { game := g } with
    | error e r => rfl
    | ok u r =>
      rw [hr] at hrest
      dsimp only
      rw [framed_forM hy r, framed_forM hx r,
        ih hrest fun raw' hraw' => hsame raw' (List.mem_cons_of_mem _ hraw')]

/-- Effects do the same for another actor, if all steps find named players. -/
theorem effects_withActor (hdoc : b.document.Omits "playerId") (n : Nat) :
    ∀ (c : Circumstances) (raws : List RawEffect) (g : Game), BranchesOmit "playerId" raws →
      (∀ s ∈ steps b n c raws g, s.game.Named) →
      effects b n (c.withActor actor) raws { game := g } = effects b n c raws { game := g } := by
  induction n with
  | zero => intro c raws g _ _; cases raws <;> rfl
  | succ n ih =>
    intro c raws g hraws hnamed
    have hframed (c : Circumstances) (raw : RawEffect) : Framed (rawEffect b (effects b n) c raw) :=
      framed_rawEffect b (framed_effects b n) c raw
    rw [effects_succ, effects_succ]
    refine forM_congr (hframed c) (hframed (c.withActor actor)) hnamed fun raw hraw g hnamed => ?_
    rw [rawEffect_eq, rawEffect_eq, Rulebook.descent?_actor hdoc (hraws raw (.here hraw))]
    refine inOp_congr _ (descend_withActor hnamed fun rule c' raws' hlist => ?_)
    have homits := Rulebook.descent?_omits hdoc (fun branch => hraws.within hraw) hlist
    rw [hlist] at hnamed
    exact ih c' raws' g homits hnamed

end Play

/-! ## Calls -/

namespace Call

/-- The call by another actor. -/
def withActor (actor : Value) : Call → Call
  | .action _ id params => .action actor id params
  | .ability _ id params => .ability actor id params
  | .effect c raw => .effect (c.withActor actor) raw

/-- No condition of a branch in an effect outside all rules names the variable. -/
def Omits (n : String) : Call → Prop
  | .effect _ raw => BranchesOmit n [raw]
  | .action _ _ _ | .ability _ _ _ => True

variable {b : Rulebook} {g : Game}

theorem descent?_withActor (hdoc : b.document.Omits "playerId") (call : Call) (actor : Value) :
    (call.withActor actor).descent? b g = (·.withActor actor) <$> call.descent? b g := by
  cases call with
  | action p id params =>
    simp only [withActor, descent?, map_bind]
    refine bind_congr fun id => ?_
    rw [Rulebook.checkedAction?_actor hdoc id p actor]
    rfl
  | ability p id params =>
    simp only [withActor, descent?, map_bind]
    exact bind_congr fun params => bind_congr fun id =>
      Rulebook.abilityDescent?_actor hdoc id params p actor
  | effect c raw => rfl

theorem descent?_omits (hdoc : b.document.Omits "playerId") {call : Call}
    (hcall : call.Omits "playerId") {d : Descent} (h : call.descent? b g = .ok d) :
    d.Omits "playerId" := by
  cases call with
  | action p id params =>
    obtain ⟨id, -, h⟩ := bind_eq_ok h
    obtain ⟨r, hr, h⟩ := bind_eq_ok h
    obtain ⟨params, -, h⟩ := bind_eq_ok h
    cases h
    exact (Rulebook.action?_omits hdoc (Rulebook.checkedAction?_ok hr)).branches
  | ability p id params =>
    obtain ⟨params, -, h⟩ := bind_eq_ok h
    obtain ⟨id, -, h⟩ := bind_eq_ok h
    exact Rulebook.abilityDescent?_omits hdoc h
  | effect c raw =>
    cases h
    exact hcall

/-- A call by another actor is the same call, if no condition names the actor and all steps find
named players. -/
theorem play_withActor (hdoc : b.document.Omits "playerId") {call : Call}
    (hcall : call.Omits "playerId") (hnamed : ∀ s ∈ call.steps b g, s.game.Named) (actor : Value) :
    (call.withActor actor).play b { game := g } = call.play b { game := g } := by
  rw [play_eq, play_eq, descent?_withActor hdoc]
  refine Play.descend_withActor hnamed fun rule c raws hlist => ?_
  unfold steps at hnamed
  rw [hlist] at hnamed
  exact Play.effects_withActor hdoc _ c raws g (descent?_omits hdoc hcall hlist) hnamed

end Call

/-- Who acts matters only where rules name it. Let no condition of any action or ability and none of
a branch in them name `playerId`, and let all players have names that the run of the first actor
does not write. Then the run of any other actor is the same run, for an action and for an ability:
it ends alike and leaves the same game, events and log. The same actions may run, and whatever rules
refer to goes by the turn. -/
theorem actor_irrelevant (b : Rulebook) (hdoc : b.document.Omits "playerId") (g : Game)
    (hg : g.Named) (p q : Value) :
    (∀ id params r, r.game = g →
        (∀ s ∈ (Call.action p id params).steps b g, s.Spares .name b) →
        Play.runAction b p id params r = Play.runAction b q id params r) ∧
      (∀ id params r, r.game = g →
        (∀ s ∈ (Call.ability p id params).steps b g, s.Spares .name b) →
        Play.runAbility b p id params r = Play.runAbility b q id params r) ∧
      b.availableActions? g p = b.availableActions? g q ∧ g.FollowsTurn := by
  have hplay (call : Call) (hcall : call.Omits "playerId")
      (hspares : ∀ s ∈ call.steps b g, s.Spares .name b) {r : Run} (hr : r.game = g) :
      call.play b r = (call.withActor q).play b r := by
    rw [call.framed_play b r, (call.withActor q).framed_play b r, hr,
      Call.play_withActor hdoc hcall (Call.named hg hspares)]
  refine ⟨fun id params r hr hspares => ?_, fun id params r hr hspares => ?_, ?_, g.followsTurn⟩
  · exact hplay (.action p id params) trivial hspares hr
  · exact hplay (.ability p id params) trivial hspares hr
  · exact (Rulebook.allowedAmong?_actor hdoc.actions p q).symm

namespace Sample

/-- Triggers the ability of the card in a place. -/
def trigger : RawEffect := [("op", .text "runAbilityForCard"), ("handIndexParam", .text "at")]

/-- Says what a player does, and lets the ace of the first player say more. -/
def greeting : Rulebook where
  document := { (default : Document) with
    metadata := { (default : Metadata) with cardAbilities := [("AS", "greet")] }
    actions := [("play", {
      phases := none
      conditions := ["currentPlayer.hand.length > 0"]
      effects :=
        [[("op", .text "log"), ("template", .text "\x7bplayer\x7d plays")],
         [("op", .text "if"), ("condition", .text "turn.currentPlayerIndex == 0"),
          ("then", .list [.object trigger])]] })]
    abilities := [("greet", {
      phases := none
      conditions := []
      effects :=
        [[("op", .text "setFlag"), ("target", .text "currentPlayer"), ("flag", .text "greeted"),
          ("value", .bool true)],
         [("op", .text "log"), ("template", .text "\x7bplayer\x7d greets")]] })] }

theorem greeting_omits : greeting.document.Omits "playerId" where
  actions := by
    refine List.forall_mem_singleton.2 ⟨by decide +kernel, ?_⟩
    exact .of_closed (trigger :: (greeting.document.actions.flatMap fun e => e.2.effects))
      (by decide +kernel) (by decide +kernel) (by decide +kernel)
  abilities := by
    refine List.forall_mem_singleton.2 ⟨by decide +kernel, ?_⟩
    exact .of_closed (greeting.document.abilities.flatMap fun e => e.2.effects)
      (by decide +kernel) (by decide +kernel) (by decide +kernel)

end Sample

/-- Nobody acts, and yet the player at turn plays and greets. -/
theorem actor_irrelevant_sample :
    Sample.greeting.document.Omits "playerId" ∧ Sample.game.Named ∧
      (∀ s ∈ (Call.action (.int 1) (.text "play") (.object [("at", .int 0)])).steps Sample.greeting
        Sample.game, s.Spares .name Sample.greeting) ∧
      (Play.runOf (Play.runAction Sample.greeting .null (.text "play") (.object [("at", .int 0)])
        { game := Sample.game })).sink = ["Ann plays", "Ann greets"] := by
  have hnamed : Sample.game.Named := ⟨by decide, by
    simp [Sample.game, Game.names]⟩
  have hspares : ∀ s ∈ (Call.action (.int 1) (.text "play") (.object [("at", .int 0)])).steps
      Sample.greeting Sample.game, s.Spares .name Sample.greeting := by decide +kernel
  have hsink : (Play.runOf (Play.runAction Sample.greeting (.int 1) (.text "play")
      (.object [("at", .int 0)]) { game := Sample.game })).sink = ["Ann plays", "Ann greets"] := by
    decide +kernel
  obtain ⟨hplay, -⟩ := actor_irrelevant Sample.greeting Sample.greeting_omits Sample.game hnamed
    (.int 1) .null
  refine ⟨Sample.greeting_omits, hnamed, hspares, ?_⟩
  rwa [← hplay (.text "play") (.object [("at", .int 0)]) _ rfl hspares]

end CardRules
