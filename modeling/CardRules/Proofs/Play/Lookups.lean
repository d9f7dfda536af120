import CardRules.Proofs.Play.Causes

/-!
# Strict and lenient look-ups

A document may be played with strict look-ups, where an id that no player has is an error, or with
lenient ones, where it means the first player. A strict run keeps abreast of the lenient one
(`Abreast`): it takes the same steps to the same end, or it ends where a look-up fails, in the game
that the lenient run has at that step. So strictness only adds failures
(`strict_only_adds_failures`).
-/

namespace CardRules

namespace Document

/-- The document with strict look-ups. -/
def strictly (d : Document) : Rulebook := { document := d, strict := true }

/-- The document with lenient look-ups. -/
def leniently (d : Document) : Rulebook := { document := d, strict := false }

end Document

/-- The cause is an id that no player has. -/
def Cause.MissesPlayer : Cause → Prop
  | .playerNotFound _ => True
  | _ => False

instance : DecidablePred Cause.MissesPlayer
  | .playerNotFound _ => .isTrue trivial
  | .ruleNotFound _ _ | .phaseNotAllowed _ _ _ | .actionNotAllowed _ _
  | .conditionNotSatisfied _ _ | .unsupportedOperation _ | .unsupportedReference _
  | .unsupportedTarget _ | .missingParameter _ | .invalidIndex _ _ | .invalidExpression _ _
  | .malformedEffect _ | .invalidScore _ _ => .isFalse id

theorem Cause.MissesPlayer.eq {c : Cause} (h : c.MissesPlayer) : ∃ id, c = .playerNotFound id := by
  cases c with
  | playerNotFound id => exact ⟨id, rfl⟩
  | _ => exact h.elim

/-! ## Operations -/

namespace Play

variable {α β : Type} {r : Run}

/-- The end is a failure, for an id that no player has. -/
def Missed : EStateM.Result Failure Run α → Prop
  | .error (.rule e) _ => e.cause.MissesPlayer
  | .error (.fault _) _ | .ok _ _ => False

instance : DecidablePred (@Missed α)
  | .error (.rule e) _ => inferInstanceAs (Decidable e.cause.MissesPlayer)
  | .error (.fault _) _ | .ok _ _ => .isFalse id

/-- The strict step `x` fails to find a player before it changes anything, or it finds all that it
looks for and does what the lenient step `y` does. -/
def Agrees (r : Run) (x y : Play α) : Prop :=
  (∃ id, x r = .error (.of (.playerNotFound id)) r) ∨ x r = y r ∧ ¬ Missed (x r)

theorem Raises.slot (a : Nat) (i : Value) :
    Raises (¬ ·.MissesPlayer) (Play.requiredSlot a i) := .requiredSlot (fun _ _ => id) a i

namespace Agrees

theorem refl {x : Play α} (hx : Raises (¬ ·.MissesPlayer) x) : Agrees r x x := by
  refine .inr ⟨rfl, ?_⟩
  cases h : x r with
  | ok a r' => exact nofun
  | error e r' =>
    cases e with
    | fault f => exact nofun
    | rule e => exact (hx r e r' h).1

theorem bind {x y : Play α} {f k : α → Play β} (hreads : ReadsAt r x) (hx : Agrees r x y)
    (hf : ∀ a, Agrees r (f a) (k a)) : Agrees r (x >>= f) (y >>= k) := by
  rcases hx with ⟨id, hx⟩ | ⟨hxy, hmiss⟩
  · exact .inl ⟨id, bind_of_error hx⟩
  rcases hreads with ⟨a, hx⟩ | ⟨e, hx⟩
  · unfold Agrees
    rw [bind_of_ok hx, bind_of_ok (hxy ▸ hx)]
    exact hf a
  · refine .inr ⟨by rw [bind_of_error hx, bind_of_error (hxy ▸ hx)], ?_⟩
    rw [hx] at hmiss
    rw [bind_of_error hx]
    cases e <;> exact hmiss

variable {d : Document} {c : Circumstances}

theorem seatOf (ref : String) : Agrees r (seatOf d.strictly c ref) (seatOf d.leniently c ref) := by
  refine .bind .game (.refl (.of_faultsOnly .game)) fun g => ?_
  have hturn (seat? : Except Fault Nat) : Agrees r (orFault seat?) (orFault seat?) :=
    .refl (.orFault seat?)
  unfold Game.resolveSeat?
  split
  · exact hturn _
  split
  · exact hturn _
  dsimp only
  split
  · exact .refl (.pure _)
  · exact .inl ⟨_, rfl⟩

theorem swapSides (fromPlayer toPlayer : String) (fromIndex toIndex : Option String) :
    Agrees r (swapSides d.strictly c fromPlayer toPlayer fromIndex toIndex)
      (swapSides d.leniently c fromPlayer toPlayer fromIndex toIndex) := by
  refine .bind (.seatOf _ _ _) (.seatOf fromPlayer) fun a => ?_
  refine .bind (.seatOf _ _ _) (.seatOf toPlayer) fun a' => .refl ?_
  have hindex (param : Option String) : Raises (¬ ·.MissesPlayer) (requiredIndex c param) :=
    .requiredIndex (fun _ => id) c param
  refine .bind (hindex fromIndex) fun i => .bind (hindex toIndex) fun i' => ?_
  exact .bind (.slot a i) fun n => .bind (.slot a' i') fun n' => .pure _

end Agrees

/-- An operation fails to find a player, or does the same as with lenient look-ups. -/
theorem perform_agrees (d : Document) (c : Circumstances) (o : Operation) (r : Run) :
    Agrees r (perform d.strictly c o) (perform d.leniently c o) := by
  cases o with
  | swapCards fromPlayer toPlayer fromIndex toIndex reveal =>
    exact .bind (.swapSides _ _ _ _ _ _) (.swapSides _ _ _ _) fun s =>
      .refl (.of_faultsOnly (.swapFound reveal s))
  | swapCardsWithPeek fromPlayer toPlayer fromIndex toIndex =>
    exact .bind (.swapSides _ _ _ _ _ _) (.swapSides _ _ _ _) fun s =>
      .refl (.of_faultsOnly (.peekFound s))
  | revealCard target indexParam =>
    refine .bind (.seatOf _ _ _) (.seatOf target) fun a => .refl (.bind (.orFault _) fun i => ?_)
    exact .bind (.slot a i) fun n => .of_faultsOnly (.revealFound a n)
  | _ =>
    refine .refl ((perform_raises d.strictly c _).mono fun cause hcause hmiss => ?_)
    obtain ⟨id, rfl⟩ := hmiss.eq
    exact hcause

end Play

/-! ## What effects come down to -/

namespace Rulebook

variable {b : Rulebook} {d : Document}

theorem failing?_strictly (g : Game) (c : Circumstances) (conditions : List String) :
    d.strictly.failing? g c conditions = d.leniently.failing? g c conditions := by
  induction conditions with
  | nil => rfl
  | cons condition rest ih =>
    rw [failing?, failing?, ih]
    rfl

theorem checkedAction?_strictly : d.strictly.checkedAction? = d.leniently.checkedAction? := by
  funext g actor id
  unfold checkedAction?
  simp only [failing?_strictly]
  rfl

theorem checkedAbility?_strictly : d.strictly.checkedAbility? = d.leniently.checkedAbility? := by
  funext g actor id params
  unfold checkedAbility?
  simp only [failing?_strictly]
  rfl

theorem abilityDescent?_strictly :
    d.strictly.abilityDescent? = d.leniently.abilityDescent? := by
  funext g actor id params
  rw [abilityDescent?, checkedAbility?_strictly, abilityDescent?]

/-- Strictness is not in what an effect comes down to. -/
theorem descent?_strictly : d.strictly.descent? = d.leniently.descent? := by
  have htriggered : d.strictly.triggeredDescent? = d.leniently.triggeredDescent? := by
    funext g actor found?
    unfold triggeredDescent?
    rw [abilityDescent?_strictly]
  have heffect : d.strictly.effectDescent? = d.leniently.effectDescent? := by
    funext c g e
    cases e with
    | operation o => rfl
    | branch condition yes no => rfl
    | cardAbility indexParam =>
      change d.strictly.cardDescent? c g indexParam = d.leniently.cardDescent? c g indexParam
      rw [cardDescent?_eq, cardDescent?_eq, htriggered]
      rfl
  funext c g raw
  rw [descent?, heffect, descent?]

end Rulebook

theorem GateError.findsPlayer {id : Value} {e : RuleError} (h : GateError id e) :
    ¬ e.cause.MissesPlayer := by
  cases h <;> exact fun h => h

theorem Rulebook.descent?_findsPlayer {b : Rulebook} {c : Circumstances} {g : Game}
    {raw : RawEffect} {e : RuleError} (h : b.descent? c g raw = .error (.rule e)) :
    ¬ e.cause.MissesPlayer := by
  rcases descent?_error h with h | ⟨_, _, _, _, h⟩ | ⟨_, _, _, _, _, h⟩
  · rcases (CheckedEffect.ofRaw?_error h).1 with ⟨op, h⟩ | ⟨details, h⟩ <;> rw [h] <;> exact id
  · obtain ⟨text, reason, rfl⟩ := holds?_error h
    exact id
  · exact (checkedAbility?_error h).findsPlayer

/-! ## Runs abreast -/

/-- In strict look-ups the step looks for a player that there is not, and leaves the game alone. -/
def Step.Misses (d : Document) (s : Step) : Prop :=
  ∃ id, s.result d.strictly = .error (.of (.playerNotFound id)) { game := s.game }

/-- A strict run keeps abreast of a lenient one, each given by its steps and its end: they are the
same, and no look-up fails; or the strict one ends where one fails, with the game which the lenient
one has at that step. -/
inductive Abreast (d : Document) (ss : List Step) (res : EStateM.Result Failure Run Unit)
    (ss' : List Step) (res' : EStateM.Result Failure Run Unit) : Prop
  | together (hsteps : ss' = ss) (hend : res' = res) (hfound : ¬ Play.Missed res)
  | parted (before : List Step) (s : Step) (after : List Step) (hsteps : ss = before ++ [s])
      (hsteps' : ss' = before ++ s :: after) (hmiss : s.Misses d) (hend : Play.Missed res)
      (hgame : Play.gameOf res = s.game)

namespace Play

theorem missed_joinResult {r : Run} {res : EStateM.Result Failure Run Unit} :
    Missed (r.joinResult res) ↔ Missed res := by
  cases res with
  | ok a r' => rfl
  | error e r' => cases e <;> rfl

theorem missed_renamed {f : RuleError → RuleError} (hf : ∀ e, (f e).cause = e.cause)
    {res : EStateM.Result Failure Run Unit} : Missed (renamed f res) ↔ Missed res := by
  cases res with
  | ok a r => rfl
  | error e r =>
    cases e with
    | fault f => rfl
    | rule e => simp only [Missed, renamed, Failure.mapRule, hf]

@[simp] theorem gameOf_renamed (f : RuleError → RuleError) (res : EStateM.Result Failure Run Unit) :
    gameOf (renamed f res) = gameOf res := by cases res <;> rfl

/-- A run that misses a player fails. -/
theorem Missed.error {res : EStateM.Result Failure Run Unit} (h : Missed res) :
    ∃ e r, res = .error e r := by
  cases res with
  | ok a r => exact h.elim
  | error e r => exact ⟨e, r, rfl⟩

end Play

namespace Abreast

variable {d : Document} {g : Game} {ss ss' : List Step}
  {res res' : EStateM.Result Failure Run Unit}

theorem renamed {f : RuleError → RuleError} (hf : ∀ e, (f e).cause = e.cause)
    (h : Abreast d ss res ss' res') :
    Abreast d ss (Play.renamed f res) ss' (Play.renamed f res') := by
  cases h with
  | together hsteps hend hfound =>
    exact .together hsteps (by rw [hend]) (mt (Play.missed_renamed hf).1 hfound)
  | parted before s after hsteps hsteps' hmiss hend hgame =>
    exact .parted before s after hsteps hsteps' hmiss ((Play.missed_renamed hf).2 hend)
      ((Play.gameOf_renamed f res).trans hgame)

theorem inOp (op : Value) {x y : Play Unit}
    (h : Abreast d ss (x { game := g }) ss' (y { game := g })) :
    Abreast d ss (Play.inOp op x { game := g }) ss' (Play.inOp op y { game := g }) := by
  unfold Play.inOp
  split
  · rw [Play.mapRule_apply, Play.mapRule_apply]
    exact h.renamed fun _ => rfl
  · exact h

/-- Runs that go on from the same run keep abreast. -/
theorem append (before : List Step) (r : Run) (h : Abreast d ss res ss' res') :
    Abreast d (before ++ ss) (r.joinResult res) (before ++ ss') (r.joinResult res') := by
  cases h with
  | together hsteps hend hfound =>
    exact .together (by rw [hsteps]) (by rw [hend]) (mt Play.missed_joinResult.1 hfound)
  | parted before' s after hsteps hsteps' hmiss hend hgame =>
    refine .parted (before ++ before') s after ?_ ?_ hmiss (Play.missed_joinResult.2 hend)
      ((Play.gameOf_joinResult r res).trans hgame)
    · rw [hsteps, List.append_assoc]
    · rw [hsteps', List.append_assoc]

theorem leaf (d : Document) (l : Leaf) (g : Game) :
    Abreast d [⟨l, g⟩] (l.perform d.strictly { game := g }) [⟨l, g⟩]
      (l.perform d.leniently { game := g }) := by
  rcases Play.perform_agrees d l.circumstances l.operation { game := g } with ⟨id, h⟩ | ⟨h, hfound⟩
  · have hstrict : l.perform d.strictly { game := g } =
        .error (.of (.playerNotFound id)) { game := g } := h
    rw [hstrict]
    exact .parted [] ⟨l, g⟩ [] rfl rfl ⟨id, h⟩ trivial rfl
  · exact .together rfl h.symm hfound

theorem descend {nested nested' : Play.Nested}
    {steps steps' : Circumstances → List RawEffect → Game → List Step}
    (hn : ∀ c raws g, Abreast d (steps c raws g) (nested c raws { game := g }) (steps' c raws g)
      (nested' c raws { game := g }))
    (g : Game) (d? : Except Failure Descent)
    (herror : ∀ e, d? = .error (.rule e) → ¬ e.cause.MissesPlayer) :
    Abreast d (Play.stepsOfDescent steps g d?)
      ((Play.lift d? >>= Play.descend d.strictly nested) { game := g })
      (Play.stepsOfDescent steps' g d?)
      ((Play.lift d? >>= Play.descend d.leniently nested') { game := g }) := by
  match d? with
  | .error (.fault f) => exact .together rfl rfl id
  | .error (.rule e) => exact .together rfl rfl (herror e rfl)
  | .ok (.leaf l) => exact .leaf d l g
  | .ok (.list none c raws) => exact hn c raws g
  | .ok (.list (some id) c raws) =>
    have h := (hn c raws g).renamed (f := RuleError.inRule id) fun _ => rfl
    rwa [← Play.mapRule_apply, ← Play.mapRule_apply] at h
  | .ok .nothing => exact .together rfl rfl id

/-- Effects one after another keep abreast, if each does. -/
theorem inOrder {one one' : RawEffect → Game → List Step} {x y : RawEffect → Play Unit}
    (hx : ∀ raw, Play.Framed (x raw)) (hy : ∀ raw, Play.Framed (y raw))
    (hone : ∀ raw g, Abreast d (one raw g) (x raw { game := g }) (one' raw g)
      (y raw { game := g })) (raws : List RawEffect) (g : Game) :
    Abreast d (Play.stepsInOrder one x raws g) (raws.forM x { game := g })
      (Play.stepsInOrder one' y raws g) (raws.forM y { game := g }) := by
  induction raws generalizing g with
  | nil => exact .together rfl rfl id
  | cons raw raws ih =>
    have hcons (z : RawEffect → Play Unit) : (raw :: raws).forM z { game := g } =
        (z raw >>= fun _ => raws.forM z) { game := g } := rfl
    rw [hcons, hcons, Play.bind_apply, Play.bind_apply, Play.stepsInOrder, Play.stepsInOrder]
    cases hone raw g with
    | together hsteps hend hfound =>
      rw [hsteps, hend]
      cases hr : x raw { game := g } with
      | error e r =>
        rw [hr] at hfound
        exact .together rfl rfl hfound
      | ok u r =>
        dsimp only
        rw [Play.framed_forM hx r, Play.framed_forM hy r]
        exact (ih r.game).append (one raw g) r
    | parted before s after hsteps hsteps' hmiss hend hgame =>
      -- the strict run is over, and the lenient one may go on
      obtain ⟨e, r, hr⟩ := hend.error
      rw [hr] at hend hgame
      rw [hr, hsteps, hsteps', List.append_nil]
      exact .parted before s _ rfl (List.append_assoc before (s :: after) _) hmiss hend hgame

end Abreast

/-- A strict list of effects keeps abreast of the lenient one. -/
theorem Play.effects_abreast (d : Document) (n : Nat) :
    ∀ (c : Circumstances) (raws : List RawEffect) (g : Game),
      Abreast d (steps d.strictly n c raws g) (effects d.strictly n c raws { game := g })
        (steps d.leniently n c raws g) (effects d.leniently n c raws { game := g }) := by
  induction n with
  | zero =>
    intro c raws g
    cases raws <;> exact .together rfl rfl id
  | succ n ih =>
    intro c raws g
    rw [effects_succ, effects_succ]
    refine .inOrder (framed_rawEffect _ (framed_effects _ n) c)
      (framed_rawEffect _ (framed_effects _ n) c) (fun raw g => ?_) raws g
    rw [rawEffect_eq, rawEffect_eq, Rulebook.descent?_strictly]
    exact (Abreast.descend ih g _ fun e => Rulebook.descent?_findsPlayer).inOp _

/-! ## Calls -/

namespace Call

variable {d : Document} {g : Game}

theorem descent?_strictly (d : Document) (g : Game) (call : Call) :
    call.descent? d.strictly g = call.descent? d.leniently g := by
  cases call with
  | action actor id params =>
    unfold descent?
    dsimp only
    rw [Rulebook.checkedAction?_strictly]
  | ability actor id params =>
    unfold descent?
    dsimp only
    rw [Rulebook.abilityDescent?_strictly]
  | effect c raw => rfl

/-- A strict call keeps abreast of the lenient one. -/
theorem abreast (d : Document) (g : Game) (call : Call) :
    Abreast d (call.steps d.strictly g) (call.play d.strictly { game := g })
      (call.steps d.leniently g) (call.play d.leniently { game := g }) := by
  have hbudget (depth : Nat) : d.leniently.budget depth = d.strictly.budget depth := by
    have hdocument : d.leniently.document = d.strictly.document := rfl
    rw [Rulebook.budget, Rulebook.budget, hdocument]
  have hn (c : Circumstances) (raws : List RawEffect) (g : Game) :
      Abreast d (Play.steps d.strictly (d.strictly.budget (branchDepth raws)) c raws g)
        (Play.runEffects d.strictly c raws { game := g })
        (Play.steps d.leniently (d.leniently.budget (branchDepth raws)) c raws g)
        (Play.runEffects d.leniently c raws { game := g }) := by
    unfold Play.runEffects
    rw [hbudget]
    exact Play.effects_abreast d _ c raws g
  have hdescend := Abreast.descend hn g (call.descent? d.leniently g) fun e h => by
    obtain ⟨id, -, hgate⟩ := descent?_error h
    exact hgate.findsPlayer
  rw [play_eq, play_eq, steps, steps]
  dsimp only
  rw [descent?_strictly]
  exact hdescend

end Call

/-- How calls end, one after another, each with what it alone reported. -/
def ends (b : Rulebook) : Game → List Call → List (EStateM.Result Failure Run Unit)
  | _, [] => []
  | g, call :: calls => call.play b { game := g } :: ends b (g.afterCall b call) calls

/-- Strict look-ups only add failures. Take any calls in which no strict look-up fails to find a
player: they end the same way with lenient look-ups, in the same games, with the same events, texts
and errors. If in a further call one does fail, then the lenient call comes to the same step by the
same steps before it, and the strict one ends there and leaves the game which that step found. -/
theorem strict_only_adds_failures (d : Document) (g : Game) (calls : List Call)
    (hfound : ∀ res ∈ ends d.strictly g calls, ¬ Play.Missed res) :
    ends d.leniently g calls = ends d.strictly g calls ∧
      g.after d.leniently calls = g.after d.strictly calls ∧
      ∀ call, Play.Missed (call.play d.strictly { game := g.after d.strictly calls }) →
        ∃ before s after,
          call.steps d.strictly (g.after d.strictly calls) = before ++ [s] ∧
          call.steps d.leniently (g.after d.leniently calls) = before ++ s :: after ∧
          s.Misses d ∧ g.after d.strictly (calls ++ [call]) = s.game := by
  induction calls generalizing g with
  | nil =>
    simp only [ends, Game.after, Game.afterCall, List.nil_append, List.foldl_cons, List.foldl_nil,
      true_and]
    intro call hmiss
    cases call.abreast d g with
    | together hsteps hend hfound => exact absurd hmiss hfound
    | parted before s after hsteps hsteps' hmiss hend hgame =>
      exact ⟨before, s, after, hsteps, hsteps', hmiss, hgame⟩
  | cons call calls ih =>
    obtain ⟨hfirst, hrest⟩ := List.forall_mem_cons.1 hfound
    have hend : call.play d.leniently { game := g } = call.play d.strictly { game := g } := by
      cases call.abreast d g with
      | together hsteps hend hfound => exact hend
      | parted before s after hsteps hsteps' hmiss hend hgame => exact absurd hend hfirst
    have hgame : g.afterCall d.leniently call = g.afterCall d.strictly call :=
      congrArg Play.gameOf hend
    have hcons (b : Rulebook) (cs : List Call) :
        g.after b (call :: cs) = (g.afterCall b call).after b cs := rfl
    obtain ⟨hends, hrestNext⟩ := ih (g.afterCall d.strictly call) hrest
    refine ⟨by rw [ends, ends, hend, hgame, hends], ?_⟩
    simpa only [List.cons_append, hcons, hgame] using hrestNext

namespace Sample

/-- Marks the round and then shows a card of a player who is not there, or else of the first. -/
def revealStranger : Call :=
  .effect { playerId := .int 1, params := .object [("at", .int 0)] }
    [("op", .text "if"),
     ("then", .list
       [.object [("op", .text "setFlag"), ("target", .text "round"), ("flag", .text "marked"),
          ("value", .bool true)],
        .object [("op", .text "revealCard"), ("target", .text "7"), ("handIndexParam", .text "at")],
        .object [("op", .text "revealAllHands")]])]

end Sample

/-- The trade fails for another reason, and goes on alike. The strict call then stops at the second
of the three effects that the lenient one carries out, with the flag written. -/
theorem strict_only_adds_failures_sample :
    let d := Sample.rulebook.document
    (∀ res ∈ ends d.strictly Sample.game [Sample.trade], ¬ Play.Missed res) ∧
      ends d.leniently Sample.game [Sample.trade] = ends d.strictly Sample.game [Sample.trade] ∧
      Play.Missed (Sample.revealStranger.play d.strictly
        { game := Sample.game.after d.strictly [Sample.trade] }) ∧
      (Sample.revealStranger.steps d.leniently
        (Sample.game.after d.leniently [Sample.trade])).length = 3 ∧
      ∃ s ∈ Sample.revealStranger.steps d.leniently
          (Sample.game.after d.leniently [Sample.trade]),
        s.Misses d ∧
          Sample.game.after d.strictly [Sample.trade, Sample.revealStranger] = s.game := by
  intro d
  have hfound : ∀ res ∈ ends d.strictly Sample.game [Sample.trade], ¬ Play.Missed res := by
    decide +kernel
  have hmissed : Play.Missed (Sample.revealStranger.play d.strictly
      { game := Sample.game.after d.strictly [Sample.trade] }) := by decide +kernel
  obtain ⟨hends, -, hnext⟩ := strict_only_adds_failures d Sample.game [Sample.trade] hfound
  obtain ⟨before, s, after, -, hsteps, hmisses, hgame⟩ := hnext Sample.revealStranger hmissed
  refine ⟨hfound, hends, hmissed, by decide +kernel, s, ?_, hmisses, hgame⟩
  rw [hsteps]
  exact List.mem_append_right _ List.mem_cons_self

end CardRules
