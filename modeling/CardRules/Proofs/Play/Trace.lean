import CardRules.Play.Descent
import CardRules.Proofs.Play.Sequencing

/-!
# Traces

A *leaf* effect is one that acts on the game at once. `steps` lists the leaf effects that a list of
effects starts, depth first in document order, each with the circumstances it runs in and the game
it finds; the effects of a branch taken and of an ability triggered come before what follows them.

* `rawEffect_eq`: an effect reads the game (`descent?`) and then carries out an operation, runs one
  nested list or does nothing. All conditions and gates are in the reading.
* `walk_effects`: the steps of a list of effects lead to how it ends (`Walk`). Each step finds the
  game the step before left, all but the last end well, and what the list reports is what the steps
  report, in order.
-/

namespace CardRules

/-! ## What an effect comes down to -/

namespace Play

/-- Runs what an effect comes down to. -/
def descend (b : Rulebook) (nested : Nested) : Descent → Play Unit
  | .leaf l => l.perform b
  | .list none c' raws => nested c' raws
  | .list (some id) c' raws => inRule id (nested c' raws)
  | .nothing => pure ()

/-- A reading of the game that may fail, with what follows it, is one reading. -/
theorem reading_eq {α : Type} {x : Except Failure α} {f : α → Play Unit}
    {k : α → Except Failure Descent} {d : Descent → Play Unit} {r : Run}
    (h : ∀ a, f a r = (lift (k a) >>= d) r) : (lift x >>= f) r = (lift (x >>= k) >>= d) r := by
  cases x with
  | error e => rfl
  | ok a => exact h a

theorem player_bind {α : Type} (seat : Nat) (f : Player → Play α) (r : Run) :
    (player seat >>= f) r = (orFault (r.game.player? seat) >>= f) r := by
  simp only [player, bind_apply, game_apply]

theorem ability_eq (b : Rulebook) (nested : Nested) (actor : Value) (id : String) (params : Value)
    (r : Run) :
    ability b nested actor id params r =
      (lift (b.abilityDescent? r.game actor id params) >>= descend b nested) r := by
  unfold ability Rulebook.abilityDescent?
  rw [bind_of_ok (game_apply r)]
  exact reading_eq fun _ => rfl

theorem boundAbility_eq (b : Rulebook) (nested : Nested) (actor index card : Value) (r : Run) :
    boundAbility b nested actor index card r =
      (lift (b.boundDescent? r.game actor index card) >>= descend b nested) r := by
  unfold boundAbility Rulebook.boundDescent?
  refine reading_eq fun id? => ?_
  rcases id? with _ | id
  · rfl
  · by_cases hid : id = ""
    · subst hid
      rfl
    · simp only
      exact ability_eq b nested actor _ _ r

theorem cardAbility_eq (b : Rulebook) (nested : Nested) (c : Circumstances)
    (indexParam : Option String) (r : Run) :
    cardAbility b nested c indexParam r =
      (lift (b.cardDescent? c r.game indexParam) >>= descend b nested) r := by
  unfold cardAbility Rulebook.cardDescent?
  refine reading_eq fun index => ?_
  rw [bind_of_ok (game_apply r)]
  refine reading_eq fun seat => ?_
  rw [player_bind]
  refine reading_eq fun p => reading_eq fun size => ?_
  cases slot? index size with
  | none => exact boundAbility_eq b nested c.playerId index .null r
  | some n => exact reading_eq fun card => boundAbility_eq b nested c.playerId index card r

theorem effect_eq (b : Rulebook) (nested : Nested) (c : Circumstances) (e : Effect) (r : Run) :
    effect b nested c e r = (lift (b.effectDescent? c r.game e) >>= descend b nested) r := by
  cases e with
  | operation o => rfl
  | branch condition yes no =>
    unfold effect
    dsimp only
    rw [bind_of_ok (game_apply r)]
    exact reading_eq fun _ => rfl
  | cardAbility indexParam => exact cardAbility_eq b nested c indexParam r

theorem inOp_congr (op : Value) {x y : Play Unit} {r : Run} (h : x r = y r) :
    inOp op x r = inOp op y r := by
  cases op <;> simp [inOp, mapRule, h]

theorem rawEffect_eq (b : Rulebook) (nested : Nested) (c : Circumstances) (raw : RawEffect)
    (r : Run) :
    rawEffect b nested c raw r =
      inOp (RawEffect.op raw) (lift (b.descent? c r.game raw) >>= descend b nested) r := by
  have h : (do
      let e ← lift ((CheckedEffect.ofRaw? raw).mapError .rule)
      effect b nested c e.effect : Play Unit) r =
      (lift (b.descent? c r.game raw) >>= descend b nested) r :=
    reading_eq fun e => effect_eq b nested c e.effect r
  exact inOp_congr _ h

/-! ## Framing of lists of effects -/

theorem framed_inOp (op : Value) {x : Play Unit} (hx : Framed x) : Framed (inOp op x) := by
  unfold inOp
  split
  · exact framed_mapRule _ hx
  · exact hx

theorem framed_descend (b : Rulebook) {nested : Nested}
    (hn : ∀ c raws, Framed (nested c raws)) (d : Descent) : Framed (descend b nested d) := by
  cases d with
  | leaf l => exact framed_perform b l.circumstances l.operation
  | list rule c' raws =>
    cases rule with
    | none => exact hn c' raws
    | some id => exact framed_mapRule _ (hn c' raws)
  | nothing => exact framed_pure ()

theorem framed_rawEffect (b : Rulebook) {nested : Nested}
    (hn : ∀ c raws, Framed (nested c raws)) (c : Circumstances) (raw : RawEffect) :
    Framed (rawEffect b nested c raw) := by
  intro r
  rw [rawEffect_eq, rawEffect_eq]
  exact framed_inOp _ (framed_bind (framed_lift _) (framed_descend b hn)) r

theorem effects_succ (b : Rulebook) (n : Nat) (c : Circumstances) (raws : List RawEffect) :
    effects b (n + 1) c raws = raws.forM (rawEffect b (effects b n) c) := by
  cases raws <;> rfl

theorem framed_effects (b : Rulebook) (n : Nat) :
    ∀ (c : Circumstances) (raws : List RawEffect), Framed (effects b n c raws) := by
  induction n with
  | zero =>
    intro c raws
    cases raws with
    | nil => exact framed_pure ()
    | cons _ _ => exact framed_throw _
  | succ n ih =>
    intro c raws
    rw [effects_succ]
    exact framed_forM (framed_rawEffect b ih c)

end Play

/-! ## Steps -/

/-- A leaf effect that was started, and the game it found. -/
structure Step where
  leaf : Leaf
  game : Game
  deriving DecidableEq, Repr

namespace Step

/-- How a step ends. -/
def result (b : Rulebook) (s : Step) : EStateM.Result Failure Run Unit :=
  s.leaf.perform b { game := s.game }

/-- Whether a step ends well. -/
def completes (b : Rulebook) (s : Step) : Bool :=
  match s.result b with
  | .ok _ _ => true
  | .error _ _ => false

/-- What a step leaves, also when it fails: the game, and what it alone reported. -/
def left (b : Rulebook) (s : Step) : Run :=
  match s.result b with
  | .ok _ r => r
  | .error _ r => r

theorem completes_of_ok {b : Rulebook} {s : Step} {r : Run} (h : s.result b = .ok () r) :
    s.completes b = true := by simp [completes, h]

theorem completes_of_error {b : Rulebook} {s : Step} {e : Failure} {r : Run}
    (h : s.result b = .error e r) : s.completes b = false := by simp [completes, h]

theorem ok_of_completes {b : Rulebook} {s : Step} (h : s.completes b = true) :
    ∃ r, s.result b = .ok () r := by
  unfold completes at h
  split at h
  · exact ⟨_, by assumption⟩
  · cases h

theorem left_of_ok {b : Rulebook} {s : Step} {r : Run} (h : s.result b = .ok () r) :
    s.left b = r := by simp [left, h]

theorem left_of_error {b : Rulebook} {s : Step} {e : Failure} {r : Run}
    (h : s.result b = .error e r) : s.left b = r := by simp [left, h]

end Step

namespace Play

/-- The steps of effects that run one after another, `one` giving those of an effect that `x` runs.
The effects behind one that fails start none. -/
def stepsInOrder (one : RawEffect → Game → List Step) (x : RawEffect → Play Unit) :
    List RawEffect → Game → List Step
  | [], _ => []
  | raw :: raws, g =>
    one raw g ++ match x raw { game := g } with
      | .ok () r => stepsInOrder one x raws r.game
      | .error _ _ => []

/-- The steps of what an effect comes down to, `nested` giving those of a list. -/
def stepsOfDescent (nested : Circumstances → List RawEffect → Game → List Step)
    (g : Game) : Except Failure Descent → List Step
  | .ok (.leaf l) => [⟨l, g⟩]
  | .ok (.list _ c' raws) => nested c' raws g
  | .ok .nothing | .error _ => []

/-- The leaf effects that effects start in a game, depth first in document order. -/
def steps (b : Rulebook) : Nat → Circumstances → List RawEffect → Game → List Step
  | 0, _, _, _ => []
  | n + 1, c, raws, g =>
    stepsInOrder (fun raw g => stepsOfDescent (steps b n) g (b.descent? c g raw))
      (rawEffect b (effects b n) c) raws g

end Play

/-! ## Walks -/

/-- An end of a run with its rule error changed. -/
def Play.renamed {α : Type} (f : RuleError → RuleError) :
    EStateM.Result Failure Run α → EStateM.Result Failure Run α
  | .ok a r => .ok a r
  | .error e r => .error (e.mapRule f) r

theorem Play.mapRule_apply {α : Type} (f : RuleError → RuleError) (x : Play α) (r : Run) :
    mapRule f x r = renamed f (x r) := by
  unfold mapRule renamed
  cases x r <;> rfl

theorem Play.renamed_joinResult {α : Type} (f : RuleError → RuleError) (r : Run)
    (res : EStateM.Result Failure Run α) :
    renamed f (r.joinResult res) = r.joinResult (renamed f res) := by cases res <;> rfl

/-- The steps lead from the game to the end of a run that starts on it. A run fails in its last
step, or after it in a gate, a condition or the reading of an effect, which leave the game alone.
-/
inductive Walk (b : Rulebook) : Game → List Step → EStateM.Result Failure Run Unit → Prop
  | done (g : Game) : Walk b g [] (.ok () { game := g })
  | refused (g : Game) (e : Failure) : Walk b g [] (.error e { game := g })
  | failed {s : Step} {e : Failure} {r : Run} (f : RuleError → RuleError) :
      s.result b = .error e r → Walk b s.game [s] (.error (e.mapRule f) r)
  | next {s : Step} {r : Run} {ss : List Step} {res : EStateM.Result Failure Run Unit} :
      s.result b = .ok () r → Walk b r.game ss res → Walk b s.game (s :: ss) (r.joinResult res)

namespace Walk

variable {b : Rulebook} {g : Game} {ss : List Step} {res : EStateM.Result Failure Run Unit}

theorem append {r : Run} {ts : List Step} (h : Walk b g ss (.ok () r)) (ht : Walk b r.game ts res) :
    Walk b g (ss ++ ts) (r.joinResult res) := by
  generalize hok : (EStateM.Result.ok () r : EStateM.Result Failure Run Unit) = res' at h
  induction h generalizing r with
  | done g =>
    cases hok
    rw [Run.fresh_joinResult]
    exact ht
  | refused g e => cases hok
  | failed f hs => cases hok
  | @next s r' ss res' hs hw ih =>
    cases res' with
    | error e r'' => cases hok
    | ok a r'' =>
      cases hok
      rw [Run.joinResult_assoc]
      exact .next hs (ih ht rfl)

/-- The names that a rule or an operation adds to a rule error leave the steps as they are. -/
theorem renamed (f : RuleError → RuleError) (h : Walk b g ss res) :
    Walk b g ss (Play.renamed f res) := by
  induction h with
  | done g => exact .done g
  | refused g e => exact .refused g _
  | @failed s e r f' hs =>
    have he : (e.mapRule f').mapRule f = e.mapRule (f ∘ f') := by cases e <;> rfl
    simp only [Play.renamed, he]
    exact .failed _ hs
  | @next s r ss res hs _ ih =>
    rw [Play.renamed_joinResult]
    exact .next hs ih

theorem inOp (op : Value) {x : Play Unit} (h : Walk b g ss (x { game := g })) :
    Walk b g ss (Play.inOp op x { game := g }) := by
  unfold Play.inOp
  split
  · rw [Play.mapRule_apply]
    exact h.renamed _
  · exact h

/-- An operation is its own only step. -/
theorem leaf (b : Rulebook) (l : Leaf) (g : Game) :
    Walk b g [⟨l, g⟩] (l.perform b { game := g }) := by
  cases h : l.perform b { game := g } with
  | ok _ r =>
    have hw : Walk b g [⟨l, g⟩] (r.joinResult (.ok () { game := r.game })) :=
      .next (s := ⟨l, g⟩) h (.done r.game)
    simpa [Run.joinResult] using hw
  | error e r =>
    have hw : Walk b g [⟨l, g⟩] (.error (e.mapRule id) r) := .failed (s := ⟨l, g⟩) id h
    cases e <;> exact hw

/-- The steps of what an effect comes down to. -/
theorem descend {nested : Play.Nested} {steps : Circumstances → List RawEffect → Game → List Step}
    (hn : ∀ c raws g, Walk b g (steps c raws g) (nested c raws { game := g }))
    (g : Game) (d? : Except Failure Descent) :
    Walk b g (Play.stepsOfDescent steps g d?)
      ((Play.lift d? >>= Play.descend b nested) { game := g }) := by
  cases d? with
  | error e => exact .refused g e
  | ok d =>
    cases d with
    | leaf l => exact .leaf b l g
    | list rule c' raws =>
      cases rule with
      | none => exact hn c' raws g
      | some id =>
        have h := (hn c' raws g).renamed (RuleError.inRule id)
        rw [← Play.mapRule_apply] at h
        exact h
    | nothing => exact .done g

/-- The steps of effects in order are those of each effect in turn. -/
theorem inOrder {one : RawEffect → Game → List Step} {x : RawEffect → Play Unit}
    (hx : ∀ raw, Play.Framed (x raw)) (hone : ∀ raw g, Walk b g (one raw g) (x raw { game := g })) :
    ∀ (raws : List RawEffect) (g : Game),
      Walk b g (Play.stepsInOrder one x raws g) (raws.forM x { game := g })
  | [], g => .done g
  | raw :: raws, g => by
    have h := hone raw g
    have hrest : (raw :: raws).forM x { game := g } =
        (x raw >>= fun _ => raws.forM x) { game := g } := rfl
    rw [hrest, Play.bind_apply, Play.stepsInOrder]
    cases hr : x raw { game := g } with
    | error e r =>
      rw [hr] at h
      simpa using h
    | ok _ r =>
      rw [hr] at h
      dsimp only
      rw [Play.framed_forM hx r]
      exact h.append (inOrder hx hone raws r.game)

end Walk

namespace Play

/-- The steps of effects lead to how the effects end. -/
theorem walk_effects (b : Rulebook) (n : Nat) :
    ∀ (c : Circumstances) (raws : List RawEffect) (g : Game),
      Walk b g (steps b n c raws g) (effects b n c raws { game := g }) := by
  induction n with
  | zero =>
    intro c raws g
    cases raws with
    | nil => exact .done g
    | cons _ _ => exact .refused g _
  | succ n ih =>
    intro c raws g
    rw [effects_succ]
    refine Walk.inOrder (framed_rawEffect b (framed_effects b n) c) (fun raw g => ?_) raws g
    rw [rawEffect_eq]
    exact (Walk.descend ih g _).inOp _

end Play

end CardRules
