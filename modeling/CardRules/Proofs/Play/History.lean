import CardRules.Proofs.Play.Trace

/-!
# Calls and histories

What a host can do to a game, as data: run an action, run an ability, or apply a single effect. A
game goes through a sequence of calls (`Game.after`), each on what the one before left, whether that
ended well or failed; `history` is the list of all leaf effects the calls started. What every step
keeps, every such sequence keeps (`history_induction`).
-/

namespace CardRules

/-- A call on a game. -/
inductive Call where
  | action (actor id params : Value)
  | ability (actor id params : Value)
  /-- A single effect in given circumstances, outside any rule. -/
  | effect (c : Circumstances) (raw : RawEffect)
  deriving DecidableEq, Repr

namespace Call

/-- Carries out a call. -/
def play (b : Rulebook) : Call → Play Unit
  | .action actor id params => Play.runAction b actor id params
  | .ability actor id params => Play.runAbility b actor id params
  | .effect c raw => Play.runEffects b c [raw]

/-- The effects that a call runs in a game, its rule's gate being read. -/
def descent? (b : Rulebook) (g : Game) : Call → Except Failure Descent
  | .action actor id params => do
    let id ← Rulebook.idText? .action id
    let r ← b.checkedAction? g actor id
    let params ← orFault params.asObject?
    return .list (some id) { playerId := actor, params } r.effects
  | .ability actor id params => do
    let params ← orFault params.asObject?
    let id ← Rulebook.idText? .ability id
    b.abilityDescent? g actor id params
  | .effect c raw => .ok (.list none c [raw])

theorem play_eq (b : Rulebook) (call : Call) (r : Run) :
    call.play b r =
      (Play.lift (call.descent? b r.game) >>= Play.descend b (Play.runEffects b)) r := by
  cases call with
  | action actor id params =>
    refine Play.reading_eq fun id => ?_
    rw [Play.bind_of_ok (Play.game_apply r)]
    exact Play.reading_eq fun r' => Play.reading_eq fun params => rfl
  | ability actor id params =>
    refine Play.reading_eq fun params => Play.reading_eq fun id => ?_
    exact Play.ability_eq b _ actor id params r
  | effect c raw => rfl

/-- The leaf effects that a call starts. -/
def steps (b : Rulebook) (g : Game) (call : Call) : List Step :=
  Play.stepsOfDescent (fun c raws g => Play.steps b (b.budget (branchDepth raws)) c raws g) g
    (call.descent? b g)

/-- The steps of a call lead to how the call ends. -/
theorem walk (b : Rulebook) (g : Game) (call : Call) :
    Walk b g (call.steps b g) (call.play b { game := g }) := by
  have hn (c : Circumstances) (raws : List RawEffect) (g : Game) :
      Walk b g (Play.steps b (b.budget (branchDepth raws)) c raws g)
        (Play.runEffects b c raws { game := g }) := Play.walk_effects b _ c raws g
  rw [play_eq]
  exact Walk.descend hn g _

theorem framed_play (b : Rulebook) (call : Call) : Play.Framed (call.play b) := by
  intro r
  rw [play_eq, play_eq]
  refine Play.framed_bind (Play.framed_lift _) (Play.framed_descend b fun c raws => ?_) r
  exact Play.framed_effects b _ c raws

end Call

/-- The game that an end of a run leaves. -/
def Play.gameOf {α : Type} : EStateM.Result Failure Run α → Game
  | .ok _ r | .error _ r => r.game

@[simp] theorem Play.gameOf_joinResult {α : Type} (r : Run) (res : EStateM.Result Failure Run α) :
    gameOf (r.joinResult res) = gameOf res := by cases res <;> rfl

theorem Step.game_left (b : Rulebook) (s : Step) :
    (s.left b).game = Play.gameOf (s.result b) := by
  unfold left Play.gameOf
  cases s.result b <;> rfl

namespace Game

/-- The game after a call, also after one that failed. -/
def afterCall (b : Rulebook) (g : Game) (call : Call) : Game :=
  Play.gameOf (call.play b { game := g })

/-- The game after calls one after another. -/
def after (b : Rulebook) (g : Game) (calls : List Call) : Game := calls.foldl (afterCall b) g

end Game

/-- The leaf effects that calls start, from the first call on. -/
def history (b : Rulebook) : Game → List Call → List Step
  | _, [] => []
  | g, call :: calls => call.steps b g ++ history b (g.afterCall b call) calls

theorem history_append (b : Rulebook) (calls more : List Call) (g : Game) :
    history b g (calls ++ more) = history b g calls ++ history b (g.after b calls) more := by
  induction calls generalizing g with
  | nil => rfl
  | cons call calls ih => simp [history, ih, Game.after]

/-- What holds at the start of a walk and is kept by its steps holds at its end. `M past g` speaks
of the steps so far and the game they left. -/
theorem Walk.induction {b : Rulebook} {M : List Step → Game → Prop} {g : Game} {ss : List Step}
    {res : EStateM.Result Failure Run Unit} (h : Walk b g ss res) :
    ∀ past, (∀ past, ∀ s ∈ ss, M past s.game → M (past ++ [s]) (s.left b).game) → M past g →
      M (past ++ ss) (Play.gameOf res) := by
  induction h with
  | done g => intro past _ hg; simpa [Play.gameOf] using hg
  | refused g e => intro past _ hg; simpa [Play.gameOf] using hg
  | @failed s e r f hs =>
    intro past hstep hg
    have := hstep past s (by simp) hg
    rwa [Step.left_of_error hs] at this
  | @next s r ss res hs hw ih =>
    intro past hstep hg
    have hs' := hstep past s (by simp) hg
    rw [Step.left_of_ok hs] at hs'
    have := ih (past ++ [s]) (fun past t ht => hstep past t (List.mem_cons_of_mem _ ht)) hs'
    simpa using this

/-- What holds of a game and is kept by every leaf effect holds after any calls. -/
theorem history_induction {b : Rulebook} {M : List Step → Game → Prop} (calls : List Call) :
    ∀ (past : List Step) (g : Game),
      (∀ past, ∀ s ∈ history b g calls, M past s.game → M (past ++ [s]) (s.left b).game) →
      M past g → M (past ++ history b g calls) (g.after b calls) := by
  induction calls with
  | nil => intro past g _ hg; simpa [history, Game.after] using hg
  | cons call calls ih =>
    intro past g hstep hg
    have hcall : M (past ++ call.steps b g) (g.afterCall b call) :=
      (call.walk b g).induction past
        (fun past s hs => hstep past s (List.mem_append_left _ hs)) hg
    have := ih (past ++ call.steps b g) (g.afterCall b call)
      (fun past s hs => hstep past s (List.mem_append_right _ hs)) hcall
    simpa [history, Game.after] using this

/-! ## A small match -/

namespace Sample

/-- Two ranks of two suits. The one action draws, trades, sets a flag, triggers the ability of the
card it got, which shows it, and then fails in a branch, before its last effect. -/
def rulebook : Rulebook where
  document := {
    metadata := {
      deck := ⟨["A", "2"], ["S", "H"]⟩
      setup := ⟨1, some false, none⟩
      cardValues := []
      cardAbilities := [("AH", "show")]
      winScore := none
      normal := [] }
    actions := [("trade", {
      phases := none
      conditions := []
      effects :=
        [[("op", .text "moveCard"), ("from", .text "deck"), ("to", .text "currentPlayer.hand")],
         [("op", .text "swapCards"), ("fromIndexParam", .text "mine"),
          ("toIndexParam", .text "theirs")],
         [("op", .text "setFlag"), ("target", .text "currentPlayer"),
          ("flag", .text "hasJustDrawn"), ("value", .bool true)],
         [("op", .text "runAbilityForCard"), ("handIndexParam", .text "mine")],
         [("op", .text "if"), ("then", .list [.object [("op", .text "revealCard")]])],
         [("op", .text "revealAllHands")]] })]
    abilities := [("show", {
      phases := none
      conditions := []
      effects := [[("op", .text "revealCard"), ("handIndexParam", .text "handIndex")]] })]
    normal := .null }

/-- Two players with a card each. -/
def game : Game where
  deck := [.text "2S", .text "2H"]
  players :=
    [{ id := .int 1, name := .text "Ann", hand := .list [.text "AS"],
       known := .list [.bool false] },
     { id := .int 2, name := .text "Bob", hand := .list [.text "AH"],
       known := .list [.bool false] }]

/-- The action. -/
def trade : Call :=
  .action (.int 1) (.text "trade") (.object [("mine", .int 0), ("theirs", .int 0)])

/-- Turns a hand over, onto itself. -/
def turnOver : Call :=
  .effect { playerId := .int 1 }
    [("op", .text "moveCard"), ("from", .text "currentPlayer.hand"),
     ("to", .text "currentPlayer.hand"), ("count", .int 3)]

end Sample

/-- The ability's effect comes before those behind it, and nothing comes behind the failure. -/
example : (history Sample.rulebook Sample.game [Sample.trade]).map
    (fun s => (s.leaf.operation, s.completes Sample.rulebook)) =
      [(.moveCard "deck" "currentPlayer.hand" 1 none, true),
       (.swapCards "currentPlayer" "nextPlayer" (some "mine") (some "theirs") false, true),
       (.setFlag "currentPlayer" "hasJustDrawn" (.bool true), true),
       (.revealCard "currentPlayer" (some "handIndex"), true),
       (.revealCard "currentPlayer" none, false)] := by
  decide +kernel

end CardRules
