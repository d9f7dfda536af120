import CardRules.Proofs.Play.Nesting
import CardRules.Sharing

/-!
# Rules that lend nothing

A rule lends a list when it writes one into a hand or its flags (`Operation.LendsNothing` is that an
operation does not). As long as no hand holds a list of a rule and none is lent, rules are carried
out as `Play` carries them out, and nothing becomes shared (`follows_runRule`). The proof goes along
the recursion of the interpreter, with one lemma for each of its functions.
-/

namespace CardRules

/-- The operation writes no list or object into a hand or its flags. -/
def Operation.LendsNothing (g : Game) : Operation → Prop
  | .setFlag target flag value => g.slotOf? target flag = none ∨ value.scalar?.isSome = true
  | _ => True

instance (g : Game) : DecidablePred (Operation.LendsNothing g)
  | .setFlag _ _ _ => inferInstanceAs (Decidable (_ ∨ _))
  | .moveCard _ _ _ _ | .moveCardByIndex _ _ _ | .advanceTurnOrder _ | .resetTurnFlags
  | .setPhase _ | .log _ | .revealAllHands | .scoreRound | .swapCards _ _ _ _ _
  | .swapCardsWithPeek _ _ _ _ | .revealCard _ _ => .isTrue trivial

/-- The step lends no list of a rule. -/
def Step.LendsNothing (s : Step) : Prop := s.leaf.operation.LendsNothing s.game

instance (s : Step) : Decidable s.LendsNothing :=
  inferInstanceAs (Decidable (Operation.LendsNothing _ _))

theorem Sharing.release_of_held {s : Sharing} (h : s.held = []) (slot : Slot) :
    s.release slot = s := by
  obtain ⟨held, changed⟩ := s
  cases h
  rfl

namespace SharedPlay

variable {α β : Type} {r : Run} {b : Rulebook} {c : Circumstances}

/-- An end of a run, with what is shared. -/
def withSharing (s : Sharing) : EStateM.Result Failure Run α → EStateM.Result Failure SharedRun α
  | .ok a r => .ok a ⟨r, s⟩
  | .error e r => .error e ⟨r, s⟩

/-- As long as no list is shared, the step ends like a step of play and shares nothing. -/
def Follows (r : Run) (x : SharedPlay α) (y : Play α) : Prop :=
  ∀ s : Sharing, s.held = [] → x ⟨r, s⟩ = withSharing s (y r)

namespace Follows

/-! ## Steps -/

theorem pure (a : α) : Follows r (pure a) (pure a) := fun _ _ => rfl

theorem throw (e : Failure) : Follows r (throw e : SharedPlay α) (throw e) := fun _ _ => rfl

theorem plainly (x : Play α) : Follows r (plainly x) x := by
  intro s _
  unfold SharedPlay.plainly withSharing
  cases x r <;> rfl

/-- Where nothing is shared, there is nothing to settle. -/
theorem inPlace (x : Play α) : Follows r (inPlace x) x := by
  intro s hs
  have hsettled (r' : Run) : settled ⟨r, s⟩ r' = ⟨r', s⟩ := by
    rw [settled, Sharing.settle, hs]
    rfl
  unfold SharedPlay.inPlace withSharing
  cases x r <;> simp only [hsettled]

theorem bind {x : SharedPlay α} {y : Play α} {f : α → SharedPlay β} {k : α → Play β}
    (hx : Follows r x y) (hf : ∀ a r', y r = .ok a r' → Follows r' (f a) (k a)) :
    Follows r (x >>= f) (y >>= k) := by
  intro s hs
  rw [Play.bind_apply, Play.bind_apply, hx s hs]
  cases hy : y r with
  | error e r' => rfl
  | ok a r' => exact hf a r' hy s hs

theorem ite {p : Prop} [Decidable p] {x x' : SharedPlay α} {y y' : Play α} (hx : Follows r x y)
    (hx' : Follows r x' y') : Follows r (if p then x else x') (if p then y else y') := by
  split <;> assumption

theorem forM {xs : List α} {f : α → SharedPlay Unit} {k : α → Play Unit}
    (h : ∀ a r, Follows r (f a) (k a)) : Follows r (xs.forM f) (xs.forM k) := by
  induction xs generalizing r with
  | nil => exact .pure ()
  | cons a xs ih => exact .bind (h a r) fun _ r' _ => ih

theorem mapRule (f : RuleError → RuleError) {x : SharedPlay α} {y : Play α} (h : Follows r x y) :
    Follows r (Play.mapRule f x) (Play.mapRule f y) := by
  intro s hs
  unfold Play.mapRule
  rw [h s hs]
  cases y r <;> rfl

theorem inOp (op : Value) {x : SharedPlay Unit} {y : Play Unit} (h : Follows r x y) :
    Follows r (Play.inOp op x) (Play.inOp op y) := by
  unfold Play.inOp
  split
  · exact h.mapRule _
  · exact h

/-- A slot that holds nothing shared has nothing to release. -/
theorem release {x : SharedPlay Unit} {y : Play Unit} (h : Follows r x y) (slot : Slot) :
    Follows r (x >>= fun _ => share (·.release slot)) y := by
  intro s hs
  rw [Play.bind_apply, h s hs]
  cases y r with
  | error e r' => rfl
  | ok u r' =>
    show EStateM.Result.ok () (SharedRun.mk r' (s.release slot)) = _
    rw [s.release_of_held hs]
    rfl

/-- A reading of the game, with what follows it. -/
theorem game_bind {f : Game → SharedPlay α} {y : Play α} (h : Follows r (f r.game) y) :
    Follows r (game >>= f) y := h

theorem congr {x : SharedPlay α} {y z : Play α} (h : Follows r x z) (heq : y r = z r) :
    Follows r x y := fun s hs => by rw [heq, h s hs]

/-! ## Operations -/

theorem moveOne (source target : PileRef) :
    Follows r (moveOne source target) (Play.moveOne source target) :=
  .bind (.inPlace _) fun _ _ _ => .ite (.inPlace _) (.pure ())

theorem moveMany (source target : PileRef) (n : Nat) :
    Follows r (moveMany source target n) (Play.moveMany source target n) := by
  induction n generalizing r with
  | zero => exact .pure ()
  | succ n ih => exact .bind (.moveOne _ _) fun _ _ _ => ih

theorem exchangeCards (s : Play.SwapSides) (fromCard toCard : Value) (known : Bool) :
    Follows r (exchangeCards s fromCard toCard known)
      (Play.exchangeCards s fromCard toCard known) :=
  .bind (.inPlace _) fun _ _ _ => .bind (.inPlace _) fun _ _ _ =>
    .bind (.inPlace _) fun _ _ _ => .inPlace _

theorem setFlag (here : Location) {target flag : String} {value : Value}
    (h : (Operation.setFlag target flag value).LendsNothing r.game) :
    Follows r (setFlag here target flag value) (Play.setFlag target flag value) := by
  refine .game_bind ?_
  rcases h with h | h
  · rw [h]
    exact .plainly _
  · split
    · exact .plainly _
    · rw [if_pos h]
      exact .release (.plainly _) _

theorem perform (here : Location) {o : Operation} (h : o.LendsNothing r.game) :
    Follows r (perform b c here o) (Play.perform b c o) := by
  cases o with
  | moveCard source target count param =>
    exact .bind (.inPlace _) fun _ _ _ => .bind (.inPlace _) fun _ _ _ => .moveMany _ _ _
  | moveCardByIndex source target param =>
    refine .bind (.plainly _) fun index _ _ => .ite (.bind (.plainly _) fun _ _ _ => ?_) ?_
    all_goals
      exact .bind (.inPlace _) fun _ _ _ => .bind (.inPlace _) fun _ _ _ => .moveOne _ _
  | setFlag target flag value => exact .setFlag here h
  | revealAllHands =>
    exact .game_bind (.forM fun seat _ => .release (.plainly _) _)
  | swapCards fromPlayer toPlayer fromIndex toIndex reveal =>
    exact .bind (.plainly _) fun s _ _ => .bind (.plainly _) fun _ _ _ =>
      .bind (.plainly _) fun _ _ _ => .bind (.exchangeCards _ _ _ _) fun _ _ _ =>
        .ite (.bind (.plainly _) fun _ _ _ => .bind (.plainly _) fun _ _ _ =>
          .bind (.plainly _) fun _ _ _ => .plainly _) (.pure ())
  | swapCardsWithPeek fromPlayer toPlayer fromIndex toIndex =>
    exact .bind (.plainly _) fun s _ _ => .bind (.plainly _) fun _ _ _ =>
      .bind (.plainly _) fun _ _ _ => .bind (.plainly _) fun _ _ _ =>
        .bind (.plainly _) fun _ _ _ => .bind (.plainly _) fun _ _ _ =>
          .bind (.plainly _) fun _ _ _ => .exchangeCards _ _ _ _
  | revealCard target indexParam => exact .inPlace _
  | resetTurnFlags => exact .plainly (Play.perform b c .resetTurnFlags)
  | setPhase phase => exact .plainly (Play.perform b c (.setPhase phase))
  | advanceTurnOrder | log | scoreRound => exact .plainly _

/-! ## Effects -/

variable {nested : Nested} {nested' : Play.Nested}

/-- What is read of a rule is its list of effects, unless there is nothing to run. -/
theorem enter {kind : RuleKind} {d : Descent}
    (hd : d = .nothing ∨ ∃ id c raws, d = .list (some id) c raws)
    (hn : ∀ rule block c raws, d = .list rule c raws →
      Follows r (nested block c raws) (nested' c raws)) :
    Follows r (enter nested kind d) (Play.descend b nested' d) := by
  rcases hd with rfl | ⟨id, c, raws, rfl⟩
  · exact .pure ()
  · exact (hn _ _ _ _ rfl).mapRule _

theorem effect {here : Location} {e : Effect}
    (hleaf : ∀ l, b.effectDescent? c r.game e = .ok (.leaf l) →
      l.operation.LendsNothing r.game)
    (hn : ∀ rule block c' inner, b.effectDescent? c r.game e = .ok (.list rule c' inner) →
      Follows r (nested block c' inner) (nested' c' inner)) :
    Follows r (effect b nested c here e) (Play.effect b nested' c e) := by
  cases e with
  | operation o => exact .perform here (hleaf ⟨c, o⟩ rfl)
  | branch condition yes no =>
    refine .congr (z := Play.lift (b.holds? r.game c ((condition.map Value.text).getD .null)) >>=
      fun passed => nested' c (if passed then yes else no)) ?_ rfl
    refine .game_bind (.bind (.plainly _) fun passed r' hpassed => ?_)
    obtain ⟨rfl, hpassed⟩ := Play.lift_ok_inv hpassed
    exact hn none _ c _ (by rw [Rulebook.effectDescent?, hpassed]; rfl)
  | cardAbility indexParam =>
    refine .congr ?_ (Play.cardAbility_eq b nested' c indexParam r)
    refine .game_bind (.bind (.plainly _) fun d r' hd => ?_)
    obtain ⟨rfl, hd⟩ := Play.lift_ok_inv hd
    refine .enter ?_ fun rule block c' raws heq => hn rule block c' raws (heq ▸ hd)
    rcases Rulebook.cardDescent?_ok hd with heq | ⟨id, c', rule, -, heq⟩
    · exact .inl heq
    · exact .inr ⟨id, c', _, heq⟩

/-- An effect goes as in play, if the operation lends nothing or the list goes as in play that it
comes down to. -/
theorem rawEffect {here : Location} {raw : RawEffect}
    (hleaf : ∀ l, b.descent? c r.game raw = .ok (.leaf l) → l.operation.LendsNothing r.game)
    (hn : ∀ rule block c' inner, b.descent? c r.game raw = .ok (.list rule c' inner) →
      Follows r (nested block c' inner) (nested' c' inner)) :
    Follows r (rawEffect b nested c here raw) (Play.rawEffect b nested' c raw) := by
  refine .inOp _ (.bind (.plainly _) fun e r' he => ?_)
  obtain ⟨rfl, hread⟩ := Play.lift_ok_inv he
  have hdescent : b.descent? c r'.game raw = b.effectDescent? c r'.game e.effect := by
    rw [Rulebook.descent?, hread]
    rfl
  rw [hdescent] at hleaf hn
  exact .effect hleaf hn

/-! ## Lists of effects -/

/-- A list of effects goes as in play, if each effect does whose steps lend nothing. -/
theorem inOrder {x : Nat → RawEffect → SharedPlay Unit} {y : RawEffect → Play Unit}
    {one : RawEffect → Game → List Step} (hy : ∀ raw, Play.Framed (y raw))
    (h : ∀ place raw r, (∀ s ∈ one raw r.game, s.LendsNothing) → Follows r (x place raw) (y raw))
    {raws : List RawEffect} {place : Nat}
    (hsteps : ∀ s ∈ Play.stepsInOrder one y raws r.game, s.LendsNothing) :
    Follows r (inOrder x place raws) (raws.forM y) := by
  induction raws generalizing r place with
  | nil => exact .pure ()
  | cons raw raws ih =>
    rw [Play.stepsInOrder] at hsteps
    obtain ⟨hfirst, hrest⟩ := List.forall_mem_append.1 hsteps
    refine .bind (h place raw r hfirst) fun u r' hr => ih fun s hs => hrest s ?_
    rw [hy raw r] at hr
    cases hfresh : y raw { game := r.game } with
    | error e r'' =>
      rw [hfresh] at hr
      cases hr
    | ok u r'' =>
      rw [hfresh] at hr
      cases hr
      exact hs

theorem effects {n : Nat} {block : Block} {raws : List RawEffect}
    (h : ∀ s ∈ Play.steps b n c raws r.game, s.LendsNothing) :
    Follows r (effects b n block c raws) (Play.effects b n c raws) := by
  induction n generalizing r block c raws with
  | zero => cases raws with
    | nil => exact .pure ()
    | cons _ _ => exact .throw _
  | succ n ih => cases raws with
    | nil => exact .pure ()
    | cons raw raws =>
      refine .inOrder (Play.framed_rawEffect b (Play.framed_effects b n) c)
        (fun place raw r hone => ?_) h
      refine .rawEffect (fun l hl => ?_) fun rule block c' inner hlist => ih fun s hs => ?_
      · exact hone ⟨l, r.game⟩ (by simp [hl, Play.stepsOfDescent])
      · exact hone s (by simpa [hlist, Play.stepsOfDescent] using hs)

end Follows

end SharedPlay

/-! ## Rules -/

/-- The call of an action or of an ability. -/
def Call.ofRule (kind : RuleKind) (actor id params : Value) : Call :=
  match kind with
  | .action => .action actor id params
  | .ability => .ability actor id params

theorem Call.namesRule_ofRule (kind : RuleKind) (actor id params : Value) :
    (Call.ofRule kind actor id params).NamesRule := by cases kind <;> trivial

theorem Call.descent?_ofRule (b : Rulebook) (g : Game) (kind : RuleKind) (actor id params : Value) :
    (Call.ofRule kind actor id params).descent? b g = b.ruleDescent? g kind actor id params := by
  cases kind <;> rfl

/-- As long as no list of a rule is shared and the steps of a call lend none, a rule goes as in
play. -/
theorem SharedPlay.follows_runRule {b : Rulebook} {kind : RuleKind} {actor id params : Value}
    {r : Run}
    (h : ∀ s ∈ (Call.ofRule kind actor id params).steps b r.game, s.LendsNothing) :
    Follows r (runRule b kind actor id params) ((Call.ofRule kind actor id params).play b) := by
  refine .congr ?_ (Call.play_eq b _ r)
  rw [Call.descent?_ofRule]
  refine .game_bind (.bind (.plainly _) fun d r' hd => ?_)
  obtain ⟨rfl, hd⟩ := Play.lift_ok_inv hd
  have hcall := (Call.descent?_ofRule b r'.game kind actor id params).trans hd
  obtain ⟨id', rule, c, rfl, -⟩ :=
    Call.descent?_rule (Call.namesRule_ofRule kind actor id params) hcall
  refine .enter (.inr ⟨_, _, _, rfl⟩) fun name block c' raws heq => .effects fun s hs => h s ?_
  cases heq
  rw [Call.steps, hcall]
  exact hs

end CardRules
