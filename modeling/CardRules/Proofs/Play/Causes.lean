import CardRules.Proofs.Play.History
import CardRules.Proofs.Play.Refusal
import CardRules.Proofs.Results

/-!
# What goes wrong where

The rule errors that each part of a run can end in, before any name is added to them on the way out:

* an operation raises a few causes of its own (`Operation.MayRaise`), and its errors name neither a
  rule nor an operation (`perform_raises`);
* an effect that cannot be read is named after what it gives for its operation (`ofRaw?_error`);
* a condition that fails is an invalid expression, and nothing is named (`holds?_error`);
* a gate's errors name the rule, but for that one (`GateError`).
-/

namespace CardRules

/-! ## Operations -/

/-- The causes that an operation may raise. -/
def Operation.MayRaise : Operation → Cause → Prop
  | .moveCard _ _ _ _, .unsupportedReference _ => True
  | .moveCardByIndex _ _ _, .unsupportedReference _ | .moveCardByIndex _ _ _, .missingParameter _ =>
    True
  | .setFlag _ _ _, .unsupportedTarget _ => True
  | .scoreRound, .invalidScore _ _ => True
  | .swapCards _ _ _ _ _, .playerNotFound _ | .swapCards _ _ _ _ _, .missingParameter _
  | .swapCards _ _ _ _ _, .invalidIndex _ _ => True
  | .swapCardsWithPeek _ _ _ _, .playerNotFound _ | .swapCardsWithPeek _ _ _ _, .missingParameter _
  | .swapCardsWithPeek _ _ _ _, .invalidIndex _ _ => True
  | .revealCard _ _, .playerNotFound _ | .revealCard _ _, .invalidIndex _ _ => True
  | _, _ => False

namespace Play

variable {α β : Type} {P : Cause → Prop}

/-- Every rule error that the step ends in has such a cause, and names neither a rule nor an
operation. -/
def Raises (P : Cause → Prop) (x : Play α) : Prop :=
  ∀ r e r', x r = .error (.rule e) r' → P e.cause ∧ e = { cause := e.cause }

namespace Raises

theorem of_faultsOnly {x : Play α} (hx : FaultsOnly x) : Raises P x :=
  fun r e r' h => absurd h (hx r e r')

theorem mono {Q : Cause → Prop} {x : Play α} (hx : Raises P x) (hPQ : ∀ c, P c → Q c) :
    Raises Q x :=
  fun r e r' h => (hx r e r' h).imp_left (hPQ _)

theorem pure (a : α) : Raises P (pure a : Play α) := of_faultsOnly (.pure a)

theorem orFault (x : Except Fault α) : Raises P (orFault x) := of_faultsOnly (.orFault x)

theorem fail {c : Cause} (hc : P c) : Raises P (fail c : Play α) := by
  intro r e r' h
  cases h
  exact ⟨hc, rfl⟩

theorem bind {x : Play α} {f : α → Play β} (hx : Raises P x) (hf : ∀ a, Raises P (f a)) :
    Raises P (x >>= f) := by
  intro r e r' h
  rcases bind_error h with h | ⟨a, r₁, -, h⟩
  · exact hx r e r' h
  · exact hf a r₁ e r' h

theorem ite {p : Prop} [Decidable p] {x y : Play α} (hx : Raises P x) (hy : Raises P y) :
    Raises P (if p then x else y) := by split <;> assumption

theorem resolvePile (hP : ∀ ref, P (.unsupportedReference ref)) (ref : Value)
    (param : Option String) (params forced : Value) :
    Raises P (resolvePile ref param params forced) := by
  unfold Play.resolvePile
  refine .ite (.bind (.orFault _) fun _ => .pure _) ?_
  refine .ite (.bind (.orFault _) fun _ => .pure _) ?_
  split
  · refine .ite (.bind (.of_faultsOnly .game) fun g => .bind (.orFault _) fun seat => ?_)
      (.fail (hP _))
    refine .bind (.orFault _) fun index => .bind (.of_faultsOnly (.align seat)) fun _ => ?_
    exact .bind (.orFault _) fun _ => .pure _
  · exact .fail (hP _)

theorem requiredIndex (hP : ∀ param, P (.missingParameter param)) (c : Circumstances)
    (param : Option String) : Raises P (requiredIndex c param) :=
  .bind (.orFault _) fun _ => .ite (.bind (.fail (hP _)) fun _ => .orFault _) (.orFault _)

theorem requiredSlot (hP : ∀ index size, P (.invalidIndex index size)) (seat : Nat)
    (index : Value) : Raises P (requiredSlot seat index) := by
  refine .bind (.of_faultsOnly (.player seat)) fun p => .bind (.orFault _) fun size => ?_
  split
  · exact .pure _
  · exact .fail (hP _ _)

theorem resolveTarget? (hP : ∀ ref, P (.unsupportedTarget ref)) (g : Game) (ref : Value) :
    Raises P (lift (g.resolveTarget? ref)) := by
  have hseat (x : Except Fault Nat) :
      Raises P (lift ((CardRules.orFault x).map Target.player) : Play Target) := by
    cases x with
    | ok a => exact .pure _
    | error f => exact .of_faultsOnly (.fault f)
  unfold Game.resolveTarget?
  split
  · exact .pure _
  split
  · exact .pure _
  split
  · exact .pure _
  split
  · exact hseat _
  split
  · exact hseat _
  · exact .fail (hP ref)

theorem seatOf (hP : ∀ id, P (.playerNotFound id)) (b : Rulebook) (c : Circumstances)
    (ref : String) : Raises P (seatOf b c ref) := by
  have horFault (x : Except Fault Nat) : Raises P (lift (CardRules.orFault x)) := .orFault x
  refine .bind (.of_faultsOnly .game) fun g => ?_
  unfold Game.resolveSeat?
  split
  · exact horFault _
  split
  · exact horFault _
  dsimp only
  split
  · exact .pure _
  split
  · exact .fail (hP _)
  · exact .pure _

theorem swapSides (hplayer : ∀ id, P (.playerNotFound id))
    (hparam : ∀ param, P (.missingParameter param))
    (hindex : ∀ index size, P (.invalidIndex index size)) (b : Rulebook) (c : Circumstances)
    (fromPlayer toPlayer : String) (fromIndex toIndex : Option String) :
    Raises P (swapSides b c fromPlayer toPlayer fromIndex toIndex) :=
  .bind (.seatOf hplayer b c _) fun _ => .bind (.seatOf hplayer b c _) fun _ =>
    .bind (.requiredIndex hparam c _) fun _ => .bind (.requiredIndex hparam c _) fun _ =>
      .bind (.requiredSlot hindex _ _) fun _ => .bind (.requiredSlot hindex _ _) fun _ => .pure _

end Raises

/-- An operation raises the causes that are its own. -/
theorem perform_raises (b : Rulebook) (c : Circumstances) (o : Operation) :
    Raises o.MayRaise (perform b c o) := by
  cases o with
  | moveCard source target count param =>
    exact .bind (.resolvePile (fun _ => trivial) _ _ _ _) fun _ =>
      .bind (.resolvePile (fun _ => trivial) _ _ _ _) fun _ => .of_faultsOnly (.moveMany _ _ _)
  | moveCardByIndex source target param =>
    refine .bind (.orFault _) fun index => .ite (.bind (.fail trivial) fun _ => ?_) ?_
    all_goals
      exact .bind (.resolvePile (fun _ => trivial) _ _ _ _) fun _ =>
        .bind (.resolvePile (fun _ => trivial) _ _ _ _) fun _ => .of_faultsOnly (.moveOne _ _)
  | setFlag target flag value =>
    exact .bind (.of_faultsOnly .game) fun g => .bind (.resolveTarget? (fun _ => trivial) g _)
      fun _ => .of_faultsOnly (.modifyGame _)
  | advanceTurnOrder phase =>
    refine .bind (.of_faultsOnly .game) fun g => .ite ?_ (.of_faultsOnly (.modifyGame _))
    exact .bind (.orFault _) fun _ => .of_faultsOnly (.bind (.modifyGame _) fun _ => .modifyGame _)
  | resetTurnFlags | setPhase => exact fun r e r' h => by cases h
  | log template =>
    refine .bind (.of_faultsOnly .game) fun g => .bind (.orFault _) fun name => .of_faultsOnly ?_
    split
    · exact .bind (.modifyGame _) fun _ => .tell _
    · exact .fault _
  | revealAllHands =>
    exact .bind (.of_faultsOnly .game) fun g => .of_faultsOnly (.forM .revealHand)
  | scoreRound =>
    refine .bind (.of_faultsOnly .game) fun g => ?_
    split
    · exact .fail trivial
    · refine .of_faultsOnly (.bind (.forM (.scoreSeat _)) fun _ => .bind .announceScores fun _ => ?_)
      split
      · exact .pure ()
      · exact .decideMatch _
  | swapCards fromPlayer toPlayer fromIndex toIndex reveal =>
    exact .bind (.swapSides (fun _ => trivial) (fun _ => trivial) (fun _ _ => trivial) b c _ _ _ _)
      fun s => .of_faultsOnly (.swapFound reveal s)
  | swapCardsWithPeek fromPlayer toPlayer fromIndex toIndex =>
    exact .bind (.swapSides (fun _ => trivial) (fun _ => trivial) (fun _ _ => trivial) b c _ _ _ _)
      fun s => .of_faultsOnly (.peekFound s)
  | revealCard target indexParam =>
    exact .bind (.seatOf (fun _ => trivial) b c _) fun a => .bind (.orFault _) fun index =>
      .bind (.requiredSlot (fun _ _ => trivial) _ _) fun n => .of_faultsOnly (.revealFound a n)

end Play

/-! ## Effects as they are written -/

theorem wordingOf?_op {op : Value} {w : Wording} (h : wordingOf? op = some w) :
    op = .text w.op := by
  unfold wordingOf? at h
  split at h
  · have hfound := List.find?_some h
    rw [beq_iff_eq.1 hfound]
  · cases h

/-- An effect that can be read gives a text for its operation. -/
theorem CheckedEffect.ofRaw?_ok {raw : RawEffect} {e : CheckedEffect}
    (h : CheckedEffect.ofRaw? raw = .ok e) : RawEffect.op raw = .text e.op := by
  unfold CheckedEffect.ofRaw? at h
  split at h
  · cases h
  · rename_i w hw
    split at h <;> cases h
    exact wordingOf?_op hw

/-- An effect that cannot be read is named after what it gives for its operation. -/
theorem CheckedEffect.ofRaw?_error {raw : RawEffect} {e : RuleError}
    (h : CheckedEffect.ofRaw? raw = .error e) :
    ((∃ op, e.cause = .unsupportedOperation op) ∨ ∃ details, e.cause = .malformedEffect details) ∧
      e.ruleId = none ∧ e.op = some (RawEffect.op raw).shown := by
  unfold CheckedEffect.ofRaw? at h
  split at h
  · cases h
    exact ⟨.inl ⟨_, rfl⟩, rfl, rfl⟩
  · rename_i w hw
    split at h <;> cases h
    exact ⟨.inr ⟨_, rfl⟩, rfl, by rw [wordingOf?_op hw]; rfl⟩

/-! ## Conditions and gates -/

theorem orFault_ne_rule {α : Type} (x : Except Fault α) (e : RuleError) :
    orFault x ≠ .error (.rule e) := by
  cases x <;> simp [orFault]

/-- An expression that fails by the rules is invalid, and nothing is named. -/
theorem truthIn_error {text : String} {scope : Expr.Scope} {e : RuleError}
    (h : truthIn text scope = .error (.rule e)) :
    ∃ reason, e = { cause := .invalidExpression text reason } := by
  rcases bind_eq_error h with h | ⟨x, -, h⟩
  · unfold evaluate at h
    split at h
    · cases h
      exact ⟨_, rfl⟩
    · split at h <;> cases h
      exact ⟨_, rfl⟩
  · exact absurd h (orFault_ne_rule _ e)

namespace Rulebook

variable {b : Rulebook} {g : Game} {c : Circumstances} {e : RuleError}

theorem holds?_error {condition : Value} (h : b.holds? g c condition = .error (.rule e)) :
    ∃ text reason, e = { cause := .invalidExpression text reason } := by
  unfold holds? at h
  split at h
  · cases h
  · rename_i text _
    rcases bind_eq_error h with h | ⟨scope, -, h⟩
    · exact absurd h (orFault_ne_rule _ e)
    · exact ⟨text, truthIn_error h⟩

theorem failing?_error {conditions : List String}
    (h : b.failing? g c conditions = .error (.rule e)) :
    ∃ text reason, e = { cause := .invalidExpression text reason } := by
  induction conditions with
  | nil => cases h
  | cons condition rest ih =>
    rcases bind_eq_error h with h | ⟨passed, -, h⟩
    · exact holds?_error h
    · split at h
      · exact ih h
      · cases h

end Rulebook

/-- What goes wrong at the gate of the rule with an id. The error names the rule, unless it is about
an expression. Null is the id of no rule, and is not named. -/
inductive GateError (id : Value) : RuleError → Prop
  | notFound (kind : RuleKind) :
      GateError id
        { cause := .ruleNotFound kind id, ruleId := if id = .null then none else some id }
  | phase (kind : RuleKind) {s : String} (hid : id = .text s) (phase : Value) :
      GateError id { cause := .phaseNotAllowed kind s phase, ruleId := some id }
  | action {s : String} (hid : id = .text s) (condition : String) :
      GateError id { cause := .actionNotAllowed s condition, ruleId := some id }
  | ability {s : String} (hid : id = .text s) (condition : String) :
      GateError id { cause := .conditionNotSatisfied s condition, ruleId := some id }
  | expression (text : String) (reason : ExprError) :
      GateError id { cause := .invalidExpression text reason }

/-- A gate's error names the rule, or an expression is invalid and it names none. -/
theorem GateError.named {id : Value} {e : RuleError} (h : GateError id e) :
    (e.ruleId = (if id = .null then none else some id) ∧
        ∀ text reason, e.cause ≠ .invalidExpression text reason) ∨
      ∃ text reason, e = { cause := .invalidExpression text reason } := by
  cases h with
  | notFound kind => exact .inl ⟨rfl, fun _ _ => nofun⟩
  | phase kind hid phase =>
    subst hid
    exact .inl ⟨(if_neg nofun).symm, fun _ _ => nofun⟩
  | action hid condition | ability hid condition =>
    subst hid
    exact .inl ⟨(if_neg nofun).symm, fun _ _ => nofun⟩
  | expression text reason => exact .inr ⟨text, reason, rfl⟩

namespace Rulebook

variable {b : Rulebook} {g : Game} {actor : Value} {e : RuleError}

theorem idText?_ok {kind : RuleKind} {id : Value} {s : String} (h : idText? kind id = .ok s) :
    id = .text s := by
  cases id <;> cases h
  rfl

theorem idText?_error {kind : RuleKind} {id : Value} (h : idText? kind id = .error (.rule e)) :
    GateError id e := by
  unfold idText? at h
  split at h <;> cases h
  exact .notFound kind

theorem checkedAction?_error {id : String} (h : b.checkedAction? g actor id = .error (.rule e)) :
    GateError (.text id) e := by
  rcases bind_eq_error h with h | ⟨r, -, h⟩
  · unfold action? at h
    split at h <;> cases h
    exact .notFound .action
  split at h
  · rcases bind_eq_error h with h | ⟨failing, -, h⟩
    · obtain ⟨text, reason, rfl⟩ := failing?_error h
      exact .expression text reason
    · split at h <;> cases h
      exact .action rfl _
  · cases h
    exact .phase .action rfl _

theorem checkedAbility?_error {id : String} {params : Value}
    (h : b.checkedAbility? g actor id params = .error (.rule e)) : GateError (.text id) e := by
  rcases bind_eq_error h with h | ⟨r, -, h⟩
  · unfold ability? at h
    split at h <;> cases h
    exact .notFound .ability
  split at h
  · rcases bind_eq_error h with h | ⟨failing, -, h⟩
    · obtain ⟨text, reason, rfl⟩ := failing?_error h
      exact .expression text reason
    · split at h <;> cases h
      exact .ability rfl _
  · cases h
    exact .phase .ability rfl _

end Rulebook

/-! ## What an effect comes down to -/

theorem orFault_bind {α β : Type} (x : Except Fault α) (f : α → Except Fault β) :
    orFault (x >>= f) = orFault x >>= fun a => orFault (f a) := by
  cases x <;> rfl

/-- The effect that a raw one writes. -/
def RawEffect.effect? (raw : RawEffect) : Except RuleError Effect :=
  (CheckedEffect.ofRaw? raw).map CheckedEffect.effect

namespace Rulebook

/-- The ability bound to a card, if one is, with the parameters it would run with. -/
def bound? (b : Rulebook) (index card : Value) : Except Fault (Option (String × Value)) := do
  match ← b.document.abilityForCard? card with
  | none | some "" => return none
  | some id => return some (id, .object [("handIndex", index), ("cardCode", card)])

/-- The ability that the card in a place of the current player's hand triggers, if it does. -/
def triggered? (b : Rulebook) (c : Circumstances) (g : Game) (indexParam : Option String) :
    Except Fault (Option (String × Value)) := do
  let index ← c.param? indexParam >>= asIndex?
  let seat ← g.currentSeat?
  let p ← g.player? seat
  let size ← p.hand.size?
  match slot? index size with
  | some n => b.bound? index (← Play.cardAt? p.hand n)
  | none => b.bound? index .null

/-- The effects of an ability that is triggered, if it may run. -/
def triggeredDescent? (b : Rulebook) (g : Game) (actor : Value) :
    Option (String × Value) → Except Failure Descent
  | none => return .nothing
  | some (id, params) => b.abilityDescent? g actor id params

variable {b : Rulebook} {c : Circumstances} {g : Game} {raw : RawEffect} {e : RuleError}

theorem boundDescent?_eq (actor index card : Value) :
    b.boundDescent? g actor index card =
      orFault (b.bound? index card) >>= b.triggeredDescent? g actor := by
  unfold boundDescent? bound?
  rw [orFault_bind, bind_assoc]
  refine bind_congr fun id? => ?_
  rcases id? with _ | id
  · rfl
  · by_cases hid : id = ""
    · subst hid
      rfl
    · simp only
      rfl

theorem cardDescent?_eq (indexParam : Option String) :
    b.cardDescent? c g indexParam =
      orFault (b.triggered? c g indexParam) >>= b.triggeredDescent? g c.playerId := by
  unfold cardDescent? triggered?
  rw [orFault_bind (c.param? indexParam >>= asIndex?), bind_assoc]
  refine bind_congr fun index => ?_
  rw [orFault_bind, bind_assoc]
  refine bind_congr fun seat => ?_
  rw [orFault_bind, bind_assoc]
  refine bind_congr fun p => ?_
  rw [orFault_bind, bind_assoc]
  refine bind_congr fun size => ?_
  cases slot? index size with
  | none => exact boundDescent?_eq _ _ _
  | some n =>
    rw [orFault_bind, bind_assoc]
    exact bind_congr fun card => boundDescent?_eq _ _ card

/-- An effect that is neither an operation nor does nothing fails to come down to anything in three
places: it cannot be read, its condition fails, or the gate of the ability that it triggers. -/
theorem descent?_error (h : b.descent? c g raw = .error (.rule e)) :
    CheckedEffect.ofRaw? raw = .error e ∨
      (∃ condition yes no, RawEffect.effect? raw = .ok (.branch condition yes no) ∧
        b.holds? g c ((condition.map Value.text).getD .null) = .error (.rule e)) ∨
      ∃ indexParam id params, RawEffect.effect? raw = .ok (.cardAbility indexParam) ∧
        b.triggered? c g indexParam = .ok (some (id, params)) ∧
        b.checkedAbility? g c.playerId id params = .error (.rule e) := by
  unfold RawEffect.effect?
  cases hraw : CheckedEffect.ofRaw? raw with
  | error e' =>
    rw [descent?, hraw] at h
    cases h
    exact .inl rfl
  | ok checked =>
    have h : b.effectDescent? c g checked.effect = .error (.rule e) := by rwa [descent?, hraw] at h
    refine .inr ?_
    simp only [Except.map]
    cases heffect : checked.effect with
    | operation o =>
      rw [heffect] at h
      cases h
    | branch condition yes no =>
      rw [heffect] at h
      rcases bind_eq_error h with h | ⟨passed, -, h⟩
      · exact .inl ⟨condition, yes, no, rfl, h⟩
      · cases h
    | cardAbility indexParam =>
      rw [heffect, effectDescent?, cardDescent?_eq] at h
      rcases bind_eq_error h with h | ⟨found?, hfound, h⟩
      · exact absurd h (orFault_ne_rule _ e)
      cases found? with
      | none => cases h
      | some found =>
        rcases bind_eq_error h with h | ⟨r, -, h⟩
        · refine .inr ⟨indexParam, found.1, found.2, rfl, ?_, h⟩
          cases ht : b.triggered? c g indexParam with
          | error f => rw [ht] at hfound; cases hfound
          | ok _ => rw [ht] at hfound; cases hfound; rfl
        · cases h

end Rulebook

namespace Call

/-- What a call gives for the id of a rule. An effect outside all rules has none. -/
def ruleId? : Call → Option Value
  | .action _ id _ | .ability _ id _ => some id
  | .effect _ _ => none

/-- A call fails before any effect only at the gate of the rule that it names. -/
theorem descent?_error {b : Rulebook} {g : Game} {call : Call} {e : RuleError}
    (h : call.descent? b g = .error (.rule e)) : ∃ id, call.ruleId? = some id ∧ GateError id e := by
  cases call with
  | action actor id params =>
    refine ⟨id, rfl, ?_⟩
    rcases bind_eq_error h with hid | ⟨s, hs, hrest⟩
    · exact Rulebook.idText?_error hid
    rw [Rulebook.idText?_ok hs]
    rcases bind_eq_error hrest with hgate | ⟨r, -, hparams⟩
    · exact Rulebook.checkedAction?_error hgate
    rcases bind_eq_error hparams with hparams | ⟨_, -, hlist⟩
    · exact absurd hparams (orFault_ne_rule _ e)
    · cases hlist
  | ability actor id params =>
    refine ⟨id, rfl, ?_⟩
    rcases bind_eq_error h with hparams | ⟨_, -, hrest⟩
    · exact absurd hparams (orFault_ne_rule _ e)
    rcases bind_eq_error hrest with hid | ⟨s, hs, hability⟩
    · exact Rulebook.idText?_error hid
    rw [Rulebook.idText?_ok hs]
    rcases bind_eq_error hability with hgate | ⟨r, -, hlist⟩
    · exact Rulebook.checkedAbility?_error hgate
    · cases hlist
  | effect c raw => cases h

end Call

end CardRules
