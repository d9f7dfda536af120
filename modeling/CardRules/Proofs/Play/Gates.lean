import CardRules.Proofs.Play.Sequencing
import CardRules.Proofs.Tables
import Mathlib.Control.Monad.Basic

/-!
# Gates

A gate is decided by the first condition that does not hold (`reached`). What the gate of an action
comes to is its *verdict* (`Judged`), and every action has exactly one (`Judged.unique`). Whether
the action may run is answered by it, by id and by definition, and running the action fails at the
gate by it or goes on past the gate; the list of the actions that may run has those that are
admitted (`gates_agree`).
-/

namespace CardRules

/-- Whether a rule is one for a phase: it declares no phases, or this one. -/
def Rule.AllowsPhase (r : Rule) (phase : Value) : Prop :=
  ∀ phases, r.phases = some phases → ∃ s ∈ phases, phase = .text s

/-- What follows the gate of an action. -/
def Play.pastGate (b : Rulebook) (actor : Value) (id : String) (r : Rule) (params : Value) :
    Play Unit := do
  let params ← orFault params.asObject?
  inRule id (runEffects b { playerId := actor, params } r.effects)

namespace Rulebook

variable {b : Rulebook} {g : Game} {c : Circumstances} {conditions : List String}

/-! ## Conditions -/

/-- All conditions hold. -/
def AllHold (b : Rulebook) (g : Game) (c : Circumstances) (conditions : List String) : Prop :=
  ∀ s ∈ conditions, b.holds? g c (.text s) = .ok true

instance (b : Rulebook) (g : Game) (c : Circumstances) (conditions : List String) :
    Decidable (b.AllHold g c conditions) :=
  inferInstanceAs (Decidable (∀ s ∈ conditions, _))

/-- The condition comes to an outcome, and those before it hold. -/
def ComesTo (b : Rulebook) (g : Game) (c : Circumstances) (conditions : List String) (s : String)
    (x : Except Failure Bool) : Prop :=
  ∃ before after, conditions = before ++ s :: after ∧ b.AllHold g c before ∧
    b.holds? g c (.text s) = x

theorem failing?_append {before : List String} (h : b.AllHold g c before) (rest : List String) :
    b.failing? g c (before ++ rest) = b.failing? g c rest := by
  induction before with
  | nil => rfl
  | cons s before ih =>
    rw [List.cons_append, failing?, h s List.mem_cons_self]
    exact ih fun t ht => h t (List.mem_cons_of_mem _ ht)

theorem AllHold.failing? (h : b.AllHold g c conditions) : b.failing? g c conditions = .ok none := by
  simpa [Rulebook.failing?] using failing?_append h []

theorem ComesTo.failing? {s : String} {x : Except Failure Bool} (h : b.ComesTo g c conditions s x)
    (hx : x ≠ .ok true) : b.failing? g c conditions = x.map fun _ => some s := by
  obtain ⟨before, after, rfl, hbefore, hs⟩ := h
  rw [failing?_append hbefore, Rulebook.failing?, hs]
  match x, hx with
  | .ok false, _ => rfl
  | .ok true, hx => exact absurd rfl hx
  | .error f, _ => rfl

/-- All conditions hold, or a first one is false or has no truth. -/
theorem reached (b : Rulebook) (g : Game) (c : Circumstances) (conditions : List String) :
    b.AllHold g c conditions ∨ (∃ s, b.ComesTo g c conditions s (.ok false)) ∨
      ∃ s f, b.ComesTo g c conditions s (.error f) := by
  induction conditions with
  | nil => exact .inl fun s hs => absurd hs List.not_mem_nil
  | cons s rest ih =>
    have hfirst {x : Except Failure Bool} (hs : b.holds? g c (.text s) = x) :
        b.ComesTo g c (s :: rest) s x :=
      ⟨[], rest, rfl, fun t ht => absurd ht List.not_mem_nil, hs⟩
    cases hs : b.holds? g c (.text s) with
    | error f => exact .inr (.inr ⟨s, f, hfirst hs⟩)
    | ok truth =>
      cases truth with
      | false => exact .inr (.inl ⟨s, hfirst hs⟩)
      | true =>
        have hcons {before : List String} (h : b.AllHold g c before) :
            b.AllHold g c (s :: before) := List.forall_mem_cons.2 ⟨hs, h⟩
        have hlater {t : String} {x : Except Failure Bool} (h : b.ComesTo g c rest t x) :
            b.ComesTo g c (s :: rest) t x := by
          obtain ⟨before, after, rfl, hbefore, ht⟩ := h
          exact ⟨s :: before, after, rfl, hcons hbefore, ht⟩
        rcases ih with h | ⟨t, h⟩ | ⟨t, f, h⟩
        · exact .inl (hcons h)
        · exact .inr (.inl ⟨t, hlater h⟩)
        · exact .inr (.inr ⟨t, f, hlater h⟩)

/-! ## Verdicts -/

/-- What the gate of an action comes to. -/
inductive Verdict where
  | admitted
  | refused (cause : Cause)
  /-- A condition has no truth. -/
  | broken (f : Failure)

/-- The answer whether the action may run. -/
def Verdict.answer : Verdict → Except Failure Bool
  | .admitted => .ok true
  | .refused _ => .ok false
  | .broken f => .error f

/-- How running the action fails at the gate, if it does. -/
def Verdict.failure? (id : String) : Verdict → Option Failure
  | .admitted => none
  | .refused cause => some (.rule { cause, ruleId := some (.text id) })
  | .broken f => some f

theorem Verdict.eq_of_answer (id : String) {v w : Verdict} (h : v.answer = w.answer)
    (h' : v.failure? id = w.failure? id) : v = w := by
  cases v <;> cases w <;> simp_all [answer, failure?]

/-- The gate of an action comes to the verdict. The phases are judged first, then the conditions in
the order in which they are declared. -/
inductive Judged (b : Rulebook) (g : Game) (actor : Value) (id : String) (r : Rule) :
    Verdict → Prop
  | admitted (hphase : r.AllowsPhase g.turn.phase)
      (h : b.AllHold g { playerId := actor } r.conditions) : Judged b g actor id r .admitted
  | phase (hphase : ¬ r.AllowsPhase g.turn.phase) :
      Judged b g actor id r (.refused (.phaseNotAllowed .action id g.turn.phase))
  | condition (hphase : r.AllowsPhase g.turn.phase) {s : String}
      (h : b.ComesTo g { playerId := actor } r.conditions s (.ok false)) :
      Judged b g actor id r (.refused (.actionNotAllowed id s))
  | broken (hphase : r.AllowsPhase g.turn.phase) {s : String} {f : Failure}
      (h : b.ComesTo g { playerId := actor } r.conditions s (.error f)) :
      Judged b g actor id r (.broken f)

variable {actor : Value} {id : String} {r : Rule} {v w : Verdict}

theorem phaseIn_iff {phases : List String} {phase : Value} :
    phaseIn phases phase = true ↔ ∃ s ∈ phases, phase = .text s := by
  cases phase <;> simp [phaseIn]

theorem actionPhaseAllowed_iff {phase : Value} :
    actionPhaseAllowed r phase = true ↔ r.AllowsPhase phase := by
  unfold actionPhaseAllowed Rule.AllowsPhase
  cases r.phases with
  | none => simp
  | some phases => simp [phaseIn_iff]

theorem judged_exists (b : Rulebook) (g : Game) (actor : Value) (id : String) (r : Rule) :
    ∃ v, b.Judged g actor id r v := by
  by_cases hphase : r.AllowsPhase g.turn.phase
  · rcases b.reached g { playerId := actor } r.conditions with h | ⟨s, h⟩ | ⟨s, f, h⟩
    · exact ⟨_, .admitted hphase h⟩
    · exact ⟨_, .condition hphase h⟩
    · exact ⟨_, .broken hphase h⟩
  · exact ⟨_, .phase hphase⟩

theorem Judged.actionAllowed? (h : b.Judged g actor id r v) :
    b.actionAllowed? g actor r = v.answer := by
  unfold Rulebook.actionAllowed?
  cases h with
  | admitted hphase h => rw [if_pos (actionPhaseAllowed_iff.2 hphase), h.failing?]; rfl
  | phase hphase => rw [if_neg (mt actionPhaseAllowed_iff.1 hphase)]; rfl
  | condition hphase h =>
    rw [if_pos (actionPhaseAllowed_iff.2 hphase), h.failing? (by simp)]
    rfl
  | broken hphase h =>
    rw [if_pos (actionPhaseAllowed_iff.2 hphase), h.failing? (by simp)]
    rfl

theorem action?_of (hr : b.document.action? id = some r) : b.action? id = .ok r := by
  rw [action?, hr]

theorem Judged.idAllowed? (h : b.Judged g actor id r v) (hr : b.document.action? id = some r) :
    b.idAllowed? g actor id = v.answer := by
  rw [Rulebook.idAllowed?, action?_of hr]
  exact h.actionAllowed?

theorem Judged.checkedAction? (h : b.Judged g actor id r v) (hr : b.document.action? id = some r) :
    b.checkedAction? g actor id = (v.failure? id).elim (.ok r) .error := by
  unfold Rulebook.checkedAction?
  rw [action?_of hr]
  cases h with
  | admitted hphase h =>
    simp only [bind, Except.bind, if_pos (actionPhaseAllowed_iff.2 hphase), h.failing?]
    rfl
  | phase hphase =>
    simp only [bind, Except.bind, if_neg (mt actionPhaseAllowed_iff.1 hphase)]
    rfl
  | condition hphase h =>
    simp only [bind, Except.bind, if_pos (actionPhaseAllowed_iff.2 hphase),
      h.failing? (by simp)]
    rfl
  | broken hphase h =>
    simp only [bind, Except.bind, if_pos (actionPhaseAllowed_iff.2 hphase),
      h.failing? (by simp)]
    rfl

theorem Judged.unique (h : b.Judged g actor id r v) (h' : b.Judged g actor id r w)
    (hr : b.document.action? id = some r) : v = w := by
  refine Verdict.eq_of_answer id (h.actionAllowed?.symm.trans h'.actionAllowed?) ?_
  have hchecked := (h.checkedAction? hr).symm.trans (h'.checkedAction? hr)
  cases hv : v.failure? id <;> cases hw : w.failure? id <;> simp_all

/-- Running an action ends at its gate and leaves the run as it was, or goes on past the gate. -/
theorem Judged.runAction (h : b.Judged g actor id r v) (hr : b.document.action? id = some r)
    (params : Value) {run : Run} (hrun : run.game = g) :
    Play.runAction b actor (.text id) params run =
      ((v.failure? id).elim (Play.pastGate b actor id r params) throw) run := by
  subst hrun
  have hid : idText? .action (.text id) = .ok id := rfl
  unfold Play.runAction
  rw [hid, Play.bind_of_ok (Play.lift_ok id run), Play.bind_of_ok (Play.game_apply run),
    h.checkedAction? hr]
  cases v.failure? id with
  | none => rfl
  | some f => exact Play.bind_of_error (Play.lift_error f run)

/-! ## The list of actions -/

/-- No gate of the actions is broken. -/
def Sound (b : Rulebook) (g : Game) (actor : Value) (t : Table Rule) : Prop :=
  ∀ e ∈ t, ∀ f, ¬ b.Judged g actor e.1 e.2 (.broken f)

/-- If no gate is broken, the list has those actions that are admitted, in their order. -/
theorem Sound.allowedAmong? {t : Table Rule} (h : b.Sound g actor t) :
    ∃ ids, b.allowedAmong? g actor t = .ok ids ∧ ids.Sublist t.keys ∧
      ∀ id, id ∈ ids ↔ ∃ r, (id, r) ∈ t ∧ b.Judged g actor id r .admitted := by
  induction t with
  | nil => exact ⟨[], rfl, .slnil, fun id => by simp⟩
  | cons e t ih =>
    obtain ⟨k, r⟩ := e
    obtain ⟨ids, hids, hsub, hmem⟩ := ih fun e he => h e (List.mem_cons_of_mem _ he)
    obtain ⟨v, hv⟩ := b.judged_exists g actor k r
    rw [Rulebook.allowedAmong?, hv.actionAllowed?, hids]
    have hcons (id : String) : (∃ r', (id, r') ∈ (k, r) :: t ∧ b.Judged g actor id r' .admitted) ↔
        (id = k ∧ b.Judged g actor k r .admitted) ∨ id ∈ ids := by
      rw [hmem]
      constructor
      · rintro ⟨r', hr', h⟩
        rcases List.mem_cons.1 hr' with heq | hr'
        · cases heq
          exact .inl ⟨rfl, h⟩
        · exact .inr ⟨r', hr', h⟩
      · rintro (⟨rfl, h⟩ | ⟨r', hr', h⟩)
        · exact ⟨r, List.mem_cons_self, h⟩
        · exact ⟨r', List.mem_cons_of_mem _ hr', h⟩
    cases v with
    | admitted =>
      refine ⟨k :: ids, rfl, hsub.cons_cons k, fun id => ?_⟩
      rw [hcons, List.mem_cons, and_iff_left hv]
    | refused cause =>
      have hnot : ¬ b.Judged g actor k r .admitted := fun h => by
        cases hv.actionAllowed?.symm.trans h.actionAllowed?
      refine ⟨ids, rfl, hsub.cons k, fun id => ?_⟩
      rw [hcons, or_iff_right fun h => hnot h.2]
    | broken f => exact absurd hv (h (k, r) List.mem_cons_self f)

/-- The first broken gate is what the list fails of. -/
theorem allowedAmong?_broken {before : Table Rule} (hbefore : b.Sound g actor before) {f : Failure}
    (h : b.Judged g actor id r (.broken f)) (after : Table Rule) :
    b.allowedAmong? g actor (before ++ (id, r) :: after) = .error f := by
  induction before with
  | nil =>
    rw [List.nil_append, Rulebook.allowedAmong?, h.actionAllowed?]
    rfl
  | cons e before ih =>
    obtain ⟨k, r'⟩ := e
    obtain ⟨v, hv⟩ := b.judged_exists g actor k r'
    have hrest := ih fun e he => hbefore e (List.mem_cons_of_mem _ he)
    rw [List.cons_append, Rulebook.allowedAmong?, hv.actionAllowed?, hrest]
    cases v with
    | admitted | refused _ => rfl
    | broken f => exact absurd hv (hbefore (k, r') List.mem_cons_self f)

end Rulebook

/-- The gates of the actions agree. Every action has one verdict. It answers whether the action may
run, by id and by definition; running the action, whatever its parameters, fails by it at the gate
with the run left as it was, or goes on past the gate. The list of the actions that may run has the
admitted ones in the order of the document, unless a gate is broken; then it fails as the first
broken one does. -/
theorem gates_agree (b : Rulebook) (g : Game) (actor : Value)
    (hkeys : b.document.actions.keys.Nodup) :
    (∀ id r, b.document.action? id = some r →
      ∃ v, b.Judged g actor id r v ∧ (∀ w, b.Judged g actor id r w → w = v) ∧
        b.idAllowed? g actor id = v.answer ∧ b.actionAllowed? g actor r = v.answer ∧
        ∀ params run, run.game = g → Play.runAction b actor (.text id) params run =
          match v.failure? id with
          | none => Play.pastGate b actor id r params run
          | some f => .error f run) ∧
      ((∀ id r, b.document.action? id = some r → ∀ f, ¬ b.Judged g actor id r (.broken f)) →
        ∃ ids, b.availableActions? g actor = .ok ids ∧ ids.Sublist b.document.actions.keys ∧
          ∀ id, id ∈ ids ↔
            ∃ r, b.document.action? id = some r ∧ b.Judged g actor id r .admitted) ∧
      ∀ before id r after f, b.document.actions = before ++ (id, r) :: after →
        (∀ id' r', (id', r') ∈ before → ∀ f', ¬ b.Judged g actor id' r' (.broken f')) →
        b.Judged g actor id r (.broken f) → b.availableActions? g actor = .error f := by
  refine ⟨fun id r hr => ?_, fun hsound => ?_, fun before id r after f hactions hsound h => ?_⟩
  · obtain ⟨v, hv⟩ := b.judged_exists g actor id r
    refine ⟨v, hv, fun w hw => hw.unique hv hr, hv.idAllowed? hr, hv.actionAllowed?,
      fun params run hrun => ?_⟩
    rw [hv.runAction hr params hrun]
    cases v.failure? id <;> rfl
  · have hall : b.Sound g actor b.document.actions :=
      fun e he => hsound e.1 e.2 ((Table.get?_eq_some_iff hkeys).2 he)
    obtain ⟨ids, hids, hsub, hmem⟩ := hall.allowedAmong?
    refine ⟨ids, hids, hsub, fun id => (hmem id).trans ?_⟩
    simp only [Document.action?, Table.get?_eq_some_iff hkeys]
  · rw [Rulebook.availableActions?, hactions]
    exact Rulebook.allowedAmong?_broken (fun e he => hsound e.1 e.2 he) h after

/-- The first action is admitted and the next two are refused, one for its phases and one for a
condition. The gate of the last is closed for most players and broken for one. -/
def Sample.gated : Rulebook where
  document := { (default : Document) with
    actions :=
      [("open", { phases := none, conditions := [], effects := [] }),
       ("never", { phases := some [], conditions := ["nobody"], effects := [] }),
       ("closed", { phases := none, conditions := ["true", "false", "nobody"], effects := [] }),
       ("odd", { phases := none, conditions := ["playerId == 1", "nobody"], effects := [] })] }

theorem gates_agree_sample :
    Sample.gated.document.actions.keys.Nodup ∧
      (∀ params run, run.game = {} →
        Play.runAction Sample.gated (.int 2) (.text "closed") params run =
          .error (.rule ⟨.actionNotAllowed "closed" "false", some (.text "closed"), none⟩) run) ∧
      Sample.gated.availableActions? {} (.int 2) = .ok ["open"] ∧
      Sample.gated.availableActions? {} (.int 1) =
        .error (.of (.invalidExpression "nobody" (.evaluation (.unknownName "nobody")))) := by
  have hkeys : Sample.gated.document.actions.keys.Nodup := by decide
  have hany {r : Rule} {phase : Value} (h : r.phases = none) : r.AllowsPhase phase :=
    fun phases hphases => by rw [h] at hphases; cases hphases
  obtain ⟨hverdict, -, -⟩ := gates_agree Sample.gated {} (.int 2) hkeys
  obtain ⟨-, -, hbroken⟩ := gates_agree Sample.gated {} (.int 1) hkeys
  refine ⟨hkeys, ?_, by decide +kernel, ?_⟩
  · obtain ⟨v, -, hunique, -, -, hrun⟩ := hverdict "closed" _ rfl
    have hclosed := hunique _ (.condition (hany rfl) (s := "false")
      ⟨["true"], ["nobody"], rfl, by decide +kernel, by decide +kernel⟩)
    subst hclosed
    exact hrun
  · have hsound : ∀ e ∈ Sample.gated.document.actions.take 3,
        (Sample.gated.actionAllowed? {} (.int 1) e.2).isOk = true := by decide +kernel
    refine hbroken (Sample.gated.document.actions.take 3) "odd"
      ⟨none, ["playerId == 1", "nobody"], []⟩ [] _ rfl (fun id r hr f h => ?_)
      (.broken (hany rfl) ⟨["playerId == 1"], [], rfl, by decide +kernel, by decide +kernel⟩)
    have hok := hsound _ hr
    rw [h.actionAllowed?] at hok
    cases hok

end CardRules
