import CardRules.Proofs.Play.Actors
import CardRules.Proofs.Play.Causes

/-!
# Where errors arise, and what names them

A rule error arises in an effect, while it is read or carried out or its own condition is, or at the
gate of a rule (`Site`). `Arises` follows a run to the site: through the effects before it, the
branches around it and the abilities that were triggered on the way. On its way out the error gets
the names that are still missing, of each effect around it and of each rule.

* `Arises.escapes`: an error that arises escapes, with its cause and the names of its site;
* `Play.effects_error`: whatever escapes has arisen at a site;
* `errors_name_innermost`: an effect's error names the innermost rule and that effect's operation;
* `gate_errors_name_rule`: a gate's error names the rule, but an invalid expression does not.
-/

namespace CardRules

/-! ## Sites -/

/-- Where a rule error arises. -/
inductive Site where
  /-- In an effect among those of a rule, or outside all rules. -/
  | effect (rule : Option String) (raw : RawEffect)
  /-- At the gate of the rule with an id, which was called, or triggered by an effect of a rule. -/
  | gate (within : Option String) (id : Value)

/-- The error with the rule that it is in named, unless one is named already. -/
def RuleError.within (rule : Option String) (e : RuleError) : RuleError :=
  { e with ruleId := e.ruleId.or (rule.map .text) }

/-- The error `e` that arises at the site is `e'` when it escapes. An effect's error has the names
of the rule and of the effect's operation; a gate's error keeps its rule if it names one, and gets
that of the effect around it if not. -/
def Site.Names (e e' : RuleError) : Site → Prop
  | .effect rule raw =>
    e' = { cause := e.cause, ruleId := rule.map .text, op := some (RawEffect.op raw).shown }
  | .gate within _ => e'.cause = e.cause ∧ e'.ruleId = e.ruleId.or (within.map .text)

/-- In a run of effects, which are those of a rule or outside all rules, the error arises at the
site. -/
inductive Arises (b : Rulebook) :
    Nat → Option String → Circumstances → List RawEffect → Game → Site → RuleError → Prop
  /-- The first effect cannot be read. -/
  | reading {n : Nat} {rule : Option String} {c : Circumstances} {raw : RawEffect}
      {raws : List RawEffect} {g : Game} {e : RuleError}
      (h : CheckedEffect.ofRaw? raw = .error e) :
      Arises b (n + 1) rule c (raw :: raws) g (.effect rule raw) e
  /-- The condition of the first effect fails. -/
  | condition {n : Nat} {rule : Option String} {c : Circumstances} {raw : RawEffect}
      {raws : List RawEffect} {g : Game} {e : RuleError} {condition : Option String}
      {yes no : List RawEffect} (heffect : RawEffect.effect? raw = .ok (.branch condition yes no))
      (h : b.holds? g c ((condition.map Value.text).getD .null) = .error (.rule e)) :
      Arises b (n + 1) rule c (raw :: raws) g (.effect rule raw) e
  /-- The operation of the first effect fails. -/
  | operation {n : Nat} {rule : Option String} {c : Circumstances} {raw : RawEffect}
      {raws : List RawEffect} {g : Game} {e : RuleError} {o : Operation} {r : Run}
      (heffect : RawEffect.effect? raw = .ok (.operation o))
      (h : Play.perform b c o { game := g } = .error (.rule e) r) :
      Arises b (n + 1) rule c (raw :: raws) g (.effect rule raw) e
  /-- The gate of the ability that the first effect triggers fails. -/
  | gate {n : Nat} {rule : Option String} {c : Circumstances} {raw : RawEffect}
      {raws : List RawEffect} {g : Game} {e : RuleError} {indexParam : Option String} {id : String}
      {params : Value} (heffect : RawEffect.effect? raw = .ok (.cardAbility indexParam))
      (hcard : b.triggered? c g indexParam = .ok (some (id, params)))
      (h : b.checkedAbility? g c.playerId id params = .error (.rule e)) :
      Arises b (n + 1) rule c (raw :: raws) g (.gate rule (.text id)) e
  /-- It arises in the branch that the first effect takes, or in the ability that it triggers. -/
  | nested {n : Nat} {rule rule' : Option String} {c c' : Circumstances} {raw : RawEffect}
      {raws inner : List RawEffect} {g : Game} {site : Site} {e : RuleError}
      (hlist : b.descent? c g raw = .ok (.list rule' c' inner))
      (h : Arises b n (rule'.or rule) c' inner g site e) :
      Arises b (n + 1) rule c (raw :: raws) g site e
  /-- The first effect ends well, and it arises later. -/
  | later {n : Nat} {rule : Option String} {c : Circumstances} {raw : RawEffect}
      {raws : List RawEffect} {g : Game} {site : Site} {e : RuleError} {r : Run}
      (hfirst : Play.rawEffect b (Play.effects b n) c raw { game := g } = .ok () r)
      (h : Arises b (n + 1) rule c raws r.game site e) :
      Arises b (n + 1) rule c (raw :: raws) g site e

/-- The error arises at the site when the call is carried out. -/
inductive Call.Arises (b : Rulebook) (g : Game) (call : Call) : Site → RuleError → Prop
  /-- The gate of the rule that is called fails. -/
  | gate {id : Value} {e : RuleError} (hid : call.ruleId? = some id)
      (h : call.descent? b g = .error (.rule e)) : Arises b g call (.gate none id) e
  /-- It arises in the effects that the call runs. -/
  | effects {rule : Option String} {c : Circumstances} {raws : List RawEffect} {site : Site}
      {e : RuleError} (hlist : call.descent? b g = .ok (.list rule c raws))
      (h : CardRules.Arises b (b.budget (branchDepth raws)) rule c raws g site e) :
      Arises b g call site e

/-! ## Names -/

namespace RuleError

/-- The error with the operation named that an effect gives, unless one is named already. -/
def applying (op : Value) (e : RuleError) : RuleError :=
  match op with
  | .text op => e.inOp op
  | _ => e

theorem within_within (e : RuleError) (rule rule' : Option String) :
    (e.within rule').within rule = e.within (rule'.or rule) := by
  cases rule' <;> simp [within]

theorem applying_of_op {e : RuleError} {s : String} (h : e.op = some s) (op : Value) :
    e.applying op = e := by
  cases op with
  | text s' =>
    cases e
    cases h
    rfl
  | _ => rfl

end RuleError

theorem RawEffect.op_of_effect? {raw : RawEffect} {effect : Effect}
    (h : RawEffect.effect? raw = .ok effect) : ∃ s, RawEffect.op raw = .text s := by
  obtain ⟨e, he, -⟩ := map_eq_ok h
  exact ⟨e.op, CheckedEffect.ofRaw?_ok he⟩

namespace Site

variable {rule : Option String} {raw : RawEffect} {e e' : RuleError}

/-- An effect that cannot be read names itself. -/
theorem Names.of_reading (h : CheckedEffect.ofRaw? raw = .error e) :
    (Site.effect rule raw).Names e ((e.applying (RawEffect.op raw)).within rule) := by
  obtain ⟨-, hrule, hop⟩ := CheckedEffect.ofRaw?_error h
  rw [RuleError.applying_of_op hop]
  simp [Names, RuleError.within, hrule, hop]

/-- An error without names gets those of the effect and its rule. -/
theorem Names.of_unnamed {s : String} (h : RawEffect.op raw = .text s)
    (he : e = { cause := e.cause }) :
    (Site.effect rule raw).Names e ((e.applying (RawEffect.op raw)).within rule) := by
  rw [he, h]
  simp [Names, RuleError.within, RuleError.applying, RuleError.inOp, h]
  rfl

/-- The effects further out leave the names as they are. -/
theorem Names.applying {site : Site} (h : site.Names e (e'.within rule)) (op : Value) :
    site.Names e ((e'.applying op).within rule) := by
  cases site with
  | effect rule' raw =>
    have hop : e'.op = some (RawEffect.op raw).shown := congrArg RuleError.op h
    rwa [RuleError.applying_of_op hop]
  | gate within id =>
    have hsame : ((e'.applying op).within rule).cause = (e'.within rule).cause ∧
        ((e'.applying op).within rule).ruleId = (e'.within rule).ruleId := by
      unfold RuleError.applying
      split <;> exact ⟨rfl, rfl⟩
    exact ⟨hsame.1.trans h.1, hsame.2.trans h.2⟩

end Site

namespace Play

variable {b : Rulebook} {c : Circumstances} {raw : RawEffect} {raws : List RawEffect} {g : Game}
  {e : RuleError} {r : Run} {n : Nat}

theorem inOp_error {op : Value} {x : Play Unit} {r r' : Run} {e : RuleError}
    (h : x r = .error (.rule e) r') : inOp op x r = .error (.rule (e.applying op)) r' := by
  cases op with
  | text s =>
    rw [inOp, mapRule_apply, h]
    rfl
  | _ => exact h

/-- An error of a nested list escapes from it with the name of its rule. -/
theorem descend_error {nested : Nested} {rule : Option String}
    (h : nested c raws { game := g } = .error (.rule e) r) :
    descend b nested (.list rule c raws) { game := g } = .error (.rule (e.within rule)) r := by
  cases rule with
  | none =>
    refine h.trans ?_
    simp [RuleError.within]
  | some id =>
    rw [descend, inRule, mapRule_apply, h]
    rfl

/-- The first effect of a list fails, and with it the list. -/
theorem effects_error_head
    (h : (lift (b.descent? c g raw) >>= descend b (effects b n)) { game := g } =
      .error (.rule e) r) :
    effects b (n + 1) c (raw :: raws) { game := g } =
      .error (.rule (e.applying (RawEffect.op raw))) r := by
  have hraw : rawEffect b (effects b n) c raw { game := g } =
      .error (.rule (e.applying (RawEffect.op raw))) r := by
    rw [rawEffect_eq]
    exact inOp_error h
  rw [effects_succ]
  exact bind_of_error hraw

end Play

/-! ## What arises escapes -/

namespace Rulebook

variable {b : Rulebook} {c : Circumstances} {g : Game} {raw : RawEffect}

/-- What an effect comes down to that is read. -/
theorem descent?_of_effect? {effect : Effect} (h : RawEffect.effect? raw = .ok effect) :
    b.descent? c g raw = b.effectDescent? c g effect := by
  obtain ⟨e, he, rfl⟩ := map_eq_ok h
  rw [descent?, he]
  rfl

end Rulebook

/-- An error that arises among effects escapes from them with the names of its site, once the rule
that they are of has named it. -/
theorem Arises.escapes {b : Rulebook} {n : Nat} {rule : Option String} {c : Circumstances}
    {raws : List RawEffect} {g : Game} {site : Site} {e : RuleError}
    (h : Arises b n rule c raws g site e) :
    ∃ e' r, Play.effects b n c raws { game := g } = .error (.rule e') r ∧
      site.Names e (e'.within rule) := by
  induction h with
  | @reading n rule c raw raws g e h =>
    refine ⟨_, { game := g }, Play.effects_error_head (e := e) ?_, .of_reading h⟩
    rw [Rulebook.descent?, h]
    rfl
  | @condition n rule c raw raws g e condition yes no heffect h =>
    obtain ⟨s, hs⟩ := RawEffect.op_of_effect? heffect
    obtain ⟨text, reason, rfl⟩ := Rulebook.holds?_error h
    refine ⟨_, { game := g }, Play.effects_error_head ?_, .of_unnamed hs rfl⟩
    rw [Rulebook.descent?_of_effect? heffect, Rulebook.effectDescent?, h]
    rfl
  | @operation n rule c raw raws g e o r heffect h =>
    obtain ⟨s, hs⟩ := RawEffect.op_of_effect? heffect
    have hunnamed := (Play.perform_raises b c o _ e r h).2
    refine ⟨_, r, Play.effects_error_head ?_, .of_unnamed hs hunnamed⟩
    rw [Rulebook.descent?_of_effect? heffect]
    exact h
  | @gate n rule c raw raws g e indexParam id params heffect hcard h =>
    refine ⟨_, { game := g }, Play.effects_error_head (e := e) ?_, Site.Names.applying ?_ _⟩
    · rw [Rulebook.descent?_of_effect? heffect, Rulebook.effectDescent?,
        Rulebook.cardDescent?_eq, hcard]
      change (Play.lift (b.abilityDescent? g c.playerId id params) >>= _) _ = _
      rw [Rulebook.abilityDescent?, h]
      rfl
    · exact ⟨rfl, rfl⟩
  | @nested n rule rule' c c' raw raws inner g site e hlist h ih =>
    obtain ⟨e', r, hinner, hnames⟩ := ih
    refine ⟨_, r, Play.effects_error_head (e := e'.within rule') ?_, Site.Names.applying ?_ _⟩
    · rw [hlist]
      exact Play.descend_error hinner
    · rwa [RuleError.within_within]
  | @later n rule c raw raws g site e r hfirst h ih =>
    obtain ⟨e', r', hlater, hnames⟩ := ih
    refine ⟨e', r.join r', ?_, hnames⟩
    rw [Play.effects_succ] at hlater ⊢
    refine (Play.bind_of_ok hfirst).trans ?_
    rw [Play.framed_forM (Play.framed_rawEffect b (Play.framed_effects b n) c) r, hlater]
    rfl

/-! ## What escapes has arisen -/

namespace Rulebook

variable {b : Rulebook} {c c' : Circumstances} {g : Game} {raw : RawEffect} {inner : List RawEffect}
  {rule : Option String}

theorem effectDescent?_of_ok {d : Descent} (h : b.descent? c g raw = .ok d) :
    ∃ effect, RawEffect.effect? raw = .ok effect ∧ b.effectDescent? c g effect = .ok d := by
  obtain ⟨e, he, h⟩ := bind_eq_ok h
  cases hraw : CheckedEffect.ofRaw? raw with
  | error e' => rw [hraw] at he; cases he
  | ok e' =>
    rw [hraw] at he
    cases he
    exact ⟨e.effect, by rw [RawEffect.effect?, hraw]; rfl, h⟩

/-- An effect that triggers an ability, if it does, comes down to the effects of that. -/
theorem cardDescent?_ok {indexParam : Option String} {d : Descent}
    (h : b.cardDescent? c g indexParam = .ok d) :
    d = .nothing ∨
      ∃ id c' r, b.document.ability? id = some r ∧ d = .list (some id) c' r.effects := by
  rw [cardDescent?_eq] at h
  obtain ⟨found?, -, h⟩ := bind_eq_ok h
  cases found? with
  | none =>
    cases h
    exact .inl rfl
  | some found =>
    obtain ⟨r, hr, h⟩ := bind_eq_ok h
    cases h
    exact .inr ⟨found.1, _, r, ability?_ok (checkedAbility?_ok hr), rfl⟩

/-- An effect that comes down to an operation is that operation. -/
theorem descent?_leaf {l : Leaf} (h : b.descent? c g raw = .ok (.leaf l)) :
    RawEffect.effect? raw = .ok (.operation l.operation) ∧ l.circumstances = c := by
  obtain ⟨effect, heffect, h⟩ := effectDescent?_of_ok h
  cases effect with
  | operation o =>
    cases h
    exact ⟨heffect, rfl⟩
  | branch condition yes no =>
    obtain ⟨passed, -, h⟩ := bind_eq_ok h
    cases h
  | cardAbility indexParam =>
    rcases cardDescent?_ok h with h | ⟨id, c', r, -, h⟩ <;> cases h

/-- A list that an effect comes down to is one of its branches, or the effects of an ability. -/
theorem descent?_list (h : b.descent? c g raw = .ok (.list rule c' inner)) :
    rule = none ∧ inner ∈ RawEffect.branches raw ∨
      ∃ id r, rule = some id ∧ b.document.ability? id = some r ∧ inner = r.effects := by
  obtain ⟨effect, heffect, h⟩ := effectDescent?_of_ok h
  cases effect with
  | operation o => cases h
  | branch condition yes no =>
    obtain ⟨passed, -, h⟩ := bind_eq_ok h
    cases h
    have hbranches : RawEffect.branches raw = [yes, no] := by
      unfold RawEffect.branches
      unfold RawEffect.effect? at heffect
      rw [heffect]
    refine .inl ⟨rfl, ?_⟩
    rw [hbranches]
    cases passed <;> simp
  | cardAbility indexParam =>
    rcases cardDescent?_ok h with h | ⟨id, c', r, hr, h⟩
    · cases h
    · cases h
      exact .inr ⟨id, r, rfl, hr, rfl⟩

end Rulebook

namespace Play

theorem renamed_rule_error {f : RuleError → RuleError} {res : EStateM.Result Failure Run Unit}
    {e : RuleError} {r : Run} (h : renamed f res = .error (.rule e) r) :
    ∃ e', res = .error (.rule e') r := by
  cases res with
  | ok a r' => cases h
  | error e' r' =>
    cases e' with
    | fault f => cases h
    | rule e' =>
      cases h
      exact ⟨e', rfl⟩

theorem inOp_rule_error {op : Value} {x : Play Unit} {e : RuleError} {r r' : Run}
    (h : inOp op x r = .error (.rule e) r') : ∃ e', x r = .error (.rule e') r' := by
  unfold inOp at h
  split at h
  · rw [mapRule_apply] at h
    exact renamed_rule_error h
  · exact ⟨e, h⟩

theorem descend_rule_error {b : Rulebook} {nested : Nested} {rule : Option String}
    {c : Circumstances} {raws : List RawEffect} {e : RuleError} {r r' : Run}
    (h : descend b nested (.list rule c raws) r = .error (.rule e) r') :
    ∃ e', nested c raws r = .error (.rule e') r' := by
  cases rule with
  | none => exact ⟨e, h⟩
  | some id =>
    rw [descend, inRule, mapRule_apply] at h
    exact renamed_rule_error h

theorem joinResult_rule_error {res : EStateM.Result Failure Run Unit} {e : RuleError} {r r' : Run}
    (h : r.joinResult res = .error (.rule e) r') : ∃ r'', res = .error (.rule e) r'' := by
  cases res with
  | ok a r'' => cases h
  | error e' r'' =>
    cases h
    exact ⟨r'', rfl⟩

end Play

/-- A rule error that escapes from effects has arisen among them. -/
theorem Play.effects_error {b : Rulebook} (n : Nat) :
    ∀ (rule : Option String) (c : Circumstances) (raws : List RawEffect) (g : Game) (e : RuleError)
      (r : Run), effects b n c raws { game := g } = .error (.rule e) r →
      ∃ site e', Arises b n rule c raws g site e' := by
  induction n with
  | zero =>
    intro rule c raws g e r h
    cases raws <;> cases h
  | succ n ih =>
    intro rule c raws
    induction raws with
    | nil =>
      intro g e r h
      cases h
    | cons raw raws ihraws =>
      intro g e r h
      rw [effects_succ] at h
      rcases bind_error h with h | ⟨_, r', hfirst, hrest⟩
      · rw [rawEffect_eq] at h
        obtain ⟨e', hraw⟩ := inOp_rule_error h
        cases hd : b.descent? c g raw with
        | error failure =>
          rw [hd] at hraw
          cases hraw
          rcases Rulebook.descent?_error hd with hd | ⟨condition, yes, no, heffect, hd⟩ |
            ⟨indexParam, id, params, heffect, hcard, hd⟩
          · exact ⟨_, _, .reading hd⟩
          · exact ⟨_, _, .condition heffect hd⟩
          · exact ⟨_, _, .gate heffect hcard hd⟩
        | ok d =>
          rw [hd] at hraw
          cases d with
          | leaf l =>
            obtain ⟨heffect, rfl⟩ := Rulebook.descent?_leaf hd
            exact ⟨_, _, .operation heffect hraw⟩
          | list rule' c' inner =>
            obtain ⟨e'', hinner⟩ := descend_rule_error hraw
            obtain ⟨site, e₀, harises⟩ := ih (rule'.or rule) c' inner g e'' r hinner
            exact ⟨site, e₀, .nested hd harises⟩
          | nothing => cases hraw
      · rw [framed_forM (framed_rawEffect b (framed_effects b n) c) r', ← effects_succ] at hrest
        obtain ⟨r'', hrest⟩ := joinResult_rule_error hrest
        obtain ⟨site, e', harises⟩ := ihraws r'.game e r'' hrest
        exact ⟨site, e', .later hfirst harises⟩

/-- What arises at the gate of a rule is an error of that gate. -/
theorem Arises.gateError {b : Rulebook} {n : Nat} {rule within : Option String} {c : Circumstances}
    {raws : List RawEffect} {g : Game} {id : Value} {e : RuleError}
    (h : Arises b n rule c raws g (.gate within id) e) : GateError id e ∧ ∃ s, id = .text s := by
  generalize hsite : Site.gate within id = site at h
  induction h with
  | reading | condition | operation => cases hsite
  | gate heffect hcard h =>
    cases hsite
    exact ⟨Rulebook.checkedAbility?_error h, _, rfl⟩
  | nested hlist h ih => exact ih hsite
  | later hfirst h ih => exact ih hsite

/-! ## Calls -/

/-- An effect that is among those of a rule stands in the effects of the called rule or of an
ability; one that is outside all rules stands in the effect that is applied. -/
def Call.Holds (b : Rulebook) (call : Call) (raw : RawEffect) : Option String → Prop
  | some id => ∃ r, Occurs r.effects raw ∧
      (b.document.ability? id = some r ∨
        b.document.action? id = some r ∧ ∃ actor params, call = .action actor (.text id) params)
  | none => ∃ c outer, call = .effect c outer ∧ Occurs [outer] raw

theorem Occurs.mono {raws raws' : List RawEffect} {raw : RawEffect} (h : Occurs raws raw)
    (hsub : ∀ x ∈ raws, x ∈ raws') : Occurs raws' raw := by
  cases h with
  | here h => exact .here (hsub _ h)
  | within houter hbranch h => exact .within (hsub _ houter) hbranch h

/-- The effect that an error arises in stands in the effects that run, or in those of an ability. -/
theorem Arises.stands {b : Rulebook} {n : Nat} {rule within : Option String} {c : Circumstances}
    {raws : List RawEffect} {raw : RawEffect} {g : Game} {e : RuleError}
    (h : Arises b n rule c raws g (.effect within raw) e) :
    within = rule ∧ Occurs raws raw ∨
      ∃ id r, within = some id ∧ b.document.ability? id = some r ∧ Occurs r.effects raw := by
  generalize hsite : Site.effect within raw = site at h
  induction h with
  | reading | condition | operation =>
    cases hsite
    exact .inl ⟨rfl, .here List.mem_cons_self⟩
  | gate => cases hsite
  | nested hlist h ih =>
    obtain ⟨rfl, hoccurs⟩ | hability := ih hsite
    · obtain ⟨rfl, hbranch⟩ | ⟨id, r, rfl, hr, rfl⟩ := Rulebook.descent?_list hlist
      · exact .inl ⟨rfl, .within List.mem_cons_self hbranch hoccurs⟩
      · exact .inr ⟨id, r, rfl, hr, hoccurs⟩
    · exact .inr hability
  | later hfirst h ih =>
    exact (ih hsite).imp_left fun ⟨hrule, hoccurs⟩ =>
      ⟨hrule, hoccurs.mono fun x => List.mem_cons_of_mem _⟩

namespace Call

variable {b : Rulebook} {g : Game} {call : Call} {site : Site} {e : RuleError}

theorem Arises.escapes (h : call.Arises b g site e) :
    ∃ e' r, call.play b { game := g } = .error (.rule e') r ∧ site.Names e e' := by
  rw [play_eq]
  cases h with
  | gate hid h => exact ⟨e, { game := g }, by rw [h]; rfl, by simp [Site.Names]⟩
  | @effects rule c raws _ _ hlist h =>
    obtain ⟨e', r, hend, hnames⟩ := h.escapes
    refine ⟨e'.within rule, r, ?_, hnames⟩
    rw [hlist]
    exact Play.descend_error hend

/-- What holds an effect that a call runs is the rule that is called, or the effect applied. -/
theorem descent?_ok {d : Descent} (h : call.descent? b g = .ok d) :
    ∃ rule c raws, d = .list rule c raws ∧ ∀ raw, Occurs raws raw → call.Holds b raw rule := by
  cases call with
  | action actor id params =>
    obtain ⟨s, hs, hrest⟩ := bind_eq_ok h
    obtain ⟨r, hr, hparams⟩ := bind_eq_ok hrest
    obtain ⟨params', -, hlist⟩ := bind_eq_ok hparams
    cases hlist
    refine ⟨_, _, _, rfl, fun raw hraw => ⟨r, hraw, .inr ⟨?_, actor, params, ?_⟩⟩⟩
    · exact Rulebook.action?_ok (Rulebook.checkedAction?_ok hr)
    · rw [Rulebook.idText?_ok hs]
  | ability actor id params =>
    obtain ⟨params', -, hrest⟩ := bind_eq_ok h
    obtain ⟨s, hs, hability⟩ := bind_eq_ok hrest
    obtain ⟨r, hr, hlist⟩ := bind_eq_ok hability
    cases hlist
    refine ⟨_, _, _, rfl, fun raw hraw => ⟨r, hraw, .inl ?_⟩⟩
    exact Rulebook.ability?_ok (Rulebook.checkedAbility?_ok hr)
  | effect c outer =>
    cases h
    exact ⟨_, _, _, rfl, fun raw hraw => ⟨c, outer, rfl, hraw⟩⟩

theorem play_error {r : Run} (h : call.play b { game := g } = .error (.rule e) r) :
    ∃ site e₀, call.Arises b g site e₀ ∧ site.Names e₀ e := by
  have harises : ∃ site e₀, call.Arises b g site e₀ := by
    rw [play_eq] at h
    cases hd : call.descent? b g with
    | error failure =>
      rw [hd] at h
      cases h
      obtain ⟨id, hid, -⟩ := descent?_error hd
      exact ⟨_, _, .gate hid hd⟩
    | ok d =>
      rw [hd] at h
      obtain ⟨rule, c, raws, rfl, -⟩ := descent?_ok hd
      obtain ⟨e', hend⟩ := Play.descend_rule_error h
      obtain ⟨site, e₀, harises⟩ := Play.effects_error _ rule c raws g e' r hend
      exact ⟨site, e₀, .effects hd harises⟩
  obtain ⟨site, e₀, harises⟩ := harises
  obtain ⟨e', r', hend, hnames⟩ := harises.escapes
  cases h.symm.trans hend
  exact ⟨site, e₀, harises, hnames⟩

theorem Arises.stands {rule : Option String} {raw : RawEffect}
    (h : call.Arises b g (.effect rule raw) e) : call.Holds b raw rule := by
  cases h with
  | @effects rule' c raws _ _ hlist h =>
    obtain ⟨rule'', c', raws', heq, hholds⟩ := descent?_ok hlist
    cases heq
    rcases h.stands with ⟨rfl, hoccurs⟩ | ⟨id, r, rfl, hr, hoccurs⟩
    · exact hholds raw hoccurs
    · exact ⟨r, hoccurs, .inl hr⟩

theorem Arises.gateError {within : Option String} {id : Value}
    (h : call.Arises b g (.gate within id) e) :
    GateError id e ∧ (within = none ∨ ∃ s, id = .text s) := by
  cases h with
  | gate hid h =>
    obtain ⟨id', hid', hgate⟩ := descent?_error h
    cases hid.symm.trans hid'
    exact ⟨hgate, .inl rfl⟩
  | effects hlist h => exact h.gateError.imp_right .inr

/-- The gate of the action that is called fails. -/
theorem Arises.of_action {actor params : Value} {id : String}
    (h : b.checkedAction? g actor id = .error (.rule e)) :
    (Call.action actor (.text id) params).Arises b g (.gate none (.text id)) e := by
  refine .gate rfl ?_
  unfold descent?
  change (do
    let r ← b.checkedAction? g actor id
    let params ← orFault params.asObject?
    return Descent.list (some id) { playerId := actor, params } r.effects) = .error (.rule e)
  rw [h]
  rfl

end Call

namespace Sample

/-- Each of two cards triggers an ability: one whose gate fails, and one that fails in a branch. -/
def tricky : Rulebook where
  document := { (default : Document) with
    metadata := { (default : Metadata) with cardAbilities := [("AS", "peek"), ("2S", "fumble")] }
    actions :=
      [("look", { phases := none, conditions := ["nobody"], effects := [] }),
       ("use", { phases := none, conditions := [], effects := [[("op", .text "log")], trigger] })]
    abilities :=
      [("peek", { phases := none, conditions := ["nobody"], effects := [] }),
       ("fumble", {
        phases := none
        conditions := []
        effects := [[("op", .text "if"), ("then", .list [.object aimless])]] })] }
where
  /-- Writes a flag to a record that there is not. -/
  aimless : RawEffect := [("op", .text "setFlag"), ("target", .text "nobody"), ("flag", .text "x")]

/-- One player, with both cards. -/
def pair : Game where
  players :=
    [{ id := .int 1, name := .text "Ann", hand := .list [.text "AS", .text "2S"],
       known := .list [.bool false, .bool false] }]

/-- Uses the card in a place. -/
def use (n : Nat) : Call := .action (.int 1) (.text "use") (.object [("at", .int n)])

/-- After the first effect of using a card. -/
def logged : Run := { game := { pair with log := [.text ""] }, sink := [""] }

/-- The flag's effect fails, in a branch of an ability that an action triggers. -/
theorem arises_fumble : (use 1).Arises tricky pair (.effect (some "fumble") tricky.aimless)
    { cause := .unsupportedTarget (.text "nobody") } := by
  have htarget (g : Game) : g.resolveTarget? (.text "nobody") =
      .error (.of (.unsupportedTarget (.text "nobody"))) := by
    simp [Game.resolveTarget?, currentPlayerRef, nextPlayerRef]
  refine .effects rfl (.later (n := 1002) (r := logged) rfl (.nested rfl (.nested rfl ?_)))
  refine .operation (o := .setFlag "nobody" "x" .null) (r := { game := logged.game }) rfl ?_
  rw [Play.perform, Play.setFlag_apply, htarget]
  rfl

/-- A condition that names a variable that there is not. -/
def unknown : RuleError where
  cause := .invalidExpression "nobody" (.evaluation (.unknownName "nobody"))

/-- The gate of the ability fails that the action triggers. -/
theorem arises_peek : (use 0).Arises tricky pair (.gate (some "use") (.text "peek")) unknown := by
  have hcard : tricky.triggered? { playerId := .int 1, params := .object [("at", .int 0)] }
      logged.game (some "at") =
        .ok (some ("peek", .object [("handIndex", .int 0), ("cardCode", .text "AS")])) := rfl
  refine .effects rfl (.later (n := 1002) (r := logged) rfl (.gate rfl hcard ?_))
  decide +kernel

/-- The gate of the action fails. -/
theorem arises_look : (Call.action (.int 1) (.text "look") .null).Arises tricky pair
    (.gate none (.text "look")) unknown := by
  exact .of_action (by decide +kernel)

end Sample

/-- An effect's error names the innermost rule and that effect. Let an action or ability be called,
and let a rule error arise while an effect is read or carried out or its own condition is evaluated,
at any depth of branches and of abilities that trigger one another. Then the call fails with that
cause, and the error names the rule among whose effects the effect stands and the operation that the
effect gives, in its written form, whatever else is around it. And all rule errors that a call ends
in arise so, or at a gate. -/
theorem errors_name_innermost (b : Rulebook) (g : Game) (call : Call) :
    (∀ rule raw e, call.Arises b g (.effect rule raw) e →
      call.Holds b raw rule ∧
        ∃ r, call.play b { game := g } = .error (.rule {
          cause := e.cause
          ruleId := rule.map .text
          op := some (RawEffect.op raw).shown }) r) ∧
      ∀ e r, call.play b { game := g } = .error (.rule e) r →
        ∃ site e₀, call.Arises b g site e₀ ∧ site.Names e₀ e := by
  refine ⟨fun rule raw e h => ⟨h.stands, ?_⟩, fun e r h => Call.play_error h⟩
  obtain ⟨e', r, hend, rfl⟩ := h.escapes
  exact ⟨r, hend⟩

/-- The flag's effect is in a branch of the ability of the second card. -/
theorem errors_name_innermost_sample :
    (Sample.use 1).Arises Sample.tricky Sample.pair
        (.effect (some "fumble") Sample.tricky.aimless)
        { cause := .unsupportedTarget (.text "nobody") } ∧
      ∃ r, (Sample.use 1).play Sample.tricky { game := Sample.pair } = .error (.rule {
        cause := .unsupportedTarget (.text "nobody")
        ruleId := some (.text "fumble")
        op := some "setFlag" }) r := by
  obtain ⟨harises, -⟩ := errors_name_innermost Sample.tricky Sample.pair (Sample.use 1)
  exact ⟨Sample.arises_fumble, (harises _ _ _ Sample.arises_fumble).2⟩

/-- A gate's error names the rule, but for one cause. Let a rule error arise at the gate of a rule,
which is the called one or an ability that was triggered at any depth. Then the call fails with that
cause. If the rule was not found, the phase is not allowed or a condition does not hold, the error
names that rule; null, which is no id, is not named. If a condition is an invalid expression, the
error names the rule whose effect triggered the ability, or none for the called rule. -/
theorem gate_errors_name_rule (b : Rulebook) (g : Game) (call : Call) (within : Option String)
    (id : Value) (e : RuleError) (h : call.Arises b g (.gate within id) e) :
    GateError id e ∧ ∃ e' r, call.play b { game := g } = .error (.rule e') r ∧ e'.cause = e.cause ∧
      ((∀ text reason, e.cause ≠ .invalidExpression text reason) →
        e'.ruleId = if id = .null then none else some id) ∧
      ((∃ text reason, e.cause = .invalidExpression text reason) →
        e'.ruleId = within.map .text) := by
  obtain ⟨e', r, hend, hcause, hrule⟩ := h.escapes
  obtain ⟨hgate, hwithin⟩ := h.gateError
  refine ⟨hgate, e', r, hend, hcause, ?_⟩
  rw [hrule]
  rcases hgate.named with ⟨hnamed, hne⟩ | ⟨text, reason, rfl⟩
  · refine ⟨fun _ => ?_, fun ⟨text, reason, heq⟩ => absurd heq (hne text reason)⟩
    rw [hnamed]
    rcases hwithin with rfl | ⟨s, rfl⟩
    · exact Option.or_none
    · rw [if_neg nofun, Option.some_or]
  · exact ⟨fun hne => absurd rfl (hne text reason), fun _ => rfl⟩

/-- An action that there is not is named. The ability whose condition is no expression is not: the
error names the action that triggered it. -/
theorem gate_errors_name_rule_sample :
    (Call.action (.int 1) (.text "fly") .null).Arises Sample.tricky Sample.pair
        (.gate none (.text "fly"))
        { cause := .ruleNotFound .action (.text "fly"), ruleId := some (.text "fly") } ∧
      (∃ e r, (Call.action (.int 1) (.text "fly") .null).play Sample.tricky
          { game := Sample.pair } = .error (.rule e) r ∧ e.ruleId = some (.text "fly")) ∧
      (Sample.use 0).Arises Sample.tricky Sample.pair (.gate (some "use") (.text "peek"))
        Sample.unknown ∧
      ∃ e r, (Sample.use 0).play Sample.tricky { game := Sample.pair } = .error (.rule e) r ∧
        e.ruleId = some (.text "use") := by
  have hfly : (Call.action (.int 1) (.text "fly") .null).Arises Sample.tricky Sample.pair
      (.gate none (.text "fly"))
      { cause := .ruleNotFound .action (.text "fly"), ruleId := some (.text "fly") } :=
    .of_action (by decide +kernel)
  obtain ⟨-, e, r, hend, -, hnamed, -⟩ := gate_errors_name_rule _ _ _ _ _ _ hfly
  obtain ⟨-, e', r', hend', -, -, hunnamed⟩ :=
    gate_errors_name_rule _ _ _ _ _ _ Sample.arises_peek
  exact ⟨hfly, ⟨e, r, hend, (hnamed fun _ _ => nofun).trans (if_neg nofun)⟩, Sample.arises_peek,
    e', r', hend', hunnamed ⟨_, _, rfl⟩⟩

/-- The gate of one rule fails and the error names none, and that of another, and the error names
the rule that triggered it. -/
theorem gate_expression_unnamed :
    ((Call.action (.int 1) (.text "look") .null).Arises Sample.tricky Sample.pair
        (.gate none (.text "look")) Sample.unknown ∧
      ∃ e r, (Call.action (.int 1) (.text "look") .null).play Sample.tricky
          { game := Sample.pair } = .error (.rule e) r ∧ e.ruleId = none) ∧
      (Sample.use 0).Arises Sample.tricky Sample.pair (.gate (some "use") (.text "peek"))
        Sample.unknown ∧
      ∃ e r, (Sample.use 0).play Sample.tricky { game := Sample.pair } = .error (.rule e) r ∧
        e.ruleId = some (.text "use") := by
  obtain ⟨e, r, hend, -, hrule⟩ := Sample.arises_look.escapes
  obtain ⟨e', r', hend', -, hrule'⟩ := Sample.arises_peek.escapes
  exact ⟨⟨Sample.arises_look, e, r, hend, hrule⟩, Sample.arises_peek, e', r', hend', hrule'⟩

end CardRules
