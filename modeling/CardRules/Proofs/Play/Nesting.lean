import CardRules.Proofs.Play.Origins
import CardRules.Proofs.Rules.Branches

/-!
# How deep runs nest

The interpreter has a budget for lists of effects nested in one another; a run of the rules as such
has none. `Ends` is how effects end without a budget, and how many levels of lists that takes; with
any budget of as many levels they end the same (`Ends.effects`).

What the lists take is bounded by what is written: a branch is less deep than the effects around it,
and if no ability that a card is bound to triggers a further one, an ability is entered at most once
(`Fits.descent`). So calls end, in levels that the document alone gives (`calls_end`).
-/

namespace CardRules

/-! ## Ends without a budget -/

/-- Effects end in a way, without any budget. It takes at most so many levels of lists of effects,
this list being the first. When the first effect comes down to a list, that one ends as `nested`
says, in a level less. -/
inductive Ends (b : Rulebook) :
    Nat → Circumstances → List RawEffect → Game → EStateM.Result Failure Run Unit → Prop
  | done (n : Nat) (c : Circumstances) (g : Game) : Ends b n c [] g (.ok () { game := g })
  | failed {n : Nat} {c : Circumstances} {raw : RawEffect} {raws : List RawEffect} {g : Game}
      {nested : Play.Nested} {e : Failure} {r : Run}
      (hnested : ∀ rule c' inner, b.descent? c g raw = .ok (.list rule c' inner) →
        Ends b n c' inner g (nested c' inner { game := g }))
      (hfirst : Play.rawEffect b nested c raw { game := g } = .error e r) :
      Ends b (n + 1) c (raw :: raws) g (.error e r)
  | next {n : Nat} {c : Circumstances} {raw : RawEffect} {raws : List RawEffect} {g : Game}
      {nested : Play.Nested} {r : Run} {res : EStateM.Result Failure Run Unit}
      (hnested : ∀ rule c' inner, b.descent? c g raw = .ok (.list rule c' inner) →
        Ends b n c' inner g (nested c' inner { game := g }))
      (hfirst : Play.rawEffect b nested c raw { game := g } = .ok () r)
      (hrest : Ends b (n + 1) c raws r.game res) :
      Ends b (n + 1) c (raw :: raws) g (r.joinResult res)

namespace Play

variable {b : Rulebook} {c : Circumstances} {g : Game}

/-- How an effect ends depends on how the list ends that it comes down to, and on no other. -/
theorem rawEffect_congr {raw : RawEffect} {nested nested' : Nested}
    (h : ∀ rule c' inner, b.descent? c g raw = .ok (.list rule c' inner) →
      nested c' inner { game := g } = nested' c' inner { game := g }) :
    rawEffect b nested c raw { game := g } = rawEffect b nested' c raw { game := g } := by
  rw [rawEffect_eq, rawEffect_eq]
  refine inOp_congr _ ?_
  dsimp only
  match hd : b.descent? c g raw with
  | .error e => rfl
  | .ok (.leaf l) => rfl
  | .ok .nothing => rfl
  | .ok (.list none c' inner) => exact h none c' inner hd
  | .ok (.list (some id) c' inner) =>
    have hsame := congrArg (renamed (RuleError.inRule id)) (h (some id) c' inner hd)
    rwa [← mapRule_apply, ← mapRule_apply] at hsame

/-- Effects one after another, by how the first of them ends. -/
theorem effects_cons {n : Nat} {raw : RawEffect} {raws : List RawEffect} :
    effects b (n + 1) c (raw :: raws) { game := g } =
      match rawEffect b (effects b n) c raw { game := g } with
      | .ok _ r => r.joinResult (effects b (n + 1) c raws { game := r.game })
      | .error e r => .error e r := by
  rw [effects_succ, effects_succ]
  refine (bind_apply _ (fun _ => raws.forM (rawEffect b (effects b n) c)) _).trans ?_
  cases rawEffect b (effects b n) c raw { game := g } with
  | error e r => rfl
  | ok _ r => exact framed_forM (framed_rawEffect b (framed_effects b n) c) r

end Play

namespace Ends

variable {b : Rulebook} {n : Nat} {c : Circumstances} {raws : List RawEffect} {g : Game}
  {res : EStateM.Result Failure Run Unit}

/-- With a budget of as many levels or more, effects end as they do without one. -/
theorem effects (h : Ends b n c raws g res) :
    ∀ m, n ≤ m → Play.effects b m c raws { game := g } = res := by
  induction h with
  | done n c g =>
    intro m _
    cases m <;> rfl
  | failed _ hfirst ih =>
    rintro (_ | m) hm
    · exact absurd hm (Nat.not_succ_le_zero _)
    · rw [Play.effects_cons, Play.rawEffect_congr fun rule c' inner hd =>
        ih rule c' inner hd m (Nat.le_of_succ_le_succ hm), hfirst]
  | next _ hfirst _ ih ihrest =>
    rintro (_ | m) hm
    · exact absurd hm (Nat.not_succ_le_zero _)
    · rw [Play.effects_cons, Play.rawEffect_congr fun rule c' inner hd =>
        ih rule c' inner hd m (Nat.le_of_succ_le_succ hm), hfirst]
      dsimp only
      rw [ihrest (m + 1) hm]

/-- There is one way that effects end. -/
theorem unique {n' : Nat} {res' : EStateM.Result Failure Run Unit} (h : Ends b n c raws g res)
    (h' : Ends b n' c raws g res') : res = res' := by
  rw [← h.effects (max n n') (Nat.le_max_left _ _), h'.effects _ (Nat.le_max_right _ _)]

/-- Effects end in so many levels if each list takes a level less than the one around it, and one
that takes no level is empty. -/
theorem of_rank {R : Nat → List RawEffect → Prop} (hzero : ∀ raws, R 0 raws → raws = [])
    (hdescent : ∀ n raws, R (n + 1) raws → ∀ raw ∈ raws, ∀ c g rule c' inner,
      b.descent? c g raw = .ok (.list rule c' inner) → R n inner) :
    ∀ n c raws g, R n raws → Ends b n c raws g (Play.effects b n c raws { game := g }) := by
  intro n
  induction n with
  | zero =>
    intro c raws g h
    rw [hzero raws h]
    exact .done 0 c g
  | succ n ih =>
    intro c raws g h
    have hinner := hdescent n raws h
    clear h
    induction raws generalizing g with
    | nil => exact .done (n + 1) c g
    | cons raw raws ihraws =>
      obtain ⟨hfirst, hrest⟩ := List.forall_mem_cons.1 hinner
      have hnested rule c' inner (hd : b.descent? c g raw = .ok (.list rule c' inner)) :
          Ends b n c' inner g (Play.effects b n c' inner { game := g }) :=
        ih c' inner g (hfirst c g rule c' inner hd)
      rw [Play.effects_cons]
      cases hraw : Play.rawEffect b (Play.effects b n) c raw { game := g } with
      | error e r => exact .failed hnested hraw
      | ok _ r => exact .next hnested hraw (ihraws r.game hrest)

end Ends

/-! ## What documents bound -/

/-- No effect that stands among these triggers the ability of a card. -/
def Quiet (raws : List RawEffect) : Prop :=
  ∀ raw, Written raws raw → RawEffect.op raw ≠ .text triggerOp

theorem Quiet.of_branchless {raws : List RawEffect}
    (h : ∀ raw ∈ raws, RawEffect.op raw ≠ .text triggerOp ∧ ∀ e ∈ raw, e.1 ∉ branchKeys) :
    Quiet raws := by
  intro raw hraw
  cases hraw with
  | here hraw => exact (h raw hraw).1
  | within houter hkey hitems => exact absurd hkey ((h _ houter).2 _ hitems)

namespace Document

/-- The abilities that cards are bound to. -/
def boundAbilities (d : Document) : List Rule :=
  d.metadata.cardAbilities.filterMap fun e => d.ability? e.2

/-- The greatest branch depth of an ability that a card is bound to. -/
def boundDepth (d : Document) : Nat :=
  (d.boundAbilities.map fun r => branchDepth r.effects).foldl max 0

/-- How deep lists are nested in the effects of any rule at most, if no ability that a card is bound
to triggers another one. -/
def nesting (d : Document) : Nat :=
  max (deepestOf d.actions) (deepestOf d.abilities) + 1 + d.boundDepth

theorem branchDepth_le_boundDepth {d : Document} {r : Rule} (h : r ∈ d.boundAbilities) :
    branchDepth r.effects ≤ d.boundDepth := le_foldl_max (List.mem_map_of_mem h)

end Document

theorem branchDepth_le_deepestOf {rules : Table Rule} {id : String} {r : Rule}
    (h : rules.get? id = some r) : branchDepth r.effects ≤ deepestOf rules :=
  le_foldl_max (List.mem_map_of_mem (Table.mem_of_get? h))

namespace Rulebook

variable {b : Rulebook} {c c' : Circumstances} {g : Game} {raw : RawEffect} {inner : List RawEffect}
  {id : String}

theorem abilityForCard?_ok {d : Document} {card : Value}
    (h : d.abilityForCard? card = .ok (some id)) :
    ∃ code, (code, id) ∈ d.metadata.cardAbilities := by
  unfold Document.abilityForCard? at h
  split at h
  · exact ⟨_, Table.mem_of_get? (Except.ok.inj h)⟩
  · cases h
  · cases h

theorem bound?_ok {index card params : Value} (h : b.bound? index card = .ok (some (id, params))) :
    ∃ code, (code, id) ∈ b.document.metadata.cardAbilities := by
  obtain ⟨id?, hid, h⟩ := bind_eq_ok h
  split at h
  · cases h
  · cases h
  · cases h
    exact abilityForCard?_ok hid

theorem triggered?_ok {indexParam : Option String} {params : Value}
    (h : b.triggered? c g indexParam = .ok (some (id, params))) :
    ∃ code, (code, id) ∈ b.document.metadata.cardAbilities := by
  obtain ⟨index, -, h⟩ := bind_eq_ok h
  obtain ⟨seat, -, h⟩ := bind_eq_ok h
  obtain ⟨p, -, h⟩ := bind_eq_ok h
  obtain ⟨size, -, h⟩ := bind_eq_ok h
  split at h
  · obtain ⟨card, -, h⟩ := bind_eq_ok h
    exact bound?_ok h
  · exact bound?_ok h

/-- Only an effect that triggers abilities comes down to the effects of one, and a card is bound to
that one. -/
theorem descent?_ability (h : b.descent? c g raw = .ok (.list (some id) c' inner)) :
    RawEffect.op raw = .text triggerOp ∧ ∃ r ∈ b.document.boundAbilities, inner = r.effects := by
  obtain ⟨effect, heffect, h⟩ := effectDescent?_of_ok h
  cases effect with
  | operation o => cases h
  | branch condition yes no =>
    obtain ⟨passed, -, h⟩ := bind_eq_ok h
    cases h
  | cardAbility indexParam =>
    rw [effectDescent?, cardDescent?_eq] at h
    obtain ⟨found?, hfound, h⟩ := bind_eq_ok h
    cases found? with
    | none => cases h
    | some found =>
      obtain ⟨r, hr, h⟩ := bind_eq_ok h
      cases h
      obtain ⟨code, hcode⟩ : ∃ code, (code, found.1) ∈ b.document.metadata.cardAbilities := by
        cases ht : b.triggered? c g indexParam with
        | error f => rw [ht] at hfound; cases hfound
        | ok _ => rw [ht] at hfound; cases hfound; exact triggered?_ok ht
      obtain ⟨e, he, heffect⟩ := map_eq_ok heffect
      obtain ⟨w, hw, hop, hread, -⟩ := CheckedEffect.ofRaw?_reads he
      refine ⟨?_, r, List.mem_filterMap.2 ⟨_, hcode, ability?_ok (checkedAbility?_ok hr)⟩, rfl⟩
      rw [CheckedEffect.ofRaw?_ok he, ← hop,
        Wording.op_of_read_cardAbility hw (hread.trans heffect)]

end Rulebook

/-- Effects fit into so many levels: they are empty, or trigger no ability and are less deep than
that, or there is room for an ability behind their branches. -/
inductive Fits (d : Document) (n : Nat) (raws : List RawEffect) : Prop
  | empty (h : raws = [])
  | quiet (hquiet : Quiet raws) (h : branchDepth raws < n)
  | roomy (h : branchDepth raws + 1 + d.boundDepth < n)

/-- A list that an effect comes down to fits into a level less than the list around it. -/
theorem Fits.descent {b : Rulebook} (hbound : ∀ r ∈ b.document.boundAbilities, Quiet r.effects)
    {n : Nat} {raws : List RawEffect} (h : Fits b.document (n + 1) raws) {raw : RawEffect}
    (hraw : raw ∈ raws) {c c' : Circumstances} {g : Game} {rule : Option String}
    {inner : List RawEffect} (hd : b.descent? c g raw = .ok (.list rule c' inner)) :
    Fits b.document n inner := by
  rcases Rulebook.descent?_list hd with ⟨rfl, hbranch⟩ | ⟨id, r, rfl, -, -⟩
  · by_cases hne : inner = []
    · exact .empty hne
    have hlt := branchDepth_lt hraw hbranch hne
    cases h with
    | empty h => rw [h] at hraw; cases hraw
    | quiet hquiet h => exact .quiet (fun x hx => hquiet x (hx.of_branch hraw hbranch)) (by omega)
    | roomy h => exact .roomy (by omega)
  · obtain ⟨hop, r, hr, rfl⟩ := Rulebook.descent?_ability hd
    have hle := Document.branchDepth_le_boundDepth hr
    cases h with
    | empty h => rw [h] at hraw; cases hraw
    | quiet hquiet h => exact absurd hop (hquiet raw (.here hraw))
    | roomy h => exact .quiet (hbound r hr) (by omega)

/-- Effects end in as many levels as they fit into. -/
theorem Fits.ends {b : Rulebook} (hbound : ∀ r ∈ b.document.boundAbilities, Quiet r.effects)
    {n : Nat} {raws : List RawEffect} (h : Fits b.document n raws) (c : Circumstances) (g : Game) :
    Ends b n c raws g (Play.effects b n c raws { game := g }) := by
  refine .of_rank (R := Fits b.document) (fun raws h => ?_)
    (fun n raws h raw hraw c g rule c' inner hd => h.descent hbound hraw hd) n c raws g h
  cases h with
  | empty h => exact h
  | quiet hquiet h => exact absurd h (Nat.not_lt_zero _)
  | roomy h => exact absurd h (Nat.not_lt_zero _)

/-! ## Calls -/

namespace Call

/-- The call names a rule. -/
def NamesRule : Call → Prop
  | .action _ _ _ | .ability _ _ _ => True
  | .effect _ _ => False

variable {b : Rulebook} {g : Game} {call : Call}

/-- A call of a rule that passes its gate runs the effects of the rule. -/
theorem descent?_rule (hcall : call.NamesRule) {d : Descent} (h : call.descent? b g = .ok d) :
    ∃ id r c, d = .list (some id) c r.effects ∧
      (b.document.action? id = some r ∨ b.document.ability? id = some r) := by
  cases call with
  | action actor id params =>
    obtain ⟨s, hs, h⟩ := bind_eq_ok h
    obtain ⟨r, hr, h⟩ := bind_eq_ok h
    obtain ⟨params', -, h⟩ := bind_eq_ok h
    cases h
    exact ⟨s, r, _, rfl, .inl (Rulebook.action?_ok (Rulebook.checkedAction?_ok hr))⟩
  | ability actor id params =>
    obtain ⟨params', -, h⟩ := bind_eq_ok h
    obtain ⟨s, hs, h⟩ := bind_eq_ok h
    obtain ⟨r, hr, h⟩ := bind_eq_ok h
    cases h
    exact ⟨s, r, _, rfl, .inr (Rulebook.ability?_ok (Rulebook.checkedAbility?_ok hr))⟩
  | effect c raw => exact hcall.elim

/-- A call of a rule ends as the effects of the rule end with the budget of the call. -/
theorem play_of_descent? {id : String} {c : Circumstances} {raws : List RawEffect}
    (h : call.descent? b g = .ok (.list (some id) c raws)) :
    call.play b { game := g } = Play.renamed (RuleError.inRule id)
      (Play.effects b (b.budget (branchDepth raws)) c raws { game := g }) := by
  rw [play_eq]
  dsimp only
  rw [h]
  exact Play.mapRule_apply _ _ _

end Call

theorem Document.boundDepth_le_deepestOf (d : Document) : d.boundDepth ≤ deepestOf d.abilities := by
  refine foldl_max_le fun n hn => ?_
  obtain ⟨r, hr, rfl⟩ := List.mem_map.1 hn
  obtain ⟨e, -, hr⟩ := List.mem_filterMap.1 hr
  exact branchDepth_le_deepestOf hr

/-- Calls end if no card's ability triggers another. Let no ability that a card is bound to hold, at
any depth under the keys of branches, an effect that triggers the ability of a card. Then every call
of an action or ability, by any player and in any game, fails at the gate or comes to an end without
any budget: the lists below that of the called rule are nested no deeper than the rule's branches,
one list more for an ability and the branches of that. The call ends so, and it would with any
budget above `Document.nesting`, which the document alone gives. -/
theorem calls_end (b : Rulebook) (hbound : ∀ r ∈ b.document.boundAbilities, Quiet r.effects)
    (g : Game) (call : Call) (hcall : call.NamesRule) :
    (∃ e, call.descent? b g = .error e ∧ call.play b { game := g } = .error e { game := g }) ∨
      ∃ id r c res, call.descent? b g = .ok (.list (some id) c r.effects) ∧
        (b.document.action? id = some r ∨ b.document.ability? id = some r) ∧
        Ends b (branchDepth r.effects + 1 + b.document.boundDepth + 1) c r.effects g res ∧
        call.play b { game := g } = Play.renamed (RuleError.inRule id) res ∧
        ∀ n, b.document.nesting < n → Play.effects b n c r.effects { game := g } = res := by
  cases hd : call.descent? b g with
  | error e =>
    refine .inl ⟨e, rfl, ?_⟩
    rw [Call.play_eq]
    dsimp only
    rw [hd]
    rfl
  | ok d =>
    obtain ⟨id, r, c, rfl, hr⟩ := Call.descent?_rule hcall hd
    have hends := (Fits.roomy (Nat.lt_succ_self _) :
      Fits b.document (branchDepth r.effects + 1 + b.document.boundDepth + 1) r.effects).ends
      hbound c g
    have hdeep : branchDepth r.effects ≤
        max (deepestOf b.document.actions) (deepestOf b.document.abilities) := by
      rcases hr with hr | hr
      · exact Nat.le_trans (branchDepth_le_deepestOf hr) (Nat.le_max_left _ _)
      · exact Nat.le_trans (branchDepth_le_deepestOf hr) (Nat.le_max_right _ _)
    refine .inr ⟨id, r, c, _, rfl, hr, hends, ?_, fun n hn => hends.effects n ?_⟩
    · rw [Call.play_of_descent? hd, hends.effects]
      have hle := b.document.boundDepth_le_deepestOf
      unfold Rulebook.budget
      omega
    · unfold Document.nesting at hn
      omega

/-- The ability that shows a card triggers none, so a trade takes three levels: its own list, and
below it a branch of it or the list of the ability. -/
theorem calls_end_sample :
    (∀ r ∈ Sample.rulebook.document.boundAbilities, Quiet r.effects) ∧ Sample.trade.NamesRule ∧
      Sample.rulebook.document.nesting = 2 ∧
      ∃ c raws res, Sample.trade.descent? Sample.rulebook Sample.game =
          .ok (.list (some "trade") c raws) ∧
        Ends Sample.rulebook 3 c raws Sample.game res ∧
        Sample.trade.play Sample.rulebook { game := Sample.game } =
          Play.renamed (RuleError.inRule "trade") res := by
  have hbound : ∀ r ∈ Sample.rulebook.document.boundAbilities, Quiet r.effects :=
    fun r hr => .of_branchless ((by decide +kernel : ∀ r ∈ Sample.rulebook.document.boundAbilities,
      ∀ raw ∈ r.effects, RawEffect.op raw ≠ .text triggerOp ∧ ∀ e ∈ raw, e.1 ∉ branchKeys) r hr)
  refine ⟨hbound, trivial, rfl, ?_⟩
  rcases calls_end Sample.rulebook hbound Sample.game Sample.trade trivial with
    ⟨e, hd, -⟩ | ⟨id, r, c, res, hd, -, hends, hplay, -⟩
  · cases hd
  · obtain ⟨hid, rfl, hraws⟩ := Descent.list.inj (Except.ok.inj hd)
    cases hid
    rw [← hraws] at hends
    exact ⟨_, _, res, rfl, hends, hplay⟩

end CardRules
