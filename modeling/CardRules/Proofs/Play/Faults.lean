import CardRules.Proofs.Expr.Faults
import CardRules.Proofs.Play.Conditions
import CardRules.Proofs.Play.Reading
import CardRules.Proofs.Rules.Normal

/-!
# How a condition can fail

By the rules a condition fails in one way: its text is no expression, or the expression has no
value. Where the scope of a game can be built (`scopeOf?_sound`), there are two more failures: the
evaluation comes upon a whole number too large for binary64, or upon an operand that it has to write
and that has no text (`condition_truth_or_invalid`).
-/

namespace CardRules

open CardRules.Expr (Scope Function)

/-! ## Scopes -/

namespace Game

variable {g : Game} {a : Nat}

theorem seatAt?_of_lt (h : a < g.seats) : g.seatAt? (.int a) = .ok a := by
  unfold seatAt?
  simp only [Value.asNumber?]
  rw [if_pos (Int.natCast_nonneg a), if_pos (by omega), Int.toNat_natCast]

/-- The number of the next seat follows that of the current one, and the first that of the last. -/
theorem nextSeatValue?_of_number {i : Int} (h : g.turn.seat.asNumber? = some (.int i))
    (hpos : 0 < g.seats) : g.nextSeatValue? = .ok (.int ((i + 1).fmod g.seats)) := by
  unfold nextSeatValue?
  rw [h]
  dsimp only
  rw [if_neg (Nat.ne_of_gt hpos)]
  rfl

/-- If there is a current seat, then there is a next one. -/
theorem nextSeat?_of_currentSeat? (h : g.currentSeat? = .ok a) : ∃ a', g.nextSeat? = .ok a' := by
  have hlt : a < g.seats := Play.currentSeat?_ok h
  unfold currentSeat? seatAt? at h
  split at h
  · rename_i i hi
    have hpos : (0 : Int) < g.seats := by omega
    have hvalue := nextSeatValue?_of_number hi (by omega)
    have hnext : ((i + 1).fmod g.seats).toNat < g.seats := by
      have := Int.fmod_lt_of_pos (i + 1) hpos
      omega
    refine ⟨((i + 1).fmod g.seats).toNat, ?_⟩
    unfold nextSeat?
    rw [hvalue]
    show g.seatAt? (.int ((i + 1).fmod g.seats)) = _
    conv_lhs => rw [← Int.toNat_of_nonneg (Int.fmod_nonneg_of_pos (i + 1) hpos)]
    exact seatAt?_of_lt hnext
  · cases h

theorem player?_of_lt (h : a < g.players.length) : ∃ p, g.player? a = .ok p := by
  unfold player?
  rw [List.getElem?_eq_getElem h]
  exact ⟨_, rfl⟩

end Game

/-- The turn of the game is that of a player, if there are players at all. -/
def Game.HasTurn (g : Game) : Prop := g.players = [] ∨ ∃ a, g.currentSeat? = .ok a

/-- The parameters and the ability context stand for objects. -/
structure Circumstances.Plain (c : Circumstances) : Prop where
  params : ∃ v, c.params.asObject? = .ok v
  abilityContext : ∃ v, c.abilityContext.asObject? = .ok v

variable {g : Game} {c : Circumstances} {metadata : Table Value}

/-- A scope has room for no player, or for the one in a seat. -/
theorem seated_ok {seat? : Except Fault Nat}
    (h : g.players = [] ∨ ∃ a, seat? = .ok a ∧ a < g.players.length) :
    ∃ x, (if g.players.isEmpty then .ok .null
      else do
        let seat ← seat?
        return Expr.Operand.player seat (← g.player? seat)) = .ok x := by
  rcases h with h | ⟨a, rfl, hlt⟩
  · rw [h]
    exact ⟨_, rfl⟩
  · obtain ⟨p, hp⟩ := g.player?_of_lt hlt
    have hne : g.players.isEmpty = false := by
      rw [List.isEmpty_eq_false_iff]
      exact List.ne_nil_of_length_pos (by omega)
    exact ⟨.player a p, by rw [hne]; simp [bind, Except.bind, hp]; rfl⟩

/-- There is a scope, with the one function that scores hands. -/
theorem scopeOf?_of_hasTurn (hturn : g.HasTurn) (hc : c.Plain) (metadata : Table Value) :
    let values := (metadata.get? "cardValues").getD .null
    ∃ scope, scopeOf? g metadata c = .ok scope ∧ scope.functions =
      [("handScore", .handScore (if values.isVoid then .object [] else values))] := by
  obtain ⟨params, hparams⟩ := hc.params
  obtain ⟨context, hcontext⟩ := hc.abilityContext
  obtain ⟨current, hcurrent⟩ := seated_ok <|
    hturn.imp_right fun ⟨a, ha⟩ => ⟨a, ha, Play.currentSeat?_ok ha⟩
  obtain ⟨next, hnext⟩ := seated_ok <| hturn.imp_right fun ⟨a, ha⟩ =>
    (Game.nextSeat?_of_currentSeat? ha).imp fun a' ha' => ⟨ha', Play.nextSeat?_ok ha'⟩
  unfold scopeOf?
  dsimp only
  rw [hcurrent, hnext, hparams, hcontext]
  exact ⟨_, rfl, rfl⟩

theorem handScore_sound {values : Value} (h : ∃ es, values = .object es) :
    (Function.handScore (if values.isVoid then .object [] else values)).Sound := by
  obtain ⟨es, rfl⟩ := h
  show (if _ then _ else _ : Value).entries?.isSome
  split <;> rfl

/-- There is a scope, and its function is sound. -/
theorem scopeOf?_sound (hturn : g.HasTurn) (hc : c.Plain)
    (hvalues : ∃ es, metadata.get? "cardValues" = some (.object es)) :
    ∃ scope, scopeOf? g metadata c = .ok scope ∧ scope.Sound := by
  obtain ⟨es, hes⟩ := hvalues
  obtain ⟨scope, hscope, hfunctions⟩ := scopeOf?_of_hasTurn hturn hc metadata
  rw [hes, Option.getD_some] at hfunctions
  refine ⟨scope, hscope, fun name fn hfn => ?_⟩
  rw [hfunctions, Table.get?_cons] at hfn
  split at hfn <;> cases hfn
  exact handScore_sound ⟨es, rfl⟩

/-! ## Conditions -/

/-- A fault is due to what the evaluation of a condition comes upon. -/
def Rulebook.Due (b : Rulebook) (g : Game) (c : Circumstances) (condition : Value) (f : Fault) :
    Prop :=
  ∃ text t scope, conditionText? condition = some text ∧ Expr.parse text = .ok t ∧
    scopeOf? g b.document.metadata.normal c = .ok scope ∧ Expr.Due scope t f

theorem Expr.truthAt_fault {scope : Scope} (hscope : scope.Sound) {d : Nat} {t : Expr} {f : Fault}
    (h : Expr.truthAt scope d t = .error (.fault f)) : Expr.Due scope t f := by
  rcases bind_eq_error h with h | ⟨x, hx, h⟩
  · exact eval_fault hscope h
  · exact .value (.self t) hx (truthOf_fault h)

/-- Conditions have a truth or fail as invalid expressions. Let the rules be read from a document,
the turn be that of a player if there are players, and the parameters and the ability context stand
for objects. Then a condition, whatever it is, holds or does not hold, or it fails with its text and
the reason why that is invalid. It only fails otherwise by an overflow, if its evaluation comes upon
a whole number too large for binary64, or for want of a text, if it comes upon an operand that holds
a whole number with too many digits. -/
theorem condition_truth_or_invalid {v : Value} {b : Rulebook}
    (hdoc : Document.ofValue? v = .ok b.document) {g : Game} (hturn : g.HasTurn)
    {c : Circumstances} (hc : c.Plain) (condition : Value) :
    (∃ truth, b.holds? g c condition = .ok truth) ∨
      (∃ text reason, conditionText? condition = some text ∧
        b.holds? g c condition = .error (.of (.invalidExpression text reason))) ∨
      ∃ f, (f = .overflow ∨ f = .unreadable) ∧ b.holds? g c condition = .error (.fault f) ∧
        b.Due g c condition f := by
  obtain ⟨scope, hscope, hsound⟩ := scopeOf?_sound hturn hc (Document.cardValues_object hdoc)
  cases htext : conditionText? condition with
  | none =>
    refine .inl ⟨true, ?_⟩
    rw [Rulebook.holds?, htext]
  | some text =>
    have hholds : b.holds? g c condition = truthIn text scope := by
      rw [Rulebook.holds?, htext, hscope]
      rfl
    rw [hholds]
    cases hparse : Expr.parse text with
    | error e =>
      refine .inr (.inl ⟨text, .parsing e, rfl, ?_⟩)
      rw [truthIn, evaluate, hparse]
      rfl
    | ok t =>
      rw [truthIn_of_parse hparse]
      cases htruth : Expr.truthAt scope Expr.evalDepth t with
      | ok truth => exact .inl ⟨truth, rfl⟩
      | error i =>
        cases i with
        | reason r => exact .inr (.inl ⟨text, .evaluation r, rfl, rfl⟩)
        | fault f =>
          have hdue := Expr.truthAt_fault hsound htruth
          exact .inr (.inr ⟨f, hdue.fault_cases, rfl, text, t, scope, htext, hparse, hscope, hdue⟩)

namespace Sample

/-- The rules that give a value to aces. -/
def scoring : Rulebook where
  document := .ofNormal (.object
    [("metadata", .object
      [("deck", DeckConfig.default), ("setup", SetupConfig.default),
       ("cardValues", .object [("A", .int 1)]), ("cardAbilities", .object []),
       ("kabuWinScore", .null)]),
     ("actions", .object []), ("abilities", .object [])])

/-- One player, with an ace. -/
def solitaire : Game where
  players :=
    [{ id := .int 1, name := .text "Ann", hand := .list [.text "AS"],
       known := .list [.bool false] }]

/-- The player counts very far. -/
def counting : Circumstances where
  playerId := .int 1
  params := .object [("count", .int (10 ^ 309))]

/-- The player counts as far as numbers can be written. -/
def countingOn : Circumstances :=
  { counting with params := .object [("count", .int (10 ^ longestNumeral - 1))] }

theorem ofValue?_scoring :
    Document.ofValue? (.object [("metadata", .object [("cardValues", .object [("A", .int 1)])])]) =
      .ok scoring.document := by
  decide +kernel

theorem counting_plain : counting.Plain := ⟨⟨_, rfl⟩, ⟨_, rfl⟩⟩

theorem countingOn_plain : countingOn.Plain := ⟨⟨_, rfl⟩, ⟨_, rfl⟩⟩

end Sample

/-- The number is compared exactly, but it has no quotient; and the square of the other has no text
to be looked up as a name. -/
theorem condition_truth_or_invalid_sample :
    Sample.solitaire.HasTurn ∧
      Sample.scoring.holds? Sample.solitaire Sample.counting
        (.text "handScore(currentPlayer.hand) < params.count") = .ok true ∧
      Sample.scoring.Due Sample.solitaire Sample.counting
        (.text "params.count / handScore(currentPlayer.hand) > 0") .overflow ∧
      Sample.scoring.Due Sample.solitaire Sample.countingOn
        (.text "params[params.count * params.count]") .unreadable := by
  have hturn : Sample.solitaire.HasTurn := .inr ⟨0, rfl⟩
  have hdue {c : Circumstances} (hc : c.Plain) {text : String} {f : Fault}
      (hfails : Sample.scoring.holds? Sample.solitaire c (.text text) = .error (.fault f)) :
      Sample.scoring.Due Sample.solitaire c (.text text) f := by
    rcases condition_truth_or_invalid Sample.ofValue?_scoring hturn hc (.text text) with
      ⟨truth, h⟩ | ⟨_, reason, -, h⟩ | ⟨f', -, h, hdue⟩
    · cases hfails.symm.trans h
    · cases hfails.symm.trans h
    · cases hfails.symm.trans h
      exact hdue
  exact ⟨hturn, by decide +kernel, hdue Sample.counting_plain (by decide +kernel),
    hdue Sample.countingOn_plain (by decide +kernel)⟩

/-- A number other than zero is true, but not one so large: its truth is an overflow. -/
theorem condition_overflows :
    Document.ofValue?
          (.object [("metadata", .object [("cardValues", .object [("A", .int 1)])])]) =
        .ok Sample.scoring.document ∧
      Sample.solitaire.HasTurn ∧ Sample.counting.Plain ∧
      Sample.scoring.holds? Sample.solitaire Sample.counting (.text "params.count") =
        .error (.fault .overflow) :=
  ⟨Sample.ofValue?_scoring, .inr ⟨0, rfl⟩, Sample.counting_plain, by decide +kernel⟩

end CardRules
