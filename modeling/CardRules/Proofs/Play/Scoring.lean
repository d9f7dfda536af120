import CardRules.Proofs.Cards.Decks
import CardRules.Proofs.Cards.LiningUp
import CardRules.Proofs.Play.Faults
import CardRules.Proofs.Rules.Rereading

/-!
# Scoring a round

In a document whose values of ranks and winning score are whole numbers a round is scored in whole
numbers: every player gains the worth of the hand (`Player.scored`), and if there is a winning
score, the first player who has no more points than that wins (`Game.judged`). `round_scored` says
so, and that nothing happens if a score is no number. Between the two the scores are put in words,
so that a score with too many digits leaves the match undecided (`scoreRound_unannounced`).

Three parts read the values of ranks: the effect, the function that scores a hand for a document,
and the one that conditions call. They agree because conditions see the values of ranks as the
document holds them (`Document.rankValues_seen`).
-/

namespace CardRules

/-! ## Points -/

namespace Metadata

/-- The worth of a card, which is the value of its rank. A rank without a value is worth nothing. -/
def cardWorth (m : Metadata) : Value → Int
  | .text code =>
    match m.cardValues.get? (cardRank code) with
    | some (.int i) => i
    | _ => 0
  | _ => 0

/-- The values of ranks and the winning score, if there is one, are whole numbers. -/
structure InWholes (m : Metadata) : Prop where
  values : ∀ e ∈ m.cardValues, ∃ i, e.2 = .int i
  limit : ∀ n, m.winScore = some n → ∃ i, n = .int i

end Metadata

namespace Player

/-- The score in whole numbers, zero if there is none. -/
def points (p : Player) : Int :=
  match p.score with
  | .number (.int i) => i
  | _ => 0

/-- The worth of the hand. -/
def worth (m : Metadata) (p : Player) : Int := (p.cards.map m.cardWorth).sum

/-- The player with the worth of the hand added to the score. -/
def scored (m : Metadata) (p : Player) : Player := { p with score := .int (p.points + p.worth m) }

/-- The hand is a list of codes. -/
def HoldsCodes (p : Player) : Prop := ∃ codes : List String, p.hand = .list (codes.map .text)

/-- The score is a whole number or null. -/
def HasPoints (p : Player) : Prop := p.score = .null ∨ ∃ i : Int, p.score = .int i

/-- The name can be written, and so can the score with the worth of the hand added. -/
def Announceable (m : Metadata) (p : Player) : Prop :=
  p.name.hasText = true ∧ (p.points + p.worth m).natAbs < 10 ^ longestNumeral

end Player

namespace Game

/-- The game with all hands scored. -/
def scored (m : Metadata) (g : Game) : Game := { g with players := g.players.map (.scored m) }

/-- The game decided for a player. -/
def wonBy (g : Game) (p : Player) : Game :=
  { g with
    contest := { g.contest with decided := .bool true, winner := p.id }
    turn := { g.turn with phase := .text gameOverPhase } }

/-- The game decided for the first player with no more points than the winning score, if there are
both. -/
def judged (m : Metadata) (g : Game) : Game :=
  match m.winScore with
  | some (.int limit) =>
    match g.players.find? (·.points ≤ limit) with
    | some p => g.wonBy p
    | none => g
  | _ => g

/-- What is reported of a scored hand. -/
def scoreReport (m : Metadata) (g : Game) (p : Player) : Value :=
  roundScore p.id (.int (p.worth m)) g.round.number

end Game

/-! ## Values of ranks -/

namespace Schema

/-- In a normal form the value of a field has passed the check of the field. -/
theorem passed_of_model {title : String} {fields : List Field}
    (hnames : (fields.map Field.camel).Nodup) {v w : Value} (h : model title fields v = .ok w)
    {f : Field} (hf : f ∈ fields) (hsettles : f.Settles) :
    ∃ x, (asEntries w).get? f.camel = some x ∧ f.check x = .ok x := by
  obtain ⟨x, hx, hadmits⟩ := get?_of_model hnames h hf
  exact ⟨x, hx, hsettles.admitted hadmits⟩

/-- The entries of a table that was read have passed the check. -/
theorem tableOf_entries {check : Check} {v : Value} {es : Table Value}
    (h : tableOf check v = .ok (.object es)) : ∀ e ∈ es, ∃ given, check given = .ok e.2 := by
  cases v with
  | object given =>
    obtain ⟨ws, hws, hes⟩ := map_eq_ok h
    obtain rfl := Value.object.inj hes
    intro e he
    obtain ⟨e', -, he'⟩ : ∃ e' ∈ given, entryOf check e' = .ok e :=
      List.mem_map.1 (collect_eq_ok hws ▸ List.mem_map_of_mem he)
    obtain ⟨w, hw, rfl⟩ := map_eq_ok (under_eq_ok he')
    exact ⟨e'.2, hw⟩
  | _ => cases h

end Schema

open Schema

/-- Conditions see the values of ranks as the document holds them. -/
theorem Document.rankValues_seen {v : Value} {d : Document} (h : Document.ofValue? v = .ok d) :
    d.metadata.normal.get? "cardValues" = some d.rankValues := by
  obtain ⟨w, hcheck, rfl⟩ := map_eq_ok h
  obtain ⟨x, hx, hmetadata⟩ := passed_of_model
    (f := withDefault "metadata" "metadata" Metadata.check Metadata.default) (by decide) hcheck
    (by simp [fields]) (settles_withDefault _ _ Metadata.settles_check rfl)
  obtain ⟨y, hy, hvalues⟩ := passed_of_model
    (f := withDefault "cardValues" "card_values" (tableOf number) (.object [])) (by decide)
    hmetadata (by simp [Metadata.fields])
    (settles_withDefault _ _ (settles_tableOf settles_number) rfl)
  have hvalues' : tableOf number y = .ok y := hvalues
  obtain ⟨es, rfl⟩ := tableOf_ok hvalues'
  have hread : (ofNormal w).metadata = .ofNormal x := by
    show Metadata.ofNormal (fieldOf w "metadata") = .ofNormal x
    rw [fieldOf, show (asEntries w).get? "metadata" = some x from hx, Option.getD_some]
  -- Reading the values as numbers and writing them as values again changes nothing.
  have hnumbers : (es.map fun e => (e.1, asNumber e.2)).map (fun e => (e.1, Value.number e.2)) =
      es := by
    rw [List.map_map]
    refine List.map_congr_left (fun e he => ?_) |>.trans es.map_id
    obtain ⟨given, hgiven⟩ := tableOf_entries hvalues' e he
    obtain ⟨n, hn⟩ := number_ok hgiven
    obtain ⟨k, u⟩ := e
    obtain rfl : u = .number n := hn
    rfl
  have hy' : (asEntries x).get? "cardValues" = some (.object es) := hy
  rw [rankValues, hread]
  show (asEntries x).get? "cardValues" = some (.object
    ((asTable asNumber (fieldOf x "cardValues")).map fun e => (e.1, Value.number e.2)))
  rw [fieldOf, hy', Option.getD_some]
  exact congrArg (fun es => some (Value.object es)) hnumbers.symm

/-- The values of ranks as entries. -/
def Metadata.rankEntries (m : Metadata) : Entries Value :=
  (m.cardValues.map fun e => (e.1, Value.number e.2)).map fun e => (.text e.1, e.2)

theorem Document.entries?_rankValues (d : Document) :
    d.rankValues.entries? = some d.metadata.rankEntries := rfl

theorem Metadata.get?_rankEntries (m : Metadata) (rank : String) :
    m.rankEntries.get? (.text rank) = (m.cardValues.get? rank).map .number := by
  rw [rankEntries]
  induction m.cardValues with
  | nil => rfl
  | cons e t ih =>
    obtain ⟨k, n⟩ := e
    rw [Table.get?_cons]
    by_cases hk : rank = k
    · simp [Entries.get?, Scalar.alike, hk]
    · have hne : (k == rank) = false := by simpa using Ne.symm hk
      rw [if_neg hk, ← ih]
      simp [Entries.get?, Scalar.alike, hne]

theorem Metadata.InWholes.rankEntries {m : Metadata} (h : m.InWholes) : m.rankEntries.InWholes := by
  intro e he
  rw [Metadata.rankEntries, List.map_map] at he
  obtain ⟨e', he', rfl⟩ := List.mem_map.1 he
  obtain ⟨i, hi⟩ := h.values e' he'
  exact ⟨i, congrArg Value.number hi⟩

theorem Metadata.cardWorth_text (m : Metadata) (code : String) :
    m.cardWorth (.text code) = rankWorth m.rankEntries (cardRank code) := by
  simp only [cardWorth, rankWorth, get?_rankEntries]
  cases m.cardValues.get? (cardRank code) with
  | none => rfl
  | some n => cases n <;> rfl

/-- A hand of codes scores its worth by the values of a document. -/
theorem Document.handScore?_worth {d : Document} (hd : d.metadata.InWholes) {p : Player}
    (hp : p.HoldsCodes) : handScore? d.rankValues p.hand = .ok (.int (p.worth d.metadata)) := by
  obtain ⟨codes, hcodes⟩ := hp
  have hworth : p.worth d.metadata = handWorth d.metadata.rankEntries codes := by
    rw [Player.worth, Player.cards, hcodes, handWorth, List.map_map]
    exact congrArg List.sum (List.map_congr_left fun code _ => d.metadata.cardWorth_text code)
  rw [hcodes, hworth]
  exact handScore?_codes d.entries?_rankValues hd.rankEntries codes

/-! ## The round -/

namespace Play

variable {r : Run} {d : Document}

theorem scoreNumber?_int (i : Int) : scoreNumber? (.int i) = some (.int i) := by
  by_cases hi : i = 0
  · rw [hi]
    rfl
  · simp [scoreNumber?, Number.isZero, hi]

/-- Null and numbers are the scores that a round can add to. -/
theorem scoreNumber?_isNone {v : Value} :
    (scoreNumber? v).isNone ↔ v ≠ .null ∧ ∀ n, v ≠ .number n := by
  cases v <;> simp [scoreNumber?]

/-- Where all scores are null or numbers, no player is refused. -/
theorem find?_invalid_eq_none {players : List Player}
    (h : ∀ p ∈ players, p.score = .null ∨ ∃ n, p.score = .number n) :
    (players.find? fun p => (scoreNumber? p.score).isNone) = none := by
  rw [List.find?_eq_none]
  intro p hp hnone
  obtain ⟨hnull, hnumber⟩ := scoreNumber?_isNone.1 hnone
  rcases h p hp with hscore | ⟨n, hn⟩
  · exact hnull hscore
  · exact hnumber n hn

/-- One hand is scored: the score of the player grows and is reported. -/
theorem scoreSeat_apply (hd : d.metadata.InWholes) {a : Nat} {p : Player}
    (hp : r.game.players[a]? = some p) (hcodes : p.HoldsCodes) (hpoints : p.HasPoints) :
    scoreSeat d a r = .ok () { r with
      game := r.game.modifyPlayer a (.scored d.metadata)
      events := r.events ++ [r.game.scoreReport d.metadata p] } := by
  have hadd : ((scoreNumber? p.score).getD (.int 0)).add (.int (p.worth d.metadata)) =
      some (.int (p.points + p.worth d.metadata)) := by
    rcases hpoints with hnull | ⟨i, hi⟩
    · rw [hnull, Player.points, hnull]
      rfl
    · rw [hi, Player.points, hi, scoreNumber?_int]
      rfl
  rw [scoreSeat, bind_of_ok (player_of hp), Document.handScore?_worth hd hcodes,
    bind_of_ok (orFault_ok _ r)]
  have hscored : (r.game.modifyPlayer a fun q =>
      { q with score := .int (p.points + p.worth d.metadata) }) =
        r.game.modifyPlayer a (.scored d.metadata) := modifyPlayer_congr hp rfl
  simp only [hadd]
  rw [bind_of_ok (modifyPlayer_apply _ _ _), bind_of_ok (game_apply _), emit_apply, hscored]
  rfl

/-- The hands from a seat on are scored in order. -/
theorem scoreSeats_apply (hd : d.metadata.InWholes) {front back : List Player}
    (hplayers : r.game.players = front ++ back) (hcodes : ∀ p ∈ back, p.HoldsCodes)
    (hpoints : ∀ p ∈ back, p.HasPoints) :
    (List.range' front.length back.length).forM (scoreSeat d) r = .ok () { r with
      game := { r.game with players := front ++ back.map (.scored d.metadata) }
      events := r.events ++ back.map (r.game.scoreReport d.metadata) } := by
  -- The players in front have their new scores already, so the induction is on those behind them.
  induction back generalizing front r with
  | nil =>
    rw [List.append_nil] at hplayers
    subst hplayers
    simp only [List.map_nil, List.append_nil]
    rfl
  | cons p back ih =>
    have hp : r.game.players[front.length]? = some p := by simp [hplayers]
    have hone := scoreSeat_apply hd hp (hcodes p List.mem_cons_self) (hpoints p List.mem_cons_self)
    have hnext : (r.game.modifyPlayer front.length (.scored d.metadata)).players =
        (front ++ [p.scored d.metadata]) ++ back := by
      rw [Game.modifyPlayer, hplayers, List.modify_eq_take_cons_drop (by simp)]
      simp
    have hrest := ih (r := { r with
      game := r.game.modifyPlayer front.length (.scored d.metadata)
      events := r.events ++ [r.game.scoreReport d.metadata p] }) hnext
      (fun q hq => hcodes q (List.mem_cons_of_mem _ hq))
      (fun q hq => hpoints q (List.mem_cons_of_mem _ hq))
    rw [List.length_append, List.length_singleton] at hrest
    show (scoreSeat d front.length >>= fun _ => _) r = _
    rw [bind_of_ok hone, hrest]
    simp [Game.modifyPlayer, Game.scoreReport]

/-- Scores in whole numbers are compared with the winning score as such. -/
theorem reaches_points {p : Player} {limit : Int} (h : ∃ i : Int, p.score = .int i) :
    reaches (.int limit) p.score = decide (p.points ≤ limit) := by
  obtain ⟨i, hi⟩ := h
  rw [Player.points, hi, Bool.eq_iff_iff, decide_eq_true_eq]
  show (compare i limit != .gt) = true ↔ i ≤ limit
  rw [bne_iff_ne, Int.compare_ne_gt]

/-- The match is decided by the winning score of the document, if it has one. -/
theorem judge_apply (hd : d.metadata.InWholes)
    (hscores : ∀ p ∈ r.game.players, ∃ i : Int, p.score = .int i) :
    (match d.metadata.winScore with
      | none => return ()
      | some limit => decideMatch limit : Play Unit) r =
        .ok () { r with game := r.game.judged d.metadata } := by
  unfold Game.judged
  cases hwin : d.metadata.winScore with
  | none => rfl
  | some limit =>
    obtain ⟨limit, rfl⟩ := hd.limit _ hwin
    have hfind : (r.game.players.find? fun p => reaches (.int limit) p.score) =
        r.game.players.find? (·.points ≤ limit) :=
      List.find?_congr fun p hp => reaches_points (hscores p hp)
    simp only [decideMatch]
    rw [bind_of_ok (game_apply r), hfind]
    cases r.game.players.find? (·.points ≤ limit) with
    | none => rfl
    | some p => rfl

/-- A score is put in words just if the name and the score have texts. -/
theorem announced?_cases (p : Player) :
    ((∃ text, announced? p = .ok text) ∧ p.name.hasText = true ∧ p.score.hasText = true) ∨
      announced? p = .error .unreadable ∧ ¬ (p.name.hasText = true ∧ p.score.hasText = true) := by
  unfold announced? Value.shown?
  by_cases hname : p.name.hasText = true
  · by_cases hscore : p.score.hasText = true
    · rw [if_pos hname, if_pos hscore]
      exact .inl ⟨⟨_, rfl⟩, hname, hscore⟩
    · rw [if_pos hname, if_neg hscore]
      exact .inr ⟨rfl, fun h => hscore h.2⟩
  · rw [if_neg hname]
    exact .inr ⟨rfl, fun h => hname h.1⟩

/-- Scores are announced just if all names and scores have texts. -/
theorem announcement?_cases (players : List Player) :
    ((∃ text, announcement? players = .ok text) ∧
        ∀ p ∈ players, p.name.hasText = true ∧ p.score.hasText = true) ∨
      announcement? players = .error .unreadable ∧
        ¬ ∀ p ∈ players, p.name.hasText = true ∧ p.score.hasText = true := by
  have hparts : ((∃ parts, players.mapM announced? = .ok parts) ∧
        ∀ p ∈ players, p.name.hasText = true ∧ p.score.hasText = true) ∨
      players.mapM announced? = .error .unreadable ∧
        ¬ ∀ p ∈ players, p.name.hasText = true ∧ p.score.hasText = true := by
    induction players with
    | nil => exact .inl ⟨⟨[], rfl⟩, fun p hp => absurd hp List.not_mem_nil⟩
    | cons p players ih =>
      rw [List.mapM_cons, List.forall_mem_cons]
      rcases announced?_cases p with ⟨⟨part, hpart⟩, hp⟩ | ⟨hpart, hp⟩
      · rcases ih with ⟨⟨parts, hparts⟩, hplayers⟩ | ⟨hparts, hplayers⟩
        · rw [hpart, hparts]
          exact .inl ⟨⟨_, rfl⟩, hp, hplayers⟩
        · rw [hpart, hparts]
          exact .inr ⟨rfl, fun h => hplayers h.2⟩
      · rw [hpart]
        exact .inr ⟨rfl, fun h => hp h.1⟩
  unfold announcement?
  rcases hparts with ⟨⟨parts, hparts⟩, hplayers⟩ | ⟨hparts, hplayers⟩
  · rw [hparts]
    exact .inl ⟨⟨_, rfl⟩, hplayers⟩
  · rw [hparts]
    exact .inr ⟨rfl, hplayers⟩

theorem announceScores_apply (r : Run) :
    announceScores r = (orFault (announcement? r.game.players) >>= fun _ => pure ()) r := rfl

/-- New scores have texts just as they are announceable. -/
theorem scored_hasText {m : Metadata} {players : List Player} :
    (∀ p ∈ players.map (Player.scored m), p.name.hasText = true ∧ p.score.hasText = true) ↔
      ∀ p ∈ players, p.Announceable m := by
  rw [List.forall_mem_map]
  refine forall₂_congr fun p _ => and_congr_right fun _ => ?_
  rw [Player.scored, Value.hasText, Number.hasText, decide_eq_true_iff, Nat.pow_eq]

/-- The run once all hands are scored. -/
def afterScores (m : Metadata) (r : Run) : Run :=
  { r with
    game := r.game.scored m
    events := r.events ++ r.game.players.map (r.game.scoreReport m) }

/-- In whole numbers a round first scores all hands, and then announces the scores and judges. -/
theorem scoreRound_eq (hd : d.metadata.InWholes) (hcodes : ∀ p ∈ r.game.players, p.HoldsCodes)
    (hpoints : ∀ p ∈ r.game.players, p.HasPoints) :
    scoreRound d r = (announceScores >>= fun _ => match d.metadata.winScore with
      | none => return ()
      | some limit => decideMatch limit) (afterScores d.metadata r) := by
  have hvalid := find?_invalid_eq_none fun p hp =>
    (hpoints p hp).imp_right fun ⟨i, hi⟩ => ⟨.int i, hi⟩
  have hscores : (List.range r.game.seats).forM (scoreSeat d) r =
      .ok () (afterScores d.metadata r) := by
    rw [List.range_eq_range']
    exact scoreSeats_apply hd (List.nil_append r.game.players).symm hcodes hpoints
  rw [scoreRound, bind_of_ok (game_apply r), hvalid]
  exact bind_of_ok hscores

theorem scoreRound_apply (hd : d.metadata.InWholes) (hcodes : ∀ p ∈ r.game.players, p.HoldsCodes)
    (hpoints : ∀ p ∈ r.game.players, p.HasPoints)
    (htexts : ∀ p ∈ r.game.players, p.Announceable d.metadata) :
    scoreRound d r = .ok () { afterScores d.metadata r with
      game := (r.game.scored d.metadata).judged d.metadata } := by
  have hannounced : announceScores (afterScores d.metadata r) =
      .ok () (afterScores d.metadata r) := by
    rw [announceScores_apply]
    rcases announcement?_cases (afterScores d.metadata r).game.players with
      ⟨⟨text, htext⟩, -⟩ | ⟨-, hnot⟩
    · rw [htext]
      rfl
    · exact absurd (scored_hasText.2 htexts) hnot
  rw [scoreRound_eq hd hcodes hpoints, bind_of_ok hannounced]
  refine judge_apply hd fun p hp => ?_
  obtain ⟨q, -, rfl⟩ := List.mem_map.1 hp
  exact ⟨_, rfl⟩

/-- A score that has no text stops the round when all hands are scored. -/
theorem scoreRound_unannounced (hd : d.metadata.InWholes)
    (hcodes : ∀ p ∈ r.game.players, p.HoldsCodes) (hpoints : ∀ p ∈ r.game.players, p.HasPoints)
    (htexts : ¬ ∀ p ∈ r.game.players, p.Announceable d.metadata) :
    scoreRound d r = .error (.fault .unreadable) (afterScores d.metadata r) := by
  have hannounced : announceScores (afterScores d.metadata r) =
      .error (.fault .unreadable) (afterScores d.metadata r) := by
    rw [announceScores_apply]
    rcases announcement?_cases (afterScores d.metadata r).game.players with
      ⟨-, hall⟩ | ⟨htext, -⟩
    · exact absurd (scored_hasText.1 hall) htexts
    · rw [htext]
      rfl
  rw [scoreRound_eq hd hcodes hpoints, bind_of_error hannounced]

/-- The first player whose score is no number is named. -/
theorem scoreRound_invalid {front back : List Player} {p : Player}
    (hplayers : r.game.players = front ++ p :: back)
    (hfront : ∀ q ∈ front, q.score = .null ∨ ∃ n, q.score = .number n) (hnull : p.score ≠ .null)
    (hnumber : ∀ n, p.score ≠ .number n) :
    scoreRound d r = .error (.of (.invalidScore p.id p.score)) r := by
  have hfirst : ((front ++ p :: back).find? fun q => (scoreNumber? q.score).isNone) = some p := by
    rw [List.find?_append, find?_invalid_eq_none hfront, Option.none_or]
    exact List.find?_cons_of_pos (scoreNumber?_isNone.2 ⟨hnull, hnumber⟩)
  rw [scoreRound, bind_of_ok (game_apply r), hplayers, hfirst]
  rfl

end Play

/-! ## Conditions -/

/-- The one function of a scope scores hands by the values of ranks in the metadata. -/
theorem scopeOf?_functions {g : Game} {metadata : Table Value} {c : Circumstances}
    {scope : Expr.Scope} (h : scopeOf? g metadata c = .ok scope) :
    let values := (metadata.get? "cardValues").getD .null
    scope.functions =
      [("handScore", .handScore (if values.isVoid then .object [] else values))] := by
  unfold scopeOf? at h
  dsimp only at h
  obtain ⟨_, -, h⟩ := bind_eq_ok h
  obtain ⟨_, -, h⟩ := bind_eq_ok h
  obtain ⟨_, -, h⟩ := bind_eq_ok h
  obtain ⟨_, -, h⟩ := bind_eq_ok h
  cases h
  rfl

/-- Conditions score a hand of codes as the document does. -/
theorem evaluate_handScore {d : Document} (hd : d.metadata.InWholes)
    (hvalues : d.metadata.normal.get? "cardValues" = some d.rankValues) {g : Game}
    {c : Circumstances} {scope : Expr.Scope} (hscope : scopeOf? g d.metadata.normal c = .ok scope)
    {p : Player} (hp : p.HoldsCodes) {text : String} {e : Expr}
    (htext : Expr.parse text = .ok (.call "handScore" [e]))
    (he : Expr.eval scope (Expr.evalDepth - 1) e = .ok (.data p.hand)) :
    evaluate text scope = .ok (.data (.int (p.worth d.metadata))) := by
  -- In conditions nothing and what is void stand for an empty table and an empty hand.
  have htable : (if d.rankValues.isVoid then .object [] else d.rankValues) = d.rankValues := by
    rw [Document.rankValues]
    cases d.metadata.cardValues <;> rfl
  have hhand : (if p.hand.isVoid then .list [] else p.hand) = p.hand := by
    obtain ⟨codes, hcodes⟩ := hp
    rw [hcodes]
    cases codes <;> rfl
  have hfunction : scope.functions.get? "handScore" = some (.handScore d.rankValues) := by
    have hfunctions := scopeOf?_functions hscope
    dsimp only at hfunctions
    rw [hvalues, Option.getD_some, htable] at hfunctions
    rw [hfunctions, Table.get?_cons, if_pos rfl]
  have hcall : (Expr.Function.handScore d.rankValues).call [.data p.hand] =
      .ok (.data (.int (p.worth d.metadata))) := by
    rw [Expr.Function.call, hhand, Document.handScore?_worth hd hp]
    rfl
  rw [evaluate_of_parse htext]
  show (Expr.eval scope (Expr.evalDepth - 1 + 1) (.call "handScore" [e])).mapError _ = _
  rw [Expr.eval, hfunction]
  dsimp only
  rw [List.mapM_cons, he]
  show (Expr.applyFunction "handScore" (.handScore d.rankValues) [.data p.hand]).mapError _ = _
  rw [Expr.applyFunction, hcall]
  rfl

/-- Scoring a round. If a score is neither null nor a number, the effect names the first player with
such a score and does nothing else. In a document with whole numbers for values of ranks and for the
winning score, if there is one, let the players hold codes of cards and have whole numbers or null
for scores. Then every player gains the worth of the hand, which is reported player by player. If
all names and new scores can be written, the first player who has no more points than the winning
score wins the match, and nothing else changes; if one of them cannot, for having too many digits,
the effect stops there by a fault. The worth of a hand is what the document scores it, and what
conditions about the game as it was score it. -/
theorem round_scored (b : Rulebook) (c : Circumstances) {v : Value}
    (hdoc : Document.ofValue? v = .ok b.document) (r : Run) :
    (∀ front p back, r.game.players = front ++ p :: back →
      (∀ q ∈ front, q.score = .null ∨ ∃ n, q.score = .number n) →
      p.score ≠ .null → (∀ n, p.score ≠ .number n) →
        Play.perform b c .scoreRound r = .error (.of (.invalidScore p.id p.score)) r) ∧
    let m := b.document.metadata
    (m.InWholes → (∀ p ∈ r.game.players, p.HoldsCodes) → (∀ p ∈ r.game.players, p.HasPoints) →
      let scored : Run := { r with
        game := r.game.scored m
        events := r.events ++ r.game.players.map (r.game.scoreReport m) }
      ((∀ p ∈ r.game.players, p.Announceable m) →
        Play.perform b c .scoreRound r = .ok () { scored with game := scored.game.judged m }) ∧
      ((∃ p ∈ r.game.players, ¬ p.Announceable m) →
        Play.perform b c .scoreRound r = .error (.fault .unreadable) scored) ∧
      ∀ p ∈ r.game.players,
        handScore? b.document.rankValues p.hand = .ok (.int (p.worth m)) ∧
        ∀ c' scope text e, scopeOf? r.game m.normal c' = .ok scope →
          Expr.parse text = .ok (.call "handScore" [e]) →
          Expr.eval scope (Expr.evalDepth - 1) e = .ok (.data p.hand) →
            evaluate text scope = .ok (.data (.int (p.worth m)))) := by
  refine ⟨fun front p back hplayers hfront hnull hnumber =>
    Play.scoreRound_invalid hplayers hfront hnull hnumber, fun hd hcodes hpoints =>
      ⟨Play.scoreRound_apply hd hcodes hpoints, fun ⟨p, hp, htext⟩ => ?_, fun p hp =>
        ⟨Document.handScore?_worth hd (hcodes p hp), fun c' scope text e hscope htext he => ?_⟩⟩⟩
  · exact Play.scoreRound_unannounced hd hcodes hpoints fun htexts => htext (htexts p hp)
  · have hvalues := Document.rankValues_seen hdoc
    exact evaluate_handScore hd hvalues hscope (hcodes p hp) htext he

namespace Sample

/-- The rules that give a value to aces and kings, and the match to whoever has two points. -/
def racing : Rulebook where
  document := .ofNormal (.object
    [("metadata", .object
      [("deck", DeckConfig.default), ("setup", SetupConfig.default),
       ("cardValues", .object [("A", .int 1), ("K", .int 0)]), ("cardAbilities", .object []),
       ("kabuWinScore", .int 2)]),
     ("actions", .object []), ("abilities", .object [])])

theorem ofValue?_racing :
    Document.ofValue? (.object
      [("metadata", .object
        [("cardValues", .object [("A", .int 1), ("K", .int 0)]), ("kabuWinScore", .int 2)])]) =
      .ok racing.document := by
  decide +kernel

theorem racing_inWholes : racing.document.metadata.InWholes where
  values := by
    have hvalues : racing.document.metadata.cardValues = [("A", .int 1), ("K", .int 0)] := rfl
    rw [hvalues]
    intro e he
    simp only [List.mem_cons, List.not_mem_nil, or_false] at he
    rcases he with rfl | rfl <;> exact ⟨_, rfl⟩
  limit n hn := by
    have hlimit : racing.document.metadata.winScore = some (.int 2) := rfl
    rw [hlimit] at hn
    exact ⟨2, (Option.some.inj hn).symm⟩

/-- Three players at the end of a round, the second without a score. -/
def lastRound : Game where
  players :=
    [{ id := .int 1, name := .text "Ann", hand := .list [.text "AS", .text "KS"],
       known := .list [.bool false, .bool false], score := .int 2 },
     { id := .int 2, name := .text "Bob", hand := .list [.text "AH", .text "QH"],
       known := .list [.bool false, .bool false], score := .null },
     { id := .int 3, name := .text "Cid" }]

theorem lastRound_codes : ∀ p ∈ lastRound.players, p.HoldsCodes := by
  intro p hp
  simp only [lastRound, List.mem_cons, List.not_mem_nil, or_false] at hp
  rcases hp with rfl | rfl | rfl
  · exact ⟨["AS", "KS"], rfl⟩
  · exact ⟨["AH", "QH"], rfl⟩
  · exact ⟨[], rfl⟩

theorem lastRound_points : ∀ p ∈ lastRound.players, p.HasPoints := by
  intro p hp
  simp only [lastRound, List.mem_cons, List.not_mem_nil, or_false] at hp
  rcases hp with rfl | rfl | rfl
  · exact .inr ⟨2, rfl⟩
  · exact .inl rfl
  · exact .inr ⟨0, rfl⟩

theorem lastRound_announceable :
    ∀ p ∈ lastRound.players, p.Announceable racing.document.metadata := by
  intro p hp
  simp only [lastRound, List.mem_cons, List.not_mem_nil, or_false] at hp
  have hdigit (i : Int) (h : i.natAbs < 10) : i.natAbs < 10 ^ longestNumeral :=
    h.trans_le (Nat.le_self_pow (by decide) 10)
  rcases hp with rfl | rfl | rfl
  · exact ⟨rfl, hdigit 3 (by decide)⟩
  · exact ⟨rfl, hdigit 1 (by decide)⟩
  · exact ⟨rfl, hdigit 0 (by decide)⟩

/-- Two players, one of whom comes to more points than can be written, and one without any. -/
def longRound : Game where
  players :=
    [{ id := .int 1, name := .text "Ann", hand := .list [.text "AS"], known := .list [.bool false],
       score := .int (10 ^ longestNumeral - 1) },
     { id := .int 2, name := .text "Bob" }]

theorem longRound_codes : ∀ p ∈ longRound.players, p.HoldsCodes := by
  intro p hp
  simp only [longRound, List.mem_cons, List.not_mem_nil, or_false] at hp
  rcases hp with rfl | rfl
  · exact ⟨["AS"], rfl⟩
  · exact ⟨[], rfl⟩

theorem longRound_points : ∀ p ∈ longRound.players, p.HasPoints := by
  intro p hp
  simp only [longRound, List.mem_cons, List.not_mem_nil, or_false] at hp
  rcases hp with rfl | rfl
  · exact .inr ⟨_, rfl⟩
  · exact .inr ⟨0, rfl⟩

theorem longRound_unannounceable :
    ∃ p ∈ longRound.players, ¬ p.Announceable racing.document.metadata := by
  refine ⟨_, List.mem_cons_self, fun h => ?_⟩
  have htext : (10 ^ longestNumeral - 1 + 1 : Int).natAbs < 10 ^ longestNumeral := h.2
  simp at htext

/-- A player whose score is a text. -/
def misscored : Player := { id := .int 4, name := .text "Dot", score := .text "one" }

theorem parse_currentHand : Expr.parse "handScore(currentPlayer.hand)" =
    .ok (.call "handScore" [.member (.name "currentPlayer") "hand"]) := by
  have htokens : Expr.tokenize "handScore(currentPlayer.hand)" = .ok
      [⟨.name "handScore", 0⟩, ⟨.symbol .openParen, 9⟩, ⟨.name "currentPlayer", 10⟩,
       ⟨.symbol .dot, 23⟩, ⟨.name "hand", 24⟩, ⟨.symbol .closeParen, 28⟩, ⟨.finish, 29⟩] := by
    decide
  rw [Expr.parse, htokens]
  rfl

end Sample

/-- The first player has three points by now, and of the others, who have less, the second comes
first. A score with too many digits leaves the match undecided, and a text for a score is refused. -/
theorem round_scored_sample :
    Document.ofValue? (.object
        [("metadata", .object
          [("cardValues", .object [("A", .int 1), ("K", .int 0)]), ("kabuWinScore", .int 2)])]) =
      .ok Sample.racing.document ∧
    (∃ r', Play.perform Sample.racing Sample.counting .scoreRound { game := Sample.lastRound } =
        .ok () r' ∧
      r'.game.players.map Player.score = [.int 3, .int 1, .int 0] ∧
      r'.game.contest.decided = .bool true ∧ r'.game.contest.winner = .int 2 ∧
      r'.events.length = 3) ∧
    (∃ r', Play.perform Sample.racing Sample.counting .scoreRound { game := Sample.longRound } =
        .error (.fault .unreadable) r' ∧
      r'.game.players.map Player.score = [.int (10 ^ longestNumeral), .int 0] ∧
      r'.game.contest.decided = .bool false ∧ r'.events.length = 2) ∧
    (∃ scope, scopeOf? Sample.lastRound Sample.racing.document.metadata.normal Sample.counting =
        .ok scope ∧
      evaluate "handScore(currentPlayer.hand)" scope = .ok (.data (.int 1))) ∧
    ∃ r : Run, r.game.players = Sample.lastRound.players ++ [Sample.misscored] ∧
      Play.perform Sample.racing Sample.counting .scoreRound r =
        .error (.of (.invalidScore (.int 4) (.text "one"))) r := by
  have hscored := (round_scored Sample.racing Sample.counting Sample.ofValue?_racing
    { game := Sample.lastRound }).2 Sample.racing_inWholes Sample.lastRound_codes
    Sample.lastRound_points
  have hlong := ((round_scored Sample.racing Sample.counting Sample.ofValue?_racing
    { game := Sample.longRound }).2 Sample.racing_inWholes Sample.longRound_codes
    Sample.longRound_points).2.1 Sample.longRound_unannounceable
  refine ⟨Sample.ofValue?_racing, ⟨_, hscored.1 Sample.lastRound_announceable, ?_, ?_, ?_, rfl⟩,
    ⟨_, hlong, ?_, rfl, rfl⟩, ?_, ?_⟩
  · rfl
  · rfl
  · rfl
  · decide +kernel
  · exact ⟨_, rfl, (hscored.2.2 _ List.mem_cons_self).2 Sample.counting _ _ _ rfl
      Sample.parse_currentHand rfl⟩
  · refine ⟨{ game := { players := Sample.lastRound.players ++ [Sample.misscored] } }, rfl, ?_⟩
    refine (round_scored Sample.racing Sample.counting Sample.ofValue?_racing
      { game := { players := Sample.lastRound.players ++ [Sample.misscored] } }).1 _ _ [] rfl
      (fun q hq => ?_) nofun nofun
    exact (Sample.lastRound_points q hq).imp_right fun ⟨i, hi⟩ => ⟨.int i, hi⟩

/-- The second player has fewer points than are needed to win, but the effect fails, and the match
stays undecided, because the points of the first cannot be written. -/
theorem long_score_undecided :
    Document.ofValue? (.object
        [("metadata", .object
          [("cardValues", .object [("A", .int 1), ("K", .int 0)]), ("kabuWinScore", .int 2)])]) =
      .ok Sample.racing.document ∧
    (∀ p ∈ Sample.longRound.players, p.HoldsCodes ∧ p.HasPoints) ∧
    (∃ p ∈ Sample.longRound.players, p.points + p.worth Sample.racing.document.metadata ≤ 2) ∧
    ∃ r', Play.perform Sample.racing Sample.counting .scoreRound { game := Sample.longRound } =
        .error (.fault .unreadable) r' ∧
      r'.game.contest.decided = .bool false := by
  refine ⟨Sample.ofValue?_racing,
    fun p hp => ⟨Sample.longRound_codes p hp, Sample.longRound_points p hp⟩, ?_, ?_⟩
  · exact ⟨_, List.mem_cons_of_mem _ List.mem_cons_self, by decide⟩
  · obtain ⟨p, hp, htext⟩ := Sample.longRound_unannounceable
    exact ⟨_, Play.scoreRound_unannounced Sample.racing_inWholes Sample.longRound_codes
      Sample.longRound_points fun htexts => htext (htexts p hp), rfl⟩

end CardRules
