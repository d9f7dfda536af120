import CardRules.Play.Deal
import CardRules.Proofs.Play.Footprint
import CardRules.Proofs.Records.Laws
import CardRules.Proofs.Results

/-!
# Snapshots of games

A game is *reachable* if it was dealt, or loaded from a snapshot of any making, and has then gone
through calls. The records of a reachable game are unshadowed, whatever flags rules have written
(`Reachable.unshadowed`), so that its snapshot holds all of it (`snapshot_loses_nothing`).
-/

namespace CardRules

/-- No record of the game has an extra under a name that spells one of its fields. -/
structure Game.Unshadowed (g : Game) : Prop where
  players : ∀ p ∈ g.players, Record.Unshadowed p
  turn : Record.Unshadowed g.turn
  round : Record.Unshadowed g.round
  contest : Record.Unshadowed g.contest

namespace Game

variable {g : Game}

/-! ## What calls keep -/

theorem Unshadowed.modifyPlayer (h : g.Unshadowed) {a : Nat} {f : Player → Player}
    (hf : ∀ p, g.players[a]? = some p → Record.Unshadowed p → Record.Unshadowed (f p)) :
    (g.modifyPlayer a f).Unshadowed := by
  refine ⟨fun p hp => ?_, h.turn, h.round, h.contest⟩
  obtain ⟨i, hi⟩ := List.getElem?_of_mem hp
  rw [Game.modifyPlayer, List.getElem?_modify] at hi
  obtain ⟨q, hq, rfl⟩ := Option.map_eq_some_iff.1 hi
  have hunshadowed := h.players q (List.mem_of_getElem? hq)
  split
  · rename_i hi
    subst hi
    exact hf q hq hunshadowed
  · exact hunshadowed

/-- Only a flag may write extras, and it writes a field where its name spells one. -/
theorem Unshadowed.write {part : Part} {r r' : Run} (hwrite : Write part r r')
    (h : r.game.Unshadowed) : r'.game.Unshadowed := by
  cases hwrite with
  | deck | discard | log | event => exact ⟨h.players, h.turn, h.round, h.contest⟩
  | hand a hf =>
    refine h.modifyPlayer fun p hp hunshadowed => ?_
    obtain ⟨hand, known, heq⟩ := hf p hp
    rw [heq]
    exact hunshadowed.of_extras_eq rfl
  | score a score => exact h.modifyPlayer fun p _ hunshadowed => hunshadowed.of_extras_eq rfl
  | turn t hextras => exact ⟨h.players, h.turn.of_extras_eq hextras, h.round, h.contest⟩
  | contest => exact ⟨h.players, h.turn, h.round, h.contest.of_extras_eq rfl⟩
  | flag n v t =>
    cases t with
    | turn => exact ⟨h.players, h.turn.write n v, h.round, h.contest⟩
    | round => exact ⟨h.players, h.turn, h.round.write n v, h.contest⟩
    | contest => exact ⟨h.players, h.turn, h.round, h.contest.write n v⟩
    | player a => exact h.modifyPlayer fun p _ hunshadowed => hunshadowed.write n v

theorem Unshadowed.afterCall (b : Rulebook) (h : g.Unshadowed) (call : Call) :
    (g.afterCall b call).Unshadowed := by
  refine (call.walk b g).induction (M := fun _ g => g.Unshadowed) [] (fun past s hs hg => ?_) h
  rw [Step.game_left]
  exact (Play.perform_writes b _ _).keeps (fun _ _ _ _ hwrite => Unshadowed.write hwrite) hg

end Game

variable {g : Game}

/-! ## Reading snapshots -/

theorem Player.unshadowed_of_ofSnapshot? {v : Value} {p : Player}
    (h : Player.ofSnapshot? v = .ok p) : Record.Unshadowed p := by
  unfold Player.ofSnapshot? at h
  split at h
  · dsimp only at h
    split at h <;> cases h
    exact (Record.unshadowed_of_extras_nil rfl).writeAll _
  · cases h

theorem unshadowed_of_recordOfSnapshot? {ρ : Type} [Record ρ] [LawfulRecord ρ] {fresh r : ρ}
    (hfresh : Record.extras fresh = []) {v : Value} (h : recordOfSnapshot? fresh v = .ok r) :
    Record.Unshadowed r := by
  unfold recordOfSnapshot? at h
  split at h <;> cases h
  exact (Record.unshadowed_of_extras_nil hfresh).writeAll _

/-- A loaded game is unshadowed, whatever it was loaded from. -/
theorem Game.unshadowed_of_ofSnapshot? {v : Value} (h : Game.ofSnapshot? v = .ok g) :
    g.Unshadowed := by
  unfold Game.ofSnapshot? at h
  split at h
  · obtain ⟨deck, -, h⟩ := bind_eq_ok h
    obtain ⟨discard, -, h⟩ := bind_eq_ok h
    obtain ⟨entries, -, h⟩ := bind_eq_ok h
    obtain ⟨players, hplayers, h⟩ := bind_eq_ok h
    obtain ⟨turn, hturn, h⟩ := bind_eq_ok h
    obtain ⟨round, hround, h⟩ := bind_eq_ok h
    obtain ⟨contest, hcontest, h⟩ := bind_eq_ok h
    obtain ⟨log, -, h⟩ := bind_eq_ok h
    obtain ⟨events, -, h⟩ := bind_eq_ok h
    cases h
    refine ⟨fun p hp => ?_, unshadowed_of_recordOfSnapshot? rfl hturn,
      unshadowed_of_recordOfSnapshot? rfl hround, unshadowed_of_recordOfSnapshot? rfl hcontest⟩
    obtain ⟨x, -, hx⟩ := mem_of_mapM hplayers hp
    exact Player.unshadowed_of_ofSnapshot? hx
  · cases h

/-! ## Reading back -/

theorem Player.ofSnapshot?_snapshot {p : Player} (h : Record.Unshadowed p) :
    Player.ofSnapshot? (Record.snapshot p) = .ok p := by
  have hspelled : ((Record.entries p).any (fun e => FieldName.underscored e.1 == "id") &&
      (Record.entries p).any (fun e => FieldName.underscored e.1 == "name")) = true :=
    Bool.and_eq_true_iff.2 ⟨h.spelled Player.Field.id, h.spelled Player.Field.name⟩
  rw [Record.snapshot_eq, Player.ofSnapshot?]
  dsimp only
  rw [if_pos hspelled, h.writeAll_entries rfl]

theorem recordOfSnapshot?_snapshot {ρ : Type} [Record ρ] [LawfulRecord ρ] {fresh r : ρ}
    (h : Record.Unshadowed r) (hfresh : Record.extras fresh = []) :
    recordOfSnapshot? fresh (Record.snapshot r) = .ok r :=
  congrArg Except.ok (h.writeAll_entries hfresh)

theorem mapM_snapshot {players : List Player} (h : ∀ p ∈ players, Record.Unshadowed p) :
    (players.map Record.snapshot).mapM Player.ofSnapshot? = .ok players := by
  induction players with
  | nil => rfl
  | cons p players ih =>
    obtain ⟨hp, hplayers⟩ := List.forall_mem_cons.1 h
    rw [List.map_cons, List.mapM_cons, Player.ofSnapshot?_snapshot hp, ih hplayers]
    rfl

theorem Game.Unshadowed.ofSnapshot?_snapshot (h : g.Unshadowed) :
    Game.ofSnapshot? g.snapshot = .ok g := by
  have hturn : recordOfSnapshot? {} (Record.snapshot g.turn) = .ok g.turn :=
    recordOfSnapshot?_snapshot h.turn rfl
  have hround : recordOfSnapshot? {} (Record.snapshot g.round) = .ok g.round :=
    recordOfSnapshot?_snapshot h.round rfl
  have hcontest : recordOfSnapshot? {} (Record.snapshot g.contest) = .ok g.contest :=
    recordOfSnapshot?_snapshot h.contest rfl
  simp [Game.ofSnapshot?, Game.snapshot, Table.get?_cons, Value.parts?, mapM_snapshot h.players,
    hturn, hround, hcontest, bind, Except.bind, pure, Except.pure]

/-! ## Fresh matches -/

theorem extras_of_dealFrom? {handSize : Nat} {entries : List Value} :
    ∀ {seat : Nat} {cards rest : List Value} {players : List Player},
    dealFrom? handSize seat entries cards = .ok (players, rest) → ∀ p ∈ players, p.extras = [] := by
  induction entries with
  | nil =>
    intro seat cards rest players h
    cases h
    exact fun p hp => absurd hp List.not_mem_nil
  | cons entry entries ih =>
    intro seat cards rest players h
    rw [dealFrom?] at h
    obtain ⟨⟨id, name⟩, -, h⟩ := bind_eq_ok h
    obtain ⟨⟨others, left⟩, hothers, h⟩ := bind_eq_ok h
    cases h
    exact List.forall_mem_cons.2 ⟨rfl, ih hothers⟩

theorem Game.unshadowed_of_dealGame? {m : Metadata} {players : Value} {cards : List Value}
    (h : dealGame? m players cards = .ok g) : g.Unshadowed := by
  unfold dealGame? at h
  obtain ⟨entries, -, h⟩ := bind_eq_ok h
  obtain ⟨⟨seated, deck⟩, hdeal, h⟩ := bind_eq_ok h
  cases h
  exact ⟨fun p hp => Record.unshadowed_of_extras_nil (extras_of_dealFrom? hdeal p hp),
    Record.unshadowed_of_extras_nil rfl, Record.unshadowed_of_extras_nil rfl,
    Record.unshadowed_of_extras_nil rfl⟩

/-- A fresh match has no extras. -/
theorem Game.unshadowed_of_newGame {m : Metadata} {source : Source} {players deck shuffled : Value}
    (h : (newGame m source players deck shuffled).1 = .ok g) : g.Unshadowed := by
  unfold newGame at h
  split at h
  · cases h
  · split at h
    · dsimp only at h
      split at h
      · cases h
      · exact Game.unshadowed_of_dealGame? h
    · exact Game.unshadowed_of_dealGame? h

/-! ## Reachable games -/

/-- The game was dealt, or loaded from any value that can be read as a snapshot, and has then gone
through calls by any rules, which may also have failed. -/
inductive Reachable : Game → Prop
  | dealt {g : Game} {m : Metadata} {source : Source} {players deck shuffled : Value}
      (h : (newGame m source players deck shuffled).1 = .ok g) : Reachable g
  | loaded {g : Game} {v : Value} (h : Game.ofSnapshot? v = .ok g) : Reachable g
  | called {g : Game} (h : Reachable g) (b : Rulebook) (call : Call) :
    Reachable (g.afterCall b call)

theorem Reachable.unshadowed (h : Reachable g) : g.Unshadowed := by
  induction h with
  | dealt h => exact Game.unshadowed_of_newGame h
  | loaded h => exact Game.unshadowed_of_ofSnapshot? h
  | called _ b call ih => exact ih.afterCall b call

theorem Reachable.after (h : Reachable g) (b : Rulebook) (calls : List Call) :
    Reachable (g.after b calls) := by
  induction calls generalizing g with
  | nil => exact h
  | cons call calls ih => exact ih (h.called b call)

/-- The snapshot of a reachable game loses nothing: what is read from it is the same game, field by
field and extra by extra, and has the same snapshot. For no extra of a record stands under a name
that spells one of its fields. -/
theorem snapshot_loses_nothing (h : Reachable g) :
    Game.ofSnapshot? g.snapshot = .ok g ∧
      (Game.ofSnapshot? g.snapshot).map Game.snapshot = .ok g.snapshot ∧ g.Unshadowed := by
  have hread := h.unshadowed.ofSnapshot?_snapshot
  exact ⟨hread, congrArg (·.map Game.snapshot) hread, h.unshadowed⟩

/-- Flags under names that spell a field, or none, or the word for the extras themselves. -/
def Sample.marks : List Call :=
  let mark (target flag : String) (value : Value) : Call :=
    .effect { playerId := .int 1 }
      [("op", .text "setFlag"), ("target", .text target), ("flag", .text flag), ("value", value)]
  [mark "turn" "HasDrawn" (.bool true), mark "currentPlayer" "Lucky charm" (.list [.int 7]),
   mark "match" "extras" (.object [("winnerId", .null)]), Sample.trade]

theorem snapshot_loses_nothing_sample :
    let g := Sample.game.after Sample.rulebook Sample.marks
    Reachable g ∧ g.turn.drawn = .bool true ∧ g.turn.extras = [] ∧
      g.contest.extras = [("extras", .object [("winnerId", .null)])] ∧
      Game.ofSnapshot? g.snapshot = .ok g := by
  intro g
  have hdealt : (newGame Sample.rulebook.document.metadata default
      (.list [.text "Ann", .text "Bob"]) .null .null).1 = .ok Sample.game := by decide +kernel
  have hreachable : Reachable g := (Reachable.dealt hdealt).after Sample.rulebook Sample.marks
  obtain ⟨hread, -, -⟩ := snapshot_loses_nothing hreachable
  have hmarked : g.turn.drawn = .bool true ∧ g.turn.extras = [] ∧
      g.contest.extras = [("extras", .object [("winnerId", .null)])] := by decide +kernel
  obtain ⟨hdrawn, hturn, hcontest⟩ := hmarked
  exact ⟨hreachable, hdrawn, hturn, hcontest, hread⟩

end CardRules
