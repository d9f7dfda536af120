import CardRules.Proofs.Expr.Paths
import CardRules.Proofs.Play.Turns
import CardRules.Proofs.Records.Snapshots

/-!
# Flags that were written

A flag goes into a record under a name, and there are three ways back to it: reading the record by
name, its snapshot, and a path in a condition. All of them agree, for every name a rule may use: the
value is under that name, and under every other spelling of the field if the name spells one
(`Record.read_write`, `Record.get?_entries_write`), and nothing else has changed
(`written_flag_seen`).
-/

namespace CardRules

open CardRules.Expr (Operand)

namespace Record

variable {ρ : Type} [Record ρ] {r : ρ} {f n : String} {v : Value}

/-! ## Reading what was written -/

/-- Two names of one value: the same text, or two spellings of a field. -/
def SameName (ρ : Type) [Record ρ] (f n : String) : Prop :=
  n = f ∨ (field? ρ f).isSome ∧ FieldName.underscored n = FieldName.underscored f

instance : Decidable (SameName ρ f n) := inferInstanceAs (Decidable (_ ∨ _))

/-- The name that a value has in a snapshot: the camel name of the field, or the name itself. -/
def snapshotName (ρ : Type) [Record ρ] (f : String) : String :=
  match field? ρ f with
  | some field => FieldName.camel (name field)
  | none => f

theorem field?_congr (h : FieldName.underscored n = FieldName.underscored f) :
    field? ρ n = field? ρ f := by rw [field?, field?, h]

variable [LawfulRecord ρ]

open LawfulRecord

/-- Under the name of a value that was written there is that value, and under any other name what
there was. -/
theorem read_write (r : ρ) (f : String) (v : Value) (n : String) :
    read (write r f v) n = if SameName ρ f n then v else read r n := by
  cases hf : field? ρ f with
  | none =>
    have hsame : SameName ρ f n ↔ n = f := by simp [SameName, hf]
    rw [write_of_none hf, read]
    cases hn : field? ρ n with
    | some field =>
      have hne : n ≠ f := by
        rintro rfl
        rw [hn] at hf
        cases hf
      rw [if_neg (mt hsame.1 hne), read, hn]
      exact get_withExtras r _ field
    | none =>
      dsimp only
      rw [extras_withExtras]
      by_cases heq : n = f
      · rw [if_pos (hsame.2 heq), heq, Table.get?_put_self, Option.getD_some]
      · rw [if_neg (mt hsame.1 heq), Table.get?_put_ne v _ heq, read, hn]
  | some field =>
    have hsame : SameName ρ f n ↔ field? ρ n = some field := by
      rw [← hf]
      refine ⟨?_, fun h => .inr ⟨by rw [hf]; rfl, ?_⟩⟩
      · rintro (rfl | ⟨-, h⟩)
        · rfl
        · exact field?_congr h
      · rw [hf] at h
        rw [← name_of_field? h, ← name_of_field? hf]
    rw [write_of_field hf, read]
    cases hn : field? ρ n with
    | none =>
      have hne : ¬ SameName ρ f n := fun h => by rw [hsame.1 h] at hn; cases hn
      rw [if_neg hne, read, hn, extras_set]
    | some field' =>
      dsimp only
      by_cases heq : field' = field
      · rw [if_pos (hsame.2 (heq ▸ hn)), heq, get_set_self]
      · have hne : ¬ SameName ρ f n := fun h => heq (Option.some.inj (hn.symm.trans (hsame.1 h)))
        rw [if_neg hne, read, hn, get_set_ne r v heq]

/-- The snapshot holds a value that was written under its name there. -/
theorem get?_entries_write (h : Unshadowed r) (f : String) (v : Value) :
    Table.get? (entries (write r f v)) (snapshotName ρ f) = some v := by
  rw [(h.write f v).entries_eq]
  cases hf : field? ρ f with
  | some field =>
    have hmem : (snapshotName ρ f, v) ∈ fieldEntries (write r f v) := by
      rw [snapshotName, hf, write_of_field hf]
      exact List.mem_map.2 ⟨field, mem_fieldsByName field, by rw [get_set_self]⟩
    exact Table.get?_append_of_get?
      ((Table.get?_eq_some_iff (nodup_keys_fieldEntries _)).2 hmem) _
  | none =>
    have hname : snapshotName ρ f = f := by rw [snapshotName, hf]
    have hkey : f ∉ (fieldEntries (write r f v)).keys := by
      rw [keys_fieldEntries]
      intro hmem
      obtain ⟨field, -, rfl⟩ := List.mem_map.1 hmem
      rw [field?_camel] at hf
      cases hf
    rw [hname, Table.get?_append_of_not_mem hkey, write_of_none hf, extras_withExtras,
      Table.get?_put_self]

end Record

/-! ## The record that a target means -/

namespace Target

/-- Two names of one value in the record that a target means. -/
def SameName (f n : String) : Target → Prop
  | .turn => Record.SameName Turn f n
  | .round => Record.SameName Round f n
  | .contest => Record.SameName Contest f n
  | .player _ => Record.SameName Player f n

instance (f n : String) : ∀ t : Target, Decidable (t.SameName f n)
  | .turn | .round | .contest | .player _ => inferInstanceAs (Decidable (Record.SameName _ f n))

theorem sameName_self (f : String) (t : Target) : t.SameName f f := by
  cases t <;> exact .inl rfl

/-- The name that a value has in the snapshot of the record that a target means. -/
def snapshotName (f : String) : Target → String
  | .turn => Record.snapshotName Turn f
  | .round => Record.snapshotName Round f
  | .contest => Record.snapshotName Contest f
  | .player _ => Record.snapshotName Player f

end Target

namespace Game

/-- The snapshot of the record that a target means. -/
def snapshotTarget (g : Game) : Target → Value
  | .turn => Record.snapshot g.turn
  | .round => Record.snapshot g.round
  | .contest => Record.snapshot g.contest
  | .player seat => (g.players[seat]?.map Record.snapshot).getD .null

/-- Two games are the same but for the record that a target means. -/
structure SameBut (t : Target) (g h : Game) : Prop where
  deck : h.deck = g.deck
  discard : h.discard = g.discard
  log : h.log = g.log
  events : h.events = g.events
  seats : h.seats = g.seats
  players : ∀ i, t ≠ .player i → h.players[i]? = g.players[i]?
  turn : t ≠ .turn → h.turn = g.turn
  round : t ≠ .round → h.round = g.round
  contest : t ≠ .contest → h.contest = g.contest

/-- There is a record that the target means. -/
def HasTarget (g : Game) (t : Target) : Prop := ∀ a, t = .player a → a < g.players.length

variable {g : Game} {t : Target}

theorem hasTarget_of_resolveTarget? {ref : Value} (h : g.resolveTarget? ref = .ok t) :
    g.HasTarget t := by
  rintro a rfl
  cases resolveTarget?_ok h with
  | current href ha => exact Play.currentSeat?_ok ha
  | next ha => exact Play.nextSeat?_ok ha

theorem sameBut_writeTarget (g : Game) (f : String) (v : Value) (t : Target) :
    SameBut t g (g.writeTarget f v t) := by
  cases t with
  | turn | round | contest => constructor <;> first | rfl | simp [writeTarget]
  | player a =>
    refine { deck := rfl, discard := rfl, log := rfl, events := rfl, seats := ?_, players := ?_,
             turn := fun _ => rfl, round := fun _ => rfl, contest := fun _ => rfl }
    · simp [writeTarget, modifyPlayer, Game.seats]
    · intro i hi
      have hne : a ≠ i := fun heq => hi (congrArg Target.player heq)
      simp [writeTarget, modifyPlayer, hne]

/-- Under the name of a flag there is its value, and under any other what there was. -/
theorem readTarget_writeTarget (ht : g.HasTarget t) (f : String) (v : Value) (n : String) :
    (g.writeTarget f v t).readTarget n t = if t.SameName f n then v else g.readTarget n t := by
  cases t with
  | turn => exact Record.read_write g.turn f v n
  | round => exact Record.read_write g.round f v n
  | contest => exact Record.read_write g.contest f v n
  | player a =>
    obtain ⟨p, hp⟩ : ∃ p, g.players[a]? = some p := ⟨_, List.getElem?_eq_getElem (ht a rfl)⟩
    simp only [readTarget, writeTarget, Play.player_modifyPlayer hp, hp]
    exact Record.read_write p f v n

/-- The snapshot of the record has the flag. -/
theorem snapshotTarget_writeTarget (ht : g.HasTarget t) (hg : g.Unshadowed) (f : String)
    (v : Value) : ∃ es, (g.writeTarget f v t).snapshotTarget t = .object es ∧
      Table.get? es (t.snapshotName f) = some v := by
  cases t with
  | turn => exact ⟨_, rfl, Record.get?_entries_write hg.turn f v⟩
  | round => exact ⟨_, rfl, Record.get?_entries_write hg.round f v⟩
  | contest => exact ⟨_, rfl, Record.get?_entries_write hg.contest f v⟩
  | player a =>
    obtain ⟨p, hp⟩ : ∃ p, g.players[a]? = some p := ⟨_, List.getElem?_eq_getElem (ht a rfl)⟩
    simp only [snapshotTarget, writeTarget, Play.player_modifyPlayer hp]
    exact ⟨_, rfl, Record.get?_entries_write (hg.players p (List.mem_of_getElem? hp)) f v⟩

end Game

/-! ## Paths to the record -/

/-- The names that flags have for records, and the paths that conditions have: the name they begin
with, and the members behind it. -/
def flagPaths : List (String × String × List String) :=
  [("turn", "turn", []), ("round", "state", ["round"]), ("match", "state", ["match"]),
   (currentPlayerRef, currentPlayerRef, []), ("turn.currentPlayer", currentPlayerRef, []),
   (nextPlayerRef, nextPlayerRef, [])]

theorem flagPaths_names : ∀ e ∈ flagPaths,
    Expr.IsName e.2.1 ∧ (∀ m ∈ e.2.2, Expr.IsName m) ∧ e.2.2.length ≤ 1 := by decide

namespace Game

variable {g h : Game} {t : Target} {ref name : String} {members : List String}

theorem seats_congr (hseat : h.turn.seat = g.turn.seat) (hseats : h.seats = g.seats) :
    h.currentSeat? = g.currentSeat? ∧ h.nextSeat? = g.nextSeat? := by
  have hat (v : Value) : h.seatAt? v = g.seatAt? v := by rw [seatAt?, seatAt?, hseats]
  have hvalue : h.nextSeatValue? = g.nextSeatValue? := by
    rw [nextSeatValue?, nextSeatValue?, hseat, hseats]
  exact ⟨by rw [Game.currentSeat?, Game.currentSeat?, hseat, hat],
    by rw [Game.nextSeat?, Game.nextSeat?, hvalue, funext hat]⟩

/-- A flag that spells another field than the current seat leaves the turn where it is. -/
theorem seats_writeTarget {f : String}
    (hf : t = .turn → FieldName.underscored f ≠ "current_player_index") (v : Value) :
    (g.writeTarget f v t).currentSeat? = g.currentSeat? ∧
      (g.writeTarget f v t).nextSeat? = g.nextSeat? := by
  refine seats_congr ?_ (sameBut_writeTarget g f v t).seats
  cases t with
  | turn => exact Record.get_write_of_ne (r := g.turn) (f := Turn.Field.seat) (hf rfl) v
  | round | contest | player => rfl

/-- With a turn, every name that a flag has for a record means one. -/
theorem resolveTarget?_of_flagPath {a : Nat} (hturn : g.currentSeat? = .ok a)
    (hpath : (ref, name, members) ∈ flagPaths) : ∃ t, g.resolveTarget? (.text ref) = .ok t := by
  obtain ⟨a', hnext⟩ := nextSeat?_of_currentSeat? hturn
  have href : ref ∈ flagPaths.map (·.1) := List.mem_map.2 ⟨_, hpath, rfl⟩
  simp only [flagPaths, List.map_cons, List.map_nil, List.mem_cons, List.not_mem_nil,
    or_false] at href
  rcases href with rfl | rfl | rfl | rfl | rfl | rfl <;>
    simp [resolveTarget?, currentPlayerRef, nextPlayerRef, hturn, hnext, orFault, Except.map]

/-- What a path leads to has the members that the record has. -/
theorem member_of_flagPath {metadata : Table Value} {c : Circumstances} {scope : Expr.Scope}
    (hscope : scopeOf? g metadata c = .ok scope) (hne : g.players ≠ [])
    (hpath : (ref, name, members) ∈ flagPaths) (ht : g.resolveTarget? (.text ref) = .ok t) :
    ∃ x, scope.names.get? name = some x ∧
      ∀ n, (members.foldl (fun x m => x.member m) x).member n = .data (g.readTarget n t) := by
  obtain ⟨a, a', hseats⟩ := scopeOf?_namesSeats hscope hne
  have hplayer {seat : Nat} {p : Player} (hp : g.players[seat]? = some p) (n : String) :
      (Operand.player seat p).member n = .data (g.readTarget n (.player seat)) := by
    simp [Operand.member, readTarget, hp]
  have href := resolveTarget?_ok ht
  generalize hvalue : Value.text ref = value at href
  cases href with
  | turn =>
    cases hvalue
    obtain ⟨rfl, rfl⟩ : name = "turn" ∧ members = [] := by
      simpa [flagPaths, currentPlayerRef, nextPlayerRef] using hpath
    exact ⟨_, hseats.turn, fun n => rfl⟩
  | round =>
    cases hvalue
    obtain ⟨rfl, rfl⟩ : name = "state" ∧ members = ["round"] := by
      simpa [flagPaths, currentPlayerRef, nextPlayerRef] using hpath
    have hround : (Operand.game g).member "round" = .round g.round := by
      have hname : FieldName.underscored "round" = "round" := by decide
      simp [Operand.member, Operand.ofGame, hname]
    exact ⟨_, hseats.state, fun n => congrArg (Operand.member n) hround⟩
  | contest =>
    cases hvalue
    obtain ⟨rfl, rfl⟩ : name = "state" ∧ members = ["match"] := by
      simpa [flagPaths, currentPlayerRef, nextPlayerRef] using hpath
    have hcontest : (Operand.game g).member "match" = .contest g.contest := by
      have hname : FieldName.underscored "match" = "match" := by decide
      simp [Operand.member, Operand.ofGame, hname]
    exact ⟨_, hseats.state, fun n => congrArg (Operand.member n) hcontest⟩
  | current href ha =>
    obtain ⟨rfl, rfl⟩ : name = currentPlayerRef ∧ members = [] := by
      rcases href with href | href <;> cases hvalue.trans href <;>
        simpa [flagPaths, currentPlayerRef, nextPlayerRef] using hpath
    obtain ⟨p, hp, hname⟩ := hseats.currentPlayer
    cases hseats.current.symm.trans ha
    exact ⟨_, hname, hplayer hp⟩
  | next ha =>
    cases hvalue
    obtain ⟨rfl, rfl⟩ : name = nextPlayerRef ∧ members = [] := by
      simpa [flagPaths, currentPlayerRef, nextPlayerRef] using hpath
    obtain ⟨p, hp, hname⟩ := hseats.nextPlayer
    cases hseats.next.symm.trans ha
    exact ⟨_, hname, hplayer hp⟩

end Game

/-- A flag that a rule writes is what everything else sees, and it is all that changes. Let the turn
be that of a player, and let a rule write any value under any name into a record that a target
means. Then that succeeds, and the value is read under the name and under the other spellings of the
field, if the name spells one; what is read under any other name is what there was, and so is all
else in the game. The snapshot of the record holds the value, under the name or the camel name of
the field, if the records of the game are unshadowed, as they are in every reachable game. And every
condition sees it: if the name is a name in expressions and spells no field that moves the turn, the
path to it in the record has the value, in whatever circumstances. -/
theorem written_flag_seen (b : Rulebook) (c : Circumstances) {r : Run} {a : Nat}
    (hturn : r.game.currentSeat? = .ok a) {ref name : String} {members : List String}
    (hpath : (ref, name, members) ∈ flagPaths) (f : String) (v : Value) :
    ∃ t g, r.game.resolveTarget? (.text ref) = .ok t ∧
      Play.perform b c (.setFlag ref f v) r = .ok () { r with game := g } ∧
      (∀ n, g.readTarget n t = if t.SameName f n then v else r.game.readTarget n t) ∧
      r.game.SameBut t g ∧
      (r.game.Unshadowed →
        ∃ es, g.snapshotTarget t = .object es ∧ Table.get? es (t.snapshotName f) = some v) ∧
      (Expr.IsName f → (ref = "turn" → FieldName.underscored f ≠ "current_player_index") →
        ∀ metadata c', c'.Plain → ∃ scope, scopeOf? g metadata c' = .ok scope ∧
          evaluate (Expr.path name (members ++ [f])) scope = .ok (.data v)) := by
  obtain ⟨t, ht⟩ := Game.resolveTarget?_of_flagPath hturn hpath
  have hfound := Game.hasTarget_of_resolveTarget? ht
  have hread := Game.readTarget_writeTarget hfound f v
  refine ⟨t, _, ht, ?_, hread, Game.sameBut_writeTarget _ f v t,
    fun hg => Game.snapshotTarget_writeTarget hfound hg f v, fun hf hseat metadata c' hc' => ?_⟩
  · rw [Play.perform, Play.setFlag_apply, ht]
  · have hspares : t = .turn → FieldName.underscored f ≠ "current_player_index" := by
      rintro rfl
      exact hseat (Game.resolveTarget?_turn ht)
    obtain ⟨hcurrent, hnext⟩ := Game.seats_writeTarget (g := r.game) hspares v
    have ht' : (r.game.writeTarget f v t).resolveTarget? (.text ref) = .ok t := by
      rw [Game.resolveTarget?, hcurrent, hnext]
      exact ht
    have hturn' : (r.game.writeTarget f v t).currentSeat? = .ok a := hcurrent.trans hturn
    have hne : (r.game.writeTarget f v t).players ≠ [] :=
      List.ne_nil_of_length_pos (Nat.zero_lt_of_lt (Play.currentSeat?_ok hturn'))
    obtain ⟨scope, hscope, -⟩ := scopeOf?_of_hasTurn (.inr ⟨a, hturn'⟩) hc' metadata
    obtain ⟨x, hx, hmember⟩ := Game.member_of_flagPath hscope hne hpath ht'
    obtain ⟨hname, hmembers, hlen⟩ := flagPaths_names _ hpath
    have hnames : ∀ m ∈ members ++ [f], Expr.IsName m := fun m hm =>
      (List.mem_append.1 hm).elim (hmembers m) fun hm => List.mem_singleton.1 hm ▸ hf
    have hdepth : (members ++ [f]).length < Expr.evalDepth := by
      have hle : members.length ≤ 1 := hlen
      rw [List.length_append, List.length_singleton, Expr.evalDepth]
      omega
    refine ⟨scope, hscope, ?_⟩
    rw [Expr.evaluate_path hname hnames hdepth hx, List.foldl_append]
    exact congrArg Except.ok ((hmember f).trans (by rw [hread, if_pos (t.sameName_self f)]))

/-- A flag of the match, under a name that spells no field. -/
theorem written_flag_seen_sample :
    Sample.game.currentSeat? = .ok 0 ∧ ("match", "state", ["match"]) ∈ flagPaths ∧
      ∃ g, Play.perform Sample.rulebook { playerId := .int 1 }
          (.setFlag "match" "$seen" (.list [.int 1])) { game := Sample.game } =
            .ok () { game := g } ∧
        g.readTarget "$seen" .contest = .list [.int 1] ∧
        g.readTarget "_seen" .contest = .null ∧
        (∃ es, Record.snapshot g.contest = .object es ∧
          Table.get? es "$seen" = some (.list [.int 1])) ∧
        ∃ scope, scopeOf? g [] { playerId := .int 1 } = .ok scope ∧
          evaluate "state.match.$seen" scope = .ok (.data (.list [.int 1])) := by
  have hpath : ("match", "state", ["match"]) ∈ flagPaths := by decide
  have hunshadowed : Sample.game.Unshadowed := by
    have hextras : ∀ p ∈ Sample.game.players, p.extras = [] := by decide
    exact ⟨fun p hp => Record.unshadowed_of_extras_nil (hextras p hp),
      Record.unshadowed_of_extras_nil rfl, Record.unshadowed_of_extras_nil rfl,
      Record.unshadowed_of_extras_nil rfl⟩
  have htarget : Sample.game.resolveTarget? (.text "match") = .ok .contest := by
    simp [Game.resolveTarget?]
  obtain ⟨t, g, ht, hperform, hread, -, hsnapshot, hcondition⟩ :=
    written_flag_seen Sample.rulebook { playerId := .int 1 } (r := { game := Sample.game })
      (a := 0) rfl hpath "$seen" (.list [.int 1])
  cases htarget.symm.trans ht
  refine ⟨rfl, hpath, g, hperform, ?_, ?_, ?_, ?_⟩
  · rw [hread, if_pos (by decide)]
  · rw [hread, if_neg (by decide)]
    rfl
  · exact hsnapshot hunshadowed
  · exact hcondition (by decide) (by decide) [] _ ⟨⟨_, rfl⟩, ⟨_, rfl⟩⟩

end CardRules
