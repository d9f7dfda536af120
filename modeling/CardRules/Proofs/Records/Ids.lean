import CardRules.Play.Deal
import CardRules.Play.Reference
import CardRules.Proofs.Results

/-!
# Ids of players

The players of a fresh match have the ids that their entries give them, and where an entry gives
none, the number of the seat counted from one (`ids_newGame`). So ids that are given differently are
not enough for the players to be told apart: a given id can also be the number of a seat whose entry
gives none, and that is the only way for two players to get the same id (`ids_differ_iff`).
-/

namespace CardRules

/-! ## Equality with numbers -/

theorem Number.eqv_int_comm (i : Int) (n : Number) : (Number.int i).eqv n = n.eqv (.int i) := by
  cases n with
  | int j =>
    rw [Bool.eq_iff_iff]
    simp only [eqv, compare?, Option.some_beq_some, beq_iff_eq, Std.compare_eq_iff_eq]
    exact eq_comm
  | float x =>
    simp only [eqv, compare?]
    cases Decimal.Binary64.compareInt? i x with
    | none => rfl
    | some o => cases o <;> rfl

namespace Value

/-- Two values are not equal. -/
def Differs (v w : Value) : Prop := v.same w = false ∧ w.same v = false

instance : DecidableRel Differs := fun _ _ => inferInstanceAs (Decidable (_ ∧ _))

theorem Differs.symm {v w : Value} (h : v.Differs w) : w.Differs v := ⟨h.2, h.1⟩

theorem same_int_comm (i : Int) (v : Value) : (int i).same v = v.same (.int i) := by
  cases v with
  | bool b =>
    have hcomm := Number.eqv_int_comm i (.int (if b then 1 else 0))
    simp only [same, alike, asNumber?, Number.alike, Number.isNaN, Bool.and_false, Bool.or_false]
    exact hcomm
  | number n => exact Number.eqv_int_comm i n
  | null | text | list | object | keyed => simp [same, alike, asNumber?]

theorem differs_int_iff {i : Int} {v : Value} : v.Differs (.int i) ↔ v.same (.int i) = false := by
  rw [Differs, same_int_comm, and_self]

theorem int_differs {i j : Int} (h : i ≠ j) : (int i).Differs (.int j) := by
  rw [differs_int_iff]
  simpa [same, Number.eqv, Number.compare?] using h

end Value

/-! ## The ids of a deal -/

/-- The id that an entry gives its player, if it gives one. -/
def givenId? : Value → Option Value
  | .object es => (Table.get? es "id").filter (· ≠ .null)
  | _ => none

/-- The id of the player of an entry in a seat. -/
def idInSeat (seat : Nat) (entry : Value) : Value := (givenId? entry).getD (.int (seat + 1))

theorem idInSeat_of_given {entry id : Value} (h : givenId? entry = some id) (seat : Nat) :
    idInSeat seat entry = id := by rw [idInSeat, h, Option.getD_some]

theorem idInSeat_of_none {entry : Value} (h : givenId? entry = none) (seat : Nat) :
    idInSeat seat entry = .int (seat + 1) := by rw [idInSeat, h, Option.getD_none]

/-- The ids of two seats differ if given ones do and none of them is the number of the other seat
where that number is an id. -/
theorem idInSeat_differs {i j : Nat} {entry entry' : Value} (hne : i ≠ j)
    (hgiven : ∀ id id', givenId? entry = some id → givenId? entry' = some id' → id.Differs id')
    (hright : ∀ id, givenId? entry = some id → givenId? entry' = none →
      id.same (.int (j + 1)) = false)
    (hleft : ∀ id, givenId? entry' = some id → givenId? entry = none →
      id.same (.int (i + 1)) = false) :
    (idInSeat i entry).Differs (idInSeat j entry') := by
  cases h : givenId? entry with
  | none =>
    rw [idInSeat_of_none h]
    cases h' : givenId? entry' with
    | none =>
      rw [idInSeat_of_none h']
      exact Value.int_differs (by omega)
    | some id' =>
      rw [idInSeat_of_given h']
      exact (Value.differs_int_iff.2 (hleft id' h' h)).symm
  | some id =>
    rw [idInSeat_of_given h]
    cases h' : givenId? entry' with
    | none =>
      rw [idInSeat_of_none h']
      exact Value.differs_int_iff.2 (hright id h h')
    | some id' =>
      rw [idInSeat_of_given h']
      exact hgiven id id' h h'

theorem playerEntry?_id {seat : Nat} {entry id name : Value}
    (h : playerEntry? seat entry = .ok (id, name)) : id = idInSeat seat entry := by
  cases entry with
  | text s =>
    cases h
    rfl
  | object es =>
    cases h
    simp only [idInSeat, givenId?]
    cases hid : Table.get? es "id" with
    | none => simp
    | some v => by_cases hnull : v = .null <;> simp [Option.filter, hnull]
  | _ => cases h

theorem ids_dealFrom? {size : Nat} {entries : List Value} :
    ∀ {seat : Nat} {cards rest : List Value} {players : List Player},
      dealFrom? size seat entries cards = .ok (players, rest) →
      players.map Player.id = entries.mapIdx fun i => idInSeat (seat + i) := by
  induction entries with
  | nil =>
    intro seat cards rest players h
    cases h
    rfl
  | cons entry entries ih =>
    intro seat cards rest players h
    obtain ⟨⟨id, name⟩, hentry, h⟩ := bind_eq_ok h
    obtain ⟨⟨others, left⟩, hrest, h⟩ := bind_eq_ok h
    cases h
    have hnext (i : Nat) : seat + 1 + i = seat + (i + 1) := by omega
    rw [List.map_cons, ih hrest, List.mapIdx_cons, playerEntry?_id hentry]
    simp only [hnext]
    rfl

/-- Each player has the id that the entry gives, or else the number of the seat. -/
theorem ids_newGame {m : Metadata} {source : Source} {players deck shuffled : Value}
    {entries : List Value} {g : Game} (hplayers : players.parts? = .ok entries)
    (h : (newGame m source players deck shuffled).1 = .ok g) :
    g.players.map Player.id = entries.mapIdx idInSeat := by
  have hdealt {cards : List Value} (h : dealGame? m players cards = .ok g) :
      g.players.map Player.id = entries.mapIdx idInSeat := by
    rw [dealGame?, hplayers] at h
    obtain ⟨⟨dealt, deck⟩, hdeal, h⟩ : ∃ d, dealFrom? _ 0 entries cards = .ok d ∧ _ :=
      bind_eq_ok h
    cases h
    simpa using ids_dealFrom? hdeal
  unfold newGame at h
  split at h
  · cases h
  split at h
  · dsimp only at h
    split at h
    · cases h
    · exact hdealt h
  · exact hdealt h

/-! ## Telling players apart -/

/-- The players of a fresh match have pairwise different ids, the ids that entries give being
pairwise different, if and only if no entry gives for an id the number of a seat whose own entry
gives none. -/
theorem ids_differ_iff {m : Metadata} {source : Source} {players deck shuffled : Value}
    {entries : List Value} {g : Game} (hplayers : players.parts? = .ok entries)
    (hgiven : (entries.filterMap givenId?).Pairwise Value.Differs)
    (h : (newGame m source players deck shuffled).1 = .ok g) :
    (g.players.map Player.id).Pairwise Value.Differs ↔
      ∀ (seat : Nat) (entry : Value), entries[seat]? = some entry → givenId? entry = none →
        ∀ id ∈ entries.filterMap givenId?, id.same (.int (seat + 1)) = false := by
  rw [List.pairwise_filterMap, List.pairwise_iff_getElem] at hgiven
  rw [ids_newGame hplayers h, List.pairwise_iff_getElem]
  simp only [List.length_mapIdx, List.getElem_mapIdx]
  constructor
  · intro hids seat entry hseat hnone id hid
    obtain ⟨other, hother, hgives⟩ := List.mem_filterMap.1 hid
    obtain ⟨i, hi, rfl⟩ := List.getElem_of_mem hother
    obtain ⟨hlt, rfl⟩ := List.getElem?_eq_some_iff.1 hseat
    have hne : i ≠ seat := by
      rintro rfl
      cases hgives.symm.trans hnone
    -- whichever of the two seats comes first, their ids are known to differ
    rcases Nat.lt_or_gt_of_ne hne with hlt' | hlt'
    · have hdiffers := hids i seat hi hlt hlt'
      rw [idInSeat_of_given hgives, idInSeat_of_none hnone] at hdiffers
      exact hdiffers.1
    · have hdiffers := hids seat i hlt hi hlt'
      rw [idInSeat_of_given hgives, idInSeat_of_none hnone] at hdiffers
      exact hdiffers.2
  · intro hfree i j hi hj hij
    have hapart {a b : Nat} (ha : a < entries.length) (hb : b < entries.length) {id : Value}
        (hid : givenId? entries[a] = some id) (hnone : givenId? entries[b] = none) :
        id.same (.int (b + 1)) = false :=
      hfree b entries[b] (List.getElem?_eq_getElem hb) hnone id
        (List.mem_filterMap.2 ⟨entries[a], List.getElem_mem ha, hid⟩)
    refine idInSeat_differs (Nat.ne_of_lt hij) ?_ ?_ ?_
    · intro id id' hid hid'
      exact hgiven i j hi hj hij id hid id' hid'
    · intro id hid hnone
      exact hapart hi hj hid hnone
    · intro id hid hnone
      exact hapart hj hi hid hnone

namespace Sample

/-- An entry with an id in front of a name. -/
def entriesWith (id : Int) : List Value :=
  [.object [("id", .int id), ("name", .text "Ann")], .text "Bob"]

/-- The second player has the id of the seat. -/
def atTable (id : Int) : Game where
  players := [{ id := .int id, name := .text "Ann" }, { id := .int 2, name := .text "Bob" }]
  turn := { phase := .text mainPhase }

/-- The rules of a match without cards. -/
def noCards : Metadata := ⟨⟨[], []⟩, ⟨0, none, none⟩, [], [], none, []⟩

theorem newGame_entriesWith (id : Int) :
    (newGame noCards default (.list (entriesWith id)) (.list []) (.bool false)).1 =
      .ok (atTable id) := by
  have hfirst : playerEntry? 0 (.object [("id", .int id), ("name", .text "Ann")]) =
      .ok (.int id, .text "Ann") := by
    simp [ playerEntry?, Table.get?_cons, Value.isVoid]
  have hdeal : dealFrom? noCards.setup.handSize.toNat 0 (entriesWith id) [] =
      .ok ((atTable id).players, []) := by
    rw [entriesWith, dealFrom?, hfirst]
    rfl
  have hgame : dealGame? noCards (.list (entriesWith id)) [] = .ok (atTable id) := by
    simp only [dealGame?, Value.parts?, bind, Except.bind, hdeal]
    rfl
  have hcards : noCards.startCards? (.list []) = .ok [] := by
    simp [Metadata.startCards?, Value.parts?]
  have hshuffles : noCards.shuffles (.bool false) = false := by
    simp [Metadata.shuffles, Value.isVoid]
  simp only [newGame, hcards, hshuffles]
  exact hgame

end Sample

/-- The first player is given the id one, and the second gets the id two. -/
theorem ids_differ_iff_sample :
    ((Sample.entriesWith 1).filterMap givenId?).Pairwise Value.Differs ∧
      (newGame Sample.noCards default (.list (Sample.entriesWith 1)) (.list []) (.bool false)).1 =
        .ok (Sample.atTable 1) ∧
      ((Sample.atTable 1).players.map Player.id).Pairwise Value.Differs := by
  have hgiven : ((Sample.entriesWith 1).filterMap givenId?).Pairwise Value.Differs := by
    decide +kernel
  have hnew := Sample.newGame_entriesWith 1
  refine ⟨hgiven, hnew, (ids_differ_iff rfl hgiven hnew).2 ?_⟩
  intro seat entry hseat hnone id hid
  have hids : (Sample.entriesWith 1).filterMap givenId? = [.int 1] := by decide +kernel
  rw [hids, List.mem_singleton] at hid
  subst hid
  have hpos : seat ≠ 0 := by
    rintro rfl
    cases hseat
    have hgives : givenId? (.object [("id", .int 1), ("name", .text "Ann")]) = some (.int 1) := by
      decide +kernel
    simp [hgives] at hnone
  have hne : (1 : Int) ≠ seat + 1 := by omega
  exact (Value.int_differs hne).1

/-- The first player is given the id two, which the second one gets as well: whoever looks for the
second player finds the first. -/
theorem ids_collide :
    ((Sample.entriesWith 2).filterMap givenId?).Pairwise Value.Differs ∧
      (newGame Sample.noCards default (.list (Sample.entriesWith 2)) (.list []) (.bool false)).1 =
        .ok (Sample.atTable 2) ∧
      ¬ ((Sample.atTable 2).players.map Player.id).Pairwise Value.Differs ∧
      (Sample.atTable 2).seatNamed? (.int 2) = some 0 := by
  refine ⟨by decide +kernel, Sample.newGame_entriesWith 2, ?_, ?_⟩ <;> decide

end CardRules
