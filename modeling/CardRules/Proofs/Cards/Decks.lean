import CardRules.Play.Deal
import CardRules.Score
import Mathlib.Algebra.BigOperators.Group.List.Basic
import Mathlib.Algebra.Ring.Int.Defs
import Mathlib.Data.List.Nodup
import Mathlib.Data.List.ProdSigma

/-!
# Built decks

A deck is built from ranks and suits. With suits of one character the rank of a card can be read off
its code (`cardRank_append`), so cards of different ranks or suits differ (`nodup_buildDeck`), and a
deck is worth what its ranks are, once for each suit (`handWorth_buildDeck`). In a table of whole
numbers a hand scores the sum of what its cards are worth (`handScore?_codes`), so the score is the
same in any order and adds up over hands put together. `built_deck_scored` says all of it.
-/

namespace CardRules

variable {ranks suits : List String} {rank suit : String}

/-! ## Codes -/

/-- The rank is what stands before a suit of one character. -/
theorem cardRank_append (h : suit.length = 1) (rank : String) : cardRank (rank ++ suit) = rank := by
  obtain ⟨c, hc⟩ : ∃ c, suit.toList = [c] :=
    List.length_eq_one_iff.1 (String.length_toList.trans h)
  rw [cardRank, String.toList_append, hc, List.dropLast_concat, String.ofList_toList]

/-- A code with a suit of one character has one rank and one suit. -/
theorem append_suit_inj {rank' suit' : String} (h : suit.length = 1) (h' : suit'.length = 1)
    (heq : rank ++ suit = rank' ++ suit') : rank = rank' ∧ suit = suit' := by
  have hrank : rank = rank' := by
    rw [← cardRank_append h rank, heq, cardRank_append h' rank']
  subst hrank
  have hlists := congrArg String.toList heq
  rw [String.toList_append, String.toList_append] at hlists
  exact ⟨rfl, String.toList_inj.1 (List.append_cancel_left hlists)⟩

/-! ## Decks -/

theorem buildDeck_cons (rank : String) (ranks suits : List String) :
    buildDeck (rank :: ranks) suits = suits.map (rank ++ ·) ++ buildDeck ranks suits := rfl

theorem buildDeck_eq_map_product (ranks suits : List String) :
    buildDeck ranks suits = (ranks ×ˢ suits).map fun card => card.1 ++ card.2 := by
  induction ranks with
  | nil => rfl
  | cons rank ranks ih =>
    rw [buildDeck_cons, ih, List.product_cons, List.map_append, List.map_map]
    rfl

theorem length_buildDeck (ranks suits : List String) :
    (buildDeck ranks suits).length = ranks.length * suits.length := by
  rw [buildDeck_eq_map_product, List.length_map, List.length_product]

theorem nodup_buildDeck (hranks : ranks.Nodup) (hsuits : suits.Nodup)
    (hone : ∀ suit ∈ suits, suit.length = 1) : (buildDeck ranks suits).Nodup := by
  rw [buildDeck_eq_map_product]
  refine (hranks.product hsuits).map_on fun card hcard card' hcard' heq => ?_
  obtain ⟨hrank, hsuit⟩ := append_suit_inj (hone _ (List.mem_product.1 hcard).2)
    (hone _ (List.mem_product.1 hcard').2) heq
  exact Prod.ext hrank hsuit

/-- Suits of different lengths can make two cards alike. -/
example : buildDeck ["1", "11"] ["1", "11"] = ["11", "111", "111", "1111"] := rfl

/-- The cards of a rank follow each other in the order of the suits. -/
theorem getElem?_buildDeck {a b : Nat} (ha : ranks[a]? = some rank) (hb : suits[b]? = some suit) :
    (buildDeck ranks suits)[a * suits.length + b]? = some (rank ++ suit) := by
  obtain ⟨hlt, -⟩ := List.getElem?_eq_some_iff.1 hb
  induction ranks generalizing a with
  | nil => cases ha
  | cons first ranks ih =>
    rw [buildDeck_cons]
    cases a with
    | zero =>
      cases ha
      rw [Nat.zero_mul, Nat.zero_add, List.getElem?_append_left (by rwa [List.length_map]),
        List.getElem?_map, hb]
      rfl
    | succ a =>
      have hplace : (a + 1) * suits.length + b = suits.length + (a * suits.length + b) := by
        rw [Nat.succ_mul]
        omega
      rw [hplace, List.getElem?_append_right (by rw [List.length_map]; omega), List.length_map,
        Nat.add_sub_cancel_left]
      exact ih ha

/-! ## Scores -/

/-- All values are whole numbers. -/
def Entries.InWholes (es : Entries Value) : Prop := ∀ e ∈ es, ∃ i : Int, e.2 = .int i

/-- What a rank is worth in a table of whole numbers, zero without a value. -/
def rankWorth (es : Entries Value) (rank : String) : Int :=
  match es.get? (.text rank) with
  | some (.number (.int i)) => i
  | _ => 0

/-- What the cards with some codes are worth together. -/
def handWorth (es : Entries Value) (codes : List String) : Int :=
  (codes.map fun code => rankWorth es (cardRank code)).sum

/-- The hand of the cards with some codes. -/
def handOf (codes : List String) : Value := .list (codes.map .text)

section Worth

variable (es : Entries Value) {codes codes' : List String}

theorem handWorth_cons (code : String) (codes : List String) :
    handWorth es (code :: codes) = rankWorth es (cardRank code) + handWorth es codes :=
  List.sum_cons

theorem handWorth_append (codes codes' : List String) :
    handWorth es (codes ++ codes') = handWorth es codes + handWorth es codes' := by
  rw [handWorth, List.map_append, List.sum_append]
  rfl

theorem handWorth_perm (h : codes.Perm codes') : handWorth es codes = handWorth es codes' :=
  (h.map _).sum_eq

/-- The cards of a rank are all worth the same. -/
theorem handWorth_suits (rank : String) (hone : ∀ suit ∈ suits, suit.length = 1) :
    handWorth es (suits.map (rank ++ ·)) = suits.length * rankWorth es rank := by
  have hworth : (suits.map (rank ++ ·)).map (fun code => rankWorth es (cardRank code)) =
      suits.map fun _ => rankWorth es rank := by
    rw [List.map_map]
    exact List.map_congr_left fun suit hsuit =>
      congrArg (rankWorth es) (cardRank_append (hone suit hsuit) rank)
  rw [handWorth, hworth, List.map_const', List.sum_replicate_int]

/-- A deck is worth what its ranks are, once for each suit. -/
theorem handWorth_buildDeck (ranks : List String) (hone : ∀ suit ∈ suits, suit.length = 1) :
    handWorth es (buildDeck ranks suits) = suits.length * (ranks.map (rankWorth es)).sum := by
  induction ranks with
  | nil => exact (Int.mul_zero _).symm
  | cons rank ranks ih =>
    rw [buildDeck_cons, handWorth_append, handWorth_suits es rank hone, ih, List.map_cons,
      List.sum_cons, Int.mul_add]

end Worth

variable {values : Value} {es : Entries Value}

theorem cardValue?_code (hes : values.entries? = some es) (hwholes : es.InWholes) (code : String) :
    cardValue? values (.text code) = .ok (.int (rankWorth es (cardRank code))) := by
  simp only [cardValue?, hes, rankWorth]
  cases hfound : es.get? (.text (cardRank code)) with
  | none => rfl
  | some v =>
    obtain ⟨e, he, rfl⟩ := Option.map_eq_some_iff.1 hfound
    obtain ⟨i, hi⟩ := hwholes e (List.mem_of_find?_eq_some he)
    rw [hi]
    rfl

/-- The running sum grows by what the cards are worth. -/
theorem foldlM_codes (hes : values.entries? = some es) (hwholes : es.InWholes)
    (codes : List String) (sum : Int) :
    (codes.map Value.text).foldlM
      (fun sum card => do addValue? sum (← cardValue? values card)) (Number.int sum) =
      .ok (.int (sum + handWorth es codes)) := by
  induction codes generalizing sum with
  | nil => exact congrArg (fun i => Except.ok (Number.int i)) (Int.add_zero sum).symm
  | cons code codes ih =>
    rw [List.map_cons, List.foldlM_cons, cardValue?_code hes hwholes]
    show List.foldlM _ (Number.int (sum + rankWorth es (cardRank code))) _ = _
    rw [ih, handWorth_cons, Int.add_assoc]

/-- In a table of whole numbers a hand scores what its cards are worth. -/
theorem handScore?_codes (hes : values.entries? = some es) (hwholes : es.InWholes)
    (codes : List String) :
    handScore? values (handOf codes) = .ok (.int (handWorth es codes)) := by
  rw [← Int.zero_add (handWorth es codes)]
  exact foldlM_codes hes hwholes codes 0

/-- A deck of different ranks and different suits of one character has one card for each rank and
suit. All of them differ, the suits of a rank stand together in their order, and the rank can be read
off each card. In a table whose values are whole numbers the deck scores the sum of what its ranks
are worth, once for each suit; any hand scores the same in every order; and the scores of two hands
add up to that of both together. -/
theorem built_deck_scored {ranks suits : List String} (hranks : ranks.Nodup)
    (hsuits : suits.Nodup) (hone : ∀ suit ∈ suits, suit.length = 1) :
    (buildDeck ranks suits).length = ranks.length * suits.length ∧
      (buildDeck ranks suits).Nodup ∧
      (∀ a b rank suit, ranks[a]? = some rank → suits[b]? = some suit →
        (buildDeck ranks suits)[a * suits.length + b]? = some (rank ++ suit) ∧
          cardRank (rank ++ suit) = rank) ∧
      ∀ (values : Value) (es : Entries Value), values.entries? = some es → es.InWholes →
        handScore? values (handOf (buildDeck ranks suits)) =
          .ok (.int (suits.length * (ranks.map (rankWorth es)).sum)) ∧
        (∀ codes codes' : List String, codes.Perm codes' →
          handScore? values (handOf codes) = handScore? values (handOf codes')) ∧
        ∀ codes codes' : List String, ∃ i j : Int,
          handScore? values (handOf codes) = .ok (.int i) ∧
          handScore? values (handOf codes') = .ok (.int j) ∧
          handScore? values (handOf (codes ++ codes')) = .ok (.int (i + j)) := by
  refine ⟨length_buildDeck ranks suits, nodup_buildDeck hranks hsuits hone,
    fun a b rank suit ha hb => ⟨getElem?_buildDeck ha hb,
      cardRank_append (hone suit (List.mem_of_getElem? hb)) rank⟩,
    fun values es hes hwholes => ?_⟩
  have hscore := handScore?_codes hes hwholes
  refine ⟨?_, fun codes codes' hperm => ?_,
    fun codes codes' => ⟨_, _, hscore codes, hscore codes', ?_⟩⟩
  · rw [hscore, handWorth_buildDeck es ranks hone]
  · rw [hscore, hscore, handWorth_perm es hperm]
  · rw [hscore, handWorth_append]

/-- One rank begins like the other, and a suit makes the code of one card the other rank. -/
theorem built_deck_scored_sample :
    ["1", "10"].Nodup ∧ ["H", "0"].Nodup ∧ (∀ suit ∈ ["H", "0"], suit.length = 1) ∧
      (buildDeck ["1", "10"] ["H", "0"]).Nodup ∧
      (buildDeck ["1", "10"] ["H", "0"])[1 * 2 + 1]? = some "100" ∧ cardRank "100" = "10" ∧
      ∃ values : Value, values = .object [("10", .int 10), ("1", .int (-1))] ∧
        handScore? values (handOf (buildDeck ["1", "10"] ["H", "0"])) = .ok (.int 18) ∧
        handScore? values (handOf ["10H", "1H"]) = handScore? values (handOf ["1H", "10H"]) := by
  have hwholes : Entries.InWholes [(.text "10", .int 10), (.text "1", .int (-1))] := by
    intro e he
    simp only [List.mem_cons, List.not_mem_nil, or_false] at he
    rcases he with rfl | rfl <;> exact ⟨_, rfl⟩
  obtain ⟨-, hnodup, hplaces, hscores⟩ := @built_deck_scored ["1", "10"] ["H", "0"] (by decide)
    (by decide) (by decide)
  obtain ⟨hdeck, hperm, -⟩ := hscores (.object [("10", .int 10), ("1", .int (-1))]) _ rfl hwholes
  obtain ⟨hcard, hrank⟩ := hplaces 1 1 "10" "0" rfl rfl
  exact ⟨by decide, by decide, by decide, hnodup, hcard, hrank, _, rfl, hdeck,
    hperm _ _ (.swap _ _ _)⟩

end CardRules
