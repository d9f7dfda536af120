import CardRules.Proofs.Expr.Completeness

/-!
# The parser accepts its grammar

On the tokens of a text and the end behind them the parser finds the tree of the grammar, if there
is one, and fails otherwise (`ofTokensWithin_grammar`); what follows the end does not matter. The
only other failure is an expression that is nested too deeply for the budget, and the tokens bound
what budget is enough. So no tokens have two trees (`Derives.unique`).
-/

namespace CardRules.Expr

variable {ts : List Token} {t t' : Expr}

/-- What stands before the end is one expression with its tree, or the parser fails; either way what
follows the end does not matter. -/
theorem ofTokensWithin_alike (hends : Endless ts) (pos : Nat) (rest rest' : List Token)
    (depth : Nat) :
    (∃ e, ofTokensWithin depth (ts ++ ⟨.finish, pos⟩ :: rest) = .error e ∧
        ofTokensWithin depth (ts ++ ⟨.finish, pos⟩ :: rest') = .error e ∧
        (e = .nestedTooDeeply → depth < 3 + weight ts)) ∨
      ∃ t, ofTokensWithin depth (ts ++ ⟨.finish, pos⟩ :: rest) = .ok t ∧
        ofTokensWithin depth (ts ++ ⟨.finish, pos⟩ :: rest') = .ok t ∧
        Derives .disjunction ts t := by
  have hlen (rest : List Token) : ts.length ≤ (ts ++ ⟨.finish, pos⟩ :: rest).length := by simp
  obtain ⟨hread, -, -⟩ := levels_read (hlen rest) (hlen rest') depth
  unfold ofTokensWithin
  rcases hread ts pos rest rest' hends (Nat.le_refl _) with
    ⟨e, he, he', hdeep⟩ | ⟨pre, ts', t, rfl, ht, hok, hok'⟩
  · rw [he, he']
    exact .inl ⟨e, rfl, rfl, hdeep⟩
  · rw [hok, hok']
    match ts' with
    | [] =>
      rw [List.append_nil]
      exact .inr ⟨t, rfl, rfl, ht⟩
    | ⟨.finish, _⟩ :: _ => exact absurd rfl (hends.right _ List.mem_cons_self)
    | ⟨.number _, _⟩ :: _ | ⟨.text _, _⟩ :: _ | ⟨.symbol _, _⟩ :: _ | ⟨.constant _, _⟩ :: _
    | ⟨.name _, _⟩ :: _ => exact .inl ⟨_, rfl, rfl, fun h => by cases h⟩

theorem Derives.ofTokensWithin (h : Derives .disjunction ts t) (pos : Nat) (rest : List Token)
    (depth : Nat) :
    UnlessTooDeep (ofTokensWithin depth (ts ++ ⟨.finish, pos⟩ :: rest)) (.ok t) := by
  have hstop : Stops .disjunction (⟨.finish, pos⟩ :: rest) := by
    intro s pos' tail heq
    cases heq
  exact (h.accepts.inner (Nat.le_refl _) hstop).bind (.inr rfl)

/-- A budget of three steps more than the tokens weigh is enough. -/
theorem Derives.ofTokensWithin_of_weight (h : Derives .disjunction ts t) (pos : Nat) {depth : Nat}
    (hdepth : 3 + weight ts ≤ depth) :
    Expr.ofTokensWithin depth (ts ++ [⟨.finish, pos⟩]) = .ok t := by
  refine (h.ofTokensWithin pos [] depth).resolve_left fun hdeep => ?_
  rcases ofTokensWithin_alike h.endless pos [] [] depth with ⟨e, he, -, hlt⟩ | ⟨_, hok, -⟩
  · rw [hdeep] at he
    cases he
    exact absurd (hlt rfl) (Nat.not_lt.2 hdepth)
  · rw [hdeep] at hok
    cases hok

/-- No tokens have two trees. -/
theorem Derives.unique (h : Derives .disjunction ts t) (h' : Derives .disjunction ts t') :
    t = t' := by
  have hok := h.ofTokensWithin_of_weight 0 (Nat.le_refl _)
  rw [h'.ofTokensWithin_of_weight 0 (Nat.le_refl _)] at hok
  cases hok
  rfl

/-- The parser accepts exactly its grammar and builds the grammar's tree. Let no token of `ts` be an
end. What follows the first end is never read. The result is a tree just if the grammar derives it
from the tokens before the end, and an error if the grammar derives none from them; the one exception
is an expression that is nested too deeply for the budget, and a budget of three steps more than the
tokens weigh is always enough. -/
theorem ofTokensWithin_grammar (hends : Endless ts) (pos : Nat) (rest : List Token) (depth : Nat) :
    ofTokensWithin depth (ts ++ ⟨.finish, pos⟩ :: rest) =
        ofTokensWithin depth (ts ++ [⟨.finish, pos⟩]) ∧
      (ofTokensWithin depth (ts ++ [⟨.finish, pos⟩]) ≠ .error .nestedTooDeeply →
        ∀ t, ofTokensWithin depth (ts ++ [⟨.finish, pos⟩]) = .ok t ↔ Derives .disjunction ts t) ∧
      ((∀ t, ¬ Derives .disjunction ts t) →
        ∃ e, ofTokensWithin depth (ts ++ [⟨.finish, pos⟩]) = .error e) ∧
      (ofTokensWithin depth (ts ++ [⟨.finish, pos⟩]) = .error .nestedTooDeeply →
        depth < 3 + weight ts) := by
  rcases ofTokensWithin_alike hends pos rest [] depth with ⟨e, he, he', hdeep⟩ | ⟨t, hok, hok', ht⟩
  · rw [he, he']
    refine ⟨rfl, fun hne t => ⟨fun h => (by cases h), fun h => ?_⟩, fun _ => ⟨e, rfl⟩, fun h => ?_⟩
    · rw [← he'] at hne ⊢
      exact (h.ofTokensWithin pos [] depth).resolve_left hne
    · cases h
      exact hdeep rfl
  · rw [hok, hok']
    refine ⟨rfl, fun _ t' => ⟨fun h => ?_, fun h => ?_⟩, fun hnone => absurd ht (hnone t),
      fun h => ?_⟩
    · cases h
      exact ht
    · rw [ht.unique h]
    · cases h

/-- A negated comparison; its left side calls a name in parentheses. -/
def Sample.tokens : List Token :=
  [⟨.symbol .not, 0⟩, ⟨.symbol .openParen, 4⟩, ⟨.name "count", 5⟩, ⟨.symbol .closeParen, 10⟩,
    ⟨.symbol .openParen, 11⟩, ⟨.name "cards", 12⟩, ⟨.symbol .closeParen, 17⟩, ⟨.symbol .eq, 19⟩,
    ⟨.symbol .minus, 22⟩, ⟨.name "x", 23⟩, ⟨.symbol .dot, 24⟩, ⟨.name "y", 25⟩]

def Sample.tree : Expr :=
  .unary .not (.binary .eq (.call "count" [.name "cards"])
    (.unary .minus (.member (.name "x") "y")))

/-- A call of what a call gives. -/
def Sample.recall : List Token :=
  [⟨.name "count", 0⟩, ⟨.symbol .openParen, 5⟩, ⟨.symbol .closeParen, 6⟩, ⟨.symbol .openParen, 7⟩,
    ⟨.symbol .closeParen, 8⟩]

theorem ofTokensWithin_grammar_sample :
    Endless Sample.tokens ∧ Endless Sample.recall ∧ Derives .disjunction Sample.tokens Sample.tree ∧
      ∀ t, ¬ Derives .disjunction Sample.recall t := by
  have htokens : Endless Sample.tokens := by simp [Endless, Sample.tokens]
  have hrecall : Endless Sample.recall := by simp [Endless, Sample.recall]
  have hok : ofTokensWithin parseDepth (Sample.tokens ++ [⟨.finish, 26⟩]) = .ok Sample.tree := rfl
  have herr : ofTokensWithin parseDepth (Sample.recall ++ [⟨.finish, 9⟩]) =
      .error .callOfNoName := rfl
  refine ⟨htokens, hrecall, ?_, fun t ht => ?_⟩
  · obtain ⟨-, hiff, -⟩ := ofTokensWithin_grammar htokens 26 [] parseDepth
    exact (hiff (by rw [hok]; simp) Sample.tree).1 hok
  · obtain ⟨-, hiff, -⟩ := ofTokensWithin_grammar hrecall 9 [] parseDepth
    have := (hiff (by rw [herr]; simp) t).2 ht
    rw [herr] at this
    cases this

end CardRules.Expr
