import CardRules.Proofs.Expr.Soundness

/-!
# What the grammar derives, the parser accepts

The operators of a level group to the left, so a derivation ends where the parser goes on: behind
the tokens of an expression the parser of its level stands in its loop with the tree so far
(`resume`), and it leaves the loop at a token that continues no such expression (`Stops`).
`Accepts` says so of every text that goes on with other tokens; it holds of every derivation
(`Derives.accepts`), by induction on it with one lemma for each rule.
-/

namespace CardRules.Expr

/-! ## The first token of an expression -/

/-- The place of a level, counted from the loosest one. -/
def Level.rank : Level → Nat
  | .disjunction => 1
  | .conjunction => 2
  | .negation => 3
  | .equality => 4
  | .relation => 5
  | .sum => 6
  | .product => 7
  | .signed => 8
  | .suffixed => 9
  | .primary => 10

theorem Level.rank_le_next (L : Level) : L.rank ≤ L.next.rank := by
  cases L <;> decide

/-- An expression of the level can start with the lexeme. -/
def Starts (L : Level) : Lexeme → Prop
  | .symbol s =>
    s = .openParen ∨ s = .not ∧ L.rank ≤ Level.negation.rank ∨
      signOf s ≠ none ∧ L.rank ≤ Level.signed.rank
  | .finish => False
  | .number _ | .text _ | .constant _ | .name _ => True

theorem Starts.tighter {L : Level} {l : Lexeme} (h : Starts L.next l) : Starts L l := by
  have hle := L.rank_le_next
  cases l with
  | symbol s =>
    rcases h with h | ⟨h, hrank⟩ | ⟨h, hrank⟩
    · exact .inl h
    · exact .inr (.inl ⟨h, Nat.le_trans hle hrank⟩)
    · exact .inr (.inr ⟨h, Nat.le_trans hle hrank⟩)
  | _ => exact h

/-- What is derived starts with a token that can start an expression of the level. -/
theorem Derives.starts {L : Level} {ts : List Token} {t : Expr} (h : Derives L ts t) :
    ∃ l pos tail, ts = ⟨l, pos⟩ :: tail ∧ Starts L l := by
  induction h with
  | tighter _ ih =>
    obtain ⟨l, pos, tail, hts, hl⟩ := ih
    exact ⟨l, pos, tail, hts, hl.tighter⟩
  | operator _ _ _ _ ih _ | member _ _ _ _ ih | index _ _ _ _ ih _ | call _ _ _ _ _ ih _ =>
    obtain ⟨l, pos, tail, rfl, hl⟩ := ih
    exact ⟨l, pos, _, rfl, hl⟩
  | not pos _ _ => exact ⟨_, pos, _, rfl, .inr (.inl ⟨rfl, Nat.le_refl _⟩)⟩
  | sign hs pos _ _ =>
    refine ⟨_, pos, _, rfl, .inr (.inr ⟨?_, Nat.le_refl _⟩)⟩
    rw [signOf_eq_some_iff.2 hs]
    exact Option.some_ne_none _
  | parenthesized _ pos _ _ => exact ⟨_, pos, _, rfl, .inl rfl⟩
  | number _ pos | text _ pos | truth _ pos | null pos | name _ pos =>
    exact ⟨_, pos, _, rfl, trivial⟩

/-! ## The loops -/

/-- The place of the level whose expressions the symbol continues; 0 if it continues none. -/
def Symbol.rank : Symbol → Nat
  | .or => 1
  | .and => 2
  | .eq | .ne => 4
  | .lt | .le | .gt | .ge => 5
  | .plus | .minus => 6
  | .times | .over | .modulo => 7
  | .dot | .openBracket | .openParen => 9
  | .not | .bang | .comma | .closeBracket | .closeParen => 0

/-- The tokens continue no expression of the level. -/
def Stops (L : Level) (ts : List Token) : Prop :=
  ∀ s pos tail, ts = ⟨.symbol s, pos⟩ :: tail → s.rank < L.rank

theorem Stops.tighter {L : Level} {ts : List Token} (h : Stops L ts) : Stops L.next ts :=
  fun s pos tail hts => Nat.lt_of_lt_of_le (h s pos tail hts) L.rank_le_next

theorem Infix.rank_eq {L : Level} {s : Symbol} {f : Expr → Expr → Expr} (h : Infix L s f) :
    s.rank = L.rank := by
  cases h <;> rfl

theorem Infix.rank_lt {L : Level} {s : Symbol} {f : Expr → Expr → Expr} (h : Infix L s f) :
    s.rank < L.next.rank := by
  cases h <;> decide

theorem OpensSuffix.rank_eq {s : Symbol} (h : OpensSuffix s) : s.rank = Level.suffixed.rank := by
  cases h <;> rfl

/-- The parser of a level, within the budget that its operands have. -/
def parserAt (n d : Nat) : Level → Parser
  | .disjunction => chain n joinOr (chain n joinAnd (negation n d))
  | .conjunction => chain n joinAnd (negation n d)
  | .negation => negation n d
  | .equality => comparison n d
  | .relation => chain n joinRelation (chain n joinSum (chain n joinProduct (signed n d)))
  | .sum => chain n joinSum (chain n joinProduct (signed n d))
  | .product => chain n joinProduct (signed n d)
  | .signed => signed n d
  | .suffixed => suffixed n (disjunction n d)
  | .primary => primary (disjunction n d)

/-- The parser of a level behind an expression of it with the tree `t`; it goes round at most `k`
times. -/
def resume (n d : Nat) : Level → Nat → Expr → Parser
  | .suffixed, k, t => suffixesFrom (disjunction n d) k t
  | L, k, t => chainFrom L.joiner (parserAt n d L.next) k t

theorem resume_stop {n d k : Nat} {L : Level} {t : Expr} {rest : List Token} (h : Stops L rest) :
    resume n d L k t rest = .ok (t, rest) := by
  unfold resume
  split
  · refine suffixesFrom_stop (fun s pos tail hts hs => ?_) k t
    have := h s pos tail hts
    have := hs.rank_eq
    omega
  · refine chainFrom_stop (fun s pos tail hts => ?_) k
    have := h s pos tail hts
    cases hs : L.joiner s with
    | none => rfl
    | some f =>
      have := (joiner_eq_some_iff.1 hs).rank_eq
      omega

/-- The levels that stack operators in front of an operand, and the tightest one, have no loop. -/
inductive Loopless : Level → Prop
  | negation : Loopless .negation
  | signed : Loopless .signed
  | primary : Loopless .primary

theorem resume_loopless {n d k : Nat} {L : Level} {t : Expr} {rest : List Token}
    (hL : Loopless L) : resume n d L k t rest = .ok (t, rest) := by
  cases hL <;> exact chainFrom_stop (fun _ _ _ _ => rfl) k

/-! ## Acceptance -/

/-- The result is `y`, unless the expression is nested too deeply. -/
def UnlessTooDeep {α : Type} (x y : Except SyntaxError α) : Prop :=
  x = .error .nestedTooDeeply ∨ x = y

theorem UnlessTooDeep.bind {α β : Type} {x : Except SyntaxError α} {a : α}
    {f : α → Except SyntaxError β} {y : Except SyntaxError β} (h : UnlessTooDeep x (.ok a))
    (hf : UnlessTooDeep (f a) y) : UnlessTooDeep (x >>= f) y := by
  rcases h with rfl | rfl
  · exact .inl rfl
  · exact hf

theorem UnlessTooDeep.trans {α : Type} {x y z : Except SyntaxError α} (h : UnlessTooDeep x y)
    (h' : UnlessTooDeep y z) : UnlessTooDeep x z := by
  rcases h with rfl | rfl
  · exact .inl rfl
  · exact h'

/-- The parser of the level reads the tokens as the tree `t`, whatever follows that continues no
tighter expression, and goes on behind them. -/
def Accepts (L : Level) (ts : List Token) (t : Expr) : Prop :=
  ∀ (n d : Nat) (rest : List Token), (ts ++ rest).length ≤ n → Stops L.next rest →
    ∃ k, rest.length ≤ k ∧ UnlessTooDeep (parserAt n d L (ts ++ rest)) (resume n d L k t rest)

namespace Accepts

variable {L : Level} {ts : List Token} {t : Expr} {n d : Nat} {rest : List Token}

theorem loopless_iff (hL : Loopless L) : Accepts L ts t ↔
    ∀ (n d : Nat) (rest : List Token), (ts ++ rest).length ≤ n → Stops L.next rest →
      UnlessTooDeep (parserAt n d L (ts ++ rest)) (.ok (t, rest)) := by
  constructor
  · intro h n d rest hn hstop
    obtain ⟨k, -, hk⟩ := h n d rest hn hstop
    rwa [resume_loopless hL] at hk
  · intro h n d rest hn hstop
    refine ⟨rest.length, Nat.le_refl _, ?_⟩
    rw [resume_loopless hL]
    exact h n d rest hn hstop

/-- Before a token that continues no expression of the level the parser is done. -/
theorem stop (h : Accepts L ts t) (hn : (ts ++ rest).length ≤ n) (hstop : Stops L rest) :
    UnlessTooDeep (parserAt n d L (ts ++ rest)) (.ok (t, rest)) := by
  obtain ⟨k, -, hk⟩ := h n d rest hn hstop.tighter
  rwa [resume_stop hstop] at hk

/-- What stands in brackets is an expression of the loosest level. -/
theorem inner (h : Accepts .disjunction ts t) (hn : (ts ++ rest).length ≤ n)
    (hstop : Stops .disjunction rest) :
    UnlessTooDeep (disjunction n d (ts ++ rest)) (.ok (t, rest)) := by
  cases d with
  | zero => exact .inl rfl
  | succ d => exact h.stop hn hstop

/-! ### Operators -/

theorem tighter (h : Accepts L.next ts t)
    (hstarts : ∃ l pos tail, ts = ⟨l, pos⟩ :: tail ∧ Starts L.next l) : Accepts L ts t := by
  obtain ⟨l, pos, tail, rfl, hl⟩ := hstarts
  cases L with
  | disjunction | conjunction | equality | relation | sum | product | suffixed =>
    intro n d rest hn hstop
    have hrest : rest.length ≤ n := by
      rw [List.length_append] at hn
      omega
    exact ⟨n, hrest, (h.stop hn hstop).bind (.inr rfl)⟩
  | negation =>
    refine (loopless_iff .negation).2 fun n d rest hn hstop => ?_
    cases d with
    | zero => exact .inl rfl
    | succ d =>
      have hnot : ∀ pos' tail', ⟨l, pos⟩ :: tail ++ rest ≠ ⟨.symbol .not, pos'⟩ :: tail' := by
        intro pos' tail' heq
        cases heq
        rcases hl with h | ⟨-, hrank⟩ | ⟨h, -⟩
        · cases h
        · exact absurd hrank (by decide)
        · exact h rfl
      rw [parserAt, negation_eq hnot]
      exact h.stop hn hstop
  | signed =>
    refine (loopless_iff .signed).2 fun n d rest hn hstop => ?_
    cases d with
    | zero => exact .inl rfl
    | succ d =>
      have hsign : ∀ s pos' tail', ⟨l, pos⟩ :: tail ++ rest = ⟨.symbol s, pos'⟩ :: tail' →
          signOf s = none := by
        intro s pos' tail' heq
        cases heq
        rcases hl with rfl | ⟨rfl, -⟩ | ⟨-, hrank⟩
        · rfl
        · rfl
        · exact absurd hrank (by decide)
      rw [parserAt, signed_eq hsign]
      exact h.stop hn hstop
  | primary => exact h

theorem operator {s : Symbol} {f : Expr → Expr → Expr} (hs : Infix L s f) (pos : Nat)
    {ls rs : List Token} {l r : Expr} (hl : Accepts L ls l) (hr : Accepts L.next rs r) :
    Accepts L (ls ++ ⟨.symbol s, pos⟩ :: rs) (f l r) := by
  intro n d rest hn hstop
  rw [List.append_assoc, List.cons_append] at hn ⊢
  have hsep : Stops L.next (⟨.symbol s, pos⟩ :: (rs ++ rest)) := by
    intro s' pos' tail heq
    cases heq
    exact hs.rank_lt
  obtain ⟨k, hk, hleft⟩ := hl n d (⟨.symbol s, pos⟩ :: (rs ++ rest)) hn hsep
  simp only [List.length_cons, List.length_append] at hk hn
  obtain ⟨k, rfl⟩ : ∃ k', k = k' + 1 := ⟨k - 1, by omega⟩
  have hloop (k : Nat) (t : Expr) (ts : List Token) :
      resume n d L k t ts = chainFrom L.joiner (parserAt n d L.next) k t ts := by
    cases hs <;> rfl
  have hright : UnlessTooDeep (parserAt n d L.next (rs ++ rest)) (.ok (r, rest)) :=
    hr.stop (by rw [List.length_append]; omega) hstop
  refine ⟨k, by omega, hleft.trans ?_⟩
  rw [hloop, hloop, chainFrom, joiner_eq_some_iff.2 hs]
  exact hright.bind (.inr rfl)

theorem not (pos : Nat) (h : Accepts .negation ts t) :
    Accepts .negation (⟨.symbol .not, pos⟩ :: ts) (.unary .not t) := by
  refine (loopless_iff .negation).2 fun n d rest hn hstop => ?_
  cases d with
  | zero => exact .inl rfl
  | succ d =>
    rw [List.cons_append, List.length_cons] at hn
    exact ((loopless_iff .negation).1 h n d rest (by omega) hstop).bind (.inr rfl)

theorem sign {s : Symbol} {op : UnaryOp} (hs : Sign s op) (pos : Nat) (h : Accepts .signed ts t) :
    Accepts .signed (⟨.symbol s, pos⟩ :: ts) (.unary op t) := by
  refine (loopless_iff .signed).2 fun n d rest hn hstop => ?_
  cases d with
  | zero => exact .inl rfl
  | succ d =>
    rw [List.cons_append, List.length_cons] at hn
    simp only [parserAt, List.cons_append, signed, signOf_eq_some_iff.2 hs]
    exact ((loopless_iff .signed).1 h n d rest (by omega) hstop).bind (.inr rfl)

/-! ### Suffixes -/

/-- Behind an expression with suffixes the parser goes on with further ones. -/
theorem suffixes (h : Accepts .suffixed ts t) {us : List Token} (hn : (ts ++ us).length ≤ n)
    (hus : us ≠ []) : ∃ k, us.length ≤ k + 1 ∧
      UnlessTooDeep (parserAt n d .suffixed (ts ++ us))
        (suffixesFrom (disjunction n d) (k + 1) t us) := by
  have hlen := List.length_pos_iff.2 hus
  obtain ⟨k, hk, hgo⟩ := h n d us hn fun s _ _ _ => by cases s <;> decide
  obtain ⟨k, rfl⟩ : ∃ k', k = k' + 1 := ⟨k - 1, by omega⟩
  exact ⟨k, hk, hgo⟩

theorem member (h : Accepts .suffixed ts t) (pos pos' : Nat) (f : String) :
    Accepts .suffixed (ts ++ [⟨.symbol .dot, pos⟩, ⟨.name f, pos'⟩]) (.member t f) := by
  intro n d rest hn _
  rw [List.append_assoc] at hn ⊢
  obtain ⟨k, hk, hgo⟩ := h.suffixes hn (by simp)
  simp only [List.cons_append, List.nil_append, List.length_cons] at hk
  exact ⟨k, by omega, hgo⟩

theorem index {is : List Token} {i : Expr} (h : Accepts .suffixed ts t)
    (hi : Accepts .disjunction is i) (pos pos' : Nat) :
    Accepts .suffixed
      (ts ++ ⟨.symbol .openBracket, pos⟩ :: (is ++ [⟨.symbol .closeBracket, pos'⟩]))
      (.index t i) := by
  intro n d rest hn _
  simp only [List.append_assoc, List.cons_append, List.nil_append] at hn ⊢
  obtain ⟨k, hk, hgo⟩ := h.suffixes hn (by simp)
  simp only [List.length_append, List.length_cons] at hk hn
  have hclose : Stops .disjunction (⟨.symbol .closeBracket, pos'⟩ :: rest) := by
    intro s pos'' tail heq
    cases heq
    decide
  have hinner := hi.inner (n := n) (d := d) (by simp; omega) hclose
  exact ⟨k, by omega, hgo.trans (hinner.bind (.inr rfl))⟩

end Accepts

/-! ### Arguments -/

/-- The arguments of a call that has some, up to its closing parenthesis. -/
def someArguments (k : Nat) (inner : Parser) :
    List Token → Except SyntaxError (List Expr × List Token) := fun ts => do
  let (e, ts) ← inner ts
  let (es, ts) ← argumentsFrom inner k ts
  return (e :: es, ts)

/-- A comma or a closing parenthesis continues no expression. -/
theorem stops_comma (pos : Nat) (ts : List Token) :
    Stops .disjunction (⟨.symbol .comma, pos⟩ :: ts) := by
  intro s pos' tail heq
  cases heq
  decide

theorem stops_closeParen (pos : Nat) (ts : List Token) :
    Stops .disjunction (⟨.symbol .closeParen, pos⟩ :: ts) := by
  intro s pos' tail heq
  cases heq
  decide

theorem someArguments_accepts {n d pos : Nat} {rest : List Token}
    {parts : List (List Token × Expr)} {as : List Token} (hsep : Separated parts as) :
    ∀ (k : Nat), parts ≠ [] → (∀ part ∈ parts, Accepts .disjunction part.1 part.2) →
    (as ++ ⟨.symbol .closeParen, pos⟩ :: rest).length ≤ n →
    (as ++ ⟨.symbol .closeParen, pos⟩ :: rest).length ≤ k →
    UnlessTooDeep
      (someArguments k (disjunction n d) (as ++ ⟨.symbol .closeParen, pos⟩ :: rest))
      (.ok (parts.map (·.2), rest)) := by
  induction hsep with
  | none => exact fun k hne => absurd rfl hne
  | one part =>
    intro k _ hparts hn hk
    have hpart := hparts part List.mem_cons_self
    refine (hpart.inner hn (stops_closeParen pos rest)).bind ?_
    cases k <;> exact .inr rfl
  | @more part parts ts comma hne _ ih =>
    intro k _ hparts hn hk
    have hpart := hparts part List.mem_cons_self
    rw [List.append_assoc, List.cons_append] at hn hk ⊢
    refine (hpart.inner hn (stops_comma comma _)).bind ?_
    rw [List.length_append, List.length_cons] at hn hk
    obtain ⟨k, rfl⟩ : ∃ k', k = k' + 1 := ⟨k - 1, by omega⟩
    have hrest := ih k hne (fun p hp => hparts p (List.mem_cons_of_mem _ hp)) (by omega) (by omega)
    exact UnlessTooDeep.bind (f := fun x => .ok (part.2 :: x.1, x.2)) hrest (.inr rfl)

/-- Arguments start like an expression, so with no closing parenthesis. -/
theorem Separated.ne_closeParen {parts : List (List Token × Expr)} {as : List Token}
    (hsep : Separated parts as) (hne : parts ≠ [])
    (hparts : ∀ part ∈ parts, Derives .disjunction part.1 part.2) (rest : List Token) :
    ∀ pos tail, as ++ rest ≠ ⟨.symbol .closeParen, pos⟩ :: tail := by
  intro pos tail heq
  cases hsep with
  | none => exact hne rfl
  | one part | more part =>
    obtain ⟨l, pos', tail', hpart, hl⟩ := (hparts part List.mem_cons_self).starts
    rw [hpart] at heq
    cases heq
    rcases hl with h | ⟨h, -⟩ | ⟨h, -⟩
    · cases h
    · cases h
    · exact h rfl

theorem arguments_accepts {n d pos k : Nat} {rest : List Token}
    {parts : List (List Token × Expr)} {as : List Token} (hsep : Separated parts as)
    (hder : ∀ part ∈ parts, Derives .disjunction part.1 part.2)
    (hparts : ∀ part ∈ parts, Accepts .disjunction part.1 part.2)
    (hn : (as ++ ⟨.symbol .closeParen, pos⟩ :: rest).length ≤ n)
    (hk : (as ++ ⟨.symbol .closeParen, pos⟩ :: rest).length ≤ k) :
    UnlessTooDeep (arguments k (disjunction n d) (as ++ ⟨.symbol .closeParen, pos⟩ :: rest))
      (.ok (parts.map (·.2), rest)) := by
  by_cases hne : parts = []
  · subst hne
    cases hsep
    exact .inr rfl
  · rw [arguments_eq (hsep.ne_closeParen hne hder _)]
    exact someArguments_accepts hsep k hne hparts hn hk

namespace Accepts

variable {L : Level} {ts : List Token} {t : Expr} {n d : Nat} {rest : List Token}

theorem call {as : List Token} {f : String} (h : Accepts .suffixed ts (.name f))
    {parts : List (List Token × Expr)} (hder : ∀ part ∈ parts, Derives .disjunction part.1 part.2)
    (hparts : ∀ part ∈ parts, Accepts .disjunction part.1 part.2) (hsep : Separated parts as)
    (pos pos' : Nat) :
    Accepts .suffixed (ts ++ ⟨.symbol .openParen, pos⟩ :: (as ++ [⟨.symbol .closeParen, pos'⟩]))
      (.call f (parts.map (·.2))) := by
  intro n d rest hn _
  simp only [List.append_assoc, List.cons_append, List.nil_append] at hn ⊢
  obtain ⟨k, hk, hgo⟩ := h.suffixes hn (by simp)
  simp only [List.length_append, List.length_cons] at hk hn
  have hargs : UnlessTooDeep
      (arguments k (disjunction n d) (as ++ ⟨.symbol .closeParen, pos'⟩ :: rest))
      (.ok (parts.map (·.2), rest)) :=
    arguments_accepts hsep hder hparts (by simp; omega) (by simp; omega)
  exact ⟨k, by omega, hgo.trans (hargs.bind (.inr rfl))⟩

/-! ### Primary expressions -/

theorem parenthesized (h : Accepts .disjunction ts t) (pos pos' : Nat) :
    Accepts .primary (⟨.symbol .openParen, pos⟩ :: (ts ++ [⟨.symbol .closeParen, pos'⟩])) t := by
  refine (loopless_iff .primary).2 fun n d rest hn _ => ?_
  simp only [List.append_assoc, List.cons_append, List.nil_append, List.length_cons] at hn ⊢
  exact (h.inner (by omega) (stops_closeParen pos' rest)).bind (.inr rfl)

end Accepts

/-- The parser of a level reads whatever is derived at the level. -/
theorem Derives.accepts {L : Level} {ts : List Token} {t : Expr} (h : Derives L ts t) :
    Accepts L ts t := by
  induction h with
  | tighter h ih => exact ih.tighter h.starts
  | operator hs pos _ _ ihl ihr => exact .operator hs pos ihl ihr
  | not pos _ ih => exact ih.not pos
  | sign hs pos _ ih => exact ih.sign hs pos
  | member _ pos pos' f ih => exact ih.member pos pos' f
  | index _ _ pos pos' ih ihi => exact ih.index ihi pos pos'
  | call _ hparts hsep pos pos' ih ihparts => exact ih.call hparts ihparts hsep pos pos'
  | parenthesized _ pos pos' ih => exact ih.parenthesized pos pos'
  | number _ _ | text _ _ | truth _ _ | null _ | name _ _ =>
    exact (Accepts.loopless_iff .primary).2 fun n d rest _ _ => .inr rfl

end CardRules.Expr
