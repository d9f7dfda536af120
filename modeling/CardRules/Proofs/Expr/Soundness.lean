import CardRules.Proofs.Expr.Grammar
import Mathlib.Algebra.GroupWithZero.Nat

/-!
# What the parser reads

The parser looks at the tokens up to the first end and at no token behind it, and what it accepts
the grammar derives. Both are said of one run and a second one that differs only in what follows
the end and in the bounds on repetitions (`Reads`): the two runs fail alike, or they read the same
tokens and find the same tree, which the tokens derive. A run that is nested too deeply has met at
least as many brackets and operators in front of operands as its budget allows for (`weight`).
-/

namespace CardRules.Expr

variable {α β : Type}

/-- The steps of the depth budget that a token can take. -/
def Token.weight (t : Token) : Nat :=
  match t.lexeme with
  | .symbol .openParen | .symbol .openBracket => 3
  | .symbol .not | .symbol .bang | .symbol .minus | .symbol .plus => 1
  | _ => 0

/-- The steps of the depth budget that tokens can take. -/
def weight (ts : List Token) : Nat := (ts.map Token.weight).sum

@[simp] theorem weight_cons (t : Token) (ts : List Token) :
    weight (t :: ts) = t.weight + weight ts := by simp [weight]

@[simp] theorem weight_append (ts us : List Token) : weight (ts ++ us) = weight ts + weight us := by
  simp [weight]

theorem lt_weight_cons {c d : Nat} {t : Token} {ts : List Token} (h : d < c + weight ts) :
    d < c + weight (t :: ts) := by
  rw [weight_cons]
  omega

theorem lt_weight_append {c d : Nat} {ts us : List Token} (h : d < c + weight us) :
    d < c + weight (ts ++ us) := by
  rw [weight_append]
  omega

/-! ## Two runs alike -/

/-- Two results on `ts` before the ends `E` and `E'`: the same error, which is too deep nesting only
if it is `deep`, or the same value of the same tokens at the start of `ts`. -/
def Alike (E E' : List Token) (deep : Prop) (good : List Token → α → Prop) (ts : List Token)
    (x x' : Except SyntaxError (α × List Token)) : Prop :=
  (∃ e, x = .error e ∧ x' = .error e ∧ (e = .nestedTooDeeply → deep)) ∨
    ∃ (pre ts' : List Token) (a : α), ts = pre ++ ts' ∧ good pre a ∧
      x = .ok (a, ts' ++ E) ∧ x' = .ok (a, ts' ++ E')

namespace Alike

variable {E E' ts : List Token} {deep deep' : Prop} {good : List Token → α → Prop}
  {good' : List Token → β → Prop} {x x' : Except SyntaxError (α × List Token)}

theorem error {e : SyntaxError} (hx : x = .error e) (hx' : x' = .error e)
    (he : e ≠ .nestedTooDeeply) : Alike E E' deep good ts x x' :=
  .inl ⟨e, hx, hx', fun h => absurd h he⟩

/-- What follows a part of the tokens goes on with the rest of them. -/
theorem bind {f f' : α × List Token → Except SyntaxError (β × List Token)}
    (h : Alike E E' deep good ts x x')
    (hf : ∀ pre ts' a, ts = pre ++ ts' → good pre a →
      Alike E E' deep (fun us b => good' (pre ++ us) b) ts' (f (a, ts' ++ E)) (f' (a, ts' ++ E'))) :
    Alike E E' deep good' ts (x >>= f) (x' >>= f') := by
  rcases h with ⟨e, rfl, rfl, he⟩ | ⟨pre, ts', a, hts, hgood, rfl, rfl⟩
  · exact .inl ⟨e, rfl, rfl, he⟩
  · rcases hf pre ts' a hts hgood with ⟨e, he, he', hdeep⟩ | ⟨us, ts'', b, hts', hgood', hb, hb'⟩
    · exact .inl ⟨e, he, he', hdeep⟩
    · exact .inr ⟨pre ++ us, ts'', b, by rw [hts, hts', List.append_assoc], hgood', hb, hb'⟩

theorem mono {good₂ : List Token → α → Prop} (h : Alike E E' deep good ts x x')
    (hdeep : deep → deep') (hgood : ∀ pre a, good pre a → good₂ pre a) :
    Alike E E' deep' good₂ ts x x' := by
  rcases h with ⟨e, hx, hx', he⟩ | ⟨pre, ts', a, hts, h, hx, hx'⟩
  · exact .inl ⟨e, hx, hx', fun h => hdeep (he h)⟩
  · exact .inr ⟨pre, ts', a, hts, hgood pre a h, hx, hx'⟩

/-- Tokens read before count as read. -/
theorem cons {t : Token} (h : Alike E E' deep (fun us a => good (t :: us) a) ts x x') :
    Alike E E' deep good (t :: ts) x x' := by
  rcases h with ⟨e, hx, hx', he⟩ | ⟨pre, ts', a, hts, h, hx, hx'⟩
  · exact .inl ⟨e, hx, hx', he⟩
  · exact .inr ⟨t :: pre, ts', a, by rw [hts, List.cons_append], h, hx, hx'⟩

end Alike

/-- Both parsers read expressions of the level: alike, whatever follows the end. `c` is what the
level itself takes of the budget `d`. -/
def Reads (m c d : Nat) (L : Level) (p p' : Parser) : Prop :=
  ∀ (ts : List Token) (pos : Nat) (rest rest' : List Token), Endless ts → ts.length ≤ m →
    Alike (⟨.finish, pos⟩ :: rest) (⟨.finish, pos⟩ :: rest') (d < c + weight ts) (Derives L) ts
      (p (ts ++ ⟨.finish, pos⟩ :: rest)) (p' (ts ++ ⟨.finish, pos⟩ :: rest'))

namespace Reads

variable {m c d : Nat} {L : Level} {p p' : Parser}

/-- One more step of the budget allows for one more step of the level. -/
theorem deeper (h : Reads m c d L p p') : Reads m (c + 1) (d + 1) L p p' :=
  fun ts pos rest rest' hends hm =>
    (h ts pos rest rest' hends hm).mono (fun hdeep => by omega) fun _ _ h => h

theorem tighter (h : Reads m c d L.next p p') : Reads m c d L p p' :=
  fun ts pos rest rest' hends hm => (h ts pos rest rest' hends hm).mono id fun _ _ h => .tighter h

end Reads

/-- A symbol that comes next before the end of a text is the first of the tokens before it. -/
theorem cons_of_append_finish {ts rest tail : List Token} {pos pos' : Nat} {s : Symbol}
    (h : ts ++ ⟨.finish, pos⟩ :: rest = ⟨.symbol s, pos'⟩ :: tail) :
    ∃ ts', ts = ⟨.symbol s, pos'⟩ :: ts' := by
  cases ts with
  | nil => cases h
  | cons t ts =>
    rw [List.cons_append] at h
    injection h with ht
    exact ⟨ts, by rw [ht]⟩

variable {m c d n n' : Nat} {L : Level} {p p' : Parser}

/-! ## Operators of one level -/

/-- A chain ends at a token that is no operator of the level. -/
theorem chainFrom_stop {join : Joiner} {next : Parser} {left : Expr} {ts : List Token}
    (h : ∀ s pos tail, ts = ⟨.symbol s, pos⟩ :: tail → join s = none) (n : Nat) :
    chainFrom join next n left ts = .ok (left, ts) := by
  cases n with
  | zero => rfl
  | succ n =>
    match ts with
    | [] => rfl
    | ⟨.symbol s, pos⟩ :: tail => simp only [chainFrom, h s pos tail rfl]
    | ⟨.number _, _⟩ :: _ | ⟨.text _, _⟩ :: _ | ⟨.name _, _⟩ :: _ | ⟨.constant _, _⟩ :: _
    | ⟨.finish, _⟩ :: _ => rfl

theorem chainFrom_alike (hp : Reads m c d L.next p p') (pos : Nat) (rest rest' : List Token)
    (n : Nat) : ∀ (n' : Nat) (ts : List Token) (left : Expr), Endless ts → ts.length ≤ m →
    ts.length ≤ n → ts.length ≤ n' →
    Alike (⟨.finish, pos⟩ :: rest) (⟨.finish, pos⟩ :: rest') (d < c + weight ts)
      (fun us t => ∀ ls, Derives L ls left → Derives L (ls ++ us) t) ts
      (chainFrom L.joiner p n left (ts ++ ⟨.finish, pos⟩ :: rest))
      (chainFrom L.joiner p' n' left (ts ++ ⟨.finish, pos⟩ :: rest')) := by
  induction n with
  | zero =>
    intro n' ts left _ _ hn _
    obtain rfl : ts = [] := List.length_eq_zero_iff.1 (Nat.le_zero.1 hn)
    refine .inr ⟨[], [], left, rfl, fun ls h => by simpa using h, rfl, ?_⟩
    exact chainFrom_stop (fun s pos tail h => by cases h) n'
  | succ n ih =>
    intro n' ts left hends hm hn hn'
    have hstop (hnone : ∀ s pos tail, ts = ⟨.symbol s, pos⟩ :: tail → L.joiner s = none) :
        Alike (⟨.finish, pos⟩ :: rest) (⟨.finish, pos⟩ :: rest') (d < c + weight ts)
          (fun us t => ∀ ls, Derives L ls left → Derives L (ls ++ us) t) ts
          (chainFrom L.joiner p (n + 1) left (ts ++ ⟨.finish, pos⟩ :: rest))
          (chainFrom L.joiner p' n' left (ts ++ ⟨.finish, pos⟩ :: rest')) := by
      have hnone' (rest : List Token) : ∀ s pos' tail,
          ts ++ ⟨.finish, pos⟩ :: rest = ⟨.symbol s, pos'⟩ :: tail → L.joiner s = none := by
        intro s pos' tail h
        obtain ⟨ts', hts⟩ := cons_of_append_finish h
        exact hnone s pos' ts' hts
      exact .inr ⟨[], ts, left, rfl, fun ls h => by simpa using h,
        chainFrom_stop (hnone' rest) (n + 1), chainFrom_stop (hnone' rest') n'⟩
    match ts with
    | [] => exact hstop fun s pos tail h => by cases h
    | ⟨.symbol s, pos'⟩ :: ts =>
      cases hs : L.joiner s with
      | none =>
        refine hstop fun s' pos'' tail h => ?_
        cases h
        exact hs
      | some f =>
        simp only [List.length_cons] at hm hn hn'
        obtain ⟨k, rfl⟩ : ∃ k, n' = k + 1 := ⟨n' - 1, by omega⟩
        simp only [List.cons_append, chainFrom, hs]
        have hright := hp ts pos rest rest' hends.tail (by omega)
        refine .cons (.bind (hright.mono lt_weight_cons fun _ _ h => h) ?_)
        rintro us ts' r rfl hr
        simp only [List.length_append] at hm hn hn'
        have hrest := ih k ts' (f left r) (Endless.right hends.tail) (by omega) (by omega)
          (by omega)
        refine hrest.mono (fun hdeep => lt_weight_cons (lt_weight_append hdeep)) ?_
        intro us' t h ls hl
        have := h _ (.operator (joiner_eq_some_iff.1 hs) pos' hl hr)
        simpa using this
    | ⟨.number _, _⟩ :: _ | ⟨.text _, _⟩ :: _ | ⟨.name _, _⟩ :: _ | ⟨.constant _, _⟩ :: _
    | ⟨.finish, _⟩ :: _ => exact hstop fun s pos tail h => by cases h

theorem chain_reads (hp : Reads m c d L.next p p') (hn : m ≤ n) (hn' : m ≤ n') :
    Reads m c d L (chain n L.joiner p) (chain n' L.joiner p') := by
  intro ts pos rest rest' hends hm
  refine .bind (hp ts pos rest rest' hends hm) ?_
  rintro pre ts' left rfl hleft
  simp only [List.length_append] at hm
  have hrest := chainFrom_alike hp pos rest rest' n n' ts' left hends.right (by omega) (by omega)
    (by omega)
  exact hrest.mono lt_weight_append fun us t h => h pre (.tighter hleft)

/-! ## Brackets -/

/-- The symbol that must come next is there, or it is missed the same way whatever follows the
end. -/
theorem expect_cases (s : Symbol) (ts : List Token) (pos : Nat) :
    (∃ pos' ts', ts = ⟨.symbol s, pos'⟩ :: ts' ∧
        ∀ rest, expect s (ts ++ ⟨.finish, pos⟩ :: rest) = .ok (ts' ++ ⟨.finish, pos⟩ :: rest)) ∨
      ∃ pos', ∀ rest, expect s (ts ++ ⟨.finish, pos⟩ :: rest) = .error (.expected s pos') := by
  match ts with
  | ⟨.symbol s', pos'⟩ :: ts =>
    by_cases hs : s' = s
    · subst hs
      exact .inl ⟨pos', ts, rfl, fun rest => by simp [expect]⟩
    · exact .inr ⟨pos', fun rest => by simp [expect, hs]⟩
  | [] => exact .inr ⟨pos, fun rest => rfl⟩
  | ⟨.number _, pos'⟩ :: _ | ⟨.text _, pos'⟩ :: _ | ⟨.name _, pos'⟩ :: _ | ⟨.constant _, pos'⟩ :: _
  | ⟨.finish, pos'⟩ :: _ => exact .inr ⟨pos', fun rest => rfl⟩

variable {inner inner' : Parser}

theorem primary_reads (hin : Reads m 3 d .disjunction inner inner') :
    Reads m 0 d .primary (primary inner) (primary inner') := by
  intro ts pos rest rest' hends hm
  match ts with
  | [] => exact .error rfl rfl (by simp)
  | ⟨.number x, pos'⟩ :: ts =>
    exact .inr ⟨[⟨.number x, pos'⟩], ts, _, rfl, .number x pos', rfl, rfl⟩
  | ⟨.text x, pos'⟩ :: ts => exact .inr ⟨[⟨.text x, pos'⟩], ts, _, rfl, .text x pos', rfl, rfl⟩
  | ⟨.name x, pos'⟩ :: ts => exact .inr ⟨[⟨.name x, pos'⟩], ts, _, rfl, .name x pos', rfl, rfl⟩
  | ⟨.constant (some x), pos'⟩ :: ts =>
    exact .inr ⟨[⟨.constant (some x), pos'⟩], ts, _, rfl, .truth x pos', rfl, rfl⟩
  | ⟨.constant none, pos'⟩ :: ts =>
    exact .inr ⟨[⟨.constant none, pos'⟩], ts, _, rfl, .null pos', rfl, rfl⟩
  | ⟨.finish, pos'⟩ :: ts => exact absurd rfl (hends ⟨.finish, pos'⟩ List.mem_cons_self)
  | ⟨.symbol s, pos'⟩ :: ts =>
    by_cases hs : s = .openParen
    · subst hs
      simp only [List.length_cons] at hm
      simp only [List.cons_append, primary]
      have hparen : Token.weight ⟨.symbol .openParen, pos'⟩ = 3 := rfl
      have hinner := hin ts pos rest rest' hends.tail (by omega)
      refine .cons (.bind (hinner.mono (fun hdeep => ?_) fun _ _ h => h) ?_)
      · rw [weight_cons, hparen]
        omega
      · rintro us ts' t - ht
        dsimp only
        rcases expect_cases .closeParen ts' pos with ⟨pos'', ts'', rfl, hok⟩ | ⟨pos'', herr⟩
        · rw [hok, hok]
          exact .inr ⟨[⟨.symbol .closeParen, pos''⟩], ts'', t, rfl,
            .parenthesized ht pos' pos'', rfl, rfl⟩
        · rw [herr, herr]
          exact .error rfl rfl (by simp)
    · refine .error (e := .unexpected (.symbol s) pos') ?_ ?_ (by simp) <;>
        cases s <;> first | rfl | exact absurd rfl hs

/-! ### Arguments -/

/-- The tokens are those of arguments up to the closing parenthesis. -/
def ClosedArguments (us : List Token) (es : List Expr) : Prop :=
  ∃ (parts : List (List Token × Expr)) (as : List Token) (pos : Nat),
    us = as ++ [⟨.symbol .closeParen, pos⟩] ∧ Separated parts as ∧
      (∀ part ∈ parts, Derives .disjunction part.1 part.2) ∧ es = parts.map (·.2)

namespace ClosedArguments

variable {us us₀ : List Token} {e₀ e : Expr} {es : List Expr}

theorem one (h : Derives .disjunction us₀ e₀) (pos : Nat) :
    ClosedArguments (us₀ ++ [⟨.symbol .closeParen, pos⟩]) [e₀] :=
  ⟨[(us₀, e₀)], us₀, pos, rfl, .one (us₀, e₀), by simpa using h, rfl⟩

theorem more (h : Derives .disjunction us₀ e₀) (pos : Nat) (hrest : ClosedArguments us (e :: es)) :
    ClosedArguments (us₀ ++ ⟨.symbol .comma, pos⟩ :: us) (e₀ :: e :: es) := by
  obtain ⟨parts, as, pos', rfl, hsep, hparts, hes⟩ := hrest
  have hne : parts ≠ [] := by
    rintro rfl
    cases hes
  refine ⟨(us₀, e₀) :: parts, us₀ ++ ⟨.symbol .comma, pos⟩ :: as, pos', by simp,
    .more (us₀, e₀) pos hne hsep, ?_, by simp [hes]⟩
  intro part hpart
  rcases List.mem_cons.1 hpart with rfl | hpart
  · exact h
  · exact hparts part hpart

end ClosedArguments

/-- Behind an argument comes a comma or the closing parenthesis. -/
theorem argumentsFrom_eq {n : Nat} {ts : List Token}
    (h : ∀ pos tail, ts ≠ ⟨.symbol .comma, pos⟩ :: tail) :
    argumentsFrom inner n ts = do
      let ts ← expect .closeParen ts
      return ([], ts) := by
  unfold argumentsFrom
  split
  · exact absurd rfl (h _ _)
  · rfl

theorem argumentsFrom_alike (hin : Reads m 3 d .disjunction inner inner') (pos : Nat)
    (rest rest' : List Token) (n : Nat) : ∀ (n' : Nat) (ts : List Token), Endless ts →
    ts.length ≤ m → ts.length ≤ n → ts.length ≤ n' →
    Alike (⟨.finish, pos⟩ :: rest) (⟨.finish, pos⟩ :: rest') (d < 3 + weight ts)
      (fun us es => ∀ us₀ e₀, Derives .disjunction us₀ e₀ → ClosedArguments (us₀ ++ us) (e₀ :: es))
      ts (argumentsFrom inner n (ts ++ ⟨.finish, pos⟩ :: rest))
      (argumentsFrom inner' n' (ts ++ ⟨.finish, pos⟩ :: rest')) := by
  induction n with
  | zero =>
    intro n' ts _ _ hn _
    obtain rfl : ts = [] := List.length_eq_zero_iff.1 (Nat.le_zero.1 hn)
    have herr (inner : Parser) (n : Nat) (rest : List Token) :
        argumentsFrom inner n ([] ++ ⟨.finish, pos⟩ :: rest) =
          .error (.expected .closeParen pos) := by
      rw [argumentsFrom_eq fun pos tail h => by cases h]
      rfl
    exact .error (herr inner 0 rest) (herr inner' n' rest') (by simp)
  | succ n ih =>
    intro n' ts hends hm hn hn'
    by_cases hcomma : ∃ pos' tail, ts = ⟨.symbol .comma, pos'⟩ :: tail
    · obtain ⟨pos', ts, rfl⟩ := hcomma
      simp only [List.length_cons] at hm hn hn'
      obtain ⟨k, rfl⟩ : ∃ k, n' = k + 1 := ⟨n' - 1, by omega⟩
      simp only [List.cons_append, argumentsFrom]
      have hinner := hin ts pos rest rest' hends.tail (by omega)
      refine .cons (.bind (hinner.mono lt_weight_cons fun _ _ h => h) ?_)
      rintro us ts' e rfl he
      simp only [List.length_append] at hm hn hn'
      have hrest := ih k ts' (Endless.right hends.tail) (by omega) (by omega) (by omega)
      refine .bind (hrest.mono (fun hdeep => lt_weight_cons (lt_weight_append hdeep))
        fun _ _ h => h) ?_
      rintro us' ts'' es - hes
      refine .inr ⟨[], ts'', e :: es, rfl, fun us₀ e₀ h₀ => ?_, rfl, rfl⟩
      have := (hes us e he).more h₀ pos'
      simpa using this
    · have hnone (rest : List Token) : ∀ pos' tail,
          ts ++ ⟨.finish, pos⟩ :: rest ≠ ⟨.symbol .comma, pos'⟩ :: tail := by
        intro pos' tail h
        obtain ⟨ts', hts⟩ := cons_of_append_finish h
        exact hcomma ⟨pos', ts', hts⟩
      rw [argumentsFrom_eq (hnone rest), argumentsFrom_eq (hnone rest')]
      rcases expect_cases .closeParen ts pos with ⟨pos', ts', rfl, hok⟩ | ⟨pos', herr⟩
      · rw [hok, hok]
        exact .inr ⟨[⟨.symbol .closeParen, pos'⟩], ts', [], rfl, fun us₀ e₀ h₀ => .one h₀ pos',
          rfl, rfl⟩
      · rw [herr, herr]
        exact .error rfl rfl (by simp)

theorem arguments_eq {n : Nat} {ts : List Token}
    (h : ∀ pos tail, ts ≠ ⟨.symbol .closeParen, pos⟩ :: tail) :
    arguments n inner ts = do
      let (e, ts) ← inner ts
      let (es, ts) ← argumentsFrom inner n ts
      return (e :: es, ts) := by
  unfold arguments
  split
  · exact absurd rfl (h _ _)
  · rfl

theorem arguments_alike (hin : Reads m 3 d .disjunction inner inner') (pos : Nat)
    (rest rest' : List Token) {n n' : Nat} {ts : List Token} (hends : Endless ts)
    (hm : ts.length ≤ m) (hn : ts.length ≤ n) (hn' : ts.length ≤ n') :
    Alike (⟨.finish, pos⟩ :: rest) (⟨.finish, pos⟩ :: rest') (d < 3 + weight ts) ClosedArguments
      ts (arguments n inner (ts ++ ⟨.finish, pos⟩ :: rest))
      (arguments n' inner' (ts ++ ⟨.finish, pos⟩ :: rest')) := by
  by_cases hclose : ∃ pos' tail, ts = ⟨.symbol .closeParen, pos'⟩ :: tail
  · obtain ⟨pos', ts, rfl⟩ := hclose
    exact .inr ⟨[⟨.symbol .closeParen, pos'⟩], ts, [], rfl,
      ⟨[], [], pos', rfl, .none, by simp, rfl⟩, rfl, rfl⟩
  · have hnone (rest : List Token) : ∀ pos' tail,
        ts ++ ⟨.finish, pos⟩ :: rest ≠ ⟨.symbol .closeParen, pos'⟩ :: tail := by
      intro pos' tail h
      obtain ⟨ts', hts⟩ := cons_of_append_finish h
      exact hclose ⟨pos', ts', hts⟩
    rw [arguments_eq (hnone rest), arguments_eq (hnone rest')]
    refine .bind (hin ts pos rest rest' hends hm) ?_
    rintro us ts' e rfl he
    simp only [List.length_append] at hm hn hn'
    have hrest := argumentsFrom_alike hin pos rest rest' n n' ts' hends.right (by omega)
      (by omega) (by omega)
    refine .bind (hrest.mono lt_weight_append fun _ _ h => h) ?_
    rintro us' ts'' es - hes
    refine .inr ⟨[], ts'', e :: es, rfl, ?_, rfl, rfl⟩
    simpa using hes us e he

/-! ### Suffixes -/

/-- The symbols that a suffix starts with. -/
inductive OpensSuffix : Symbol → Prop
  | dot : OpensSuffix .dot
  | openBracket : OpensSuffix .openBracket
  | openParen : OpensSuffix .openParen

/-- Suffixes end at a token that starts none. -/
theorem suffixesFrom_stop {ts : List Token}
    (h : ∀ s pos tail, ts = ⟨.symbol s, pos⟩ :: tail → ¬ OpensSuffix s) (n : Nat) (e : Expr) :
    suffixesFrom inner n e ts = .ok (e, ts) := by
  unfold suffixesFrom
  split
  · exact absurd .dot (h _ _ _ rfl)
  · exact absurd .openBracket (h _ _ _ rfl)
  · exact absurd .openParen (h _ _ _ rfl)
  · rfl

/-- Both parsers read the same suffixes of any tree, with up to `n` and `n'` of them. -/
def SuffixesAlike (m d : Nat) (inner inner' : Parser) (n n' : Nat) : Prop :=
  ∀ (ts : List Token) (pos : Nat) (rest rest' : List Token) (e : Expr), Endless ts →
    ts.length ≤ m → ts.length ≤ n → ts.length ≤ n' →
    Alike (⟨.finish, pos⟩ :: rest) (⟨.finish, pos⟩ :: rest') (d < weight ts)
      (fun us t => ∀ ls, Derives .suffixed ls e → Derives .suffixed (ls ++ us) t) ts
      (suffixesFrom inner n e (ts ++ ⟨.finish, pos⟩ :: rest))
      (suffixesFrom inner' n' e (ts ++ ⟨.finish, pos⟩ :: rest'))

namespace SuffixesAlike

variable {ts : List Token} {pos pos' : Nat} {rest rest' : List Token} {e e' : Expr}

/-- Behind the tokens `us` of one suffix the next ones are read from the tree with it. -/
theorem behind (h : SuffixesAlike m d inner inner' n n') (us : List Token)
    (hends : Endless (us ++ ts)) (hus : us ≠ []) (hm : (us ++ ts).length ≤ m)
    (hn : (us ++ ts).length ≤ n + 1) (hn' : (us ++ ts).length ≤ n' + 1)
    (hstep : ∀ ls, Derives .suffixed ls e → Derives .suffixed (ls ++ us) e') :
    Alike (⟨.finish, pos⟩ :: rest) (⟨.finish, pos⟩ :: rest') (d < weight (us ++ ts))
      (fun us' t => ∀ ls, Derives .suffixed ls e → Derives .suffixed (ls ++ (us ++ us')) t) ts
      (suffixesFrom inner n e' (ts ++ ⟨.finish, pos⟩ :: rest))
      (suffixesFrom inner' n' e' (ts ++ ⟨.finish, pos⟩ :: rest')) := by
  have hlen := List.length_pos_iff.2 hus
  rw [List.length_append] at hm hn hn'
  refine (h ts pos rest rest' e' hends.right (by omega) (by omega) (by omega)).mono ?_ ?_
  · intro hdeep
    rw [weight_append]
    omega
  · intro us' t h ls hls
    rw [← List.append_assoc]
    exact h _ (hstep ls hls)

/-- A dot and a field name, then the next suffixes. -/
theorem member (h : SuffixesAlike m d inner inner' n n')
    (hends : Endless (⟨.symbol .dot, pos'⟩ :: ts)) (hm : ts.length + 1 ≤ m) (hn : ts.length ≤ n)
    (hn' : ts.length ≤ n') :
    Alike (⟨.finish, pos⟩ :: rest) (⟨.finish, pos⟩ :: rest')
      (d < weight (⟨.symbol .dot, pos'⟩ :: ts))
      (fun us t => ∀ ls, Derives .suffixed ls e → Derives .suffixed (ls ++ us) t)
      (⟨.symbol .dot, pos'⟩ :: ts)
      (suffixesFrom inner (n + 1) e (⟨.symbol .dot, pos'⟩ :: (ts ++ ⟨.finish, pos⟩ :: rest)))
      (suffixesFrom inner' (n' + 1) e
        (⟨.symbol .dot, pos'⟩ :: (ts ++ ⟨.finish, pos⟩ :: rest'))) := by
  match ts with
  | ⟨.name f, pos''⟩ :: ts =>
    refine .cons (.cons ?_)
    simp only [List.length_cons] at hm hn hn'
    exact h.behind [⟨.symbol .dot, pos'⟩, ⟨.name f, pos''⟩] hends (by simp) (by simp; omega)
      (by simp; omega) (by simp; omega) fun ls hls => .member hls pos' pos'' f
  | [] => exact .error rfl rfl (by simp)
  | ⟨.number _, _⟩ :: _ | ⟨.text _, _⟩ :: _ | ⟨.symbol _, _⟩ :: _ | ⟨.constant _, _⟩ :: _
  | ⟨.finish, _⟩ :: _ => exact .error rfl rfl (by simp)

/-- An index in brackets, then the next suffixes. -/
theorem index (h : SuffixesAlike m d inner inner' n n')
    (hin : Reads m 3 d .disjunction inner inner')
    (hends : Endless (⟨.symbol .openBracket, pos'⟩ :: ts)) (hm : ts.length + 1 ≤ m)
    (hn : ts.length ≤ n) (hn' : ts.length ≤ n') :
    Alike (⟨.finish, pos⟩ :: rest) (⟨.finish, pos⟩ :: rest')
      (d < weight (⟨.symbol .openBracket, pos'⟩ :: ts))
      (fun us t => ∀ ls, Derives .suffixed ls e → Derives .suffixed (ls ++ us) t)
      (⟨.symbol .openBracket, pos'⟩ :: ts)
      (suffixesFrom inner (n + 1) e
        (⟨.symbol .openBracket, pos'⟩ :: (ts ++ ⟨.finish, pos⟩ :: rest)))
      (suffixesFrom inner' (n' + 1) e
        (⟨.symbol .openBracket, pos'⟩ :: (ts ++ ⟨.finish, pos⟩ :: rest'))) := by
  have hbracket : Token.weight ⟨.symbol .openBracket, pos'⟩ = 3 := rfl
  have hinner := hin ts pos rest rest' hends.tail (by omega)
  refine .cons (.bind (hinner.mono (fun hdeep => ?_) fun _ _ h => h) ?_)
  · rw [weight_cons, hbracket]
    exact hdeep
  · rintro us ts' i rfl hi
    dsimp only
    rcases expect_cases .closeBracket ts' pos with ⟨pos'', ts'', rfl, hok⟩ | ⟨pos'', herr⟩
    · rw [hok, hok]
      simp only [bind, Except.bind]
      refine .cons ?_
      simp only [List.length_append, List.length_cons] at hm hn hn'
      refine (h.behind (⟨.symbol .openBracket, pos'⟩ :: (us ++ [⟨.symbol .closeBracket, pos''⟩]))
        (by simpa using hends) (by simp) (by simp; omega) (by simp; omega) (by simp; omega)
        fun ls hls => .index hls hi pos' pos'').mono (fun hdeep => ?_) fun us' t h ls hls => ?_
      · simpa using hdeep
      · simpa using h ls hls
    · rw [herr, herr]
      exact .error rfl rfl (by simp)

/-- Arguments of a name, then the next suffixes; nothing else can be called. -/
theorem call (h : SuffixesAlike m d inner inner' n n')
    (hin : Reads m 3 d .disjunction inner inner')
    (hends : Endless (⟨.symbol .openParen, pos'⟩ :: ts)) (hm : ts.length + 1 ≤ m)
    (hn : ts.length ≤ n) (hn' : ts.length ≤ n') :
    Alike (⟨.finish, pos⟩ :: rest) (⟨.finish, pos⟩ :: rest')
      (d < weight (⟨.symbol .openParen, pos'⟩ :: ts))
      (fun us t => ∀ ls, Derives .suffixed ls e → Derives .suffixed (ls ++ us) t)
      (⟨.symbol .openParen, pos'⟩ :: ts)
      (suffixesFrom inner (n + 1) e (⟨.symbol .openParen, pos'⟩ :: (ts ++ ⟨.finish, pos⟩ :: rest)))
      (suffixesFrom inner' (n' + 1) e
        (⟨.symbol .openParen, pos'⟩ :: (ts ++ ⟨.finish, pos⟩ :: rest'))) := by
  have hparen : Token.weight ⟨.symbol .openParen, pos'⟩ = 3 := rfl
  match e with
  | .name f =>
    have hargs := arguments_alike hin pos rest rest' hends.tail (by omega) hn hn'
    refine .cons (.bind (hargs.mono (fun hdeep => ?_) fun _ _ h => h) ?_)
    · rw [weight_cons, hparen]
      exact hdeep
    · rintro us ts' es rfl ⟨parts, as, pos'', rfl, hsep, hparts, rfl⟩
      simp only [List.length_append, List.length_cons] at hm hn hn'
      exact h.behind (⟨.symbol .openParen, pos'⟩ :: (as ++ [⟨.symbol .closeParen, pos''⟩])) hends
        (by simp) (by simp; omega) (by simp; omega) (by simp; omega)
        fun ls hls => .call hls hparts hsep pos' pos''
  | .literal _ | .member _ _ | .index _ _ | .call _ _ | .unary _ _ | .binary _ _ _
  | .logical _ _ _ => exact .error rfl rfl (by simp)

end SuffixesAlike

theorem suffixesFrom_alike (hin : Reads m 3 d .disjunction inner inner') (n : Nat) :
    ∀ n', SuffixesAlike m d inner inner' n n' := by
  induction n with
  | zero =>
    intro n' ts pos rest rest' e _ _ hn _
    obtain rfl : ts = [] := List.length_eq_zero_iff.1 (Nat.le_zero.1 hn)
    refine .inr ⟨[], [], e, rfl, fun ls h => by simpa using h, rfl, ?_⟩
    exact suffixesFrom_stop (fun s pos tail h => by cases h) n' e
  | succ n ih =>
    intro n' ts pos rest rest' e hends hm hn hn'
    by_cases hopen : ∃ s pos' tail, ts = ⟨.symbol s, pos'⟩ :: tail ∧ OpensSuffix s
    · obtain ⟨s, pos', ts, rfl, hs⟩ := hopen
      simp only [List.length_cons] at hm hn hn'
      obtain ⟨k, rfl⟩ : ∃ k, n' = k + 1 := ⟨n' - 1, by omega⟩
      cases hs with
      | dot => exact (ih k).member hends hm (by omega) (by omega)
      | openBracket => exact (ih k).index hin hends hm (by omega) (by omega)
      | openParen => exact (ih k).call hin hends hm (by omega) (by omega)
    · have hstop (rest : List Token) : ∀ s pos' tail,
          ts ++ ⟨.finish, pos⟩ :: rest = ⟨.symbol s, pos'⟩ :: tail → ¬ OpensSuffix s := by
        intro s pos' tail h hs
        obtain ⟨ts', hts⟩ := cons_of_append_finish h
        exact hopen ⟨s, pos', ts', hts, hs⟩
      exact .inr ⟨[], ts, e, rfl, fun ls h => by simpa using h,
        suffixesFrom_stop (hstop rest) (n + 1) e, suffixesFrom_stop (hstop rest') n' e⟩

theorem suffixed_reads (hin : Reads m 3 d .disjunction inner inner') (hn : m ≤ n) (hn' : m ≤ n') :
    Reads m 0 d .suffixed (suffixed n inner) (suffixed n' inner') := by
  intro ts pos rest rest' hends hm
  refine .bind (primary_reads hin ts pos rest rest' hends hm) ?_
  rintro pre ts' e rfl he
  simp only [List.length_append] at hm
  have hrest := suffixesFrom_alike hin n n' ts' pos rest rest' e hends.right (by omega) (by omega)
    (by omega)
  refine hrest.mono (fun hdeep => ?_) fun us t h => h pre (.tighter he)
  rw [weight_append]
  omega

/-! ## The levels -/

/-- How operands of a logical operator without a negation are parsed. -/
def comparison (n d : Nat) : Parser :=
  chain n joinEquality (chain n joinRelation (chain n joinSum (chain n joinProduct (signed n d))))

theorem negation_eq {ts : List Token} (h : ∀ pos tail, ts ≠ ⟨.symbol .not, pos⟩ :: tail) :
    negation n (d + 1) ts = comparison n d ts := by
  unfold negation
  split
  · exact absurd rfl (h _ _)
  · rfl

theorem signed_eq {ts : List Token}
    (h : ∀ s pos tail, ts = ⟨.symbol s, pos⟩ :: tail → signOf s = none) :
    signed n (d + 1) ts = suffixed n (disjunction n d) ts := by
  unfold signed
  split
  · rw [h _ _ _ rfl]
  · rfl

theorem disjunction_reads (h : Reads m 2 d .negation (negation n d) (negation n' d)) (hn : m ≤ n)
    (hn' : m ≤ n') :
    Reads m 3 (d + 1) .disjunction (disjunction n (d + 1)) (disjunction n' (d + 1)) := by
  have hand : Reads m 2 d .conjunction (chain n joinAnd (negation n d))
      (chain n' joinAnd (negation n' d)) := chain_reads (L := .conjunction) h hn hn'
  have hor := chain_reads (L := .disjunction) hand hn hn'
  exact hor.deeper

theorem comparison_reads (h : Reads m 1 d .signed (signed n d) (signed n' d)) (hn : m ≤ n)
    (hn' : m ≤ n') : Reads m 1 d .equality (comparison n d) (comparison n' d) := by
  have hproduct := chain_reads (L := .product) h hn hn'
  have hsum := chain_reads (L := .sum) hproduct hn hn'
  have hrelation := chain_reads (L := .relation) hsum hn hn'
  exact chain_reads (L := .equality) hrelation hn hn'

theorem negation_reads (hneg : Reads m 2 d .negation (negation n d) (negation n' d))
    (hcmp : Reads m 1 d .equality (comparison n d) (comparison n' d)) :
    Reads m 2 (d + 1) .negation (negation n (d + 1)) (negation n' (d + 1)) := by
  intro ts pos rest rest' hends hm
  by_cases hnot : ∃ pos' tail, ts = ⟨.symbol .not, pos'⟩ :: tail
  · obtain ⟨pos', ts, rfl⟩ := hnot
    have hweight : Token.weight ⟨.symbol .not, pos'⟩ = 1 := rfl
    simp only [List.length_cons] at hm
    have hoperand := hneg ts pos rest rest' hends.tail (by omega)
    refine .cons (.bind (hoperand.mono (fun hdeep => ?_) fun _ _ h => h) ?_)
    · rw [weight_cons, hweight]
      omega
    · rintro us ts' t - ht
      exact .inr ⟨[], ts', .unary .not t, rfl, by simpa using ht.not pos', rfl, rfl⟩
  · have hnone (rest : List Token) : ∀ pos' tail,
        ts ++ ⟨.finish, pos⟩ :: rest ≠ ⟨.symbol .not, pos'⟩ :: tail := by
      intro pos' tail h
      obtain ⟨ts', hts⟩ := cons_of_append_finish h
      exact hnot ⟨pos', ts', hts⟩
    rw [negation_eq (hnone rest), negation_eq (hnone rest')]
    exact (Reads.tighter (L := .negation) hcmp).deeper ts pos rest rest' hends hm

theorem signed_reads (hsigned : Reads m 1 d .signed (signed n d) (signed n' d))
    (hin : Reads m 3 d .disjunction (disjunction n d) (disjunction n' d)) (hn : m ≤ n)
    (hn' : m ≤ n') : Reads m 1 (d + 1) .signed (signed n (d + 1)) (signed n' (d + 1)) := by
  intro ts pos rest rest' hends hm
  by_cases hsign : ∃ s op pos' tail, ts = ⟨.symbol s, pos'⟩ :: tail ∧ Sign s op
  · obtain ⟨s, op, pos', ts, rfl, hs⟩ := hsign
    have hweight : Token.weight ⟨.symbol s, pos'⟩ = 1 := by cases hs <;> rfl
    simp only [List.length_cons] at hm
    simp only [List.cons_append, signed, signOf_eq_some_iff.2 hs]
    have hoperand := hsigned ts pos rest rest' hends.tail (by omega)
    refine .cons (.bind (hoperand.mono (fun hdeep => ?_) fun _ _ h => h) ?_)
    · rw [weight_cons, hweight]
      omega
    · rintro us ts' t - ht
      exact .inr ⟨[], ts', .unary op t, rfl, by simpa using ht.sign hs pos', rfl, rfl⟩
  · have hnone (rest : List Token) : ∀ s pos' tail,
        ts ++ ⟨.finish, pos⟩ :: rest = ⟨.symbol s, pos'⟩ :: tail → signOf s = none := by
      intro s pos' tail h
      obtain ⟨ts', hts⟩ := cons_of_append_finish h
      cases hop : signOf s with
      | none => rfl
      | some op => exact absurd ⟨s, op, pos', ts', hts, signOf_eq_some_iff.1 hop⟩ hsign
    rw [signed_eq (hnone rest), signed_eq (hnone rest')]
    have hsuffixed : Reads m 0 d .signed _ _ := (suffixed_reads hin hn hn').tighter
    exact hsuffixed.deeper ts pos rest rest' hends hm

theorem levels_read (hn : m ≤ n) (hn' : m ≤ n') (d : Nat) :
    Reads m 3 d .disjunction (disjunction n d) (disjunction n' d) ∧
      Reads m 2 d .negation (negation n d) (negation n' d) ∧
      Reads m 1 d .signed (signed n d) (signed n' d) := by
  induction d with
  | zero =>
    refine ⟨?_, ?_, ?_⟩
    all_goals
      intro ts pos rest rest' _ _
      exact .inl ⟨.nestedTooDeeply, rfl, rfl, fun _ => by omega⟩
  | succ d ih =>
    obtain ⟨hin, hneg, hsigned⟩ := ih
    exact ⟨disjunction_reads hneg hn hn', negation_reads hneg (comparison_reads hsigned hn hn'),
      signed_reads hsigned hin hn hn'⟩

end CardRules.Expr
