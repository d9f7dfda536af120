import CardRules.Proofs.Expr.Depth
import CardRules.Proofs.Expr.Parsing
import CardRules.Proofs.Expr.Scanning
import Mathlib.Data.List.Forall2

/-!
# Written conjunctions

`conjoined` writes conditions as one: each in parentheses, with `&&` between them. The tree of that
text is the conjunction of their trees, grouped to the left (`parse_conjoined`), since the tokens of
each part are those of the condition (`Spells.parenthesized`) and the grammar reads them where they
stand as it reads them alone (`Derives.moved`). Such a tree is true if all its parts are, and the
first part that is not true or has no truth decides (`truthAt_conjunctionOf`).
-/

namespace CardRules.Expr

/-! ## The grammar and the places of tokens -/

theorem Separated.moved {parts : List (List Token × Expr)} {ts : List Token}
    (h : Separated parts ts) (k : Nat) :
    Separated (parts.map fun part => (part.1.map (Token.moved k), part.2))
      (ts.map (Token.moved k)) := by
  induction h with
  | none => exact .none
  | one part => exact .one _
  | more part pos hne _ ih =>
    rw [List.map_append]
    exact .more _ (pos + k) (by simpa using hne) ih

/-- Whether tokens form an expression does not depend on where they stand. -/
theorem Derives.moved {L : Level} {ts : List Token} {t : Expr} (h : Derives L ts t) (k : Nat) :
    Derives L (ts.map (Token.moved k)) t := by
  induction h with
  | tighter _ ih => exact .tighter ih
  | operator hs pos _ _ ihl ihr =>
    rw [List.map_append]
    exact .operator hs (pos + k) ihl ihr
  | not pos _ ih => exact .not (pos + k) ih
  | sign hs pos _ ih => exact .sign hs (pos + k) ih
  | member _ pos pos' f ih =>
    rw [List.map_append]
    exact .member ih (pos + k) (pos' + k) f
  | index _ _ pos pos' ih ihi =>
    rw [List.map_append, List.map_cons, List.map_append]
    exact .index ih ihi (pos + k) (pos' + k)
  | @call ts as f _ parts _ hsep pos pos' ih ihparts =>
    have hparts : ∀ part ∈ parts.map fun part => (part.1.map (Token.moved k), part.2),
        Derives .disjunction part.1 part.2 := by
      intro part hpart
      obtain ⟨part', hpart', rfl⟩ := List.mem_map.1 hpart
      exact ihparts part' hpart'
    have hcall := Derives.call ih hparts (hsep.moved k) (pos + k) (pos' + k)
    rw [List.map_map] at hcall
    rw [List.map_append, List.map_cons, List.map_append]
    exact hcall
  | number n pos => exact .number n (pos + k)
  | text s pos => exact .text s (pos + k)
  | truth b pos => exact .truth b (pos + k)
  | null pos => exact .null (pos + k)
  | name n pos => exact .name n (pos + k)
  | parenthesized _ pos pos' ih =>
    rw [List.map_cons, List.map_append]
    exact .parenthesized ih (pos + k) (pos' + k)

/-! ## Conditions in a row -/

/-- A condition written behind others. -/
def conjoin (text condition : String) : String := text ++ " && (" ++ condition ++ ")"

/-- Conditions written as one. -/
def conjoined : List String → String
  | [] => ""
  | condition :: rest => rest.foldl conjoin ("(" ++ condition ++ ")")

/-- The conjunction of trees, grouped to the left. -/
def conjunctionOf (t : Expr) (ts : List Expr) : Expr := ts.foldl (.logical .and) t

/-- The text is cut into tokens that form an expression with the tree. -/
def Writes (s : String) (t : Expr) : Prop :=
  ∃ ts, Spells s.toList ts ∧ Derives .disjunction ts t

theorem writes_of_parse {s : String} {t : Expr} (h : parse s = .ok t) : Writes s t := by
  unfold parse at h
  cases htokens : tokenize s with
  | error e => rw [htokens] at h; cases h
  | ok us =>
    rw [htokens] at h
    obtain ⟨ts, rfl, hends, hspells⟩ := Spells.of_ok htokens
    refine ⟨ts, hspells, ?_⟩
    rcases ofTokensWithin_alike hends s.toList.length [] [] parseDepth with
      ⟨e, he, -⟩ | ⟨t', hok, -, hderives⟩
    · change ofTokensWithin parseDepth _ = _ at h
      rw [he] at h
      cases h
    · change ofTokensWithin parseDepth _ = _ at h
      rw [hok] at h
      cases h
      exact hderives

/-- A text that parses is not blank. -/
theorem isBlankText_of_parse {s : String} {t : Expr} (h : parse s = .ok t) :
    Text.isBlankText s = false := by
  obtain ⟨ts, hspells, hderives⟩ := writes_of_parse h
  rw [← Bool.not_eq_true]
  intro hblank
  have hnone : tokensFrom 0 0 s.toList = .ok [⟨.finish, 0 + s.toList.length⟩] :=
    tokensFrom_blank hblank 0
  rw [hspells, Nat.zero_add] at hnone
  have hempty : ts = [] := by simpa using hnone
  obtain ⟨l, pos, rest, rfl, -⟩ := hderives.starts
  cases hempty

theorem parse_of_writes {s : String} {t : Expr} (h : Writes s t) :
    UnlessTooDeep (parse s) (.ok t) := by
  obtain ⟨ts, hspells, hderives⟩ := h
  have htokens : tokenize s = .ok (ts ++ [⟨.finish, s.toList.length⟩]) := hspells
  rw [parse, htokens]
  exact hderives.ofTokensWithin _ [] parseDepth

/-- A condition in parentheses is a primary expression. -/
theorem Writes.parenthesized {s : String} {t : Expr} (h : Writes s t) :
    ∃ ts, Spells ("(" ++ s ++ ")").toList ts ∧ Derives .primary ts t := by
  obtain ⟨ts, hspells, hderives⟩ := h
  refine ⟨_, ?_, .parenthesized (hderives.moved 1) 0 (s.toList.length + 1)⟩
  simpa using hspells.parenthesized

theorem Derives.negation_of_primary {ts : List Token} {t : Expr} (h : Derives .primary ts t) :
    Derives .negation ts t :=
  .tighter (.tighter (.tighter (.tighter (.tighter (.tighter (.tighter h))))))

theorem spells_conjoin {text s : String} {ls : List Token} {l t : Expr}
    (htext : Spells text.toList ls) (hl : Derives .conjunction ls l) (hs : Writes s t) :
    ∃ ts, Spells (conjoin text s).toList ts ∧ Derives .conjunction ts (.logical .and l t) := by
  obtain ⟨rs, hspells, hr⟩ := hs.parenthesized
  have hand : Spells " && ".toList [⟨.symbol .and, 1⟩] := by rfl
  have hfurther := hand.append hspells (by simp; decide +kernel)
  have hall := htext.append hfurther (by simp; decide +kernel)
  have hderives := Derives.operator .and (1 + text.toList.length) hl
    ((hr.moved " && ".toList.length).moved text.toList.length).negation_of_primary
  refine ⟨_, ?_, hderives⟩
  simpa [conjoin] using hall

/-- What is conjoined spells the conjunction of what its parts spell. -/
theorem spells_foldl {conditions : List String} {trees : List Expr}
    (hconditions : List.Forall₂ Writes conditions trees) {text : String} {ls : List Token}
    {l : Expr} (htext : Spells text.toList ls) (hl : Derives .conjunction ls l) :
    ∃ ts, Spells (conditions.foldl conjoin text).toList ts ∧
      Derives .conjunction ts (conjunctionOf l trees) := by
  induction hconditions generalizing text ls l with
  | nil => exact ⟨ls, htext, hl⟩
  | cons hfirst _ ih =>
    obtain ⟨ts, hts, hderives⟩ := spells_conjoin htext hl hfirst
    exact ih hts hderives

theorem writes_conjoined {condition : String} {conditions : List String} {t : Expr}
    {trees : List Expr} (h : Writes condition t)
    (hconditions : List.Forall₂ Writes conditions trees) :
    Writes (conjoined (condition :: conditions)) (conjunctionOf t trees) := by
  obtain ⟨ts, hts, hderives⟩ := h.parenthesized
  obtain ⟨us, hus, hall⟩ := spells_foldl hconditions hts (.tighter hderives.negation_of_primary)
  exact ⟨us, hus, .tighter hall⟩

/-- The text of a conjunction parses to the conjunction of the trees of its conditions, unless it is
nested too deeply. -/
theorem parse_conjoined {condition : String} {conditions : List String} {t : Expr}
    {trees : List Expr} (h : parse condition = .ok t)
    (hconditions : List.Forall₂ (fun s e => parse s = .ok e) conditions trees) :
    UnlessTooDeep (parse (conjoined (condition :: conditions))) (.ok (conjunctionOf t trees)) :=
  parse_of_writes (writes_conjoined (writes_of_parse h)
    (hconditions.imp fun _ _ => writes_of_parse))

/-- The text is an expression. -/
def Parses (s : String) : Prop := ∃ t, parse s = .ok t

instance (s : String) : Decidable (Parses s) :=
  match h : parse s with
  | .ok t => .isTrue ⟨t, h⟩
  | .error e => .isFalse fun ⟨t, ht⟩ => by
    rw [h] at ht
    cases ht

/-- The text's expression is not nested too deeply for the parser or the evaluation. -/
def NestsWithinLimits (s : String) : Prop :=
  parse s ≠ .error .nestedTooDeeply ∧ ∀ t, parse s = .ok t → t.depth ≤ evalDepth

instance (s : String) : Decidable (NestsWithinLimits s) :=
  match h : parse s with
  | .ok t => decidable_of_iff (t.depth ≤ evalDepth) (by simp [NestsWithinLimits, h])
  | .error e => decidable_of_iff (e ≠ .nestedTooDeeply) (by simp [NestsWithinLimits, h])

/-! ## Truth -/

variable {scope : Scope} {d : Nat} {t : Expr}

/-- The truth of a tree in a scope. -/
def truthAt (scope : Scope) (d : Nat) (t : Expr) : Except Interrupt Bool := do
  truthOf (← eval scope d t)

/-- Whether all trees are true. None after the first that is not is evaluated. -/
def allTrue (scope : Scope) (d : Nat) : List Expr → Except Interrupt Bool
  | [] => .ok true
  | t :: ts => do if ← truthAt scope d t then allTrue scope d ts else return false

theorem allTrue_singleton (t : Expr) : allTrue scope d [t] = truthAt scope d t := by
  rw [allTrue]
  cases truthAt scope d t with
  | error i => rfl
  | ok b => cases b <;> rfl

theorem allTrue_append (ts us : List Expr) :
    allTrue scope d (ts ++ us) = do
      if ← allTrue scope d ts then allTrue scope d us else return false := by
  induction ts with
  | nil => rfl
  | cons t ts ih =>
    rw [List.cons_append, allTrue, allTrue, ih]
    cases truthAt scope d t with
    | error i => rfl
    | ok b => cases b <;> rfl

theorem truthAt_budget {d' : Nat} (h : t.depth ≤ d) (h' : t.depth ≤ d') :
    truthAt scope d t = truthAt scope d' t := by
  rw [truthAt, truthAt, eval_budget h h']

/-- A conjunction has the value of one of its sides, and its truth. -/
theorem truthAt_and {x y : Expr} (h : (Expr.logical .and x y).depth ≤ d) :
    truthAt scope d (.logical .and x y) = allTrue scope d [x, y] := by
  rw [depth] at h
  cases d with
  | zero => exact absurd h (Nat.not_succ_le_zero _)
  | succ d =>
    have hsides := Nat.max_le.1 (Nat.le_of_succ_le_succ h)
    rw [allTrue, allTrue_singleton, truthAt_budget (Nat.le_succ_of_le hsides.1) hsides.1,
      truthAt_budget (Nat.le_succ_of_le hsides.2) hsides.2, truthAt, truthAt, truthAt, eval]
    cases hx : eval scope d x with
    | error i => rfl
    | ok u =>
      cases hu : truthOf u with
      | error i => simp [hu, bind, Except.bind]
      | ok b => cases b <;> simp [hu, bind, Except.bind, pure, Except.pure]

theorem depth_le_conjunctionOf (t : Expr) (ts : List Expr) :
    t.depth ≤ (conjunctionOf t ts).depth := by
  induction ts generalizing t with
  | nil => exact Nat.le_refl _
  | cons u ts ih =>
    have hleft : t.depth ≤ (Expr.logical .and t u).depth := by
      rw [depth]
      omega
    exact Nat.le_trans hleft (ih (.logical .and t u))

/-- A conjunction of several trees is true if all of them are, evaluated in turn. -/
theorem truthAt_conjunctionOf {ts : List Expr} (h : (conjunctionOf t ts).depth ≤ d) :
    truthAt scope d (conjunctionOf t ts) = allTrue scope d (t :: ts) := by
  induction ts generalizing t with
  | nil => exact (allTrue_singleton t).symm
  | cons u ts ih =>
    have hand := Nat.le_trans (depth_le_conjunctionOf (.logical .and t u) ts) h
    calc truthAt scope d (conjunctionOf (.logical .and t u) ts)
        = allTrue scope d ([.logical .and t u] ++ ts) := ih h
      _ = allTrue scope d ([t, u] ++ ts) := by
        rw [allTrue_append, allTrue_append, allTrue_singleton, truthAt_and hand]

end CardRules.Expr
