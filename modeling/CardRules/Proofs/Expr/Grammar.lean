import CardRules.Expr.Parser

/-!
# The grammar of expressions

`Derives L ts t`: the tokens `ts` form an expression of level `L`, and `t` is its tree. The levels
run from the loosest operators to the tightest; the operators of a binary level group to the left,
since their left operand is of the same level and their right one of the next. Every rule of the
relation is a line of the grammar, and no rule looks beyond the tokens it is about.
-/

namespace CardRules.Expr

/-- The levels of the grammar, loosest first. -/
inductive Level where
  | disjunction | conjunction | negation | equality | relation | sum | product | signed | suffixed
  | primary
  deriving DecidableEq, Repr

namespace Level

/-- The next tighter level. -/
def next : Level → Level
  | .disjunction => .conjunction
  | .conjunction => .negation
  | .negation => .equality
  | .equality => .relation
  | .relation => .sum
  | .sum => .product
  | .product => .signed
  | .signed => .suffixed
  | .suffixed | .primary => .primary

end Level

/-- The operators between two operands of a level, and the tree that they build. -/
inductive Infix : Level → Symbol → (Expr → Expr → Expr) → Prop
  | or : Infix .disjunction .or (.logical .or)
  | and : Infix .conjunction .and (.logical .and)
  | eq : Infix .equality .eq (.binary .eq)
  | ne : Infix .equality .ne (.binary .ne)
  | lt : Infix .relation .lt (.binary (.compare .lt))
  | le : Infix .relation .le (.binary (.compare .le))
  | gt : Infix .relation .gt (.binary (.compare .gt))
  | ge : Infix .relation .ge (.binary (.compare .ge))
  | plus : Infix .sum .plus (.binary .add)
  | minus : Infix .sum .minus (.binary .sub)
  | times : Infix .product .times (.binary .mul)
  | over : Infix .product .over (.binary .div)
  | modulo : Infix .product .modulo (.binary .mod)

/-- The operators in front of a signed operand. -/
inductive Sign : Symbol → UnaryOp → Prop
  | bang : Sign .bang .bang
  | minus : Sign .minus .minus
  | plus : Sign .plus .plus

/-- The tokens are those of the parts, with a comma between each two of them. -/
inductive Separated : List (List Token × Expr) → List Token → Prop
  | none : Separated [] []
  | one (part : List Token × Expr) : Separated [part] part.1
  | more (part : List Token × Expr) {parts : List (List Token × Expr)} {ts : List Token} (pos : Nat)
      (hne : parts ≠ []) (h : Separated parts ts) :
      Separated (part :: parts) (part.1 ++ ⟨.symbol .comma, pos⟩ :: ts)

/-- The tokens form an expression of the level with the tree (module doc). -/
inductive Derives : Level → List Token → Expr → Prop
  /-- An expression of a level without an operator of it. -/
  | tighter {L : Level} {ts : List Token} {t : Expr} (h : Derives L.next ts t) : Derives L ts t
  | operator {L : Level} {s : Symbol} {f : Expr → Expr → Expr} (hs : Infix L s f) (pos : Nat)
      {ls rs : List Token} {l r : Expr} (hl : Derives L ls l) (hr : Derives L.next rs r) :
      Derives L (ls ++ ⟨.symbol s, pos⟩ :: rs) (f l r)
  | not (pos : Nat) {ts : List Token} {t : Expr} (h : Derives .negation ts t) :
      Derives .negation (⟨.symbol .not, pos⟩ :: ts) (.unary .not t)
  | sign {s : Symbol} {op : UnaryOp} (hs : Sign s op) (pos : Nat) {ts : List Token} {t : Expr}
      (h : Derives .signed ts t) : Derives .signed (⟨.symbol s, pos⟩ :: ts) (.unary op t)
  | member {ts : List Token} {t : Expr} (h : Derives .suffixed ts t) (pos pos' : Nat) (f : String) :
      Derives .suffixed (ts ++ [⟨.symbol .dot, pos⟩, ⟨.name f, pos'⟩]) (.member t f)
  | index {ts is : List Token} {t i : Expr} (h : Derives .suffixed ts t)
      (hi : Derives .disjunction is i) (pos pos' : Nat) :
      Derives .suffixed
        (ts ++ ⟨.symbol .openBracket, pos⟩ :: (is ++ [⟨.symbol .closeBracket, pos'⟩])) (.index t i)
  /-- Only a name can be called, also one in parentheses. -/
  | call {ts as : List Token} {f : String} (h : Derives .suffixed ts (.name f))
      {parts : List (List Token × Expr)}
      (hparts : ∀ part ∈ parts, Derives .disjunction part.1 part.2)
      (has : Separated parts as) (pos pos' : Nat) :
      Derives .suffixed
        (ts ++ ⟨.symbol .openParen, pos⟩ :: (as ++ [⟨.symbol .closeParen, pos'⟩]))
        (.call f (parts.map (·.2)))
  | number (n : Number) (pos : Nat) : Derives .primary [⟨.number n, pos⟩] (.literal (.number n))
  | text (s : String) (pos : Nat) : Derives .primary [⟨.text s, pos⟩] (.literal (.text s))
  | truth (b : Bool) (pos : Nat) :
      Derives .primary [⟨.constant (some b), pos⟩] (.literal (.bool b))
  | null (pos : Nat) : Derives .primary [⟨.constant none, pos⟩] (.literal .null)
  | name (n : String) (pos : Nat) : Derives .primary [⟨.name n, pos⟩] (.name n)
  | parenthesized {ts : List Token} {t : Expr} (h : Derives .disjunction ts t) (pos pos' : Nat) :
      Derives .primary (⟨.symbol .openParen, pos⟩ :: (ts ++ [⟨.symbol .closeParen, pos'⟩])) t

/-! ## The symbols of each level -/

/-- How the parser joins the operands of a level. -/
def Level.joiner : Level → Joiner
  | .disjunction => joinOr
  | .conjunction => joinAnd
  | .equality => joinEquality
  | .relation => joinRelation
  | .sum => joinSum
  | .product => joinProduct
  | .negation | .signed | .suffixed | .primary => fun _ => none

theorem joiner_eq_some_iff {L : Level} {s : Symbol} {f : Expr → Expr → Expr} :
    L.joiner s = some f ↔ Infix L s f := by
  constructor
  · intro h
    cases L <;> cases s <;> cases h <;> constructor
  · intro h
    cases h <;> rfl

theorem signOf_eq_some_iff {s : Symbol} {op : UnaryOp} : signOf s = some op ↔ Sign s op := by
  constructor
  · intro h
    cases s <;> cases h <;> constructor
  · intro h
    cases h <;> rfl

/-! ## No end within an expression -/

/-- None of the tokens ends a text. -/
def Endless (ts : List Token) : Prop := ∀ t ∈ ts, t.lexeme ≠ .finish

namespace Endless

variable {t : Token} {ts us : List Token}

theorem tail (h : Endless (t :: ts)) : Endless ts :=
  fun u hu => h u (List.mem_cons_of_mem _ hu)

theorem right (h : Endless (ts ++ us)) : Endless us :=
  fun u hu => h u (List.mem_append_right _ hu)

theorem append (h : Endless ts) (h' : Endless us) : Endless (ts ++ us) := by
  intro u hu
  rcases List.mem_append.1 hu with hu | hu
  · exact h u hu
  · exact h' u hu

theorem cons (ht : t.lexeme ≠ .finish) (h : Endless ts) : Endless (t :: ts) := by
  intro u hu
  rcases List.mem_cons.1 hu with rfl | hu
  · exact ht
  · exact h u hu

theorem single (ht : t.lexeme ≠ .finish) : Endless [t] :=
  .cons ht fun _ hu => absurd hu List.not_mem_nil

end Endless

theorem Separated.endless {parts : List (List Token × Expr)} {ts : List Token}
    (h : Separated parts ts) (hparts : ∀ part ∈ parts, Endless part.1) : Endless ts := by
  induction h with
  | none => exact fun _ hu => absurd hu List.not_mem_nil
  | one part => exact hparts part List.mem_cons_self
  | more part _ _ _ ih =>
    have hrest := ih fun p hp => hparts p (List.mem_cons_of_mem _ hp)
    exact (hparts part List.mem_cons_self).append (.cons (by simp) hrest)

theorem Derives.endless {L : Level} {ts : List Token} {t : Expr} (h : Derives L ts t) :
    Endless ts := by
  induction h with
  | tighter _ ih => exact ih
  | operator _ _ _ _ ihl ihr => exact ihl.append (.cons (by simp) ihr)
  | not _ _ ih | sign _ _ _ ih => exact .cons (by simp) ih
  | member _ _ _ _ ih => exact ih.append (.cons (by simp) (.single (by simp)))
  | index _ _ _ _ ih ihi => exact ih.append (.cons (by simp) (ihi.append (.single (by simp))))
  | call _ _ hsep _ _ ih ihparts =>
    exact ih.append (.cons (by simp) ((hsep.endless ihparts).append (.single (by simp))))
  | parenthesized _ _ _ ih => exact .cons (by simp) (ih.append (.single (by simp)))
  | number _ _ | text _ _ | truth _ _ | null _ | name _ _ => exact .single (by simp)

end CardRules.Expr
