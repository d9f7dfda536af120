import CardRules.Expr.Eval

/-!
# The depth of trees

An evaluation takes one step of its budget for each tree that stands within another. A budget of the
tree's depth is enough, and a larger one changes nothing (`eval_budget`).
-/

namespace CardRules

mutual

/-- How many trees stand one within another. -/
def Expr.depth : Expr → Nat
  | .literal _ | .name _ => 1
  | .member x _ | .unary _ x => x.depth + 1
  | .call _ args => Expr.depthAmong args + 1
  | .index x y | .binary _ x y | .logical _ x y => max x.depth y.depth + 1

/-- The depth of the deepest of several trees. -/
def Expr.depthAmong : List Expr → Nat
  | [] => 0
  | x :: xs => max x.depth (Expr.depthAmong xs)

end

namespace Expr

theorem depth_pos (t : Expr) : 0 < t.depth := by
  cases t <;> simp [depth]

theorem depth_le_depthAmong {t : Expr} {ts : List Expr} (h : t ∈ ts) :
    t.depth ≤ depthAmong ts := by
  induction ts with
  | nil => exact absurd h List.not_mem_nil
  | cons u ts ih =>
    rw [depthAmong]
    rcases List.mem_cons.1 h with rfl | h
    · exact Nat.le_max_left _ _
    · exact Nat.le_trans (ih h) (Nat.le_max_right _ _)

theorem mapM_congr {α β ε : Type} {f g : α → Except ε β} {xs : List α} (h : ∀ x ∈ xs, f x = g x) :
    xs.mapM f = xs.mapM g := by
  induction xs with
  | nil => rfl
  | cons x xs ih =>
    rw [List.mapM_cons, List.mapM_cons, h x List.mem_cons_self,
      ih fun y hy => h y (List.mem_cons_of_mem _ hy)]

/-- Budgets that a tree is within give it the same value. -/
theorem eval_budget {scope : Scope} {t : Expr} {d d' : Nat} (h : t.depth ≤ d) (h' : t.depth ≤ d') :
    eval scope d t = eval scope d' t := by
  induction d generalizing t d' with
  | zero => exact absurd t.depth_pos (Nat.not_lt.2 h)
  | succ d ih =>
    cases d' with
    | zero => exact absurd t.depth_pos (Nat.not_lt.2 h')
    | succ d' =>
      cases t with
      | literal | name => rfl
      | member x n | unary op x =>
        rw [depth, Nat.add_le_add_iff_right] at h h'
        rw [eval, eval, ih h h']
      | call n args =>
        rw [depth, Nat.add_le_add_iff_right] at h h'
        have hargs : args.mapM (eval scope d) = args.mapM (eval scope d') :=
          mapM_congr fun x hx => ih (Nat.le_trans (depth_le_depthAmong hx) h)
            (Nat.le_trans (depth_le_depthAmong hx) h')
        rw [eval, eval, hargs]
      | index x y | binary op x y | logical op x y =>
        rw [depth, Nat.add_le_add_iff_right, Nat.max_le] at h h'
        rw [eval, eval, ih h.1 h'.1, ih h.2 h'.2]

end Expr

end CardRules
