import CardRules.Condition
import CardRules.Proofs.Expr.Depth

/-!
# The names in a tree

A tree reads its scope through the names that stand in it and the functions it calls, and through
nothing else (`eval_congr`). So a variable that an expression does not name can stand for anything
(`evaluate_set`).
-/

namespace CardRules

mutual

/-- The names of variables in a tree. The name of a called function is none. -/
def Expr.names : Expr → List String
  | .literal _ => []
  | .name n => [n]
  | .member x _ | .unary _ x => x.names
  | .call _ args => Expr.namesAmong args
  | .index x y | .binary _ x y | .logical _ x y => x.names ++ y.names

/-- The names of variables in several trees. -/
def Expr.namesAmong : List Expr → List String
  | [] => []
  | x :: xs => x.names ++ Expr.namesAmong xs

end

namespace Expr

theorem mem_namesAmong {t : Expr} {ts : List Expr} (h : t ∈ ts) {n : String} (hn : n ∈ t.names) :
    n ∈ namesAmong ts := by
  induction ts with
  | nil => exact absurd h List.not_mem_nil
  | cons u ts ih =>
    rw [namesAmong]
    rcases List.mem_cons.1 h with rfl | h
    · exact List.mem_append_left _ hn
    · exact List.mem_append_right _ (ih h)

/-- Two scopes with the same functions and the same values under some names. -/
structure Scope.AgreeOn (ns : List String) (s s' : Scope) : Prop where
  functions : s.functions = s'.functions
  names : ∀ n ∈ ns, s.names.get? n = s'.names.get? n

theorem Scope.AgreeOn.mono {ns ms : List String} {s s' : Scope} (h : Scope.AgreeOn ns s s')
    (hsub : ∀ n ∈ ms, n ∈ ns) : Scope.AgreeOn ms s s' :=
  ⟨h.functions, fun n hn => h.names n (hsub n hn)⟩

/-- Scopes that agree on the names in a tree give it the same value, or fail it for the same
reason. -/
theorem eval_congr {s s' : Scope} {t : Expr} (h : s.AgreeOn t.names s') (d : Nat) :
    eval s d t = eval s' d t := by
  induction d generalizing t with
  | zero => rfl
  | succ d ih =>
    cases t with
    | literal => rfl
    | name n =>
      rw [eval, eval, lookUp, lookUp, h.names n (List.mem_singleton_self n), h.functions]
    | member x n | unary op x => rw [eval, eval, ih (t := x) h]
    | call n args =>
      have hargs : args.mapM (eval s d) = args.mapM (eval s' d) :=
        mapM_congr fun x hx => ih (h.mono fun n hn => mem_namesAmong hx hn)
      rw [eval, eval, h.functions, hargs]
    | index x y | binary op x y | logical op x y =>
      rw [eval, eval, ih (h.mono fun n hn => List.mem_append_left _ hn),
        ih (h.mono fun n hn => List.mem_append_right _ hn)]

/-! ## Texts -/

/-- The text is no expression, or one in which the name does not stand. -/
def Omits (n text : String) : Prop := ∀ t, parse text = .ok t → n ∉ t.names

instance (n text : String) : Decidable (Omits n text) :=
  match h : parse text with
  | .ok t => decidable_of_iff (n ∉ t.names) (by simp [Omits, h])
  | .error _ => .isTrue fun t ht => by simp [h] at ht

/-- The scope with a variable standing for something else. -/
def Scope.set (s : Scope) (n : String) (x : Operand) : Scope := { s with names := s.names.put n x }

theorem Scope.agreeOn_set {ns : List String} {n : String} (h : n ∉ ns) (s : Scope) (x : Operand) :
    Scope.AgreeOn ns (s.set n x) s :=
  ⟨rfl, fun _ hm => Table.get?_put_ne x s.names fun heq => h (heq ▸ hm)⟩

end Expr

open CardRules.Expr (Operand Scope)

/-- A variable that an expression does not name has no part in its value. -/
theorem evaluate_set {n text : String} (h : Expr.Omits n text) (scope : Scope) (x : Operand) :
    evaluate text (scope.set n x) = evaluate text scope := by
  unfold evaluate
  cases ht : Expr.parse text with
  | error e => rfl
  | ok t => simp only [Expr.eval_congr (Scope.agreeOn_set (h t ht) scope x)]

theorem truthIn_set {n text : String} (h : Expr.Omits n text) (scope : Scope) (x : Operand) :
    truthIn text (scope.set n x) = truthIn text scope := by
  rw [truthIn, truthIn, evaluate_set h]

end CardRules
