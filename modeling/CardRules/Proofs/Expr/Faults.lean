import CardRules.Condition
import CardRules.Proofs.Decimal.Rounding
import CardRules.Proofs.Results

/-!
# Faults of an evaluation

Where the functions of a scope know the values of ranks, an evaluation has two faults only: it comes
upon a whole number too large for binary64, and fails with an overflow, or upon an operand with no
text where it needs one (`eval_fault`). The faults of the functions come first
(`Function.call_fault`), then those of the operators.
-/

namespace CardRules

/-! ## Scores -/

variable {values : Value} {cards : List Value} {f : Fault} {n : Number}

/-- The scoring of some cards comes upon a number, as the value of a card or as the sum of the cards
in front of one. -/
inductive Scores (values : Value) (cards : List Value) : Number → Prop
  | value {card v : Value} {n : Number} : card ∈ cards → cardValue? values card = .ok v →
    v.asNumber? = some n → Scores values cards n
  | sum {front back : List Value} {card : Value} {n : Number} : cards = front ++ card :: back →
    handScore? values (.list front) = .ok n → Scores values cards n

theorem parts?_fault {v : Value} (h : v.parts? = .error f) : f = .wrongKind := by
  cases v <;> cases h <;> rfl

theorem cardValue?_fault {card : Value} (hvalues : values.entries?.isSome)
    (h : cardValue? values card = .error f) : f = .wrongKind := by
  obtain ⟨es, hes⟩ := Option.isSome_iff_exists.1 hvalues
  unfold cardValue? at h
  rw [hes] at h
  cases card <;> cases h <;> rfl

theorem addValue?_fault {sum : Number} {v : Value} (h : addValue? sum v = .error f) :
    f = .wrongKind ∨
      f = .overflow ∧ ∃ n, v.asNumber? = some n ∧ (sum.TooLarge ∨ n.TooLarge) := by
  unfold addValue? at h
  split at h
  · cases h
    exact .inl rfl
  · rename_i n hn
    split at h
    · cases h
    · rename_i hadd
      cases h
      exact .inr ⟨rfl, n, hn, Number.tooLarge_of_lift hadd⟩

/-- A hand without a score holds what is no card, or is none, or its scoring comes upon a number too
large. -/
theorem handScore?_fault {hand : Value} (hvalues : values.entries?.isSome)
    (h : handScore? values hand = .error f) :
    f = .wrongKind ∨
      f = .overflow ∧ ∃ cards n, hand.parts? = .ok cards ∧ Scores values cards n ∧ n.TooLarge := by
  rcases bind_eq_error h with h | ⟨cards, hcards, h⟩
  · exact .inl (parts?_fault h)
  obtain ⟨front, card, back, sum, rfl, hsum, h⟩ := foldlM_eq_error h
  rcases bind_eq_error h with h | ⟨v, hv, h⟩
  · exact .inl (cardValue?_fault hvalues h)
  rcases addValue?_fault h with hf | ⟨hf, n, hn, hlarge⟩
  · exact .inl hf
  refine .inr ⟨hf, front ++ card :: back, ?_⟩
  rcases hlarge with hlarge | hlarge
  · exact ⟨sum, hcards, .sum rfl hsum, hlarge⟩
  · exact ⟨n, hcards, .value (List.mem_append_right _ List.mem_cons_self) hv hn, hlarge⟩

theorem Value.ofScalar_of_scalar? {v : Value} {k : Scalar} (h : v.scalar? = some k) :
    .ofScalar k = v := by
  cases v <;> cases h <;> rfl

namespace Expr

/-! ## Functions -/

/-- The values of ranks that a function scores by are an object. -/
def Function.Sound : Function → Prop
  | .handScore values => values.entries?.isSome

/-- A call comes upon a number as it scores the hand it is given. -/
def Function.Meets : Function → List Operand → Number → Prop
  | .handScore values, [.data hand], n => ∃ cards, hand.parts? = .ok cards ∧ Scores values cards n
  | _, _, _ => False

theorem Function.call_fault {fn : Function} (hfn : fn.Sound) {args : List Operand}
    (h : fn.call args = .error f) :
    f = .wrongKind ∨ f = .overflow ∧ ∃ n, fn.Meets args n ∧ n.TooLarge := by
  obtain ⟨values⟩ := fn
  have hvalues : values.entries?.isSome := hfn
  unfold Function.call at h
  split at h
  · rename_i hand heq
    cases heq
    split at h
    · -- an empty hand has a score
      cases h
    · rcases handScore?_fault hvalues (map_eq_error h) with hf | ⟨hf, cards, n, hcards, hn, hlarge⟩
      · exact .inl hf
      · exact .inr ⟨hf, n, ⟨cards, hcards, hn⟩, hlarge⟩
  · rename_i heq
    cases heq
    split at h <;> cases h
    exact .inl rfl
  · cases h
    exact .inl rfl

/-! ## Operators -/

variable {x y : Operand}

/-- An operand is to blame for a fault: it is a number too large for binary64, or it has no text. -/
inductive Operand.Blamed : Operand → Fault → Prop
  | tooLarge {n : Number} : n.TooLarge → Blamed (.data (.number n)) .overflow
  | textless {x : Operand} : x.hasText = false → Blamed x .unreadable

theorem Operand.eq_of_number? {n : Number} (h : x.number? = some n) : x = .data (.number n) := by
  unfold Operand.number? at h
  split at h <;> cases h
  rfl

theorem Operand.truth?_fault (h : x.truth? = .error f) : x.Blamed f := by
  cases x with
  | data v =>
    cases v with
    | number n =>
      simp only [Operand.truth?, Value.truth?] at h
      split at h
      · cases h
      · rename_i hlarge
        cases h
        exact .tooLarge hlarge
    | _ => cases h
  | _ => cases h

theorem fault_of_mapError {α : Type} {a? : Except Fault α}
    (h : a?.mapError Interrupt.fault = .error (.fault f)) : a? = .error f := by
  cases a? <;> cases h
  rfl

theorem truthOf_fault (h : truthOf x = .error (.fault f)) : x.Blamed f :=
  Operand.truth?_fault (fault_of_mapError h)

theorem writtenOf_fault (h : writtenOf x = .error (.fault f)) : x.Blamed f := by
  have hwritten : x.written? = .error f := fault_of_mapError h
  unfold Operand.written? at hwritten
  split at hwritten
  · cases hwritten
  · rename_i htext
    cases hwritten
    exact .textless (Bool.eq_false_iff.2 htext)

theorem Operand.entry_fault {es : Entries Value} (h : Operand.entry es y = .error f) :
    y.Blamed f := by
  unfold Operand.entry at h
  split at h
  · rename_i k hk
    split at h
    · cases h
    rcases bind_eq_error h with h | ⟨_, -, h⟩
    · unfold Value.shown? at h
      split at h
      · cases h
      rename_i htext
      cases h
      cases y with
      | data v =>
        rw [Value.ofScalar_of_scalar? hk] at htext
        exact .textless (Bool.eq_false_iff.2 htext)
      | _ => cases hk
    · cases h
  · cases h

/-- Of all places only the key of an entry needs a text. -/
theorem Operand.index_fault (h : x.index y = .error f) : y.Blamed f := by
  unfold Operand.index at h
  split at h
  · cases h
  · cases h
  · cases h
  · split at h
    · exact Operand.entry_fault h
    · cases h
  · split at h <;> cases h

theorem applyUnary_fault {op : UnaryOp} (h : applyUnary op x = .error (.fault f)) :
    x.Blamed f := by
  cases op with
  | bang | not =>
    rcases bind_eq_error h with h | ⟨_, -, h⟩
    · exact truthOf_fault h
    · cases h
  | minus | plus =>
    simp only [applyUnary] at h
    split at h
    · cases h
    rcases bind_eq_error h with h | ⟨_, -, h⟩
    · exact writtenOf_fault h
    · cases h

theorem arithmetic_fault {n? : Option Number} (h : arithmetic n? = .error (.fault f)) :
    f = .overflow ∧ n? = none := by
  cases n? with
  | some n => cases h
  | none =>
    cases h
    exact ⟨rfl, rfl⟩

theorem applyNumbers_fault {op : BinaryOp} {m n : Number}
    (h : applyNumbers op m n = .error (.fault f)) :
    f = .overflow ∧ (m.TooLarge ∨ n.TooLarge) := by
  cases op with
  | eq | ne | compare => cases h
  | add | sub | mul =>
    obtain ⟨hf, hnone⟩ := arithmetic_fault h
    exact ⟨hf, Number.tooLarge_of_lift hnone⟩
  | div =>
    simp only [applyNumbers] at h
    split at h
    · cases h
    · rename_i hzero
      obtain ⟨hf, hnone⟩ := arithmetic_fault h
      exact ⟨hf, Number.tooLarge_of_div (Bool.eq_false_iff.2 hzero) hnone⟩
  | mod =>
    simp only [applyNumbers] at h
    split at h
    · cases h
    · obtain ⟨hf, hnone⟩ := arithmetic_fault h
      exact ⟨hf, Number.tooLarge_of_lift hnone⟩

/-- Equality and order never fail, arithmetic only on an operand that is too large, and the refusal
of operands that are no numbers only where one has no text. -/
theorem applyBinary_fault {op : BinaryOp} (h : applyBinary op x y = .error (.fault f)) :
    x.Blamed f ∨ y.Blamed f := by
  unfold applyBinary at h
  split at h
  · cases h
  · cases h
  · cases h
  split at h
  · cases h
  split at h
  · rename_i m n hm hn
    obtain ⟨rfl, hlarge⟩ := applyNumbers_fault h
    rw [Operand.eq_of_number? hm, Operand.eq_of_number? hn]
    exact hlarge.imp .tooLarge .tooLarge
  · rcases bind_eq_error h with h | ⟨_, -, h⟩
    · exact .inl (writtenOf_fault h)
    rcases bind_eq_error h with h | ⟨_, -, h⟩
    · exact .inr (writtenOf_fault h)
    · cases h

/-! ## Trees -/

/-- The trees right below a tree whose evaluation does not depend on the truth of another. -/
def parts : Expr → List Expr
  | .literal _ | .name _ => []
  | .member x _ | .unary _ x | .logical _ x _ => [x]
  | .index x y | .binary _ x y => [x, y]
  | .call _ args => args

/-- The evaluation of a tree visits a tree in it. -/
inductive Visits (scope : Scope) : Expr → Expr → Prop
  | self (t : Expr) : Visits scope t t
  | part {t u v : Expr} : u ∈ t.parts → Visits scope u v → Visits scope t v
  | right {op : LogicalOp} {t u v : Expr} {d : Nat} {x : Operand} :
    eval scope d t = .ok x → truthOf x = .ok (op == .and) → Visits scope u v →
    Visits scope (.logical op t u) v

/-- A fault is due to what the evaluation of a tree comes upon: the value of a tree that it visits,
or a number that turns up as a call scores a hand. -/
inductive Due (scope : Scope) (t : Expr) : Fault → Prop
  | value {u : Expr} {d : Nat} {x : Operand} {f : Fault} :
    Visits scope t u → eval scope d u = .ok x → x.Blamed f → Due scope t f
  | inCall {name : String} {args : List Expr} {fn : Function} {d : Nat} {xs : List Operand}
    {n : Number} : Visits scope t (.call name args) → scope.functions.get? name = some fn →
    args.mapM (eval scope d) = .ok xs → fn.Meets xs n → n.TooLarge → Due scope t .overflow

variable {scope : Scope} {t u : Expr} {d : Nat}

theorem Due.of_visits (hvisits : ∀ v, Visits scope u v → Visits scope t v) (h : Due scope u f) :
    Due scope t f := by
  cases h with
  | value hv hx hblamed => exact .value (hvisits _ hv) hx hblamed
  | inCall hv hfn hxs hn hlarge => exact .inCall (hvisits _ hv) hfn hxs hn hlarge

theorem Due.part (h : Due scope u f) (hu : u ∈ t.parts) : Due scope t f :=
  h.of_visits fun _ hv => .part hu hv

/-- No fault but an overflow and a missing text is due to anything. -/
theorem Due.fault_cases (h : Due scope t f) : f = .overflow ∨ f = .unreadable := by
  cases h with
  | value _ _ hblamed => cases hblamed with
    | tooLarge => exact .inl rfl
    | textless => exact .inr rfl
  | inCall => exact .inl rfl

theorem lookUp_ne_fault (scope : Scope) (n : String) : lookUp scope n ≠ .error (.fault f) := by
  unfold lookUp
  split
  · nofun
  · split <;> nofun

/-- The functions of a scope are sound. -/
def Scope.Sound (scope : Scope) : Prop :=
  ∀ name fn, scope.functions.get? name = some fn → fn.Sound

theorem applyFunction_fault {name : String} {fn : Function} (hfn : fn.Sound) {args : List Operand}
    (h : applyFunction name fn args = .error (.fault f)) :
    f = .overflow ∧ ∃ n, fn.Meets args n ∧ n.TooLarge := by
  unfold applyFunction at h
  split at h
  · cases h
  · cases h
  · cases h
  · rename_i f' hkind _ hcall
    cases h
    rcases Function.call_fault hfn hcall with rfl | hmeets
    · exact absurd rfl hkind
    · exact hmeets

/-- In a scope with sound functions every fault of an evaluation is due to what it comes upon. By
induction on the budget, as the evaluation goes. -/
theorem eval_fault (hscope : scope.Sound) (h : eval scope d t = .error (.fault f)) :
    Due scope t f := by
  induction d generalizing t with
  | zero => cases h
  | succ d ih =>
    have hpart {u : Expr} (hu : u ∈ t.parts) (hfault : eval scope d u = .error (.fault f)) :
        Due scope t f := (ih hfault).part hu
    have hvalue {u : Expr} {x : Operand} (hu : u ∈ t.parts) (hx : eval scope d u = .ok x)
        (hblamed : x.Blamed f) : Due scope t f := .value (.part hu (.self u)) hx hblamed
    cases t with
    | literal v => cases h
    | name n => exact absurd h (lookUp_ne_fault scope n)
    | member x n =>
      rcases bind_eq_error h with h | ⟨_, -, h⟩
      · exact hpart (List.mem_singleton_self x) h
      · cases h
    | index x i =>
      have hi : i ∈ (Expr.index x i).parts := List.mem_cons_of_mem x (List.mem_singleton_self i)
      rcases bind_eq_error h with h | ⟨_, -, h⟩
      · exact hpart List.mem_cons_self h
      rcases bind_eq_error h with h | ⟨i', hi', h⟩
      · exact hpart hi h
      · exact hvalue hi hi' (Operand.index_fault (fault_of_mapError h))
    | call name args =>
      rw [eval] at h
      split at h
      · cases h
      rename_i fn hfn
      rcases bind_eq_error h with h | ⟨xs, hxs, h⟩
      · obtain ⟨arg, harg, h⟩ := mapM_eq_error h
        exact hpart harg h
      · obtain ⟨rfl, n, hn, hlarge⟩ := applyFunction_fault (hscope name fn hfn) h
        exact .inCall (.self _) hfn hxs hn hlarge
    | unary op x =>
      have hx : x ∈ (Expr.unary op x).parts := List.mem_singleton_self x
      rcases bind_eq_error h with h | ⟨x', hx', h⟩
      · exact hpart hx h
      · exact hvalue hx hx' (applyUnary_fault h)
    | binary op x y =>
      have hx : x ∈ (Expr.binary op x y).parts := List.mem_cons_self
      have hy : y ∈ (Expr.binary op x y).parts :=
        List.mem_cons_of_mem x (List.mem_singleton_self y)
      rcases bind_eq_error h with h | ⟨x', hx', h⟩
      · exact hpart hx h
      rcases bind_eq_error h with h | ⟨y', hy', h⟩
      · exact hpart hy h
      rcases applyBinary_fault h with hblamed | hblamed
      · exact hvalue hx hx' hblamed
      · exact hvalue hy hy' hblamed
    | logical op x y =>
      have hx : x ∈ (Expr.logical op x y).parts := List.mem_singleton_self x
      rcases bind_eq_error h with h | ⟨x', hx', h⟩
      · exact hpart hx h
      rcases bind_eq_error h with h | ⟨truth, htruth, h⟩
      · exact hvalue hx hx' (truthOf_fault h)
      split at h
      · rename_i hopen
        have hright : truthOf x' = .ok (op == .and) := by rw [htruth, eq_of_beq hopen]
        exact (ih h).of_visits fun _ hv => .right hx' hright hv
      · cases h

end Expr

end CardRules
