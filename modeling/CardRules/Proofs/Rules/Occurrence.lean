import CardRules.Proofs.Expr.Names
import CardRules.Rules.Document
import CardRules.Rules.Effect

/-!
# Effects within effects

A branching effect holds further effects. `Occurs` is what stands in a list of effects at any depth,
and `Document.Omits` says that nowhere in a document a condition names a variable: neither a gate's
nor one of a branch.
-/

namespace CardRules

namespace RawEffect

/-- The two lists that a branching effect chooses from. Other effects have none. -/
def branches (raw : RawEffect) : List (List RawEffect) :=
  match (CheckedEffect.ofRaw? raw).map CheckedEffect.effect with
  | .ok (.branch _ yes no) => [yes, no]
  | .ok _ | .error _ => []

/-- The condition of a branching effect. -/
def condition? (raw : RawEffect) : Option String :=
  match (CheckedEffect.ofRaw? raw).map CheckedEffect.effect with
  | .ok (.branch condition _ _) => condition
  | .ok _ | .error _ => none

end RawEffect

/-- An effect stands among effects, at any depth of their branches. -/
inductive Occurs : List RawEffect → RawEffect → Prop
  | here {raws : List RawEffect} {raw : RawEffect} (h : raw ∈ raws) : Occurs raws raw
  | within {raws branch : List RawEffect} {outer raw : RawEffect} (houter : outer ∈ raws)
      (hbranch : branch ∈ RawEffect.branches outer) (h : Occurs branch raw) : Occurs raws raw

/-- What stands among effects is in every list that has them and the branches of its members. -/
theorem Occurs.mem_of_closed {raws all : List RawEffect} {raw : RawEffect} (h : Occurs raws raw)
    (hsub : ∀ x ∈ raws, x ∈ all)
    (hall : ∀ outer ∈ all, ∀ branch ∈ RawEffect.branches outer, ∀ x ∈ branch, x ∈ all) :
    raw ∈ all := by
  induction h with
  | here h => exact hsub _ h
  | within houter hbranch _ ih => exact ih (hall _ (hsub _ houter) _ hbranch)

/-! ## Variables that no condition names -/

/-- No condition of a branch, at any depth, names the variable. -/
def BranchesOmit (n : String) (raws : List RawEffect) : Prop :=
  ∀ raw, Occurs raws raw → ∀ s, RawEffect.condition? raw = some s → Expr.Omits n s

theorem BranchesOmit.within {n : String} {raws branch : List RawEffect} {raw : RawEffect}
    (h : BranchesOmit n raws) (hraw : raw ∈ raws) (hbranch : branch ∈ RawEffect.branches raw) :
    BranchesOmit n branch := fun _ hinner => h _ (.within hraw hbranch hinner)

/-- It is enough to look at a list that has the effects and the branches of its members. -/
theorem BranchesOmit.of_closed {n : String} {raws : List RawEffect} (all : List RawEffect)
    (hsub : ∀ x ∈ raws, x ∈ all)
    (hall : ∀ outer ∈ all, ∀ branch ∈ RawEffect.branches outer, ∀ x ∈ branch, x ∈ all)
    (homits : ∀ raw ∈ all, ∀ s ∈ RawEffect.condition? raw, Expr.Omits n s) : BranchesOmit n raws :=
  fun raw hraw => homits raw (hraw.mem_of_closed hsub hall)

/-- No condition of the rule names the variable, be it one of the gate or of a branch. -/
structure Rule.Omits (n : String) (r : Rule) : Prop where
  gate : ∀ s ∈ r.conditions, Expr.Omits n s
  branches : BranchesOmit n r.effects

/-- No condition of any rule names the variable. -/
structure Document.Omits (n : String) (d : Document) : Prop where
  actions : ∀ e ∈ d.actions, e.2.Omits n
  abilities : ∀ e ∈ d.abilities, e.2.Omits n

end CardRules
