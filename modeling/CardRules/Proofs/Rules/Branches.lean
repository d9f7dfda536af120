import CardRules.Play.Execute
import CardRules.Proofs.Rules.Normal
import CardRules.Proofs.Rules.Occurrence

/-!
# Branches as they are written

Effects hold the lists of their branches as plain values, and nothing reads them before they run.
`Written` is what stands under the keys of branches at any depth, whatever the effect around it is.
A branch that an effect is read with is one of these lists as it is written (`branches_written`), so
that it is less deep than the effect (`branchDepth_lt`) and holds nothing that the effect does not.
-/

namespace CardRules

open Schema

/-- An effect stands among effects, at any depth of the lists under the keys of branches. -/
inductive Written : List RawEffect → RawEffect → Prop
  | here {raws : List RawEffect} {raw : RawEffect} (h : raw ∈ raws) : Written raws raw
  | within {raws : List RawEffect} {outer raw : RawEffect} {key : String} {items : List Value}
      (houter : outer ∈ raws) (hkey : key ∈ branchKeys) (hitems : (key, .list items) ∈ outer)
      (h : Written (items.map asEntries) raw) : Written raws raw

/-! ## Reading branches -/

namespace Schema

theorem itemsFrom_anyObject {items items' : List Value} {i : Nat}
    (h : itemsFrom anyObject i items = items'.map .ok) : items' = items := by
  induction items generalizing i items' with
  | nil => simpa [itemsFrom] using h.symm
  | cons v vs ih =>
    cases items' with
    | nil => cases h
    | cons v' vs' =>
      obtain ⟨hv, hvs⟩ := List.cons.inj h
      rw [ih hvs]
      cases v with
      | object es =>
        cases hv
        rfl
      | _ => cases hv

/-- A list of objects is its own normal form. -/
theorem listOf_anyObject {v w : Value} (h : listOf anyObject v = .ok w) :
    ∃ items, v = .list items ∧ w = .list items := by
  cases v with
  | list items =>
    obtain ⟨items', hitems, rfl⟩ := map_eq_ok h
    rw [itemsFrom_anyObject (collect_eq_ok hitems)]
    exact ⟨items, rfl, rfl⟩
  | _ => cases h

end Schema

/-- The wording of an operation is one of the vocabulary. -/
theorem wordingOf?_mem {op : Value} {w : Wording} (h : wordingOf? op = some w) :
    w ∈ vocabulary := by
  cases op with
  | text s =>
    rw [wordingOf?] at h
    exact List.mem_of_find?_eq_some h
  | _ => cases h

/-- The field of a branch. -/
def branchField (camel name : String) : Field :=
  withDefault camel name (listOf anyObject) (.list [])

/-- An effect that is read is read by the wording of its operation. -/
theorem CheckedEffect.ofRaw?_reads {raw : RawEffect} {e : CheckedEffect}
    (h : CheckedEffect.ofRaw? raw = .ok e) :
    ∃ w ∈ vocabulary, w.op = e.op ∧ w.read e.normal = e.effect ∧
      w.check (.object (Table.put "op" (.text w.op) (Table.erase raw "type"))) = .ok e.normal := by
  unfold CheckedEffect.ofRaw? at h
  split at h
  · cases h
  · rename_i w hw
    split at h
    · rename_i v hv
      cases h
      exact ⟨w, wordingOf?_mem hw, rfl, rfl, hv⟩
    · cases h

/-- The operation whose effects trigger the abilities of cards. -/
def triggerOp : String := "runAbilityForCard"

/-- A wording reads operations only, or it is that of the trigger, or it is that of `if`, with its
fields. -/
theorem Wording.read_cases {w : Wording} (hw : w ∈ vocabulary) (v : Value) :
    (∃ o, w.read v = .operation o) ∨ (w.op = triggerOp ∧ ∃ param, w.read v = .cardAbility param) ∨
      (branchField "then" "then" ∈ w.fields ∧ branchField "else" "else_" ∈ w.fields ∧
        ("op" :: w.fields.map Field.camel).Nodup ∧
        ∃ condition, w.read v = .branch condition ((asItems (fieldOf v "then")).map asEntries)
          ((asItems (fieldOf v "else")).map asEntries)) := by
  simp only [vocabulary, List.mem_cons, List.not_mem_nil, or_false] at hw
  rcases hw with rfl | rfl | rfl | rfl | rfl | rfl | rfl | rfl | rfl | rfl | rfl | rfl | rfl | rfl
  iterate 9 exact .inl ⟨_, rfl⟩
  · exact .inr (.inr ⟨by simp [branchField], by simp [branchField], by decide, _, rfl⟩)
  · exact .inr (.inl ⟨rfl, _, rfl⟩)
  iterate 3 exact .inl ⟨_, rfl⟩

/-- Only the wording of `if` reads a branching effect. -/
theorem Wording.read_branch {w : Wording} (hw : w ∈ vocabulary) {v : Value}
    {condition : Option String} {yes no : List RawEffect}
    (h : w.read v = .branch condition yes no) :
    branchField "then" "then" ∈ w.fields ∧ branchField "else" "else_" ∈ w.fields ∧
      (("op" :: w.fields.map Field.camel).Nodup) ∧
      yes = (asItems (fieldOf v "then")).map asEntries ∧
      no = (asItems (fieldOf v "else")).map asEntries := by
  rcases read_cases hw v with ⟨o, ho⟩ | ⟨-, param, hp⟩ | ⟨hthen, helse, hnodup, condition', hb⟩
  · cases ho.symm.trans h
  · cases hp.symm.trans h
  · cases hb.symm.trans h
    exact ⟨hthen, helse, hnodup, rfl, rfl⟩

/-- Only the wording of the trigger reads an effect that triggers an ability. -/
theorem Wording.op_of_read_cardAbility {w : Wording} (hw : w ∈ vocabulary) {v : Value}
    {indexParam : Option String} (h : w.read v = .cardAbility indexParam) : w.op = triggerOp := by
  rcases read_cases hw v with ⟨o, ho⟩ | ⟨hop, -⟩ | ⟨-, -, -, condition, hb⟩
  · cases ho.symm.trans h
  · exact hop
  · cases hb.symm.trans h

theorem Table.mem_put {α : Type} {t : Table α} {key : String} {v : α} {e : String × α}
    (h : e ∈ t.put key v) : e = (key, v) ∨ e ∈ t := by
  induction t with
  | nil => exact .inl (List.mem_singleton.1 h)
  | cons e' t ih =>
    rw [Table.put] at h
    split at h
    · exact (List.mem_cons.1 h).imp_right (List.mem_cons_of_mem _)
    · rcases List.mem_cons.1 h with rfl | h
      · exact .inr List.mem_cons_self
      · exact (ih h).imp_right (List.mem_cons_of_mem _)

/-- The list read for a branch stands in the effect under a spelling of the field, or is empty. -/
theorem branchField_written {w : Wording} (hnames : ("op" :: w.fields.map Field.camel).Nodup)
    {camel name : String} (hfield : branchField camel name ∈ w.fields) {raw : RawEffect} {v : Value}
    (h : w.check (.object (Table.put "op" (.text w.op) (Table.erase raw "type"))) = .ok v) :
    asItems (fieldOf v camel) = [] ∨
      ∃ key ∈ [camel, name], (key, .list (asItems (fieldOf v camel))) ∈ raw := by
  have hnames : ((withDefault "op" "op" text (.text w.op) :: w.fields).map Field.camel).Nodup :=
    hnames
  obtain ⟨x, hx, hread⟩ := read_of_model hnames h (List.mem_cons_of_mem _ hfield)
  have hvalue : fieldOf v camel = x := by
    rw [fieldOf, show (asEntries v).get? camel = some x from hx, Option.getD_some]
  rw [hvalue]
  rcases Field.read_given hread with ⟨key, given, hkey, hmem, hcheck⟩ | hdefault
  · obtain ⟨items, rfl, hitems⟩ := listOf_anyObject hcheck
    cases hitems
    rcases Table.mem_put hmem with heq | hmem
    · cases heq
    · exact .inr ⟨key, hkey, List.mem_of_mem_filter hmem⟩
  · cases hdefault
    exact .inl rfl

/-- A branch that an effect is read with is a list that stands in it under the key of a branch, or
is empty. -/
theorem RawEffect.branches_written {raw : RawEffect} {inner : List RawEffect}
    (h : inner ∈ RawEffect.branches raw) :
    inner = [] ∨ ∃ key ∈ branchKeys, ∃ items, (key, .list items) ∈ raw ∧
      inner = items.map asEntries := by
  unfold branches at h
  cases he : CheckedEffect.ofRaw? raw with
  | error e =>
    rw [he] at h
    cases h
  | ok e =>
    rw [he] at h
    obtain ⟨w, hw, -, hread, hcheck⟩ := CheckedEffect.ofRaw?_reads he
    simp only [Except.map] at h
    cases heffect : e.effect with
    | operation | cardAbility =>
      rw [heffect] at h
      cases h
    | branch condition yes no =>
      rw [heffect] at h
      obtain ⟨hthen, helse, hnames, rfl, rfl⟩ := Wording.read_branch hw (hread.trans heffect)
      have hlist {camel name : String} (hfield : branchField camel name ∈ w.fields)
          (hkeys : ∀ key ∈ [camel, name], key ∈ branchKeys) :
          (asItems (fieldOf e.normal camel)).map asEntries = [] ∨
            ∃ key ∈ branchKeys, ∃ items, (key, .list items) ∈ raw ∧
              (asItems (fieldOf e.normal camel)).map asEntries = items.map asEntries := by
        rcases branchField_written hnames hfield hcheck with hnil | ⟨key, hkey, hmem⟩
        · exact .inl (by rw [hnil]; rfl)
        · exact .inr ⟨key, hkeys key hkey, _, hmem, rfl⟩
      rcases List.mem_pair.1 h with rfl | rfl
      · exact hlist hthen (by decide)
      · exact hlist helse (by decide)

/-- What stands in a branch that an effect is read with stands in the effects around it. -/
theorem Written.of_branch {raws inner : List RawEffect} {outer raw : RawEffect}
    (houter : outer ∈ raws) (hinner : inner ∈ RawEffect.branches outer) (h : Written inner raw) :
    Written raws raw := by
  rcases RawEffect.branches_written hinner with rfl | ⟨key, hkey, items, hitems, rfl⟩
  · cases h with
    | here h => cases h
    | within houter => cases houter
  · exact .within houter hkey hitems h

/-! ## Depth -/

theorem le_foldl_max {xs : List Nat} {n : Nat} (h : n ∈ xs) : n ≤ xs.foldl max 0 := by
  rw [List.foldl_max]
  exact Nat.le_trans (List.le_max?_getD_of_mem h) (Nat.le_max_right _ _)

theorem foldl_max_le {xs : List Nat} {k : Nat} (h : ∀ n ∈ xs, n ≤ k) : xs.foldl max 0 ≤ k := by
  rw [List.foldl_max, Nat.zero_max]
  cases hmax : xs.max? with
  | none => exact Nat.zero_le k
  | some n => exact h n (List.max?_mem hmax)

theorem depthInEffect_eq (v : Value) : depthInEffect v = depthInBranches (asEntries v) := by
  cases v <;> rfl

/-- The branch depth of a list that was read is that of the list as it is written. -/
theorem branchDepth_items (items : List Value) :
    branchDepth (items.map asEntries) = depthInEffects items := by
  have hfrom (m : Nat) : ((items.map asEntries).map depthInBranches).foldl max m =
      max m (depthInEffects items) := by
    induction items generalizing m with
    | nil => exact (Nat.max_zero m).symm
    | cons v items ih =>
      rw [List.map_cons, List.map_cons, List.foldl_cons, ih, depthInEffects, depthInEffect_eq,
        Nat.max_assoc]
  rw [branchDepth, hfrom, Nat.zero_max]

theorem depthInBranch_le {raw : RawEffect} {key : String} {v : Value} (hkey : key ∈ branchKeys)
    (h : (key, v) ∈ raw) : depthInBranch v ≤ depthInBranches raw := by
  induction raw with
  | nil => cases h
  | cons e raw ih =>
    obtain ⟨k, w⟩ := e
    rw [depthInBranches]
    rcases List.mem_cons.1 h with heq | h
    · cases heq
      rw [if_pos (List.contains_iff_mem.2 hkey)]
      exact Nat.le_max_left _ _
    · exact Nat.le_trans (ih h) (Nat.le_max_right _ _)

/-- A branch that an effect is read with is less deep than effects around it, if it is not empty. -/
theorem branchDepth_lt {raws inner : List RawEffect} {outer : RawEffect} (houter : outer ∈ raws)
    (hinner : inner ∈ RawEffect.branches outer) (hne : inner ≠ []) :
    branchDepth inner < branchDepth raws := by
  obtain ⟨key, hkey, items, hitems, rfl⟩ :=
    (RawEffect.branches_written hinner).resolve_left hne
  calc branchDepth (items.map asEntries)
    _ = depthInEffects items := branchDepth_items items
    _ < depthInBranch (.list items) := by rw [depthInBranch]; exact Nat.lt_succ_self _
    _ ≤ depthInBranches outer := depthInBranch_le hkey hitems
    _ ≤ branchDepth raws := le_foldl_max (List.mem_map_of_mem houter)

end CardRules
