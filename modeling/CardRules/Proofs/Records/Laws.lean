import CardRules.Game.State
import CardRules.Proofs.Tables

/-!
# Records and their snapshots

A record is what its fields and its extras hold (`LawfulRecord`). It is *unshadowed* if no extra
stands under a name that spells a field. Writing values under any names keeps it so
(`Unshadowed.writeAll`), and an unshadowed record is what is read from its snapshot
(`Unshadowed.writeAll_entries`): there the fields come first, each under a name that spells it, and
then the extras.
-/

namespace CardRules

open Record

/-- What holds of every kind of record. -/
class LawfulRecord (ρ : Type) [Record ρ] : Prop where
  ext : ∀ {r s : ρ}, (∀ f, get r f = get s f) → extras r = extras s → r = s
  mem_fields : ∀ f : Record.Field ρ, f ∈ fields
  nodup_fields : (fields : List (Record.Field ρ)).Nodup
  /-- The camel name of a field spells it. -/
  field?_camel : ∀ f : Record.Field ρ, field? ρ (FieldName.camel (name f)) = some f
  get_set_self : ∀ (r : ρ) (f : Record.Field ρ) (v : Value), get (set r f v) f = v
  get_set_ne : ∀ (r : ρ) {f f' : Record.Field ρ} (v : Value), f' ≠ f → get (set r f v) f' = get r f'
  extras_set : ∀ (r : ρ) (f : Record.Field ρ) (v : Value), extras (set r f v) = extras r
  get_withExtras : ∀ (r : ρ) (es : Table Value) (f : Record.Field ρ),
    get (withExtras r es) f = get r f
  extras_withExtras : ∀ (r : ρ) (es : Table Value), extras (withExtras r es) = es

instance : DecidableEq (Record.Field Player) := inferInstanceAs (DecidableEq Player.Field)

instance : LawfulRecord Player where
  ext := by
    rintro ⟨_, _, _, _, _, _, _, _, _, _⟩ ⟨_, _, _, _, _, _, _, _, _, _⟩ hget hextras
    cases hget .id; cases hget .name; cases hget .hand; cases hget .known; cases hget .declared
    cases hget .justDrawn; cases hget .drawSource; cases hget .drawnCard; cases hget .score
    cases hextras
    rfl
  mem_fields f := by cases f <;> decide
  nodup_fields := by decide
  field?_camel f := by cases f <;> decide +kernel
  get_set_self r f v := by cases f <;> rfl
  get_set_ne r f f' v h := by cases f <;> cases f' <;> first | rfl | exact absurd rfl h
  extras_set r f v := by cases f <;> rfl
  get_withExtras r es f := by cases f <;> rfl
  extras_withExtras r es := rfl

instance : DecidableEq (Record.Field Turn) := inferInstanceAs (DecidableEq Turn.Field)

instance : LawfulRecord Turn where
  ext := by
    rintro ⟨_, _, _, _, _, _, _⟩ ⟨_, _, _, _, _, _, _⟩ hget hextras
    cases hget .phase; cases hget .seat; cases hget .drawn; cases hget .justBurned
    cases hget .usedAbility; cases hget .discarded
    cases hextras
    rfl
  mem_fields f := by cases f <;> decide
  nodup_fields := by decide
  field?_camel f := by cases f <;> decide +kernel
  get_set_self r f v := by cases f <;> rfl
  get_set_ne r f f' v h := by cases f <;> cases f' <;> first | rfl | exact absurd rfl h
  extras_set r f v := by cases f <;> rfl
  get_withExtras r es f := by cases f <;> rfl
  extras_withExtras r es := rfl

instance : DecidableEq (Record.Field Round) := inferInstanceAs (DecidableEq Round.Field)

instance : LawfulRecord Round where
  ext := by
    rintro ⟨_, _⟩ ⟨_, _⟩ hget hextras
    cases hget .number
    cases hextras
    rfl
  mem_fields f := by cases f; decide
  nodup_fields := by decide
  field?_camel f := by cases f; decide +kernel
  get_set_self r f v := by cases f; rfl
  get_set_ne r f f' v h := by cases f; cases f'; exact absurd rfl h
  extras_set r f v := by cases f; rfl
  get_withExtras r es f := by cases f; rfl
  extras_withExtras r es := rfl

instance : DecidableEq (Record.Field Contest) := inferInstanceAs (DecidableEq Contest.Field)

instance : LawfulRecord Contest where
  ext := by
    rintro ⟨_, _, _⟩ ⟨_, _, _⟩ hget hextras
    cases hget .decided; cases hget .winner
    cases hextras
    rfl
  mem_fields f := by cases f <;> decide
  nodup_fields := by decide
  field?_camel f := by cases f <;> decide +kernel
  get_set_self r f v := by cases f <;> rfl
  get_set_ne r f f' v h := by cases f <;> cases f' <;> first | rfl | exact absurd rfl h
  extras_set r f v := by cases f <;> rfl
  get_withExtras r es f := by cases f <;> rfl
  extras_withExtras r es := rfl

namespace Record

variable {ρ : Type} [Record ρ] {r : ρ} {n : String} {v : Value}

/-- A field is found by the names that spell its own. -/
theorem name_of_field? {f : Field ρ} (h : field? ρ n = some f) :
    name f = FieldName.underscored n := by simpa using List.find?_some h

/-! ## Extras -/

/-- No two extras stand under one name, and none under a name that spells a field. -/
structure Unshadowed (r : ρ) : Prop where
  nodup : (extras r).keys.Nodup
  undeclared : ∀ k ∈ (extras r).keys, field? ρ k = none

theorem unshadowed_of_extras_nil (h : extras r = []) : Unshadowed r :=
  ⟨by rw [h]; exact List.nodup_nil, by rw [h]; exact fun k hk => absurd hk List.not_mem_nil⟩

theorem Unshadowed.of_extras_eq {s : ρ} (h : Unshadowed r) (hextras : extras s = extras r) :
    Unshadowed s := ⟨hextras ▸ h.nodup, hextras ▸ h.undeclared⟩

theorem write_of_field {f : Field ρ} (h : field? ρ n = some f) : write r n v = set r f v := by
  rw [write, h]

theorem write_of_none (h : field? ρ n = none) :
    write r n v = withExtras r ((extras r).put n v) := by rw [write, h]

theorem writeAll_append (r : ρ) (es es' : Table Value) :
    writeAll r (es ++ es') = writeAll (writeAll r es) es' := List.foldl_append

theorem insertByName_perm (f : Field ρ) (fs : List (Field ρ)) :
    (insertByName f fs).Perm (f :: fs) := by
  induction fs with
  | nil => exact .refl _
  | cons g gs ih =>
    rw [insertByName]
    split
    · exact (ih.cons g).trans (.swap f g gs)
    · exact .refl _

/-- A snapshot lists every declared field once. -/
theorem fieldsByName_perm (ρ : Type) [Record ρ] : (fieldsByName ρ).Perm fields := by
  unfold fieldsByName
  induction (fields : List (Field ρ)) with
  | nil => exact .refl _
  | cons f fs ih => exact (insertByName_perm f _).trans (ih.cons f)

/-- The fields as entries, in the order of their names. -/
def fieldEntries (r : ρ) : Table Value :=
  (fieldsByName ρ).map fun f => (FieldName.camel (name f), get r f)

/-- The entries of the snapshot. -/
def entries (r : ρ) : Table Value := Table.putAll (fieldEntries r) (extras r)

theorem snapshot_eq (r : ρ) : snapshot r = .object (entries r) := rfl

theorem keys_fieldEntries (r : ρ) :
    (fieldEntries r).keys = (fieldsByName ρ).map fun f => FieldName.camel (name f) := by
  simp [fieldEntries, Table.keys]

variable [LawfulRecord ρ]

open LawfulRecord

/-- A value does not go to a field that its name does not spell. -/
theorem get_write_of_ne {f : Field ρ} (h : FieldName.underscored n ≠ name f) (v : Value) :
    get (write r n v) f = get r f := by
  cases hn : field? ρ n with
  | none => rw [write_of_none hn, get_withExtras]
  | some f' =>
    have hne : f ≠ f' := fun heq => h (by rw [heq, name_of_field? hn])
    rw [write_of_field hn, get_set_ne r v hne]

/-- A value goes to the field that its name spells, or else to an extra that none does. -/
theorem Unshadowed.write (h : Unshadowed r) (n : String) (v : Value) :
    Unshadowed (write r n v) := by
  cases hn : field? ρ n with
  | some f =>
    rw [write_of_field hn]
    exact h.of_extras_eq (extras_set r f v)
  | none =>
    rw [write_of_none hn]
    refine ⟨?_, fun k hk => ?_⟩
    · rw [extras_withExtras]
      exact Table.nodup_keys_put h.nodup n v
    · rw [extras_withExtras] at hk
      rcases Table.mem_keys_put.1 hk with hk | rfl
      · exact h.undeclared k hk
      · exact hn

theorem Unshadowed.writeAll (h : Unshadowed r) (es : Table Value) : Unshadowed (writeAll r es) := by
  induction es generalizing r with
  | nil => exact h
  | cons e es ih => exact ih (h.write e.1 e.2)

/-! ## Snapshots -/

theorem camel_name_injective : Function.Injective fun f : Field ρ => FieldName.camel (name f) := by
  intro f f' heq
  have hsome : some f = some f' := by
    rw [← field?_camel f, ← field?_camel f']
    exact congrArg (field? ρ) heq
  exact Option.some.inj hsome

theorem nodup_keys_fieldEntries (r : ρ) : (fieldEntries r).keys.Nodup := by
  rw [keys_fieldEntries]
  exact ((fieldsByName_perm ρ).nodup_iff.2 nodup_fields).map camel_name_injective

theorem mem_fieldsByName (f : Field ρ) : f ∈ fieldsByName ρ :=
  (fieldsByName_perm ρ).mem_iff.2 (mem_fields f)

/-- The extras come behind the fields. -/
theorem Unshadowed.entries_eq (h : Unshadowed r) : entries r = fieldEntries r ++ extras r := by
  refine Table.putAll_of_nodup ?_
  rw [Table.keys_append]
  refine List.nodup_append.2 ⟨nodup_keys_fieldEntries r, h.nodup, fun k hk k' hk' heq => ?_⟩
  rw [keys_fieldEntries] at hk
  obtain ⟨f, -, rfl⟩ := List.mem_map.1 hk
  have hnone := h.undeclared k' hk'
  rw [← heq, field?_camel] at hnone
  cases hnone

/-- Every field is spelled in the snapshot. -/
theorem Unshadowed.spelled (h : Unshadowed r) (f : Field ρ) :
    (entries r).any (fun e => FieldName.underscored e.1 == name f) = true := by
  have hmem : (FieldName.camel (name f), get r f) ∈ entries r := by
    rw [h.entries_eq]
    exact List.mem_append_left _ (List.mem_map.2 ⟨f, mem_fieldsByName f, rfl⟩)
  exact List.any_eq_true.2 ⟨_, hmem, beq_iff_eq.2 (name_of_field? (field?_camel f)).symm⟩

/-- The fields of a snapshot go back to where they were. -/
theorem get_writeAll_fields (fs : List (Field ρ)) (fresh : ρ) :
    let written := writeAll fresh (fs.map fun f => (FieldName.camel (name f), get r f))
    (∀ f, f ∈ fs ∨ get fresh f = get r f → get written f = get r f) ∧
      extras written = extras fresh := by
  induction fs generalizing fresh with
  | nil => exact ⟨fun f hf => hf.resolve_left List.not_mem_nil, rfl⟩
  | cons f fs ih =>
    obtain ⟨hget, hextras⟩ := ih (set fresh f (get r f))
    have hcons : writeAll fresh ((f :: fs).map fun f => (FieldName.camel (name f), get r f)) =
        writeAll (set fresh f (get r f)) (fs.map fun f => (FieldName.camel (name f), get r f)) := by
      rw [List.map_cons, writeAll, List.foldl_cons, write_of_field (field?_camel f)]
      rfl
    rw [hcons]
    refine ⟨fun f' hf' => hget f' ?_, hextras.trans (extras_set _ _ _)⟩
    by_cases heq : f' = f
    · subst heq
      exact .inr (get_set_self _ _ _)
    · rw [get_set_ne _ _ heq]
      exact hf'.imp_left fun hmem => (List.mem_cons.1 hmem).resolve_left heq

/-- What spells no field goes to the extras. -/
theorem writeAll_undeclared (r : ρ) {es : Table Value} (h : ∀ k ∈ es.keys, field? ρ k = none) :
    (∀ f, get (writeAll r es) f = get r f) ∧ extras (writeAll r es) = (extras r).putAll es := by
  induction es generalizing r with
  | nil => exact ⟨fun _ => rfl, rfl⟩
  | cons e es ih =>
    obtain ⟨he, hes⟩ := List.forall_mem_cons.1 h
    have hcons : Record.writeAll r (e :: es) =
        Record.writeAll (withExtras r ((extras r).put e.1 e.2)) es := by
      rw [Record.writeAll, List.foldl_cons, write_of_none he]
      rfl
    obtain ⟨hget, hextras⟩ := ih (withExtras r ((extras r).put e.1 e.2)) hes
    rw [hcons]
    refine ⟨fun f => (hget f).trans (get_withExtras _ _ _), ?_⟩
    rw [hextras, extras_withExtras]
    rfl

/-- An unshadowed record is what is read from its snapshot. -/
theorem Unshadowed.writeAll_entries (h : Unshadowed r) {fresh : ρ} (hfresh : extras fresh = []) :
    Record.writeAll fresh (entries r) = r := by
  rw [h.entries_eq, writeAll_append]
  obtain ⟨hfields, hnone⟩ := get_writeAll_fields (r := r) (fieldsByName ρ) fresh
  obtain ⟨hget, hextras⟩ :=
    writeAll_undeclared (Record.writeAll fresh (fieldEntries r)) h.undeclared
  refine LawfulRecord.ext (fun f => (hget f).trans (hfields f (.inl (mem_fieldsByName f)))) ?_
  rw [hextras]
  refine (congrArg (Table.putAll · (extras r)) (hnone.trans hfresh)).trans ?_
  exact Table.putAll_of_nodup (t := []) h.nodup

end Record

end CardRules
