import CardRules.Proofs.Results
import CardRules.Proofs.Tables
import CardRules.Rules.Document

/-!
# Normal forms

The normal form of a model has every field under its camel name, with a value that has passed the
check of the field or is its default (`get?_of_model`). So the values of ranks that conditions see
are an object in every document that is read (`Document.cardValues_object`).
-/

namespace CardRules

namespace Schema

/-! ## Models -/

theorem collect_eq_ok {α : Type} {rs : List (Except (List Issue) α)} {as : List α}
    (h : collect rs = .ok as) : rs = as.map .ok := by
  induction rs generalizing as with
  | nil =>
    cases h
    rfl
  | cons r rs ih =>
    cases r with
    | error is =>
      rw [collect] at h
      split at h <;> cases h
    | ok a =>
      rw [collect] at h
      split at h
      · rename_i as' has
        cases h
        rw [List.map_cons, ih has]
      · cases h

/-- A normal form that the field can have: one that has passed its check, or its default. -/
def Field.Admits (f : Field) (v : Value) : Prop :=
  (∃ given, f.check given = .ok v) ∨ f.default = some v

variable {f : Field} {fields : List Field} {es : Table Value}

theorem Field.read_ok {e : String × Value} (h : f.read es = .ok e) :
    e.1 = f.camel ∧ f.Admits e.2 := by
  unfold Field.read at h
  split at h
  · rename_i key given _
    cases hcheck : (f.check given).map (f.camel, ·) with
    | error is =>
      rw [hcheck] at h
      cases h
    | ok entry =>
      rw [hcheck] at h
      cases h
      obtain ⟨v, hv, rfl⟩ := map_eq_ok hcheck
      exact ⟨rfl, .inl ⟨given, hv⟩⟩
  · split at h
    · rename_i v hv
      cases h
      exact ⟨rfl, .inr hv⟩
    · cases h

/-- What is read for a field was given under one of its spellings, or is its default. -/
theorem Field.read_given {e : String × Value} (h : f.read es = .ok e) :
    (∃ key given, key ∈ [f.camel, f.name] ∧ (key, given) ∈ es ∧ f.check given = .ok e.2) ∨
      f.default = some e.2 := by
  have hgiven {key : String} {given : Value} (h : f.given? es = some (key, given)) :
      key ∈ [f.camel, f.name] ∧ (key, given) ∈ es := by
    unfold Field.given? at h
    split at h
    · rename_i v hv
      cases h
      exact ⟨by simp, Table.mem_of_get? hv⟩
    · obtain ⟨v, hv, hpair⟩ := Option.map_eq_some_iff.1 h
      cases hpair
      exact ⟨by simp, Table.mem_of_get? hv⟩
  unfold Field.read at h
  split at h
  · rename_i key given hkey
    obtain ⟨hname, hmem⟩ := hgiven hkey
    cases hcheck : (f.check given).map (f.camel, ·) with
    | error is =>
      rw [hcheck] at h
      cases h
    | ok entry =>
      rw [hcheck] at h
      cases h
      obtain ⟨v, hv, rfl⟩ := map_eq_ok hcheck
      exact .inl ⟨key, given, hname, hmem, hv⟩
  · split at h
    · rename_i v hv
      cases h
      exact .inr hv
    · cases h

theorem keys_of_reads {known : Table Value} (h : fields.map (Field.read es) = known.map .ok) :
    known.keys = fields.map Field.camel := by
  induction fields generalizing known with
  | nil =>
    cases known with
    | nil => rfl
    | cons => cases h
  | cons f fields ih =>
    cases known with
    | nil => cases h
    | cons e known =>
      obtain ⟨hread, hrest⟩ := List.cons.inj h
      exact congrArg₂ _ (Field.read_ok hread).1 (ih hrest)

/-- A model whose fields have different camel names has what was read for each of them. -/
theorem read_of_model {title : String} (hnames : (fields.map Field.camel).Nodup) {w : Value}
    (h : model title fields (.object es) = .ok w) (hf : f ∈ fields) :
    ∃ x, (asEntries w).get? f.camel = some x ∧ f.read es = .ok (f.camel, x) := by
  obtain ⟨known, hknown, rfl⟩ := map_eq_ok h
  have hreads := collect_eq_ok hknown
  have hkeys : (Table.keys known).Nodup := keys_of_reads hreads ▸ hnames
  obtain ⟨⟨key, x⟩, hx, hread⟩ : ∃ e ∈ known, .ok e = f.read es := by
    have hmem : f.read es ∈ known.map .ok := hreads ▸ List.mem_map_of_mem hf
    exact List.mem_map.1 hmem
  obtain ⟨rfl, -⟩ := Field.read_ok hread.symm
  have hfound : Table.get? known f.camel = some x := (Table.get?_eq_some_iff hkeys).2 hx
  exact ⟨x, Table.get?_append_of_get? hfound _, hread.symm⟩

/-- A model whose fields have different camel names has a value for each of them. -/
theorem get?_of_model {title : String} (hnames : (fields.map Field.camel).Nodup) {v w : Value}
    (h : model title fields v = .ok w) (hf : f ∈ fields) :
    ∃ x, (asEntries w).get? f.camel = some x ∧ f.Admits x := by
  cases v with
  | object es =>
    obtain ⟨x, hx, hread⟩ := read_of_model hnames h hf
    exact ⟨x, hx, (Field.read_ok hread).2⟩
  | _ => cases h

theorem tableOf_ok {check : Check} {v w : Value} (h : tableOf check v = .ok w) :
    ∃ es, w = .object es := by
  cases v with
  | object es =>
    obtain ⟨es', -, rfl⟩ := map_eq_ok h
    exact ⟨es', rfl⟩
  | _ => cases h

end Schema

/-! ## Documents -/

open Schema

theorem Metadata.cardValues_object {v w : Value} (h : Metadata.check v = .ok w) :
    ∃ es, (asEntries w).get? "cardValues" = some (.object es) := by
  have hfield : withDefault "cardValues" "card_values" (tableOf number) (.object []) ∈ fields := by
    simp [fields]
  obtain ⟨x, hx, ⟨given, hcheck⟩ | hdefault⟩ := get?_of_model (by decide) h hfield
  · obtain ⟨es, rfl⟩ := tableOf_ok hcheck
    exact ⟨es, hx⟩
  · cases hdefault
    exact ⟨[], hx⟩

/-- In a document that was read, conditions see the values of ranks as an object. -/
theorem Document.cardValues_object {v : Value} {d : Document} (h : Document.ofValue? v = .ok d) :
    ∃ es, d.metadata.normal.get? "cardValues" = some (.object es) := by
  obtain ⟨w, hcheck, rfl⟩ := map_eq_ok h
  have hfield : withDefault "metadata" "metadata" Metadata.check Metadata.default ∈ fields := by
    simp [fields]
  obtain ⟨x, hx, hadmits⟩ := get?_of_model (by decide) hcheck hfield
  have hnormal : (ofNormal w).metadata.normal = asEntries x := by
    show asEntries (fieldOf w "metadata") = asEntries x
    rw [fieldOf, show (asEntries w).get? "metadata" = some x from hx, Option.getD_some]
  rw [hnormal]
  obtain ⟨given, hgiven⟩ | hdefault := hadmits
  · exact Metadata.cardValues_object hgiven
  · cases hdefault
    exact ⟨[], rfl⟩

end CardRules
