import CardRules.Table
import Mathlib.Data.List.Nodup

/-!
# Tables with different keys

In a table with different keys a look-up finds exactly the entries (`get?_eq_some_iff`). Putting a
value into a table keeps its keys different (`nodup_keys_put`), and what has only new keys is put
behind everything else (`putAll_of_nodup`).
-/

namespace CardRules.Table

variable {α : Type} {t : Table α} {key : String} {v : α}

theorem mem_of_get? (h : t.get? key = some v) : (key, v) ∈ t := by
  induction t with
  | nil => cases h
  | cons e t ih =>
    obtain ⟨k, w⟩ := e
    rw [get?_cons] at h
    split at h
    · rename_i hk
      cases h
      rw [hk]
      exact List.mem_cons_self
    · exact List.mem_cons_of_mem _ (ih h)

theorem mem_keys_of_mem (h : (key, v) ∈ t) : key ∈ t.keys := List.mem_map.2 ⟨_, h, rfl⟩

theorem exists_get? (h : key ∈ t.keys) : ∃ v, t.get? key = some v := by
  induction t with
  | nil => cases h
  | cons e t ih =>
    obtain ⟨k, w⟩ := e
    rw [get?_cons]
    by_cases hk : key = k
    · exact ⟨w, if_pos hk⟩
    · rw [if_neg hk]
      exact ih ((List.mem_cons.1 h).resolve_left hk)

theorem get?_eq_some_iff (hkeys : t.keys.Nodup) : t.get? key = some v ↔ (key, v) ∈ t := by
  refine ⟨mem_of_get?, fun h => ?_⟩
  induction t with
  | nil => cases h
  | cons e t ih =>
    obtain ⟨k, w⟩ := e
    obtain ⟨hk, hkeys⟩ := List.nodup_cons.1 hkeys
    rw [get?_cons]
    rcases List.mem_cons.1 h with h | h
    · cases h
      rw [if_pos rfl]
    · have hne : key ≠ k := fun heq => hk (heq ▸ mem_keys_of_mem h)
      rw [if_neg hne]
      exact ih hkeys h

theorem get?_append_of_get? (h : t.get? key = some v) (u : Table α) :
    get? (t ++ u) key = some v := by
  rw [get?, List.lookup_append, show t.lookup key = some v from h, Option.some_or]

theorem get?_append_of_not_mem (h : key ∉ t.keys) (u : Table α) :
    get? (t ++ u) key = u.get? key := by
  induction t with
  | nil => rfl
  | cons e t ih =>
    obtain ⟨k, w⟩ := e
    obtain ⟨hne, ht⟩ := not_or.1 (mt List.mem_cons.2 h)
    rw [List.cons_append, get?_cons, if_neg hne, ih ht]

/-! ## Taking keys out -/

theorem not_mem_keys_erase (t : Table α) (key : String) : key ∉ (t.erase key).keys := by
  intro h
  obtain ⟨e, he, hkey⟩ := List.mem_map.1 h
  simpa [hkey] using (List.mem_filter.1 he).2

theorem erase_of_not_mem (h : key ∉ t.keys) : t.erase key = t := by
  refine List.filter_eq_self.2 fun e he => ?_
  have hne : e.1 ≠ key := fun heq => h (heq ▸ mem_keys_of_mem he)
  simpa using hne

/-! ## Putting values in -/

theorem put_of_not_mem (h : key ∉ t.keys) (v : α) : t.put key v = t ++ [(key, v)] := by
  induction t with
  | nil => rfl
  | cons e t ih =>
    obtain ⟨k, w⟩ := e
    obtain ⟨hne, ht⟩ := not_or.1 (mt List.mem_cons.2 h)
    rw [put, if_neg (Ne.symm hne), ih ht, List.cons_append]

/-- Putting in what a look-up finds changes nothing. -/
theorem put_of_get? (h : t.get? key = some v) : t.put key v = t := by
  induction t with
  | nil => cases h
  | cons e t ih =>
    obtain ⟨k, w⟩ := e
    rw [get?_cons] at h
    by_cases hk : k = key
    · rw [if_pos hk.symm] at h
      cases h
      rw [put, if_pos hk, hk]
    · rw [if_neg (Ne.symm hk)] at h
      rw [put, if_neg hk, ih h]

theorem keys_put_of_mem (h : key ∈ t.keys) (v : α) : (t.put key v).keys = t.keys := by
  induction t with
  | nil => cases h
  | cons e t ih =>
    obtain ⟨k, w⟩ := e
    rw [put]
    split
    · rename_i hk
      rw [hk]
      rfl
    · rename_i hne
      exact congrArg (k :: ·) (ih ((List.mem_cons.1 h).resolve_left (Ne.symm hne)))

theorem keys_append (t u : Table α) : keys (t ++ u) = t.keys ++ u.keys := List.map_append

theorem mem_keys_put {k : String} : k ∈ (t.put key v).keys ↔ k ∈ t.keys ∨ k = key := by
  by_cases h : key ∈ t.keys
  · rw [keys_put_of_mem h]
    exact ⟨.inl, fun hk => hk.elim id fun hk => hk ▸ h⟩
  · rw [put_of_not_mem h, keys_append, List.mem_append]
    simp [keys]

theorem nodup_keys_put (h : t.keys.Nodup) (key : String) (v : α) : (t.put key v).keys.Nodup := by
  by_cases hkey : key ∈ t.keys
  · rwa [keys_put_of_mem hkey]
  · rw [put_of_not_mem hkey, keys_append]
    refine List.nodup_append.2 ⟨h, by simp [keys], fun k hk k' hk' heq => hkey ?_⟩
    have hk' : k' = key := List.mem_singleton.1 hk'
    rwa [← hk', ← heq]

theorem putAll_of_nodup {new : Table α} (h : (keys (t ++ new)).Nodup) :
    t.putAll new = t ++ new := by
  induction new generalizing t with
  | nil => exact (List.append_nil t).symm
  | cons e new ih =>
    obtain ⟨k, w⟩ := e
    have hk : k ∉ t.keys := by
      rw [keys_append] at h
      exact fun hmem => List.disjoint_of_nodup_append h hmem List.mem_cons_self
    have happend : t ++ (k, w) :: new = t ++ [(k, w)] ++ new := by simp
    rw [happend] at h ⊢
    rw [← ih h, ← put_of_not_mem hk]
    rfl

end CardRules.Table
