import CardRules.Text.Replace
import Mathlib.Data.List.Infix
import Mathlib.Data.List.Basic

/-!
# Replacing a pattern

A pattern whose first character does not come up in it again cannot overlap itself. So the
occurrences of such a pattern in a text are found wherever they stand: between two parts with the
pattern between them the replacement stands, whatever is replaced in the parts
(`replaceAll_intercalate`). A text stays as it is just if the pattern does not occur in it
(`replaceAll_eq_self_iff`).
-/

namespace CardRules.Text

/-! ## Texts with one separator -/

section

variable {α β : Type} {f g : α → List β}

theorem length_intercalate_le (sep : List β) {xs : List α}
    (hle : ∀ x ∈ xs, (f x).length ≤ (g x).length) :
    (sep.intercalate (xs.map f)).length ≤ (sep.intercalate (xs.map g)).length := by
  induction xs with
  | nil => exact Nat.le_refl _
  | cons x xs ih =>
    obtain ⟨hx, hxs⟩ := List.forall_mem_cons.1 hle
    cases xs with
    | nil => simpa using hx
    | cons y xs =>
      have := ih hxs
      simp only [List.map_cons, List.intercalate_cons_cons, List.length_append] at this ⊢
      omega

/-- Texts that are put together the same way are the same, if none of the ones is longer than the
other one in its place. -/
theorem eq_of_intercalate_eq (sep : List β) {xs : List α}
    (hle : ∀ x ∈ xs, (f x).length ≤ (g x).length)
    (heq : sep.intercalate (xs.map f) = sep.intercalate (xs.map g)) : ∀ x ∈ xs, f x = g x := by
  induction xs with
  | nil => exact fun x hx => absurd hx List.not_mem_nil
  | cons x xs ih =>
    obtain ⟨hx, hxs⟩ := List.forall_mem_cons.1 hle
    cases xs with
    | nil => simpa using heq
    | cons y xs =>
      have hrest := length_intercalate_le sep hxs
      have hlength := congrArg List.length heq
      simp only [List.map_cons, List.intercalate_cons_cons] at heq hlength hrest ih
      simp only [List.length_append] at hlength
      rw [List.append_assoc, List.append_assoc] at heq
      obtain ⟨hfirst, heq⟩ := List.append_inj heq (by omega)
      exact List.forall_mem_cons.2 ⟨hfirst, ih hxs (List.append_cancel_left heq)⟩

end

/-! ## Occurrences -/

section

variable {first : Char} {more new cs : List Char}

theorem replaceFrom_skip (first : Char) (more new xs ys : List Char) :
    replaceFrom first more new xs.length (xs ++ ys) = replaceAll first more new ys := by
  induction xs with
  | nil => rfl
  | cons x xs ih => rw [List.length_cons, List.cons_append, replaceFrom, ih]

theorem replaceAll_found (first : Char) (more new cs : List Char) :
    replaceAll first more new (first :: more ++ cs) = new ++ replaceAll first more new cs := by
  have hstart : (first :: more).isPrefixOf (first :: (more ++ cs)) = true :=
    List.isPrefixOf_iff_prefix.2 (List.prefix_append _ _)
  rw [List.cons_append, replaceAll, replaceFrom, if_pos hstart, replaceFrom_skip]

theorem replaceAll_kept {c : Char} (h : ¬ first :: more <+: c :: cs) :
    replaceAll first more new (c :: cs) = c :: replaceAll first more new cs := by
  rw [replaceAll, replaceFrom, if_neg (by rwa [List.isPrefixOf_iff_prefix])]
  rfl

/-- A text is empty, or it begins with the pattern, or with a character where no pattern begins. -/
theorem occurrence_induction (first : Char) (more : List Char) {motive : List Char → Prop}
    (nil : motive []) (found : ∀ cs, motive cs → motive (first :: more ++ cs))
    (kept : ∀ c cs, ¬ first :: more <+: c :: cs → motive cs → motive (c :: cs))
    (cs : List Char) : motive cs := by
  induction hn : cs.length using Nat.strong_induction_on generalizing cs with
  | _ n ih =>
    subst hn
    cases cs with
    | nil => exact nil
    | cons c cs =>
      by_cases h : first :: more <+: c :: cs
      · obtain ⟨rest, hrest⟩ := h
        rw [← hrest]
        refine found rest (ih rest.length ?_ rest rfl)
        rw [← hrest, List.length_append, List.length_cons]
        omega
      · exact kept c cs h (ih cs.length (by simp) cs rfl)

/-- The pattern begins in no text that is followed by it, unless it does so without. -/
theorem not_prefix_append (hfirst : first ∉ more) (hne : cs ≠ []) (h : ¬ first :: more <+: cs)
    (rest : List Char) : ¬ first :: more <+: cs ++ (first :: more ++ rest) := by
  intro hstart
  rcases List.prefix_or_prefix_of_prefix hstart (List.prefix_append cs _) with hp | ⟨tail, htail⟩
  · exact h hp
  -- an occurrence that ends behind the text would have the pattern begin once more within it
  have hmore : tail <+: first :: more ++ rest := by
    rwa [← List.prefix_append_right_inj cs, htail]
  cases tail with
  | nil => exact h ⟨[], by rw [List.append_nil, ← htail, List.append_nil]⟩
  | cons c tail =>
    obtain rfl : c = first := (List.cons_prefix_cons.1 hmore).1
    obtain ⟨d, cs, rfl⟩ := List.exists_cons_of_ne_nil hne
    rw [List.cons_append] at htail
    obtain ⟨-, rfl⟩ := List.cons.inj htail
    exact hfirst (by simp)

/-- Between two parts with the pattern between them the replacement stands. -/
theorem replaceAll_append (hfirst : first ∉ more) (cs rest : List Char) :
    replaceAll first more new (cs ++ (first :: more ++ rest)) =
      replaceAll first more new cs ++ (new ++ replaceAll first more new rest) := by
  induction cs using occurrence_induction first more with
  | nil => rw [List.nil_append, replaceAll_found]; rfl
  | found cs ih => rw [List.append_assoc, replaceAll_found, replaceAll_found, ih, List.append_assoc]
  | kept c cs h ih =>
    have h' := not_prefix_append hfirst (List.cons_ne_nil c cs) h rest
    rw [List.cons_append] at h' ⊢
    rw [replaceAll_kept h', replaceAll_kept h, ih, List.cons_append]

theorem replaceAll_intercalate (hfirst : first ∉ more) (parts : List (List Char)) :
    replaceAll first more new ((first :: more).intercalate parts) =
      new.intercalate (parts.map (replaceAll first more new)) := by
  induction parts with
  | nil => rfl
  | cons x parts ih =>
    cases parts with
    | nil => simp
    | cons y parts =>
      rw [List.intercalate_cons_cons, List.append_assoc, replaceAll_append hfirst, ih]
      simp only [List.map_cons, List.intercalate_cons_cons, List.append_assoc]

/-! ## Texts that stay as they are -/

theorem length_replaceAll_le (h : new.length ≤ (first :: more).length) (cs : List Char) :
    (replaceAll first more new cs).length ≤ cs.length := by
  induction cs using occurrence_induction first more with
  | nil => exact Nat.le_refl _
  | found cs ih =>
    rw [replaceAll_found, List.length_append, List.length_append]
    omega
  | kept c cs hc ih =>
    rw [replaceAll_kept hc, List.length_cons, List.length_cons]
    omega

theorem le_length_replaceAll (h : (first :: more).length ≤ new.length) (cs : List Char) :
    cs.length ≤ (replaceAll first more new cs).length := by
  induction cs using occurrence_induction first more with
  | nil => exact Nat.le_refl _
  | found cs ih =>
    rw [replaceAll_found, List.length_append, List.length_append]
    omega
  | kept c cs hc ih =>
    rw [replaceAll_kept hc, List.length_cons, List.length_cons]
    omega

/-- A replacement that is not the pattern changes just the texts that the pattern occurs in. -/
theorem replaceAll_eq_self_iff (hnew : new ≠ first :: more) (cs : List Char) :
    replaceAll first more new cs = cs ↔ ¬ first :: more <:+: cs := by
  induction cs using occurrence_induction first more with
  | nil => simp [replaceAll, replaceFrom]
  | found cs ih =>
    refine iff_of_false (fun heq => ?_) (not_not.2 (List.prefix_append _ _).isInfix)
    rw [replaceAll_found] at heq
    have hlength := congrArg List.length heq
    rw [List.length_append, List.length_append] at hlength
    -- what is behind grows if the replacement is longer, and shrinks if it is shorter
    have hsame : new.length = (first :: more).length := by
      rcases Nat.le_total new.length (first :: more).length with h | h
      · have := length_replaceAll_le h cs
        omega
      · have := le_length_replaceAll h cs
        omega
    exact hnew (List.append_inj heq hsame).1
  | kept c cs hc ih =>
    rw [replaceAll_kept hc, List.cons_inj_right, ih, List.infix_cons_iff]
    exact ⟨fun h => not_or.2 ⟨hc, h⟩, fun h => (not_or.1 h).2⟩

/-- Replacements that are put together are the parts that they were made from just if the pattern
occurs in none of the parts. -/
theorem intercalate_replaceAll_iff (hnew : new ≠ first :: more) (sep : List Char)
    (parts : List (List Char)) :
    sep.intercalate (parts.map (replaceAll first more new)) = sep.intercalate parts ↔
      ∀ part ∈ parts, ¬ first :: more <:+: part := by
  have hparts : parts = parts.map id := (List.map_id parts).symm
  constructor
  · intro heq part hpart
    rw [← replaceAll_eq_self_iff hnew]
    rw [hparts, List.map_map] at heq
    rcases Nat.le_total new.length (first :: more).length with h | h
    · exact eq_of_intercalate_eq sep (fun x _ => length_replaceAll_le h x) heq part hpart
    · have hlength (x : List Char) (_ : x ∈ parts) := le_length_replaceAll h x
      exact (eq_of_intercalate_eq sep hlength heq.symm part hpart).symm
  · intro h
    have hsame : ∀ part ∈ parts, replaceAll first more new part = id part :=
      fun part hpart => (replaceAll_eq_self_iff hnew part).2 (h part hpart)
    rw [List.map_congr_left hsame, List.map_id]

end

end CardRules.Text
