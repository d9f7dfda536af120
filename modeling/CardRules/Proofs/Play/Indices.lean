import CardRules.Play.Index
import CardRules.Proofs.Text.Classes

/-!
# What indices denote

`Value.Denotes v i` says, without reading `v`, that `v` stands for the whole number `i`. Reading an
index finds the number (`asIndex?_of_denotes`) and leaves a value that denotes none as it is
(`asIndex?_of_other`), but for texts that mislead: they have the form of an index and denote
nothing, and they are the only values that cannot be read (`asIndex?_of_misleads`).
-/

namespace CardRules

open Text

/-! ## Texts of whole numbers -/

/-- Decimal digits, at least one and not too many. -/
structure IsNumeral (ds : List Char) : Prop where
  nonempty : ds ≠ []
  digits : ∀ d ∈ ds, isDecimalDigit d = true
  short : ds.length ≤ longestNumeral

/-- The characters are a numeral, or a hyphen and a numeral, of the number. -/
inductive IsWhole : List Char → Int → Prop
  | plain {ds : List Char} (h : IsNumeral ds) : IsWhole ds (digitsValue ds)
  | negative {ds : List Char} (h : IsNumeral ds) : IsWhole ('-' :: ds) (-(digitsValue ds : Int))

/-- The characters are hyphens and then digit marks, at least one. -/
def IsIndexForm (cs : List Char) : Prop :=
  ∃ hyphens digits, cs = hyphens ++ digits ∧ (∀ c ∈ hyphens, c = '-') ∧ digits ≠ [] ∧
    ∀ d ∈ digits, isDigitMark d = true

/-- The text spells the number, with white space around it. -/
def SpellsWhole (s : String) (i : Int) : Prop :=
  ∃ inner, IsWhole inner i ∧ Among isWhiteSpace inner s.toList

/-- The value stands for the number. -/
inductive Value.Denotes : Value → Int → Prop
  | whole (i : Int) : Denotes (.number (.int i)) i
  | float {x : Decimal.Binary64} {i : Int} (hwhole : x.isWhole = true)
      (h : x.truncate? = some i) : Denotes (.number (.float x)) i
  | text {s : String} {i : Int} (h : SpellsWhole s i) : Denotes (.text s) i

/-- The text has the form of an index among blanks, and it spells no number. -/
inductive Value.Misleads : Value → Prop
  | text {s : String} {inner : List Char} (form : IsIndexForm inner)
      (among : Among isBlank inner s.toList) (h : ∀ i, ¬ SpellsWhole s i) : Misleads (.text s)

/-- The value names one of `size` places. -/
def Value.InRange (v : Value) (size : Nat) : Prop := ∃ n < size, v.Denotes n

variable {cs : List Char} {i : Int} {v : Value}

theorem isDigitMark_hyphen : isDigitMark '-' = false := by decide +kernel

theorem isBlank_hyphen : isBlank '-' = false := by decide +kernel

theorem isBlank_of_isWhiteSpace {c : Char} (h : isWhiteSpace c = true) : isBlank c = true :=
  Bool.or_eq_true_iff.2 (.inl h)

theorem IsNumeral.digitMarks (h : IsNumeral cs) : ∀ d ∈ cs, isDigitMark d = true := fun d hd =>
  isDigitMark_of_isDecimalDigit (h.digits d hd)

theorem isNumeral_iff :
    IsNumeral cs ↔ (!cs.isEmpty && cs.all isDecimalDigit && cs.length ≤ longestNumeral) = true := by
  simp only [Bool.and_eq_true, Bool.not_eq_true', List.isEmpty_eq_false_iff, List.all_eq_true,
    decide_eq_true_eq]
  exact ⟨fun h => ⟨⟨h.nonempty, h.digits⟩, h.short⟩, fun ⟨⟨hne, hds⟩, hlen⟩ => ⟨hne, hds, hlen⟩⟩

theorem wholeOf?_eq_some_iff : wholeOf? cs = some i ↔ IsWhole cs i := by
  unfold wholeOf?
  constructor
  · intro h
    split at h
    rename_i negative ds hsign
    split at h
    · rename_i hds
      have hnumeral := isNumeral_iff.2 hds
      split at hsign
      · cases hsign
        cases h
        exact .negative hnumeral
      · cases hsign
        cases h
        exact .plain hnumeral
    · cases h
  · intro h
    cases h with
    | negative h => exact if_pos (isNumeral_iff.1 h)
    | plain h =>
      have hhyphen (ds : List Char) : cs ≠ '-' :: ds := by
        rintro rfl
        have := h.digitMarks '-' List.mem_cons_self
        rw [isDigitMark_hyphen] at this
        cases this
      split
      rename_i hsign
      split at hsign
      · exact absurd rfl (hhyphen _)
      · cases hsign
        rw [if_pos (isNumeral_iff.1 h), if_neg Bool.false_ne_true]

theorem looksLikeIndex_iff : looksLikeIndex cs = true ↔ IsIndexForm cs := by
  simp only [looksLikeIndex, Bool.and_eq_true, Bool.not_eq_true', List.isEmpty_eq_false_iff,
    List.all_eq_true]
  constructor
  · rintro ⟨hne, hdigits⟩
    refine ⟨cs.takeWhile (· = '-'), cs.dropWhile (· = '-'),
      List.takeWhile_append_dropWhile.symm, fun c hc => ?_, hne, hdigits⟩
    simpa using List.mem_takeWhile_imp hc
  · rintro ⟨hyphens, digits, rfl, hhyphens, hne, hdigits⟩
    have hdrop : (hyphens ++ digits).dropWhile (· = '-') = digits := by
      rw [List.dropWhile_append_of_pos (by simpa using hhyphens)]
      refine dropWhile_of_none fun d hd => ?_
      have hmark := hdigits d hd
      simp only [decide_eq_false_iff_not]
      rintro rfl
      rw [isDigitMark_hyphen] at hmark
      cases hmark
    rw [hdrop]
    exact ⟨hne, hdigits⟩

/-- An index has no blanks in it. -/
theorem IsIndexForm.not_blank (h : IsIndexForm cs) : ∀ c ∈ cs, isBlank c = false := by
  obtain ⟨hyphens, digits, rfl, hhyphens, -, hdigits⟩ := h
  intro c hc
  rcases List.mem_append.1 hc with hc | hc
  · exact hhyphens c hc ▸ isBlank_hyphen
  · exact isBlank_of_isDigitMark (hdigits c hc)

theorem IsWhole.isIndexForm (h : IsWhole cs i) : IsIndexForm cs := by
  cases h with
  | plain h => exact ⟨[], cs, rfl, by simp, h.nonempty, h.digitMarks⟩
  | @negative ds h => exact ⟨['-'], ds, rfl, by simp, h.nonempty, h.digitMarks⟩

theorem looksLikeIndex_trimBy_iff {s : String} :
    looksLikeIndex (trimBy isBlank s.toList) = true ↔
      ∃ inner, IsIndexForm inner ∧ Among isBlank inner s.toList := by
  rw [looksLikeIndex_iff]
  constructor
  · exact fun h => ⟨_, h, among_trimBy isBlank _⟩
  · rintro ⟨inner, h, hamong⟩
    rwa [hamong.trimBy_eq h.not_blank]

theorem wholeOf?_trimBy_iff {s : String} :
    wholeOf? (trimBy isWhiteSpace s.toList) = some i ↔ SpellsWhole s i := by
  rw [wholeOf?_eq_some_iff]
  constructor
  · exact fun h => ⟨_, h, among_trimBy isWhiteSpace _⟩
  · rintro ⟨inner, h, hamong⟩
    have hinner : ∀ c ∈ inner, isWhiteSpace c = false := fun c hc =>
      (Bool.or_eq_false_iff.1 (h.isIndexForm.not_blank c hc)).1
    rwa [hamong.trimBy_eq hinner]

/-! ## Reading indices -/

theorem asIndex?_of_denotes (h : v.Denotes i) : asIndex? v = .ok (.int i) := by
  cases h with
  | whole => rfl
  | float hwhole h => rw [asIndex?, if_pos hwhole, h]
  | text h =>
    obtain ⟨inner, hwhole, hamong⟩ := id h
    have hform := looksLikeIndex_trimBy_iff.2
      ⟨inner, hwhole.isIndexForm, hamong.wider fun _ => isBlank_of_isWhiteSpace⟩
    rw [asIndex?, if_pos hform, wholeOf?_trimBy_iff.2 h]

theorem asIndex?_of_misleads (h : v.Misleads) : asIndex? v = .error .unreadable := by
  obtain ⟨form, among, hnone⟩ := h
  rename_i s inner
  rw [asIndex?, if_pos (looksLikeIndex_trimBy_iff.2 ⟨inner, form, among⟩)]
  cases hwhole : wholeOf? (trimBy isWhiteSpace s.toList) with
  | none => rfl
  | some i => exact absurd (wholeOf?_trimBy_iff.1 hwhole) (hnone i)

theorem asIndex?_of_other (h : ∀ i, ¬ v.Denotes i) (h' : ¬ v.Misleads) : asIndex? v = .ok v := by
  unfold asIndex?
  split
  · rename_i x
    split
    · rename_i hwhole
      cases hx : x.truncate? with
      | none => rfl
      | some i => exact absurd (.float hwhole hx) (h i)
    · rfl
  · rename_i s
    split
    · rename_i hform
      obtain ⟨inner, hform, hamong⟩ := looksLikeIndex_trimBy_iff.1 hform
      exact absurd (.text hform hamong fun i hi => h i (.text hi)) h'
    · rfl
  · rfl

/-- A value that does not mislead can be read. -/
theorem exists_asIndex? (h : ¬ v.Misleads) : ∃ index, asIndex? v = .ok index := by
  by_cases hi : ∃ i, v.Denotes i
  · obtain ⟨i, hi⟩ := hi
    exact ⟨_, asIndex?_of_denotes hi⟩
  · exact ⟨v, asIndex?_of_other (not_exists.1 hi) h⟩

theorem not_misleads_of_ok {index : Value} (h : asIndex? v = .ok index) : ¬ v.Misleads := by
  intro hmis
  rw [asIndex?_of_misleads hmis] at h
  cases h

/-- The place that an index names is the one that it was read from. -/
theorem slot?_eq_some_iff {index : Value} {size n : Nat} (h : asIndex? v = .ok index) :
    slot? index size = some n ↔ n < size ∧ v.Denotes n := by
  by_cases hi : ∃ i, v.Denotes i
  · obtain ⟨i, hi⟩ := hi
    rw [asIndex?_of_denotes hi] at h
    cases h
    have hsame (j : Int) (hj : v.Denotes j) : j = i := by
      have hread := asIndex?_of_denotes hj
      rw [asIndex?_of_denotes hi] at hread
      cases hread
      rfl
    rw [Value.int, slot?]
    constructor
    · intro hslot
      split at hslot
      · rename_i hbounds
        cases hslot
        refine ⟨by omega, ?_⟩
        rwa [Int.toNat_of_nonneg hbounds.1]
      · cases hslot
    · rintro ⟨hlt, hn⟩
      cases hsame _ hn
      rw [if_pos (by omega)]
      rfl
  · have hnone := not_exists.1 hi
    rw [asIndex?_of_other hnone (not_misleads_of_ok h)] at h
    cases h
    constructor
    · intro hslot
      unfold slot? at hslot
      split at hslot
      · exact absurd (.whole _) (hnone _)
      · cases hslot
    · exact fun hn => absurd hn.2 (hnone n)

theorem slot?_eq_none_iff {index : Value} {size : Nat} (h : asIndex? v = .ok index) :
    slot? index size = none ↔ ¬ v.InRange size := by
  cases hslot : slot? index size with
  | none =>
    refine iff_of_true rfl ?_
    rintro ⟨n, hn⟩
    rw [(slot?_eq_some_iff h).2 hn] at hslot
    cases hslot
  | some n => exact iff_of_false (by simp) (not_not.2 ⟨n, (slot?_eq_some_iff h).1 hslot⟩)

/-- What names a place does not mislead. -/
theorem Value.InRange.not_misleads {size : Nat} (h : v.InRange size) : ¬ v.Misleads := by
  obtain ⟨n, -, hn⟩ := h
  exact not_misleads_of_ok (asIndex?_of_denotes hn)

/-- Only null is read as null. -/
theorem asIndex?_eq_null (h : asIndex? v = .ok .null) : v = .null := by
  by_cases hi : ∃ i, v.Denotes i
  · obtain ⟨i, hi⟩ := hi
    rw [asIndex?_of_denotes hi] at h
    cases h
  · rw [asIndex?_of_other (not_exists.1 hi) (not_misleads_of_ok h)] at h
    cases h
    rfl

end CardRules
