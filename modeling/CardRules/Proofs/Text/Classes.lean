import CardRules.Text.Blank
import CardRules.Text.Digit
import Mathlib.Data.List.TakeWhile

/-!
# Classes of characters

Blanks and digits have no character in common (`isDigitMark_of_isBlank`), so blanks around digits
can be told from them: a text of digits without the blanks around it is the digits
(`Among.trimBy_eq`). Letters of ASCII come in pairs of a small one and a capital one
(`toLower_of_isUpper`, `toUpper_of_isLower`).
-/

namespace CardRules.Text

/-! ## Ranges -/

theorem Ranges.exists_of_holds {rs : Ranges} {n : Nat} (h : rs.holds n = true) :
    ∃ r ∈ rs, r.1 ≤ n ∧ n ≤ r.2 := by
  induction rs with
  | nil => cases h
  | cons r rs ih =>
    obtain ⟨lo, hi⟩ := r
    rw [Ranges.holds] at h
    split at h
    · rename_i hle
      exact ⟨(lo, hi), List.mem_cons_self, of_decide_eq_true h, hle⟩
    · obtain ⟨r, hr, hbounds⟩ := ih h
      exact ⟨r, List.mem_cons_of_mem _ hr, hbounds⟩

/-- The ranges of blanks, the information separators first. -/
def blankRanges : Ranges := (0x1c, 0x1f) :: whiteSpace

/-- The ranges of digit marks, the decimal digits first. -/
def digitRanges : Ranges := decimalZeros.map (fun z => (z, z + 9)) ++ placelessDigits

variable {c : Char}

theorem exists_range_of_isBlank (h : isBlank c = true) :
    ∃ r ∈ blankRanges, r.1 ≤ c.toNat ∧ c.toNat ≤ r.2 := by
  rcases Bool.or_eq_true_iff.1 h with h | h
  · obtain ⟨r, hr, hbounds⟩ := Ranges.exists_of_holds h
    exact ⟨r, List.mem_cons_of_mem _ hr, hbounds⟩
  · obtain ⟨hlo, hhi⟩ := Bool.and_eq_true_iff.1 h
    exact ⟨_, List.mem_cons_self, of_decide_eq_true hlo, of_decide_eq_true hhi⟩

theorem exists_range_of_isDigitMark (h : isDigitMark c = true) :
    ∃ r ∈ digitRanges, r.1 ≤ c.toNat ∧ c.toNat ≤ r.2 := by
  rcases Bool.or_eq_true_iff.1 h with h | h
  · rw [isDecimalDigit, digitValue?, Option.isSome_map, List.find?_isSome] at h
    obtain ⟨z, hz, hbounds⟩ := h
    obtain ⟨hlo, hhi⟩ := Bool.and_eq_true_iff.1 hbounds
    refine ⟨(z, z + 9), List.mem_append_left _ (List.mem_map.2 ⟨z, hz, rfl⟩),
      of_decide_eq_true hlo, Nat.le_of_lt_succ (of_decide_eq_true hhi)⟩
  · obtain ⟨r, hr, hbounds⟩ := Ranges.exists_of_holds h
    exact ⟨r, List.mem_append_right _ hr, hbounds⟩

/-- A blank is no digit. -/
theorem isDigitMark_of_isBlank (h : isBlank c = true) : isDigitMark c = false := by
  have hapart : ∀ r ∈ blankRanges, ∀ r' ∈ digitRanges, r.2 < r'.1 ∨ r'.2 < r.1 := by
    decide +kernel
  cases hdigit : isDigitMark c with
  | false => rfl
  | true =>
    obtain ⟨r, hr, hlo, hhi⟩ := exists_range_of_isBlank h
    obtain ⟨r', hr', hlo', hhi'⟩ := exists_range_of_isDigitMark hdigit
    have := hapart r hr r' hr'
    omega

theorem isDecimalDigit_of_isBlank (h : isBlank c = true) : isDecimalDigit c = false :=
  (Bool.or_eq_false_iff.1 (isDigitMark_of_isBlank h)).1

/-- A digit is no blank. -/
theorem isBlank_of_isDigitMark (h : isDigitMark c = true) : isBlank c = false := by
  cases hc : isBlank c with
  | false => rfl
  | true => exact absurd h (by simp [isDigitMark_of_isBlank hc])

theorem isDigitMark_of_isDecimalDigit (h : isDecimalDigit c = true) : isDigitMark c = true :=
  Bool.or_eq_true_iff.2 (.inl h)

/-! ## Letters -/

theorem toNat_of_isUpper (h : c.isUpper = true) : 65 ≤ c.toNat ∧ c.toNat ≤ 90 :=
  of_decide_eq_true h

theorem toNat_of_isLower (h : c.isLower = true) : 97 ≤ c.toNat ∧ c.toNat ≤ 122 := by
  obtain ⟨hfirst, hlast⟩ := Bool.and_eq_true_iff.1 h
  exact ⟨of_decide_eq_true hfirst, of_decide_eq_true hlast⟩

theorem ascii_of_isUpper (h : c.isUpper = true) : c.toNat < 0x80 :=
  Nat.lt_of_le_of_lt (toNat_of_isUpper h).2 (by decide)

theorem ascii_of_isLower (h : c.isLower = true) : c.toNat < 0x80 :=
  Nat.lt_of_le_of_lt (toNat_of_isLower h).2 (by decide)

/-- What holds of the characters of ASCII one by one holds of each of them. -/
theorem of_ascii {motive : Char → Prop} (h : ∀ n < 0x80, motive (Char.ofNat n))
    (hc : c.toNat < 0x80) : motive c := by
  rw [← Char.ofNat_toNat c]
  exact h _ hc

/-- A capital letter is the one of its small letter. -/
theorem toLower_of_isUpper (h : c.isUpper = true) :
    c.toLower.isLower = true ∧ c.toLower.toUpper = c :=
  of_ascii (motive := fun c => c.isUpper = true →
    c.toLower.isLower = true ∧ c.toLower.toUpper = c) (by decide) (ascii_of_isUpper h) h

/-- A small letter is the one of its capital letter. -/
theorem toUpper_of_isLower (h : c.isLower = true) :
    c.toUpper.isUpper = true ∧ c.toUpper.toLower = c :=
  of_ascii (motive := fun c => c.isLower = true →
    c.toUpper.isUpper = true ∧ c.toUpper.toLower = c) (by decide) (ascii_of_isLower h) h

/-! ## Texts without what is around them -/

/-- The text is `inner` among characters of a class. -/
def Among (p : Char → Bool) (inner cs : List Char) : Prop :=
  ∃ before behind, cs = before ++ inner ++ behind ∧ (∀ c ∈ before, p c = true) ∧
    ∀ c ∈ behind, p c = true

section

variable {p q : Char → Bool} {inner cs : List Char}

/-- What is taken off a text is of the class. -/
theorem among_trimBy (p : Char → Bool) (cs : List Char) : Among p (trimBy p cs) cs := by
  have htake (cs : List Char) : ∀ c ∈ cs.takeWhile p, p c = true := fun _ hc =>
    List.mem_takeWhile_imp hc
  have hfront : cs = cs.takeWhile p ++ cs.dropWhile p := List.takeWhile_append_dropWhile.symm
  have hback : cs.dropWhile p = trimBy p cs ++ ((cs.dropWhile p).reverse.takeWhile p).reverse := by
    rw [trimBy, ← List.reverse_append, List.takeWhile_append_dropWhile, List.reverse_reverse]
  refine ⟨cs.takeWhile p, ((cs.dropWhile p).reverse.takeWhile p).reverse, ?_, htake cs,
    fun c hc => htake _ c (List.mem_reverse.1 hc)⟩
  rw [List.append_assoc, ← hback, ← hfront]

theorem dropWhile_of_none (h : ∀ c ∈ cs, p c = false) : cs.dropWhile p = cs := by
  cases cs with
  | nil => rfl
  | cons c cs => rw [List.dropWhile_cons_of_neg (by simp [h c List.mem_cons_self])]

namespace Among

/-- A text without characters of the class is what remains of it among such characters. -/
theorem trimBy_eq (h : Among p inner cs) (hinner : ∀ c ∈ inner, p c = false) :
    trimBy p cs = inner := by
  obtain ⟨before, behind, rfl, hbefore, hbehind⟩ := h
  have hfront : (before ++ inner ++ behind).dropWhile p = (inner ++ behind).dropWhile p := by
    rw [List.append_assoc, List.dropWhile_append_of_pos hbefore]
  have hback : (inner.reverse).dropWhile p = inner.reverse :=
    dropWhile_of_none fun c hc => hinner c (List.mem_reverse.1 hc)
  rw [trimBy, hfront]
  cases inner with
  | nil => rw [List.nil_append, List.dropWhile_eq_nil_iff.2 hbehind]; rfl
  | cons c inner =>
    have hc : ¬ p c = true := by simp [hinner c List.mem_cons_self]
    rw [List.cons_append, List.dropWhile_cons_of_neg hc, ← List.cons_append, List.reverse_append,
      List.dropWhile_append_of_pos fun d hd => hbehind d (List.mem_reverse.1 hd), hback,
      List.reverse_reverse]

/-- What is among characters of a class is among characters of a wider one. -/
theorem wider (h : Among p inner cs) (hpq : ∀ c, p c = true → q c = true) : Among q inner cs := by
  obtain ⟨before, behind, hcs, hbefore, hbehind⟩ := h
  exact ⟨before, behind, hcs, fun c hc => hpq c (hbefore c hc), fun c hc => hpq c (hbehind c hc)⟩

end Among

end

end CardRules.Text
