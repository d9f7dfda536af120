import CardRules.Proofs.Expr.Paths
import Mathlib.Data.List.TakeWhile

/-!
# The lexical grammar

`IsLexeme w l` says which characters spell which lexeme, by one rule for each class of tokens and
without a scanner. The scanner takes the longest spelling that a text begins with
(`lexeme?_eq_some_iff`), and it finds none just if none starts there (`lexeme?_eq_none_iff`). In
front of a character that closes tokens each spelling is taken as it is (`IsLexeme.closed`).
-/

namespace CardRules.Expr

open Text

/-! ## The grammar -/

/-- The characters between two quotation marks, and those they stand for. -/
inductive Quotes (q : Char) : List Char → List Char → Prop
  | nil : Quotes q [] []
  | plain {c : Char} (hq : c ≠ q) (hslash : c ≠ '\\') {body cs : List Char}
      (h : Quotes q body cs) : Quotes q (c :: body) (c :: cs)
  | escaped {c : Char} (hbreak : c ≠ '\n') {body cs : List Char} (h : Quotes q body cs) :
      Quotes q ('\\' :: c :: body) (unescapedChar c :: cs)

/-- The characters spell the lexeme. -/
inductive IsLexeme : List Char → Lexeme → Prop
  | whole {ds : List Char} (hne : ds ≠ []) (hds : ∀ d ∈ ds, isDecimalDigit d = true) :
      IsLexeme ds (.number (.int (digitsValue ds)))
  | fraction {ds ps : List Char} (hne : ds ≠ []) (hds : ∀ d ∈ ds, isDecimalDigit d = true)
      (hne' : ps ≠ []) (hps : ∀ d ∈ ps, isDecimalDigit d = true) :
      IsLexeme (ds ++ '.' :: ps)
        (.number (.float (.ofDecimal false (digitsValue (ds ++ ps)) (-ps.length))))
  | text {q : Char} (hq : q = '"' ∨ q = '\'') {body cs : List Char} (h : Quotes q body cs) :
      IsLexeme (q :: (body ++ [q])) (.text (String.ofList cs))
  | word {c : Char} {cs : List Char} (hc : startsWord c = true)
      (hcs : ∀ d ∈ cs, continuesWord d = true) :
      IsLexeme (c :: cs) (wordLexeme (String.ofList (c :: cs)))
  | symbol {w : List Char} {s : Symbol} (h : (w, s) ∈ symbolSpellings) : IsLexeme w (.symbol s)

/-- The longest spelling that the text begins with spells the lexeme. -/
structure Leads (cs w : List Char) (l : Lexeme) : Prop where
  spells : IsLexeme w l
  start : w <+: cs
  longest : ∀ w' l', IsLexeme w' l' → w' <+: cs → w'.length ≤ w.length

variable {cs w body rest : List Char} {l : Lexeme} {x : Lexeme × List Char}

/-! ## Quoted texts -/

namespace Quotes

variable {q : Char}

theorem unescape (h : Quotes q body cs) : Expr.unescape body = cs := by
  induction h with
  | nil => rfl
  | @plain c _ hslash body cs _ ih =>
    have hcons : Expr.unescape (c :: body) = c :: Expr.unescape body := by
      rw [Expr.unescape]
      rintro d ds rfl
      exact absurd rfl hslash
    rw [hcons, ih]
  | escaped _ _ ih => rw [Expr.unescape, ih]

theorem quotedBody? (h : Quotes q body cs) (hq : q ≠ '\\') (rest : List Char) :
    Expr.quotedBody? q (body ++ q :: rest) = some body := by
  induction h with
  | nil => rw [List.nil_append, quotedBody?_cons hq, if_pos rfl]
  | plain hne hslash _ ih =>
    rw [List.cons_append, quotedBody?_cons hslash, if_neg hne, ih, Option.map_some]
  | escaped hbreak _ ih =>
    rw [List.cons_append, List.cons_append, Expr.quotedBody?, if_neg hbreak, ih, Option.map_some]

theorem of_quotedBody? (h : Expr.quotedBody? q cs = some body) :
    Quotes q body (Expr.unescape body) := by
  fun_induction Expr.quotedBody? q cs generalizing body with
  | case1 => cases h
  | case2 cs => cases h
  | case3 c cs hbreak ih =>
    obtain ⟨body, hb, rfl⟩ := Option.map_eq_some_iff.1 h
    rw [Expr.unescape]
    exact .escaped hbreak (ih hb)
  | case4 cs _ =>
    cases h
    exact .nil
  | case5 c cs hlast hq ih =>
    obtain ⟨body, hb, rfl⟩ := Option.map_eq_some_iff.1 h
    have hslash : c ≠ '\\' := by
      rintro rfl
      cases cs with
      | nil => cases hb
      | cons d ds => exact hlast d ds rfl rfl
    have hplain := Quotes.plain hq hslash (ih hb)
    rwa [← hplain.unescape] at hplain

end Quotes

theorem quote_ne_backslash {q : Char} (hq : q = '"' ∨ q = '\'') : q ≠ '\\' := by
  rcases hq with rfl | rfl <;> decide

/-! ## What is scanned is spelled so -/

theorem number?_isLexeme (h : number? cs = some x) : IsLexeme x.2 x.1 := by
  have hdigits (cs : List Char) : ∀ d ∈ cs.takeWhile isDecimalDigit, isDecimalDigit d = true :=
    fun _ hd => List.mem_takeWhile_imp hd
  unfold number? at h
  dsimp only at h
  split at h
  · cases h
  rename_i hwhole
  have hne : cs.takeWhile isDecimalDigit ≠ [] := by simpa using hwhole
  split at h
  · split at h
    · cases h
      exact .whole hne (hdigits cs)
    · rename_i hplaces
      cases h
      exact .fraction hne (hdigits cs) (by simpa using hplaces) (hdigits _)
  · cases h
    exact .whole hne (hdigits cs)

theorem text?_isLexeme (h : text? cs = some x) : IsLexeme x.2 x.1 := by
  cases cs with
  | nil => cases h
  | cons q cs =>
    simp only [text?] at h
    split at h
    · rename_i hq
      obtain ⟨body, hbody, rfl⟩ := Option.map_eq_some_iff.1 h
      exact .text (by simpa using hq) (.of_quotedBody? hbody)
    · cases h

theorem word?_isLexeme (h : word? cs = some x) : IsLexeme x.2 x.1 := by
  cases cs with
  | nil => cases h
  | cons c cs =>
    simp only [word?] at h
    split at h
    · rename_i hc
      cases h
      exact .word hc fun d hd => List.mem_takeWhile_imp hd
    · cases h

theorem symbol?_isLexeme (h : symbol? cs = some x) : IsLexeme x.2 x.1 := by
  obtain ⟨s, hs, rfl⟩ := Option.map_eq_some_iff.1 h
  exact .symbol (List.mem_of_find?_eq_some hs)

theorem lexeme?_isLexeme (h : lexeme? cs = some x) : IsLexeme x.2 x.1 := by
  unfold lexeme? at h
  rcases Option.or_eq_some_iff.1 h with h | ⟨-, h⟩
  · exact number?_isLexeme h
  rcases Option.or_eq_some_iff.1 h with h | ⟨-, h⟩
  · exact text?_isLexeme h
  rcases Option.or_eq_some_iff.1 h with h | ⟨-, h⟩
  · exact word?_isLexeme h
  · exact symbol?_isLexeme h

/-! ## What is spelled so is scanned -/

/-- A scan gives the lexeme with its spelling, or one with a longer spelling. -/
def Reaches (w : List Char) (l : Lexeme) (scan : Option (Lexeme × List Char)) : Prop :=
  ∃ x, scan = some x ∧ (x = (l, w) ∨ w.length < x.2.length)

theorem Reaches.longer {tail : List Char} {l' : Lexeme} (h : tail = [] → l' = l) :
    Reaches w l (some (l', w ++ tail)) := by
  refine ⟨_, rfl, ?_⟩
  cases tail with
  | nil => exact .inl (by rw [h rfl, List.append_nil])
  | cons c tail => exact .inr (by simp)

theorem number?_whole {ds : List Char} (hne : ds ≠ [])
    (hds : ∀ d ∈ ds, isDecimalDigit d = true) (rest : List Char) :
    Reaches ds (.number (.int (digitsValue ds))) (number? (ds ++ rest)) := by
  unfold number?
  rw [List.takeWhile_append_of_pos hds, List.dropWhile_append_of_pos hds]
  dsimp only
  rw [if_neg (by simp [hne])]
  split
  · split
    · exact .longer fun h => by rw [h, List.append_nil]
    · rw [List.append_assoc ds _ ('.' :: _)]
      exact .longer fun h => by simp at h
  · exact .longer fun h => by rw [h, List.append_nil]

theorem number?_fraction {ds ps : List Char} (hne : ds ≠ [])
    (hds : ∀ d ∈ ds, isDecimalDigit d = true) (hne' : ps ≠ [])
    (hps : ∀ d ∈ ps, isDecimalDigit d = true) (rest : List Char) :
    Reaches (ds ++ '.' :: ps)
      (.number (.float (.ofDecimal false (digitsValue (ds ++ ps)) (-ps.length))))
      (number? (ds ++ '.' :: ps ++ rest)) := by
  have hdot : ∀ c ∈ ('.' :: (ps ++ rest)).head?, isDecimalDigit c = false := by
    rintro c ⟨⟩
    decide +kernel
  have htake : (ds ++ '.' :: ps ++ rest).takeWhile isDecimalDigit = ds := by
    rw [List.append_assoc, List.cons_append, takeWhile_append_of_head hdot,
      List.takeWhile_eq_self_iff.2 hds]
  have hdrop : (ds ++ '.' :: ps ++ rest).dropWhile isDecimalDigit = '.' :: (ps ++ rest) := by
    rw [List.append_assoc, List.cons_append, dropWhile_append_of_head hdot,
      List.dropWhile_eq_nil_iff.2 hds, List.nil_append]
  have hplaces : (ps ++ rest).takeWhile isDecimalDigit = ps ++ rest.takeWhile isDecimalDigit :=
    List.takeWhile_append_of_pos hps
  simp only [number?, htake, hdrop, hplaces]
  rw [if_neg (by simp [hne]), if_neg (by simp [hne']), ← List.cons_append,
    ← List.append_assoc ds ('.' :: ps)]
  exact .longer fun h => by rw [h, List.append_nil]

theorem word?_reaches {c : Char} (hc : startsWord c = true)
    (hcs : ∀ d ∈ cs, continuesWord d = true) (rest : List Char) :
    Reaches (c :: cs) (wordLexeme (String.ofList (c :: cs))) (word? (c :: cs ++ rest)) := by
  rw [List.cons_append, word?, if_pos hc, List.takeWhile_append_of_pos hcs]
  exact .longer (w := c :: cs) fun h => by rw [h, List.append_nil]

/-- The table of symbols goes from longer spellings to shorter ones and has none twice. -/
theorem symbolSpellings_sorted :
    symbolSpellings.Pairwise fun s s' => s'.1.length ≤ s.1.length ∧ s'.1 ≠ s.1 := by decide

theorem symbol?_reaches {s : Symbol} (h : (w, s) ∈ symbolSpellings) (rest : List Char) :
    Reaches w (.symbol s) (symbol? (w ++ rest)) := by
  have hw : w <+: w ++ rest := List.prefix_append w rest
  unfold symbol?
  cases hfind : symbolSpellings.find? (fun s => s.1.isPrefixOf (w ++ rest)) with
  | none => exact absurd (List.isPrefixOf_iff_prefix.2 hw) (List.find?_eq_none.1 hfind _ h)
  | some s' =>
    refine ⟨_, rfl, ?_⟩
    obtain ⟨hstart, front, back, htable, hfront⟩ := List.find?_eq_some_iff_append.1 hfind
    have hsorted := htable ▸ symbolSpellings_sorted
    rw [htable] at h
    rcases List.mem_append.1 h with h | h
    · have hnot := hfront _ h
      rw [List.isPrefixOf_iff_prefix.2 hw] at hnot
      cases hnot
    · rcases List.mem_cons.1 h with rfl | h
      · exact .inl rfl
      · -- a later spelling of the same length would be the same
        obtain ⟨hle, hne⟩ := (List.pairwise_cons.1 (List.pairwise_append.1 hsorted).2.1).1 _ h
        refine .inr (Nat.lt_of_le_of_ne hle fun hlen => hne ?_)
        exact (List.prefix_of_prefix_length_le hw (List.isPrefixOf_iff_prefix.1 hstart)
          hle).eq_of_length hlen

/-- The first character of a symbol's spelling begins nothing else. -/
theorem symbolSpellings_heads {c : Char} {tail : List Char} {s : Symbol}
    (h : (c :: tail, s) ∈ symbolSpellings) :
    isDecimalDigit c = false ∧ startsWord c = false ∧ isBlank c = false ∧ c ≠ '"' ∧ c ≠ '\'' := by
  have hall : symbolSpellings.all (fun s => s.1.head?.all fun c =>
      !isDecimalDigit c && !startsWord c && !isBlank c && c != '"' && c != '\'') = true := by
    decide +kernel
  simpa [and_assoc] using List.all_eq_true.1 hall _ h

theorem number?_eq_none {c : Char} (hc : isDecimalDigit c = false) (cs : List Char) :
    number? (c :: cs) = none := by simp [number?, hc]

theorem text?_eq_none {c : Char} (hc : ¬ (c = '"' ∨ c = '\'')) (cs : List Char) :
    text? (c :: cs) = none := by simp [text?, hc]

/-- At the beginning of a spelling the scanner finds it or a longer one, whatever follows. -/
theorem IsLexeme.reaches (h : IsLexeme w l) (rest : List Char) :
    Reaches w l (lexeme? (w ++ rest)) := by
  have hnumber (hn : Reaches w l (number? (w ++ rest))) : Reaches w l (lexeme? (w ++ rest)) := by
    obtain ⟨x, hx, hreach⟩ := hn
    exact ⟨x, by rw [lexeme?, hx, Option.some_or], hreach⟩
  cases h with
  | whole hne hds => exact hnumber (number?_whole hne hds rest)
  | fraction hne hds hne' hps => exact hnumber (number?_fraction hne hds hne' hps rest)
  | @text q hq body cs h =>
    refine ⟨_, ?_, .inl rfl⟩
    have hbody := h.quotedBody? (quote_ne_backslash hq) rest
    rw [List.cons_append, List.append_assoc, lexeme?_quote hq, text?, if_pos (by simpa using hq),
      List.singleton_append, hbody, Option.map_some, h.unescape]
    rfl
  | @word c cs hc hcs =>
    have hword := word?_reaches hc hcs rest
    rw [List.cons_append] at hword ⊢
    obtain ⟨x, hx, hreach⟩ := hword
    refine ⟨x, ?_, hreach⟩
    rw [lexeme?, number?_eq_none (startsWord_not_digit hc),
      text?_eq_none (startsWord_not_quote hc), hx, Option.none_or, Option.none_or, Option.some_or]
  | symbol h =>
    obtain ⟨c, tail, hw, -⟩ := mem_symbolSpellings h
    obtain rfl : w = c :: tail := hw
    obtain ⟨hdigit, hstart, -, hquote, hquote'⟩ := symbolSpellings_heads h
    have hsymbol := symbol?_reaches h rest
    rw [List.cons_append] at hsymbol ⊢
    have hword : word? (c :: (tail ++ rest)) = none := by simp [word?, hstart]
    rw [lexeme?, number?_eq_none hdigit, text?_eq_none (by simp [hquote, hquote']), hword]
    exact hsymbol

/-! ## The longest spelling -/

theorem IsLexeme.ne_nil (h : IsLexeme w l) : w ≠ [] := by
  cases h with
  | whole hne => exact hne
  | fraction => simp
  | text => simp
  | word => simp
  | symbol h =>
    obtain ⟨c, tail, hw, -⟩ := mem_symbolSpellings h
    simp [show w = c :: tail from hw]

theorem IsLexeme.ne_finish (h : IsLexeme w l) : l ≠ .finish := by
  cases h with
  | word => exact wordLexeme_ne_finish _
  | whole | fraction | text | symbol => simp

/-- The scanner takes the longest spelling at the beginning of a text. -/
theorem lexeme?_eq_some_iff : lexeme? cs = some (l, w) ↔ Leads cs w l := by
  constructor
  · intro h
    refine ⟨lexeme?_isLexeme h, (lexeme?_spelled h).1, fun w' l' hw' hstart => ?_⟩
    obtain ⟨rest, rfl⟩ := hstart
    obtain ⟨x, hx, hreach⟩ := hw'.reaches rest
    cases h.symm.trans hx
    rcases hreach with hreach | hlt
    · cases hreach
      exact Nat.le_refl _
    · exact Nat.le_of_lt hlt
  · rintro ⟨hspells, ⟨rest, rfl⟩, hlongest⟩
    obtain ⟨x, hx, rfl | hlt⟩ := hspells.reaches rest
    · exact hx
    · have hle := hlongest x.2 x.1 (lexeme?_isLexeme hx) (lexeme?_spelled hx).1
      exact absurd hlt (Nat.not_lt.2 hle)

/-- The scanner finds nothing just if no spelling begins there. -/
theorem lexeme?_eq_none_iff : lexeme? cs = none ↔ ∀ w l, IsLexeme w l → ¬ w <+: cs := by
  constructor
  · rintro h w l hw ⟨rest, rfl⟩
    obtain ⟨x, hx, -⟩ := hw.reaches rest
    rw [h] at hx
    cases hx
  · intro h
    cases hx : lexeme? cs with
    | none => rfl
    | some x => exact absurd (lexeme?_spelled hx).1 (h _ _ (lexeme?_isLexeme hx))

/-- In front of what closes tokens a spelling is the longest one. -/
theorem IsLexeme.closed (h : IsLexeme w l) (hrest : Closed rest) : Leads (w ++ rest) w l := by
  have hself : lexeme? w = some (l, w) := by
    obtain ⟨x, hx, hreach⟩ := h.reaches []
    rw [List.append_nil] at hx
    rcases hreach with rfl | hlt
    · exact hx
    · exact absurd hlt (Nat.not_lt.2 (lexeme?_spelled hx).1.length_le)
  exact lexeme?_eq_some_iff.1 (lexeme?_append hrest hself)

/-- What a text begins with is the same in a part of the text that goes on that far. -/
theorem Leads.of_append {back : List Char} (h : Leads (cs ++ back) w l) (hstart : w <+: cs) :
    Leads cs w l :=
  ⟨h.spells, hstart, fun w' l' hw' hstart' =>
    h.longest w' l' hw' (hstart'.trans (List.prefix_append cs back))⟩

end CardRules.Expr
