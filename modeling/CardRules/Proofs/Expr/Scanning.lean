import CardRules.Proofs.Expr.Grammar
import Mathlib.Data.List.Find

/-!
# Scanning a text in parts

What a text is cut into does not depend on what follows it, as long as that begins with a character
that *closes* tokens: one that no number, word or operator before it can go on with, such as a blank
or a bracket (`lexeme?_append`). So the tokens of a text that is put together from parts are those
of its parts (`Spells.append`, `Spells.parenthesized`), each moved to where its part begins.
-/

namespace CardRules.Expr

open Text

/-! ## Characters that close tokens -/

/-- No number, word or operator goes on with the character. -/
def Closes (c : Char) : Prop :=
  isDecimalDigit c = false ∧ continuesWord c = false ∧ c ∉ ['.', '=', '&', '|']

instance : DecidablePred Closes := fun _ => inferInstanceAs (Decidable (_ ∧ _ ∧ _))

/-- The text is empty or begins with a character that closes tokens. -/
def Closed (cs : List Char) : Prop := ∀ c ∈ cs.head?, Closes c

@[simp] theorem closed_nil : Closed [] := by simp [Closed]

@[simp] theorem closed_cons {c : Char} {cs : List Char} : Closed (c :: cs) ↔ Closes c := by
  simp [Closed]

section

variable {α : Type} {p : α → Bool} {xs ys : List α}

theorem takeWhile_append_of_head (h : ∀ y ∈ ys.head?, p y = false) :
    (xs ++ ys).takeWhile p = xs.takeWhile p := by
  induction xs with
  | nil =>
    cases ys with
    | nil => rfl
    | cons y ys => simp [h y rfl]
  | cons x xs ih => cases hx : p x <;> simp [hx, ih]

theorem dropWhile_append_of_head (h : ∀ y ∈ ys.head?, p y = false) :
    (xs ++ ys).dropWhile p = xs.dropWhile p ++ ys := by
  induction xs with
  | nil =>
    cases ys with
    | nil => rfl
    | cons y ys => simp [h y rfl]
  | cons x xs ih => cases hx : p x <;> simp [hx, ih]

end

variable {cs ds rest : List Char}

/-! ## One token -/

theorem number?_append (hrest : Closed rest) : number? (cs ++ rest) = number? cs := by
  have hdigit : ∀ c ∈ rest.head?, isDecimalDigit c = false := fun c hc => (hrest c hc).1
  unfold number?
  rw [takeWhile_append_of_head hdigit, dropWhile_append_of_head hdigit]
  cases hd : cs.dropWhile isDecimalDigit with
  | nil =>
    cases rest with
    | nil => rfl
    | cons c rest =>
      have hdot : c ≠ '.' := by
        rintro rfl
        exact (hrest _ rfl).2.2 (by decide)
      simp [hdot]
  | cons c ds =>
    by_cases hdot : c = '.'
    · subst hdot
      simp only [List.cons_append, takeWhile_append_of_head hdigit]
    · simp [hdot]

theorem quotedBody?_cons {quote c : Char} (hc : c ≠ '\\') (cs : List Char) :
    quotedBody? quote (c :: cs) =
      if c = quote then some [] else (quotedBody? quote cs).map (c :: ·) := by
  rw [quotedBody?]
  rintro c' cs' rfl
  exact absurd rfl hc

theorem quotedBody?_append {quote : Char} (hquote : quote ≠ '\\') {body : List Char}
    (h : quotedBody? quote cs = some body) : quotedBody? quote (cs ++ rest) = some body := by
  fun_induction quotedBody? quote cs generalizing body with
  | case1 => cases h
  | case2 cs => cases h
  | case3 c cs hc ih =>
    obtain ⟨body, hb, rfl⟩ := Option.map_eq_some_iff.1 h
    simp [quotedBody?, hc, ih hb]
  | case4 cs _ =>
    rw [List.cons_append, quotedBody?_cons hquote, if_pos rfl]
    exact h
  | case5 c cs hlast hc ih =>
    obtain ⟨body, hb, rfl⟩ := Option.map_eq_some_iff.1 h
    -- a backslash that is followed by nothing ends no text
    have hslash : c ≠ '\\' := by
      rintro rfl
      cases cs with
      | nil => cases hb
      | cons c cs => exact hlast c cs rfl rfl
    rw [List.cons_append, quotedBody?_cons hslash, if_neg hc, ih hb, Option.map_some]

theorem quotedBody?_prefix {quote : Char} {body : List Char}
    (h : quotedBody? quote cs = some body) : body ++ [quote] <+: cs := by
  fun_induction quotedBody? quote cs generalizing body with
  | case1 => cases h
  | case2 cs => cases h
  | case3 c cs hc ih =>
    obtain ⟨body, hb, rfl⟩ := Option.map_eq_some_iff.1 h
    simpa using ih hb
  | case4 cs _ =>
    cases h
    simp
  | case5 c cs _ hc ih =>
    obtain ⟨body, hb, rfl⟩ := Option.map_eq_some_iff.1 h
    simpa using ih hb

/-- The characters of operators behind their first. -/
theorem mem_symbolSpellings {s : List Char × Symbol} (hs : s ∈ symbolSpellings) :
    ∃ c tail, s.1 = c :: tail ∧ ∀ d ∈ tail, d ∈ ['=', '&', '|'] := by
  have hall : symbolSpellings.all (fun s =>
      !s.1.isEmpty && s.1.tail.all (['=', '&', '|'].contains ·)) = true := by decide
  have h := List.all_eq_true.1 hall s hs
  cases hsp : s.1 with
  | nil => simp [hsp] at h
  | cons c tail => exact ⟨c, tail, rfl, by simpa [hsp] using h⟩

theorem isPrefixOf_append (hrest : Closed rest) {sp : List Char}
    (hsp : ∀ d ∈ sp, d ∈ ['=', '&', '|']) : sp.isPrefixOf (cs ++ rest) = sp.isPrefixOf cs := by
  induction sp generalizing cs with
  | nil => simp
  | cons d sp ih =>
    cases cs with
    | nil =>
      cases rest with
      | nil => rfl
      | cons c rest =>
        have hne : d ≠ c := by
          rintro rfl
          exact (hrest _ rfl).2.2 (List.mem_cons_of_mem _ (hsp _ List.mem_cons_self))
        simp [List.isPrefixOf, hne]
    | cons c cs =>
      simp [List.isPrefixOf, ih fun e he => hsp e (List.mem_cons_of_mem _ he)]

theorem symbol?_append (hrest : Closed rest) (hcs : cs ≠ []) :
    symbol? (cs ++ rest) = symbol? cs := by
  obtain ⟨c, cs, rfl⟩ := List.exists_cons_of_ne_nil hcs
  unfold symbol?
  have hfind : symbolSpellings.find? (fun s => s.1.isPrefixOf (c :: cs ++ rest)) =
      symbolSpellings.find? (fun s => s.1.isPrefixOf (c :: cs)) := by
    refine List.find?_congr fun s hs => ?_
    obtain ⟨d, tail, hsp, htail⟩ := mem_symbolSpellings hs
    simp [hsp, List.isPrefixOf, isPrefixOf_append hrest htail]
  rw [hfind]

theorem word?_append (hrest : Closed rest) (hcs : cs ≠ []) : word? (cs ++ rest) = word? cs := by
  obtain ⟨c, cs, rfl⟩ := List.exists_cons_of_ne_nil hcs
  simp only [word?, List.cons_append]
  rw [takeWhile_append_of_head fun c hc => (hrest c hc).2.1]

theorem text?_append {x : Lexeme × List Char} (h : text? cs = some x) :
    text? (cs ++ rest) = some x := by
  cases cs with
  | nil => cases h
  | cons q cs =>
    simp only [text?, List.cons_append] at h ⊢
    split at h
    · rename_i hq
      obtain ⟨body, hbody, rfl⟩ := Option.map_eq_some_iff.1 h
      have hslash : q ≠ '\\' := by
        rintro rfl
        revert hq
        decide
      rw [if_pos hq, quotedBody?_append hslash hbody, Option.map_some]
    · cases h

/-- A quotation mark begins a quoted text and nothing else. -/
theorem lexeme?_quote {q : Char} (hq : q = '"' ∨ q = '\'') (cs : List Char) :
    lexeme? (q :: cs) = text? (q :: cs) := by
  have hnumber : number? (q :: cs) = none := by
    have hdigit : isDecimalDigit q = false := by rcases hq with rfl | rfl <;> decide +kernel
    simp [number?, hdigit]
  have hword : word? (q :: cs) = none := by
    have hstart : startsWord q = false := by rcases hq with rfl | rfl <;> decide
    simp [word?, hstart]
  have hsymbol : symbol? (q :: cs) = none := by
    rcases hq with rfl | rfl <;> rfl
  rw [lexeme?, hnumber, hword, hsymbol]
  simp

/-- The token at the start of a text is the same in front of what closes tokens. -/
theorem lexeme?_append (hrest : Closed rest) {x : Lexeme × List Char} (h : lexeme? cs = some x) :
    lexeme? (cs ++ rest) = some x := by
  cases cs with
  | nil => cases h
  | cons c cs =>
    by_cases hq : c = '"' ∨ c = '\''
    · rw [lexeme?_quote hq] at h
      rw [List.cons_append, lexeme?_quote hq]
      exact (text?_append h : text? ((c :: cs) ++ rest) = some x)
    · have htext (ds : List Char) : text? (c :: ds) = none := by simp [text?, hq]
      rw [lexeme?, number?_append hrest, word?_append hrest (by simp),
        symbol?_append hrest (by simp), List.cons_append, htext]
      rwa [lexeme?, htext] at h

/-- An opening parenthesis is a token of its own, whatever follows it. -/
theorem lexeme?_openParen (cs : List Char) :
    lexeme? ('(' :: cs) = some (.symbol .openParen, ['(']) := by
  have hdigit : isDecimalDigit '(' = false := by decide +kernel
  have hnumber : number? ('(' :: cs) = none := by simp [number?, hdigit]
  rw [lexeme?, hnumber]
  rfl

/-! ## Spellings -/

/-- The token is spelled by the first characters of the text, at least by one, and ends no text. -/
def SpelledIn (cs : List Char) (x : Lexeme × List Char) : Prop :=
  x.2 <+: cs ∧ x.2 ≠ [] ∧ x.1 ≠ .finish

variable {x : Lexeme × List Char}

theorem number?_spelled (h : number? cs = some x) : SpelledIn cs x := by
  unfold number? at h
  have hcs : cs.takeWhile isDecimalDigit ++ cs.dropWhile isDecimalDigit = cs :=
    List.takeWhile_append_dropWhile
  cases hwhole : cs.takeWhile isDecimalDigit with
  | nil => simp [hwhole] at h
  | cons d whole =>
    have hstart : d :: whole <+: cs := hwhole ▸ List.takeWhile_prefix _
    simp only [hwhole, List.isEmpty_cons, Bool.false_eq_true, if_false] at h
    split at h
    · rename_i rest hrest
      split at h
      · cases h
        exact ⟨hstart, by simp, by simp⟩
      · cases h
        refine ⟨?_, by simp, by simp⟩
        rw [hwhole, hrest] at hcs
        rw [← hcs]
        exact (List.prefix_append_right_inj _).2
          ((List.cons_prefix_cons).2 ⟨rfl, List.takeWhile_prefix _⟩)
    · cases h
      exact ⟨hstart, by simp, by simp⟩

theorem text?_spelled (h : text? cs = some x) : SpelledIn cs x := by
  cases cs with
  | nil => cases h
  | cons q cs =>
    simp only [text?] at h
    split at h
    · obtain ⟨body, hbody, rfl⟩ := Option.map_eq_some_iff.1 h
      exact ⟨List.cons_prefix_cons.2 ⟨rfl, quotedBody?_prefix hbody⟩, by simp, by simp⟩
    · cases h

theorem wordLexeme_ne_finish (s : String) : wordLexeme s ≠ .finish := by
  unfold wordLexeme
  split
  · simp
  · split <;> simp

theorem word?_spelled (h : word? cs = some x) : SpelledIn cs x := by
  cases cs with
  | nil => cases h
  | cons c cs =>
    simp only [word?] at h
    split at h
    · cases h
      exact ⟨List.cons_prefix_cons.2 ⟨rfl, List.takeWhile_prefix _⟩, by simp,
        wordLexeme_ne_finish _⟩
    · cases h

theorem symbol?_spelled (h : symbol? cs = some x) : SpelledIn cs x := by
  obtain ⟨s, hs, rfl⟩ := Option.map_eq_some_iff.1 h
  obtain ⟨c, tail, hsp, -⟩ := mem_symbolSpellings (List.mem_of_find?_eq_some hs)
  have hstart : s.1.isPrefixOf cs = true :=
    List.find?_some (p := fun s : List Char × Symbol => s.1.isPrefixOf cs) hs
  exact ⟨List.isPrefixOf_iff_prefix.1 hstart, by simp [hsp], by simp⟩

theorem lexeme?_spelled (h : lexeme? cs = some x) : SpelledIn cs x := by
  unfold lexeme? at h
  rcases Option.or_eq_some_iff.1 h with h | ⟨-, h⟩
  · exact number?_spelled h
  rcases Option.or_eq_some_iff.1 h with h | ⟨-, h⟩
  · exact text?_spelled h
  rcases Option.or_eq_some_iff.1 h with h | ⟨-, h⟩
  · exact word?_spelled h
  · exact symbol?_spelled h

/-! ## All tokens -/

/-- The token moved on by some places. -/
def Token.moved (k : Nat) (t : Token) : Token := { t with pos := t.pos + k }

@[simp] theorem Token.moved_mk (k pos : Nat) (l : Lexeme) :
    Token.moved k ⟨l, pos⟩ = ⟨l, pos + k⟩ := rfl

/-- Blanks alone have no tokens. -/
theorem tokensFrom_blank (h : cs.all isBlank = true) (pos : Nat) :
    tokensFrom pos 0 cs = .ok [⟨.finish, pos + cs.length⟩] := by
  induction cs generalizing pos with
  | nil => rfl
  | cons c cs ih =>
    obtain ⟨hc, hcs⟩ := Bool.and_eq_true_iff.1 h
    rw [tokensFrom, if_pos hc, ih hcs, List.length_cons, Nat.add_assoc, Nat.add_comm 1]

/-- A text further on has its tokens further on. -/
theorem tokensFrom_moved (k : Nat) {pos skip : Nat} {ts : List Token}
    (h : tokensFrom pos skip cs = .ok ts) :
    tokensFrom (pos + k) skip cs = .ok (ts.map (Token.moved k)) := by
  induction cs generalizing pos skip ts with
  | nil =>
    cases skip <;> cases h <;> rfl
  | cons c cs ih =>
    cases skip with
    | succ skip =>
      rw [tokensFrom] at h ⊢
      rw [Nat.add_right_comm]
      exact ih h
    | zero =>
      rw [tokensFrom] at h ⊢
      rw [Nat.add_right_comm]
      split at h
      · rename_i hblank
        rw [if_pos hblank]
        exact ih h
      · rename_i hblank
        rw [if_neg hblank]
        cases hl : lexeme? (c :: cs) with
        | none => simp [hl] at h
        | some x =>
          simp only [hl] at h ⊢
          cases hts : tokensFrom (pos + 1) (x.2.length - 1) cs with
          | error e => rw [hts] at h; cases h
          | ok us =>
            rw [hts] at h
            cases h
            rw [ih hts]
            rfl

/-- The tokens of a text in front of what closes tokens come first, and those of what follows come
behind them. -/
theorem tokensFrom_append (hrest : Closed rest) {pos skip : Nat} {ts : List Token}
    (h : tokensFrom pos skip cs = .ok ts) (hskip : skip ≤ cs.length) :
    ∃ us, ts = us ++ [⟨.finish, pos + cs.length⟩] ∧ Endless us ∧
      tokensFrom pos skip (cs ++ rest) =
        (tokensFrom (pos + cs.length) 0 rest).map (us ++ ·) := by
  induction cs generalizing pos skip ts with
  | nil =>
    obtain rfl : skip = 0 := Nat.le_zero.1 hskip
    cases h
    refine ⟨[], rfl, fun _ hu => absurd hu List.not_mem_nil, ?_⟩
    simp only [List.nil_append, List.length_nil, Nat.add_zero]
    cases tokensFrom pos 0 rest <;> rfl
  | cons c cs ih =>
    have hlen : pos + (c :: cs).length = pos + 1 + cs.length := by
      rw [List.length_cons]
      omega
    rw [hlen]
    cases skip with
    | succ skip => exact ih h (Nat.le_of_succ_le_succ hskip)
    | zero =>
      rw [List.cons_append, tokensFrom]
      rw [tokensFrom] at h
      split at h
      · rename_i hblank
        rw [if_pos hblank]
        exact ih h (Nat.zero_le _)
      · rename_i hblank
        rw [if_neg hblank]
        cases hl : lexeme? (c :: cs) with
        | none => simp [hl] at h
        | some x =>
          obtain ⟨hstart, hne, hfinish⟩ := lexeme?_spelled hl
          have hl' := lexeme?_append hrest hl
          rw [List.cons_append] at hl'
          simp only [hl] at h
          simp only [hl']
          cases hts : tokensFrom (pos + 1) (x.2.length - 1) cs with
          | error e => rw [hts] at h; cases h
          | ok us =>
            rw [hts] at h
            cases h
            have hlt : x.2.length - 1 ≤ cs.length := by
              have := hstart.length_le
              rw [List.length_cons] at this
              omega
            obtain ⟨us, rfl, hends, hrest'⟩ := ih hts hlt
            refine ⟨⟨x.1, pos⟩ :: us, rfl, .cons hfinish hends, ?_⟩
            rw [hrest']
            cases tokensFrom (pos + 1 + cs.length) 0 rest <;> rfl

/-! ## Texts in parts -/

/-- The text is cut into these tokens, and the end behind them. -/
def Spells (cs : List Char) (ts : List Token) : Prop :=
  tokensFrom 0 0 cs = .ok (ts ++ [⟨.finish, cs.length⟩])

namespace Spells

variable {ts us : List Token}

theorem of_ok (h : tokensFrom 0 0 cs = .ok us) :
    ∃ ts, us = ts ++ [⟨.finish, cs.length⟩] ∧ Endless ts ∧ Spells cs ts := by
  obtain ⟨ts, rfl, hends, -⟩ := tokensFrom_append closed_nil h (Nat.zero_le _)
  rw [Nat.zero_add] at h ⊢
  exact ⟨ts, rfl, hends, h⟩

/-- The tokens of a text further on, with the end behind them. -/
theorem further (h : Spells cs ts) (k : Nat) :
    tokensFrom k 0 cs = .ok (ts.map (Token.moved k) ++ [⟨.finish, k + cs.length⟩]) := by
  have hmoved := tokensFrom_moved k h
  simpa [Nat.add_comm] using hmoved

/-- A text and what closes its tokens, put together. -/
theorem append (h : Spells cs ts) (h' : Spells ds us) (hds : Closed ds) :
    Spells (cs ++ ds) (ts ++ us.map (Token.moved cs.length)) := by
  obtain ⟨ts', heq, -, hrest⟩ := tokensFrom_append hds h (Nat.zero_le _)
  obtain rfl : ts = ts' := by
    rw [Nat.zero_add] at heq
    exact List.append_cancel_right heq
  unfold Spells
  rw [hrest, Nat.zero_add, h'.further, List.length_append, Except.map, List.append_assoc]

/-- A text in parentheses. -/
theorem parenthesized (h : Spells cs ts) :
    Spells ('(' :: (cs ++ [')'])) (⟨.symbol .openParen, 0⟩ ::
      (ts.map (Token.moved 1) ++ [⟨.symbol .closeParen, cs.length + 1⟩])) := by
  have hclose : Spells [')'] [⟨.symbol .closeParen, 0⟩] := by rfl
  have hbody := (h.append hclose (closed_cons.2 (by decide +kernel))).further 1
  have hblank : isBlank '(' = false := by decide
  unfold Spells
  rw [tokensFrom, hblank, lexeme?_openParen]
  simp only [List.length_singleton, Nat.sub_self, Nat.zero_add, hbody]
  simp [Except.map, Nat.add_comm, Nat.add_left_comm]

end Spells

end CardRules.Expr
