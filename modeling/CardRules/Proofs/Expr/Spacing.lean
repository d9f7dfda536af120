import CardRules.Proofs.Expr.Lexicon
import CardRules.Proofs.Text.Classes

/-!
# Tokens and the blanks between them

A text is cut into slices, each the longest spelling at its place, with nothing but blanks around
them (`exists_cut`). Its tokens are those of the slices (`Cut.tokensFrom`), and the same slices with
other blanks around them have the same tokens (`cut_of_spaced`). `tokenize_slices` says so of every
text, and of a text without tokens it says where the cut ends and why.
-/

namespace CardRules.Expr

open Text

/-! ## Blanks -/

/-- A blank closes tokens. -/
theorem closes_of_isBlank {c : Char} (h : isBlank c = true) : Closes c := by
  have hdigit := isDecimalDigit_of_isBlank h
  have hstart : startsWord c = false := by
    cases hc : startsWord c with
    | false => rfl
    | true => exact absurd h (by simp [startsWord_not_blank hc])
  have hascii : c.isDigit = false := by
    cases hc : c.isDigit with
    | false => rfl
    | true =>
      obtain ⟨r, hr, hlo, hhi⟩ := exists_range_of_isBlank h
      have hbounds : 48 ≤ c.toNat ∧ c.toNat ≤ 57 := Char.isDigit_iff_toNat.1 hc
      have hapart : ∀ r ∈ blankRanges, r.2 < 48 ∨ 57 < r.1 := by decide
      have := hapart r hr
      omega
  refine ⟨hdigit, by simp [continuesWord, hstart, hascii], fun hmem => ?_⟩
  have hall : ['.', '=', '&', '|'].all (fun d => !isBlank d) = true := by decide +kernel
  have hc := List.all_eq_true.1 hall c hmem
  rw [h] at hc
  cases hc

theorem closed_of_blank {cs rest : List Char} (hcs : cs.all isBlank = true)
    (hclosed : cs = [] → Closed rest) : Closed (cs ++ rest) := by
  cases cs with
  | nil => exact hclosed rfl
  | cons c cs =>
    exact closed_cons.2 (closes_of_isBlank (List.all_eq_true.1 hcs c List.mem_cons_self))

/-- No spelling begins with a blank. -/
theorem IsLexeme.head_not_blank {w : List Char} {l : Lexeme} (h : IsLexeme w l) :
    ∃ c cs, w = c :: cs ∧ isBlank c = false := by
  have hdigits {ds : List Char} (hne : ds ≠ []) (hds : ∀ d ∈ ds, isDecimalDigit d = true) :
      ∃ d ds', ds = d :: ds' ∧ isBlank d = false := by
    obtain ⟨d, ds, rfl⟩ := List.exists_cons_of_ne_nil hne
    have hdigit := isDigitMark_of_isDecimalDigit (hds d List.mem_cons_self)
    exact ⟨d, ds, rfl, isBlank_of_isDigitMark hdigit⟩
  cases h with
  | whole hne hds => exact hdigits hne hds
  | fraction hne hds =>
    obtain ⟨d, ds, rfl, hd⟩ := hdigits hne hds
    exact ⟨d, _, List.cons_append, hd⟩
  | text hq => exact ⟨_, _, rfl, by rcases hq with rfl | rfl <;> decide⟩
  | word hc => exact ⟨_, _, rfl, startsWord_not_blank hc⟩
  | symbol h =>
    obtain ⟨c, tail, hw, -⟩ := mem_symbolSpellings h
    obtain rfl : w = c :: tail := hw
    exact ⟨c, tail, rfl, (symbolSpellings_heads h).2.2.1⟩

theorem tokensFrom_blanks {cs : List Char} (h : cs.all isBlank = true) (pos : Nat)
    (rest : List Char) : tokensFrom pos 0 (cs ++ rest) = tokensFrom (pos + cs.length) 0 rest := by
  induction cs generalizing pos with
  | nil => rfl
  | cons c cs ih =>
    obtain ⟨hc, hcs⟩ := Bool.and_eq_true_iff.1 h
    rw [List.cons_append, tokensFrom, if_pos hc, ih hcs, List.length_cons, Nat.add_assoc,
      Nat.add_comm 1]

/-! ## Slices -/

/-- A part of a text that spells a token, and the blanks behind it. -/
structure Slice where
  lexeme : Lexeme
  spelling : List Char
  gap : List Char

namespace Slice

/-- The slice without the blanks. -/
def bare (p : Slice) : Lexeme × List Char := (p.lexeme, p.spelling)

/-- The slice with the blanks. -/
def text (p : Slice) : List Char := p.spelling ++ p.gap

end Slice

/-- Slices one after another. -/
def textOf (ps : List Slice) : List Char := ps.flatMap Slice.text

/-- The tokens of slices one after another, the first of which begins at `pos`. -/
def tokensOf (pos : Nat) : List Slice → List Token
  | [] => []
  | p :: ps => ⟨p.lexeme, pos⟩ :: tokensOf (pos + p.text.length) ps

/-- In front of `back` each slice is the longest that its place begins with, and there are but
blanks behind it. -/
inductive Cut (back : List Char) : List Slice → Prop
  | nil : Cut back []
  | cons {p : Slice} {ps : List Slice}
      (lead : Leads (p.text ++ (textOf ps ++ back)) p.spelling p.lexeme)
      (gap : p.gap.all isBlank = true) (h : Cut back ps) : Cut back (p :: ps)

/-- There are blanks behind each slice, at least one but for the last. -/
structure Spaced (ps : List Slice) : Prop where
  blank : ∀ p ∈ ps, p.gap.all isBlank = true
  apart : ∀ p ∈ ps.dropLast, p.gap ≠ []

variable {back cs : List Char} {ps ps' : List Slice}

@[simp] theorem textOf_nil : textOf [] = [] := rfl

@[simp] theorem textOf_cons (p : Slice) (ps : List Slice) :
    textOf (p :: ps) = p.text ++ textOf ps := rfl

/-- The lexemes of tokens are those of their slices. -/
theorem lexemes_tokensOf (pos : Nat) (ps : List Slice) :
    (tokensOf pos ps).map Token.lexeme = (ps.map Slice.bare).map Prod.fst := by
  induction ps generalizing pos with
  | nil => rfl
  | cons p ps ih => rw [tokensOf, List.map_cons, ih]; rfl

/-- The tokens of slices end no text. -/
theorem endless_tokensOf (h : ∀ p ∈ ps, IsLexeme p.spelling p.lexeme) (pos : Nat) :
    Endless (tokensOf pos ps) := by
  induction ps generalizing pos with
  | nil => exact fun _ ht => absurd ht List.not_mem_nil
  | cons p ps ih =>
    obtain ⟨hp, hps⟩ := List.forall_mem_cons.1 h
    exact .cons hp.ne_finish (ih hps _)

namespace Cut

theorem isLexeme (h : Cut back ps) : ∀ p ∈ ps, IsLexeme p.spelling p.lexeme := by
  induction h with
  | nil => exact fun _ hp => absurd hp List.not_mem_nil
  | cons lead _ _ ih => exact List.forall_mem_cons.2 ⟨lead.spells, ih⟩

/-- A cut is one of its text alone, too. -/
theorem alone (h : Cut back ps) : Cut [] ps := by
  induction h with
  | nil => exact .nil
  | @cons p ps lead gap _ ih =>
    refine .cons ?_ gap ih
    rw [List.append_nil]
    rw [← List.append_assoc] at lead
    refine lead.of_append ?_
    rw [Slice.text, List.append_assoc]
    exact List.prefix_append _ _

/-- The tokens of a text that is cut are those of its slices and of what is behind them. -/
theorem tokensFrom (h : Cut back ps) (pos : Nat) :
    tokensFrom pos 0 (textOf ps ++ back) =
      (tokensFrom (pos + (textOf ps).length) 0 back).map (tokensOf pos ps ++ ·) := by
  induction h generalizing pos with
  | nil =>
    rw [textOf_nil, List.nil_append, List.length_nil, Nat.add_zero]
    cases Expr.tokensFrom pos 0 back <;> rfl
  | @cons p ps lead gap _ ih =>
    have hlexeme := lexeme?_eq_some_iff.2 lead
    obtain ⟨c, ds, hw, hc⟩ := lead.spells.head_not_blank
    have htext : textOf (p :: ps) ++ back = c :: (ds ++ (p.gap ++ (textOf ps ++ back))) := by
      rw [textOf_cons, Slice.text, hw]
      simp
    have hlength : (textOf (p :: ps)).length =
        1 + ds.length + p.gap.length + (textOf ps).length := by
      rw [textOf_cons, Slice.text, hw]
      simp
      omega
    have hslice : p.text.length = 1 + ds.length + p.gap.length := by
      rw [Slice.text, hw]
      simp
      omega
    rw [← List.append_assoc, ← textOf_cons, htext] at hlexeme
    rw [htext, Expr.tokensFrom, if_neg (by simp [hc]), hlexeme]
    dsimp only
    rw [hw, List.length_cons, Nat.add_sub_cancel, tokensFrom_skip, tokensFrom_blanks gap, ih,
      tokensOf, hlength, hslice]
    simp only [← Nat.add_assoc]
    cases Expr.tokensFrom (pos + 1 + ds.length + p.gap.length + (textOf ps).length) 0 back <;> rfl

/-- A spelling may stand in front of blanks, and of what closes tokens without any. -/
theorem cons_closed {p : Slice} (hp : IsLexeme p.spelling p.lexeme)
    (hgap : p.gap.all isBlank = true) (hclosed : p.gap = [] → Closed (textOf ps ++ back))
    (h : Cut back ps) : Cut back (p :: ps) := by
  refine .cons ?_ hgap h
  rw [Slice.text, List.append_assoc]
  exact hp.closed (closed_of_blank hgap hclosed)

end Cut

/-- Spellings with blanks between them are cut so. -/
theorem cut_of_spaced (hspaced : Spaced ps) (h : ∀ p ∈ ps, IsLexeme p.spelling p.lexeme) :
    Cut [] ps := by
  induction ps with
  | nil => exact .nil
  | cons p ps ih =>
    obtain ⟨hp, hps⟩ := List.forall_mem_cons.1 h
    obtain ⟨hgap, hgaps⟩ := List.forall_mem_cons.1 hspaced.blank
    have hrest : Spaced ps := by
      refine ⟨hgaps, fun q hq => hspaced.apart q ?_⟩
      cases ps with
      | nil => cases hq
      | cons p' ps => exact List.mem_cons_of_mem _ hq
    refine .cons_closed hp hgap (fun hnil => ?_) (ih hrest hps)
    -- only the last slice may have no blanks behind it
    cases ps with
    | nil => simp
    | cons p' ps => exact absurd hnil (hspaced.apart p List.mem_cons_self)

/-- Every text is cut, down to its end or to a place where no token begins. -/
theorem exists_cut (cs : List Char) :
    ∃ lead ps back, cs = lead ++ (textOf ps ++ back) ∧ lead.all isBlank = true ∧ Cut back ps ∧
      ∀ c ∈ back.head?, isBlank c = false ∧ lexeme? back = none := by
  -- a slice is not empty, so what is behind it is shorter
  induction hn : cs.length using Nat.strong_induction_on generalizing cs with
  | _ n ih =>
    have hcs : cs.takeWhile isBlank ++ cs.dropWhile isBlank = cs := List.takeWhile_append_dropWhile
    have hlead : (cs.takeWhile isBlank).all isBlank = true :=
      List.all_eq_true.2 fun _ hc => List.mem_takeWhile_imp hc
    have hhead := List.head?_dropWhile_not isBlank cs
    cases hrest : cs.dropWhile isBlank with
    | nil =>
      rw [hrest] at hcs
      exact ⟨_, [], [], hcs.symm, hlead, .nil, fun c hc => by cases hc⟩
    | cons c rest =>
      rw [hrest] at hcs hhead
      cases hx : lexeme? (c :: rest) with
      | none =>
        refine ⟨_, [], c :: rest, hcs.symm, hlead, .nil, ?_⟩
        rintro d ⟨⟩
        exact ⟨hhead, hx⟩
      | some x =>
        obtain ⟨l, w⟩ := x
        have hleads := lexeme?_eq_some_iff.1 hx
        obtain ⟨tail, htail⟩ := hleads.start
        have hshorter : tail.length < n := by
          have hpos := List.length_pos_iff.2 hleads.spells.ne_nil
          have hlength := congrArg List.length htail
          have htotal := congrArg List.length hcs
          simp only [List.length_append] at hlength htotal
          omega
        obtain ⟨gap, ps, back, rfl, hgap, hcut, hback⟩ := ih _ hshorter tail rfl
        have htext : textOf (⟨l, w, gap⟩ :: ps) ++ back = c :: rest := by
          rw [← htail, textOf_cons, Slice.text, List.append_assoc, List.append_assoc]
        refine ⟨_, _, back, ?_, hlead, .cons (p := ⟨l, w, gap⟩) ?_ hgap hcut, hback⟩
        · rw [htext]
          exact hcs.symm
        · rw [Slice.text, List.append_assoc, htail]
          exact hleads

/-! ## Texts -/

/-- A text of blanks and slices behind them has the tokens of the slices. -/
theorem Cut.tokenize (h : Cut [] ps) (lead : List Char) (hlead : lead.all isBlank = true) :
    tokenize (String.ofList (lead ++ textOf ps)) =
      .ok (tokensOf lead.length ps ++ [⟨.finish, (lead ++ textOf ps).length⟩]) := by
  have hcut := h.tokensFrom lead.length
  rw [List.append_nil] at hcut
  rw [Expr.tokenize, String.toList_ofList, tokensFrom_blanks hlead, Nat.zero_add, hcut,
    List.length_append]
  rfl

/-- A text is cut without loss. Either it has tokens: then it consists of blanks and of slices, each
the longest spelling at its place; the tokens are those of the slices, in their places, and the end;
and the same slices with any blanks around them and at least one between neighbours have the same
lexemes. Or it has none: then the first character that cannot be read is no blank, no spelling
begins there, and what stands before it has tokens. -/
theorem tokenize_slices (s : String) :
    (∃ lead ps, s.toList = lead ++ textOf ps ∧ lead.all isBlank = true ∧ Cut [] ps ∧
      (∀ p ∈ ps, p.spelling ≠ []) ∧
      tokenize s = .ok (tokensOf lead.length ps ++ [⟨.finish, s.toList.length⟩]) ∧
      Endless (tokensOf lead.length ps) ∧
      ∀ lead' ps', lead'.all isBlank = true → Spaced ps' →
        ps'.map Slice.bare = ps.map Slice.bare →
          tokenize (String.ofList (lead' ++ textOf ps')) =
              .ok (tokensOf lead'.length ps' ++ [⟨.finish, (lead' ++ textOf ps').length⟩]) ∧
            (tokensOf lead'.length ps').map Token.lexeme =
              (tokensOf lead.length ps).map Token.lexeme) ∨
    ∃ lead ps c back, s.toList = lead ++ textOf ps ++ c :: back ∧ lead.all isBlank = true ∧
      Cut (c :: back) ps ∧ tokenize s = .error ⟨c, (lead ++ textOf ps).length⟩ ∧
      isBlank c = false ∧ (∀ w l, IsLexeme w l → ¬ w <+: c :: back) ∧
      tokenize (String.ofList (lead ++ textOf ps)) =
        .ok (tokensOf lead.length ps ++ [⟨.finish, (lead ++ textOf ps).length⟩]) := by
  obtain ⟨lead, ps, back, hs, hlead, hcut, hback⟩ := exists_cut s.toList
  cases back with
  | nil =>
    rw [List.append_nil] at hs
    have hok := hcut.tokenize lead hlead
    rw [← hs, String.ofList_toList] at hok
    have hspells := hcut.isLexeme
    refine .inl ⟨lead, ps, hs, hlead, hcut, fun p hp => (hspells p hp).ne_nil, hok, ?_,
      fun lead' ps' hlead' hspaced hsame => ?_⟩
    · exact endless_tokensOf hspells _
    · have hspells' : ∀ p ∈ ps', IsLexeme p.spelling p.lexeme := by
        intro p hp
        have hbare : p.bare ∈ ps.map Slice.bare := hsame ▸ List.mem_map_of_mem hp
        obtain ⟨q, hq, hqp⟩ := List.mem_map.1 hbare
        obtain ⟨hlexeme, hspelling⟩ := Prod.mk.inj hqp
        exact hlexeme ▸ hspelling ▸ hspells q hq
      refine ⟨(cut_of_spaced hspaced hspells').tokenize lead' hlead', ?_⟩
      rw [lexemes_tokensOf, lexemes_tokensOf, hsame]
  | cons c back =>
    obtain ⟨hc, hnone⟩ := hback c rfl
    rw [← List.append_assoc] at hs
    refine .inr ⟨lead, ps, c, back, hs, hlead, hcut, ?_, hc, lexeme?_eq_none_iff.1 hnone,
      hcut.alone.tokenize lead hlead⟩
    rw [tokenize, hs, List.append_assoc, tokensFrom_blanks hlead, hcut.tokensFrom, tokensFrom,
      if_neg (by simp [hc]), hnone, Nat.zero_add, List.length_append]
    rfl

end CardRules.Expr
