import CardRules.Condition
import CardRules.Proofs.Expr.Spacing

/-!
# Literals of texts

Every text can be written as a literal: between quotes, with a backslash in front of each backslash
and each quote (`quotation`). What the literal stands for is the text, whatever characters it has
(`quotes_escaped`), so an object can be asked for any of its keys (`quotation_reads`).
-/

namespace CardRules.Expr

open Text

/-! ## Quotations -/

/-- The characters with a backslash in front of each backslash and each quote. -/
def escaped (q : Char) (cs : List Char) : List Char :=
  cs.flatMap fun c => if c = '\\' ∨ c = q then ['\\', c] else [c]

/-- The text in quotes. -/
def quotation (q : Char) (s : String) : String := String.ofList (q :: (escaped q s.toList ++ [q]))

variable {q : Char}

theorem quote_ne_newline (hq : q = '"' ∨ q = '\'') : q ≠ '\n' := by
  rcases hq with rfl | rfl <;> decide

/-- Behind a backslash a quote stands for itself. -/
theorem unescapedChar_quote (hq : q = '"' ∨ q = '\'') : unescapedChar q = q := by
  rcases hq with rfl | rfl <;> rfl

/-- What is escaped stands for what it was before. -/
theorem quotes_escaped (hq : q = '"' ∨ q = '\'') (cs : List Char) : Quotes q (escaped q cs) cs := by
  induction cs with
  | nil => exact .nil
  | cons c cs ih =>
    rw [escaped, List.flatMap_cons]
    by_cases hc : c = '\\' ∨ c = q
    · have hbreak : c ≠ '\n' := by
        rcases hc with rfl | rfl
        · decide
        · exact quote_ne_newline hq
      have hself : unescapedChar c = c := by
        rcases hc with rfl | rfl
        · rfl
        · exact unescapedChar_quote hq
      have hcons := Quotes.escaped hbreak ih
      rw [hself] at hcons
      rwa [if_pos hc]
    · obtain ⟨hslash, hne⟩ := not_or.1 hc
      rw [if_neg hc]
      exact .plain hne hslash ih

/-! ## Scanning -/

/-- The slice of a text in quotes. -/
def quotationSlice (q : Char) (s : String) : Slice := ⟨.text s, (quotation q s).toList, []⟩

theorem quotationSlice_isLexeme (hq : q = '"' ∨ q = '\'') (s : String) :
    IsLexeme (quotationSlice q s).spelling (quotationSlice q s).lexeme := by
  have h := IsLexeme.text hq (quotes_escaped hq s.toList)
  rw [String.ofList_toList] at h
  rwa [quotationSlice, quotation, String.toList_ofList]

/-- The slices of a name with the literal of a text in brackets. -/
def indexSlices (m : String) (q : Char) (s : String) : List Slice :=
  [⟨.name m, m.toList, []⟩, ⟨.symbol .openBracket, ['['], []⟩, quotationSlice q s,
    ⟨.symbol .closeBracket, [']'], []⟩]

theorem cut_indexSlices {m : String} (hm : IsName m) (hq : q = '"' ∨ q = '\'') (s : String) :
    Cut [] (indexSlices m q s) := by
  have hname : IsLexeme m.toList (.name m) := by
    obtain ⟨c, cs, hcons, hc, hcs⟩ := hm.cons
    have h := IsLexeme.word hc hcs
    rwa [← hcons, String.ofList_toList, hm.wordLexeme] at h
  have hopen : Closes '[' := by decide +kernel
  have hclose : Closes ']' := by decide +kernel
  have hquote : Closes q := by rcases hq with rfl | rfl <;> decide +kernel
  refine .cons_closed hname rfl (fun _ => closed_cons.2 hopen) ?_
  refine .cons_closed (.symbol (by decide)) rfl (fun _ => ?_) ?_
  · rw [textOf_cons, Slice.text, quotationSlice, quotation, String.toList_ofList]
    exact closed_cons.2 hquote
  refine .cons_closed (quotationSlice_isLexeme hq s) rfl (fun _ => closed_cons.2 hclose) ?_
  exact .cons_closed (.symbol (by decide)) rfl (fun _ => closed_nil) .nil

/-- A name with the literal of a text in brackets is an index. -/
theorem parse_index {m : String} (hm : IsName m) (hq : q = '"' ∨ q = '\'') (s : String) :
    parse (m ++ "[" ++ quotation q s ++ "]") = .ok (.index (.name m) (.literal (.text s))) := by
  have htext : m ++ "[" ++ quotation q s ++ "]" =
      String.ofList ([] ++ textOf (indexSlices m q s)) := by
    apply String.toList_injective
    simp [indexSlices, quotationSlice, Slice.text]
  have htokens := (cut_indexSlices hm hq s).tokenize [] rfl
  have htree : Derives .disjunction (tokensOf 0 (indexSlices m q s))
      (.index (.name m) (.literal (.text s))) := by
    have hname : Derives .suffixed [⟨.name m, 0⟩] (.name m) := .tighter (.name m 0)
    have hkey (pos : Nat) : Derives .suffixed [⟨.text s, pos⟩] (.literal (.text s)) :=
      .tighter (.text s pos)
    exact (hname.index (hkey _).disjunction_of_suffixed _ _).disjunction_of_suffixed
  rw [parse, htext, htokens]
  refine htree.ofTokensWithin_of_weight _ ?_
  simp [tokensOf, indexSlices, quotationSlice, Token.weight, weight, parseDepth]

/-! ## Reading objects -/

variable {v : Value} {es : Entries Value}

/-- An object has under a text what stands under that text. -/
theorem index_text (hes : v.entries? = some es) (s : String) :
    Operand.index (.data v) (.data (.text s)) = .ok (.data ((es.get? (.text s)).getD .null)) := by
  have hentry : Operand.entry es (.data (.text s)) =
      .ok (.data ((es.get? (.text s)).getD .null)) := by
    -- A text without an entry is looked up a second time, as its own text.
    have hshown : (Value.ofScalar (.text s)).shown? = .ok s := rfl
    simp only [Operand.entry, Operand.key?, Value.scalar?, hshown]
    cases hget : es.get? (.text s) with
    | some v => rfl
    | none =>
      show Except.ok (Operand.data ((es.get? (.text s)).getD .null)) = _
      rw [hget]
  cases v with
  | object | keyed => rw [← hentry, Operand.index, hes] <;> rintro _ ⟨⟩
  | null | bool | number | text | list => cases hes

/-- A text between quotes, with a backslash in front of each backslash and each quote, is one token
and stands for the text. In brackets behind the name of an object it has the value that the object
has under the text, or null if it has none there. -/
theorem quotation_reads (hq : q = '"' ∨ q = '\'') (s : String) :
    tokenize (quotation q s) = .ok [⟨.text s, 0⟩, ⟨.finish, (quotation q s).length⟩] ∧
      ∀ (m : String) (scope : Scope) (v : Value) (es : Entries Value), IsName m →
        scope.names.get? m = some (.data v) → v.entries? = some es →
          evaluate (m ++ "[" ++ quotation q s ++ "]") scope =
            .ok (.data ((es.get? (.text s)).getD .null)) := by
  refine ⟨?_, fun m scope v es hm hx hes => ?_⟩
  · have hcut : Cut [] [quotationSlice q s] :=
      .cons_closed (quotationSlice_isLexeme hq s) rfl (fun _ => closed_nil) .nil
    have htokens := hcut.tokenize [] rfl
    have htext : String.ofList ([] ++ textOf [quotationSlice q s]) = quotation q s := by
      apply String.toList_injective
      simp [quotationSlice, Slice.text]
    rw [htext] at htokens
    rw [htokens]
    simp [tokensOf, quotationSlice, Slice.text, String.length_toList]
  · have hvalue : eval scope evalDepth (.index (.name m) (.literal (.text s))) =
        .ok (.data ((es.get? (.text s)).getD .null)) := by
      have hname : eval scope 999 (.name m) = .ok (.data v) := by
        rw [eval, lookUp, hx]
      have hkey : eval scope 999 (.literal (.text s)) = .ok (.data (.text s)) := by rw [eval]
      rw [evalDepth, eval, hname, hkey]
      show ((Operand.data v).index (.data (.text s))).mapError Interrupt.fault = _
      rw [index_text hes]
      rfl
    rw [evaluate, parse_index hm hq]
    dsimp only
    rw [hvalue]

/-- A key with both quotes, a line break, and a backslash in front of an `n`. -/
theorem quotation_reads_mixed :
    let s := "it's \"\\n\n"
    let scope := Scope.ofValues [("table", .object [("n", .null), (s, .int 7)])]
    quotation '\'' s = "'it\\'s \"\\\\n\n'" ∧
      tokenize (quotation '\'' s) = .ok [⟨.text s, 0⟩, ⟨.finish, 13⟩] ∧
      evaluate ("table[" ++ quotation '\'' s ++ "]") scope = .ok (.data (.int 7)) := by
  intro s scope
  let es : Entries Value := [(.text "n", .null), (.text s, .int 7)]
  have htext : quotation '\'' s = "'it\\'s \"\\\\n\n'" := by decide +kernel
  have hlength : (quotation '\'' s).length = 13 := by decide +kernel
  have hvalue : es.get? (.text s) = some (.int 7) := by decide +kernel
  obtain ⟨htokens, hindex⟩ := quotation_reads (q := '\'') (.inr rfl) s
  rw [hlength] at htokens
  have heval := hindex "table" scope _ es (by decide) rfl rfl
  rw [hvalue] at heval
  exact ⟨htext, htokens, heval⟩

end CardRules.Expr
