import CardRules.Condition
import CardRules.Proofs.Expr.Conjunction
import CardRules.Proofs.Text.Classes

/-!
# Paths of names

Names with points between them are an expression: the first is looked up, and each further one is
taken as a member of what the names before it are (`evaluate_path`). That holds of every name that
the expressions have (`IsName`), however long it is and whatever it is a name of.
-/

namespace CardRules.Expr

open Text

/-! ## Names -/

/-- The text is a word. -/
def isWord (s : String) : Bool :=
  match s.toList with
  | [] => false
  | c :: cs => startsWord c && cs.all continuesWord

/-- The text is a name: a word that is neither a constant nor an operator. -/
structure IsName (s : String) : Prop where
  word : isWord s = true
  notConstant : s ∉ constantWords.map (·.1)
  notOperator : s ∉ operatorWords.map (·.1)

instance : DecidablePred IsName := fun s =>
  decidable_of_iff
    (isWord s = true ∧ s ∉ constantWords.map (·.1) ∧ s ∉ operatorWords.map (·.1))
    ⟨fun ⟨hword, hconstant, hoperator⟩ => ⟨hword, hconstant, hoperator⟩,
      fun h => ⟨h.word, h.notConstant, h.notOperator⟩⟩

theorem IsName.cons {s : String} (h : IsName s) :
    ∃ c cs, s.toList = c :: cs ∧ startsWord c = true ∧ ∀ d ∈ cs, continuesWord d = true := by
  have hword := h.word
  unfold isWord at hword
  split at hword
  · cases hword
  · rename_i c cs hs
    obtain ⟨hc, hcs⟩ := Bool.and_eq_true_iff.1 hword
    exact ⟨c, cs, hs, hc, List.all_eq_true.1 hcs⟩

theorem lookup_eq_none {α β : Type} [BEq α] [LawfulBEq α] {es : List (α × β)} {a : α}
    (h : a ∉ es.map (·.1)) : es.lookup a = none := by
  refine List.lookup_eq_none_iff.2 fun e he => ?_
  exact bne_iff_ne.2 fun heq => h (List.mem_map.2 ⟨e, he, heq.symm⟩)

theorem IsName.wordLexeme {s : String} (h : IsName s) : wordLexeme s = .name s := by
  rw [Expr.wordLexeme, lookup_eq_none h.notConstant, lookup_eq_none h.notOperator]

/-! ## Scanning names -/

/-- A word starts with an ASCII character that is neither a digit nor at the start of the table. -/
theorem startsWord_toNat {c : Char} (h : startsWord c = true) :
    32 < c.toNat ∧ c.toNat < 128 ∧ ¬ (48 ≤ c.toNat ∧ c.toNat ≤ 57) ∧ c.toNat ≠ 39 ∧
      c.toNat ≠ 34 := by
  simp only [startsWord, Bool.or_eq_true, decide_eq_true_eq] at h
  rcases h with (h | rfl) | rfl
  · rcases Bool.or_eq_true_iff.1 h with hc | hc
    · have := toNat_of_isUpper hc
      omega
    · have := toNat_of_isLower hc
      omega
  · decide
  · decide

theorem startsWord_not_digit {c : Char} (h : startsWord c = true) : isDecimalDigit c = false := by
  have hascii : ∀ n < 128, ¬ (48 ≤ n ∧ n ≤ 57) →
      decimalZeros.find? (fun z => z ≤ n && n < z + 10) = none := by decide +kernel
  obtain ⟨-, hlt, hdigit, -⟩ := startsWord_toNat h
  rw [isDecimalDigit, digitValue?, hascii c.toNat hlt hdigit]
  rfl

theorem startsWord_not_blank {c : Char} (h : startsWord c = true) : isBlank c = false := by
  have hascii : ∀ n < 128, 32 < n → (whiteSpace.holds n || (0x1c ≤ n && n ≤ 0x1f)) = false := by
    decide +kernel
  obtain ⟨hgt, hlt, -⟩ := startsWord_toNat h
  exact hascii c.toNat hlt hgt

theorem startsWord_not_quote {c : Char} (h : startsWord c = true) :
    ¬ (c = '"' ∨ c = '\'') := by
  obtain ⟨-, -, -, hquote, hdouble⟩ := startsWord_toNat h
  rintro (rfl | rfl)
  · exact hdouble rfl
  · exact hquote rfl

/-- What is not part of a word stands behind it, if anything does. -/
def EndsWord (rest : List Char) : Prop := ∀ c ∈ rest.head?, continuesWord c = false

/-- A name is scanned whole. -/
theorem IsName.lexeme? {s : String} (h : IsName s) {rest : List Char} (hrest : EndsWord rest) :
    lexeme? (s.toList ++ rest) = some (.name s, s.toList) := by
  obtain ⟨c, cs, hs, hc, hcs⟩ := h.cons
  have hnumber : number? (c :: (cs ++ rest)) = none := by
    simp [number?, startsWord_not_digit hc]
  have htext : text? (c :: (cs ++ rest)) = none := by
    simp [text?, startsWord_not_quote hc]
  have hword : word? (c :: (cs ++ rest)) = some (.name s, s.toList) := by
    have htake : (cs ++ rest).takeWhile continuesWord = cs := by
      have hrest : rest.takeWhile continuesWord = [] := by
        cases rest with
        | nil => rfl
        | cons d rest => simp [hrest d rfl]
      rw [List.takeWhile_append_of_pos hcs, hrest, List.append_nil]
    rw [word?, if_pos hc, htake, ← hs]
    dsimp only
    rw [String.ofList_toList, h.wordLexeme]
  rw [hs, List.cons_append, Expr.lexeme?, hnumber, htext, hword, Option.none_or, Option.none_or,
    Option.some_or, hs]

/-- The tokens behind one that is already taken. -/
theorem tokensFrom_skip (pos : Nat) (cs rest : List Char) :
    tokensFrom pos cs.length (cs ++ rest) = tokensFrom (pos + cs.length) 0 rest := by
  induction cs generalizing pos with
  | nil => rfl
  | cons c cs ih =>
    rw [List.length_cons, List.cons_append, tokensFrom, ih, Nat.add_assoc, Nat.add_comm 1]

/-- A name is the first token of a text that begins with it. -/
theorem IsName.tokensFrom {s : String} (h : IsName s) {rest : List Char} (hrest : EndsWord rest)
    (pos : Nat) : tokensFrom pos 0 (s.toList ++ rest) =
      (tokensFrom (pos + s.toList.length) 0 rest).map (⟨.name s, pos⟩ :: ·) := by
  have hlexeme := h.lexeme? hrest
  obtain ⟨c, cs, hs, hc, -⟩ := h.cons
  rw [hs, List.cons_append] at hlexeme ⊢
  rw [Expr.tokensFrom, startsWord_not_blank hc, hlexeme]
  dsimp only
  rw [List.length_cons, Nat.add_sub_cancel, tokensFrom_skip, Nat.add_assoc, Nat.add_comm 1]
  rfl

theorem tokensFrom_dot (pos : Nat) (rest : List Char) :
    tokensFrom pos 0 ('.' :: rest) =
      (tokensFrom (pos + 1) 0 rest).map (⟨.symbol .dot, pos⟩ :: ·) := by
  have hdigit : isDecimalDigit '.' = false := by decide +kernel
  have hnumber : number? ('.' :: rest) = none := by simp [number?, hdigit]
  have hlexeme : lexeme? ('.' :: rest) = some (.symbol .dot, ['.']) := by
    rw [lexeme?, hnumber]
    rfl
  have hblank : isBlank '.' = false := by decide
  rw [tokensFrom, hblank, hlexeme]
  rfl

/-! ## Paths -/

/-- Names with points between them. -/
def path (n : String) (ns : List String) : String := ns.foldl (fun s n => s ++ "." ++ n) n

/-- The tree of a path. -/
def pathTree (n : String) (ns : List String) : Expr := ns.foldl .member (.name n)

theorem path_toList (n : String) (ns : List String) :
    (path n ns).toList = n.toList ++ ns.flatMap fun m => '.' :: m.toList := by
  induction ns generalizing n with
  | nil => simp [path]
  | cons m ns ih =>
    have hcons : path n (m :: ns) = path (n ++ "." ++ m) ns := rfl
    rw [hcons, ih]
    simp

theorem endsWord_members (ns : List String) :
    EndsWord (ns.flatMap fun m => '.' :: m.toList) := by
  cases ns with
  | nil => simp [EndsWord]
  | cons m ns => simp [EndsWord]; decide

/-- Further names are members of what stands before them. -/
theorem derives_members {ns : List String} (hns : ∀ m ∈ ns, IsName m) {ts : List Token} {t : Expr}
    (h : Derives .suffixed ts t) (hts : weight ts = 0) (pos : Nat) :
    ∃ us, tokensFrom pos 0 (ns.flatMap fun m => '.' :: m.toList) =
        .ok (us ++ [⟨.finish, pos + (ns.flatMap fun m => '.' :: m.toList).length⟩]) ∧
      Derives .suffixed (ts ++ us) (ns.foldl .member t) ∧ weight (ts ++ us) = 0 := by
  induction ns generalizing ts t pos with
  | nil => exact ⟨[], rfl, by rwa [List.append_nil], by rwa [List.append_nil]⟩
  | cons m ns ih =>
    obtain ⟨hm, hns⟩ := List.forall_mem_cons.1 hns
    obtain ⟨us, htokens, hderives, hweight⟩ := ih hns (h.member pos (pos + 1) m)
      (by simp [hts, Token.weight]; rfl) (pos + 1 + m.toList.length)
    refine ⟨⟨.symbol .dot, pos⟩ :: ⟨.name m, pos + 1⟩ :: us, ?_, ?_, ?_⟩
    · rw [List.flatMap_cons, List.cons_append, tokensFrom_dot, hm.tokensFrom (endsWord_members ns),
        htokens, List.length_cons, List.length_append]
      simp [Except.map]
      omega
    · simpa using hderives
    · simpa using hweight

/-- What stands before suffixes is an expression by itself. -/
theorem Derives.disjunction_of_suffixed {ts : List Token} {t : Expr} (h : Derives .suffixed ts t) :
    Derives .disjunction ts t :=
  .tighter (.tighter (.tighter (.tighter (.tighter (.tighter (.tighter (.tighter h)))))))

/-- A path parses as members of its first name. -/
theorem parse_path {n : String} {ns : List String} (hn : IsName n) (hns : ∀ m ∈ ns, IsName m) :
    parse (path n ns) = .ok (pathTree n ns) := by
  have hname : Derives .suffixed [⟨.name n, 0⟩] (.name n) := .tighter (.name n 0)
  obtain ⟨us, hus, hderives, hweight⟩ := derives_members hns hname rfl (0 + n.toList.length)
  obtain ⟨pos, htokens⟩ : ∃ pos, tokenize (path n ns) =
      .ok (([⟨.name n, 0⟩] ++ us) ++ [⟨.finish, pos⟩]) := by
    rw [tokenize, path_toList, hn.tokensFrom (endsWord_members ns), hus]
    exact ⟨_, rfl⟩
  rw [parse, htokens]
  refine hderives.disjunction_of_suffixed.ofTokensWithin_of_weight _ ?_
  rw [hweight]
  decide

/-! ## Evaluation -/

/-- A path of members is evaluated from its first name on. -/
theorem eval_members (scope : Scope) (ns : List String) (d : Nat) (t : Expr) :
    eval scope (d + ns.length) (ns.foldl .member t) =
      (eval scope d t).map fun x => ns.foldl (fun x m => x.member m) x := by
  induction ns generalizing d t with
  | nil =>
    show eval scope d t = _
    cases eval scope d t <;> rfl
  | cons m ns ih =>
    have hdepth : d + (m :: ns).length = d + 1 + ns.length := by
      rw [List.length_cons]
      omega
    rw [List.foldl_cons, hdepth, ih, eval]
    cases eval scope d t <;> rfl

/-- The value of a path: its first name is looked up, and the others are members in turn. -/
theorem evaluate_path {n : String} {ns : List String} (hn : IsName n) (hns : ∀ m ∈ ns, IsName m)
    (hlen : ns.length < evalDepth) {scope : Scope} {x : Operand}
    (hx : scope.names.get? n = some x) :
    evaluate (path n ns) scope = .ok (ns.foldl (fun x m => x.member m) x) := by
  have hvalue : eval scope evalDepth (pathTree n ns) =
      .ok (ns.foldl (fun x m => x.member m) x) := by
    obtain ⟨d, hd⟩ := Nat.exists_eq_add_of_lt hlen
    have hname : eval scope (d + 1) (.name n) = .ok x := by rw [eval, lookUp, hx]
    rw [hd, Nat.add_assoc, Nat.add_comm, pathTree, eval_members, hname]
    rfl
  rw [evaluate, parse_path hn hns]
  dsimp only
  rw [hvalue]

end CardRules.Expr
