import CardRules.Proofs.Records.Laws
import CardRules.Proofs.Text.Classes
import Mathlib.Computability.Language
import Mathlib.Data.Set.Function

/-!
# The two spellings of a name

A name that is spelled in camel case consists of parts that begin with a capital letter, the first
one apart; spelled with underscores, it consists of parts that begin with a small letter. All other
characters are small letters and digits. Of such names each spelling is made from the other:
`underscored` finds the parts by their capital letters (`underscored_humps`) and `camel` finds them
by the underscores between them (`camel_words`). So a field has one name in camel case
(`spellings_correspond`).
-/

namespace CardRules

open scoped Computability

/-! ## Small letters -/

namespace Text

/-- ASCII text is made small letter by letter. -/
theorem smallAfter_ascii {cs : List Char} (h : ∀ c ∈ cs, c.toNat < 0x80) (before : List Char) :
    smallAfter before cs = cs.map Char.toLower := by
  induction cs generalizing before with
  | nil => rfl
  | cons c cs ih =>
    obtain ⟨hc, hcs⟩ := List.forall_mem_cons.1 h
    have hsigma : c ≠ 'Σ' := by
      rintro rfl
      exact absurd hc (by decide)
    rw [smallAfter, if_neg hsigma, smallChar, if_pos hc, ih hcs]
    rfl

end Text

namespace FieldName

open Text

/-! ## Parts of names -/

/-- Whether the character may stand in a part behind its first letter. -/
def continuesPart (c : Char) : Bool := c.isLower || c.isDigit

/-- The texts of one character of a class. -/
def letter (p : Char → Bool) : Language Char := {cs | ∃ c, p c = true ∧ cs = [c]}

/-- The parts of names that begin with a letter of a class. -/
def part (first : Char → Bool) : Language Char := letter first * (letter continuesPart)∗

/-- The names in camel case, such as `hasDrawn`: `[a-z][a-z0-9]*([A-Z][a-z0-9]*)*`. -/
def IsCamel (n : String) : Prop := n.toList ∈ part Char.isLower * (part Char.isUpper)∗

/-- The names with underscores, such as `has_drawn`: `[a-z][a-z0-9]*(_[a-z][a-z0-9]*)*`. -/
def IsUnderscored (n : String) : Prop :=
  n.toList ∈ part Char.isLower * (letter (· == '_') * part Char.isLower)∗

variable {first : Char → Bool} {c : Char} {cs head : List Char} {parts : List (List Char)}

theorem mem_letters {p : Char → Bool} : cs ∈ (letter p)∗ ↔ ∀ c ∈ cs, p c = true := by
  refine ⟨fun h c hc => ?_, fun h => ?_⟩
  · obtain ⟨texts, rfl, htexts⟩ := Language.mem_kstar.1 h
    obtain ⟨text, htext, hmem⟩ := List.mem_flatten.1 hc
    obtain ⟨d, hd, rfl⟩ := htexts text htext
    rwa [List.mem_singleton.1 hmem]
  · refine Language.mem_kstar.2 ⟨cs.map ([·]), ?_, fun text htext => ?_⟩
    · rw [← List.flatMap_def, List.flatMap_singleton']
    · obtain ⟨c, hc, rfl⟩ := List.mem_map.1 htext
      exact ⟨c, h c hc, rfl⟩

theorem cons_mem_part :
    c :: cs ∈ part first ↔ first c = true ∧ ∀ d ∈ cs, continuesPart d = true := by
  rw [part, Language.mem_mul]
  refine ⟨?_, fun ⟨hc, hcs⟩ => ⟨[c], ⟨c, hc, rfl⟩, cs, mem_letters.2 hcs, rfl⟩⟩
  rintro ⟨_, ⟨d, hd, rfl⟩, rest, hrest, heq⟩
  cases heq
  exact ⟨hd, mem_letters.1 hrest⟩

theorem nil_not_mem_part : [] ∉ part first := by
  rintro ⟨_, ⟨d, -, rfl⟩, rest, -, heq⟩
  cases heq

instance : (cs : List Char) → Decidable (cs ∈ part first)
  | [] => .isFalse nil_not_mem_part
  | c :: cs => decidable_of_iff ((first c && cs.all continuesPart) = true)
      (by rw [cons_mem_part, Bool.and_eq_true_iff, List.all_eq_true])

/-- A part is a first letter with others behind it. -/
theorem exists_cons_of_mem_part (h : cs ∈ part first) :
    ∃ c rest, cs = c :: rest ∧ first c = true ∧ ∀ d ∈ rest, continuesPart d = true := by
  cases cs with
  | nil => exact absurd h nil_not_mem_part
  | cons c rest => exact ⟨c, rest, rfl, cons_mem_part.1 h⟩

/-- A name in camel case is a part with a small letter and further ones with capital letters. -/
theorem IsCamel.exists_parts {n : String} (h : IsCamel n) :
    ∃ (head : List Char) (parts : List (List Char)), head ∈ part Char.isLower ∧
      (∀ p ∈ parts, p ∈ part Char.isUpper) ∧ n.toList = head ++ parts.flatten := by
  obtain ⟨head, hhead, _, hrest, heq⟩ := Language.mem_mul.1 h
  obtain ⟨parts, rfl, hparts⟩ := Language.mem_kstar.1 hrest
  exact ⟨head, parts, hhead, hparts, heq.symm⟩

theorem isCamel_of_parts {n : String} (hhead : head ∈ part Char.isLower)
    (hparts : ∀ p ∈ parts, p ∈ part Char.isUpper) (heq : n.toList = head ++ parts.flatten) :
    IsCamel n := by
  rw [IsCamel, heq]
  exact Language.append_mem_mul hhead (Language.join_mem_kstar hparts)

/-- A name with underscores is a part and further ones with underscores before them. -/
theorem IsUnderscored.exists_parts {n : String} (h : IsUnderscored n) :
    ∃ (head : List Char) (parts : List (List Char)), head ∈ part Char.isLower ∧
      (∀ p ∈ parts, p ∈ part Char.isLower) ∧ n.toList = head ++ parts.flatMap ('_' :: ·) := by
  obtain ⟨head, hhead, _, hrest, heq⟩ := Language.mem_mul.1 h
  obtain ⟨texts, rfl, htexts⟩ := Language.mem_kstar.1 hrest
  have hmarked : ∀ t ∈ texts, t.tail ∈ part Char.isLower ∧ t = '_' :: t.tail := by
    intro t ht
    obtain ⟨_, ⟨c, hc, rfl⟩, p, hp, rfl⟩ := Language.mem_mul.1 (htexts t ht)
    rw [eq_of_beq hc]
    exact ⟨hp, rfl⟩
  refine ⟨head, texts.map List.tail, hhead, fun p hp => ?_, ?_⟩
  · obtain ⟨t, ht, rfl⟩ := List.mem_map.1 hp
    exact (hmarked t ht).1
  · rw [List.flatMap_def, List.map_map, ← heq]
    exact congrArg (head ++ ·.flatten)
      ((List.map_id texts).symm.trans (List.map_congr_left fun t ht => (hmarked t ht).2))

theorem isUnderscored_of_parts {n : String} (hhead : head ∈ part Char.isLower)
    (hparts : ∀ p ∈ parts, p ∈ part Char.isLower)
    (heq : n.toList = head ++ parts.flatMap ('_' :: ·)) : IsUnderscored n := by
  rw [IsUnderscored, heq, List.flatMap_def]
  refine Language.append_mem_mul hhead (Language.join_mem_kstar fun text htext => ?_)
  obtain ⟨p, hp, rfl⟩ := List.mem_map.1 htext
  exact Language.append_mem_mul (a := ['_']) ⟨'_', rfl, rfl⟩ (hparts p hp)

/-! ## First letters -/

theorem ascii_of_continuesPart (h : continuesPart c = true) : c.toNat < 0x80 := by
  rcases Bool.or_eq_true_iff.1 h with h | h
  · exact ascii_of_isLower h
  · exact Nat.lt_of_le_of_lt (Char.isDigit_iff_toNat.1 h).2 (by decide)

theorem ascii_of_mem_part (hfirst : ∀ c, first c = true → c.toNat < 0x80) (h : cs ∈ part first) :
    ∀ c ∈ cs, c.toNat < 0x80 := by
  obtain ⟨c, rest, rfl, hc, hrest⟩ := exists_cons_of_mem_part h
  exact List.forall_mem_cons.2 ⟨hfirst c hc, fun d hd => ascii_of_continuesPart (hrest d hd)⟩

/-- What may stand behind the first letter of a part is small, and neither a capital letter nor an
underscore. -/
theorem continuesPart_plain (h : continuesPart c = true) :
    c.toLower = c ∧ isHump c = false ∧ c ≠ '_' :=
  of_ascii (motive := fun c => continuesPart c = true →
    c.toLower = c ∧ isHump c = false ∧ c ≠ '_') (by decide) (ascii_of_continuesPart h) h

theorem continuesPart_of_isLower (h : c.isLower = true) : continuesPart c = true :=
  Bool.or_eq_true_iff.2 (.inl h)

theorem continuesPart_of_mem_part (h : cs ∈ part Char.isLower) :
    ∀ c ∈ cs, continuesPart c = true := by
  obtain ⟨c, rest, rfl, hc, hrest⟩ := exists_cons_of_mem_part h
  exact List.forall_mem_cons.2 ⟨continuesPart_of_isLower hc, hrest⟩

theorem map_toLower_of_plain (h : ∀ c ∈ cs, continuesPart c = true) :
    cs.map Char.toLower = cs :=
  (List.map_congr_left fun c hc => (continuesPart_plain (h c hc)).1).trans cs.map_id

/-- The part with a small first letter. -/
def lowered (cs : List Char) : List Char := cs.modifyHead Char.toLower

/-- The part with a capital first letter. -/
def raised (cs : List Char) : List Char := cs.modifyHead Char.toUpper

theorem lowered_part (h : cs ∈ part Char.isUpper) :
    lowered cs ∈ part Char.isLower ∧ raised (lowered cs) = cs := by
  obtain ⟨c, rest, rfl, hc, hrest⟩ := exists_cons_of_mem_part h
  obtain ⟨hlower, hback⟩ := toLower_of_isUpper hc
  exact ⟨cons_mem_part.2 ⟨hlower, hrest⟩, congrArg (· :: rest) hback⟩

theorem raised_part (h : cs ∈ part Char.isLower) :
    raised cs ∈ part Char.isUpper ∧ lowered (raised cs) = cs := by
  obtain ⟨c, rest, rfl, hc, hrest⟩ := exists_cons_of_mem_part h
  obtain ⟨hupper, hback⟩ := toUpper_of_isLower hc
  exact ⟨cons_mem_part.2 ⟨hupper, hrest⟩, congrArg (· :: rest) hback⟩

theorem map_toLower_part (h : cs ∈ part Char.isUpper) : cs.map Char.toLower = lowered cs := by
  obtain ⟨c, rest, rfl, -, hrest⟩ := exists_cons_of_mem_part h
  rw [List.map_cons, map_toLower_of_plain hrest]
  rfl

theorem title_part (h : cs ∈ part Char.isLower) : title cs = raised cs := by
  obtain ⟨c, rest, rfl, hc, hrest⟩ := exists_cons_of_mem_part h
  rw [title, titleChar, if_pos (ascii_of_isLower hc),
    smallAfter_ascii fun d hd => ascii_of_continuesPart (hrest d hd), map_toLower_of_plain hrest]
  rfl

/-- What takes parts of one kind to another and back does so with several of them. -/
theorem map_parts {last : Char → Bool} {f g : List Char → List Char}
    (hfg : ∀ {p}, p ∈ part first → f p ∈ part last ∧ g (f p) = p)
    (hparts : ∀ p ∈ parts, p ∈ part first) :
    (∀ p ∈ parts.map f, p ∈ part last) ∧ (parts.map f).map g = parts := by
  constructor
  · intro p hp
    obtain ⟨q, hq, rfl⟩ := List.mem_map.1 hp
    exact (hfg (hparts q hq)).1
  · rw [List.map_map]
    exact (List.map_congr_left fun p hp => (hfg (hparts p hp)).2).trans parts.map_id

/-! ## From camel case to underscores -/

/-- A character with an underscore before it if it is a capital letter. -/
def mark (c : Char) : List Char := if isHump c then ['_', c] else [c]

theorem marked_cons (c : Char) (cs : List Char) : marked (c :: cs) = c :: cs.flatMap mark := rfl

theorem flatMap_mark_of_plain (h : ∀ c ∈ cs, continuesPart c = true) : cs.flatMap mark = cs := by
  have hmark : ∀ c ∈ cs, mark c = [c] := fun c hc =>
    if_neg (Bool.eq_false_iff.1 (continuesPart_plain (h c hc)).2.1)
  rw [List.flatMap_congr hmark, List.flatMap_singleton']

theorem flatMap_mark_part (h : cs ∈ part Char.isUpper) : cs.flatMap mark = '_' :: cs := by
  obtain ⟨c, rest, rfl, hc, hrest⟩ := exists_cons_of_mem_part h
  have hmark : mark c = ['_', c] := if_pos hc
  rw [List.flatMap_cons, hmark, flatMap_mark_of_plain hrest]
  rfl

/-- The underscores go before the parts. -/
theorem marked_humps (hhead : head ∈ part Char.isLower)
    (hparts : ∀ p ∈ parts, p ∈ part Char.isUpper) :
    marked (head ++ parts.flatten) = head ++ parts.flatMap ('_' :: ·) := by
  obtain ⟨c, rest, rfl, -, hrest⟩ := exists_cons_of_mem_part hhead
  have hflat : parts.flatten.flatMap mark = parts.flatMap ('_' :: ·) := by
    rw [List.flatten_eq_flatMap, List.flatMap_assoc]
    exact List.flatMap_congr fun p hp => flatMap_mark_part (hparts p hp)
  rw [List.cons_append, marked_cons, List.flatMap_append, flatMap_mark_of_plain hrest, hflat]
  rfl

/-- The parts of a name in camel case come with underscores between them and small letters. -/
theorem underscored_humps {n : String} (hhead : head ∈ part Char.isLower)
    (hparts : ∀ p ∈ parts, p ∈ part Char.isUpper) (hn : n.toList = head ++ parts.flatten) :
    underscored n = String.ofList (head ++ (parts.map lowered).flatMap ('_' :: ·)) := by
  have hascii : ∀ c ∈ head ++ parts.flatMap ('_' :: ·), c.toNat < 0x80 := by
    intro c hc
    rcases List.mem_append.1 hc with hc | hc
    · exact ascii_of_mem_part (fun _ => ascii_of_isLower) hhead c hc
    · obtain ⟨p, hp, hc⟩ := List.mem_flatMap.1 hc
      rcases List.mem_cons.1 hc with rfl | hc
      · decide
      · exact ascii_of_mem_part (fun _ => ascii_of_isUpper) (hparts p hp) c hc
  have hhead' : head.map Char.toLower = head :=
    map_toLower_of_plain (continuesPart_of_mem_part hhead)
  have hparts' : (parts.flatMap ('_' :: ·)).map Char.toLower =
      (parts.map lowered).flatMap ('_' :: ·) := by
    rw [List.map_flatMap, List.flatMap_map]
    exact List.flatMap_congr fun p hp => congrArg ('_' :: ·) (map_toLower_part (hparts p hp))
  rw [underscored, hn, marked_humps hhead hparts, small, smallAfter_ascii hascii, List.map_append,
    hhead', hparts']

/-! ## From underscores to camel case -/

theorem partsOf_of_not_mem (h : '_' ∉ cs) : partsOf cs = [cs] := by
  induction cs with
  | nil => rfl
  | cons c cs ih =>
    obtain ⟨hc, hcs⟩ := not_or.1 (mt List.mem_cons.2 h)
    rw [partsOf, if_neg (Ne.symm hc), ih hcs]

theorem partsOf_append (h : '_' ∉ head) (cs : List Char) :
    partsOf (head ++ '_' :: cs) = head :: partsOf cs := by
  induction head with
  | nil => rfl
  | cons c head ih =>
    obtain ⟨hc, hhead⟩ := not_or.1 (mt List.mem_cons.2 h)
    rw [List.cons_append, partsOf, if_neg (Ne.symm hc), ih hhead]

/-- Texts without underscores are the parts that underscores between them make. -/
theorem partsOf_flatMap (hhead : '_' ∉ head) (hparts : ∀ p ∈ parts, '_' ∉ p) :
    partsOf (head ++ parts.flatMap ('_' :: ·)) = head :: parts := by
  induction parts generalizing head with
  | nil => rw [List.flatMap_nil, List.append_nil, partsOf_of_not_mem hhead]
  | cons p parts ih =>
    obtain ⟨hp, hparts⟩ := List.forall_mem_cons.1 hparts
    rw [List.flatMap_cons, List.cons_append, partsOf_append hhead, ih hp hparts]

theorem underscore_not_mem_part (h : cs ∈ part Char.isLower) : '_' ∉ cs := fun hmem =>
  (continuesPart_plain (continuesPart_of_mem_part h _ hmem)).2.2 rfl

/-- The parts of a name with underscores come without them, the later ones with capital letters. -/
theorem camel_words {n : String} (hhead : head ∈ part Char.isLower)
    (hparts : ∀ p ∈ parts, p ∈ part Char.isLower)
    (hn : n.toList = head ++ parts.flatMap ('_' :: ·)) :
    camel n = String.ofList (head ++ (parts.map raised).flatten) := by
  have htitle : parts.flatMap title = (parts.map raised).flatten := by
    rw [← List.flatMap_def]
    exact List.flatMap_congr fun p hp => title_part (hparts p hp)
  rw [camel, hn, partsOf_flatMap (underscore_not_mem_part hhead)
    fun p hp => underscore_not_mem_part (hparts p hp)]
  exact congrArg (fun cs => String.ofList (head ++ cs)) htitle

/-! ## Both ways -/

variable {n : String}

/-- A name in camel case has another spelling, from which it comes back. -/
theorem IsCamel.comes_back (h : IsCamel n) :
    IsUnderscored (underscored n) ∧ camel (underscored n) = n := by
  obtain ⟨head, parts, hhead, hparts, hn⟩ := h.exists_parts
  obtain ⟨hlowered, hback⟩ := map_parts lowered_part hparts
  have hspelled := String.toList_ofList (l := head ++ (parts.map lowered).flatMap ('_' :: ·))
  rw [underscored_humps hhead hparts hn]
  refine ⟨isUnderscored_of_parts hhead hlowered hspelled, ?_⟩
  rw [camel_words hhead hlowered hspelled, hback, ← hn, String.ofList_toList]

/-- A name with underscores has another spelling, from which it comes back. -/
theorem IsUnderscored.comes_back (h : IsUnderscored n) :
    IsCamel (camel n) ∧ underscored (camel n) = n := by
  obtain ⟨head, parts, hhead, hparts, hn⟩ := h.exists_parts
  obtain ⟨hraised, hback⟩ := map_parts raised_part hparts
  have hspelled := String.toList_ofList (l := head ++ (parts.map raised).flatten)
  rw [camel_words hhead hparts hn]
  refine ⟨isCamel_of_parts hhead hraised hspelled, ?_⟩
  rw [underscored_humps hhead hraised hspelled, hback, ← hn, String.ofList_toList]

/-- The names in camel case and the names with underscores are the spellings of each other, however
many parts they have and however short these are. So two different names in camel case never mean
one field of a record. -/
theorem spellings_correspond :
    (∀ n, IsCamel n → camel (underscored n) = n) ∧
      (∀ n, IsUnderscored n → underscored (camel n) = n) ∧
      Set.BijOn underscored {n | IsCamel n} {n | IsUnderscored n} ∧
      ∀ (ρ : Type) [Record ρ] (f : Record.Field ρ) (n n' : String), IsCamel n → IsCamel n' →
        Record.field? ρ n = some f → Record.field? ρ n' = some f → n = n' := by
  have hcamel : ∀ n, IsCamel n → camel (underscored n) = n := fun n h => h.comes_back.2
  have hunderscored : ∀ n, IsUnderscored n → underscored (camel n) = n := fun n h =>
    h.comes_back.2
  have hinverse : Set.InvOn camel underscored {n | IsCamel n} {n | IsUnderscored n} :=
    ⟨hcamel, hunderscored⟩
  have hbij := hinverse.bijOn (fun n h => h.comes_back.1) (fun n h => h.comes_back.1)
  refine ⟨hcamel, hunderscored, hbij, fun ρ _ f n n' hn hn' hf hf' => hbij.injOn hn hn' ?_⟩
  rw [← Record.name_of_field? hf, ← Record.name_of_field? hf']

/-- A name with capital letters next to each other, another that differs from it in the case of one
letter, and the name of a field. -/
theorem spellings_correspond_sample :
    IsCamel "lastXY2" ∧ camel (underscored "lastXY2") = "lastXY2" ∧
      IsUnderscored "last_x_y2" ∧ underscored (camel "last_x_y2") = "last_x_y2" ∧
      IsCamel "lastXy2" ∧ underscored "lastXY2" ≠ underscored "lastXy2" ∧
      IsCamel "justBurned" ∧ Record.field? Turn "justBurned" = some Turn.Field.justBurned ∧
      camel "just_burned" = "justBurned" := by
  have hcamel : IsCamel "lastXY2" := isCamel_of_parts (by decide) (by decide)
    (show _ = "last".toList ++ [['X'], ['Y', '2']].flatten from rfl)
  have hother : IsCamel "lastXy2" := isCamel_of_parts (by decide) (by decide)
    (show _ = "last".toList ++ [['X', 'y', '2']].flatten from rfl)
  have hfield : IsCamel "justBurned" := isCamel_of_parts (by decide) (by decide)
    (show _ = "just".toList ++ ["Burned".toList].flatten from rfl)
  have hunderscored : IsUnderscored "last_x_y2" := isUnderscored_of_parts (by decide) (by decide)
    (show _ = "last".toList ++ [['x'], ['y', '2']].flatMap ('_' :: ·) from rfl)
  have hburned : IsUnderscored "just_burned" := isUnderscored_of_parts (by decide) (by decide)
    (show _ = "just".toList ++ ["burned".toList].flatMap ('_' :: ·) from rfl)
  obtain ⟨hto, hback, hbij, hunique⟩ := spellings_correspond
  refine ⟨hcamel, hto _ hcamel, hunderscored, hback _ hunderscored, hother, fun heq => ?_, hfield,
    by decide +kernel, ?_⟩
  · exact absurd (hbij.injOn hcamel hother heq) (by decide)
  · exact hunique Turn Turn.Field.justBurned _ _ hburned.comes_back.1 hfield (by decide +kernel)
      (by decide +kernel)

end FieldName

end CardRules
