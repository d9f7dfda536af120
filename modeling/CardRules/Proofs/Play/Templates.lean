import CardRules.Proofs.Cards.Transfers
import CardRules.Proofs.Play.AuditLog
import CardRules.Proofs.Text.Replacing

/-!
# Templates of the log

A template consists of characters and of two kinds of placeholders (`pieces`). To fill in both at
once is to put the name and the parameters in the place of each (`filledTogether`). The log fills in
one after the other, and the second search goes over the name as well. `log_fills_together_iff` says
when that makes no difference: if no part of the template between its placeholders for the
parameters reads like such a placeholder once the name is filled in.
-/

namespace CardRules

open Text

/-! ## Templates -/

/-- What a template consists of. -/
inductive Piece where
  | char (c : Char)
  | player
  | param
  deriving DecidableEq, Repr

/-- The placeholder for the name of the player. -/
def playerMark : List Char := '\x7b' :: "player\x7d".toList

/-- The placeholder for the parameters. -/
def paramMark : List Char := '\x7b' :: "param\x7d".toList

/-- The pieces of a template, `skip` characters of which belong to the placeholder found last. -/
def piecesFrom : Nat → List Char → List Piece
  | _, [] => []
  | skip + 1, _ :: cs => piecesFrom skip cs
  | 0, c :: cs =>
    if playerMark.isPrefixOf (c :: cs) then .player :: piecesFrom (playerMark.length - 1) cs
    else if paramMark.isPrefixOf (c :: cs) then .param :: piecesFrom (paramMark.length - 1) cs
    else .char c :: piecesFrom 0 cs

/-- The pieces of a template. -/
def pieces (cs : List Char) : List Piece := piecesFrom 0 cs

/-- What stands for a piece. -/
def Piece.fill (name params : List Char) : Piece → List Char
  | char c => [c]
  | player => name
  | param => params

/-- The template with the name and the parameters in the place of their placeholders. -/
def filledTogether (template name params : String) : String :=
  String.ofList ((pieces template.toList).flatMap (Piece.fill name.toList params.toList))

theorem piecesFrom_skip (xs cs : List Char) : piecesFrom xs.length (xs ++ cs) = pieces cs := by
  induction xs with
  | nil => rfl
  | cons x xs ih => rw [List.length_cons, List.cons_append, piecesFrom, ih]

theorem pieces_player (cs : List Char) : pieces (playerMark ++ cs) = .player :: pieces cs := by
  have hstart : playerMark.isPrefixOf ('\x7b' :: ("player\x7d".toList ++ cs)) = true :=
    List.isPrefixOf_iff_prefix.2 (List.prefix_append playerMark cs)
  rw [pieces, playerMark, List.cons_append, piecesFrom, if_pos hstart]
  exact congrArg _ (piecesFrom_skip "player\x7d".toList cs)

/-- Where one placeholder begins, the other does not. -/
theorem not_playerMark_prefix (cs : List Char) : ¬ playerMark <+: paramMark ++ cs := by
  simp [playerMark, paramMark]

theorem pieces_param (cs : List Char) : pieces (paramMark ++ cs) = .param :: pieces cs := by
  have hstart : paramMark.isPrefixOf ('\x7b' :: ("param\x7d".toList ++ cs)) = true :=
    List.isPrefixOf_iff_prefix.2 (List.prefix_append paramMark cs)
  have hother : ¬ playerMark.isPrefixOf ('\x7b' :: ("param\x7d".toList ++ cs)) = true := by
    rw [List.isPrefixOf_iff_prefix]
    exact not_playerMark_prefix cs
  rw [pieces, paramMark, List.cons_append, piecesFrom, if_neg hother, if_pos hstart]
  exact congrArg _ (piecesFrom_skip "param\x7d".toList cs)

theorem pieces_char {c : Char} {cs : List Char} (hplayer : ¬ playerMark <+: c :: cs)
    (hparam : ¬ paramMark <+: c :: cs) : pieces (c :: cs) = .char c :: pieces cs := by
  rw [← List.isPrefixOf_iff_prefix] at hplayer hparam
  rw [pieces, piecesFrom, if_neg hplayer, if_neg hparam]
  rfl

/-- A template is empty, or it begins with a placeholder, or with a character where none begins. -/
theorem template_induction {motive : List Char → Prop} (nil : motive [])
    (player : ∀ cs, motive cs → motive (playerMark ++ cs))
    (param : ∀ cs, motive cs → motive (paramMark ++ cs))
    (char : ∀ c cs, ¬ playerMark <+: c :: cs → ¬ paramMark <+: c :: cs → motive cs →
      motive (c :: cs)) (cs : List Char) : motive cs := by
  induction hn : cs.length using Nat.strong_induction_on generalizing cs with
  | _ n ih =>
    subst hn
    cases cs with
    | nil => exact nil
    | cons c cs =>
      by_cases hplayer : playerMark <+: c :: cs
      · obtain ⟨rest, hrest⟩ := hplayer
        rw [← hrest]
        refine player rest (ih rest.length ?_ rest rfl)
        rw [← hrest, List.length_append, playerMark, List.length_cons]
        omega
      by_cases hparam : paramMark <+: c :: cs
      · obtain ⟨rest, hrest⟩ := hparam
        rw [← hrest]
        refine param rest (ih rest.length ?_ rest rfl)
        rw [← hrest, List.length_append, paramMark, List.length_cons]
        omega
      · exact char c cs hplayer hparam (ih cs.length (by simp) cs rfl)

/-- The pieces of a template put together again. -/
theorem pieces_spelled (cs : List Char) :
    (pieces cs).flatMap (Piece.fill playerMark paramMark) = cs := by
  induction cs using template_induction with
  | nil => rfl
  | player cs ih => rw [pieces_player, List.flatMap_cons, ih]; rfl
  | param cs ih => rw [pieces_param, List.flatMap_cons, ih]; rfl
  | char c cs hplayer hparam ih => rw [pieces_char hplayer hparam, List.flatMap_cons, ih]; rfl

/-! ## One after the other -/

/-- The name is filled in where its placeholders are, and nowhere else. -/
theorem replaceAll_player (name cs : List Char) :
    replaceAll '\x7b' "player\x7d".toList name cs =
      (pieces cs).flatMap (Piece.fill name paramMark) := by
  induction cs using template_induction with
  | nil => rfl
  | player cs ih =>
    rw [pieces_player, List.flatMap_cons, ← ih]
    exact replaceAll_found _ _ _ _
  | param cs ih =>
    rw [pieces_param, List.flatMap_cons, ← ih]
    simp [replaceAll, replaceFrom, paramMark, Piece.fill]
  | char c cs hplayer hparam ih =>
    rw [pieces_char hplayer hparam, List.flatMap_cons, ← ih]
    exact replaceAll_kept hplayer

/-- The parts of a template between the placeholders for the parameters. -/
def partsOf (ps : List Piece) : List (List Piece) := ps.splitOn .param

/-- A part with the name filled in. -/
def named (name : List Char) (part : List Piece) : List Char :=
  part.flatMap (Piece.fill name paramMark)

theorem partsOf_param (ps : List Piece) : partsOf (.param :: ps) = [] :: partsOf ps := by
  rw [partsOf, List.splitOn_cons_eq_if_modifyHead, if_pos (by simp)]
  rfl

theorem partsOf_cons {p : Piece} (hp : p ≠ .param) {ps part : List Piece}
    {parts : List (List Piece)} (h : partsOf ps = part :: parts) :
    partsOf (p :: ps) = (p :: part) :: parts := by
  rw [partsOf, List.splitOn_cons_eq_if_modifyHead, if_neg (by simpa using hp), ← partsOf, h,
    List.modifyHead_cons]

theorem intercalate_append (sep xs ys : List Char) (parts : List (List Char)) :
    sep.intercalate ((xs ++ ys) :: parts) = xs ++ sep.intercalate (ys :: parts) := by
  cases parts with
  | nil => simp
  | cons zs parts => simp only [List.intercalate_cons_cons, List.append_assoc]

/-- What is filled in for a template is what is filled in for its parts, with the parameters between
them. -/
theorem flatMap_fill (name params : List Char) (ps : List Piece) :
    ps.flatMap (Piece.fill name params) = params.intercalate ((partsOf ps).map (named name)) := by
  induction ps with
  | nil => rfl
  | cons p ps ih =>
    obtain ⟨part, parts, hparts⟩ := List.exists_cons_of_ne_nil (List.splitOn_ne_nil .param ps)
    rw [← partsOf] at hparts
    rw [hparts, List.map_cons] at ih
    by_cases hp : p = .param
    · subst hp
      rw [List.flatMap_cons, partsOf_param, hparts, List.map_cons, List.map_cons,
        List.intercalate_cons_cons, ih]
      rfl
    · have hfill : Piece.fill name params p = Piece.fill name paramMark p := by
        cases p with
        | param => exact absurd rfl hp
        | char | player => rfl
      rw [List.flatMap_cons, ih, partsOf_cons hp hparts, List.map_cons, hfill, ← intercalate_append]
      rfl

/-- One after the other the placeholders are filled in as they are together, just if no part reads
like a placeholder for the parameters once the name is filled in. -/
theorem fillTemplate_eq_iff (template name : String) {params : String}
    (hparams : params.toList ≠ paramMark) :
    Play.fillTemplate template name params = filledTogether template name params ↔
      ∀ part ∈ partsOf (pieces template.toList), ¬ paramMark <:+: named name.toList part := by
  have hmark : '\x7b' ∉ "param\x7d".toList := by decide
  rw [Play.fillTemplate, filledTogether, String.ofList_inj, replaceAll_player,
    flatMap_fill, flatMap_fill, paramMark, replaceAll_intercalate hmark, ← paramMark,
    intercalate_replaceAll_iff hparams, List.forall_mem_map]
  rfl

/-! ## Parameters -/

/-- The text begins with a quotation mark. -/
def Quoted (s : String) : Prop := ∃ cs, s.toList = '"' :: cs

theorem quoted_jsonText (s t : String) : Quoted (Value.jsonText s ++ t) := by
  rw [Quoted, Value.jsonText, String.toList_append, String.toList_ofList]
  exact ⟨_, rfl⟩

theorem quoted_compactEntries (es : Table Value) : ∀ x ∈ Value.compactEntries es, Quoted x := by
  induction es with
  | nil => exact fun x hx => absurd hx List.not_mem_nil
  | cons e es ih =>
    obtain ⟨k, v⟩ := e
    rw [Value.compactEntries]
    refine List.forall_mem_cons.2 ⟨?_, ih⟩
    rw [String.append_assoc]
    exact quoted_jsonText k _

theorem quoted_compactKeyed (es : Entries Value) : ∀ x ∈ Value.compactKeyed es, Quoted x := by
  induction es with
  | nil => exact fun x hx => absurd hx List.not_mem_nil
  | cons e es ih =>
    obtain ⟨k, v⟩ := e
    rw [Value.compactKeyed]
    refine List.forall_mem_cons.2 ⟨?_, ih⟩
    rw [String.append_assoc]
    cases k <;> exact quoted_jsonText _ _

theorem braces_ne_paramMark {xs : List String} (h : ∀ x ∈ xs, Quoted x) :
    ("\x7b" ++ Value.joined "," xs ++ "\x7d").toList ≠ paramMark := by
  intro heq
  rw [Value.joined, String.toList_append, String.toList_append, String.toList_intercalate] at heq
  cases xs with
  | nil => exact absurd heq (by decide)
  | cons x xs =>
    obtain ⟨cs, hx⟩ := h x List.mem_cons_self
    have hsplit : '"' :: cs = ['"'] ++ cs := rfl
    rw [List.map_cons, hx, hsplit, intercalate_append] at heq
    exact absurd (List.cons.inj (List.cons.inj heq).2).1 (by decide)

/-- An object as JSON does not read like the placeholder for it. -/
theorem compact_ne_paramMark {v : Value} {es : Entries Value} (h : v.entries? = some es) :
    v.compact.toList ≠ paramMark := by
  cases v with
  | object es => exact braces_ne_paramMark (quoted_compactEntries es)
  | keyed es => exact braces_ne_paramMark (quoted_compactKeyed es)
  | null | bool | number | text | list => cases h

/-! ## The log -/

/-- The log fills in the placeholders of a template, one kind after the other. In a game whose
current player has a text for a name, not an empty one, a template is cut into pieces without loss,
and the log and its reader get a text. It is the template with the name and the parameters in the
place of their placeholders just if no part of the template between its placeholders for the
parameters reads, anywhere, like such a placeholder once the name is filled in. -/
theorem log_fills_together_iff (b : Rulebook) (c : Circumstances) (template name : String) {r : Run}
    {a : Nat} {o : Player} {es : Entries Value} (ha : r.game.currentSeat? = .ok a)
    (ho : r.game.players[a]? = some o) (hname : o.name = .text name) (hne : name ≠ "")
    (hparams : c.params.entries? = some es) :
    (pieces template.toList).flatMap (Piece.fill playerMark paramMark) = template.toList ∧
      ∃ text, Play.perform b c (.log template) r = .ok () { r with
          game := { r.game with log := r.game.log ++ [.text text] }
          sink := r.sink ++ [text] } ∧
        (text = filledTogether template name c.params.compact ↔
          ∀ part ∈ partsOf (pieces template.toList),
            ¬ paramMark <:+: named name.toList part) := by
  have hlog : Play.logName c.playerId r.game = .ok (.text name) := by
    have hseats : r.game.players.isEmpty = false := by
      cases hp : r.game.players with
      | nil => simp [hp] at ho
      | cons => rfl
    have hvoid : (Value.text name).isVoid = false := by simpa [Value.isVoid] using hne
    rw [Play.logName, hseats, if_neg Bool.false_ne_true, ha]
    simp [bind, Except.bind, pure, Except.pure, Game.player?, ho, hname, hvoid]
  refine ⟨pieces_spelled _, _, ?_,
    fillTemplate_eq_iff template name (compact_ne_paramMark hparams)⟩
  rw [Play.perform, Play.log_apply, hlog]

namespace Sample

/-- The one player has the placeholder for the parameters for a name. -/
def misnamed : Game where
  players := [{ id := .int 1, name := .text "\x7bparam\x7d" }]

end Sample

/-- The name of the player is searched for placeholders: its text gives way to the parameters. -/
theorem name_filled_in :
    Sample.misnamed.currentSeat? = .ok 0 ∧
      Sample.misnamed.players[0]?.map Player.name = some (.text "\x7bparam\x7d") ∧
      filledTogether "\x7bplayer\x7d passes" "\x7bparam\x7d" "\x7b\x7d" = "\x7bparam\x7d passes" ∧
      Play.perform Sample.rulebook { playerId := .int 1 } (.log "\x7bplayer\x7d passes")
          { game := Sample.misnamed } =
        .ok () { game := { Sample.misnamed with log := [.text "\x7b\x7d passes"] }
                 sink := ["\x7b\x7d passes"] } := by
  have hname : Play.logName (.int 1) Sample.misnamed = .ok (.text "\x7bparam\x7d") := by
    decide +kernel
  have hfill : Play.fillTemplate "\x7bplayer\x7d passes" "\x7bparam\x7d"
      (Value.object []).compact = "\x7b\x7d passes" := by decide
  refine ⟨by decide +kernel, rfl, by decide +kernel, ?_⟩
  rw [Play.perform, Play.log_apply]
  dsimp only
  rw [hname]
  dsimp only
  rw [hfill]
  rfl

/-- A name without braces in a template with both placeholders. -/
theorem log_fills_together_iff_sample :
    Play.perform Sample.rulebook Sample.pointing (.log "\x7bplayer\x7d draws \x7bparam\x7d")
        { game := Sample.spread } =
      .ok () { game := { Sample.spread with log := [.text "Ann draws \x7b\"at\":1\x7d"] }
               sink := ["Ann draws \x7b\"at\":1\x7d"] } := by
  obtain ⟨-, text, hok, htext⟩ := log_fills_together_iff Sample.rulebook Sample.pointing
    "\x7bplayer\x7d draws \x7bparam\x7d" "Ann" (r := { game := Sample.spread }) (a := 0)
    (by decide +kernel) rfl rfl (by decide) rfl
  have hparts : ∀ part ∈ partsOf (pieces "\x7bplayer\x7d draws \x7bparam\x7d".toList),
      ¬ paramMark <:+: named "Ann".toList part := by decide +kernel
  have hfilled : filledTogether "\x7bplayer\x7d draws \x7bparam\x7d" "Ann"
      Sample.pointing.params.compact = "Ann draws \x7b\"at\":1\x7d" := by decide
  rw [hok, htext.2 hparts, hfilled]
  rfl

end CardRules
