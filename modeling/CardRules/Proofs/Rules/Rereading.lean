import CardRules.Proofs.Rules.Branches

/-!
# Normal forms are read back as they are

A check *settles* if it takes every normal form it returns to itself (`Settles`). The lenient
readings of scalars do, and lists, tables and models of checks that settle do too. For models the
reason is that a normal form gives each field under its camel name, which wins over the other
spelling, so that an extra that carries the other spelling stays an extra (`settles_model`). What is
read from the normal form of a document or an effect is then the same document or effect
(`normal_form_reread`).
-/

namespace CardRules

namespace Schema

/-- A check takes its normal forms to themselves. -/
def Settles (check : Check) : Prop := ∀ v w, check v = .ok w → check w = .ok w

/-! ## Scalars -/

@[simp] theorem anything_eq (v : Value) : anything v = .ok v := by rw [anything]

@[simp] theorem text_text (s : String) : text (.text s) = .ok (.text s) := by rw [text]

@[simp] theorem whole_int (i : Int) : whole (.int i) = .ok (.int i) := by rw [whole]

@[simp] theorem truth_bool (b : Bool) : truth (.bool b) = .ok (.bool b) := by rw [truth]

theorem number_number (n : Number) : number (.number n) = .ok (.number n) := by rw [number]

@[simp] theorem settles_anything : Settles anything := fun _ w _ => anything_eq w

@[simp] theorem settles_text : Settles text := by
  intro v w h
  cases v with
  | text s =>
    cases h
    rfl
  | _ => cases h

@[simp] theorem settles_anyObject : Settles anyObject := by
  intro v w h
  cases v with
  | object es =>
    cases h
    rfl
  | _ => cases h

theorem whole_ok {v w : Value} (h : whole v = .ok w) : ∃ i, w = .int i := by
  unfold whole at h
  split at h
  · exact ⟨_, (Except.ok.inj h).symm⟩
  · exact ⟨_, (Except.ok.inj h).symm⟩
  · split at h
    · split at h
      · cases h
      · split at h
        · split at h
          · exact ⟨_, (Except.ok.inj h).symm⟩
          · cases h
        · cases h
    · cases h
  · split at h
    · exact ⟨_, (Except.ok.inj h).symm⟩
    · cases h
  · cases h

@[simp] theorem settles_whole : Settles whole := by
  intro v w h
  obtain ⟨i, rfl⟩ := whole_ok h
  exact whole_int i

theorem truthOfWhole_ok {i : Int} {w : Value} (h : truthOfWhole i = .ok w) : ∃ b, w = .bool b := by
  unfold truthOfWhole at h
  split at h
  · exact ⟨true, (Except.ok.inj h).symm⟩
  · split at h
    · exact ⟨false, (Except.ok.inj h).symm⟩
    · split at h <;> cases h

theorem truth_ok {v w : Value} (h : truth v = .ok w) : ∃ b, w = .bool b := by
  unfold truth at h
  split at h
  · exact ⟨_, (Except.ok.inj h).symm⟩
  · exact truthOfWhole_ok h
  · split at h
    · split at h
      · split at h
        · cases h
        · exact truthOfWhole_ok h
      · cases h
    · cases h
  · dsimp only at h
    split at h
    · exact ⟨true, (Except.ok.inj h).symm⟩
    · split at h
      · exact ⟨false, (Except.ok.inj h).symm⟩
      · cases h
  · cases h

@[simp] theorem settles_truth : Settles truth := by
  intro v w h
  obtain ⟨b, rfl⟩ := truth_ok h
  exact truth_bool b

theorem number_ok {v w : Value} (h : number v = .ok w) : ∃ n, w = .number n := by
  unfold number at h
  split at h
  · exact ⟨_, (Except.ok.inj h).symm⟩
  · exact ⟨_, (Except.ok.inj h).symm⟩
  · split at h
    · exact ⟨_, (Except.ok.inj h).symm⟩
    · split at h
      · exact ⟨_, (Except.ok.inj h).symm⟩
      · cases h
  · cases h

@[simp] theorem settles_number : Settles number := by
  intro v w h
  obtain ⟨n, rfl⟩ := number_ok h
  exact number_number n

/-! ## Optional values, lists and tables -/

variable {check : Check}

@[simp] theorem settles_optional (hc : Settles check) : Settles (optional check) := by
  intro v w h
  by_cases hw : w = .null
  · rw [hw]
    rfl
  · have hcheck : check v = .ok w := by
      unfold optional at h
      split at h
      · exact absurd (Except.ok.inj h).symm hw
      · exact h
    unfold optional
    split
    · rfl
    · exact hc v w hcheck

theorem collect_map_ok {α : Type} (as : List α) : collect (as.map .ok) = .ok as := by
  induction as with
  | nil => rfl
  | cons a as ih => rw [List.map_cons, collect, ih]

theorem under_eq_ok {α : Type} {s : Step} {r : Except (List Issue) α} {a : α}
    (h : under s r = .ok a) : r = .ok a := by
  cases r with
  | ok b => exact h
  | error is => cases h

@[simp] theorem listOf_nil (check : Check) : listOf check (.list []) = .ok (.list []) := by
  rw [listOf]
  rfl

/-- Items that were read are read again in any places. -/
theorem itemsFrom_settled (hc : Settles check) {vs ws : List Value} {i j : Nat}
    (h : itemsFrom check i vs = ws.map .ok) : itemsFrom check j ws = ws.map .ok := by
  induction vs generalizing ws i j with
  | nil =>
    cases ws with
    | nil => rfl
    | cons => cases h
  | cons v vs ih =>
    cases ws with
    | nil => cases h
    | cons w ws =>
      obtain ⟨hv, hvs⟩ := List.cons.inj h
      rw [itemsFrom, hc v w (under_eq_ok hv), ih hvs]
      rfl

@[simp] theorem settles_listOf (hc : Settles check) : Settles (listOf check) := by
  intro v w h
  cases v with
  | list vs =>
    obtain ⟨ws, hws, rfl⟩ := map_eq_ok h
    rw [listOf, itemsFrom_settled hc (collect_eq_ok hws), collect_map_ok]
    rfl
  | _ => cases h

theorem entryOf_settled (hc : Settles check) {e e' : String × Value}
    (h : entryOf check e = .ok e') : entryOf check e' = .ok e' := by
  obtain ⟨w, hw, rfl⟩ := map_eq_ok (under_eq_ok h)
  rw [entryOf, hc e.2 w hw]
  rfl

@[simp] theorem tableOf_nil (check : Check) : tableOf check (.object []) = .ok (.object []) := by
  rw [tableOf]
  rfl

@[simp] theorem settles_tableOf (hc : Settles check) : Settles (tableOf check) := by
  intro v w h
  cases v with
  | object es =>
    obtain ⟨ws, hws, rfl⟩ := map_eq_ok h
    have hentries := collect_eq_ok hws
    have hsettled : ∀ e ∈ ws, entryOf check e = .ok e := by
      intro e he
      obtain ⟨given, -, hgiven⟩ : ∃ given ∈ es, entryOf check given = .ok e :=
        List.mem_map.1 (hentries ▸ List.mem_map_of_mem he)
      exact entryOf_settled hc hgiven
    rw [tableOf, List.map_congr_left hsettled, collect_map_ok]
    rfl
  | _ => cases h

/-! ## Models -/

/-- The check of a field settles, and takes the default of the field to itself. -/
structure Field.Settles (f : Field) : Prop where
  check : Schema.Settles f.check
  default : ∀ v, f.default = some v → f.check v = .ok v

theorem Field.Settles.admitted {f : Field} (h : f.Settles) {v : Value} (hv : f.Admits v) :
    f.check v = .ok v := by
  rcases hv with ⟨given, hgiven⟩ | hdefault
  · exact h.check given v hgiven
  · exact h.default v hdefault

@[simp] theorem settles_required (camel name : String) (hc : Settles check) :
    (required camel name check).Settles := ⟨hc, fun _ h => nomatch h⟩

@[simp] theorem settles_withDefault (camel name : String) {v : Value} (hc : Settles check)
    (hv : check v = .ok v) : (withDefault camel name check v).Settles := by
  refine ⟨hc, fun w hw => ?_⟩
  cases hw
  exact hv

@[simp] theorem settles_nullable (camel name : String) (hc : Settles check) :
    (nullable camel name check).Settles :=
  settles_withDefault camel name (settles_optional hc) rfl

variable {fields : List Field} {es : Table Value}

theorem Field.read_of_camel {f : Field} {v : Value} (h : Table.get? es f.camel = some v)
    (hv : f.check v = .ok v) : f.read es = .ok (f.camel, v) := by
  rw [Field.read, Field.given?, h]
  show under _ ((f.check v).map _) = _
  rw [hv]
  rfl

/-- The extras stay the extras when every field is given in front of them under its camel name. -/
theorem extrasOf_normal {known : Table Value} (hkeys : known.keys = fields.map Field.camel) :
    extrasOf fields (known ++ extrasOf fields es) = extrasOf fields es := by
  have hhas : ∀ f ∈ fields, Table.has (known ++ extrasOf fields es) f.camel = true := by
    intro f hf
    have hmem : f.camel ∈ known.keys := hkeys ▸ List.mem_map_of_mem hf
    obtain ⟨v, hv⟩ := Table.exists_get? hmem
    rw [Table.has, Table.get?_append_of_get? hv, Option.isSome_some]
  have hknown : known.filter (fun e => !fields.any
      (Field.takes (known ++ extrasOf fields es) e.1)) = [] := by
    refine List.filter_eq_nil_iff.2 fun e he => ?_
    obtain ⟨f, hf, hcamel⟩ : ∃ f ∈ fields, f.camel = e.1 :=
      List.mem_map.1 (hkeys ▸ List.mem_map_of_mem he)
    have htaken : fields.any (Field.takes (known ++ extrasOf fields es) e.1) = true :=
      List.any_eq_true.2 ⟨f, hf, by simp [Field.takes, hcamel]⟩
    simp [htaken]
  have hextras : (extrasOf fields es).filter (fun e => !fields.any
      (Field.takes (known ++ extrasOf fields es) e.1)) = extrasOf fields es := by
    refine List.filter_eq_self.2 fun e he => ?_
    have hfree : ∀ f ∈ fields, ¬ Field.takes es e.1 f = true := by
      simpa using (List.mem_filter.1 he).2
    have hstill : fields.any (Field.takes (known ++ extrasOf fields es) e.1) = false := by
      refine List.any_eq_false.2 fun f hf htakes => hfree f hf ?_
      rw [Field.takes, hhas f hf] at htakes
      simp only [Bool.not_true, Bool.and_false, Bool.or_false] at htakes
      rw [Field.takes, htakes, Bool.true_or]
    rw [hstill, Bool.not_false]
  rw [extrasOf, List.filter_append, hknown, hextras, List.nil_append]

/-- A model settles if its fields do and have different camel names. -/
theorem settles_model {title : String} (hnames : (fields.map Field.camel).Nodup)
    (hfields : ∀ f ∈ fields, f.Settles) : Settles (model title fields) := by
  intro v w h
  cases v with
  | object es =>
    have hread (f : Field) (hf : f ∈ fields) : f.read (asEntries w) = f.read es := by
      obtain ⟨x, hx, hes⟩ := read_of_model hnames h hf
      have hfixed := (hfields f hf).admitted (Field.read_ok hes).2
      rw [hes, Field.read_of_camel hx hfixed]
    obtain ⟨known, hknown, rfl⟩ := map_eq_ok h
    have hreads := collect_eq_ok hknown
    rw [asEntries] at hread
    rw [model, List.map_congr_left hread, hreads, collect_map_ok, Except.map,
      extrasOf_normal (keys_of_reads hreads)]
  | _ => cases h

end Schema

open Schema

/-! ## Documents -/

theorem DeckConfig.settles_check : Settles DeckConfig.check :=
  settles_model (by decide) (by simp [fields])

theorem SetupConfig.settles_check : Settles SetupConfig.check :=
  settles_model (by decide) (by simp [fields])

theorem Metadata.settles_check : Settles Metadata.check := by
  have hdeck : DeckConfig.check DeckConfig.default = .ok DeckConfig.default := rfl
  have hsetup : SetupConfig.check SetupConfig.default = .ok SetupConfig.default := rfl
  exact settles_model (by decide)
    (by simp [fields, DeckConfig.settles_check, SetupConfig.settles_check, hdeck, hsetup])

theorem Rule.settles_check : Settles Rule.check :=
  settles_model (by decide) (by simp [fields])

theorem Document.settles_check : Settles Document.check := by
  have hmetadata : Metadata.check Metadata.default = .ok Metadata.default := rfl
  exact settles_model (by decide)
    (by simp [fields, Metadata.settles_check, Rule.settles_check, hmetadata])

/-! ## Effects -/

theorem Wording.settles_fields : ∀ w ∈ vocabulary, ∀ f ∈ w.fields, f.Settles := by
  simp [vocabulary, playerField]

theorem Wording.nodup_camel :
    ∀ w ∈ vocabulary, ("type" :: "op" :: w.fields.map Field.camel).Nodup := by decide

theorem Wording.op_ne_nil : ∀ w ∈ vocabulary, w.op ≠ "" := by decide

/-- An operation names the one wording it is the operation of. -/
theorem wordingOf?_text {w : Wording} (hw : w ∈ vocabulary) : wordingOf? (.text w.op) = some w := by
  obtain ⟨w', hw'⟩ : ∃ w', vocabulary.find? (fun x => x.op == w.op) = some w' :=
    Option.isSome_iff_exists.1 (List.find?_isSome.2 ⟨w, hw, beq_self_eq_true _⟩)
  have hfound := List.find?_some hw'
  have hop : w'.op = w.op := beq_iff_eq.1 hfound
  have hnodup : (vocabulary.map Wording.op).Nodup := by decide
  rw [wordingOf?, hw', List.inj_on_of_nodup_map hnodup (List.mem_of_find?_eq_some hw') hw hop]

theorem Wording.settles_check {w : Wording} (hw : w ∈ vocabulary) : Settles w.check := by
  refine settles_model (List.nodup_cons.1 (nodup_camel w hw)).2 ?_
  refine List.forall_mem_cons.2 ⟨?_, settles_fields w hw⟩
  exact settles_withDefault "op" "op" settles_text (text_text w.op)

/-- The normal form of an effect names its operation under `op` and has no entry under `type`. -/
theorem Wording.check_ok {w : Wording} (hw : w ∈ vocabulary) {raw : RawEffect} {v : Value}
    (h : w.check (.object (Table.put "op" (.text w.op) (Table.erase raw "type"))) = .ok v) :
    ∃ dump, v = .object dump ∧ Table.get? dump "op" = some (.text w.op) ∧
      "type" ∉ Table.keys dump := by
  obtain ⟨htype, hnames⟩ := List.nodup_cons.1 (nodup_camel w hw)
  have hnames : ((withDefault "op" "op" text (.text w.op) :: w.fields).map Field.camel).Nodup :=
    hnames
  obtain ⟨x, hx, hread⟩ := read_of_model hnames h List.mem_cons_self
  have hop : Field.read (Table.put "op" (.text w.op) (Table.erase raw "type"))
      (withDefault "op" "op" text (.text w.op)) = .ok ("op", .text w.op) :=
    Field.read_of_camel (Table.get?_put_self "op" _ _) (text_text w.op)
  cases hread.symm.trans hop
  obtain ⟨known, hknown, rfl⟩ := map_eq_ok h
  refine ⟨_, rfl, hx, fun hmem => ?_⟩
  rw [Table.keys_append, keys_of_reads (collect_eq_ok hknown)] at hmem
  rcases List.mem_append.1 hmem with hmem | hmem
  · exact htype hmem
  · obtain ⟨e, he, hkey⟩ := List.mem_map.1 hmem
    rcases Table.mem_put (List.mem_of_mem_filter he) with rfl | he
    · have hne : "op" ≠ "type" := by decide
      exact hne hkey
    · exact Table.not_mem_keys_erase raw "type" (List.mem_map.2 ⟨e, he, hkey⟩)

/-- An effect that is its own normal form is read as it is. -/
theorem CheckedEffect.ofRaw?_normal {w : Wording} (hw : w ∈ vocabulary) {dump : RawEffect}
    (hop : Table.get? dump "op" = some (.text w.op)) (htype : "type" ∉ Table.keys dump)
    (hcheck : w.check (.object dump) = .ok (.object dump)) :
    CheckedEffect.ofRaw? dump = .ok ⟨w.op, w.read (.object dump), .object dump⟩ := by
  have hvoid : (Value.text w.op).isVoid = false := by
    simpa [Value.isVoid] using Wording.op_ne_nil w hw
  have hnamed : RawEffect.op dump = .text w.op := by
    simp [RawEffect.op, hop, hvoid]
  unfold CheckedEffect.ofRaw?
  rw [hnamed, wordingOf?_text hw]
  dsimp only
  rw [Table.erase_of_not_mem htype, Table.put_of_get? hop, hcheck]

/-- A document that was read is read again from its normal form, and so is an effect: each part,
each extra and each raw effect is the same. -/
theorem normal_form_reread :
    (∀ {v : Value} {d : Document}, Document.ofValue? v = .ok d →
      Document.ofValue? d.normal = .ok d) ∧
    ∀ {raw : RawEffect} {e : CheckedEffect}, CheckedEffect.ofRaw? raw = .ok e →
      ∃ dump, e.normal = .object dump ∧ CheckedEffect.ofRaw? dump = .ok e := by
  constructor
  · intro v d h
    obtain ⟨w, hw, rfl⟩ := map_eq_ok h
    have hagain : Document.check w = .ok w := Document.settles_check v w hw
    show (Document.check w).map Document.ofNormal = .ok (Document.ofNormal w)
    rw [hagain]
    rfl
  · intro raw e h
    obtain ⟨w, hw, hop, hread, hcheck⟩ := CheckedEffect.ofRaw?_reads h
    obtain ⟨dump, hdump, hgiven, htype⟩ := Wording.check_ok hw hcheck
    have hagain := Wording.settles_check hw _ _ hcheck
    rw [hdump] at hagain hread
    refine ⟨dump, hdump, ?_⟩
    rw [CheckedEffect.ofRaw?_normal hw hgiven htype hagain, hop, hread, ← hdump]

namespace Sample

/-- Rules in both spellings, with values of other kinds than they stand for and keys of no
meaning. -/
def loose : Value :=
  .object
    [("metadata", .object
      [("card_values", .object [("A", .bool true), ("K", .text " 010.0 "), ("Q", .text "1e1")]),
       ("kabu_win_score", .int 9), ("kabuWinScore", .text "-1_0"),
       ("setup", .object [("initial_hand_size", .bool true), ("shuffle", .text "OFF")])]),
     ("abilities", .object
      [("peek", .object
        [("allowed_phases", .list [.text "main_turn"]), ("note", .null),
         ("effects", .list [.object [("type", .text "nothing")]])])])]

/-- The normal form of those rules. -/
def strict : Value :=
  .object
    [("metadata", .object
      [("deck", DeckConfig.default),
       ("setup", .object
        [("initialHandSize", .int 1), ("shuffle", .bool false), ("initialPhaseId", .null)]),
       ("cardValues", .object
        [("A", .int 1), ("K", .int 10), ("Q", .float (.finite false (10 * Decimal.unitsPerOne)))]),
       ("cardAbilities", .object []), ("kabuWinScore", .int (-10)), ("kabu_win_score", .int 9)]),
     ("actions", .object []),
     ("abilities", .object
      [("peek", .object
        [("id", .null), ("allowedPhases", .list [.text "main_turn"]), ("conditions", .list []),
         ("effects", .list [.object [("type", .text "nothing")]]), ("note", .null)])])]

/-- A move that is named under `type` and gives its source in both spellings. -/
def looseMove : RawEffect :=
  [("type", .text "moveCard"), ("from_", .text "deck"), ("op", .text ""), ("count", .text "02"),
   ("from", .text "discard"), ("to", .text "hand")]

/-- The normal form of that move. -/
def strictMove : RawEffect :=
  [("op", .text "moveCard"), ("from", .text "discard"), ("to", .text "hand"), ("count", .int 2),
   ("param", .null), ("from_", .text "deck")]

end Sample

theorem normal_form_reread_sample :
    Document.ofValue? Sample.loose = .ok (.ofNormal Sample.strict) ∧
      Document.ofValue? Sample.strict = .ok (.ofNormal Sample.strict) ∧
      ∃ e, CheckedEffect.ofRaw? Sample.looseMove = .ok e ∧
        e.normal = .object Sample.strictMove ∧ CheckedEffect.ofRaw? Sample.strictMove = .ok e := by
  have hloose : Document.ofValue? Sample.loose = .ok (.ofNormal Sample.strict) := by decide +kernel
  have hmove : CheckedEffect.ofRaw? Sample.looseMove =
      .ok ⟨"moveCard", .operation (.moveCard "discard" "hand" 2 none),
        .object Sample.strictMove⟩ := by decide +kernel
  refine ⟨hloose, normal_form_reread.1 hloose, _, hmove, rfl, ?_⟩
  obtain ⟨dump, hdump, hread⟩ := normal_form_reread.2 hmove
  cases hdump
  exact hread

end CardRules
