import CardRules.Proofs.Play.Footprint

/-!
# The log and its reader

A text goes two ways, to the log of the game and to the reader of the log, by two separate writes.
`Step.text?` is the text that a leaf effect has for them, if it is one of the `log` operation and
gets as far as a text; no other step changes the log, whatever flag of whatever record it writes
(`Step.logged`). Along the steps of a call and from call to call the log and what its reader was
given grow by the same texts (`log_mirrors_reader`).
-/

namespace CardRules

/-! ## One step -/

namespace Operation

/-- Whether the operation writes to the log. -/
def isLog : Operation → Bool
  | .log _ => true
  | _ => false

theorem ne_log_of_mem_parts {o : Operation} (ho : o.isLog = false) {part : Part}
    (h : part ∈ o.parts) : part ≠ .log := by
  rintro rfl
  cases o <;> simp [isLog, parts] at ho h

end Operation

/-- A write to another part than the log reaches neither the log nor its reader. -/
theorem Write.spares_log {part : Part} {r r' : Run} (h : Write part r r') (hpart : part ≠ .log) :
    r'.game.log = r.game.log ∧ r'.sink = r.sink := by
  cases h with
  | log => exact absurd rfl hpart
  | flag flag value t => cases t <;> exact ⟨rfl, rfl⟩
  | _ => exact ⟨rfl, rfl⟩

theorem Play.log_apply (c : Circumstances) (template : String) (r : Run) :
    log c template r =
      match logName c.playerId r.game with
      | .ok (.text name) =>
        let text := fillTemplate template name c.params.compact
        .ok () { r with
          game := { r.game with log := r.game.log ++ [.text text] }
          sink := r.sink ++ [text] }
      | .ok _ => .error (.fault .wrongKind) r
      | .error f => .error (.fault f) r := by
  unfold log
  rw [bind_of_ok (game_apply r)]
  cases logName c.playerId r.game with
  | error f => rfl
  | ok name => cases name <;> rfl

namespace Step

/-- The text that a step has for the log: a template filled in, if there is a name to fill in. -/
def text? (s : Step) : Option String :=
  match s.leaf.operation with
  | .log template =>
    match Play.logName s.leaf.circumstances.playerId s.game with
    | .ok (.text name) =>
      some (Play.fillTemplate template name s.leaf.circumstances.params.compact)
    | _ => none
  | _ => none

theorem left_eq (b : Rulebook) (s : Step) : s.left b = Play.runOf (s.result b) := by
  unfold left Play.runOf
  cases s.result b <;> rfl

/-- What a step does to the log and gives to its reader. -/
structure Logs (b : Rulebook) (s : Step) : Prop where
  text_isSome : s.text?.isSome = true ↔ s.completes b = true ∧ s.leaf.operation.isLog = true
  log : (s.left b).game.log = s.game.log ++ s.text?.toList.map Value.text
  sink : (s.left b).sink = s.text?.toList

theorem logs_of_log (b : Rulebook) (c : Circumstances) (template : String) (g : Game) :
    Logs b ⟨⟨c, .log template⟩, g⟩ := by
  have hresult : Step.result b ⟨⟨c, .log template⟩, g⟩ = Play.log c template { game := g } := rfl
  rw [Play.log_apply] at hresult
  cases hname : Play.logName c.playerId g with
  | error f =>
    simp only [hname] at hresult
    constructor <;> simp [text?, hname, completes_of_error hresult, left_of_error hresult]
  | ok name =>
    cases name with
    | text name =>
      simp only [hname] at hresult
      constructor <;>
        simp [text?, hname, completes_of_ok hresult, left_of_ok hresult, Operation.isLog]
    | _ =>
      simp only [hname] at hresult
      constructor <;> simp [text?, hname, completes_of_error hresult, left_of_error hresult]

theorem text?_of_other {s : Step} (ho : s.leaf.operation.isLog = false) : s.text? = none := by
  unfold text?
  split
  · rename_i template hlog
    rw [hlog] at ho
    cases ho
  · rfl

theorem logs_of_other (b : Rulebook) {s : Step} (ho : s.leaf.operation.isLog = false) :
    Logs b s := by
  have hspared : (s.left b).game.log = s.game.log ∧ (s.left b).sink = [] := by
    rw [left_eq]
    refine (Play.perform_writes b s.leaf.circumstances s.leaf.operation).keepsRun
      (M := fun r => r.game.log = s.game.log ∧ r.sink = []) ?_ (r := { game := s.game }) ⟨rfl, rfl⟩
    rintro part hpart r r' hwrite ⟨hlog, hsink⟩
    obtain ⟨hlog', hsink'⟩ := hwrite.spares_log (Operation.ne_log_of_mem_parts ho hpart)
    exact ⟨hlog'.trans hlog, hsink'.trans hsink⟩
  have htext := text?_of_other ho
  exact { text_isSome := by simp [htext, ho], log := by simp [htext, hspared.1],
          sink := by simp [htext, hspared.2] }

/-- A step adds the text it has to the log and gives it to the reader. It has one just if it is a
`log` effect that completes. -/
theorem logged (b : Rulebook) (s : Step) : Logs b s := by
  cases ho : s.leaf.operation.isLog with
  | false => exact logs_of_other b ho
  | true =>
    obtain ⟨⟨c, o⟩, g⟩ := s
    cases o with
    | log template => exact logs_of_log b c template g
    | _ => cases ho

end Step

/-! ## Calls -/

theorem Play.runOf_joinResult {α : Type} (r : Run) (res : EStateM.Result Failure Run α) :
    runOf (r.joinResult res) = r.join (runOf res) := by cases res <;> rfl

/-- Along a walk the log and what its reader was given grow by the texts of the steps. -/
theorem Walk.logged {b : Rulebook} {g : Game} {ss : List Step}
    {res : EStateM.Result Failure Run Unit} (h : Walk b g ss res) :
    (Play.runOf res).game.log = g.log ++ (ss.filterMap Step.text?).map Value.text ∧
      (Play.runOf res).sink = ss.filterMap Step.text? := by
  induction h with
  | done g => simp [Play.runOf]
  | refused g e => simp [Play.runOf]
  | @failed s e r f hs =>
    have hlogged := s.logged b
    have htext : s.text? = none := by
      simpa [Step.completes_of_error hs] using hlogged.text_isSome
    have hlog := hlogged.log
    have hsink := hlogged.sink
    rw [Step.left_of_error hs] at hlog hsink
    simpa [Play.runOf, htext] using And.intro hlog hsink
  | @next s r ss res hs _ ih =>
    have hlog := (s.logged b).log
    have hsink := (s.logged b).sink
    rw [Step.left_of_ok hs] at hlog hsink
    have htexts : (s :: ss).filterMap Step.text? = s.text?.toList ++ ss.filterMap Step.text? := by
      cases htext : s.text? <;> simp [htext]
    rw [Play.runOf_joinResult, htexts]
    constructor
    · rw [Run.join_game, ih.1, hlog]
      simp
    · rw [Run.join, ih.2, hsink]

/-- A run carried on by calls one after another, also behind one that failed. -/
def Run.after (b : Rulebook) : Run → List Call → Run
  | r, [] => r
  | r, call :: calls => (Play.runOf (call.play b r)).after b calls

/-- A call carries a run on as it runs on the game alone. -/
theorem Call.runOf_play (b : Rulebook) (call : Call) (r : Run) :
    Play.runOf (call.play b r) = r.join (Play.runOf (call.play b { game := r.game })) := by
  rw [call.framed_play b r, Play.runOf_joinResult]

theorem Call.game_play (b : Rulebook) (call : Call) (r : Run) :
    (Play.runOf (call.play b r)).game = r.game.afterCall b call := by
  rw [call.runOf_play, Run.join_game, Play.game_runOf, Game.afterCall]

theorem Run.game_after (b : Rulebook) (calls : List Call) (r : Run) :
    (r.after b calls).game = r.game.after b calls := by
  induction calls generalizing r with
  | nil => rfl
  | cons call calls ih =>
    rw [Run.after, ih, call.game_play, Game.after, Game.after, List.foldl_cons]

/-- From call to call the log and what its reader was given grow by the texts of the steps. -/
theorem Run.logged_after (b : Rulebook) (calls : List Call) (r : Run) :
    (r.after b calls).game.log =
        r.game.log ++ ((history b r.game calls).filterMap Step.text?).map Value.text ∧
      (r.after b calls).sink = r.sink ++ (history b r.game calls).filterMap Step.text? := by
  induction calls generalizing r with
  | nil => simp [Run.after, history]
  | cons call calls ih =>
    obtain ⟨hlog, hsink⟩ := (call.walk b r.game).logged
    obtain ⟨ihlog, ihsink⟩ := ih (Play.runOf (call.play b r))
    rw [call.game_play] at ihlog ihsink
    rw [Run.after, history, List.filterMap_append]
    constructor
    · rw [ihlog, ← call.game_play, call.runOf_play, Run.join_game, hlog]
      simp
    · rw [ihsink, call.runOf_play, Run.join, hsink]
      simp

/-- After any calls, whether they end well or fail, the log is what it was and behind it the texts
that its reader was given meanwhile: one for each `log` effect that completed, in the order in which
the effects ran. Any other step, in whatever game and whatever flag it writes, leaves the log as it
was. -/
theorem log_mirrors_reader (b : Rulebook) (r : Run) (calls : List Call) :
    (r.after b calls).sink = r.sink ++ (history b r.game calls).filterMap Step.text? ∧
      (r.game.after b calls).log =
        r.game.log ++ ((history b r.game calls).filterMap Step.text?).map Value.text ∧
      ∀ s : Step,
        (s.text?.isSome = true ↔ s.completes b = true ∧ s.leaf.operation.isLog = true) ∧
          (s.text? = none → (s.left b).game.log = s.game.log) := by
  obtain ⟨hlog, hsink⟩ := Run.logged_after b calls r
  refine ⟨hsink, ?_, fun s => ⟨(s.logged b).text_isSome, fun htext => ?_⟩⟩
  · rw [← Run.game_after, hlog]
  · rw [(s.logged b).log, htext]
    exact List.append_nil _

/-- The log goes on behind the call that failed. -/
example : (Run.after Sample.rulebook { game := Sample.game }
    [Sample.trade, .effect { playerId := .int 2 } [("op", .text "log"), ("template", .text "hi")]]
    ).game.log = [.text "hi"] := by
  decide +kernel

end CardRules
