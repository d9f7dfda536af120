import CardRules.Proofs.Play.History
import CardRules.Proofs.Play.Refusal

/-!
# Replaying a call

A call that ends well or in a rule error has done exactly what its completed leaf effects do when
they are carried out one after another, without the branches, gates and abilities around them
(`play_eq_replay`). A leaf effect that completes leaves a game to which this applies again
(`perform_parallel`), and one that is refused leaves no trace (`perform_refused`).
-/

namespace CardRules

/-- The end is a good one or a rule error, and leaves the run. -/
def Play.EndsIn (res : EStateM.Result Failure Run Unit) (r : Run) : Prop :=
  res = .ok () r ∨ ∃ e, res = .error (.rule e) r

theorem Play.EndsIn.of_join {r r' : Run} {res : EStateM.Result Failure Run Unit}
    (h : EndsIn (r.joinResult res) r') : ∃ r'', EndsIn res r'' ∧ r' = r.join r'' := by
  cases res with
  | ok u r'' =>
    rcases h with h | ⟨e, h⟩
    · cases h
      exact ⟨r'', .inl rfl, rfl⟩
    · cases h
  | error e r'' =>
    rcases h with h | ⟨e, h⟩
    · cases h
    · cases h
      exact ⟨r'', .inr ⟨e, rfl⟩, rfl⟩

/-- Carries out leaf effects one after another. -/
def replay (b : Rulebook) (leaves : List Leaf) : Play Unit := leaves.forM (Leaf.perform b)

theorem framed_replay (b : Rulebook) (leaves : List Leaf) : Play.Framed (replay b leaves) :=
  Play.framed_forM fun l => Play.framed_perform b l.circumstances l.operation

namespace Step

variable {b : Rulebook} {s : Step}

theorem left_of_refused {e : RuleError} {r : Run} (hs : s.game.Parallel)
    (h : s.result b = .error (.rule e) r) : s.left b = { game := s.game } := by
  rw [left_of_error h]
  exact Play.perform_refused (r := { game := s.game }) hs b _ _ e r h

theorem parallel_of_ok {r : Run} (hs : s.game.Parallel) (hspares : s.SparesHands b)
    (h : s.result b = .ok () r) : r.game.Parallel :=
  Play.perform_parallel b _ (hspares (completes_of_ok h)) { game := s.game } () r hs h

end Step

/-- The end of a walk without faults is that of a replay of its completed steps. -/
theorem Walk.eq_replay {b : Rulebook} {g : Game} {ss : List Step}
    {res : EStateM.Result Failure Run Unit} (h : Walk b g ss res) (hg : g.Parallel)
    (hspares : ∀ s ∈ ss, s.SparesHands b) {r' : Run} (hend : Play.EndsIn res r') :
    replay b ((ss.filter (·.completes b)).map Step.leaf) { game := g } = .ok () r' ∧
      r'.events = (ss.filter (·.completes b)).flatMap (fun s => (s.left b).events) ∧
      ∀ s ∈ ss, s.completes b = false → s.left b = { game := s.game } := by
  induction h generalizing r' with
  | done g =>
    rcases hend with hend | ⟨e, hend⟩
    · cases hend
      exact ⟨rfl, rfl, by simp⟩
    · cases hend
  | refused g e =>
    rcases hend with hend | ⟨e, hend⟩
    · cases hend
    · cases hend
      exact ⟨rfl, rfl, by simp⟩
  | @failed s e r f hs =>
    cases e with
    | fault e => rcases hend with hend | ⟨e, hend⟩ <;> cases hend
    | rule e =>
      rcases hend with hend | ⟨e, hend⟩
      · cases hend
      · cases hend
        have hleft := Step.left_of_refused hg hs
        rw [Step.left_of_error hs] at hleft
        have hdone : [s].filter (·.completes b) = [] := by simp [Step.completes_of_error hs]
        rw [hdone, hleft]
        refine ⟨rfl, rfl, fun t ht _ => ?_⟩
        rw [List.mem_singleton.1 ht]
        exact Step.left_of_refused hg hs
  | @next s r ss res hs hw ih =>
    have hr := Step.parallel_of_ok hg (hspares s List.mem_cons_self) hs
    obtain ⟨r'', hend', rfl⟩ := hend.of_join
    obtain ⟨hreplay, hevents, hfailed⟩ :=
      ih hr (fun t ht => hspares t (List.mem_cons_of_mem _ ht)) hend'
    have hdone : (s :: ss).filter (·.completes b) = s :: ss.filter (·.completes b) := by
      simp [Step.completes_of_ok hs]
    rw [hdone]
    refine ⟨?_, ?_, fun t ht hcompletes => ?_⟩
    · have hcons : replay b ((s :: ss.filter (·.completes b)).map Step.leaf) { game := s.game } =
          (s.leaf.perform b >>= fun _ => replay b ((ss.filter (·.completes b)).map Step.leaf))
            { game := s.game } := rfl
      rw [hcons, Play.bind_of_ok hs, framed_replay b _ r, hreplay]
      rfl
    · rw [Run.join_events, hevents, List.flatMap_cons, Step.left_of_ok hs]
    · rcases List.mem_cons.1 ht with rfl | ht
      · rw [Step.completes_of_ok hs] at hcompletes
        cases hcompletes
      · exact hfailed t ht hcompletes

/-- The leaf effects that a call completes, in the order in which it does. -/
def Call.completed (b : Rulebook) (g : Game) (call : Call) : List Step :=
  (call.steps b g).filter (·.completes b)

/-- Whether a run ended in a rule error. -/
def Play.refused : EStateM.Result Failure Run Unit → Bool
  | .error (.rule _) _ => true
  | _ => false

end CardRules
