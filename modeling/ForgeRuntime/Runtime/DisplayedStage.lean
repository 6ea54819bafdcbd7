import ForgeRuntime.Runtime.PendingDecision

/-!
# The stage that is shown

The session shows a stage of its own beside the one at which the orchestrator stands.  Most operations take the
stage that they show from the orchestrator; `reject`, `recordCompletionOmission` and `retryGrillRound` show
`GRILL` wherever the orchestrator stands.

* `step_showsRealStage` — from a state that shows the real stage, a step shows another one exactly when it is one
  of these three, away from `GRILL`;
* `shown_stage_is_real` — the runs in which the two stages never part;
* `reject_shows_another_stage` — a run in which they do.
-/

namespace ForgeRuntime

open EventDriven EventDriven.Machine EventDriven.Turn

variable {digest : String → String}

/-- The stage of the orchestrator, `RECEIVE` when there is none. -/
def SessionState.realStage (s : SessionState) : WorkflowStage := s.orchestrator.getD .receive

/-- The stage that is shown is one of the two refusals, or the real one. -/
def ShowsRealStage (s : SessionState) : Prop :=
  s.uiState.stage = .confirmRejectedWaitUserRequired ∨ s.uiState.stage = .answerRejectedWaitUserRequired ∨
    s.uiState.stage = .workflow s.realStage

instance (s : SessionState) : Decidable (ShowsRealStage s) := inferInstanceAs (Decidable (_ ∨ _))

/-- The operation shows `GRILL` while the orchestrator stands, and stays, elsewhere. -/
def ShowsGrillElsewhere (s : SessionState) : SessionOp → Prop
  | .reject _ => s.realStage ≠ .grill ∧ s.realStage ≠ .waitUser
  | .recordCompletionOmission => s.realStage ≠ .grill ∧ s.completionOmissionRecorded = false
  | .retryGrillRound => s.realStage ≠ .grill ∧ s.currentGrillRound ≠ none ∧
      s.uiState.validationRepair.map (·.rootCause) = some "RECOVERY_REQUIRED"
  | _ => False

theorem showsGrill_iff {s t : SessionState} (hshown : t.uiState.stage = .workflow .grill)
    (hreal : t.orchestrator = s.orchestrator) : ShowsRealStage t ↔ s.realStage = .grill := by
  simp [ShowsRealStage, SessionState.realStage, hshown, hreal, eq_comm]

/-- The other moves show where the orchestrator stands. -/
theorem move_showsRealStage {s t : SessionState} {op : SessionOp} {r : SessionOutcome}
    (h : SessionMove digest s op r t) (hs : ShowsRealStage s) (hop : ¬ ShowsGrillElsewhere s op) :
    ShowsRealStage t := by
  cases h with
  | orchestratorCreated hnone => simpa [ShowsRealStage, SessionState.realStage, hnone] using hs
  | confirmRefused => exact .inl rfl
  | answerRefused => exact .inr (.inl rfl)
  | grillRetried hr hround hrequired =>
      refine (showsGrill_iff rfl rfl).mpr ?_
      by_contra hstage
      exact hop ⟨hstage, hround, hrequired⟩
  | omissionRecorded hr hunrecorded =>
      refine (showsGrill_iff rfl rfl).mpr ?_
      by_contra hstage
      exact hop ⟨hstage, hunrecorded⟩
  | rejected hr =>
      by_cases hwaits : s.orchestrator = some .waitUser
      · simp [ShowsRealStage, SessionState.realStage, hwaits]
      · refine (showsGrill_iff rfl (if_neg hwaits)).mpr ?_
        by_contra hstage
        refine hop ⟨hstage, fun hwait => ?_⟩
        unfold SessionState.realStage at hwait
        cases horch : s.orchestrator with
        | none => simp [horch] at hwait
        | some stage => simp_all
  | answered hr horch hpending hkind hguard hcontinues => cases hcontinues <;> exact .inr (.inr rfl)
  | roundStarted hr first hfirst =>
      cases first with
      | true => exact hs
      | false => exact hs
  | _ =>
      first
      | exact hs
      | exact .inr (.inr rfl)

/-! ### The three operations -/

theorem reject_shows_grill {s : SessionState} (selection : Option String)
    (h : s.realStage ≠ .grill ∧ s.realStage ≠ .waitUser) :
    ¬ ShowsRealStage (sessionStep digest (.reject selection) s).2 := by
  have hwaits : s.orchestrator ≠ some .waitUser := by
    intro hwaits
    exact h.2 (by rw [SessionState.realStage, hwaits]; rfl)
  rw [showsGrill_iff (s := s)]
  · exact h.1
  · simp [sessionStep, Session.runOp, map_apply, Session.reject, hwaits]
  · simp [sessionStep, Session.runOp, map_apply, Session.reject, hwaits]

theorem omission_shows_grill {s : SessionState} (h : s.realStage ≠ .grill)
    (hunrecorded : s.completionOmissionRecorded = false) :
    ¬ ShowsRealStage (sessionStep digest .recordCompletionOmission s).2 := by
  rw [showsGrill_iff (s := s)]
  · exact h
  · simp [sessionStep, Session.runOp, map_apply, Session.recordCompletionOmission, hunrecorded]
  · simp [sessionStep, Session.runOp, map_apply, Session.recordCompletionOmission, hunrecorded]

theorem retry_shows_grill {s : SessionState} (h : s.realStage ≠ .grill) (hround : s.currentGrillRound ≠ none)
    (hrequired : s.uiState.validationRepair.map (·.rootCause) = some "RECOVERY_REQUIRED") :
    ¬ ShowsRealStage (sessionStep digest .retryGrillRound s).2 := by
  obtain ⟨round, hsome⟩ := Option.ne_none_iff_exists'.mp hround
  have hshows : (sessionStep digest .retryGrillRound s).2.uiState.stage = .workflow .grill ∧
      (sessionStep digest .retryGrillRound s).2.orchestrator = s.orchestrator := by
    simp only [sessionStep, Session.runOp, map_apply, Session.retryGrillRound, get_bind_apply, hsome,
      ite_apply_state, hrequired, ne_eq, not_true_eq_false, if_false, modify_bind_apply, pure_apply, and_self]
  exact fun hshown => h ((showsGrill_iff hshows.1 hshows.2).mp hshown)

theorem overwrites_shown_stage {s : SessionState} {op : SessionOp} (h : ShowsGrillElsewhere s op) :
    ¬ ShowsRealStage (sessionStep digest op s).2 := by
  cases op with
  | reject selection => exact reject_shows_grill selection h
  | recordCompletionOmission => exact omission_shows_grill h.1 h.2
  | retryGrillRound => exact retry_shows_grill h.1 h.2.1 h.2.2
  | _ => exact h.elim

/-! ### Runs -/

theorem step_showsRealStage (s : SessionState) (op : SessionOp) (hs : ShowsRealStage s) :
    ShowsRealStage (sessionStep digest op s).2 ↔ ¬ ShowsGrillElsewhere s op := by
  constructor
  · exact fun hshown helsewhere => overwrites_shown_stage helsewhere hshown
  · exact move_showsRealStage (step_move digest s op) hs

/-- **The shown stage is the real one.**  In a run of the session every state shows the stage of the orchestrator,
or a refusal, exactly when no step shows `GRILL` while the orchestrator stands elsewhere. -/
theorem shown_stage_is_real (digest : String → String) (ops : List SessionOp) :
    (∀ pre, pre <+: ops → ShowsRealStage (sessionAfter digest pre)) ↔
      Admissible (sessionStep digest) (fun s op => ¬ ShowsGrillElsewhere s op) createForgeSessionState ops :=
  holds_in_prefixes_iff step_showsRealStage (.inr (.inr rfl)) ops

/-- **A rejection before anything has begun.**  `GRILL` is shown, and there is no orchestrator. -/
theorem reject_shows_another_stage :
    ¬ ∀ ops op, ShowsRealStage (sessionStep id op (sessionAfter id ops)).2 :=
  fun hall => reject_shows_grill none (by decide) (hall [] (.reject none))

end ForgeRuntime
