import ForgeRuntime.Runtime.SessionMoves

/-!
# The state that an operation shows

Most operations of the session answer with a state for the user.  `ShowsUi` says that this is the state the
session then stands at, so that a caller who looks at the answer looks at the session.
-/

namespace ForgeRuntime

open EventDriven EventDriven.Text EventDriven.Turn

/-- The phase in which `retryDeepKnowledge` starts again. -/
def SessionState.retryPhase? (s : SessionState) : Option DeepAttemptPhase :=
  s.deepRetryPhase <|> s.resumableDeepPhase

namespace Session

/-- On return, the result is the state at which the session stands. -/
def ShowsUi (m : Session ForgeUiState) : Prop := ∀ s ui t, m s = (.ok ui, t) → ui = t.uiState

theorem showsUi_bind {α : Type} {m : Session α} {f : α → Session ForgeUiState} (h : ∀ a, ShowsUi (f a)) :
    ShowsUi (m >>= f) := by
  intro s ui t hrun
  rw [bind_apply] at hrun
  rcases hm : m s with ⟨_ | a, t'⟩
  · rw [hm] at hrun
    exact absurd (congrArg Prod.fst hrun) (by simp)
  · rw [hm] at hrun
    exact h a t' ui t hrun

theorem showsUi_setUi (update : ForgeUiState → ForgeUiState) : ShowsUi (setUi update) := by
  intro s ui t hrun
  rw [setUi_apply] at hrun
  cases hrun
  rfl

theorem showsUi_throw (error : String) : ShowsUi (throw error) := by
  intro s ui t hrun
  exact absurd (congrArg Prod.fst hrun) (by simp)

theorem showsUi_beginGrill (summary : Option String) : ShowsUi (beginGrill summary) :=
  showsUi_bind fun _ => showsUi_bind fun _ => showsUi_setUi _

theorem showsUi_continueAfterAnswer (pending : WaitUserState) (answer : String) :
    ShowsUi (continueAfterAnswer pending answer) := by
  unfold continueAfterAnswer
  split
  · exact showsUi_bind fun _ => showsUi_bind fun _ => showsUi_setUi _
  · exact showsUi_bind fun _ => showsUi_bind fun _ => showsUi_setUi _
  · exact showsUi_setUi _
  · exact showsUi_setUi _
  · exact showsUi_bind fun _ => showsUi_setUi _

theorem showsUi_askCheckpoint (pending : WaitUserState) : ShowsUi (askCheckpoint pending) := by
  refine showsUi_bind fun s => ?_
  rcases s.currentGrillRound with _ | round
  · exact showsUi_throw _
  · refine showsUi_bind fun _ => showsUi_bind fun stage => ?_
    intro s ui t hrun
    simp only [setUi_bind_apply, modify_bind_apply, pure_apply] at hrun
    cases hrun
    rfl

theorem showsUi_acceptAnswer (digest : String → String) (pending : WaitUserState) (answer : String) :
    ShowsUi (acceptAnswer digest pending answer) := by
  unfold acceptAnswer
  split
  · exact showsUi_bind fun _ => showsUi_bind fun _ => showsUi_beginGrill none
  · refine showsUi_bind fun _ => ?_
    split
    · refine showsUi_bind fun _ => showsUi_bind fun s => ?_
      split
      · exact showsUi_askCheckpoint pending
      · exact showsUi_continueAfterAnswer pending answer
    · exact showsUi_continueAfterAnswer pending answer

theorem showsUi_recordAnswer (digest : String → String) (answer : String) :
    ShowsUi (recordAnswer digest answer) := by
  intro s ui t hrun
  simp only [recordAnswer, get_bind_apply] at hrun
  split at hrun
  · exact showsUi_setUi _ s ui t hrun
  · cases hpending : s.uiState.waitUser with
    | none =>
        simp only [hpending] at hrun
        exact absurd (congrArg Prod.fst hrun) (by simp)
    | some pending =>
        simp only [hpending] at hrun
        split at hrun
        · cases hrun
          rfl
        · exact showsUi_acceptAnswer digest pending answer s ui t hrun

/-- A decision is shown. -/
def ShowsDecision (s : SessionState) : Prop :=
  s.uiState.stage = .workflow .waitUser ∧ s.uiState.waitUser ≠ none

/-- The answer to a result of a Deep step: it is stale, or it is accepted and shown. -/
def ShownDeep (identity : DeepAttemptIdentity) (result : DeepCallResult) (t : SessionState) : Prop :=
  (∃ expected received, result = .stale expected received) ∨ result = .accepted t.uiState identity

theorem handleNeedsDecision_shows (identity : DeepAttemptIdentity) (decision : DeepNeedsDecisionResult)
    {s t : SessionState} {result : DeepCallResult}
    (h : handleNeedsDecision identity decision s = (.ok result, t)) : ShownDeep identity result t := by
  simp only [handleNeedsDecision, get_bind_apply, ite_apply_state, pure_apply, ensureOrchestrator_bind_apply,
    transitionTo_bind_apply, setUi_bind_apply, modify_bind_apply] at h
  split at h
  · cases h
    exact .inl ⟨_, _, rfl⟩
  · split at h
    · cases h
      exact .inr rfl
    · cases h

theorem handleNeedsDiscovery_shows (identity : DeepAttemptIdentity) (summary : Option String)
    {s t : SessionState} {result : DeepCallResult}
    (h : handleNeedsDiscovery identity summary s = (.ok result, t)) : ShownDeep identity result t := by
  simp only [handleNeedsDiscovery, get_bind_apply, ite_apply_state, pure_apply, ensureOrchestrator_bind_apply,
    transitionTo_bind_apply, setUi_bind_apply, modify_bind_apply] at h
  split at h
  · cases h
    exact .inl ⟨_, _, rfl⟩
  · split at h
    · split at h
      · cases h
        exact .inr rfl
      · cases h
    · split at h
      · cases h
        exact .inr rfl
      · cases h

/-- An ambiguity that is accepted is shown. -/
theorem askAmbiguity_shows {kind : WaitUserKind} {stage : WorkflowStage} {sourceRoundId : String}
    {ambiguity : ContextAmbiguity} {s t : SessionState} {ui : ForgeUiState}
    (h : askAmbiguity kind stage sourceRoundId ambiguity s = (.ok ui, t)) : ShowsDecision t := by
  simp only [askAmbiguity, transitionTo_bind_apply, setUi_apply] at h
  split at h
  · cases h
    exact ⟨rfl, by simp⟩
  · cases h

theorem completeContextBuild_shows {identity accepted : ContextBuildIdentity}
    {completion : ContextBuildCompletion} {s t : SessionState} {ui : ForgeUiState}
    (h : completeContextBuild identity completion s = (.ok (.ambiguous ui accepted), t)) :
    ShowsDecision t := by
  simp only [completeContextBuild, get_bind_apply, ite_apply_state, pure_apply] at h
  split at h
  · cases h
  split at h
  · cases h
  cases hpackage : s.knowledgeUnderstandingPackage with
  | none =>
      simp only [hpackage] at h
      cases h
  | some package =>
      simp only [hpackage] at h
      cases completion with
      | ambiguous ambiguity =>
          simp only [ite_apply_state, pure_apply] at h
          split at h
          · cases h
          rcases hask : askAmbiguity .contextAmbiguity .contextBuild identity.sourceRoundId ambiguity s with
            ⟨error | shown, t'⟩
          · rw [bind_eq_error hask] at h
            cases h
          · rw [bind_eq_ok hask, modify_bind_apply, pure_apply] at h
            cases h
            have hshows : ShowsDecision t' := askAmbiguity_shows hask
            exact hshows
      | completed candidate =>
          simp only [ite_apply_state, pure_apply] at h
          split at h
          · cases h
          · simp only [acceptContextCandidate, bind_apply, tryCatch_apply, transitionTo_apply] at h
            split at h
            · cases h
            · cases h

theorem requireAdrDecision_shows {identity accepted : AdrBuildIdentity} {ambiguity : ContextAmbiguity}
    {s t : SessionState} {ui : ForgeUiState}
    (h : requireAdrDecision identity ambiguity s = (.ok (.ambiguous ui accepted), t)) :
    ShowsDecision t := by
  simp only [requireAdrDecision, get_bind_apply, ite_apply_state, pure_apply] at h
  split at h
  · cases h
  split at h
  · cases h
  cases hpackage : s.knowledgeUnderstandingPackage with
  | none =>
      simp only [hpackage] at h
      cases h
  | some package =>
      simp only [hpackage, ite_apply_state, pure_apply] at h
      split at h
      · cases h
      rcases hask : askAmbiguity .adrAmbiguity .adrBuild identity.sourceRoundId ambiguity s with
        ⟨error | shown, t'⟩
      · rw [bind_eq_error hask] at h
        cases h
      · rw [bind_eq_ok hask, modify_bind_apply, pure_apply] at h
        cases h
        have hshows : ShowsDecision t' := askAmbiguity_shows hask
        exact hshows

/-- A question is never an acceptance. -/
theorem requireAdrDecision_ne_accepted {identity accepted : AdrBuildIdentity} {ambiguity : ContextAmbiguity}
    {s t : SessionState} {ui : ForgeUiState} :
    requireAdrDecision identity ambiguity s ≠ (.ok (.accepted ui accepted), t) := by
  intro h
  simp only [requireAdrDecision, get_bind_apply, ite_apply_state, pure_apply] at h
  split at h
  · cases h
  split at h
  · cases h
  cases hpackage : s.knowledgeUnderstandingPackage with
  | none =>
      simp only [hpackage] at h
      cases h
  | some package =>
      simp only [hpackage, ite_apply_state, pure_apply] at h
      split at h
      · cases h
      rcases hask : askAmbiguity .adrAmbiguity .adrBuild identity.sourceRoundId ambiguity s with
        ⟨error | shown, t'⟩
      · rw [bind_eq_error hask] at h
        cases h
      · rw [bind_eq_ok hask, modify_bind_apply, pure_apply] at h
        cases h

/-- A candidate asks no question. -/
theorem prepareAdrBuild_ne_ambiguous {identity accepted : AdrBuildIdentity} {candidate : AdrBuildCandidate}
    {s t : SessionState} {ui : ForgeUiState} :
    prepareAdrBuild identity candidate s ≠ (.ok (.ambiguous ui accepted), t) := by
  intro h
  simp only [prepareAdrBuild, get_bind_apply, ite_apply_state, pure_apply] at h
  split at h
  · cases h
  split at h
  · cases h
  cases hpackage : s.knowledgeUnderstandingPackage with
  | none =>
      simp only [hpackage] at h
      cases h
  | some package =>
      simp only [hpackage, ite_apply_state, pure_apply] at h
      split at h
      · cases h
      · cases h

/-- A `begin…` operation that returns has entered its stage. -/
theorem beginStage_enters (target : WorkflowStage) (summary : Option String) {s t : SessionState}
    {ui : ForgeUiState} (h : beginStage target summary s = (.ok ui, t)) :
    t.orchestrator = some target ∧ t.uiState.stage = .workflow target := by
  simp only [beginStage, ensureOrchestrator_bind_apply, enterStage_bind_apply, setUi_apply] at h
  split at h
  case isTrue hsame =>
    cases h
    exact ⟨congrArg some hsame, by simp⟩
  case isFalse =>
    split at h
    · cases h
      exact ⟨rfl, rfl⟩
    · cases h

/-- The phase of the attempt that was issued. -/
theorem beginDeepKnowledge_issues (summary : Option String) (phase : DeepAttemptPhase) {s t : SessionState}
    {ui : ForgeUiState} (h : beginDeepKnowledge summary phase s = (.ok ui, t)) :
    t.deepAttempt.map (·.phase) = some phase := by
  simp only [beginDeepKnowledge, get_bind_apply] at h
  cases hround : s.currentGrillRound with
  | none =>
      simp only [hround] at h
      cases h
  | some round =>
      simp only [hround, orchestratorFrom_bind_apply, enterStage_bind_apply, setUi_bind_apply,
        issueDeepAttempt_bind_apply, pure_apply] at h
      split at h
      · cases h
        rfl
      · split at h
        · cases h
          rfl
        · cases h

/-- The attempt that was issued is one for the round that was current. -/
theorem beginDeepKnowledge_source (summary : Option String) (phase : DeepAttemptPhase) {s t : SessionState}
    {ui : ForgeUiState} (h : beginDeepKnowledge summary phase s = (.ok ui, t)) :
    t.deepAttempt.map (·.sourceRoundId) = s.currentGrillRound.map (·.roundId) := by
  simp only [beginDeepKnowledge, get_bind_apply] at h
  cases hround : s.currentGrillRound with
  | none =>
      simp only [hround] at h
      cases h
  | some round =>
      simp only [hround, orchestratorFrom_bind_apply, enterStage_bind_apply, setUi_bind_apply,
        issueDeepAttempt_bind_apply, pure_apply] at h
      split at h
      · cases h
        rfl
      · split at h
        · cases h
          rfl
        · cases h

/-- The attempt that stands after a retry is of the phase that was to start again, or it stood before. -/
theorem retryDeepKnowledge_phase (summary : Option String) {s t : SessionState} {ui : ForgeUiState}
    (h : retryDeepKnowledge summary s = (.ok ui, t)) {phase : DeepAttemptPhase}
    (hphase : t.deepAttempt.map (·.phase) = some phase) :
    s.retryPhase? = some phase ∨ s.deepAttempt.map (·.phase) = some phase := by
  simp only [retryDeepKnowledge, get_bind_apply] at h
  cases hround : s.currentGrillRound with
  | none =>
      simp only [hround, pure_apply] at h
      cases h
      exact .inr hphase
  | some round =>
      cases hretry : s.retryPhase? with
      | none =>
          rw [SessionState.retryPhase?] at hretry
          simp only [hround, hretry, pure_apply] at h
          cases h
          exact .inr hphase
      | some retried =>
          rw [SessionState.retryPhase?] at hretry
          simp only [hround, hretry, modify_bind_apply, setUi_bind_apply, issueDeepAttempt_bind_apply,
            pure_apply] at h
          cases h
          exact .inl hphase

/-- The end of the retrieval phase is refused and nothing is written, or it is accepted: the evidence is locked
and the attempt moves on. -/
theorem completeDeepRetrieval_cases (inherited : List EvidenceInput) (summary : Option String)
    (identity : DeepAttemptIdentity) (s : SessionState) :
    (∃ r, completeDeepRetrieval inherited summary identity s = (r, s) ∧ ∀ ui j, r ≠ .ok (.accepted ui j)) ∨
    ∃ ui, completeDeepRetrieval inherited summary identity s =
      (.ok (.accepted ui { identity with phase := .knowledgeUnderstanding }),
        { s with
          orchestrator := some .knowledgeUnderstanding
          uiState := ui
          deepAttempt := some { identity with phase := .knowledgeUnderstanding }
          lockedDeepEvidence := some ⟨inherited, s.deepSupplementalEvidence.values⟩ }) := by
  simp only [completeDeepRetrieval, get_bind_apply]
  rcases completeDeepKnowledge_cases s
      ((inherited ++ s.deepSupplementalEvidence.values).map (·.evidenceId)) summary identity with
    ⟨result, hrun, hnot⟩ | ⟨error, hrun⟩ | ⟨-, -, shown, -, hrun⟩
  · rw [bind_eq_ok hrun]
    cases result with
    | accepted shown j => exact absurd rfl (hnot shown j)
    | stale expected received => exact .inl ⟨_, rfl, by simp⟩
    | invalid shown errors => exact .inl ⟨_, rfl, by simp⟩
  · rw [bind_eq_error hrun]
    exact .inl ⟨_, rfl, by simp⟩
  · rw [bind_eq_ok hrun]
    exact .inr ⟨shown, rfl⟩

/-- **An accepted end of the retrieval phase** locks the evidence and moves the attempt on. -/
theorem completeDeepRetrieval_accepts {inherited : List EvidenceInput} {summary : Option String}
    {identity accepted : DeepAttemptIdentity} {s t : SessionState} {ui : ForgeUiState}
    (h : completeDeepRetrieval inherited summary identity s = (.ok (.accepted ui accepted), t)) :
    accepted = { identity with phase := .knowledgeUnderstanding } ∧
      t = { s with
        orchestrator := some .knowledgeUnderstanding
        uiState := ui
        deepAttempt := some accepted
        lockedDeepEvidence := some ⟨inherited, s.deepSupplementalEvidence.values⟩ } := by
  rcases completeDeepRetrieval_cases inherited summary identity s with ⟨r, hrun, hnot⟩ | ⟨shown, hrun⟩
  · rw [hrun] at h
    cases h
    exact absurd rfl (hnot ui accepted)
  · rw [hrun] at h
    cases h
    exact ⟨rfl, rfl⟩

/-- An item of a search is stale, refused for the content that its ID stands for, or accepted. -/
theorem recordDeepSupplementalEvidence_cases (identity : DeepAttemptIdentity) (item : EvidenceInput)
    (s : SessionState) :
    (s.deepAttempt ≠ some identity ∧ ∃ expected,
      recordDeepSupplementalEvidence identity item.evidenceId (some item) s =
        (.ok (.stale expected identity), s)) ∨
    (∃ existing error, s.deepSupplementalEvidence.get? item.evidenceId = some existing ∧
      existing.content ≠ item.content ∧
      recordDeepSupplementalEvidence identity item.evidenceId (some item) s = (.error error, s)) ∨
    (s.deepAttempt = some identity ∧
      (∀ existing, s.deepSupplementalEvidence.get? item.evidenceId = some existing →
        existing.content = item.content) ∧
      ∃ ui t, recordDeepSupplementalEvidence identity item.evidenceId (some item) s =
        (.ok (.accepted ui identity), t)) := by
  by_cases hlive : s.deepAttempt = some identity
  · cases hheld : s.deepSupplementalEvidence.get? item.evidenceId with
    | none =>
        refine .inr (.inr ⟨hlive, nofun, s.uiState,
          (recordDeepSupplementalEvidence identity item.evidenceId (some item) s).2, ?_⟩)
        simp [recordDeepSupplementalEvidence, hlive, hheld]
    | some existing =>
        by_cases hcontent : existing.content = item.content
        · refine .inr (.inr ⟨hlive, ?_, s.uiState, s, ?_⟩)
          · intro other hother
            rw [← Option.some.inj hother]
            exact hcontent
          · simp [recordDeepSupplementalEvidence, hlive, hheld, hcontent]
        · refine .inr (.inl ⟨existing, "evidence_id_content_conflict", rfl, hcontent, ?_⟩)
          simp [recordDeepSupplementalEvidence, hlive, hheld, Ne.symm hcontent]
  · refine .inl ⟨hlive, s.deepAttempt, ?_⟩
    simp [recordDeepSupplementalEvidence, hlive]

end Session

/-- A bookkeeping operation is none of those that enter a stage, ask, or end the retrieval. -/
theorem bookkeeping_only {op : SessionOp} {identity : DeepAttemptIdentity}
    (hop : op.bookkeepingIdentity? = some identity) :
    op.entry? = none ∧ op.issuesDeep = false ∧ op.question? = none ∧ op.retrievalIdentity? = none := by
  cases op with
  | recordDeepSupplementalEvidence | consumeDeepSearchBudget | reserveDeepSearchBudget
  | commitDeepSearchBudget | releaseDeepSearchBudget => exact ⟨rfl, rfl, rfl, rfl⟩
  | _ => cases hop

/-- Bookkeeping leaves the live attempt. -/
theorem bookkeeping_deepAttempt (digest : String → String) {op : SessionOp} {identity : DeepAttemptIdentity}
    (hop : op.bookkeepingIdentity? = some identity) (s : SessionState) :
    (sessionStep digest op s).2.deepAttempt = s.deepAttempt := by
  obtain ⟨hentry, hissues, hquestion, hretrieval⟩ := bookkeeping_only hop
  have hmove := step_move digest s op
  generalize (sessionStep digest op s).1 = r at hmove
  generalize (sessionStep digest op s).2 = t at hmove ⊢
  cases hmove with
  | refused | orchestratorCreated | bookkept => rfl
  | entered hr hstage => exact absurd (hentry.symm.trans hstage) (by simp)
  | deepIssued hr hdeep => exact absurd (hissues.symm.trans hdeep) (by simp)
  | asked hr hasked => exact absurd (hquestion.symm.trans hasked) (by simp)
  | retrievalEnded hended => exact absurd (hretrieval.symm.trans hended) (by simp)
  | _ => cases hop

/-- An answer leaves the Deep attempts as they are. -/
theorem recordAnswer_keepsDeep (digest : String → String) (answer : String) (s : SessionState) :
    (sessionStep digest (.recordAnswer answer) s).2.deepAttempt = s.deepAttempt ∧
      (sessionStep digest (.recordAnswer answer) s).2.retryPhase? = s.retryPhase? := by
  have hmove := step_move digest s (.recordAnswer answer)
  generalize (sessionStep digest (.recordAnswer answer) s).1 = r at hmove
  generalize (sessionStep digest (.recordAnswer answer) s).2 = t at hmove ⊢
  cases hmove with
  | answered hr horch hpending hkind hguard hcontinues =>
      cases hcontinues <;> exact ⟨rfl, rfl⟩
  | bookkept hop | retrievalEnded hop => cases hop
  | entered hr hop | deepIssued hr hop | asked hr hop => cases hop
  | _ => exact ⟨rfl, rfl⟩

end ForgeRuntime
