import ForgeRuntime.Runtime.SameSession

/-!
# Calls that throw

An operation that throws has written nothing, but for two things: an orchestrator that was missing is there,
which no later operation can tell, and a request for discovery is counted although it is not taken.  The count
of the first such request is seen, since the next request is then the second one.

* `Spares` — a code that leaves the state as it was when it throws;
* `runOp_spares` — every operation but the request for discovery is of that kind;
* `thrown_leaves_no_trace_iff` — **a thrown call leaves no trace, exactly when it is not the first request
  for discovery**;
* `thrown_request_is_counted` — a run in which the thrown request is seen.
-/

namespace ForgeRuntime

open EventDriven EventDriven.Text EventDriven.Machine EventDriven.Turn

/-- The state, with the orchestrator that a session has at first. -/
def SessionState.settled (s : SessionState) : SessionState :=
  { s with orchestrator := some (s.orchestrator.getD .receive) }

namespace Session

/-! ### Code that returns, and code that throws with nothing written -/

section Rules

variable {α β : Type}

/-- The code does not throw. -/
def Returns (m : Session α) : Prop := ∀ s, ∃ a t, m s = (.ok a, t)

/-- When the code throws, it has written nothing. -/
def Spares (m : Session α) : Prop := ∀ s e t, m s = (.error e, t) → t.settled = s.settled

theorem returns_pure (a : α) : Returns (pure a : Session α) := fun s => ⟨a, s, rfl⟩

theorem returns_modify (g : SessionState → SessionState) : Returns (modify g : Session PUnit) :=
  fun s => ⟨⟨⟩, g s, rfl⟩

theorem returns_setUi (update : ForgeUiState → ForgeUiState) : Returns (setUi update) := fun _ => ⟨_, _, rfl⟩

theorem returns_bind {m : Session α} {f : α → Session β} (hm : Returns m) (hf : ∀ a, Returns (f a)) :
    Returns (m >>= f) := by
  intro s
  obtain ⟨a, t, hrun⟩ := hm s
  rw [bind_eq_ok hrun]
  exact hf a t

theorem returns_get_bind {f : SessionState → Session α} (hf : ∀ s, Returns (f s)) :
    Returns ((get : Session SessionState) >>= f) := fun s => hf s s

theorem returns_ite {c : Prop} [Decidable c] {m n : Session α} (hm : Returns m) (hn : Returns n) :
    Returns (if c then m else n) := by
  split
  · exact hm
  · exact hn

/-- Entering the stage in which the orchestrator stands. -/
theorem returns_enterStage_self (stage : WorkflowStage) : Returns (enterStage stage stage) := by
  intro s
  rw [enterStage, if_pos rfl]
  exact ⟨stage, s, rfl⟩

theorem returns_transitionTo {current next : WorkflowStage} (h : current.CanTransitionTo next) :
    Returns (transitionTo current next) := by
  intro s
  rw [transitionTo_apply, if_pos h]
  exact ⟨_, _, rfl⟩

theorem returns_issueDeepAttempt (round : GrillRound) (phase : DeepAttemptPhase) :
    Returns (issueDeepAttempt round phase) := returns_modify _

theorem spares_of_returns {m : Session α} (h : Returns m) : Spares m := by
  intro s e t hrun
  obtain ⟨a, t', hok⟩ := h s
  rw [hok] at hrun
  cases hrun

theorem spares_pure (a : α) : Spares (pure a : Session α) := spares_of_returns (returns_pure a)

theorem spares_throw (e : String) : Spares (throw e : Session α) := by
  rintro s _ t hrun
  obtain ⟨-, rfl⟩ := Prod.mk.inj hrun
  rfl

theorem spares_get_bind {f : SessionState → Session α} (hf : ∀ s, Spares (f s)) :
    Spares ((get : Session SessionState) >>= f) := fun s => hf s s

theorem spares_ite {c : Prop} [Decidable c] {m n : Session α} (hm : c → Spares m) (hn : ¬ c → Spares n) :
    Spares (if c then m else n) := by
  split
  case isTrue h => exact hm h
  case isFalse h => exact hn h

/-- What comes before the first write may throw. -/
theorem spares_bind {m : Session α} {f : α → Session β} (hm : Spares m) (hf : ∀ a, Returns (f a)) :
    Spares (m >>= f) := by
  intro s e t hrun
  rcases hmid : m s with ⟨e' | a, t'⟩
  · rw [bind_eq_error hmid] at hrun
    cases hrun
    exact hm s e t hmid
  · rw [bind_eq_ok hmid] at hrun
    obtain ⟨b, t'', hok⟩ := hf a t'
    rw [hok] at hrun
    cases hrun

theorem spares_transitionTo (current next : WorkflowStage) : Spares (transitionTo current next) := by
  intro s e t hrun
  rw [transitionTo_apply] at hrun
  split at hrun
  · cases hrun
  · obtain ⟨-, rfl⟩ := Prod.mk.inj hrun
    rfl

theorem spares_enterStage (current next : WorkflowStage) : Spares (enterStage current next) :=
  spares_ite (fun _ => spares_pure _) fun _ => spares_transitionTo current next

theorem spares_ensureOrchestrator_bind {f : WorkflowStage → Session α} (hf : ∀ stage, Spares (f stage)) :
    Spares (ensureOrchestrator >>= f) := by
  intro s e t hrun
  rw [ensureOrchestrator_bind_apply] at hrun
  exact hf _ s.settled e t hrun

/-- A new orchestrator begins where it may go on. -/
theorem spares_orchestratorFrom_bind {initialStage : WorkflowStage} {f : WorkflowStage → Session α}
    (hinitial : Returns (f initialStage)) (hf : ∀ stage, Spares (f stage)) :
    Spares (orchestratorFrom initialStage >>= f) := by
  intro s e t hrun
  rw [orchestratorFrom_bind_apply] at hrun
  by_cases hfresh : s.orchestrator = none ∨ s.orchestrator = some .receive
  · rw [stageFrom, if_pos hfresh] at hrun
    obtain ⟨a, t', hok⟩ := hinitial { s with orchestrator := some initialStage }
    rw [hok] at hrun
    cases hrun
  · cases horch : s.orchestrator with
    | none => exact absurd (.inl horch) hfresh
    | some stage =>
        have hstands : { s with orchestrator := some (stageFrom initialStage s.orchestrator) } = s := by
          rw [stageFrom, if_neg hfresh, horch, Option.getD_some, ← horch]
        rw [hstands] at hrun
        exact hf _ s e t hrun

end Rules

/-! ### The operations -/

theorem beginGrill_spares (summary : Option String) : Spares (beginGrill summary) :=
  spares_orchestratorFrom_bind (returns_bind (returns_enterStage_self _) fun _ => returns_setUi _)
    fun stage => spares_bind (spares_enterStage stage _) fun _ => returns_setUi _

theorem beginStage_spares (target : WorkflowStage) (summary : Option String) : Spares (beginStage target summary) :=
  spares_ensureOrchestrator_bind fun stage => spares_bind (spares_enterStage stage _) fun _ => returns_setUi _

theorem beginDeepKnowledge_spares (summary : Option String) (phase : DeepAttemptPhase) :
    Spares (beginDeepKnowledge summary phase) := by
  refine spares_get_bind fun s => ?_
  cases s.currentGrillRound with
  | none => exact spares_throw _
  | some round =>
      have hshown : ∀ stage : WorkflowStage, Returns (do
          let ui ← setUi fun ui => { ui with
            decisionSummary := summary <|> ui.decisionSummary
            stage := .workflow stage
            waitUser := none }
          issueDeepAttempt round phase
          return ui) := fun _ => returns_bind (returns_setUi _) fun _ =>
        returns_bind (returns_issueDeepAttempt round phase) fun _ => returns_pure _
      exact spares_orchestratorFrom_bind (returns_bind (returns_enterStage_self _) hshown)
        fun stage => spares_bind (spares_enterStage stage _) hshown

theorem cancelDeepKnowledge_returns : Returns cancelDeepKnowledge :=
  returns_get_bind fun _ => returns_bind (returns_modify _) fun _ => returns_setUi _

theorem retryDeepKnowledge_returns (summary : Option String) : Returns (retryDeepKnowledge summary) := by
  refine returns_get_bind fun s => ?_
  cases s.currentGrillRound with
  | none => exact returns_pure _
  | some round =>
      cases s.deepRetryPhase <|> s.resumableDeepPhase with
      | none => exact returns_pure _
      | some phase =>
          exact returns_bind (returns_modify _) fun _ => returns_bind (returns_setUi _) fun _ =>
            returns_bind (returns_issueDeepAttempt round phase) fun _ => returns_pure _

theorem completeDeepKnowledge_spares (evidenceIds : List String) (summary : Option String)
    (identity : DeepAttemptIdentity) : Spares (completeDeepKnowledge evidenceIds summary identity) := by
  have hshown : ∀ stage : WorkflowStage, Returns (do
      let ui ← setUi fun ui => { ui with
        decisionSummary := summary <|> ui.decisionSummary
        lastEvidenceIds := evidenceIds
        stage := .workflow stage
        waitUser := none }
      let advanced := { identity with phase := .knowledgeUnderstanding }
      modify fun s => { s with deepAttempt := some advanced }
      return DeepCallResult.accepted ui advanced) := fun _ => returns_bind (returns_setUi _) fun _ =>
    returns_bind (returns_modify _) fun _ => returns_pure _
  exact spares_get_bind fun s => spares_ite (fun _ => spares_pure _) fun _ =>
    spares_orchestratorFrom_bind (returns_bind (returns_enterStage_self _) hshown)
      fun stage => spares_bind (spares_enterStage stage _) hshown

theorem completeDeepRetrieval_spares (inherited : List EvidenceInput) (summary : Option String)
    (identity : DeepAttemptIdentity) : Spares (completeDeepRetrieval inherited summary identity) := by
  refine spares_get_bind fun s => spares_bind (completeDeepKnowledge_spares _ summary identity) fun result => ?_
  cases result with
  | accepted ui advanced => exact returns_bind (returns_modify _) fun _ => returns_pure _
  | stale expected received => exact returns_pure _
  | invalid ui errors => exact returns_pure _

theorem handleNeedsDecision_spares (identity : DeepAttemptIdentity) (decision : DeepNeedsDecisionResult) :
    Spares (handleNeedsDecision identity decision) :=
  spares_get_bind fun _ => spares_ite (fun _ => spares_pure _) fun _ => spares_ensureOrchestrator_bind fun stage =>
    spares_bind (spares_transitionTo stage _) fun _ => returns_bind (returns_setUi _) fun _ =>
      returns_bind (returns_modify _) fun _ => returns_pure _

/-- What a thrown request for discovery leaves. -/
theorem handleNeedsDiscovery_throws {identity : DeepAttemptIdentity} {summary : Option String} {s t : SessionState}
    {e : String} (h : handleNeedsDiscovery identity summary s = (.error e, t)) :
    s.deepAttempt = some identity ∧
      t = { s.settled with needsDiscoveryCount := s.needsDiscoveryCount + 1 } ∧
      e = WorkflowStage.invalidTransition (s.orchestrator.getD .receive)
        (if s.needsDiscoveryCount = 0 then .lightDiscovery else .waitUser) := by
  simp only [handleNeedsDiscovery, get_bind_apply, ite_apply_state, pure_apply, ensureOrchestrator_bind_apply,
    transitionTo_bind_apply, setUi_bind_apply, modify_bind_apply] at h
  split at h
  case isTrue => cases h
  case isFalse hlive =>
    split at h
    case isTrue hsecond =>
      split at h
      case isTrue => cases h
      case isFalse =>
        obtain ⟨he, rfl⟩ := Prod.mk.inj h
        have hcount : ¬ s.needsDiscoveryCount = 0 := by
          have hge : s.needsDiscoveryCount + 1 ≥ 2 := hsecond
          omega
        rw [if_neg hcount]
        exact ⟨not_not.mp hlive, rfl, (Except.error.inj he).symm⟩
    case isFalse hfirst =>
      split at h
      case isTrue => cases h
      case isFalse =>
        obtain ⟨he, rfl⟩ := Prod.mk.inj h
        have hcount : s.needsDiscoveryCount = 0 := by
          have hlt : ¬ s.needsDiscoveryCount + 1 ≥ 2 := hfirst
          omega
        rw [if_pos hcount]
        exact ⟨not_not.mp hlive, rfl, (Except.error.inj he).symm⟩

theorem acceptPackage_spares (identity : DeepAttemptIdentity) (package : EvidencePackage) :
    Spares (acceptPackage identity package) := by
  refine spares_ensureOrchestrator_bind fun stage s e t hrun => ?_
  simp only [get_bind_apply, modify_bind_apply] at hrun
  by_cases h : stage.CanTransitionTo .contextBuild
  · rw [bind_apply, tryCatch_apply, transitionTo_apply, if_pos h] at hrun
    cases hrun
  · rw [bind_apply, tryCatch_apply, transitionTo_apply, if_neg h] at hrun
    -- the package is put back before the error goes on
    obtain ⟨-, rfl⟩ := Prod.mk.inj hrun
    rfl

theorem handleUnderstandingResult_spares (identity : DeepAttemptIdentity) (package : Option EvidencePackage) :
    Spares (handleUnderstandingResult identity package) := by
  refine spares_get_bind fun s => spares_ite (fun _ => spares_pure _) fun _ => ?_
  cases package with
  | none => exact spares_pure _
  | some package =>
      dsimp only
      cases validateEvidencePackage package with
      | error errors => exact spares_pure _
      | ok => exact acceptPackage_spares identity package

/-- The request for discovery is the only result whose throw is seen. -/
theorem handleDeepResult_spares (identity : DeepAttemptIdentity) (result : DeepResult)
    (h : ∀ summary, result ≠ .needsDiscovery summary) : Spares (handleDeepResult identity result) := by
  obtain ⟨attemptId, sourceRoundId, phase⟩ := identity
  cases result with
  | needsDecision decision => exact handleNeedsDecision_spares _ decision
  | needsDiscovery summary => exact absurd rfl (h summary)
  | retrievalCompleted evidenceIds summary =>
      cases phase with
      | deepKnowledgeRetrieval => exact completeDeepKnowledge_spares evidenceIds summary _
      | knowledgeUnderstanding => exact handleUnderstandingResult_spares _ none
  | understandingCompleted package =>
      cases phase with
      | deepKnowledgeRetrieval => exact spares_get_bind fun _ => spares_pure _
      | knowledgeUnderstanding => exact handleUnderstandingResult_spares _ (some package)

theorem askAmbiguity_spares (kind : WaitUserKind) (stage : WorkflowStage) (sourceRoundId : String)
    (ambiguity : ContextAmbiguity) : Spares (askAmbiguity kind stage sourceRoundId ambiguity) :=
  spares_bind (spares_transitionTo stage _) fun _ => returns_setUi _

theorem acceptContextCandidate_returns (identity : ContextBuildIdentity) (candidate : ContextCandidate) :
    Returns (acceptContextCandidate identity candidate) := fun _ => ⟨_, _, rfl⟩

theorem completeContextBuild_spares (identity : ContextBuildIdentity) (completion : ContextBuildCompletion) :
    Spares (completeContextBuild identity completion) := by
  refine spares_get_bind fun s => spares_ite (fun _ => spares_pure _) fun _ =>
    spares_ite (fun _ => spares_pure _) fun _ => ?_
  cases s.knowledgeUnderstandingPackage with
  | none => exact spares_pure _
  | some package =>
      cases completion with
      | ambiguous ambiguity =>
          exact spares_ite (fun _ => spares_pure _) fun _ =>
            spares_bind (askAmbiguity_spares _ _ _ _) fun _ => returns_bind (returns_modify _) fun _ => returns_pure _
      | completed candidate =>
          exact spares_ite (fun _ => spares_pure _) fun _ =>
            spares_of_returns (acceptContextCandidate_returns identity candidate)

theorem prepareAdrBuild_returns (identity : AdrBuildIdentity) (candidate : AdrBuildCandidate) :
    Returns (prepareAdrBuild identity candidate) := by
  refine returns_get_bind fun s => returns_ite (returns_pure _) (returns_ite (returns_pure _) ?_)
  cases s.knowledgeUnderstandingPackage with
  | none => exact returns_pure _
  | some package => exact returns_ite (returns_pure _) (returns_bind (returns_modify _) fun _ => returns_pure _)

theorem requireAdrDecision_spares (identity : AdrBuildIdentity) (ambiguity : ContextAmbiguity) :
    Spares (requireAdrDecision identity ambiguity) := by
  refine spares_get_bind fun s => spares_ite (fun _ => spares_pure _) fun _ =>
    spares_ite (fun _ => spares_pure _) fun _ => ?_
  cases s.knowledgeUnderstandingPackage with
  | none => exact spares_pure _
  | some package =>
      exact spares_ite (fun _ => spares_pure _) fun _ =>
        spares_bind (askAmbiguity_spares _ _ _ _) fun _ => returns_bind (returns_modify _) fun _ => returns_pure _

theorem finalizeAdrBuild_spares (identity : AdrBuildIdentity) (commit : CommitDocumentsResult) :
    Spares (finalizeAdrBuild identity commit) :=
  spares_get_bind fun _ => spares_ite (fun _ => spares_pure _) fun _ => spares_ite (fun _ => spares_pure _) fun _ =>
    spares_bind (spares_transitionTo _ _) fun _ => returns_bind (returns_setUi _) fun _ =>
      returns_bind (returns_modify _) fun _ => returns_pure _

theorem recordDeepSupplementalEvidence_spares (identity : DeepAttemptIdentity) (evidenceId : String)
    (evidence : Option EvidenceInput) : Spares (recordDeepSupplementalEvidence identity evidenceId evidence) := by
  refine spares_get_bind fun s => spares_ite (fun _ => spares_pure _) fun _ => ?_
  cases s.deepSupplementalEvidence.get? evidenceId with
  | some existing => exact spares_ite (fun _ => spares_pure _) fun _ => spares_throw _
  | none => exact spares_of_returns (returns_bind (returns_modify _) fun _ => returns_pure _)

theorem reserveDeepSearchBudget_returns (identity : DeepAttemptIdentity) :
    Returns (reserveDeepSearchBudget identity) := by
  intro s
  rw [reserveDeepSearchBudget_apply]
  split
  · exact ⟨_, _, rfl⟩
  · split
    · exact ⟨_, _, rfl⟩
    · exact ⟨_, _, rfl⟩

theorem commitDeepSearchBudget_returns (identity : DeepAttemptIdentity) :
    Returns (commitDeepSearchBudget identity) := by
  intro s
  rw [commitDeepSearchBudget_apply]
  split
  · exact ⟨_, _, rfl⟩
  · split
    · exact ⟨_, _, rfl⟩
    · exact ⟨_, _, rfl⟩

theorem releaseDeepSearchBudget_returns (identity : DeepAttemptIdentity) :
    Returns (releaseDeepSearchBudget identity) := by
  intro s
  rw [releaseDeepSearchBudget_apply]
  split
  · exact ⟨_, _, rfl⟩
  · exact ⟨_, _, rfl⟩

theorem consumeDeepSearchBudget_returns (identity : DeepAttemptIdentity) :
    Returns (consumeDeepSearchBudget identity) := by
  refine returns_bind (reserveDeepSearchBudget_returns identity) fun answer => ?_
  cases answer with
  | stale => exact returns_pure _
  | limit => exact returns_pure _
  | accepted => exact commitDeepSearchBudget_returns identity
  | reserved => exact commitDeepSearchBudget_returns identity
  | released => exact commitDeepSearchBudget_returns identity

theorem recordEvidenceFetch_spares (candidateId : String) : Spares (recordEvidenceFetch candidateId) :=
  spares_get_bind fun _ => spares_ite (fun _ => spares_throw _) fun _ => spares_of_returns (returns_modify _)

theorem confirm_spares : Spares confirm :=
  spares_get_bind fun _ => spares_ite (fun _ => spares_of_returns (returns_setUi _)) fun _ =>
    spares_bind (spares_transitionTo _ _) fun _ => returns_setUi _

theorem continueGrillRound_spares : Spares continueGrillRound := by
  refine spares_get_bind fun s => ?_
  cases s.currentGrillRound with
  | none => exact spares_throw _
  | some round => exact spares_pure _

theorem retryGrillRound_returns : Returns retryGrillRound := by
  refine returns_get_bind fun s => ?_
  cases s.currentGrillRound with
  | none => exact returns_pure _
  | some round => exact returns_ite (returns_pure _) (returns_bind (returns_modify _) fun _ => returns_pure _)

theorem recordCompletionOmission_returns : Returns recordCompletionOmission :=
  returns_get_bind fun _ => returns_ite (returns_pure _) (returns_bind (returns_modify _) fun _ => returns_pure _)

/-- An answer throws when no question stands; one that is accepted has a round to go on in. -/
theorem recordAnswer_spares (digest : String → String) (answer : String) : Spares (recordAnswer digest answer) := by
  intro s e t hrun
  rw [recordAnswer, get_bind_apply] at hrun
  by_cases horch : s.orchestrator = some .waitUser
  · rw [if_neg (not_not.mpr horch)] at hrun
    cases hpending : s.uiState.waitUser with
    | none =>
        rw [hpending] at hrun
        exact spares_throw _ s e t hrun
    | some pending =>
        rw [hpending] at hrun
        by_cases hguard : refusesAnswer s pending (trim answer)
        · simp only [if_pos hguard, pure_apply] at hrun
          cases hrun
        · simp only [if_neg hguard] at hrun
          by_cases hkind : pending.kind = .grillCheckpoint
          · simp only [acceptAnswer, if_pos hkind, answerCheckpoint_apply] at hrun
            cases hrun
          · obtain ⟨ui, t', hok, -⟩ := acceptAnswer_continues s digest answer hkind hguard
            rw [hok] at hrun
            cases hrun
  · rw [if_pos horch] at hrun
    cases hrun

theorem reject_returns (selection : Option String) : Returns (reject selection) := by
  intro s
  by_cases horch : s.orchestrator = some .waitUser
  · simp only [reject, get_bind_apply, if_pos horch]
    exact ⟨_, _, rfl⟩
  · simp only [reject, get_bind_apply, if_neg horch]
    exact ⟨_, _, rfl⟩

theorem requireWaitUser_spares (payload : WaitUserPayload) : Spares (requireWaitUser payload) :=
  spares_ite (fun _ => spares_throw _) fun _ => spares_ite (fun _ => spares_throw _) fun _ =>
    spares_get_bind fun _ => spares_ite (fun _ => spares_pure _) fun _ => spares_ite (fun _ => spares_throw _) fun _ =>
      spares_orchestratorFrom_bind (returns_bind (returns_transitionTo (by decide)) fun _ => returns_setUi _)
        fun stage => spares_bind (spares_transitionTo stage _) fun _ => returns_setUi _

theorem startGrillRound_returns (request : String) (snapshot : GrillEvidenceSnapshot) :
    Returns (startGrillRound request snapshot) :=
  returns_get_bind fun _ => returns_bind (returns_modify _) fun _ => returns_pure _

theorem reset_returns : Returns reset :=
  returns_bind (returns_modify _) fun _ => returns_get_bind fun _ => returns_pure _

/-- Wrapping the value changes nothing for a throw. -/
theorem Spares.map {α : Type} {m : Session α} (h : Spares m) (wrap : α → SessionResult) : Spares (wrap <$> m) := by
  intro s e t hrun
  rw [map_apply] at hrun
  obtain ⟨he, rfl⟩ := Prod.mk.inj hrun
  rcases hm : m s with ⟨e' | a, t'⟩
  · exact h s e' t' hm
  · rw [hm] at he
    cases he

/-- **An operation that throws** has written nothing, unless it requests discovery. -/
theorem runOp_spares (digest : String → String) {op : SessionOp}
    (hop : ∀ identity summary, op ≠ .handleDeepResult identity (.needsDiscovery summary)) :
    Spares (runOp digest op) := by
  cases op with
  | beginGrill summary => exact (beginGrill_spares summary).map _
  | beginIntent summary => exact (beginStage_spares _ summary).map _
  | beginLightDiscovery summary => exact (beginStage_spares _ summary).map _
  | beginDeepKnowledge summary phase => exact (beginDeepKnowledge_spares summary phase).map _
  | cancelDeepKnowledge => exact (spares_of_returns cancelDeepKnowledge_returns).map _
  | completeDeepKnowledge evidenceIds summary identity =>
      exact (completeDeepKnowledge_spares evidenceIds summary identity).map _
  | retryDeepKnowledge summary => exact (spares_of_returns (retryDeepKnowledge_returns summary)).map _
  | completeDeepRetrieval inherited summary identity =>
      exact (completeDeepRetrieval_spares inherited summary identity).map _
  | completeContextBuild identity completion => exact (completeContextBuild_spares identity completion).map _
  | confirm => exact confirm_spares.map _
  | continueGrillRound => exact continueGrillRound_spares.map _
  | retryGrillRound => exact (spares_of_returns retryGrillRound_returns).map _
  | handleDeepResult identity result =>
      exact (handleDeepResult_spares identity result fun summary hresult => hop identity summary (hresult ▸ rfl)).map _
  | recordCompletionOmission => exact (spares_of_returns recordCompletionOmission_returns).map _
  | recordDeepSupplementalEvidence identity evidenceId evidence =>
      exact (recordDeepSupplementalEvidence_spares identity evidenceId evidence).map _
  | consumeDeepSearchBudget identity => exact (spares_of_returns (consumeDeepSearchBudget_returns identity)).map _
  | reserveDeepSearchBudget identity => exact (spares_of_returns (reserveDeepSearchBudget_returns identity)).map _
  | commitDeepSearchBudget identity => exact (spares_of_returns (commitDeepSearchBudget_returns identity)).map _
  | releaseDeepSearchBudget identity => exact (spares_of_returns (releaseDeepSearchBudget_returns identity)).map _
  | recordEvidenceFetch candidateId => exact (recordEvidenceFetch_spares candidateId).map _
  | recordAnswer answer => exact (recordAnswer_spares digest answer).map _
  | prepareAdrBuild identity candidate => exact (spares_of_returns (prepareAdrBuild_returns identity candidate)).map _
  | requireAdrDecision identity ambiguity => exact (requireAdrDecision_spares identity ambiguity).map _
  | finalizeAdrBuild identity commit => exact (finalizeAdrBuild_spares identity commit).map _
  | reset => exact (spares_of_returns reset_returns).map _
  | requireGrillResult payload => exact (requireWaitUser_spares payload).map _
  | reject selection => exact (spares_of_returns (reject_returns selection)).map _
  | requireWaitUser payload => exact (requireWaitUser_spares payload).map _
  | startGrillRound request snapshot => exact (spares_of_returns (startGrillRound_returns request snapshot)).map _

end Session

/-! ### What a thrown call leaves -/

/-- The call hands in a request for discovery, and none has been counted yet. -/
def RequestsFirstDiscovery (s : SessionState) (op : SessionOp) : Prop :=
  s.needsDiscoveryCount = 0 ∧ ∃ identity summary, op = .handleDeepResult identity (.needsDiscovery summary)

theorem invalidTransition_ne (current : WorkflowStage) :
    WorkflowStage.invalidTransition current .lightDiscovery ≠ WorkflowStage.invalidTransition current .waitUser := by
  intro h
  exact absurd (append_injective_right _ h) (by decide)

theorem outcome_of_throws {op : SessionOp} {s : SessionState} {e : String} {digest : String → String}
    (h : (sessionStep digest op s).1 = .error e) : Session.runOp digest op s = (.error e, (sessionStep digest op s).2) :=
  Prod.ext h rfl

/-- What a thrown request for discovery leaves, as an operation of the session. -/
theorem needsDiscovery_throws {digest : String → String} {identity : DeepAttemptIdentity} {summary : Option String}
    {s : SessionState} {e : String}
    (h : (sessionStep digest (.handleDeepResult identity (.needsDiscovery summary)) s).1 = .error e) :
    (sessionStep digest (.handleDeepResult identity (.needsDiscovery summary)) s).2 =
        { s.settled with needsDiscoveryCount := s.needsDiscoveryCount + 1 } ∧
      e = WorkflowStage.invalidTransition (s.orchestrator.getD .receive)
        (if s.needsDiscoveryCount = 0 then .lightDiscovery else .waitUser) := by
  have hrun : (SessionResult.deep <$> Session.handleNeedsDiscovery identity summary) s =
      (.error e, (sessionStep digest (.handleDeepResult identity (.needsDiscovery summary)) s).2) :=
    outcome_of_throws h
  rw [map_apply] at hrun
  obtain ⟨he, hstate⟩ := Prod.mk.inj hrun
  rcases hcall : Session.handleNeedsDiscovery identity summary s with ⟨e' | result, t⟩
  · rw [hcall] at he hstate
    obtain rfl : e' = e := Except.error.inj he
    obtain ⟨-, ht, herror⟩ := Session.handleNeedsDiscovery_throws hcall
    exact ⟨hstate ▸ ht, herror⟩
  · rw [hcall] at he
    cases he

/-- A call that throws, other than a first request for discovery, leaves a state that cannot be told apart. -/
theorem sameSession_thrown {digest : String → String} {s : SessionState} {op : SessionOp} {e : String}
    (hself : Renaming.nothing.SameSession ⟨0, 0, 0, 0⟩ digest s s) (h : (sessionStep digest op s).1 = .error e)
    (hop : ¬ RequestsFirstDiscovery s op) :
    Renaming.nothing.SameSession ⟨0, 0, 0, 0⟩ digest (sessionStep digest op s).2 s := by
  by_cases hdiscovery : ∃ identity summary, op = .handleDeepResult identity (.needsDiscovery summary)
  · obtain ⟨identity, summary, rfl⟩ := hdiscovery
    have hcount : s.needsDiscoveryCount ≠ 0 := fun hzero => hop ⟨hzero, identity, summary, rfl⟩
    rw [(needsDiscovery_throws h).1]
    exact { hself with
      orchestrator := rfl
      discoveries := iff_of_false (Nat.succ_ne_zero _) hcount }
  · have hspares := @Session.runOp_spares digest op fun identity summary heq => hdiscovery ⟨identity, summary, heq⟩
    have hsettled := hspares s e _ (outcome_of_throws h)
    have hsame : Renaming.nothing.SameSession ⟨0, 0, 0, 0⟩ digest (sessionStep digest op s).2.settled s := by
      rw [hsettled]
      exact { hself with orchestrator := rfl }
    exact { hsame with orchestrator := hsame.orchestrator }

/-- **A call that throws leaves no trace**: in every session, all that is seen from then on is what would be seen
without the call, exactly when the call is not the first request for discovery. -/
theorem thrown_leaves_no_trace_iff (digest : String → String) (before : List SessionOp) (op : SessionOp) (e : String)
    (h : (sessionStep digest op (finish (sessionStep digest) createForgeSessionState before)).1 = .error e) :
    (∀ later : List SessionOp,
        observed digest (finish (sessionStep digest) createForgeSessionState (before ++ [op])) later =
          observed digest (finish (sessionStep digest) createForgeSessionState before) later) ↔
      ¬ RequestsFirstDiscovery (finish (sessionStep digest) createForgeSessionState before) op := by
  have hself := Renaming.sameSession_reached digest before
  have hafter : finish (sessionStep digest) createForgeSessionState (before ++ [op]) =
      (sessionStep digest op (finish (sessionStep digest) createForgeSessionState before)).2 := by
    rw [finish_append]
    rfl
  rw [hafter]
  generalize finish (sessionStep digest) createForgeSessionState before = s at hself h
  constructor
  · rintro hsame ⟨hcount, identity, summary, rfl⟩
    -- the same request again: the stage that is refused tells which request it is
    obtain ⟨hstate, herror⟩ := needsDiscovery_throws h
    have hsteps := congrArg Observed.steps (hsame [.handleDeepResult identity (.needsDiscovery summary)])
    have hagain : (sessionStep digest (.handleDeepResult identity (.needsDiscovery summary))
        (sessionStep digest (.handleDeepResult identity (.needsDiscovery summary)) s).2).1 = .error e :=
      (congrArg Prod.fst (List.cons.inj hsteps).1).trans h
    have hsecond := (needsDiscovery_throws hagain).2
    rw [hstate] at hsecond
    rw [if_pos hcount] at herror
    exact invalidTransition_ne _ (herror.symm.trans hsecond)
  · intro hop later
    exact Renaming.observed_eq (sameSession_thrown hself h hop) later

/-- A search has found a page, which is recorded. -/
def pageRecorded : List SessionOp :=
  [.startGrillRound "do it" ⟨0, .empty, []⟩, .beginDeepKnowledge none .deepKnowledgeRetrieval,
    .recordDeepSupplementalEvidence ⟨"deep-1", "grill-1", .deepKnowledgeRetrieval⟩ "e"
      (some ⟨"e", "wiki", "page.md", "page", "first", []⟩)]

/-- The page is handed over, and the attempt that understands it comes to an end. -/
def handsOver : List SessionOp :=
  [.completeDeepRetrieval [] none ⟨"deep-1", "grill-1", .deepKnowledgeRetrieval⟩,
    .beginDeepKnowledge none .knowledgeUnderstanding, .cancelDeepKnowledge, .retryDeepKnowledge none]

/-- The same ID with another content is refused by an error in the course of a retrieval. -/
theorem conflicting_page_leaves_no_trace :
    observed id (finish (sessionStep id) createForgeSessionState (pageRecorded ++
        [.recordDeepSupplementalEvidence ⟨"deep-1", "grill-1", .deepKnowledgeRetrieval⟩ "e"
          (some ⟨"e", "wiki", "page.md", "page", "second", []⟩)])) handsOver =
      observed id (finish (sessionStep id) createForgeSessionState pageRecorded) handsOver :=
  (thrown_leaves_no_trace_iff id pageRecorded
    (.recordDeepSupplementalEvidence ⟨"deep-1", "grill-1", .deepKnowledgeRetrieval⟩ "e"
      (some ⟨"e", "wiki", "page.md", "page", "second", []⟩))
    "evidence_id_content_conflict" (by decide +kernel)).mpr
      (fun hfirst => absurd hfirst.2 (by rintro ⟨_, _, h⟩; cases h)) handsOver

/-- A deep attempt that lives while light discovery runs. -/
def discoveryBesideDeepStep : List SessionOp :=
  [.startGrillRound "do it" ⟨0, .empty, []⟩, .beginDeepKnowledge none .deepKnowledgeRetrieval,
    .beginLightDiscovery none]

/-- The first request for discovery of the next attempt. -/
def nextRequest : List SessionOp :=
  [.beginGrill none, .beginDeepKnowledge none .deepKnowledgeRetrieval,
    .handleDeepResult ⟨"deep-2", "grill-1", .deepKnowledgeRetrieval⟩ (.needsDiscovery none)]

/-- **A thrown request is counted**: the next one asks the user, and would have gone to light discovery. -/
theorem thrown_request_is_counted :
    ¬ ∀ (before : List SessionOp) (op : SessionOp) (e : String),
      (sessionStep id op (finish (sessionStep id) createForgeSessionState before)).1 = .error e →
        ∀ later : List SessionOp,
          observed id (finish (sessionStep id) createForgeSessionState (before ++ [op])) later =
            observed id (finish (sessionStep id) createForgeSessionState before) later := by
  intro h
  have hseen := h discoveryBesideDeepStep
    (.handleDeepResult ⟨"deep-1", "grill-1", .deepKnowledgeRetrieval⟩ (.needsDiscovery none))
    "Invalid transition: LIGHT_DISCOVERY -> LIGHT_DISCOVERY" (by decide +kernel) nextRequest
  have hstages := congrArg (fun seen : Observed => seen.steps.map fun step => step.2.current.stage) hseen
  exact absurd hstages (by decide +kernel)

end ForgeRuntime
