import ForgeRuntime.Runtime.SearchBudget

/-!
# Refused calls of the session

A call that is stale, invalid or over the limit writes nothing.  So it leaves no trace: whatever is called
afterwards answers as if the call had not been made.

* `refused_unchanged` — a refused call leaves the state as it was;
* `refused_leaves_no_trace` — the answers of every later sequence of operations are the same.
-/

namespace ForgeRuntime

open EventDriven EventDriven.Machine EventDriven.Text EventDriven.Turn

/-! ### Refusals -/

def DeepCallResult.refuses : DeepCallResult → Bool
  | .accepted _ _ => false
  | .stale _ _ => true
  | .invalid _ _ => true

def ContextBuildCallResult.refuses : ContextBuildCallResult → Bool
  | .accepted _ _ => false
  | .ambiguous _ _ => false
  | .stale _ _ => true
  | .invalid _ _ => true

def AdrBuildCallResult.refuses : AdrBuildCallResult → Bool
  | .accepted _ _ => false
  | .ambiguous _ _ => false
  | .stale _ _ => true
  | .invalid _ _ => true

def BudgetAnswer.refuses : BudgetAnswer → Bool
  | .stale => true
  | .limit => true
  | _ => false

/-- The answer is stale, invalid or limit. -/
def SessionOutcome.refuses : SessionOutcome → Bool
  | .ok (.deep result) => result.refuses
  | .ok (.context result) => result.refuses
  | .ok (.adr result) => result.refuses
  | .ok (.budget answer) => answer.refuses
  | _ => false

namespace Session

/-- When the answer is a refusal, the state is as it was. -/
def RefusesQuietly {α : Type} (refuses : α → Bool) (m : Session α) : Prop :=
  ∀ s a t, m s = (.ok a, t) → refuses a = true → t = s

variable {s t : SessionState}

/-! ### The Deep steps -/

theorem completeDeepKnowledge_quiet (evidenceIds : List String) (summary : Option String)
    (identity : DeepAttemptIdentity) :
    RefusesQuietly DeepCallResult.refuses (completeDeepKnowledge evidenceIds summary identity) := by
  intro s result t hrun hrefuses
  rcases completeDeepKnowledge_cases s evidenceIds summary identity with
    ⟨result', h, -⟩ | ⟨error, h⟩ | ⟨-, -, ui, -, h⟩
  · rw [h] at hrun
    exact (Prod.mk.inj hrun).2.symm
  · rw [h] at hrun
    cases hrun
  · rw [h] at hrun
    rw [← Except.ok.inj (Prod.mk.inj hrun).1] at hrefuses
    cases hrefuses

theorem completeDeepRetrieval_quiet (inherited : List EvidenceInput) (summary : Option String)
    (identity : DeepAttemptIdentity) :
    RefusesQuietly DeepCallResult.refuses (completeDeepRetrieval inherited summary identity) := by
  intro s result t hrun hrefuses
  rcases completeDeepRetrieval_cases inherited summary identity s with ⟨r, h, -⟩ | ⟨ui, h⟩
  · rw [h] at hrun
    exact (Prod.mk.inj hrun).2.symm
  · rw [h] at hrun
    rw [← Except.ok.inj (Prod.mk.inj hrun).1] at hrefuses
    cases hrefuses

theorem handleNeedsDecision_quiet (identity : DeepAttemptIdentity) (decision : DeepNeedsDecisionResult) :
    RefusesQuietly DeepCallResult.refuses (handleNeedsDecision identity decision) := by
  intro s result t hrun hrefuses
  simp only [handleNeedsDecision, get_bind_apply, ite_apply_state, pure_apply, ensureOrchestrator_bind_apply,
    transitionTo_bind_apply, setUi_bind_apply, modify_bind_apply] at hrun
  split at hrun
  · exact (Prod.mk.inj hrun).2.symm
  · split at hrun
    · rw [← Except.ok.inj (Prod.mk.inj hrun).1] at hrefuses
      cases hrefuses
    · cases hrun

theorem handleNeedsDiscovery_quiet (identity : DeepAttemptIdentity) (summary : Option String) :
    RefusesQuietly DeepCallResult.refuses (handleNeedsDiscovery identity summary) := by
  intro s result t hrun hrefuses
  simp only [handleNeedsDiscovery, get_bind_apply, ite_apply_state, pure_apply, ensureOrchestrator_bind_apply,
    transitionTo_bind_apply, setUi_bind_apply, modify_bind_apply] at hrun
  split at hrun
  · exact (Prod.mk.inj hrun).2.symm
  · split at hrun <;> split at hrun
    · rw [← Except.ok.inj (Prod.mk.inj hrun).1] at hrefuses
      cases hrefuses
    · cases hrun
    · rw [← Except.ok.inj (Prod.mk.inj hrun).1] at hrefuses
      cases hrefuses
    · cases hrun

theorem acceptPackage_quiet (identity : DeepAttemptIdentity) (package : EvidencePackage) :
    RefusesQuietly DeepCallResult.refuses (acceptPackage identity package) := by
  intro s result t hrun hrefuses
  simp only [acceptPackage, ensureOrchestrator_bind_apply, get_bind_apply, modify_bind_apply] at hrun
  by_cases h : (s.orchestrator.getD .receive).CanTransitionTo .contextBuild
  · rw [bind_apply, tryCatch_apply, transitionTo_apply, if_pos h] at hrun
    rw [← Except.ok.inj (Prod.mk.inj hrun).1] at hrefuses
    cases hrefuses
  · rw [bind_apply, tryCatch_apply, transitionTo_apply, if_neg h] at hrun
    cases hrun

theorem handleUnderstandingResult_quiet (identity : DeepAttemptIdentity) (package : Option EvidencePackage) :
    RefusesQuietly DeepCallResult.refuses (handleUnderstandingResult identity package) := by
  intro s result t hrun hrefuses
  simp only [handleUnderstandingResult, get_bind_apply, ite_apply_state, pure_apply] at hrun
  split at hrun
  · exact (Prod.mk.inj hrun).2.symm
  · cases package with
    | none => exact (Prod.mk.inj hrun).2.symm
    | some package =>
        cases hvalid : validateEvidencePackage package with
        | error errors =>
            simp only [hvalid, pure_apply] at hrun
            exact (Prod.mk.inj hrun).2.symm
        | ok =>
            simp only [hvalid] at hrun
            exact acceptPackage_quiet identity package s result t hrun hrefuses

theorem handleDeepResult_quiet (identity : DeepAttemptIdentity) (result : DeepResult) :
    RefusesQuietly DeepCallResult.refuses (handleDeepResult identity result) := by
  cases result with
  | needsDecision decision => exact handleNeedsDecision_quiet identity decision
  | needsDiscovery summary => exact handleNeedsDiscovery_quiet identity summary
  | retrievalCompleted evidenceIds summary =>
      cases hphase : identity.phase with
      | deepKnowledgeRetrieval =>
          simp only [handleDeepResult, hphase]
          exact completeDeepKnowledge_quiet evidenceIds summary identity
      | knowledgeUnderstanding =>
          simp only [handleDeepResult, hphase]
          exact handleUnderstandingResult_quiet identity none
  | understandingCompleted package =>
      cases hphase : identity.phase with
      | deepKnowledgeRetrieval =>
          simp only [handleDeepResult, hphase]
          intro s result t hrun hrefuses
          exact (Prod.mk.inj hrun).2.symm
      | knowledgeUnderstanding =>
          simp only [handleDeepResult, hphase]
          exact handleUnderstandingResult_quiet identity (some package)

theorem recordDeepSupplementalEvidence_quiet (identity : DeepAttemptIdentity) (evidenceId : String)
    (evidence : Option EvidenceInput) :
    RefusesQuietly DeepCallResult.refuses (recordDeepSupplementalEvidence identity evidenceId evidence) := by
  intro s result t hrun hrefuses
  simp only [recordDeepSupplementalEvidence, get_bind_apply, ite_apply_state, pure_apply] at hrun
  split at hrun
  · exact (Prod.mk.inj hrun).2.symm
  · cases hheld : s.deepSupplementalEvidence.get? evidenceId with
    | none =>
        simp only [hheld, modify_bind_apply, pure_apply] at hrun
        rw [← Except.ok.inj (Prod.mk.inj hrun).1] at hrefuses
        cases hrefuses
    | some existing =>
        simp only [hheld, ite_apply_state, pure_apply, throw_apply] at hrun
        split at hrun
        · exact (Prod.mk.inj hrun).2.symm
        · cases hrun

/-! ### Context Build and ADR Build -/

theorem completeContextBuild_quiet (identity : ContextBuildIdentity) (completion : ContextBuildCompletion) :
    RefusesQuietly ContextBuildCallResult.refuses (completeContextBuild identity completion) := by
  intro s result t hrun hrefuses
  simp only [completeContextBuild, get_bind_apply, ite_apply_state, pure_apply] at hrun
  split at hrun
  · exact (Prod.mk.inj hrun).2.symm
  split at hrun
  · exact (Prod.mk.inj hrun).2.symm
  cases hpackage : s.knowledgeUnderstandingPackage with
  | none =>
      simp only [hpackage] at hrun
      exact (Prod.mk.inj hrun).2.symm
  | some package =>
      simp only [hpackage] at hrun
      cases completion with
      | ambiguous ambiguity =>
          simp only [ite_apply_state, pure_apply] at hrun
          split at hrun
          · exact (Prod.mk.inj hrun).2.symm
          · rw [← Except.ok.inj (Prod.mk.inj hrun).1] at hrefuses
            cases hrefuses
      | completed candidate =>
          simp only [ite_apply_state, pure_apply] at hrun
          split at hrun
          · exact (Prod.mk.inj hrun).2.symm
          · rw [← Except.ok.inj (Prod.mk.inj hrun).1] at hrefuses
            cases hrefuses

theorem prepareAdrBuild_quiet (identity : AdrBuildIdentity) (candidate : AdrBuildCandidate) :
    RefusesQuietly AdrBuildCallResult.refuses (prepareAdrBuild identity candidate) := by
  intro s result t hrun hrefuses
  simp only [prepareAdrBuild, get_bind_apply, ite_apply_state, pure_apply] at hrun
  split at hrun
  · exact (Prod.mk.inj hrun).2.symm
  split at hrun
  · exact (Prod.mk.inj hrun).2.symm
  cases hpackage : s.knowledgeUnderstandingPackage with
  | none =>
      simp only [hpackage] at hrun
      exact (Prod.mk.inj hrun).2.symm
  | some package =>
      simp only [hpackage, ite_apply_state, pure_apply, modify_bind_apply] at hrun
      split at hrun
      · exact (Prod.mk.inj hrun).2.symm
      · rw [← Except.ok.inj (Prod.mk.inj hrun).1] at hrefuses
        cases hrefuses

theorem requireAdrDecision_quiet (identity : AdrBuildIdentity) (ambiguity : ContextAmbiguity) :
    RefusesQuietly AdrBuildCallResult.refuses (requireAdrDecision identity ambiguity) := by
  intro s result t hrun hrefuses
  simp only [requireAdrDecision, get_bind_apply, ite_apply_state, pure_apply] at hrun
  split at hrun
  · exact (Prod.mk.inj hrun).2.symm
  split at hrun
  · exact (Prod.mk.inj hrun).2.symm
  cases hpackage : s.knowledgeUnderstandingPackage with
  | none =>
      simp only [hpackage] at hrun
      exact (Prod.mk.inj hrun).2.symm
  | some package =>
      simp only [hpackage, ite_apply_state, pure_apply] at hrun
      split at hrun
      · exact (Prod.mk.inj hrun).2.symm
      · rw [← Except.ok.inj (Prod.mk.inj hrun).1] at hrefuses
        cases hrefuses

theorem finalizeAdrBuild_quiet (identity : AdrBuildIdentity) (commit : CommitDocumentsResult) :
    RefusesQuietly AdrBuildCallResult.refuses (finalizeAdrBuild identity commit) := by
  intro s result t hrun hrefuses
  simp only [finalizeAdrBuild, get_bind_apply, ite_apply_state, pure_apply, transitionTo_bind_apply,
    setUi_bind_apply, modify_bind_apply] at hrun
  split at hrun
  · exact (Prod.mk.inj hrun).2.symm
  split at hrun
  · exact (Prod.mk.inj hrun).2.symm
  · rw [← Except.ok.inj (Prod.mk.inj hrun).1] at hrefuses
    cases hrefuses

/-! ### The search budget -/

/-- A budget that was made to serve another round has places left. -/
theorem reserveDeepSearchBudget_quiet (identity : DeepAttemptIdentity) :
    RefusesQuietly BudgetAnswer.refuses (reserveDeepSearchBudget identity) := by
  intro s answer t hrun hrefuses
  rw [reserveDeepSearchBudget_apply] at hrun
  split at hrun
  · exact (Prod.mk.inj hrun).2.symm
  split at hrun
  · rename_i hlimit
    by_cases hround : s.deepSearchBudgetRoundId = some identity.sourceRoundId
    · rw [servesRound, if_pos hround] at hrun
      exact (Prod.mk.inj hrun).2.symm
    · rw [servesRound, if_neg hround] at hlimit
      have hempty : 0 ≥ deepSearchMaxPerSourceRound := hlimit.2
      exact absurd hempty (by decide)
  · rw [← Except.ok.inj (Prod.mk.inj hrun).1] at hrefuses
    cases hrefuses

theorem commitDeepSearchBudget_quiet (identity : DeepAttemptIdentity) :
    RefusesQuietly BudgetAnswer.refuses (commitDeepSearchBudget identity) := by
  intro s answer t hrun hrefuses
  rw [commitDeepSearchBudget_apply] at hrun
  split at hrun
  · exact (Prod.mk.inj hrun).2.symm
  split at hrun
  · rw [← Except.ok.inj (Prod.mk.inj hrun).1] at hrefuses
    cases hrefuses
  · exact (Prod.mk.inj hrun).2.symm

theorem releaseDeepSearchBudget_quiet (identity : DeepAttemptIdentity) :
    RefusesQuietly BudgetAnswer.refuses (releaseDeepSearchBudget identity) := by
  intro s answer t hrun hrefuses
  rw [releaseDeepSearchBudget_apply] at hrun
  split at hrun
  · exact (Prod.mk.inj hrun).2.symm
  · rw [← Except.ok.inj (Prod.mk.inj hrun).1] at hrefuses
    cases hrefuses

/-- What was just reserved is committed. -/
theorem consumeDeepSearchBudget_quiet (identity : DeepAttemptIdentity) :
    RefusesQuietly BudgetAnswer.refuses (consumeDeepSearchBudget identity) := by
  intro s answer t hrun hrefuses
  unfold consumeDeepSearchBudget at hrun
  rcases hreserve : reserveDeepSearchBudget identity s with ⟨error | reserve, t'⟩
  · rw [bind_eq_error hreserve] at hrun
    cases hrun
  · rw [bind_eq_ok hreserve] at hrun
    have hquiet := reserveDeepSearchBudget_quiet identity s reserve t' hreserve
    cases reserve with
    | stale | limit =>
        rw [← hquiet rfl]
        exact (Prod.mk.inj hrun).2.symm
    | accepted | reserved | released =>
        -- the reservation leaves the attempt and the round, so the commit is not stale
        exfalso
        have hlive : ¬ budgetIsStale s identity := by
          intro hstale
          rw [reserveDeepSearchBudget_apply, if_pos hstale] at hreserve
          cases hreserve
        obtain ⟨round, count, rs, hbudget⟩ := reserveDeepSearchBudget_only identity s
        rw [hreserve] at hbudget
        have hstill : ¬ budgetIsStale t' identity := by
          rw [show t' = _ from hbudget]
          exact hlive
        simp only [commitDeepSearchBudget_apply, if_neg hstill] at hrun
        split at hrun
        · rw [← Except.ok.inj (Prod.mk.inj hrun).1] at hrefuses
          cases hrefuses
        · rw [← Except.ok.inj (Prod.mk.inj hrun).1] at hrefuses
          cases hrefuses

/-- A refusal, by the result of the operation. -/
theorem RefusesQuietly.outcome {α : Type} {refuses : α → Bool} {m : Session α} (h : RefusesQuietly refuses m)
    {wrap : α → SessionResult} (hwrap : ∀ a, SessionOutcome.refuses (.ok (wrap a)) = refuses a)
    (hrefuses : SessionOutcome.refuses ((wrap <$> m) s).1 = true) : ((wrap <$> m) s).2 = s := by
  rw [map_apply] at hrefuses ⊢
  rcases hrun : m s with ⟨error | a, t⟩
  · rw [hrun] at hrefuses
    cases hrefuses
  · rw [hrun] at hrefuses
    exact h s a t hrun ((hwrap a).symm.trans hrefuses)

end Session

/-! ### No trace -/

/-- No other result is a refusal. -/
theorem not_refuses {α : Type} {m : Session α} {wrap : α → SessionResult} {s : SessionState}
    (hwrap : ∀ a, SessionOutcome.refuses (.ok (wrap a)) = false) :
    SessionOutcome.refuses ((wrap <$> m) s).1 = false := by
  rw [map_apply]
  rcases m s with ⟨error | a, t⟩
  · rfl
  · exact hwrap a

/-- **A refused call leaves the state as it was.** -/
theorem refused_unchanged (digest : String → String) (op : SessionOp) (s : SessionState)
    (h : (sessionStep digest op s).1.refuses = true) : (sessionStep digest op s).2 = s := by
  have hother : ∀ {α : Type} {m : Session α} {wrap : α → SessionResult},
      (∀ a, SessionOutcome.refuses (.ok (wrap a)) = false) →
      SessionOutcome.refuses ((wrap <$> m) s).1 = true → ((wrap <$> m) s).2 = s :=
    fun hwrap hrefuses => absurd ((not_refuses hwrap).symm.trans hrefuses) (by simp)
  cases op with
  | handleDeepResult identity result => exact (Session.handleDeepResult_quiet identity result).outcome (fun _ => rfl) h
  | completeDeepKnowledge ids summary identity =>
      exact (Session.completeDeepKnowledge_quiet ids summary identity).outcome (fun _ => rfl) h
  | completeDeepRetrieval inherited summary identity =>
      exact (Session.completeDeepRetrieval_quiet inherited summary identity).outcome (fun _ => rfl) h
  | recordDeepSupplementalEvidence identity id item =>
      exact (Session.recordDeepSupplementalEvidence_quiet identity id item).outcome (fun _ => rfl) h
  | completeContextBuild identity completion =>
      exact (Session.completeContextBuild_quiet identity completion).outcome (fun _ => rfl) h
  | prepareAdrBuild identity candidate =>
      exact (Session.prepareAdrBuild_quiet identity candidate).outcome (fun _ => rfl) h
  | requireAdrDecision identity ambiguity =>
      exact (Session.requireAdrDecision_quiet identity ambiguity).outcome (fun _ => rfl) h
  | finalizeAdrBuild identity commit => exact (Session.finalizeAdrBuild_quiet identity commit).outcome (fun _ => rfl) h
  | consumeDeepSearchBudget identity => exact (Session.consumeDeepSearchBudget_quiet identity).outcome (fun _ => rfl) h
  | reserveDeepSearchBudget identity => exact (Session.reserveDeepSearchBudget_quiet identity).outcome (fun _ => rfl) h
  | commitDeepSearchBudget identity => exact (Session.commitDeepSearchBudget_quiet identity).outcome (fun _ => rfl) h
  | releaseDeepSearchBudget identity => exact (Session.releaseDeepSearchBudget_quiet identity).outcome (fun _ => rfl) h
  | _ =>
      rw [sessionStep, Session.runOp] at h ⊢
      exact hother (fun _ => rfl) h

/-- What the operations answer, one after the other, from a state on. -/
def answersFrom (digest : String → String) (s : SessionState) (ops : List SessionOp) : List SessionOutcome :=
  (trace (sessionStep digest) s ops).map (·.output)

/-- **A refused call leaves no trace.**  In every session, when a call is answered with stale, invalid or limit,
the state is the one before the call, and every sequence of operations answers afterwards what it would have
answered without it. -/
theorem refused_leaves_no_trace (digest : String → String) (before : List SessionOp) (op : SessionOp)
    (h : (sessionStep digest op (finish (sessionStep digest) createForgeSessionState before)).1.refuses = true) :
    finish (sessionStep digest) createForgeSessionState (before ++ [op]) =
        finish (sessionStep digest) createForgeSessionState before ∧
      ∀ later : List SessionOp,
        answersFrom digest (finish (sessionStep digest) createForgeSessionState (before ++ [op])) later =
          answersFrom digest (finish (sessionStep digest) createForgeSessionState before) later := by
  have hsame : finish (sessionStep digest) createForgeSessionState (before ++ [op]) =
      finish (sessionStep digest) createForgeSessionState before := by
    rw [finish_append]
    exact refused_unchanged digest op _ h
  exact ⟨hsame, fun later => by rw [hsame]⟩

def firstRetrieval : DeepAttemptIdentity := ⟨"deep-1", "grill-1", .deepKnowledgeRetrieval⟩

/-- A retrieval that searches as often as it may. -/
def searchedOut : List SessionOp :=
  [.startGrillRound "do it" ⟨0, .empty, []⟩, .beginDeepKnowledge none .deepKnowledgeRetrieval] ++
    (List.replicate 8 [.reserveDeepSearchBudget firstRetrieval, .commitDeepSearchBudget firstRetrieval]).flatten

/-- Its findings are handed to an attempt that understands them. -/
def handedOver : List SessionOp :=
  searchedOut ++ [.completeDeepRetrieval [] none firstRetrieval, .beginDeepKnowledge none .knowledgeUnderstanding]

def understandingAttempt : DeepAttemptIdentity := ⟨"deep-2", "grill-1", .knowledgeUnderstanding⟩

/-- A package whose decision cites evidence that is not in it. -/
def citingPackage : EvidencePackage :=
  { knowledgeSummary := "s"
    evidence := []
    evidenceIds := []
    decisions := [⟨"d", "t", ["e"]⟩]
    findings := []
    limitations := []
    verificationLevel := none
    specGap := none
    formalSpecReference := none }

/-- The workflow goes on: the attempt needs discovery, and Grill is taken up again. -/
def goesOn : List SessionOp :=
  [.reserveDeepSearchBudget understandingAttempt, .handleDeepResult understandingAttempt (.needsDiscovery none),
    .beginGrill none, .continueGrillRound, .beginDeepKnowledge none .deepKnowledgeRetrieval]

/-- A search over the limit, and a package that is not well formed, in the course of a workflow. -/
theorem refused_calls_leave_no_trace :
    answersFrom id (finish (sessionStep id) createForgeSessionState
        (searchedOut ++ [.reserveDeepSearchBudget firstRetrieval])) goesOn =
      answersFrom id (finish (sessionStep id) createForgeSessionState searchedOut) goesOn ∧
    answersFrom id (finish (sessionStep id) createForgeSessionState
        (handedOver ++ [.handleDeepResult understandingAttempt (.understandingCompleted citingPackage)])) goesOn =
      answersFrom id (finish (sessionStep id) createForgeSessionState handedOver) goesOn :=
  ⟨(refused_leaves_no_trace id searchedOut (.reserveDeepSearchBudget firstRetrieval) (by decide +kernel)).2 goesOn,
    (refused_leaves_no_trace id handedOver
      (.handleDeepResult understandingAttempt (.understandingCompleted citingPackage)) (by decide +kernel)).2 goesOn⟩

end ForgeRuntime
