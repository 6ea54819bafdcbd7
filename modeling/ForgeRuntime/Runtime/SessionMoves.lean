import ForgeRuntime.Lib.Machine
import ForgeRuntime.Runtime.SessionAnswers

/-!
# The moves of a session

Every operation of the session object as an input of one machine, and the list of everything that such an
input can do to the state.  `SessionMove` says it once: each constructor is one outcome of an operation,
with the guards under which it happens and the state it leaves.  `step_move` proves that the operations do
nothing else, so that an invariant of sessions is a case analysis on moves.

The operations that only read (`current`, the `current…Attempt` and `get…` functions) are functions of
the state and are not inputs.
-/

namespace ForgeRuntime

open EventDriven EventDriven.Text

inductive SessionOp where
  | beginGrill (decisionSummary : Option String)
  | beginIntent (decisionSummary : Option String)
  | beginLightDiscovery (decisionSummary : Option String)
  | beginDeepKnowledge (decisionSummary : Option String) (phase : DeepAttemptPhase)
  | cancelDeepKnowledge
  | completeDeepKnowledge (evidenceIds : List String) (decisionSummary : Option String)
      (identity : DeepAttemptIdentity)
  | retryDeepKnowledge (decisionSummary : Option String)
  | completeDeepRetrieval (inheritedEvidence : List EvidenceInput) (decisionSummary : Option String)
      (identity : DeepAttemptIdentity)
  | completeContextBuild (identity : ContextBuildIdentity) (completion : ContextBuildCompletion)
  | confirm
  | continueGrillRound
  | retryGrillRound
  | handleDeepResult (identity : DeepAttemptIdentity) (result : DeepResult)
  | recordCompletionOmission
  | recordDeepSupplementalEvidence (identity : DeepAttemptIdentity) (evidenceId : String)
      (evidence : Option EvidenceInput)
  | consumeDeepSearchBudget (identity : DeepAttemptIdentity)
  | reserveDeepSearchBudget (identity : DeepAttemptIdentity)
  | commitDeepSearchBudget (identity : DeepAttemptIdentity)
  | releaseDeepSearchBudget (identity : DeepAttemptIdentity)
  | recordEvidenceFetch (candidateId : String)
  | recordAnswer (answer : String)
  | prepareAdrBuild (identity : AdrBuildIdentity) (candidate : AdrBuildCandidate)
  | requireAdrDecision (identity : AdrBuildIdentity) (ambiguity : ContextAmbiguity)
  | finalizeAdrBuild (identity : AdrBuildIdentity) (commit : CommitDocumentsResult)
  | reset
  | requireGrillResult (payload : WaitUserPayload)
  | reject (selection : Option String)
  | requireWaitUser (payload : WaitUserPayload)
  | startGrillRound (request : String) (snapshot : GrillEvidenceSnapshot)
deriving DecidableEq

inductive SessionResult where
  | ui (state : ForgeUiState)
  | deep (result : DeepCallResult)
  | context (result : ContextBuildCallResult)
  | adr (result : AdrBuildCallResult)
  | round (round : GrillRound)
  | roundIfAny (round : Option GrillRound)
  | flag (value : Bool)
  | budget (answer : BudgetAnswer)
  | done
deriving DecidableEq

/-- What a call gives back: a result, or the message of a thrown error. -/
abbrev SessionOutcome := Except String SessionResult

namespace Session

/-- Run one operation. -/
def runOp (digest : String → String) : SessionOp → Session SessionResult
  | .beginGrill decisionSummary => .ui <$> beginGrill decisionSummary
  | .beginIntent decisionSummary => .ui <$> beginIntent decisionSummary
  | .beginLightDiscovery decisionSummary => .ui <$> beginLightDiscovery decisionSummary
  | .beginDeepKnowledge decisionSummary phase => .ui <$> beginDeepKnowledge decisionSummary phase
  | .cancelDeepKnowledge => .ui <$> cancelDeepKnowledge
  | .completeDeepKnowledge evidenceIds decisionSummary identity =>
      .deep <$> completeDeepKnowledge evidenceIds decisionSummary identity
  | .retryDeepKnowledge decisionSummary => .ui <$> retryDeepKnowledge decisionSummary
  | .completeDeepRetrieval inheritedEvidence decisionSummary identity =>
      .deep <$> completeDeepRetrieval inheritedEvidence decisionSummary identity
  | .completeContextBuild identity completion => .context <$> completeContextBuild identity completion
  | .confirm => .ui <$> confirm
  | .continueGrillRound => .round <$> continueGrillRound
  | .retryGrillRound => .roundIfAny <$> retryGrillRound
  | .handleDeepResult identity result => .deep <$> handleDeepResult identity result
  | .recordCompletionOmission => .flag <$> recordCompletionOmission
  | .recordDeepSupplementalEvidence identity evidenceId evidence =>
      .deep <$> recordDeepSupplementalEvidence identity evidenceId evidence
  | .consumeDeepSearchBudget identity => .budget <$> consumeDeepSearchBudget identity
  | .reserveDeepSearchBudget identity => .budget <$> reserveDeepSearchBudget identity
  | .commitDeepSearchBudget identity => .budget <$> commitDeepSearchBudget identity
  | .releaseDeepSearchBudget identity => .budget <$> releaseDeepSearchBudget identity
  | .recordEvidenceFetch candidateId => (fun _ => .done) <$> recordEvidenceFetch candidateId
  | .recordAnswer answer => .ui <$> recordAnswer digest answer
  | .prepareAdrBuild identity candidate => .adr <$> prepareAdrBuild identity candidate
  | .requireAdrDecision identity ambiguity => .adr <$> requireAdrDecision identity ambiguity
  | .finalizeAdrBuild identity commit => .adr <$> finalizeAdrBuild identity commit
  | .reset => .ui <$> reset
  | .requireGrillResult payload => .ui <$> requireGrillResult payload
  | .reject selection => .ui <$> reject selection
  | .requireWaitUser payload => .ui <$> requireWaitUser payload
  | .startGrillRound request snapshot => .round <$> startGrillRound request snapshot

end Session

/-- The session as a machine over its operations. -/
def sessionStep (digest : String → String) (op : SessionOp) (s : SessionState) :
    SessionOutcome × SessionState :=
  Session.runOp digest op s

/-- Results with which an operation took what it was given. -/
def SessionOutcome.taken : SessionOutcome → Bool
  | .ok (.deep (.accepted _ _)) => true
  | .ok (.context (.accepted _ _)) => true
  | .ok (.context (.ambiguous _ _)) => true
  | .ok (.adr (.accepted _ _)) => true
  | .ok (.adr (.ambiguous _ _)) => true
  | .ok (.budget .accepted) => true
  | .ok (.budget .reserved) => true
  | .ok (.budget .released) => true
  | _ => false

/-- An orchestrator from which `target` can be entered. -/
def EntersFrom (orchestrator : Option WorkflowStage) (target : WorkflowStage) : Prop :=
  orchestrator = none ∨ orchestrator = some .receive ∨ orchestrator = some target ∨
    ∃ stage, orchestrator = some stage ∧ stage.CanTransitionTo target

theorem EntersFrom.not_waitUser {orchestrator : Option WorkflowStage} {target : WorkflowStage}
    (h : EntersFrom orchestrator target) (ht : target ≠ .waitUser) (hc : target ≠ .userConfirmed) :
    orchestrator ≠ some .waitUser := by
  rintro rfl
  rcases h with h | h | h | ⟨stage, h, hstage⟩
  · cases h
  · cases h
  · exact ht (Option.some.inj h).symm
  · cases h
    exact hc ((WorkflowStage.waitUser_canTransitionTo target).mp hstage)

/-- The identity that an evidence or budget operation is called with. -/
def SessionOp.bookkeepingIdentity? : SessionOp → Option DeepAttemptIdentity
  | .recordDeepSupplementalEvidence identity _ _ => some identity
  | .consumeDeepSearchBudget identity => some identity
  | .reserveDeepSearchBudget identity => some identity
  | .commitDeepSearchBudget identity => some identity
  | .releaseDeepSearchBudget identity => some identity
  | _ => none

/-- The stage that a `begin…` operation without attempt enters. -/
def SessionOp.entry? : SessionOp → Option WorkflowStage
  | .beginGrill _ => some .grill
  | .beginIntent _ => some .intentUnderstanding
  | .beginLightDiscovery _ => some .lightDiscovery
  | _ => none

/-- The operations that issue a deep attempt. -/
def SessionOp.issuesDeep : SessionOp → Bool
  | .beginDeepKnowledge _ _ => true
  | .retryDeepKnowledge _ => true
  | _ => false

/-- The identity with which an operation ends the retrieval phase. -/
def SessionOp.retrievalIdentity? : SessionOp → Option DeepAttemptIdentity
  | .completeDeepKnowledge _ _ identity => some identity
  | .completeDeepRetrieval _ _ identity => some identity
  | .handleDeepResult identity (.retrievalCompleted _ _) =>
      if identity.phase = .deepKnowledgeRetrieval then some identity else none
  | _ => none

/-- The payload of an operation that asks the user. -/
def SessionOp.question? : SessionOp → Option WaitUserPayload
  | .requireWaitUser payload => some payload
  | .requireGrillResult payload => some payload
  | _ => none

/-- What every kept answer writes; an answer to a Grill question also leaves a premise and counts. -/
def afterAnswer (digest : String → String) (s : SessionState) (pending : WaitUserState)
    (answer : String) : SessionState :=
  { s with
    answeredDecisionKeys := s.answeredDecisionKeys.add (waitUserDecisionKey pending)
    humanDecisions :=
      if pending.decisionId ∈ s.humanDecisions then s.humanDecisions
      else s.humanDecisions.insert pending.decisionId (Session.humanDecision pending answer)
    humanPremises := match pending.kind, s.currentGrillRound with
      | .grillConfirmation, some round => s.humanPremises.insert (waitUserDecisionKey pending)
          (Session.humanPremise digest round pending (trim answer))
      | _, _ => s.humanPremises
    grillAcceptedAnswerCount :=
      if pending.kind = .grillConfirmation then s.grillAcceptedAnswerCount + 1
      else s.grillAcceptedAnswerCount }

/-- The state shown after an answer: the question is gone and the stage is the one it led to. -/
def answeredUi (ui : ForgeUiState) (pending : WaitUserState) (answer : String) (stage : WorkflowStage) :
    ForgeUiState :=
  { ui with
    decisionSummary := some (Session.answerSummary pending answer)
    stage := .workflow stage
    waitUser := none }

open Session in
/-- How the work goes on after a kept answer. -/
inductive AnswerContinues (digest : String → String) (s : SessionState) (pending : WaitUserState)
    (answer : String) : SessionState → Prop
  | atCheckpoint {round : GrillRound} (hkind : pending.kind = .grillConfirmation)
      (hround : s.currentGrillRound = some round) (hroundId : round.roundId = pending.roundId)
      (hdue : checkpointDue (afterAnswer digest s pending answer)) :
      AnswerContinues digest s pending answer
        { afterAnswer digest s pending answer with
          orchestrator := some .waitUser
          continueGrillCheckpointPending := false
          uiState := { s.uiState with
            stage := .workflow .waitUser
            waitUser := some (checkpointDecision round pending.evidenceIds) } }
  | inGrill (hkind : pending.kind = .grillConfirmation ∨ pending.kind = .deepDecision)
      (hdue : pending.kind = .grillConfirmation → ¬ checkpointDue (afterAnswer digest s pending answer)) :
      AnswerContinues digest s pending answer
        { afterAnswer digest s pending answer with
          orchestrator := some .grill
          uiState := answeredUi s.uiState pending answer .grill }
  | confirmed
      (hkind : pending.kind = .deepDiscoveryFallback ∨ pending.kind = .relevanceClarification) :
      AnswerContinues digest s pending answer
        { afterAnswer digest s pending answer with
          orchestrator := some .userConfirmed
          uiState := answeredUi s.uiState pending answer .userConfirmed }
  | inContextBuild (hkind : pending.kind = .contextAmbiguity) :
      AnswerContinues digest s pending answer
        { afterAnswer digest s pending answer with
          orchestrator := some .contextBuild
          contextBuildAttempt :=
            some ⟨contextBuildAttemptId s.nextContextBuildAttemptId, pending.roundId⟩
          nextContextBuildAttemptId := s.nextContextBuildAttemptId + 1
          uiState := answeredUi s.uiState pending answer .contextBuild }
  | inAdrBuild (hkind : pending.kind = .adrAmbiguity) :
      AnswerContinues digest s pending answer
        { afterAnswer digest s pending answer with
          orchestrator := some .adrBuild
          adrBuildAttempt := some ⟨adrBuildAttemptId s.nextAdrBuildAttemptId, pending.roundId⟩
          nextAdrBuildAttemptId := s.nextAdrBuildAttemptId + 1
          uiState := answeredUi s.uiState pending answer .adrBuild }

open Session in
/-- **Everything that an operation can do.**  `SessionMove digest s op r t`: called in the state `s`, `op`
gives back `r` and leaves `t`. -/
inductive SessionMove (digest : String → String) (s : SessionState) :
    SessionOp → SessionOutcome → SessionState → Prop
  /-- Nothing is written and nothing is taken. -/
  | refused {op : SessionOp} {r : SessionOutcome} (hr : r.taken = false) : SessionMove digest s op r s
  /-- An absent orchestrator is created before the call throws. -/
  | orchestratorCreated {op : SessionOp} {e : String} (h : s.orchestrator = none) :
      SessionMove digest s op (.error e) { s with orchestrator := some .receive }
  /-- A request for discovery is counted before the call throws. -/
  | discoveryCounted {identity : DeepAttemptIdentity} {summary : Option String} {e : String} :
      SessionMove digest s (.handleDeepResult identity (.needsDiscovery summary)) (.error e)
        { s with
          orchestrator := some (s.orchestrator.getD .receive)
          needsDiscoveryCount := s.needsDiscoveryCount + 1 }
  | confirmRefused {r : SessionOutcome} (hr : r.taken = false) (h : s.orchestrator ≠ some .waitUser) :
      SessionMove digest s .confirm r
        { s with uiState := { s.uiState with stage := .confirmRejectedWaitUserRequired } }
  | answerRefused {answer : String} {r : SessionOutcome} (hr : r.taken = false)
      (h : s.orchestrator ≠ some .waitUser) :
      SessionMove digest s (.recordAnswer answer) r
        { s with uiState := { s.uiState with stage := .answerRejectedWaitUserRequired } }
  | grillRetried {r : SessionOutcome} (hr : r.taken = false) (hround : s.currentGrillRound ≠ none)
      (h : s.uiState.validationRepair.map (·.rootCause) = some "RECOVERY_REQUIRED") :
      SessionMove digest s .retryGrillRound r
        { s with
          completionOmissionRecorded := false
          uiState := { s.uiState with
            stage := .workflow .grill
            validationRepair := none } }
  | omissionRecorded {r : SessionOutcome} (hr : r.taken = false)
      (h : s.completionOmissionRecorded = false) :
      SessionMove digest s .recordCompletionOmission r
        { s with
          completionOmissionRecorded := true
          uiState := { s.uiState with
            stage := .workflow .grill
            validationRepair := some recoveryRequired } }
  /-- Evidence is recorded or the search budget is used, for the live attempt. -/
  | bookkept {op : SessionOp} {r : SessionOutcome} {identity : DeepAttemptIdentity}
      (hop : op.bookkeepingIdentity? = some identity) (h : s.deepAttempt = some identity)
      (ids : OrderedSet String) (evidence : OrderedMap String EvidenceInput)
      (budgetRound : Option String) (count : Nat) (reservations : OrderedMap String Nat) :
      SessionMove digest s op r
        { s with
          deepSupplementalEvidenceIds := ids
          deepSupplementalEvidence := evidence
          deepSearchBudgetRoundId := budgetRound
          deepSearchCount := count
          deepSearchReservations := reservations }
  | fetchRecorded {candidateId : String} {r : SessionOutcome} (hr : r.taken = false) :
      SessionMove digest s (.recordEvidenceFetch candidateId) r
        { s with fetchedEvidenceIds := s.fetchedEvidenceIds.add candidateId }
  | entered {op : SessionOp} {r : SessionOutcome} {target : WorkflowStage} (hr : r.taken = false)
      (hop : op.entry? = some target) (h : EntersFrom s.orchestrator target)
      (summary : Option String) :
      SessionMove digest s op r
        { s with
          orchestrator := some target
          uiState := { s.uiState with
            decisionSummary := summary
            stage := .workflow target } }
  | deepIssued {op : SessionOp} {r : SessionOutcome} {round : GrillRound} {phase : DeepAttemptPhase}
      (hr : r.taken = false) (hop : op.issuesDeep = true) (hround : s.currentGrillRound = some round)
      (h : EntersFrom s.orchestrator phase.stage ∨
        (∃ summary, op = .retryDeepKnowledge summary) ∧
          (s.deepRetryPhase <|> s.resumableDeepPhase) = some phase)
      (summary : Option String) :
      SessionMove digest s op r
        { s with
          orchestrator := some phase.stage
          uiState := { s.uiState with
            decisionSummary := summary
            stage := .workflow phase.stage
            waitUser := none }
          deepAttempt := some ⟨deepAttemptId s.nextDeepAttemptId, round.roundId, phase⟩
          nextDeepAttemptId := s.nextDeepAttemptId + 1
          deepSearchReservations := .empty
          deepRetryPhase := none
          resumableDeepPhase := none }
  | deepCancelled {r : SessionOutcome} (hr : r.taken = false) :
      SessionMove digest s .cancelDeepKnowledge r
        { s with
          deepAttempt := none
          deepRetryPhase := none
          needsDiscoveryCount := 0
          knowledgeUnderstandingPackage := none
          resumableDeepPhase := some (cancelledPhase s)
          orchestrator := some (cancelledPhase s).stage
          uiState := { s.uiState with
            stage := .workflow (cancelledPhase s).stage
            waitUser := none } }
  /-- The live attempt moves on to the understanding phase. -/
  | retrievalEnded {op : SessionOp} {r : SessionOutcome} {identity : DeepAttemptIdentity}
      (hop : op.retrievalIdentity? = some identity) (h : s.deepAttempt = some identity)
      (horch : EntersFrom s.orchestrator .knowledgeUnderstanding) (summary : Option String)
      (evidenceIds : List String) (locked : Option LockedDeepEvidence) :
      SessionMove digest s op r
        { s with
          orchestrator := some .knowledgeUnderstanding
          uiState := { s.uiState with
            decisionSummary := summary
            lastEvidenceIds := evidenceIds
            stage := .workflow .knowledgeUnderstanding
            waitUser := none }
          deepAttempt := some { identity with phase := .knowledgeUnderstanding }
          lockedDeepEvidence := locked }
  | confirmed {r : SessionOutcome} (hr : r.taken = false) (h : s.orchestrator = some .waitUser) :
      SessionMove digest s .confirm r
        { s with
          orchestrator := some .userConfirmed
          uiState := { s.uiState with
            stage := .workflow .userConfirmed
            waitUser := none } }
  | deepDecisionAsked {r : SessionOutcome} {identity : DeepAttemptIdentity}
      {decision : DeepNeedsDecisionResult} (h : s.deepAttempt = some identity)
      (horch : (s.orchestrator.getD .receive).CanTransitionTo .waitUser) (summary : Option String) :
      SessionMove digest s (.handleDeepResult identity (.needsDecision decision)) r
        { s with
          orchestrator := some .waitUser
          uiState := { s.uiState with
            decisionSummary := summary
            lastEvidenceIds := decision.evidenceIds
            stage := .workflow .waitUser
            waitUser := some (deepDecision identity decision) }
          deepRetryPhase := some identity.phase
          deepAttempt := none }
  | fallbackAsked {r : SessionOutcome} {identity : DeepAttemptIdentity} {summary : Option String}
      (h : s.deepAttempt = some identity)
      (horch : (s.orchestrator.getD .receive).CanTransitionTo .waitUser)
      (hcount : s.needsDiscoveryCount + 1 ≥ 2) (shown : Option String) :
      SessionMove digest s (.handleDeepResult identity (.needsDiscovery summary)) r
        { s with
          orchestrator := some .waitUser
          needsDiscoveryCount := s.needsDiscoveryCount + 1
          uiState := { s.uiState with
            decisionSummary := shown
            stage := .workflow .waitUser
            waitUser := some (fallbackDecision identity s.fetchedEvidenceIds.elems) }
          deepAttempt := none }
  | rediscovered {r : SessionOutcome} {identity : DeepAttemptIdentity} {summary : Option String}
      (h : s.deepAttempt = some identity)
      (horch : (s.orchestrator.getD .receive).CanTransitionTo .lightDiscovery)
      (hcount : s.needsDiscoveryCount + 1 < 2) (shown : Option String) :
      SessionMove digest s (.handleDeepResult identity (.needsDiscovery summary)) r
        { s with
          orchestrator := some .lightDiscovery
          needsDiscoveryCount := s.needsDiscoveryCount + 1
          uiState := { s.uiState with
            decisionSummary := shown
            stage := .workflow .lightDiscovery
            waitUser := none }
          deepAttempt := none }
  /-- A package that the validator accepts is stored, and Context Build starts with a new attempt. -/
  | packageAccepted {r : SessionOutcome} {identity : DeepAttemptIdentity} {package : EvidencePackage}
      (hr : r.taken = true) (h : s.deepAttempt = some identity) (hphase : identity.phase = .knowledgeUnderstanding)
      (hvalid : validateEvidencePackage package = .ok ())
      (horch : (s.orchestrator.getD .receive).CanTransitionTo .contextBuild) :
      SessionMove digest s (.handleDeepResult identity (.understandingCompleted package)) r
        { s with
          orchestrator := some .contextBuild
          knowledgeUnderstandingPackage := some package
          contextBuildAttempt :=
            some ⟨contextBuildAttemptId s.nextContextBuildAttemptId, identity.sourceRoundId⟩
          nextContextBuildAttemptId := s.nextContextBuildAttemptId + 1
          uiState := { s.uiState with
            lastEvidenceIds := package.evidenceIds
            stage := .workflow .contextBuild
            waitUser := none }
          deepAttempt := none }
  | contextAmbiguityAsked {r : SessionOutcome} {identity : ContextBuildIdentity}
      {ambiguity : ContextAmbiguity} {package : EvidencePackage}
      (h : s.contextBuildAttempt = some identity) (horch : s.orchestrator = some .contextBuild)
      (hpackage : s.knowledgeUnderstandingPackage = some package)
      (hvalid : validateContextAmbiguity ambiguity package.evidenceIds = []) :
      SessionMove digest s (.completeContextBuild identity (.ambiguous ambiguity)) r
        { s with
          orchestrator := some .waitUser
          uiState := { s.uiState with
            lastEvidenceIds := ambiguity.evidenceIds
            stage := .workflow .waitUser
            waitUser := some (ambiguityDecision .contextAmbiguity identity.sourceRoundId ambiguity) }
          contextBuildAttempt := none }
  /-- A glossary that cites the stored package is stored, and ADR Build starts with a new attempt. -/
  | contextAccepted {r : SessionOutcome} {identity : ContextBuildIdentity}
      {candidate : ContextCandidate} {package : EvidencePackage}
      (h : s.contextBuildAttempt = some identity) (horch : s.orchestrator = some .contextBuild)
      (hpackage : s.knowledgeUnderstandingPackage = some package)
      (hvalid : validateContextCandidate candidate package.evidenceIds = []) :
      SessionMove digest s (.completeContextBuild identity (.completed candidate)) r
        { s with
          orchestrator := some .adrBuild
          contextCandidate := some candidate
          uiState := { s.uiState with
            stage := .workflow .adrBuild
            waitUser := none }
          contextBuildAttempt := none
          adrBuildAttempt := some ⟨adrBuildAttemptId s.nextAdrBuildAttemptId, identity.sourceRoundId⟩
          nextAdrBuildAttemptId := s.nextAdrBuildAttemptId + 1
          adrBuildCandidate := none }
  | adrPrepared {r : SessionOutcome} {identity : AdrBuildIdentity} {candidate : AdrBuildCandidate}
      {package : EvidencePackage} (h : s.adrBuildAttempt = some identity)
      (horch : s.orchestrator = some .adrBuild)
      (hpackage : s.knowledgeUnderstandingPackage = some package)
      (hvalid : validateAdrBuildCandidate candidate package.evidenceIds = []) :
      SessionMove digest s (.prepareAdrBuild identity candidate) r
        { s with adrBuildCandidate := some candidate }
  | adrAmbiguityAsked {r : SessionOutcome} {identity : AdrBuildIdentity} {ambiguity : ContextAmbiguity}
      {package : EvidencePackage} (h : s.adrBuildAttempt = some identity)
      (horch : s.orchestrator = some .adrBuild)
      (hpackage : s.knowledgeUnderstandingPackage = some package)
      (hvalid : validateContextAmbiguity ambiguity package.evidenceIds = []) :
      SessionMove digest s (.requireAdrDecision identity ambiguity) r
        { s with
          orchestrator := some .waitUser
          uiState := { s.uiState with
            lastEvidenceIds := ambiguity.evidenceIds
            stage := .workflow .waitUser
            waitUser := some (ambiguityDecision .adrAmbiguity identity.sourceRoundId ambiguity) }
          adrBuildAttempt := none
          adrBuildCandidate := none }
  | adrFinalized {r : SessionOutcome} {identity : AdrBuildIdentity} {commit : CommitDocumentsResult}
      (h : s.adrBuildAttempt = some identity) (horch : s.orchestrator = some .adrBuild)
      (hcandidate : s.adrBuildCandidate ≠ none) (hcommit : isCommitted commit = true) :
      SessionMove digest s (.finalizeAdrBuild identity commit) r
        { s with
          orchestrator := some .toSpec
          uiState := { s.uiState with
            stage := .workflow .toSpec
            waitUser := none }
          adrBuildAttempt := none }
  | checkpointAnswered {answer : String} {r : SessionOutcome} {pending : WaitUserState}
      (hr : r.taken = false) (horch : s.orchestrator = some .waitUser)
      (hpending : s.uiState.waitUser = some pending) (hkind : pending.kind = .grillCheckpoint)
      (hguard : ¬ refusesAnswer s pending (trim answer)) :
      SessionMove digest s (.recordAnswer answer) r
        { s with
          orchestrator := some .grill
          continueGrillCheckpointPending := trim answer == "continue_one"
          uiState := { s.uiState with
            stage := .workflow .grill
            waitUser := none } }
  /-- An answer is kept; `t` is the state in which the work goes on. -/
  | answered {answer : String} {r : SessionOutcome} {pending : WaitUserState} {t : SessionState}
      (hr : r.taken = false) (horch : s.orchestrator = some .waitUser)
      (hpending : s.uiState.waitUser = some pending) (hkind : pending.kind ≠ .grillCheckpoint)
      (hguard : ¬ refusesAnswer s pending (trim answer))
      (hcontinues : AnswerContinues digest s pending answer t) :
      SessionMove digest s (.recordAnswer answer) r t
  | wasReset {r : SessionOutcome} (hr : r.taken = false) :
      SessionMove digest s .reset r
        { createForgeSessionState with
          nextRoundId := s.nextRoundId
          nextDeepAttemptId := s.nextDeepAttemptId
          nextContextBuildAttemptId := s.nextContextBuildAttemptId
          nextAdrBuildAttemptId := s.nextAdrBuildAttemptId }
  | rejected {selection : Option String} {r : SessionOutcome} (hr : r.taken = false) :
      SessionMove digest s (.reject selection) r
        { s with
          orchestrator := if s.orchestrator = some .waitUser then some .grill else s.orchestrator
          uiState := { s.uiState with
            decisionSummary :=
              some (rejectionSummary (s.uiState.waitUser.map (·.recommendation)) selection)
            stage := .workflow .grill
            validationRepair := some userRejected
            waitUser := none } }
  | asked {op : SessionOp} {payload : WaitUserPayload} {round : GrillRound} {r : SessionOutcome}
      (hr : r.taken = false) (hop : op.question? = some payload)
      (hdecisionId : ¬ Blank payload.decisionId)
      (hkey : waitUserDecisionKey payload.toWaitUserState ∉ s.answeredDecisionKeys)
      (hdecision : payload.decisionId ∉ s.humanDecisions)
      (hround : s.currentGrillRound = some round) (hroundId : payload.roundId = round.roundId)
      (horch : (stageFrom .grill s.orchestrator).CanTransitionTo .waitUser) :
      SessionMove digest s op r
        { s with
          orchestrator := some .waitUser
          uiState :=
            { decisionSummary := payload.decisionSummary
              lastEvidenceIds := payload.evidenceIds
              stage := .workflow .waitUser
              validationRepair := none
              waitUser := some payload.toWaitUserState } }
  | roundStarted {request : String} {snapshot : GrillEvidenceSnapshot} {r : SessionOutcome}
      (hr : r.taken = false) (first : Bool)
      (hfirst : first = decide (s.currentGrillRound.map (·.snapshot.ref) ≠ some snapshot.ref)) :
      SessionMove digest s (.startGrillRound request snapshot) r
        { (if first then forgetSnapshot s else s) with
          completionOmissionRecorded := false
          deepSearchBudgetRoundId := none
          deepSearchCount := 0
          deepAttempt := none
          currentGrillRound := some ⟨first, roundId s.nextRoundId, request, snapshot⟩
          nextRoundId := s.nextRoundId + 1 }

/-! ### The operations make no other move -/

namespace Session

section

variable {digest : String → String} (s : SessionState)

theorem entersFrom_of_stageFrom {target : WorkflowStage} {orchestrator : Option WorkflowStage}
    (h : stageFrom target orchestrator = target ∨
      (stageFrom target orchestrator).CanTransitionTo target) : EntersFrom orchestrator target := by
  unfold stageFrom at h
  split at h
  · rename_i hnone
    rcases hnone with hnone | hreceive
    · exact Or.inl hnone
    · exact Or.inr (Or.inl hreceive)
  · rename_i hsome
    cases orchestrator with
    | none => exact Or.inl rfl
    | some stage =>
        simp only [Option.getD_some] at h
        rcases h with h | h
        · exact Or.inr (Or.inr (Or.inl (congrArg some h)))
        · exact Or.inr (Or.inr (Or.inr ⟨stage, rfl, h⟩))

/-- An orchestrator that is not replaced stays as it is. -/
theorem some_stageFrom {initialStage : WorkflowStage} {orchestrator : Option WorkflowStage}
    (h : stageFrom initialStage orchestrator ≠ initialStage) :
    some (stageFrom initialStage orchestrator) = orchestrator := by
  unfold stageFrom at h ⊢
  split
  · rename_i hnew
    exact absurd (if_pos hnew) h
  · cases orchestrator with
    | none => simp at h
    | some stage => rfl

/-- A run of an operation, its value wrapped as a result, is one of its moves. -/
def Moves {α : Type} (digest : String → String) (s : SessionState) (op : SessionOp)
    (wrap : α → SessionResult) (run : Except String α × SessionState) : Prop :=
  SessionMove digest s op (run.1.map wrap) run.2

theorem beginGrill_move (summary : Option String) :
    Moves digest s (.beginGrill summary) .ui (beginGrill summary s) := by
  simp only [beginGrill, orchestratorFrom_bind_apply, enterStage_bind_apply, setUi_apply]
  split
  · rename_i h
    rw [h]
    exact .entered rfl rfl (entersFrom_of_stageFrom (Or.inl h)) _
  · rename_i hne
    split
    · rename_i h
      exact .entered rfl rfl (entersFrom_of_stageFrom (Or.inr h)) _
    · rw [some_stageFrom hne]
      exact .refused rfl

theorem beginStage_move {op : SessionOp} {target : WorkflowStage} (summary : Option String)
    (hop : op.entry? = some target) : Moves digest s op .ui (beginStage target summary s) := by
  simp only [beginStage, ensureOrchestrator_bind_apply, enterStage_bind_apply, setUi_apply]
  cases horch : s.orchestrator with
  | none =>
      simp only [Option.getD_none]
      split
      · rename_i h
        subst h
        exact .entered rfl hop (Or.inl horch) _
      · split
        · exact .entered rfl hop (Or.inl horch) _
        · exact .orchestratorCreated horch
  | some stage =>
      simp only [Option.getD_some]
      split
      · rename_i h
        subst h
        exact .entered rfl hop (Or.inr (Or.inr (Or.inl horch))) _
      · split
        · rename_i h
          exact .entered rfl hop (Or.inr (Or.inr (Or.inr ⟨stage, horch, h⟩))) _
        · rw [← horch]
          exact .refused rfl

theorem beginDeepKnowledge_move (summary : Option String) (phase : DeepAttemptPhase) :
    Moves digest s (.beginDeepKnowledge summary phase) .ui (beginDeepKnowledge summary phase s) := by
  cases hround : s.currentGrillRound with
  | none =>
      simp only [beginDeepKnowledge, Turn.get_bind_apply, hround, Turn.throw_apply]
      exact .refused rfl
  | some round =>
      simp only [beginDeepKnowledge, Turn.get_bind_apply, hround, orchestratorFrom_bind_apply,
        enterStage_bind_apply, setUi_bind_apply, issueDeepAttempt_bind_apply, Turn.pure_apply]
      split
      · rename_i h
        rw [h]
        rw [← hround]
        exact .deepIssued rfl rfl hround (Or.inl (entersFrom_of_stageFrom (Or.inl h))) _
      · rename_i hne
        split
        · rename_i h
          rw [← hround]
          exact .deepIssued rfl rfl hround (Or.inl (entersFrom_of_stageFrom (Or.inr h))) _
        · rw [some_stageFrom hne, ← hround]
          exact .refused rfl

theorem cancelDeepKnowledge_move :
    Moves digest s .cancelDeepKnowledge .ui (cancelDeepKnowledge s) :=
  .deepCancelled rfl

theorem retryDeepKnowledge_move (summary : Option String) :
    Moves digest s (.retryDeepKnowledge summary) .ui (retryDeepKnowledge summary s) := by
  cases hround : s.currentGrillRound with
  | none =>
      simp only [retryDeepKnowledge, Turn.get_bind_apply, hround, Turn.pure_apply]
      exact .refused rfl
  | some round =>
      cases hphase : s.deepRetryPhase <|> s.resumableDeepPhase with
      | none =>
          simp only [retryDeepKnowledge, Turn.get_bind_apply, hround, hphase, Turn.pure_apply]
          exact .refused rfl
      | some phase =>
          simp only [retryDeepKnowledge, Turn.get_bind_apply, hround, hphase, Turn.modify_bind_apply,
            setUi_bind_apply, issueDeepAttempt_bind_apply, Turn.pure_apply]
          rw [← hround]
          exact .deepIssued rfl rfl hround (Or.inr ⟨⟨summary, rfl⟩, hphase⟩) _

theorem confirm_move : Moves digest s .confirm .ui (confirm s) := by
  simp only [confirm, Turn.get_bind_apply, Turn.ite_apply_state, transitionTo_bind_apply, setUi_apply]
  split
  · rename_i h
    exact .confirmRefused rfl h
  · rename_i h
    exact .confirmed rfl (not_not.mp h)

theorem continueGrillRound_move :
    Moves digest s .continueGrillRound .round (continueGrillRound s) := by
  cases hround : s.currentGrillRound with
  | none =>
      simp only [continueGrillRound, Turn.get_bind_apply, hround, Turn.throw_apply]
      exact .refused rfl
  | some round =>
      simp only [continueGrillRound, Turn.get_bind_apply, hround, Turn.pure_apply]
      exact .refused rfl

theorem retryGrillRound_move : Moves digest s .retryGrillRound .roundIfAny (retryGrillRound s) := by
  cases hround : s.currentGrillRound with
  | none =>
      simp only [retryGrillRound, Turn.get_bind_apply, hround, Turn.pure_apply]
      exact .refused rfl
  | some round =>
      simp only [retryGrillRound, Turn.get_bind_apply, hround, Turn.ite_apply_state, Turn.pure_apply,
        Turn.modify_bind_apply]
      split
      · exact .refused rfl
      · rename_i h
        rw [← hround]
        exact .grillRetried rfl (by simp [hround]) (not_not.mp h)

theorem recordCompletionOmission_move :
    Moves digest s .recordCompletionOmission .flag (recordCompletionOmission s) := by
  simp only [recordCompletionOmission, Turn.get_bind_apply, Turn.ite_apply_state, Turn.pure_apply,
    Turn.modify_bind_apply]
  split
  · exact .refused rfl
  · rename_i h
    exact .omissionRecorded rfl (Bool.not_eq_true _ ▸ h)

/-! #### Deep results -/

theorem completeDeepKnowledge_cases (evidenceIds : List String) (summary : Option String)
    (identity : DeepAttemptIdentity) :
    (∃ result, completeDeepKnowledge evidenceIds summary identity s = (.ok result, s) ∧
        ∀ ui j, result ≠ .accepted ui j) ∨
      (∃ e, completeDeepKnowledge evidenceIds summary identity s = (.error e, s)) ∨
      (s.deepAttempt = some identity ∧ EntersFrom s.orchestrator .knowledgeUnderstanding ∧
        ∃ ui : ForgeUiState, ui = { s.uiState with
            decisionSummary := summary <|> s.uiState.decisionSummary
            lastEvidenceIds := evidenceIds
            stage := .workflow .knowledgeUnderstanding
            waitUser := none } ∧
          completeDeepKnowledge evidenceIds summary identity s =
            (.ok (.accepted ui { identity with phase := .knowledgeUnderstanding }),
              { s with
                orchestrator := some .knowledgeUnderstanding
                uiState := ui
                deepAttempt := some { identity with phase := .knowledgeUnderstanding } })) := by
  simp only [completeDeepKnowledge, Turn.get_bind_apply, Turn.ite_apply_state, Turn.pure_apply,
    orchestratorFrom_bind_apply, enterStage_bind_apply, setUi_bind_apply, Turn.modify_bind_apply]
  split
  · exact Or.inl ⟨_, rfl, by simp⟩
  · rename_i hlive
    split
    · rename_i h
      rw [h]
      exact Or.inr (Or.inr ⟨not_not.mp hlive, entersFrom_of_stageFrom (Or.inl h), _, rfl, rfl⟩)
    · rename_i hne
      split
      · rename_i h
        exact Or.inr (Or.inr ⟨not_not.mp hlive, entersFrom_of_stageFrom (Or.inr h), _, rfl, rfl⟩)
      · rw [some_stageFrom hne]
        exact Or.inr (Or.inl ⟨_, rfl⟩)

/-- A deep result that is not an acceptance takes nothing. -/
theorem deep_not_taken {result : DeepCallResult} (h : ∀ ui j, result ≠ .accepted ui j) :
    SessionOutcome.taken (.ok (.deep result)) = false := by
  cases result with
  | accepted ui j => exact absurd rfl (h ui j)
  | stale expected received => rfl
  | invalid ui errors => rfl

theorem completeDeepKnowledge_move {op : SessionOp} (evidenceIds : List String)
    (summary : Option String) (identity : DeepAttemptIdentity)
    (hop : op.retrievalIdentity? = some identity) :
    Moves digest s op .deep (completeDeepKnowledge evidenceIds summary identity s) := by
  rcases completeDeepKnowledge_cases s evidenceIds summary identity with
    ⟨result, h, hnot⟩ | ⟨e, h⟩ | ⟨hlive, henter, ui, rfl, h⟩
  · rw [h]
    exact .refused (deep_not_taken hnot)
  · rw [h]
    exact .refused rfl
  · rw [h]
    exact .retrievalEnded hop hlive henter _ _ _

theorem completeDeepRetrieval_move (inherited : List EvidenceInput) (summary : Option String)
    (identity : DeepAttemptIdentity) :
    Moves digest s (.completeDeepRetrieval inherited summary identity) .deep
      (completeDeepRetrieval inherited summary identity s) := by
  simp only [completeDeepRetrieval, Turn.get_bind_apply]
  rcases completeDeepKnowledge_cases s
      ((inherited ++ s.deepSupplementalEvidence.values).map (·.evidenceId)) summary identity with
    ⟨result, h, hnot⟩ | ⟨e, h⟩ | ⟨hlive, henter, ui, rfl, h⟩
  · rw [Turn.bind_eq_ok h]
    cases result with
    | accepted ui j => exact absurd rfl (hnot ui j)
    | stale expected received => exact .refused rfl
    | invalid ui errors => exact .refused rfl
  · rw [Turn.bind_eq_error h]
    exact .refused rfl
  · rw [Turn.bind_eq_ok h]
    exact .retrievalEnded rfl hlive henter _ _ _

theorem handleNeedsDecision_move (identity : DeepAttemptIdentity)
    (decision : DeepNeedsDecisionResult) :
    Moves digest s (.handleDeepResult identity (.needsDecision decision)) .deep
      (handleNeedsDecision identity decision s) := by
  simp only [handleNeedsDecision, Turn.get_bind_apply, Turn.ite_apply_state, Turn.pure_apply,
    ensureOrchestrator_bind_apply, transitionTo_bind_apply, setUi_bind_apply, Turn.modify_bind_apply]
  split
  · exact .refused rfl
  · rename_i hlive
    split
    · rename_i h
      exact .deepDecisionAsked (not_not.mp hlive) h _
    · cases horch : s.orchestrator with
      | none => exact .orchestratorCreated horch
      | some stage =>
          simp only [Option.getD_some]
          rw [← horch]
          exact .refused rfl

theorem handleNeedsDiscovery_move (identity : DeepAttemptIdentity) (summary : Option String) :
    Moves digest s (.handleDeepResult identity (.needsDiscovery summary)) .deep
      (handleNeedsDiscovery identity summary s) := by
  simp only [handleNeedsDiscovery, Turn.get_bind_apply, Turn.ite_apply_state, Turn.pure_apply,
    ensureOrchestrator_bind_apply, transitionTo_bind_apply, setUi_bind_apply, Turn.modify_bind_apply]
  split
  · exact .refused rfl
  · rename_i hlive
    split
    · rename_i hcount
      split
      · rename_i h
        exact .fallbackAsked (not_not.mp hlive) h hcount _
      · exact .discoveryCounted
    · rename_i hcount
      split
      · rename_i h
        exact .rediscovered (not_not.mp hlive) h (not_le.mp hcount) _
      · exact .discoveryCounted

theorem acceptPackage_move (identity : DeepAttemptIdentity) (package : EvidencePackage)
    (hlive : s.deepAttempt = some identity) (hphase : identity.phase = .knowledgeUnderstanding)
    (hvalid : validateEvidencePackage package = .ok ()) :
    Moves digest s (.handleDeepResult identity (.understandingCompleted package)) .deep
      (acceptPackage identity package s) := by
  simp only [acceptPackage, ensureOrchestrator_bind_apply, Turn.get_bind_apply, Turn.modify_bind_apply]
  by_cases h : (s.orchestrator.getD .receive).CanTransitionTo .contextBuild
  · rw [Turn.bind_apply, Turn.tryCatch_apply, transitionTo_apply, if_pos h]
    exact .packageAccepted rfl hlive hphase hvalid h
  · rw [Turn.bind_apply, Turn.tryCatch_apply, transitionTo_apply, if_neg h]
    cases horch : s.orchestrator with
    | none => exact .orchestratorCreated horch
    | some stage =>
        simp only [Option.getD_some]
        rw [← horch]
        exact .refused rfl

theorem handleUnderstandingResult_move (identity : DeepAttemptIdentity) {result : DeepResult}
    {package : Option EvidencePackage} (hphase : identity.phase = .knowledgeUnderstanding)
    (hresult : ∀ p ∈ package, result = .understandingCompleted p) :
    Moves digest s (.handleDeepResult identity result) .deep
      (handleUnderstandingResult identity package s) := by
  by_cases hlive : s.deepAttempt = some identity
  · cases package with
    | none =>
        simp only [handleUnderstandingResult, Turn.get_bind_apply, Turn.ite_apply_state, Turn.pure_apply]
        split
        · exact .refused rfl
        · exact .refused rfl
    | some package =>
        obtain rfl := hresult package rfl
        cases hvalid : validateEvidencePackage package with
        | error errors =>
            simp only [handleUnderstandingResult, Turn.get_bind_apply, Turn.ite_apply_state,
              Turn.pure_apply, hvalid]
            split
            · exact .refused rfl
            · exact .refused rfl
        | ok =>
            simp only [handleUnderstandingResult, Turn.get_bind_apply, Turn.ite_apply_state,
              hvalid, hlive, ne_eq, not_true_eq_false, if_false]
            exact acceptPackage_move s identity package hlive hphase hvalid
  · simp only [handleUnderstandingResult, Turn.get_bind_apply, Turn.ite_apply_state, Turn.pure_apply,
      ne_eq, hlive, not_false_eq_true, if_true]
    exact .refused rfl

theorem handleDeepResult_move (identity : DeepAttemptIdentity) (result : DeepResult) :
    Moves digest s (.handleDeepResult identity result) .deep (handleDeepResult identity result s) := by
  cases result with
  | needsDecision decision => exact handleNeedsDecision_move s identity decision
  | needsDiscovery summary => exact handleNeedsDiscovery_move s identity summary
  | retrievalCompleted evidenceIds summary =>
      cases hphase : identity.phase with
      | deepKnowledgeRetrieval =>
          simp only [handleDeepResult, hphase]
          exact completeDeepKnowledge_move s evidenceIds summary identity
            (by simp [SessionOp.retrievalIdentity?, hphase])
      | knowledgeUnderstanding =>
          simp only [handleDeepResult, hphase]
          exact handleUnderstandingResult_move s identity hphase (by simp)
  | understandingCompleted package =>
      cases hphase : identity.phase with
      | deepKnowledgeRetrieval =>
          simp only [handleDeepResult, hphase]
          exact .refused rfl
      | knowledgeUnderstanding =>
          simp only [handleDeepResult, hphase]
          exact handleUnderstandingResult_move s identity hphase (by simp)

/-! #### Context Build and ADR Build -/

theorem completeContextBuild_move (identity : ContextBuildIdentity)
    (completion : ContextBuildCompletion) :
    Moves digest s (.completeContextBuild identity completion) .context
      (completeContextBuild identity completion s) := by
  by_cases hlive : s.contextBuildAttempt = some identity
  · by_cases horch : s.orchestrator = some .contextBuild
    · cases hpackage : s.knowledgeUnderstandingPackage with
      | none =>
          simp only [completeContextBuild, Turn.get_bind_apply, Turn.ite_apply_state, Turn.pure_apply,
            hlive, horch, hpackage, ne_eq, not_true_eq_false, if_false]
          exact .refused rfl
      | some package =>
          simp only [completeContextBuild, Turn.get_bind_apply, Turn.ite_apply_state, hlive, horch,
            hpackage, ne_eq, not_true_eq_false, if_false]
          cases completion with
          | ambiguous ambiguity =>
              simp only [Turn.ite_apply_state, Turn.pure_apply]
              split
              · exact .refused rfl
              · rename_i hvalid
                exact .contextAmbiguityAsked hlive horch hpackage (not_not.mp hvalid)
          | completed candidate =>
              simp only [Turn.ite_apply_state, Turn.pure_apply]
              split
              · exact .refused rfl
              · rename_i hvalid
                exact .contextAccepted hlive horch hpackage (not_not.mp hvalid)
    · simp only [completeContextBuild, Turn.get_bind_apply, Turn.ite_apply_state, Turn.pure_apply,
        hlive, horch, ne_eq, not_true_eq_false, not_false_eq_true, if_false, if_true]
      exact .refused rfl
  · simp only [completeContextBuild, Turn.get_bind_apply, Turn.ite_apply_state, Turn.pure_apply,
      ne_eq, hlive, not_false_eq_true, if_true]
    exact .refused rfl

theorem prepareAdrBuild_move (identity : AdrBuildIdentity) (candidate : AdrBuildCandidate) :
    Moves digest s (.prepareAdrBuild identity candidate) .adr (prepareAdrBuild identity candidate s) := by
  by_cases hlive : s.adrBuildAttempt = some identity
  · by_cases horch : s.orchestrator = some .adrBuild
    · cases hpackage : s.knowledgeUnderstandingPackage with
      | none =>
          simp only [prepareAdrBuild, Turn.get_bind_apply, Turn.ite_apply_state, Turn.pure_apply,
            hlive, horch, hpackage, ne_eq, not_true_eq_false, if_false]
          exact .refused rfl
      | some package =>
          simp only [prepareAdrBuild, Turn.get_bind_apply, Turn.ite_apply_state, hlive, horch, hpackage,
            ne_eq, not_true_eq_false, if_false, Turn.pure_apply, Turn.modify_bind_apply]
          split
          · exact .refused rfl
          · rename_i hvalid
            rw [← hlive, ← horch, ← hpackage]
            exact .adrPrepared hlive horch hpackage (not_not.mp hvalid)
    · simp only [prepareAdrBuild, Turn.get_bind_apply, Turn.ite_apply_state, Turn.pure_apply, hlive,
        horch, ne_eq, not_true_eq_false, not_false_eq_true, if_false, if_true]
      exact .refused rfl
  · simp only [prepareAdrBuild, Turn.get_bind_apply, Turn.ite_apply_state, Turn.pure_apply, ne_eq,
      hlive, not_false_eq_true, if_true]
    exact .refused rfl

theorem requireAdrDecision_move (identity : AdrBuildIdentity) (ambiguity : ContextAmbiguity) :
    Moves digest s (.requireAdrDecision identity ambiguity) .adr
      (requireAdrDecision identity ambiguity s) := by
  by_cases hlive : s.adrBuildAttempt = some identity
  · by_cases horch : s.orchestrator = some .adrBuild
    · cases hpackage : s.knowledgeUnderstandingPackage with
      | none =>
          simp only [requireAdrDecision, Turn.get_bind_apply, Turn.ite_apply_state, Turn.pure_apply,
            hlive, horch, hpackage, ne_eq, not_true_eq_false, if_false]
          exact .refused rfl
      | some package =>
          simp only [requireAdrDecision, Turn.get_bind_apply, Turn.ite_apply_state, hlive, horch,
            hpackage, ne_eq, not_true_eq_false, if_false, Turn.pure_apply]
          split
          · exact .refused rfl
          · rename_i hvalid
            exact .adrAmbiguityAsked hlive horch hpackage (not_not.mp hvalid)
    · simp only [requireAdrDecision, Turn.get_bind_apply, Turn.ite_apply_state, Turn.pure_apply, hlive,
        horch, ne_eq, not_true_eq_false, not_false_eq_true, if_false, if_true]
      exact .refused rfl
  · simp only [requireAdrDecision, Turn.get_bind_apply, Turn.ite_apply_state, Turn.pure_apply, ne_eq,
      hlive, not_false_eq_true, if_true]
    exact .refused rfl

theorem finalizeAdrBuild_move (identity : AdrBuildIdentity) (commit : CommitDocumentsResult) :
    Moves digest s (.finalizeAdrBuild identity commit) .adr (finalizeAdrBuild identity commit s) := by
  simp only [finalizeAdrBuild, Turn.get_bind_apply, Turn.ite_apply_state, Turn.pure_apply,
    transitionTo_bind_apply, setUi_bind_apply, Turn.modify_bind_apply]
  split
  · exact .refused rfl
  · rename_i hlive
    split
    · exact .refused rfl
    · rename_i hguard
      simp only [not_or, not_not, Bool.not_eq_false] at hguard
      exact .adrFinalized (not_not.mp hlive) hguard.1 hguard.2.1 hguard.2.2

/-! #### Evidence and budget -/

/-- The only writes of a bookkeeping operation, when the attempt it names is live. -/
theorem bookkept_self {op : SessionOp} {r : SessionOutcome} {identity : DeepAttemptIdentity}
    (hop : op.bookkeepingIdentity? = some identity) (h : s.deepAttempt = some identity) :
    SessionMove digest s op r s :=
  .bookkept hop h s.deepSupplementalEvidenceIds s.deepSupplementalEvidence s.deepSearchBudgetRoundId
    s.deepSearchCount s.deepSearchReservations

theorem recordDeepSupplementalEvidence_move (identity : DeepAttemptIdentity) (evidenceId : String)
    (evidence : Option EvidenceInput) :
    Moves digest s (.recordDeepSupplementalEvidence identity evidenceId evidence) .deep
      (recordDeepSupplementalEvidence identity evidenceId evidence s) := by
  simp only [recordDeepSupplementalEvidence, Turn.get_bind_apply, Turn.ite_apply_state, Turn.pure_apply]
  split
  · exact .refused rfl
  · rename_i hlive
    cases s.deepSupplementalEvidence.get? evidenceId with
    | some existing =>
        simp only [Turn.ite_apply_state, Turn.pure_apply, Turn.throw_apply]
        split
        · exact bookkept_self s rfl (not_not.mp hlive)
        · exact .refused rfl
    | none => exact .bookkept rfl (not_not.mp hlive) _ _ _ _ _

theorem budget_live {identity : DeepAttemptIdentity} (h : ¬ budgetIsStale s identity) :
    s.deepAttempt = some identity :=
  not_not.mp fun hne => h (Or.inl hne)

theorem reserveDeepSearchBudget_cases (identity : DeepAttemptIdentity) :
    (reserveDeepSearchBudget identity s = (.ok .stale, s)) ∨
      (s.deepAttempt = some identity ∧ ∃ answer budgetRound count reservations,
        reserveDeepSearchBudget identity s = (.ok answer, { s with
          deepSearchBudgetRoundId := budgetRound
          deepSearchCount := count
          deepSearchReservations := reservations })) := by
  by_cases hstale : budgetIsStale s identity
  · left
    simp only [reserveDeepSearchBudget, Turn.get_bind_apply, Turn.ite_apply_state, if_pos hstale,
      Turn.pure_apply]
  · refine Or.inr ⟨budget_live s hstale, ?_⟩
    simp only [reserveDeepSearchBudget, Turn.get_bind_apply, Turn.ite_apply_state, if_neg hstale,
      Turn.modify_bind_apply, Turn.pure_apply]
    split
    · split
      · exact ⟨_, _, _, _, rfl⟩
      · exact ⟨_, _, _, _, rfl⟩
    · split
      · exact ⟨_, s.deepSearchBudgetRoundId, s.deepSearchCount, s.deepSearchReservations, rfl⟩
      · exact ⟨_, s.deepSearchBudgetRoundId, s.deepSearchCount, _, rfl⟩

theorem commitDeepSearchBudget_cases (identity : DeepAttemptIdentity) :
    (commitDeepSearchBudget identity s = (.ok .stale, s)) ∨
      (s.deepAttempt = some identity ∧ ∃ answer count reservations,
        commitDeepSearchBudget identity s = (.ok answer, { s with
          deepSearchCount := count
          deepSearchReservations := reservations })) := by
  by_cases hstale : budgetIsStale s identity
  · left
    simp only [commitDeepSearchBudget, Turn.get_bind_apply, Turn.ite_apply_state, if_pos hstale,
      Turn.pure_apply]
  · refine Or.inr ⟨budget_live s hstale, ?_⟩
    simp only [commitDeepSearchBudget, Turn.get_bind_apply, Turn.ite_apply_state, if_neg hstale,
      Turn.modify_bind_apply, Turn.pure_apply]
    split
    · exact ⟨_, _, _, rfl⟩
    · exact ⟨_, s.deepSearchCount, s.deepSearchReservations, rfl⟩

theorem reserveDeepSearchBudget_move (identity : DeepAttemptIdentity) :
    Moves digest s (.reserveDeepSearchBudget identity) .budget (reserveDeepSearchBudget identity s) := by
  rcases reserveDeepSearchBudget_cases s identity with h | ⟨hlive, answer, round, count, rs, h⟩
  · rw [h]
    exact .refused rfl
  · rw [h]
    exact .bookkept rfl hlive _ _ _ _ _

theorem commitDeepSearchBudget_move (identity : DeepAttemptIdentity) :
    Moves digest s (.commitDeepSearchBudget identity) .budget (commitDeepSearchBudget identity s) := by
  rcases commitDeepSearchBudget_cases s identity with h | ⟨hlive, answer, count, rs, h⟩
  · rw [h]
    exact .refused rfl
  · rw [h]
    exact .bookkept rfl hlive _ _ _ _ _

theorem releaseDeepSearchBudget_move (identity : DeepAttemptIdentity) :
    Moves digest s (.releaseDeepSearchBudget identity) .budget (releaseDeepSearchBudget identity s) := by
  simp only [releaseDeepSearchBudget, Turn.get_bind_apply, Turn.ite_apply_state, Turn.pure_apply,
    Turn.modify_bind_apply]
  split
  · exact .refused rfl
  · rename_i hlive
    exact .bookkept rfl (budget_live s hlive) _ _ _ _ _

theorem consumeDeepSearchBudget_move (identity : DeepAttemptIdentity) :
    Moves digest s (.consumeDeepSearchBudget identity) .budget (consumeDeepSearchBudget identity s) := by
  simp only [consumeDeepSearchBudget]
  rcases reserveDeepSearchBudget_cases s identity with h | ⟨hlive, answer, round, count, rs, h⟩
  · rw [Turn.bind_eq_ok h]
    exact .refused rfl
  · rw [Turn.bind_eq_ok h]
    have hcommit : ∀ t : SessionState, t = { s with
          deepSearchBudgetRoundId := round
          deepSearchCount := count
          deepSearchReservations := rs } →
        Moves digest s (.consumeDeepSearchBudget identity) .budget (commitDeepSearchBudget identity t) := by
      rintro t rfl
      rcases commitDeepSearchBudget_cases _ identity with h | ⟨-, answer, count', rs', h⟩
      · rw [h]
        exact .bookkept rfl hlive _ _ _ _ _
      · rw [h]
        exact .bookkept rfl hlive _ _ _ _ _
    cases answer with
    | stale => exact .bookkept rfl hlive _ _ _ _ _
    | limit => exact .bookkept rfl hlive _ _ _ _ _
    | accepted => exact hcommit _ rfl
    | reserved => exact hcommit _ rfl
    | released => exact hcommit _ rfl

theorem recordEvidenceFetch_move (candidateId : String) :
    Moves digest s (.recordEvidenceFetch candidateId) (fun _ => .done)
      (recordEvidenceFetch candidateId s) := by
  simp only [recordEvidenceFetch, Turn.get_bind_apply, Turn.ite_apply_state, Turn.modify_apply]
  split
  · exact .refused rfl
  · exact .fetchRecorded rfl

/-! #### Answers, questions and rounds -/

/-- What the guards leave: the words and the round of the question, and a key that is still unused. -/
theorem not_refused_round {pending : WaitUserState} {answer : String}
    (h : ¬ refusesAnswer s pending answer)
    (hkind : pending.kind = .grillConfirmation ∨ pending.kind = .grillCheckpoint) :
    ∃ round, s.currentGrillRound = some round ∧ round.roundId = pending.roundId := by
  have hround : s.currentGrillRound.map (·.roundId) = some pending.roundId := by
    by_contra hne
    exact h (Or.inr (Or.inl ⟨hkind, hne⟩))
  exact Option.map_eq_some_iff.mp hround

theorem answerCheckpoint_apply (answer : String) :
    answerCheckpoint answer s =
      (.ok { s.uiState with stage := .workflow .grill, waitUser := none },
        { s with
          orchestrator := some .grill
          continueGrillCheckpointPending := answer == "continue_one"
          uiState := { s.uiState with
            stage := .workflow .grill
            waitUser := none } }) := rfl

theorem continueAfterAnswer_move (digest : String → String) (answer : String) {pending : WaitUserState}
    (hkind : pending.kind ≠ .grillCheckpoint)
    (hdue : pending.kind = .grillConfirmation → ¬ checkpointDue (afterAnswer digest s pending answer)) :
    ∃ ui t, continueAfterAnswer pending answer
        { afterAnswer digest s pending answer with orchestrator := some .userConfirmed } = (.ok ui, t) ∧
      AnswerContinues digest s pending answer t := by
  unfold continueAfterAnswer
  cases h : pending.kind with
  | grillCheckpoint => exact absurd h hkind
  | deepDecision => exact ⟨_, _, rfl, .inGrill (Or.inr h) (by simp [h])⟩
  | grillConfirmation => exact ⟨_, _, rfl, .inGrill (Or.inl h) hdue⟩
  | relevanceClarification => exact ⟨_, _, rfl, .confirmed (Or.inr h)⟩
  | deepDiscoveryFallback => exact ⟨_, _, rfl, .confirmed (Or.inl h)⟩
  | contextAmbiguity => exact ⟨_, _, rfl, .inContextBuild h⟩
  | adrAmbiguity => exact ⟨_, _, rfl, .inAdrBuild h⟩

theorem keepAnswer_apply (pending : WaitUserState) (answer : String) :
    keepAnswer pending answer s = (.ok (), { s with
      orchestrator := some .userConfirmed
      answeredDecisionKeys := s.answeredDecisionKeys.add (waitUserDecisionKey pending)
      humanDecisions :=
        if pending.decisionId ∈ s.humanDecisions then s.humanDecisions
        else s.humanDecisions.insert pending.decisionId (humanDecision pending answer) }) := rfl

theorem keepPremise_apply (pending : WaitUserState) (answer : String) :
    keepPremise digest pending answer s = (.ok (), { s with
      humanPremises := match s.currentGrillRound with
        | some round => s.humanPremises.insert (waitUserDecisionKey pending)
            (humanPremise digest round pending answer)
        | none => s.humanPremises
      grillAcceptedAnswerCount := s.grillAcceptedAnswerCount + 1 }) := rfl

/-- The checkpoint that a Grill answer makes due is asked in the same call. -/
theorem askCheckpoint_apply {pending : WaitUserState} {round : GrillRound}
    (hround : s.currentGrillRound = some round) :
    askCheckpoint pending s =
      (.ok { s.uiState with
          stage := .workflow .waitUser
          waitUser := some (checkpointDecision round pending.evidenceIds) },
        { s with
          orchestrator := some .waitUser
          continueGrillCheckpointPending := false
          uiState := { s.uiState with
            stage := .workflow .waitUser
            waitUser := some (checkpointDecision round pending.evidenceIds) } }) := by
  simp only [askCheckpoint, Turn.get_bind_apply, hround]
  rw [← hround]
  rfl

/-- A kept answer goes on in one of the ways of `AnswerContinues`. -/
theorem acceptAnswer_continues (digest : String → String) (answer : String) {pending : WaitUserState}
    (hkind : pending.kind ≠ .grillCheckpoint) (hguard : ¬ refusesAnswer s pending (trim answer)) :
    ∃ ui t, acceptAnswer digest pending answer s = (.ok ui, t) ∧
      AnswerContinues digest s pending answer t := by
  by_cases hgrill : pending.kind = .grillConfirmation
  · obtain ⟨round, hround, hid⟩ := not_refused_round s hguard (Or.inl hgrill)
    have hstate : { afterAnswer digest s pending answer with orchestrator := some .userConfirmed } =
        (keepPremise digest pending (trim answer) (keepAnswer pending answer s).2).2 := by
      simp [keepAnswer_apply, keepPremise_apply, afterAnswer, hgrill, hround]
    have hrun : acceptAnswer digest pending answer s =
        if checkpointDue (afterAnswer digest s pending answer) then
          askCheckpoint pending
            { afterAnswer digest s pending answer with orchestrator := some .userConfirmed }
        else
          continueAfterAnswer pending answer
            { afterAnswer digest s pending answer with orchestrator := some .userConfirmed } := by
      have hdue : checkpointDue (afterAnswer digest s pending answer) =
          checkpointDue { afterAnswer digest s pending answer with
            orchestrator := some .userConfirmed } := rfl
      simp only [acceptAnswer, if_neg hkind, if_pos hgrill, hdue, hstate]
      rw [Turn.bind_eq_ok (keepAnswer_apply s pending answer), Turn.bind_eq_ok (keepPremise_apply _ _ _)]
      simp only [Turn.get_bind_apply, Turn.ite_apply_state]
      rfl
    rw [hrun]
    split
    · rename_i hdue
      exact ⟨_, _, askCheckpoint_apply _ hround, .atCheckpoint hgrill hround hid hdue⟩
    · rename_i hdue
      exact continueAfterAnswer_move s digest answer hkind fun _ => hdue
  · have hstate : { afterAnswer digest s pending answer with orchestrator := some .userConfirmed } =
        (keepAnswer pending answer s).2 := by
      have hpremises : (afterAnswer digest s pending answer).humanPremises = s.humanPremises := by
        unfold afterAnswer
        cases hk : pending.kind with
        | grillConfirmation => exact absurd hk hgrill
        | _ => rfl
      simp only [keepAnswer_apply, hpremises]
      simp only [afterAnswer, if_neg hgrill]
    obtain ⟨ui, t, hrun, hcontinues⟩ :=
      continueAfterAnswer_move s digest answer hkind fun h => absurd h hgrill
    refine ⟨ui, t, ?_, hcontinues⟩
    simp only [acceptAnswer, if_neg hkind, if_neg hgrill]
    rw [Turn.bind_eq_ok (keepAnswer_apply s pending answer)]
    rw [hstate] at hrun
    exact hrun

theorem recordAnswer_move (answer : String) :
    Moves digest s (.recordAnswer answer) .ui (recordAnswer digest answer s) := by
  by_cases horch : s.orchestrator = some .waitUser
  · cases hpending : s.uiState.waitUser with
    | none =>
        simp only [recordAnswer, Turn.get_bind_apply, Turn.ite_apply_state, horch, hpending, ne_eq,
          not_true_eq_false, if_false, Turn.throw_apply]
        exact .refused rfl
    | some pending =>
        by_cases hguard : refusesAnswer s pending (trim answer)
        · simp only [recordAnswer, Turn.get_bind_apply, Turn.ite_apply_state, horch, hpending, hguard,
            ne_eq, not_true_eq_false, if_false, if_true, Turn.pure_apply]
          exact .refused rfl
        · simp only [recordAnswer, Turn.get_bind_apply, Turn.ite_apply_state, horch, hpending, hguard,
            ne_eq, not_true_eq_false, if_false]
          by_cases hkind : pending.kind = .grillCheckpoint
          · simp only [acceptAnswer, if_pos hkind, answerCheckpoint_apply]
            exact .checkpointAnswered rfl horch hpending hkind hguard
          · obtain ⟨ui, t, hrun, hcontinues⟩ := acceptAnswer_continues s digest answer hkind hguard
            rw [hrun]
            exact .answered rfl horch hpending hkind hguard hcontinues
  · simp only [recordAnswer, Turn.get_bind_apply, Turn.ite_apply_state, ne_eq, horch,
      not_false_eq_true, if_true]
    exact .answerRefused rfl horch

theorem reject_move (selection : Option String) :
    Moves digest s (.reject selection) .ui (reject selection s) := by
  have hrun : ∃ ui, reject selection s = (.ok ui, { s with
      orchestrator := if s.orchestrator = some .waitUser then some .grill else s.orchestrator
      uiState := { s.uiState with
        decisionSummary :=
          some (rejectionSummary (s.uiState.waitUser.map (·.recommendation)) selection)
        stage := .workflow .grill
        validationRepair := some userRejected
        waitUser := none } }) := by
    by_cases horch : s.orchestrator = some .waitUser
    · rw [if_pos horch]
      simp only [reject, Turn.get_bind_apply, if_pos horch]
      exact ⟨_, rfl⟩
    · rw [if_neg horch]
      simp only [reject, Turn.get_bind_apply, if_neg horch]
      exact ⟨_, rfl⟩
  obtain ⟨ui, hrun⟩ := hrun
  rw [hrun]
  exact .rejected rfl

theorem requireWaitUser_move {op : SessionOp} (payload : WaitUserPayload)
    (hop : op.question? = some payload) : Moves digest s op .ui (requireWaitUser payload s) := by
  simp only [requireWaitUser, Turn.ite_apply_state, Turn.get_bind_apply, Turn.pure_apply, orchestratorFrom_bind_apply, transitionTo_bind_apply, setUi_apply]
  split
  · exact .refused rfl
  · rename_i hdecisionId
    split
    · exact .refused rfl
    · split
      · exact .refused rfl
      · rename_i hunused
        split
        · exact .refused rfl
        · rename_i hround
          obtain ⟨round, hround, hid⟩ := Option.map_eq_some_iff.mp (not_not.mp hround)
          split
          · rename_i h
            exact .asked rfl hop hdecisionId (fun hk => hunused (Or.inl hk))
              (fun hk => hunused (Or.inr hk)) hround hid.symm h
          · rename_i h
            have hstays : some (stageFrom .grill s.orchestrator) = s.orchestrator := by
              apply some_stageFrom
              intro heq
              rw [heq] at h
              exact h (by decide)
            rw [hstays]
            exact .refused rfl

theorem startGrillRound_move (request : String) (snapshot : GrillEvidenceSnapshot) :
    Moves digest s (.startGrillRound request snapshot) .round (startGrillRound request snapshot s) :=
  .roundStarted rfl _ rfl

theorem reset_move : Moves digest s .reset .ui (reset s) := .wasReset rfl

end

end Session

open Session in
/-- **The operations make no other move.** -/
theorem step_move (digest : String → String) (s : SessionState) (op : SessionOp) :
    SessionMove digest s op (sessionStep digest op s).1 (sessionStep digest op s).2 := by
  have hwrap : ∀ {α : Type} {wrap : α → SessionResult} {m : Session α},
      Session.Moves digest s op wrap (m s) → sessionStep digest op s = (wrap <$> m) s →
        SessionMove digest s op (sessionStep digest op s).1 (sessionStep digest op s).2 := by
    intro α wrap m h hrun
    rw [hrun, Turn.map_apply]
    exact h
  cases op with
  | beginGrill summary => exact hwrap (beginGrill_move s summary) rfl
  | beginIntent summary => exact hwrap (beginStage_move s summary rfl) rfl
  | beginLightDiscovery summary => exact hwrap (beginStage_move s summary rfl) rfl
  | beginDeepKnowledge summary phase => exact hwrap (beginDeepKnowledge_move s summary phase) rfl
  | cancelDeepKnowledge => exact hwrap (cancelDeepKnowledge_move s) rfl
  | completeDeepKnowledge ids summary identity =>
      exact hwrap (completeDeepKnowledge_move s ids summary identity rfl) rfl
  | retryDeepKnowledge summary => exact hwrap (retryDeepKnowledge_move s summary) rfl
  | completeDeepRetrieval inherited summary identity =>
      exact hwrap (completeDeepRetrieval_move s inherited summary identity) rfl
  | completeContextBuild identity completion =>
      exact hwrap (completeContextBuild_move s identity completion) rfl
  | confirm => exact hwrap (confirm_move s) rfl
  | continueGrillRound => exact hwrap (continueGrillRound_move s) rfl
  | retryGrillRound => exact hwrap (retryGrillRound_move s) rfl
  | handleDeepResult identity result => exact hwrap (handleDeepResult_move s identity result) rfl
  | recordCompletionOmission => exact hwrap (recordCompletionOmission_move s) rfl
  | recordDeepSupplementalEvidence identity evidenceId evidence =>
      exact hwrap (recordDeepSupplementalEvidence_move s identity evidenceId evidence) rfl
  | consumeDeepSearchBudget identity => exact hwrap (consumeDeepSearchBudget_move s identity) rfl
  | reserveDeepSearchBudget identity => exact hwrap (reserveDeepSearchBudget_move s identity) rfl
  | commitDeepSearchBudget identity => exact hwrap (commitDeepSearchBudget_move s identity) rfl
  | releaseDeepSearchBudget identity => exact hwrap (releaseDeepSearchBudget_move s identity) rfl
  | recordEvidenceFetch candidateId => exact hwrap (recordEvidenceFetch_move s candidateId) rfl
  | recordAnswer answer => exact hwrap (recordAnswer_move s answer) rfl
  | prepareAdrBuild identity candidate => exact hwrap (prepareAdrBuild_move s identity candidate) rfl
  | requireAdrDecision identity ambiguity =>
      exact hwrap (requireAdrDecision_move s identity ambiguity) rfl
  | finalizeAdrBuild identity commit => exact hwrap (finalizeAdrBuild_move s identity commit) rfl
  | reset => exact hwrap (reset_move s) rfl
  | requireGrillResult payload => exact hwrap (requireWaitUser_move s payload rfl) rfl
  | reject selection => exact hwrap (reject_move s selection) rfl
  | requireWaitUser payload => exact hwrap (requireWaitUser_move s payload rfl) rfl
  | startGrillRound request snapshot => exact hwrap (startGrillRound_move s request snapshot) rfl

/-! ### The steps of a run -/

/-- A step of a run of the session. -/
abbrev SessionStepRecord := Machine.Step SessionOp SessionOutcome SessionState

/-- Each step of a run is a move. -/
theorem move_of_mem {digest : String → String} {s : SessionState} {ops : List SessionOp} {st : SessionStepRecord}
    (hst : st ∈ Machine.trace (sessionStep digest) s ops) :
    SessionMove digest st.before st.input st.output st.after := by
  have hmove := step_move digest st.before st.input
  have hsame := Machine.eq_stepAt_of_mem hst
  rwa [show (sessionStep digest st.input st.before).1 = st.output from congrArg Machine.Step.output hsame.symm,
    show (sessionStep digest st.input st.before).2 = st.after from
      congrArg Machine.Step.after hsame.symm] at hmove

end ForgeRuntime
