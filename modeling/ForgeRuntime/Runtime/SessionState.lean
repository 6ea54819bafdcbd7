import ForgeRuntime.Lib.Turn
import ForgeRuntime.Runtime.SessionTypes

/-!
# The session state and its operations

`createForgeSessionState` closes over some thirty variables; `SessionState` is the record of them, and
each operation of the returned object is a turn over that record.  An operation that throws keeps what it
wrote before.  The orchestrator is its stage, absent before the first operation that needs one.

The digest of the human premise IDs is a parameter.
-/

namespace ForgeRuntime

open EventDriven EventDriven.Text

structure SessionState where
  answeredDecisionKeys : OrderedSet DecisionKey
  humanDecisions : OrderedMap String EvidenceDecision
  humanPremises : OrderedMap DecisionKey EvidenceInput
  deepSupplementalEvidenceIds : OrderedSet String
  deepSupplementalEvidence : OrderedMap String EvidenceInput
  fetchedEvidenceIds : OrderedSet String
  currentGrillRound : Option GrillRound
  grillAcceptedAnswerCount : Nat
  continueGrillCheckpointPending : Bool
  orchestrator : Option WorkflowStage
  nextRoundId : Nat
  nextDeepAttemptId : Nat
  nextContextBuildAttemptId : Nat
  nextAdrBuildAttemptId : Nat
  deepAttempt : Option DeepAttemptIdentity
  contextBuildAttempt : Option ContextBuildIdentity
  adrBuildAttempt : Option AdrBuildIdentity
  adrBuildCandidate : Option AdrBuildCandidate
  contextCandidate : Option ContextCandidate
  needsDiscoveryCount : Nat
  deepSearchBudgetRoundId : Option String
  deepSearchCount : Nat
  deepSearchReservations : OrderedMap String Nat
  deepRetryPhase : Option DeepAttemptPhase
  resumableDeepPhase : Option DeepAttemptPhase
  lockedDeepEvidence : Option LockedDeepEvidence
  knowledgeUnderstandingPackage : Option EvidencePackage
  completionOmissionRecorded : Bool
  uiState : ForgeUiState
deriving DecidableEq

def createForgeSessionState : SessionState :=
  { answeredDecisionKeys := .empty
    humanDecisions := .empty
    humanPremises := .empty
    deepSupplementalEvidenceIds := .empty
    deepSupplementalEvidence := .empty
    fetchedEvidenceIds := .empty
    currentGrillRound := none
    grillAcceptedAnswerCount := 0
    continueGrillCheckpointPending := false
    orchestrator := none
    nextRoundId := 1
    nextDeepAttemptId := 1
    nextContextBuildAttemptId := 1
    nextAdrBuildAttemptId := 1
    deepAttempt := none
    contextBuildAttempt := none
    adrBuildAttempt := none
    adrBuildCandidate := none
    contextCandidate := none
    needsDiscoveryCount := 0
    deepSearchBudgetRoundId := none
    deepSearchCount := 0
    deepSearchReservations := .empty
    deepRetryPhase := none
    resumableDeepPhase := none
    lockedDeepEvidence := none
    knowledgeUnderstandingPackage := none
    completionOmissionRecorded := false
    uiState := createForgeUiState .receive }

/-- Code of the session: it returns or throws an error message. -/
abbrev Session (α : Type) := Turn String SessionState α

namespace Session

/-! ### The orchestrator -/

/-- `orchestrator.transitionTo`, of an orchestrator that stands at `current`. -/
def transitionTo (current next : WorkflowStage) : Session WorkflowStage :=
  if current.CanTransitionTo next then do
    modify fun s => { s with orchestrator := some next }
    return next
  else
    throw (WorkflowStage.invalidTransition current next)

/-- `stage === next ? next : orchestrator.transitionTo(next)`. -/
def enterStage (current next : WorkflowStage) : Session WorkflowStage :=
  if current = next then return next else transitionTo current next

/-- `ensureOrchestrator`: a session without an orchestrator gets one at `RECEIVE`. -/
def ensureOrchestrator : Session WorkflowStage := do
  match (← get).orchestrator with
  | some stage => return stage
  | none =>
      modify fun s => { s with orchestrator := some .receive }
      return .receive

/-- `createOrchestrator({ initialStage })` in place of an absent one or one at `RECEIVE`. -/
def orchestratorFrom (initialStage : WorkflowStage) : Session WorkflowStage := do
  let s ← get
  if s.orchestrator = none ∨ s.orchestrator = some .receive then
    modify fun s => { s with orchestrator := some initialStage }
    return initialStage
  else
    return s.orchestrator.getD initialStage

/-- Assign `uiState` and return it. -/
def setUi (update : ForgeUiState → ForgeUiState) : Session ForgeUiState := do
  modify fun s => { s with uiState := update s.uiState }
  return (← get).uiState

def current : Session ForgeUiState := return (← get).uiState

/-! ### Evaluation

How the helpers run on a state, with the code that follows them. -/

section Evaluation

variable {β : Type} (s : SessionState)

theorem transitionTo_apply (current next : WorkflowStage) :
    transitionTo current next s =
      if current.CanTransitionTo next then (.ok next, { s with orchestrator := some next })
      else (.error (WorkflowStage.invalidTransition current next), s) := by
  unfold transitionTo
  split <;> rfl

@[simp] theorem transitionTo_bind_apply (current next : WorkflowStage) (f : WorkflowStage → Session β) :
    (transitionTo current next >>= f) s =
      if current.CanTransitionTo next then f next { s with orchestrator := some next }
      else (.error (WorkflowStage.invalidTransition current next), s) := by
  rw [Turn.bind_apply, transitionTo_apply]
  by_cases h : current.CanTransitionTo next
  · rw [if_pos h, if_pos h]
  · rw [if_neg h, if_neg h]

@[simp] theorem enterStage_bind_apply (current next : WorkflowStage) (f : WorkflowStage → Session β) :
    (enterStage current next >>= f) s =
      if current = next then f next s
      else if current.CanTransitionTo next then f next { s with orchestrator := some next }
      else (.error (WorkflowStage.invalidTransition current next), s) := by
  unfold enterStage
  split
  · rfl
  · exact transitionTo_bind_apply s current next f

@[simp] theorem ensureOrchestrator_bind_apply (f : WorkflowStage → Session β) :
    (ensureOrchestrator >>= f) s =
      f (s.orchestrator.getD .receive)
        { s with orchestrator := some (s.orchestrator.getD .receive) } := by
  have hrun : ensureOrchestrator s = (.ok (s.orchestrator.getD .receive),
      { s with orchestrator := some (s.orchestrator.getD .receive) }) := by
    cases h : s.orchestrator with
    | none =>
        simp only [ensureOrchestrator, Turn.get_bind_apply, h]
        rfl
    | some stage =>
        simp only [ensureOrchestrator, Turn.get_bind_apply, h, Turn.pure_apply, Option.getD_some]
        rw [← h]
  exact Turn.bind_eq_ok hrun

/-- The stage at which `orchestratorFrom` leaves the orchestrator. -/
def stageFrom (initialStage : WorkflowStage) (orchestrator : Option WorkflowStage) : WorkflowStage :=
  if orchestrator = none ∨ orchestrator = some .receive then initialStage
  else orchestrator.getD initialStage

@[simp] theorem orchestratorFrom_bind_apply (initialStage : WorkflowStage)
    (f : WorkflowStage → Session β) :
    (orchestratorFrom initialStage >>= f) s =
      f (stageFrom initialStage s.orchestrator)
        { s with orchestrator := some (stageFrom initialStage s.orchestrator) } := by
  have hrun : orchestratorFrom initialStage s = (.ok (stageFrom initialStage s.orchestrator),
      { s with orchestrator := some (stageFrom initialStage s.orchestrator) }) := by
    by_cases h : s.orchestrator = none ∨ s.orchestrator = some .receive
    · simp only [orchestratorFrom, Turn.get_bind_apply, if_pos h, stageFrom]
      rfl
    · simp only [orchestratorFrom, Turn.get_bind_apply, if_neg h, stageFrom, Turn.pure_apply]
      cases hs : s.orchestrator with
      | none => exact absurd (Or.inl hs) h
      | some stage =>
          simp only [Option.getD_some]
          rw [← hs]
  exact Turn.bind_eq_ok hrun

@[simp] theorem setUi_apply (update : ForgeUiState → ForgeUiState) :
    setUi update s = (.ok (update s.uiState), { s with uiState := update s.uiState }) := rfl

@[simp] theorem setUi_bind_apply (update : ForgeUiState → ForgeUiState)
    (f : ForgeUiState → Session β) :
    (setUi update >>= f) s = f (update s.uiState) { s with uiState := update s.uiState } := rfl

end Evaluation

/-! ### Entering the stages -/

def beginGrill (decisionSummary : Option String) : Session ForgeUiState := do
  let stage ← orchestratorFrom .grill
  let stage ← enterStage stage .grill
  setUi fun ui => { ui with
    decisionSummary := decisionSummary <|> ui.decisionSummary
    stage := .workflow stage }

/-- `beginIntent` and `beginLightDiscovery`, which differ in the stage they enter. -/
def beginStage (target : WorkflowStage) (decisionSummary : Option String) : Session ForgeUiState := do
  let stage ← ensureOrchestrator
  let stage ← enterStage stage target
  setUi fun ui => { ui with
    decisionSummary := decisionSummary <|> ui.decisionSummary
    stage := .workflow stage }

def beginIntent (decisionSummary : Option String) : Session ForgeUiState :=
  beginStage .intentUnderstanding decisionSummary

def beginLightDiscovery (decisionSummary : Option String) : Session ForgeUiState :=
  beginStage .lightDiscovery decisionSummary

/-- The identity that the next deep attempt is issued under. -/
def deepAttemptId (n : Nat) : String := "deep-" ++ toString n

/-- Issue a deep attempt for the round. -/
def issueDeepAttempt (round : GrillRound) (phase : DeepAttemptPhase) : Session Unit :=
  modify fun s => { s with
    deepAttempt := some ⟨deepAttemptId s.nextDeepAttemptId, round.roundId, phase⟩
    nextDeepAttemptId := s.nextDeepAttemptId + 1
    deepSearchReservations := .empty
    deepRetryPhase := none
    resumableDeepPhase := none }

@[simp] theorem issueDeepAttempt_bind_apply {β : Type} (round : GrillRound) (phase : DeepAttemptPhase)
    (f : Unit → Session β) (s : SessionState) :
    (issueDeepAttempt round phase >>= f) s = f () { s with
      deepAttempt := some ⟨deepAttemptId s.nextDeepAttemptId, round.roundId, phase⟩
      nextDeepAttemptId := s.nextDeepAttemptId + 1
      deepSearchReservations := .empty
      deepRetryPhase := none
      resumableDeepPhase := none } := rfl

def beginDeepKnowledge (decisionSummary : Option String) (phase : DeepAttemptPhase) :
    Session ForgeUiState := do
  let some round := (← get).currentGrillRound
    | throw "Deep Knowledge 需要目前的 Grill 回合。"
  let stage ← orchestratorFrom phase.stage
  let stage ← enterStage stage phase.stage
  let ui ← setUi fun ui => { ui with
    decisionSummary := decisionSummary <|> ui.decisionSummary
    stage := .workflow stage
    waitUser := none }
  issueDeepAttempt round phase
  return ui

/-- The phase in which a cancelled deep step can be taken up again. -/
def cancelledPhase (s : SessionState) : DeepAttemptPhase :=
  ((s.deepAttempt.map (·.phase)) <|> s.deepRetryPhase).getD
    (if s.uiState.stage = .workflow .knowledgeUnderstanding then .knowledgeUnderstanding
      else .deepKnowledgeRetrieval)

def cancelDeepKnowledge : Session ForgeUiState := do
  let phase := cancelledPhase (← get)
  modify fun s => { s with
    deepAttempt := none
    deepRetryPhase := none
    needsDiscoveryCount := 0
    knowledgeUnderstandingPackage := none
    resumableDeepPhase := some phase
    orchestrator := some phase.stage }
  setUi fun ui => { ui with
    stage := .workflow phase.stage
    waitUser := none }

def retryDeepKnowledge (decisionSummary : Option String) : Session ForgeUiState := do
  let s ← get
  let some round := s.currentGrillRound | return s.uiState
  let some phase := s.deepRetryPhase <|> s.resumableDeepPhase | return s.uiState
  modify fun s => { s with orchestrator := some phase.stage }
  let ui ← setUi fun ui => { ui with
    decisionSummary := decisionSummary <|> ui.decisionSummary
    stage := .workflow phase.stage
    waitUser := none }
  issueDeepAttempt round phase
  return ui

/-! ### Results of the deep steps -/

def completeDeepKnowledge (evidenceIds : List String) (decisionSummary : Option String)
    (identity : DeepAttemptIdentity) : Session DeepCallResult := do
  let s ← get
  if s.deepAttempt ≠ some identity then
    return .stale s.deepAttempt identity
  let stage ← orchestratorFrom .knowledgeUnderstanding
  let stage ← enterStage stage .knowledgeUnderstanding
  let ui ← setUi fun ui => { ui with
    decisionSummary := decisionSummary <|> ui.decisionSummary
    lastEvidenceIds := evidenceIds
    stage := .workflow stage
    waitUser := none }
  let advanced := { identity with phase := .knowledgeUnderstanding }
  modify fun s => { s with deepAttempt := some advanced }
  return .accepted ui advanced

def completeDeepRetrieval (inheritedEvidence : List EvidenceInput) (decisionSummary : Option String)
    (identity : DeepAttemptIdentity) : Session DeepCallResult := do
  let supplemental := (← get).deepSupplementalEvidence.values
  let result ← completeDeepKnowledge ((inheritedEvidence ++ supplemental).map (·.evidenceId))
    decisionSummary identity
  if let .accepted _ _ := result then
    modify fun s => { s with lockedDeepEvidence := some ⟨inheritedEvidence, supplemental⟩ }
  return result

/-- The question that a deep step asks. -/
def deepDecision (identity : DeepAttemptIdentity) (decision : DeepNeedsDecisionResult) :
    WaitUserState :=
  { kind := .deepDecision
    roundId := identity.attemptId
    decisionId := decision.decisionId
    evidenceIds := decision.evidenceIds
    options := decision.options
    question := decision.question
    recommendation := decision.recommendation }

/-- The question asked when discovery was requested a second time. -/
def fallbackDecision (identity : DeepAttemptIdentity) (evidenceIds : List String) : WaitUserState :=
  { kind := .deepDiscoveryFallback
    roundId := identity.sourceRoundId
    decisionId := identity.attemptId ++ "-deep-discovery-fallback"
    evidenceIds := evidenceIds
    options := ["確認", "取消"]
    question := "此專案資料來源不足，將以前次grill/ 資料來源所得之證據進行後續開發，請確認"
    recommendation := "確認" }

def handleNeedsDecision (identity : DeepAttemptIdentity) (decision : DeepNeedsDecisionResult) :
    Session DeepCallResult := do
  let s ← get
  if s.deepAttempt ≠ some identity then
    return .stale s.deepAttempt identity
  let stage ← ensureOrchestrator
  let stage ← transitionTo stage .waitUser
  let ui ← setUi fun ui => { ui with
    decisionSummary := decision.decisionSummary <|> ui.decisionSummary
    lastEvidenceIds := decision.evidenceIds
    stage := .workflow stage
    waitUser := some (deepDecision identity decision) }
  modify fun s => { s with deepRetryPhase := some identity.phase, deepAttempt := none }
  return .accepted ui identity

def handleNeedsDiscovery (identity : DeepAttemptIdentity) (decisionSummary : Option String) :
    Session DeepCallResult := do
  let s ← get
  if s.deepAttempt ≠ some identity then
    return .stale s.deepAttempt identity
  let stage ← ensureOrchestrator
  modify fun s => { s with needsDiscoveryCount := s.needsDiscoveryCount + 1 }
  let s ← get
  if s.needsDiscoveryCount ≥ 2 then
    let stage ← transitionTo stage .waitUser
    let ui ← setUi fun ui => { ui with
      decisionSummary := decisionSummary <|> ui.decisionSummary
      stage := .workflow stage
      waitUser := some (fallbackDecision identity s.fetchedEvidenceIds.elems) }
    modify fun s => { s with deepAttempt := none }
    return .accepted ui identity
  let stage ← transitionTo stage .lightDiscovery
  let ui ← setUi fun ui => { ui with
    decisionSummary := decisionSummary <|> ui.decisionSummary
    stage := .workflow stage
    waitUser := none }
  modify fun s => { s with deepAttempt := none }
  return .accepted ui identity

def contextBuildAttemptId (n : Nat) : String := "context-" ++ toString n

/-- Issue a Context Build attempt for the source round. -/
def issueContextBuildAttempt (sourceRoundId : String) : Session Unit :=
  modify fun s => { s with
    contextBuildAttempt := some ⟨contextBuildAttemptId s.nextContextBuildAttemptId, sourceRoundId⟩
    nextContextBuildAttemptId := s.nextContextBuildAttemptId + 1 }

/-- The end of the understanding phase: the package is checked, stored and handed to Context Build. -/
def acceptPackage (identity : DeepAttemptIdentity) (package : EvidencePackage) :
    Session DeepCallResult := do
  let stage ← ensureOrchestrator
  let previousPackage := (← get).knowledgeUnderstandingPackage
  modify fun s => { s with knowledgeUnderstandingPackage := some package }
  let nextStage ← tryCatch (transitionTo stage .contextBuild) fun error => do
    modify fun s => { s with knowledgeUnderstandingPackage := previousPackage }
    throw error
  issueContextBuildAttempt identity.sourceRoundId
  let ui ← setUi fun ui => { ui with
    lastEvidenceIds := package.evidenceIds
    stage := .workflow nextStage
    waitUser := none }
  modify fun s => { s with deepAttempt := none }
  return .accepted ui identity

def handleUnderstandingResult (identity : DeepAttemptIdentity) (package : Option EvidencePackage) :
    Session DeepCallResult := do
  let s ← get
  if s.deepAttempt ≠ some identity then
    return .stale s.deepAttempt identity
  let some package := package
    | return .invalid s.uiState ["Knowledge Understanding 完成結果缺少 Evidence Package"]
  match validateEvidencePackage package with
  | .error errors => return .invalid s.uiState errors
  | .ok () => acceptPackage identity package

def handleDeepResult (identity : DeepAttemptIdentity) (result : DeepResult) :
    Session DeepCallResult := do
  match result, identity.phase with
  | .needsDecision decision, _ => handleNeedsDecision identity decision
  | .needsDiscovery decisionSummary, _ => handleNeedsDiscovery identity decisionSummary
  | .retrievalCompleted evidenceIds decisionSummary, .deepKnowledgeRetrieval =>
      completeDeepKnowledge evidenceIds decisionSummary identity
  | .understandingCompleted _, .deepKnowledgeRetrieval =>
      return .invalid (← get).uiState ["Deep Retrieval 完成結果缺少 evidenceIds"]
  | .retrievalCompleted _ _, .knowledgeUnderstanding => handleUnderstandingResult identity none
  | .understandingCompleted package, .knowledgeUnderstanding =>
      handleUnderstandingResult identity (some package)

/-! ### Context Build and ADR Build -/

/-- The question of an ambiguity, asked for the round that the attempt came from. -/
def ambiguityDecision (kind : WaitUserKind) (sourceRoundId : String) (ambiguity : ContextAmbiguity) :
    WaitUserState :=
  { kind := kind
    roundId := sourceRoundId
    decisionId := ambiguity.decisionId
    evidenceIds := ambiguity.evidenceIds
    options := ambiguity.options
    question := ambiguity.question
    recommendation := ambiguity.recommendation }

/-- Put an ambiguity before the user; the attempt stays until the question stands. -/
def askAmbiguity (kind : WaitUserKind) (stage : WorkflowStage) (sourceRoundId : String)
    (ambiguity : ContextAmbiguity) : Session ForgeUiState := do
  let stage ← transitionTo stage .waitUser
  setUi fun ui => { ui with
    lastEvidenceIds := ambiguity.evidenceIds
    stage := .workflow stage
    waitUser := some (ambiguityDecision kind sourceRoundId ambiguity) }

def adrBuildAttemptId (n : Nat) : String := "adr-" ++ toString n

/-- Issue an ADR Build attempt for the source round. -/
def issueAdrBuildAttempt (sourceRoundId : String) : Session Unit :=
  modify fun s => { s with
    adrBuildAttempt := some ⟨adrBuildAttemptId s.nextAdrBuildAttemptId, sourceRoundId⟩
    nextAdrBuildAttemptId := s.nextAdrBuildAttemptId + 1 }

def acceptContextCandidate (identity : ContextBuildIdentity) (candidate : ContextCandidate) :
    Session ContextBuildCallResult := do
  let previousCandidate := (← get).contextCandidate
  modify fun s => { s with contextCandidate := some (freezeContextCandidate candidate) }
  let nextStage ← tryCatch (transitionTo .contextBuild .adrBuild) fun error => do
    modify fun s => { s with contextCandidate := previousCandidate }
    throw error
  let ui ← setUi fun ui => { ui with
    stage := .workflow nextStage
    waitUser := none }
  modify fun s => { s with contextBuildAttempt := none }
  issueAdrBuildAttempt identity.sourceRoundId
  modify fun s => { s with adrBuildCandidate := none }
  return .accepted ui identity

def completeContextBuild (identity : ContextBuildIdentity) (completion : ContextBuildCompletion) :
    Session ContextBuildCallResult := do
  let s ← get
  if s.contextBuildAttempt ≠ some identity then
    return .stale s.contextBuildAttempt identity
  if s.orchestrator ≠ some .contextBuild then
    return .invalid s.uiState ["Context Build completion 不合法"]
  let some package := s.knowledgeUnderstandingPackage
    | return .invalid s.uiState ["Context Build 缺少 Knowledge Package"]
  match completion with
  | .ambiguous ambiguity =>
      let errors := validateContextAmbiguity ambiguity package.evidenceIds
      if errors ≠ [] then
        return .invalid s.uiState errors
      let ui ← askAmbiguity .contextAmbiguity .contextBuild identity.sourceRoundId ambiguity
      modify fun s => { s with contextBuildAttempt := none }
      return .ambiguous ui identity
  | .completed candidate =>
      let errors := validateContextCandidate candidate package.evidenceIds
      if errors ≠ [] then
        return .invalid s.uiState errors
      acceptContextCandidate identity candidate

def prepareAdrBuild (identity : AdrBuildIdentity) (candidate : AdrBuildCandidate) :
    Session AdrBuildCallResult := do
  let s ← get
  if s.adrBuildAttempt ≠ some identity then
    return .stale s.adrBuildAttempt identity
  if s.orchestrator ≠ some .adrBuild then
    return .invalid s.uiState ["ADR Build candidate 不合法"]
  let some package := s.knowledgeUnderstandingPackage
    | return .invalid s.uiState ["ADR Build 缺少 Knowledge Package"]
  let errors := validateAdrBuildCandidate candidate package.evidenceIds
  if errors ≠ [] then
    return .invalid s.uiState errors
  modify fun s => { s with adrBuildCandidate := some (freezeAdrBuildCandidate candidate) }
  return .accepted s.uiState identity

def requireAdrDecision (identity : AdrBuildIdentity) (ambiguity : ContextAmbiguity) :
    Session AdrBuildCallResult := do
  let s ← get
  if s.adrBuildAttempt ≠ some identity then
    return .stale s.adrBuildAttempt identity
  if s.orchestrator ≠ some .adrBuild then
    return .invalid s.uiState ["ADR Build ambiguity 不合法"]
  let some package := s.knowledgeUnderstandingPackage
    | return .invalid s.uiState ["ADR Build ambiguity 不合法"]
  let errors := validateContextAmbiguity ambiguity package.evidenceIds
  if errors ≠ [] then
    return .invalid s.uiState errors
  let ui ← askAmbiguity .adrAmbiguity .adrBuild identity.sourceRoundId ambiguity
  modify fun s => { s with adrBuildAttempt := none, adrBuildCandidate := none }
  return .ambiguous ui identity

def isLowerHex (c : Char) : Bool := ('a' ≤ c && c ≤ 'f') || ('0' ≤ c && c ≤ '9')

/-- The test `/^[a-f0-9]{64}$/` on the base hash of a commit. -/
def isBaseHash (hash : String) : Bool := hash.toList.length == 64 && hash.toList.all isLowerHex

/-- A commit of the Documents bundle that succeeded, with a hash to show for it. -/
def isCommitted : CommitDocumentsResult → Bool
  | .committed baseHash => isBaseHash baseHash
  | _ => false

def finalizeAdrBuild (identity : AdrBuildIdentity) (commit : CommitDocumentsResult) :
    Session AdrBuildCallResult := do
  let s ← get
  if s.adrBuildAttempt ≠ some identity then
    return .stale s.adrBuildAttempt identity
  if s.orchestrator ≠ some .adrBuild ∨ s.adrBuildCandidate = none ∨ isCommitted commit = false then
    return .invalid s.uiState ["ADR Build 尚未完成 Documents bundle commit"]
  let stage ← transitionTo .adrBuild .toSpec
  let ui ← setUi fun ui => { ui with
    stage := .workflow stage
    waitUser := none }
  modify fun s => { s with adrBuildAttempt := none }
  return .accepted ui identity

/-! ### Evidence and the search budget -/

def recordDeepSupplementalEvidence (identity : DeepAttemptIdentity) (evidenceId : String)
    (evidence : Option EvidenceInput) : Session DeepCallResult := do
  let s ← get
  if s.deepAttempt ≠ some identity then
    return .stale s.deepAttempt identity
  match s.deepSupplementalEvidence.get? evidenceId with
  | some existing =>
      if evidence.map (·.content) = some existing.content then
        return .accepted s.uiState identity
      throw "evidence_id_content_conflict"
  | none =>
      modify fun s => { s with
        deepSupplementalEvidenceIds := s.deepSupplementalEvidenceIds.add evidenceId
        deepSupplementalEvidence := match evidence with
          | some evidence => s.deepSupplementalEvidence.insert evidenceId evidence
          | none => s.deepSupplementalEvidence }
      return .accepted s.uiState identity

/-- The budget serves the live attempt in the current round only. -/
def budgetIsStale (s : SessionState) (identity : DeepAttemptIdentity) : Prop :=
  s.deepAttempt ≠ some identity ∨ s.currentGrillRound.map (·.roundId) ≠ some identity.sourceRoundId

instance (s : SessionState) (identity : DeepAttemptIdentity) : Decidable (budgetIsStale s identity) :=
  inferInstanceAs (Decidable (_ ∨ _))

def reservationKey (identity : DeepAttemptIdentity) : String :=
  identity.attemptId ++ ":" ++ identity.sourceRoundId ++ ":" ++ identity.phase.text

def reserveDeepSearchBudget (identity : DeepAttemptIdentity) : Session BudgetAnswer := do
  if budgetIsStale (← get) identity then
    return .stale
  if (← get).deepSearchBudgetRoundId ≠ some identity.sourceRoundId then
    modify fun s => { s with
      deepSearchBudgetRoundId := some identity.sourceRoundId
      deepSearchCount := 0
      deepSearchReservations := .empty }
  let s ← get
  let key := reservationKey identity
  if key ∉ s.deepSearchReservations ∧
      s.deepSearchCount + s.deepSearchReservations.values.sum ≥ deepSearchMaxPerSourceRound then
    return .limit
  modify fun s => { s with
    deepSearchReservations :=
      s.deepSearchReservations.insert key ((s.deepSearchReservations.get? key).getD 0 + 1) }
  return .reserved

/-- Give back one reservation under the key. -/
def dropReservation (reservations : OrderedMap String Nat) (key : String) : OrderedMap String Nat :=
  match (reservations.get? key).getD 0 with
  | 0 => reservations
  | 1 => reservations.erase key
  | n + 1 => reservations.insert key n

def commitDeepSearchBudget (identity : DeepAttemptIdentity) : Session BudgetAnswer := do
  if budgetIsStale (← get) identity then
    return .stale
  let key := reservationKey identity
  if ((← get).deepSearchReservations.get? key).getD 0 > 0 then
    modify fun s => { s with
      deepSearchReservations := dropReservation s.deepSearchReservations key
      deepSearchCount := s.deepSearchCount + 1 }
  return .accepted

def releaseDeepSearchBudget (identity : DeepAttemptIdentity) : Session BudgetAnswer := do
  if budgetIsStale (← get) identity then
    return .stale
  modify fun s => { s with
    deepSearchReservations := dropReservation s.deepSearchReservations (reservationKey identity) }
  return .released

def consumeDeepSearchBudget (identity : DeepAttemptIdentity) : Session BudgetAnswer := do
  match ← reserveDeepSearchBudget identity with
  | .stale => return .stale
  | .limit => return .limit
  | _ => commitDeepSearchBudget identity

def recordEvidenceFetch (candidateId : String) : Session Unit := do
  if (← get).currentGrillRound = none then
    throw "目前沒有可讀取證據的 Grill 回合。"
  modify fun s => { s with fetchedEvidenceIds := s.fetchedEvidenceIds.add candidateId }

end Session

end ForgeRuntime
