import ForgeRuntime.Runtime.SessionState

/-!
# Questions, answers and the Grill rounds

The operations of the session that ask the user, take the answer, and open, retry and reset the rounds.
`recordAnswer` is written as its guards, which leave the state as it is, followed by one function for each
kind of decision whose answer continues differently.
-/

namespace ForgeRuntime

open EventDriven EventDriven.Text

namespace Session

def confirm : Session ForgeUiState := do
  if (← get).orchestrator ≠ some .waitUser then
    return ← setUi fun ui => { ui with stage := .confirmRejectedWaitUserRequired }
  let stage ← transitionTo .waitUser .userConfirmed
  setUi fun ui => { ui with
    stage := .workflow stage
    waitUser := none }

def continueGrillRound : Session GrillRound := do
  let some round := (← get).currentGrillRound | throw "No active Grill round to continue"
  return round

/-- The repair state that an omitted completion leaves behind. -/
def recoveryRequired : ValidationRepairState :=
  { rollbackTarget := "GRILL"
    rootCause := "RECOVERY_REQUIRED" }

def retryGrillRound : Session (Option GrillRound) := do
  let s ← get
  let some round := s.currentGrillRound | return none
  if s.uiState.validationRepair.map (·.rootCause) ≠ some "RECOVERY_REQUIRED" then
    return none
  modify fun s => { s with
    completionOmissionRecorded := false
    uiState := { s.uiState with
      stage := .workflow .grill
      validationRepair := none } }
  return some round

def recordCompletionOmission : Session Bool := do
  if (← get).completionOmissionRecorded then
    return false
  modify fun s => { s with
    completionOmissionRecorded := true
    uiState := { s.uiState with
      stage := .workflow .grill
      validationRepair := some recoveryRequired } }
  return true

/-! ### Answers -/

/-- The guards of `recordAnswer` after which nothing is written: an answer to a question of another
round, or a word that this kind of question does not take. -/
def refusesAnswer (s : SessionState) (pending : WaitUserState) (normalizedAnswer : String) : Prop :=
  normalizedAnswer = "" ∨
    ((pending.kind = .grillConfirmation ∨ pending.kind = .grillCheckpoint) ∧
      s.currentGrillRound.map (·.roundId) ≠ some pending.roundId) ∨
    (pending.kind = .deepDiscoveryFallback ∧ normalizedAnswer ∉ ["同意", "確認"]) ∨
    (pending.kind = .grillCheckpoint ∧ normalizedAnswer ≠ "continue_one" ∧
      normalizedAnswer ≠ "converge") ∨
    (pending.kind ≠ .grillCheckpoint ∧ waitUserDecisionKey pending ∈ s.answeredDecisionKeys)

instance (s : SessionState) (pending : WaitUserState) (normalizedAnswer : String) :
    Decidable (refusesAnswer s pending normalizedAnswer) :=
  inferInstanceAs (Decidable (_ ∨ _))

/-- The statement under which an answer is kept. -/
def decisionStatement (question answer : String) : String := "問題：" ++ question ++ "；決定：" ++ answer

/-- The decision that an answer makes. -/
def humanDecision (pending : WaitUserState) (answer : String) : EvidenceDecision :=
  { decisionId := pending.decisionId
    statement := decisionStatement pending.question answer
    evidenceIds := pending.evidenceIds }

/-- The human premise that an answer to a Grill question leaves as evidence. -/
def humanPremise (digest : String → String) (round : GrillRound) (pending : WaitUserState)
    (normalizedAnswer : String) : EvidenceInput :=
  { evidenceId := "human-premise-" ++ digest (join (String.singleton (Char.ofNat 0))
      [round.roundId, pending.decisionId, round.request, pending.question, normalizedAnswer])
    kind := "human_premise"
    source := "forge://human-premise"
    title := "使用者前提"
    content := join "\n"
      ["目標：" ++ round.request, "問題：" ++ pending.question, "回答：" ++ normalizedAnswer]
    metadata := [("roundId", .text round.roundId), ("decisionId", .text pending.decisionId)] }

/-- The question asked after the eighth confirmation. -/
def checkpointDecision (round : GrillRound) (evidenceIds : List String) : WaitUserState :=
  { kind := .grillCheckpoint
    roundId := round.roundId
    decisionId := "grill-checkpoint-" ++ round.roundId
    evidenceIds := evidenceIds
    options := ["continue_one", "converge", "cancel"]
    question := "Grill 已完成 8 次使用者確認，請選擇下一步。"
    recommendation := "continue_one" }

/-- The answer to a checkpoint: back to Grill, for one more question or to converge. -/
def answerCheckpoint (normalizedAnswer : String) : Session ForgeUiState := do
  let _ ← transitionTo .waitUser .userConfirmed
  modify fun s => { s with
    continueGrillCheckpointPending := normalizedAnswer == "continue_one"
    uiState := { s.uiState with waitUser := none } }
  beginGrill none

/-- What every other answer does first: the stage is left, the key is used up, and the decision is kept
unless one with its ID is kept already. -/
def keepAnswer (pending : WaitUserState) (answer : String) : Session Unit := do
  let _ ← transitionTo .waitUser .userConfirmed
  modify fun s => { s with
    answeredDecisionKeys := s.answeredDecisionKeys.add (waitUserDecisionKey pending)
    humanDecisions :=
      if pending.decisionId ∈ s.humanDecisions then s.humanDecisions
      else s.humanDecisions.insert pending.decisionId (humanDecision pending answer) }

/-- An answer to a Grill question becomes a premise, and it counts towards the checkpoint. -/
def keepPremise (digest : String → String) (pending : WaitUserState) (normalizedAnswer : String) :
    Session Unit :=
  modify fun s => { s with
    humanPremises := match s.currentGrillRound with
      | some round => s.humanPremises.insert (waitUserDecisionKey pending)
          (humanPremise digest round pending normalizedAnswer)
      | none => s.humanPremises
    grillAcceptedAnswerCount := s.grillAcceptedAnswerCount + 1 }

/-- Ask the checkpoint question instead of going on. -/
def askCheckpoint (pending : WaitUserState) : Session ForgeUiState := do
  let some round := (← get).currentGrillRound | throw "Grill checkpoint requires an active round"
  modify fun s => { s with orchestrator := some .grill }
  let stage ← transitionTo .grill .waitUser
  let ui ← setUi fun ui => { ui with
    stage := .workflow stage
    waitUser := some (checkpointDecision round pending.evidenceIds) }
  modify fun s => { s with continueGrillCheckpointPending := false }
  return ui

/-- The summary that an answer leaves for the next step. -/
def answerSummary (pending : WaitUserState) (answer : String) : String :=
  "使用者已回答決策 " ++ quote pending.decisionId ++ "：" ++ quote answer ++ "。"

/-- Show the stage that the answer leads to. -/
def showAnswered (pending : WaitUserState) (answer : String) (stage : WorkflowStage) :
    Session ForgeUiState :=
  setUi fun ui => { ui with
    decisionSummary := some (answerSummary pending answer)
    stage := .workflow stage
    waitUser := none }

/-- How an answer that was kept goes on, by the kind of its question. -/
def continueAfterAnswer (pending : WaitUserState) (answer : String) : Session ForgeUiState := do
  match pending.kind with
  | .contextAmbiguity =>
      issueContextBuildAttempt pending.roundId
      showAnswered pending answer (← transitionTo .userConfirmed .contextBuild)
  | .adrAmbiguity =>
      issueAdrBuildAttempt pending.roundId
      showAnswered pending answer (← transitionTo .userConfirmed .adrBuild)
  | .deepDiscoveryFallback | .relevanceClarification =>
      showAnswered pending answer .userConfirmed
  | _ =>
      showAnswered pending answer (← transitionTo .userConfirmed .grill)

/-- Has the checkpoint come: at the eighth answer, or at the one granted after it? -/
def checkpointDue (s : SessionState) : Prop :=
  s.grillAcceptedAnswerCount = grillAnswerCheckpoint ∨ s.continueGrillCheckpointPending = true

instance (s : SessionState) : Decidable (checkpointDue s) :=
  inferInstanceAs (Decidable (_ ∨ _))

/-- An answer that passed the guards. -/
def acceptAnswer (digest : String → String) (pending : WaitUserState) (answer : String) :
    Session ForgeUiState := do
  if pending.kind = .grillCheckpoint then
    answerCheckpoint (trim answer)
  else
    keepAnswer pending answer
    if pending.kind = .grillConfirmation then
      keepPremise digest pending (trim answer)
      if checkpointDue (← get) then
        return ← askCheckpoint pending
    continueAfterAnswer pending answer

def recordAnswer (digest : String → String) (answer : String) : Session ForgeUiState := do
  let s ← get
  if s.orchestrator ≠ some .waitUser then
    return ← setUi fun ui => { ui with stage := .answerRejectedWaitUserRequired }
  let some pending := s.uiState.waitUser | throw "WAIT_USER requires a pending decision"
  if refusesAnswer s pending (trim answer) then
    return s.uiState
  acceptAnswer digest pending answer

/-! ### Questions -/

/-- The text of a rejection. -/
def rejectionSummary (recommended selection : Option String) : String :=
  "User rejected recommendation " ++ quote (recommended.getD "unknown") ++ " and selected " ++
    quote (selection.getD "reject") ++ "."

/-- The repair state that a rejection leaves behind. -/
def userRejected : ValidationRepairState :=
  { rollbackTarget := "GRILL"
    rootCause := "user_rejected_recommendation" }

def reject (selection : Option String) : Session ForgeUiState := do
  let s ← get
  let recommended := s.uiState.waitUser.map (·.recommendation)
  if s.orchestrator = some .waitUser then
    let stage ← transitionTo .waitUser .userConfirmed
    let _ ← transitionTo stage .grill
  setUi fun ui => { ui with
    decisionSummary := some (rejectionSummary recommended selection)
    stage := .workflow .grill
    validationRepair := some userRejected
    waitUser := none }

def requireWaitUser (payload : WaitUserPayload) : Session ForgeUiState := do
  if Blank payload.decisionId then
    throw "wait user payload requires decisionId"
  if Blank payload.roundId then
    throw "wait user payload requires roundId"
  let s ← get
  if waitUserDecisionKey payload.toWaitUserState ∈ s.answeredDecisionKeys ∨
      payload.decisionId ∈ s.humanDecisions then
    return s.uiState
  if s.currentGrillRound.map (·.roundId) ≠ some payload.roundId then
    throw "wait user payload roundId was not issued by runtime"
  let stage ← orchestratorFrom .grill
  let stage ← transitionTo stage .waitUser
  setUi fun _ =>
    { decisionSummary := payload.decisionSummary
      lastEvidenceIds := payload.evidenceIds
      stage := .workflow stage
      validationRepair := none
      waitUser := some payload.toWaitUserState }

def requireGrillResult (payload : WaitUserPayload) : Session ForgeUiState := requireWaitUser payload

/-! ### Rounds -/

def roundId (n : Nat) : String := "grill-" ++ toString n

/-- What a new snapshot discards. -/
def forgetSnapshot (s : SessionState) : SessionState :=
  { s with
    grillAcceptedAnswerCount := 0
    continueGrillCheckpointPending := false
    humanDecisions := .empty
    humanPremises := .empty
    deepSupplementalEvidenceIds := .empty
    deepSupplementalEvidence := .empty
    fetchedEvidenceIds := .empty
    lockedDeepEvidence := none
    knowledgeUnderstandingPackage := none
    contextBuildAttempt := none
    contextCandidate := none
    adrBuildAttempt := none
    adrBuildCandidate := none }

def startGrillRound (request : String) (snapshot : GrillEvidenceSnapshot) : Session GrillRound := do
  let s ← get
  let isFirstRoundOfSnapshot :=
    decide (s.currentGrillRound.map (·.snapshot.ref) ≠ some snapshot.ref)
  let round : GrillRound := ⟨isFirstRoundOfSnapshot, roundId s.nextRoundId, request, snapshot⟩
  modify fun s =>
    let kept := if isFirstRoundOfSnapshot then forgetSnapshot s else s
    { kept with
      completionOmissionRecorded := false
      deepSearchBudgetRoundId := none
      deepSearchCount := 0
      deepAttempt := none
      currentGrillRound := some round
      nextRoundId := s.nextRoundId + 1 }
  return round

/-- `reset`: everything but the four counters goes back to its initial value. -/
def reset : Session ForgeUiState := do
  modify fun s => { createForgeSessionState with
    nextRoundId := s.nextRoundId
    nextDeepAttemptId := s.nextDeepAttemptId
    nextContextBuildAttemptId := s.nextContextBuildAttemptId
    nextAdrBuildAttemptId := s.nextAdrBuildAttemptId }
  return (← get).uiState

end Session

end ForgeRuntime
