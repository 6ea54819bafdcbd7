import ForgeRuntime.Extension.Events

/-!
# The commands

`/forge-runtime` with its words: `grill ambiguous` and `grill-result` hand in what a Grill round produced,
`continue` and `retry` take the work up again, `cancel` and `switch` leave it, `confirm` and `reject` answer
the pending decision.
-/

namespace ForgeRuntime

open EventDriven EventDriven.Text

namespace Extension

variable (host : Host) (files : Files)

/-- Show the state and end the command. -/
def publishCurrent : Ext Reply := do
  publishState (← get).session.uiState
  return .done

/-- A command that waits for a selector, if one was opened. -/
def waitingIf (opened : Bool) : Reply := if opened then .waiting else .done

/-! ### `grill ambiguous` -/

/-- An array of texts, none of which is empty. -/
def nonemptyTexts? (value : Option (Json String)) : Option (List String) :=
  (value.bind Json.array?).bind fun items => items.mapM nonemptyText?

/-- A text that is not blank. -/
def nonblankText? (value : Option (Json String)) : Option String :=
  (value.bind Json.text?).filter fun text => ¬ Blank text

/-- A value, or the error when there is none. -/
def orError {α : Type} (value : Option α) (error : String) : Except String α :=
  match value with
  | some a => .ok a
  | none => .error error

def parseWaitUserPayload (raw : String) : Except String WaitUserPayload := do
  let parsed ← host.parseJson raw
  if let .null := parsed then
    throw "Cannot read properties of null (reading 'question')"
  let question ← orError ((parsed.field? "question").bind nonemptyText?)
    "WAIT_USER payload 必須包含 question。"
  let recommendation ← orError ((parsed.field? "recommendation").bind nonemptyText?)
    "WAIT_USER payload 必須包含 recommendation。"
  let options ← orError (nonemptyTexts? (parsed.field? "options"))
    "WAIT_USER payload 的 options 必須是非空字串陣列。"
  let evidenceIds ← orError (nonemptyTexts? (parsed.field? "evidenceIds"))
    "WAIT_USER payload 的 evidenceIds 必須是非空字串陣列。"
  let decisionId ← orError (nonblankText? (parsed.field? "decisionId"))
    "WAIT_USER payload 必須包含 decisionId。"
  let roundId ← orError (nonblankText? (parsed.field? "roundId"))
    "WAIT_USER payload 必須包含 roundId。"
  return {
    kind := .grillConfirmation
    roundId := roundId
    decisionId := decisionId
    decisionSummary := (parsed.field? "decisionSummary").bind Json.text?
    evidenceIds := evidenceIds
    options := options
    question := question
    recommendation := recommendation }

def grillAmbiguous (raw : String) (ctx : CommandContext) : Ext Reply := do
  match parseWaitUserPayload host raw with
  | .error error => throw error
  | .ok payload => return waitingIf (← publishWaitUser ctx payload none false)

/-! ### `grill-result` -/

/-- The completion repeats the question that is pending. -/
def RepeatsConfirmation (waitUser : Option WaitUserState) (completion : GrillCompletionPayload) : Prop :=
  ∃ pending ∈ waitUser, pending.kind = .grillConfirmation ∧ pending.roundId = completion.roundId ∧
    completion.requiresUserConfirmation = true ∧
    completion.questions.head?.map (·.id) = some pending.decisionId

instance (waitUser : Option WaitUserState) (completion : GrillCompletionPayload) :
    Decidable (RepeatsConfirmation waitUser completion) :=
  inferInstanceAs (Decidable (∃ _ ∈ waitUser, _))

/-- The completion is ready for Deep while the question about its relevance is pending. -/
def RepeatsRelevance (waitUser : Option WaitUserState) (completion : GrillCompletionPayload) : Prop :=
  ∃ pending ∈ waitUser, pending.kind = .relevanceClarification ∧ completion.status = .readyForDeep ∧
    completion.roundId = pending.roundId ∧ completion.roundId = pending.decisionId

instance (waitUser : Option WaitUserState) (completion : GrillCompletionPayload) :
    Decidable (RepeatsRelevance waitUser completion) :=
  inferInstanceAs (Decidable (∃ _ ∈ waitUser, _))

/-- A `grill-result` that is ready for Deep Knowledge. -/
def grillResultDeep (completion : GrillCompletionPayload) (ctx : CommandContext) : Ext Reply := do
  modify fun s => { s with pendingConvergenceRoundId := none }
  match ← continueDeepKnowledge host ctx completion.recommendation.reason
      (activateDeepRetrievalTools host) .followUp false none with
  | .asked opened => return waitingIf opened
  | .sending =>
      modify fun s => { s with suspended := s.suspended ++ [.grillResultSent] }
      return .waiting
  | _ => return .done

def grillResult (raw : String) (ctx : CommandContext) : Ext Reply := do
  let s ← get
  let isWaitUserReplay := decide (s.pendingGrillRun = true ∧ AtStage s .waitUser)
  if ¬ HasActiveGrillAttempt s ∧ isWaitUserReplay = false then
    return .done
  let completion ← parseActiveGrillCompletion host (.text raw)
  let waitUser := s.session.uiState.waitUser
  if isWaitUserReplay = true ∧ ¬ RepeatsConfirmation waitUser completion ∧
      ¬ RepeatsRelevance waitUser completion then
    return .done
  if completion.requiresUserConfirmation = false then
    return ← grillResultDeep host completion ctx
  match toWaitUserPayload completion with
  | .error error => throw error
  | .ok payload => return waitingIf (← publishWaitUser ctx payload none false)

/-! ### `continue` and `retry` -/

/-- Take an invocation up again. -/
def replay (invocation : String) : Ext Unit := do
  modify fun s => { s with pendingReplayInvocation := some invocation }
  sendUserMessage invocation

/-- Send the invocation of a Grill round once more, under the Grill tools. -/
def replayGrillRound (round : GrillRound) : Ext Reply := do
  let request := join "\n\n"
    ([some round.request, (← get).session.uiState.decisionSummary].filterMap truthy)
  let invocation ← grillingInvocation host files request round.roundId round.snapshot.manifest
  modify fun s => { s with
    pendingReplayInvocation := some invocation
    pendingGrillRun := true }
  activateGrillTools host
  sendUserMessage invocation
  publishCurrent

def continueDiscovery (workflow : ActiveWorkflowContext) : Ext Reply := do
  if host.sendUserMessage = false then
    return ← publishCurrent
  if !(← requireGrillToolBoundary host) then
    return ← publishCurrent
  replay (← restartLightDiscoveryAndGrill host files workflow)
  return .done

/-- The invocation of the live Context Build, sent twice already and with nothing of it pending. -/
def replayableContextBuild? (s : ExtensionState) : Option PendingSettledBuildInvocation :=
  match s.lastSentContextBuildInvocation, s.session.contextBuildAttempt with
  | some lastSent, some currentAttempt =>
      let identity : BuildIdentity := ⟨currentAttempt.attemptId, currentAttempt.sourceRoundId⟩
      if IsActiveWorkflow s lastSent.activeWorkflow ∧ lastSent.identity = identity ∧
          s.replayedContextBuildIdentity = some identity ∧ s.pendingSettledBuildInvocation = none ∧
          s.pendingSettledBuildInvocationTimer = none then
        some lastSent
      else none
  | _, _ => none

def continueContextBuild : Ext Reply := do
  if host.sendUserMessage = false then
    return ← publishCurrent
  if !(← requireBuildToolBoundary host) then
    return ← publishCurrent
  match replayableContextBuild? (← get) with
  | some lastSent =>
      activateContextBuildTools host
      replay lastSent.invocation
      publishCurrent
  | none => publishCurrent

/-- `continue` in a Deep step: the live attempt is replaced, a cancelled or answered one is taken up. -/
def continueDeep : Ext Reply := do
  if host.sendUserMessage = false then
    return ← publishCurrent
  if !(← requireDeepToolBoundary host) then
    return ← publishCurrent
  let currentAttempt : Option DeepAttemptIdentity := (← get).session.deepAttempt
  let retryState ← match currentAttempt with
    | some attempt => sessionState.beginDeepKnowledge none attempt.phase
    | none => sessionState.retryDeepKnowledge none
  let some retryAttempt := (← get).session.deepAttempt | return .done
  match retryAttempt.phase with
  | .deepKnowledgeRetrieval => activateDeepRetrievalTools host
  | .knowledgeUnderstanding => activateDeepUnderstandingTools host
  replay (continueDeepInvocation retryAttempt)
  publishState retryState
  return .done

def continueGrill : Ext Reply := do
  let s ← get
  let canResumeCancelledDeep := AtStage s .grill ∧ s.activeWorkflow ≠ none ∧ s.pendingGrillRun = false
  if (s.pendingGrillRun = false ∧ ¬ canResumeCancelledDeep) ∨
      (¬ AtStage s .grill ∧ ¬ AtStage s .waitUser) then
    return .done
  if host.sendUserMessage = false then
    return ← publishCurrent
  if !(← requireGrillToolBoundary host) then
    return ← publishCurrent
  replayGrillRound host files (← sessionState.continueGrillRound)

/-- The work of a Deep step is at hand: it runs, was cancelled, or has asked. -/
def AtDeepStep (s : ExtensionState) : Prop :=
  AtStage s .deepKnowledgeRetrieval ∨ AtStage s .knowledgeUnderstanding ∨
    (AtStage s .waitUser ∧ s.session.uiState.waitUser.map (·.kind) = some .deepDecision)

instance (s : ExtensionState) : Decidable (AtDeepStep s) := inferInstanceAs (Decidable (_ ∨ _))

/-- The workflow whose discovery is to be done. -/
def discoveryWorkflow? (s : ExtensionState) : Option ActiveWorkflowContext :=
  if AtStage s .lightDiscovery then s.activeWorkflow else none

def RecoveryRequired (s : ExtensionState) : Prop :=
  s.session.uiState.validationRepair.map (·.rootCause) = some "RECOVERY_REQUIRED"

instance (s : ExtensionState) : Decidable (RecoveryRequired s) := inferInstanceAs (Decidable (_ = _))

def continueCommand : Ext Reply := do
  let s ← get
  if RecoveryRequired s then
    notify "目前需要 recovery action；請使用 /forge-runtime retry、cancel 或 switch <request>。"
    return ← publishCurrent
  match discoveryWorkflow? s with
  | some workflow => continueDiscovery host files workflow
  | none =>
      if AtStage s .contextBuild then
        continueContextBuild host
      else if AtDeepStep s then
        continueDeep host
      else
        continueGrill host files

def retryCommand : Ext Reply := do
  if host.sendUserMessage = false then
    return ← publishCurrent
  if !(← requireGrillToolBoundary host) then
    return ← publishCurrent
  match ← sessionState.retryGrillRound with
  | some round => replayGrillRound host files round
  | none =>
      notify "目前沒有可 retry 的 Grill recovery。"
      publishCurrent

/-! ### `switch` -/

def switchCommand (request : String) (ctx : CommandContext) : Ext Reply := do
  if request = "" ∨ ctx.newSession = false then
    return ← publishCurrent
  modify fun s => { s with suspended := s.suspended ++ [.newSession] }
  return .waiting

/-- What a successful `switch` leaves. -/
def leaveWorkflow : Ext Unit := do
  modify fun s => { s with
    activeWorkflow := none
    explorationConsentGranted := false }
  clearFallbackWorkflowState
  modify fun s => { s with pendingConvergenceRoundId := none }
  clearPendingState
  restoreActiveTools host
  let _ ← sessionState.reset

/-! ### `confirm` and `reject` -/

/-- Answer the pending decision; the command ends when the answer is taken, or shows the state. -/
def answerPending (state : ForgeUiState) (answer : String) (ctx : CommandContext) : Ext Reply := do
  match ← resumeWaitUserAnswer host files answer ctx with
  | .handled => return .done
  | .sending => return .waiting
  | .notHandled =>
      publishState state
      return .done

/-- The decision that is shown as pending. -/
def shownDecision? (state : ForgeUiState) : Option WaitUserState :=
  if state.stage = .workflow .waitUser then state.waitUser else none

def confirmAndContinueDeepKnowledge (ctx : CommandContext) : Ext Reply := do
  let beforeConfirm : ForgeUiState := (← get).session.uiState
  let nextState ← sessionState.confirm
  publishState nextState
  if shownDecision? beforeConfirm = none ∨ nextState.stage ≠ .workflow .userConfirmed then
    return .done
  if !(← requireDeepToolBoundary host) then
    return .done
  match ← continueDeepKnowledge host ctx beforeConfirm.decisionSummary (releaseGrillBoundary host)
      .followUp false none with
  | .asked opened => return waitingIf opened
  | .sending => return .waiting
  | _ => return .done

def confirmCommand (ctx : CommandContext) : Ext Reply := do
  let state : ForgeUiState := (← get).session.uiState
  match shownDecision? state with
  | some pending =>
      if pending.kind = .relevanceClarification then
        notify "目前等待相關性澄清，請補充可信來源或縮小需求範圍。"
        publishState state
        return .done
      answerPending host files state pending.recommendation ctx
  | none => confirmAndContinueDeepKnowledge host ctx

/-- `reject` and `reject <answer>`. -/
def rejectCommand (selection : Option String) (ctx : CommandContext) : Ext Reply := do
  let state : ForgeUiState := (← get).session.uiState
  match shownDecision? state with
  | some _ => answerPending host files state (selection.getD "reject") ctx
  | none =>
      publishState (← sessionState.reject selection)
      return .done

/-! ### The command -/

/-- `/forge-runtime`, by the first of its words that fits. -/
def command (args : String) (ctx : CommandContext) : Ext Reply := do
  let command := trim args
  if startsWith command "grill ambiguous " then
    grillAmbiguous host (String.ofList (command.toList.drop 16)) ctx
  else if startsWith command "grill-result " then
    grillResult host (String.ofList (command.toList.drop 13)) ctx
  else if command = "continue" then
    continueCommand host files
  else if command = "retry" then
    retryCommand host files
  else if command = "cancel" then
    cancelWorkflow host
    return .done
  else if startsWith command "switch " then
    switchCommand (textAfter "switch " command) ctx
  else if command = "confirm" then
    confirmCommand host files ctx
  else if command = "reject" then
    rejectCommand host files none ctx
  else if startsWith command "reject " then
    rejectCommand host files (some (textAfter "reject " command)) ctx
  else
    publishCurrent

end Extension

end ForgeRuntime
