import ForgeRuntime.Extension.Answers
import ForgeRuntime.Extension.GrillTools

/-!
# The events of the host

The handlers of `message_start`, `message_end`, `tool_result`, `agent_settled` with its three timers,
`tool_call` and `input`.  `toolCallBlocks` is the gate that `tool_call` puts before every tool.

`message_update` only blanks the texts of a message that is still being written; it reads the state and is
left out.
-/

namespace ForgeRuntime

open EventDriven EventDriven.Text

/-- A part of a message of the model; an ID may be missing. -/
inductive AssistantBlock where
  | text
  | thinking
  | toolCall (id : Option String) (name : String)
deriving DecidableEq, Repr

def AssistantBlock.isToolCall : AssistantBlock → Bool
  | .toolCall _ _ => true
  | _ => false

/-- The messages that `message_end` looks at. -/
inductive EndedMessage where
  | toolResult (toolCallId : Option String)
  | assistant (content : List AssistantBlock)
  | other
deriving DecidableEq, Repr

namespace Extension

variable (host : Host) (files : Files)

/-! ### Messages -/

/-- A message of the user has started: was it the invocation that is waited for? -/
def messageStart (texts : List String) : Ext Reply := do
  let s ← get
  if truthy s.pendingReplayInvocation = some (trim (join "" texts)) then
    modify fun s => { s with pendingReplayInvocation := none }
  return .done

/-- The IDs of the calls of a tool in a message. -/
def callIdsOf (toolName : String) (content : List AssistantBlock) : List String :=
  content.filterMap fun block =>
    match block with
    | .toolCall id name => if name = toolName then id else none
    | _ => none

/-- The calls of the retrieval phase that stand in one message. -/
def retrievalBatch? (deepAttempt : Option DeepAttemptIdentity) (content : List AssistantBlock) :
    Option DeepRetrievalBatch :=
  let searchCallIds := callIdsOf "forge_deep_search" content
  let completionCallIds := callIdsOf "forge_deep_retrieval_complete" content
  match deepAttempt with
  | some identity =>
      if searchCallIds.length + completionCallIds.length > 0 then
        some
          { identity := identity
            searchCallIds := .ofList searchCallIds
            completionCallIds := .ofList completionCallIds
            settledSearchCallIds := .empty
            mixed := decide (searchCallIds.length > 0 ∧ completionCallIds.length > 0)
            followUpQueued := false }
      else none
  | none => none

/-- The text that asks for the completion after a batch of searches. -/
def batchInvocation (workflow : ActiveWorkflowContext) (identity : DeepAttemptIdentity) : String :=
  "Deep Search 批次已完成。\n" ++ deepResultGuidance ++ "\nTarget source manifest：" ++
    Json.compact (.texts (targetSources workflow)) ++
    "\n請使用相同 runtime-issued identity 繼續，並在搜尋完成後另送 completion-only batch：" ++
    Json.compact (identityJson identity)

/-- The result of a search has arrived; after the last one of its batch the completion is asked for. -/
def searchSettled (batch : DeepRetrievalBatch) (toolCallId : String) : Ext Reply := do
  let settled := { batch with settledSearchCallIds := batch.settledSearchCallIds.add toolCallId }
  modify fun s => { s with deepRetrievalBatch := some settled }
  let s ← get
  match s.activeWorkflow with
  | some workflow =>
      if settled.followUpQueued = true ∨
          settled.settledSearchCallIds.elems.length ≠ settled.searchCallIds.elems.length ∨
          s.session.deepAttempt ≠ some settled.identity then
        return .done
      let invocation := batchInvocation workflow settled.identity
      modify fun s => { s with
        deepRetrievalBatch := some { settled with followUpQueued := true }
        pendingReplayInvocation := some invocation }
      if host.sendUserMessage then
        sendUserMessage invocation
      return .done
  | none => return .done

def omissionText : String :=
  "GRILL_COMPLETION_REQUIRED\n請輸入 /forge-runtime retry、/forge-runtime cancel，或 /forge-runtime switch <request>。"

/-- The end of a Grill message without a completion, after the notice. -/
def endOmission : Ext Reply := do
  clearPendingState
  restoreActiveTools host
  return .message

/-- A Grill message that calls no tool: the first one is reported, and the workflow falls back. -/
def omittedCompletion : Ext Reply := do
  if ← sessionState.recordCompletionOmission then
    publishState (← get).session.uiState
    if host.sendMessage then
      emit (.sendMessage omissionText)
      modify fun s => { s with suspended := s.suspended ++ [.omissionNotice] }
      return .waiting
    endOmission host
  else
    endOmission host

/-- `message_end` of a message of the model. -/
def assistantMessageEnd (content : List AssistantBlock) : Ext Reply := do
  let s ← get
  if HasActiveDeepAttempt s then
    modify fun s => { s with deepRetrievalBatch := retrievalBatch? s.session.deepAttempt content }
    return .message
  if ¬ HasActiveGrillAttempt s then
    return .done
  if content.any AssistantBlock.isToolCall then
    return .done
  omittedCompletion host

def messageEnd : EndedMessage → Ext Reply
  | .toolResult toolCallId => do
      let s ← get
      match s.deepRetrievalBatch, truthy toolCallId with
      | some batch, some id =>
          if id ∈ batch.searchCallIds then searchSettled host batch id else return .done
      | _, _ => return .done
  | .assistant content => assistantMessageEnd host content
  | .other => return .done

/-! ### Tool results -/

/-- The restart of discovery that the outcome of a Deep step has left. -/
def restartDiscovery (restart : PendingDiscoveryRestart) : Ext Reply := do
  let s ← get
  match s.activeWorkflow with
  | some workflow =>
      if s.session.uiState.stage ≠ .workflow .lightDiscovery ∨
          s.session.currentGrillRound.map (·.roundId) ≠ some restart.identity.sourceRoundId then
        return .done
      if !(← requireGrillToolBoundary host) then
        return .done
      let invocation ← restartLightDiscoveryAndGrill host files workflow
      modify fun s => { s with
        pendingSettledDiscoveryInvocation :=
          match s.activeWorkflow, s.session.currentGrillRound with
          | some workflow, some round => some ⟨workflow, invocation, round.roundId⟩
          | _, _ => s.pendingSettledDiscoveryInvocation }
      return .done
  | none => return .done

def toolResult (toolCallId toolName : String) (isError : Option Bool) : Ext Reply := do
  let s ← get
  match s.pendingDiscoveryRestart with
  | some restart =>
      if toolCallId ≠ restart.toolCallId ∨ toolName ≠ restart.toolName then
        return .done
      modify fun s => { s with pendingDiscoveryRestart := none }
      if isError ≠ some false ∨ host.sendUserMessage = false then
        return .done
      restartDiscovery host files restart
  | none => return .done

/-! ### The three timers -/

/-- Each pending invocation gets its timer, unless the one before it has not fired yet. -/
def agentSettled : Ext Reply := do
  modify fun s =>
    if s.pendingSettledDiscoveryInvocation ≠ none ∧ s.pendingSettledDiscoveryInvocationTimer = none then
      { s with
        pendingSettledDiscoveryInvocationTimer := s.pendingSettledDiscoveryInvocation
        pendingSettledDiscoveryInvocation := none }
    else s
  modify fun s =>
    if s.pendingSettledBuildInvocation ≠ none ∧ s.pendingSettledBuildInvocationTimer = none then
      { s with
        pendingSettledBuildInvocationTimer := s.pendingSettledBuildInvocation
        pendingSettledBuildInvocation := none }
    else s
  modify fun s =>
    if s.pendingSettledDeepInvocation ≠ none ∧ s.pendingSettledDeepInvocationTimer = none then
      { s with
        pendingSettledDeepInvocationTimer := s.pendingSettledDeepInvocation
        pendingSettledDeepInvocation := none }
    else s
  return .done

/-- The active workflow is still the object that was kept. -/
def IsActiveWorkflow (s : ExtensionState) (workflow : ActiveWorkflowContext) : Prop :=
  s.activeWorkflow.map (·.ref) = some workflow.ref

instance (s : ExtensionState) (workflow : ActiveWorkflowContext) :
    Decidable (IsActiveWorkflow s workflow) :=
  inferInstanceAs (Decidable (_ = _))

/-- Send an invocation and wait for it to come back as an input. -/
def sendSettled (invocation : String) : Ext Reply := do
  modify fun s => { s with pendingReplayInvocation := some invocation }
  sendUserMessage invocation
  return .done

/-- The tool that ends a phase. -/
def DeepAttemptPhase.tool : DeepAttemptPhase → String
  | .deepKnowledgeRetrieval => "forge_deep_retrieval_complete"
  | .knowledgeUnderstanding => "forge_deep_complete"

/-- The tool is active, as far as the host says which tools are. -/
def IsActiveTool (s : ExtensionState) (tool : String) : Prop :=
  host.getActiveTools = true ∧ tool ∈ s.activeTools

instance (s : ExtensionState) (tool : String) : Decidable (IsActiveTool host s tool) :=
  inferInstanceAs (Decidable (_ ∧ _))

def discoveryTimer : Ext Reply := do
  let some pending := (← get).pendingSettledDiscoveryInvocationTimer | return .done
  modify fun s => { s with pendingSettledDiscoveryInvocationTimer := none }
  let s ← get
  if IsActiveWorkflow s pending.activeWorkflow ∧ AtStage s .grill ∧
      s.session.currentGrillRound.map (·.roundId) = some pending.sourceRoundId ∧
      HasActiveGrillAttempt s ∧ canEnforceToolBoundary host = true ∧ host.sendUserMessage = true then
    sendSettled pending.invocation
  else
    return .done

def buildTimer : Ext Reply := do
  let some pending := (← get).pendingSettledBuildInvocationTimer | return .done
  modify fun s => { s with pendingSettledBuildInvocationTimer := none }
  let s ← get
  if IsActiveWorkflow s pending.activeWorkflow ∧ AtStage s pending.stage.stage ∧
      buildAttempt? s.session pending.stage = some pending.identity ∧
      IsActiveTool host s pending.stage.tool ∧ host.sendUserMessage = true then
    rememberSentContextBuildInvocation pending
    sendSettled pending.invocation
  else
    return .done

def deepTimer : Ext Reply := do
  let some pending := (← get).pendingSettledDeepInvocationTimer | return .done
  modify fun s => { s with pendingSettledDeepInvocationTimer := none }
  let s ← get
  if IsActiveWorkflow s pending.activeWorkflow ∧ s.session.deepAttempt = some pending.identity ∧
      HasActiveDeepAttempt s ∧ IsActiveTool host s (DeepAttemptPhase.tool pending.identity.phase) ∧
      host.sendUserMessage = true then
    sendSettled pending.invocation
  else
    return .done

/-! ### The gate -/

/-- The tool that the stage expects. -/
def expectedBuildTool (stage : UiStage) : Option String :=
  match stage with
  | .workflow .contextBuild => some "forge_context_complete"
  | .workflow .adrBuild => some "forge_adr_complete"
  | _ => none

/-- `tool_call`: is the call blocked? -/
def toolCallBlocks (s : ExtensionState) (toolName : String) : Bool :=
  if toolName ∈ grillToolNames then
    decide (¬ HasActiveGrillAttempt s)
  else if toolName ∈ deepRetrievalToolNames ∨ toolName ∈ deepUnderstandingToolNames then
    decide (¬ (truthy s.pendingReplayInvocation = none ∧ s.pendingSettledDeepInvocation = none ∧
      HasActiveDeepAttempt s))
  else if toolName ∈ contextBuildToolNames ∨ toolName ∈ adrBuildToolNames then
    decide (¬ (truthy s.pendingReplayInvocation = none ∧ s.pendingSettledBuildInvocation = none ∧
      HasActiveBuildAttempt s ∧ some toolName = expectedBuildTool s.session.uiState.stage))
  else
    decide (¬ (s.pendingGrillRun = false ∧ ¬ HasActiveDeepAttempt s ∧ ¬ HasActiveBuildAttempt s ∧
      ¬ AtStage s .waitUser))

def toolCall (toolName : String) : Ext Reply := do
  return .gate (toolCallBlocks (← get) toolName)

/-! ### Inputs -/

/-- The answer that an input gives: an option, the recommendation, or the text itself. -/
def inputAnswer (waitUser : Option WaitUserState) (routingText : String) : String :=
  let normalized := host.toLowerCase routingText
  let options := (waitUser.map (·.options)).getD []
  match options.find? fun option => host.toLowerCase (trim option) = normalized with
  | some option => option
  | none =>
      match truthy (waitUser.map (·.recommendation)) with
      | some recommendation =>
          if isApproval host routingText = true ∨ host.toLowerCase (trim recommendation) = normalized then
            recommendation
          else routingText
      | none => routingText

/-- An input that becomes an invocation, or is used up. -/
def transformOrHandled (invocation : Option String) : Reply :=
  match truthy invocation with
  | some invocation => .transform invocation
  | none => .handled

/-- An input while a decision is pending. -/
def answerInput (routingText : String) (ctx : CommandContext) : Ext Reply := do
  if !(← requireGrillToolBoundary host) then
    return .handled
  let s ← get
  let answer := inputAnswer host s.session.uiState.waitUser routingText
  if ← resumeBuildAnswer host files answer then
    let pendingBuild := (← get).pendingSettledBuildInvocation
    modify fun s => { s with pendingSettledBuildInvocation := none }
    match pendingBuild with
    | some pending =>
        rememberSentContextBuildInvocation pending
        return .transform pending.invocation
    | none => return .handled
  if (pendingDeepQuestion? s).isSome then
    if !(← requireDeepToolBoundary host) then
      return .handled
  match ← prepareDeepKnowledgeAnswer host answer with
  | .handled state invocation =>
      publishState state
      return transformOrHandled invocation
  | .notDeep =>
      return transformOrHandled (← resumeGrillWithAnswer host files answer ctx)

/-- A workflow starts, or the user is asked to go on without the missing knowledge. -/
def startFromInput (canonicalRequest : String) (rootDir : Option String) : Ext Reply := do
  let some rootDir := rootDir
    | do
      notify "Forge 缺少明確的 project root（ctx.cwd），已拒絕啟動 workflow。"
      return .handled
  if !(← requireGrillToolBoundary host) then
    return .handled
  modify fun s => { s with explorationConsentGranted := false }
  if files.missingAssets rootDir ≠ [] then
    modify fun s => { s with
      pendingKnowledgeRequest := some ⟨files.missingAssets rootDir, canonicalRequest, rootDir⟩ }
    notify ("目前缺少 " ++ join " / " (files.missingAssets rootDir) ++
      "。若接受在沒有完整知識庫或代碼庫的情況下繼續，請明確回覆同意。")
    return .handled
  return .transform (← startWorkflow host files canonicalRequest rootDir)

/-- An input while the user is asked to go on without the missing knowledge. -/
def answerKnowledgeRequest (request : KnowledgeRequest) (routingText : String) : Ext Reply := do
  if isApproval host routingText = false then
    notify ("目前缺少 " ++ join " / " request.missingAssets ++
      "；若要在無完整參考基底下繼續，請明確回覆同意。")
    return .handled
  if !(← requireGrillToolBoundary host) then
    return .handled
  modify fun s => { s with
    pendingKnowledgeRequest := none
    explorationConsentGranted := true }
  return .transform (← startWorkflow host files request.request request.rootDir)

def grillRunCommand : String := "/grill-run"

def isGrillRun (routingText : String) : Bool :=
  routingText == grillRunCommand || startsWith routingText (grillRunCommand ++ " ")

/-- The text behind a prefix, trimmed. -/
def textAfter (pre text : String) : String := trim (String.ofList (text.toList.drop pre.toList.length))

def projectRoot (ctx : CommandContext) : Option String := ctx.cwd.filter fun cwd => ¬ Blank cwd

/-- An input outside a question: it starts a workflow, at once or when the model says so. -/
def requestInput (rawText routingText : String) (ctx : CommandContext) : Ext Reply := do
  if (← get).session.uiState.stage ≠ .workflow .receive then
    notify "Forge 已有進行中的 workflow。請用 /forge-runtime continue、/forge-runtime cancel，或 /forge-runtime switch <request>。"
    return .handled
  if isGrillRun routingText then
    startFromInput host files (textAfter grillRunCommand routingText) (projectRoot ctx)
  else if Blank rawText then
    return .continue_
  else
    modify fun s => { s with suspended := s.suspended ++ [.intent rawText (projectRoot ctx) ctx] }
    return .waiting

/-- The invocation that was waited for comes back as an input: its tools are activated. -/
def replayInput : Ext Reply := do
  let phase : Option DeepAttemptPhase := (← get).session.deepAttempt.map (·.phase)
  match phase with
  | some .deepKnowledgeRetrieval => activateDeepRetrievalTools host
  | some .knowledgeUnderstanding => activateDeepUnderstandingTools host
  | none => return .continue_
  return .continue_

def input (rawText : String) (ctx : CommandContext) : Ext Reply := do
  let s ← get
  let routingText := trim rawText
  if s.pendingReplayInvocation = some routingText then
    return ← replayInput host
  if startsWith routingText "/" = true ∧ isGrillRun routingText = false then
    return .continue_
  match s.pendingKnowledgeRequest with
  | some request => answerKnowledgeRequest host files request routingText
  | none =>
      if AtStage s .waitUser then
        answerInput host files routingText ctx
      else
        requestInput host files rawText routingText ctx

end Extension

end ForgeRuntime
