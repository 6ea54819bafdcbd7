import ForgeRuntime.Extension.State

/-!
# The shared actions of the extension

The calls of the session object, each of which is noted in `calls`; the five `activate…Tools` functions and
their counterpart `restoreActiveTools`; the tests that the gates use; and `publishWaitUser`, which puts a
pending decision before the user and leaves a selector open.
-/

namespace ForgeRuntime

open EventDriven EventDriven.Text

namespace Extension

/-! ### Calls of the session -/

/-- Run an operation of the session and note it. -/
def call {α : Type} (op : SessionOp) (run : Session α) : Ext α := fun s =>
  ((run s.session).1, { s with session := (run s.session).2, calls := s.calls ++ [op] })

namespace sessionState

def beginGrill (decisionSummary : Option String) : Ext ForgeUiState :=
  call (.beginGrill decisionSummary) (Session.beginGrill decisionSummary)

def beginIntent (decisionSummary : Option String) : Ext ForgeUiState :=
  call (.beginIntent decisionSummary) (Session.beginIntent decisionSummary)

def beginLightDiscovery (decisionSummary : Option String) : Ext ForgeUiState :=
  call (.beginLightDiscovery decisionSummary) (Session.beginLightDiscovery decisionSummary)

def beginDeepKnowledge (decisionSummary : Option String) (phase : DeepAttemptPhase) : Ext ForgeUiState :=
  call (.beginDeepKnowledge decisionSummary phase) (Session.beginDeepKnowledge decisionSummary phase)

def cancelDeepKnowledge : Ext ForgeUiState := call .cancelDeepKnowledge Session.cancelDeepKnowledge

def retryDeepKnowledge (decisionSummary : Option String) : Ext ForgeUiState :=
  call (.retryDeepKnowledge decisionSummary) (Session.retryDeepKnowledge decisionSummary)

def completeDeepRetrieval (inheritedEvidence : List EvidenceInput) (identity : DeepAttemptIdentity) :
    Ext DeepCallResult :=
  call (.completeDeepRetrieval inheritedEvidence none identity)
    (Session.completeDeepRetrieval inheritedEvidence none identity)

def completeContextBuild (identity : ContextBuildIdentity) (completion : ContextBuildCompletion) :
    Ext ContextBuildCallResult :=
  call (.completeContextBuild identity completion) (Session.completeContextBuild identity completion)

def confirm : Ext ForgeUiState := call .confirm Session.confirm

def retryGrillRound : Ext (Option GrillRound) := call .retryGrillRound Session.retryGrillRound

def handleDeepResult (identity : DeepAttemptIdentity) (result : DeepResult) : Ext DeepCallResult :=
  call (.handleDeepResult identity result) (Session.handleDeepResult identity result)

def recordCompletionOmission : Ext Bool :=
  call .recordCompletionOmission Session.recordCompletionOmission

def recordDeepSupplementalEvidence (identity : DeepAttemptIdentity) (evidence : EvidenceInput) :
    Ext DeepCallResult :=
  call (.recordDeepSupplementalEvidence identity evidence.evidenceId (some evidence))
    (Session.recordDeepSupplementalEvidence identity evidence.evidenceId (some evidence))

def reserveDeepSearchBudget (identity : DeepAttemptIdentity) : Ext BudgetAnswer :=
  call (.reserveDeepSearchBudget identity) (Session.reserveDeepSearchBudget identity)

def commitDeepSearchBudget (identity : DeepAttemptIdentity) : Ext BudgetAnswer :=
  call (.commitDeepSearchBudget identity) (Session.commitDeepSearchBudget identity)

def releaseDeepSearchBudget (identity : DeepAttemptIdentity) : Ext BudgetAnswer :=
  call (.releaseDeepSearchBudget identity) (Session.releaseDeepSearchBudget identity)

def recordEvidenceFetch (candidateId : String) : Ext Unit :=
  call (.recordEvidenceFetch candidateId) (Session.recordEvidenceFetch candidateId)

def recordAnswer (host : Host) (answer : String) : Ext ForgeUiState :=
  call (.recordAnswer answer) (Session.recordAnswer host.digest answer)

def prepareAdrBuild (identity : AdrBuildIdentity) (candidate : AdrBuildCandidate) :
    Ext AdrBuildCallResult :=
  call (.prepareAdrBuild identity candidate) (Session.prepareAdrBuild identity candidate)

def requireAdrDecision (identity : AdrBuildIdentity) (ambiguity : ContextAmbiguity) :
    Ext AdrBuildCallResult :=
  call (.requireAdrDecision identity ambiguity) (Session.requireAdrDecision identity ambiguity)

def finalizeAdrBuild (identity : AdrBuildIdentity) (commit : CommitDocumentsResult) :
    Ext AdrBuildCallResult :=
  call (.finalizeAdrBuild identity commit) (Session.finalizeAdrBuild identity commit)

def reset : Ext ForgeUiState := call .reset Session.reset

def reject (selection : Option String) : Ext ForgeUiState :=
  call (.reject selection) (Session.reject selection)

def requireWaitUser (payload : WaitUserPayload) : Ext ForgeUiState :=
  call (.requireWaitUser payload) (Session.requireWaitUser payload)

def startGrillRound (request : String) (snapshot : GrillEvidenceSnapshot) : Ext GrillRound :=
  call (.startGrillRound request snapshot) (Session.startGrillRound request snapshot)

/-- `continueGrillRound`, which only reads. -/
def continueGrillRound : Ext GrillRound := do
  let some round := (← get).session.currentGrillRound | throw "No active Grill round to continue"
  return round

end sessionState

/-! ### Effects -/

def emit (effect : Effect) : Ext Unit := modify fun s => { s with effects := s.effects ++ [effect] }

def notify (message : String) : Ext Unit := emit (.notify message)

def publishState (state : ForgeUiState) : Ext Unit := emit (.status state)

def sendUserMessage (content : String) : Ext Unit := emit (.sendUserMessage content)

/-! ### Boundaries -/

/-- `canEnforceToolBoundary`. -/
def canEnforceToolBoundary (host : Host) : Bool :=
  host.registerTool && host.getActiveTools && host.setActiveTools && host.on

/-- A boundary that is demanded before an action, with the notice when it cannot be enforced. -/
def requireBoundary (enforceable : Bool) (notice : String) : Ext Bool := do
  if enforceable then
    return true
  notify notice
  return false

def requireGrillToolBoundary (host : Host) : Ext Bool :=
  requireBoundary (canEnforceToolBoundary host) "Forge 無法安全限制 Grill 工具面，已拒絕啟動或重播 Grill。"

def requireDeepToolBoundary (host : Host) : Ext Bool :=
  requireBoundary (canEnforceToolBoundary host && host.sendUserMessage)
    "Forge 無法安全限制 Deep 工具面，已拒絕進入 Deep。"

def requireBuildToolBoundary (host : Host) : Ext Bool :=
  requireBoundary (canEnforceToolBoundary host && host.sendUserMessage)
    "Forge 無法安全限制 Context/ADR 工具面，已拒絕繼續。"

/-! ### Active tools -/

def grillToolNames : List String := ["forge_grill_evidence", "forge_grill_complete"]

def deepRetrievalToolNames : List String := ["forge_deep_search", "forge_deep_retrieval_complete"]

def deepUnderstandingToolNames : List String := ["forge_deep_complete"]

def contextBuildToolNames : List String := ["forge_context_complete"]

def adrBuildToolNames : List String := ["forge_adr_complete"]

/-- `savedActiveTools ??= pi.getActiveTools?.()`. -/
def saveActiveTools (host : Host) : Ext Unit :=
  modify fun s => { s with
    savedActiveTools :=
      s.savedActiveTools <|> if host.getActiveTools then some s.activeTools else none }

/-- `pi.setActiveTools?.(tools)`. -/
def setActiveTools (host : Host) (tools : List String) : Ext Unit :=
  modify fun s => { s with activeTools := if host.setActiveTools then tools else s.activeTools }

def activateGrillTools (host : Host) : Ext Unit := do
  saveActiveTools host
  setActiveTools host grillToolNames

def activateDeepRetrievalTools (host : Host) : Ext Unit := do
  saveActiveTools host
  modify fun s => { s with pendingGrillRun := false }
  setActiveTools host deepRetrievalToolNames

/-- Unlike its siblings, this one saves nothing. -/
def activateDeepUnderstandingTools (host : Host) : Ext Unit :=
  setActiveTools host deepUnderstandingToolNames

def activateContextBuildTools (host : Host) : Ext Unit := do
  saveActiveTools host
  setActiveTools host contextBuildToolNames

def activateAdrBuildTools (host : Host) : Ext Unit := do
  saveActiveTools host
  setActiveTools host adrBuildToolNames

def restoreActiveTools (host : Host) : Ext Unit := do
  let some saved := (← get).savedActiveTools | return
  setActiveTools host saved
  modify fun s => { s with savedActiveTools := none }

def releaseGrillBoundary (host : Host) : Ext Unit := do
  modify fun s => { s with pendingGrillRun := false }
  restoreActiveTools host

/-! ### Forgetting -/

def rememberSentContextBuildInvocation (pending : PendingSettledBuildInvocation) : Ext Unit := do
  if pending.stage ≠ .contextBuild then
    return
  modify fun s => { s with
    replayedContextBuildIdentity :=
      if s.lastSentContextBuildInvocation.map (·.identity) = some pending.identity then
        s.replayedContextBuildIdentity
      else none
    lastSentContextBuildInvocation := some pending }

def clearPendingState : Ext Unit :=
  modify fun s => { s with
    pendingGrillRun := false
    pendingKnowledgeRequest := none
    pendingReplayInvocation := none
    pendingSettledDeepInvocation := none
    pendingSettledDeepInvocationTimer := none
    pendingSettledDiscoveryInvocation := none
    pendingSettledDiscoveryInvocationTimer := none
    pendingSettledBuildInvocation := none
    lastSentContextBuildInvocation := none
    replayedContextBuildIdentity := none
    pendingSettledBuildInvocationTimer := none
    documentsBaseHash := none
    pendingDiscoveryRestart := none
    activeWaitUserUiLeaseKey := none }

def clearFallbackWorkflowState : Ext Unit :=
  modify fun s => { s with
    fetchedGrillEvidence := .empty
    fetchedDeepSupplementalEvidence := .empty
    acceptedNeedsDiscoverySourceRoundIds := []
    fallbackHumanPremise := none
    fallbackHumanDecisionId := none }

/-! ### Tests -/

/-- `sessionState.current().stage === stage`. -/
def AtStage (s : ExtensionState) (stage : WorkflowStage) : Prop :=
  s.session.uiState.stage = .workflow stage

instance (s : ExtensionState) (stage : WorkflowStage) : Decidable (AtStage s stage) :=
  inferInstanceAs (Decidable (_ = _))

def HasActiveDeepAttempt (s : ExtensionState) : Prop :=
  s.session.deepAttempt ≠ none ∧
    (AtStage s .deepKnowledgeRetrieval ∨ AtStage s .knowledgeUnderstanding)

instance (s : ExtensionState) : Decidable (HasActiveDeepAttempt s) :=
  inferInstanceAs (Decidable (_ ∧ _))

def HasActiveBuildAttempt (s : ExtensionState) : Prop :=
  (AtStage s .contextBuild ∧ s.session.contextBuildAttempt ≠ none) ∨
    (AtStage s .adrBuild ∧ s.session.adrBuildAttempt ≠ none)

instance (s : ExtensionState) : Decidable (HasActiveBuildAttempt s) :=
  inferInstanceAs (Decidable (_ ∨ _))

def HasActiveGrillAttempt (s : ExtensionState) : Prop := s.pendingGrillRun = true ∧ AtStage s .grill

instance (s : ExtensionState) : Decidable (HasActiveGrillAttempt s) :=
  inferInstanceAs (Decidable (_ ∧ _))

/-- The decisions that were made after the package. -/
def getUnpackagedHumanDecisions (session : SessionState) (package : EvidencePackage) :
    List EvidenceDecision :=
  session.humanDecisions.values.filter fun decision =>
    decide (decision.decisionId ∉ package.decisions.map (·.decisionId))

/-- Some of the cited IDs is not known. -/
def HasUnknownEvidenceIds (ids known : List String) : Prop := ∃ id ∈ ids, id ∉ known

instance (ids known : List String) : Decidable (HasUnknownEvidenceIds ids known) :=
  inferInstanceAs (Decidable (∃ id ∈ ids, id ∉ known))

/-- A text that the source language takes for true. -/
def truthy (text : Option String) : Option String := text.filter (· ≠ "")

/-! ### Asking the user -/

def runtimeOwnedInputLabel : String := "自行輸入…"

def releaseUiLease (leaseKey : DecisionKey) : Ext Unit :=
  modify fun s => { s with
    activeWaitUserUiLeaseKey :=
      if s.activeWaitUserUiLeaseKey = some leaseKey then none else s.activeWaitUserUiLeaseKey }

/-- Open a selector for the decision and wait for it. -/
def openSelector (ui : OpenUi) : Ext Unit := do
  emit (.select ui.decision.question (ui.decision.options ++ [runtimeOwnedInputLabel]))
  modify fun s => { s with suspended := s.suspended ++ [.ui ui] }

/-- `handleWaitUserState` up to its selector, with the `finally` of its caller when there is none.  It
answers whether a selector is open. -/
def handleWaitUserState (ctx : CommandContext) (state : ForgeUiState) (leaseKey : DecisionKey)
    (reply : Option ToolResult) (catches : Bool) : Ext Bool := do
  publishState state
  match state.waitUser with
  | some decision =>
      if ctx.select then
        openSelector
          { decision := decision
            leaseKey := leaseKey
            ctx := ctx
            editing := false
            reply := reply
            catches := catches }
        return true
      else
        releaseUiLease leaseKey
        return false
  | none =>
      releaseUiLease leaseKey
      return false

/-- `publishWaitUser`: show the decision that is pending, or ask the one of the payload.  `reply` and
`catches` are kept for the caller that waits. -/
def publishWaitUser (ctx : CommandContext) (payload : WaitUserPayload) (reply : Option ToolResult)
    (catches : Bool) : Ext Bool := do
  let decisionKey := waitUserDecisionKey payload.toWaitUserState
  let s ← get
  match s.session.uiState.stage, s.session.uiState.waitUser with
  | .workflow .waitUser, some waitUser =>
      if decisionKey ≠ waitUserDecisionKey waitUser then
        return false
      if s.activeWaitUserUiLeaseKey = some decisionKey then
        return false
      modify fun s => { s with activeWaitUserUiLeaseKey := some decisionKey }
      handleWaitUserState ctx s.session.uiState decisionKey reply catches
  | _, _ =>
      modify fun s => { s with activeWaitUserUiLeaseKey := some decisionKey }
      let state ← tryCatch (sessionState.requireWaitUser payload) fun error => do
        releaseUiLease decisionKey
        throw error
      handleWaitUserState ctx state decisionKey reply catches

end Extension

end ForgeRuntime
