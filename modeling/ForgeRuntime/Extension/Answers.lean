import ForgeRuntime.Extension.Actions
import ForgeRuntime.Extension.Discovery
import Mathlib.Data.List.Sort

/-!
# Answers and the entries into the stages

How an answer to a pending decision takes the work on: `resumeWaitUserAnswer` tries the build questions, the
Deep questions and the Grill questions in turn.  With it stand the three ways of entering a stage that
several handlers share: `continueDeepKnowledge`, `restartLightDiscoveryAndGrill` and the start of a workflow,
and `cancelWorkflow`, which leaves all of them.
-/

namespace ForgeRuntime

open EventDriven EventDriven.Text

namespace Extension

variable (host : Host) (files : Files)

/-! ### Texts -/

def approvals : List String := ["好", "可以", "同意", "照做", "yes", "ok", "okay", "y"]

def isApproval (text : String) : Bool := approvals.contains (host.toLowerCase (trim text))

def emptySnapshotExploratoryConsentId : String := "forge-empty-snapshot-exploratory-consent"

def deepResultGuidance : String :=
  join "\n"
    [ "needs_decision 僅用於需要人類選擇。",
      "needs_discovery 僅用於來源或證據不足。",
      "正式 route 只依 kind；不得用 decisionSummary 自由文字判斷 route。" ]

/-- The path of a candidate below its tree. -/
def relativePath? (metadata : Metadata) : Option String :=
  match metadata.lookup "relativePath" with
  | some (.text path) => some path
  | _ => none

/-- The UTF-16 code units of a character. -/
def codeUnits (c : Char) : List Nat :=
  if c.toNat < 0x10000 then [c.toNat]
  else [0xD800 + (c.toNat - 0x10000) / 0x400, 0xDC00 + (c.toNat - 0x10000) % 0x400]

/-- Lexicographic order, by the units of the two texts. -/
def unitsLe : List Nat → List Nat → Bool
  | [], _ => true
  | _ :: _, [] => false
  | a :: as, b :: bs => a < b || (a == b && unitsLe as bs)

/-- `[...new Set(texts)].sort()`. -/
def sortedTexts (texts : List String) : List String :=
  (OrderedSet.ofList texts).elems.insertionSort fun a b =>
    unitsLe (a.toList.flatMap codeUnits) (b.toList.flatMap codeUnits) = true

/-- The target files of a workflow. -/
def targetSources (workflow : ActiveWorkflowContext) : List String :=
  sortedTexts ((workflow.snapshot.candidates.values.filter fun candidate => candidate.kind = .target).map
    fun candidate => (relativePath? candidate.metadata).getD candidate.source)

def identityJson (identity : DeepAttemptIdentity) : Json String :=
  .object [("attemptId", .text identity.attemptId), ("sourceRoundId", .text identity.sourceRoundId),
    ("phase", .text identity.phase.text)]

/-- The identity as it stands in a text that continues a Deep step. -/
def identityText (identity : DeepAttemptIdentity) : String :=
  "attemptId=" ++ identity.attemptId ++ " sourceRoundId=" ++ identity.sourceRoundId ++ " phase=" ++
    identity.phase.text

def continueDeepInvocation (identity : DeepAttemptIdentity) : String :=
  "請繼續 Forge Deep " ++ identity.phase.text ++ "。" ++ identityText identity

def answeredDeepInvocation (answer : String) (identity : DeepAttemptIdentity) : String :=
  "請依使用者決定 " ++ quote answer ++ " 繼續 Forge Deep " ++ identity.phase.text ++ "。" ++
    identityText identity

def startDeepInvocation (workflow : Option ActiveWorkflowContext) (identity : DeepAttemptIdentity) : String :=
  "Deep Knowledge 已開始。\n" ++ deepResultGuidance ++ "\nTarget source manifest：" ++
    Json.compact (.texts ((workflow.map targetSources).getD [])) ++
    "\n請繼續執行搜尋，並在每次工具呼叫中原樣帶入 runtime-issued identity：" ++
    Json.compact (identityJson identity)

/-! ### Skill files -/

/-- `buildGrillingSkillInvocation`, which reads its skill file. -/
def grillingInvocation (request roundId : String) (manifest : List GrillEvidenceManifestEntry) :
    Ext String := do
  match files.grillingSkill with
  | .ok file => return buildGrillingSkillInvocation host.skillsDir file request roundId manifest
  | .error e => throw e

/-- `buildContextBuildSkillInvocation`, which reads its skill file. -/
def buildInvocation (request : BuildSkillInvocationRequest) : Ext String := do
  match files.contextBuildSkill with
  | .ok file =>
      emit (.skillInvocation request)
      return buildContextBuildSkillInvocation host.skillsDir file request
  | .error e => throw e

/-! ### Leaving a workflow -/

def cancelWorkflow : Ext Unit := do
  modify fun s => { s with explorationConsentGranted := false }
  let current : ForgeUiState := (← get).session.uiState
  let pendingKind : Option WaitUserKind := current.waitUser.map (·.kind)
  modify fun s => { s with pendingConvergenceRoundId := none }
  clearPendingState
  clearFallbackWorkflowState
  restoreActiveTools host
  if current.stage = .workflow .waitUser ∧ pendingKind = some .deepDiscoveryFallback then
    modify fun s => { s with pendingGrillRun := false, activeWorkflow := none }
    publishState (← sessionState.reset)
  else if current.stage = .workflow .deepKnowledgeRetrieval ∨
      current.stage = .workflow .knowledgeUnderstanding ∨
      (current.stage = .workflow .waitUser ∧ pendingKind = some .deepDecision) then
    modify fun s => { s with pendingGrillRun := false }
    publishState (← sessionState.cancelDeepKnowledge)
  else
    modify fun s => { s with activeWorkflow := none }
    publishState (← sessionState.reset)

/-! ### Entering Deep Knowledge -/

/-- How `continueDeepKnowledge` ends: it asks about the relevance, it refuses, it hands the invocation to
its caller, or it is sending the invocation. -/
inductive DeepEntry where
  | asked (opened : Bool)
  | refused
  | entered (invocation : String)
  | sending
deriving DecidableEq, Repr

inductive DeliveryMode where
  | settled
  | followUp
deriving DecidableEq, Repr

/-- The question about the relevance of the candidates. -/
def relevanceQuestion (round : GrillRound) (evidenceIds : List String) (reason : String) :
    WaitUserPayload :=
  { kind := .relevanceClarification
    roundId := round.roundId
    decisionId := round.roundId
    decisionSummary := some reason
    evidenceIds := evidenceIds
    options := ["補充可信來源", "縮小需求範圍"]
    question := reason ++ "\n請選擇補充可信來源或縮小需求範圍。"
    recommendation := "縮小需求範圍" }

def continueDeepKnowledge (ctx : CommandContext) (decisionSummary : Option String)
    (onProceedToDeepKnowledge : Ext Unit) (deliveryMode : DeliveryMode) (bypassRelevance : Bool)
    (reply : Option ToolResult) : Ext DeepEntry := do
  let s ← get
  let relevance := evaluateCandidateRelevance ((s.activeWorkflow.map (·.codeBaseCandidates)).getD [])
  if s.activeWorkflow ≠ none ∧ bypassRelevance = false ∧ relevance.decision ≠ .proceedDeep then
    let round ← sessionState.continueGrillRound
    let payload := relevanceQuestion round s.session.fetchedEvidenceIds.elems relevance.reason
    return .asked (← publishWaitUser ctx payload reply false)
  if !(← requireDeepToolBoundary host) then
    return .refused
  let nextState ← sessionState.beginDeepKnowledge decisionSummary .deepKnowledgeRetrieval
  publishState nextState
  let some deepAttempt := (← get).session.deepAttempt | throw "Deep Knowledge attempt 未建立"
  let invocation := startDeepInvocation s.activeWorkflow deepAttempt
  onProceedToDeepKnowledge
  match deliveryMode with
  | .settled => return .entered invocation
  | .followUp =>
      modify fun s => { s with pendingReplayInvocation := some invocation }
      sendUserMessage invocation
      return .sending

/-- The invocation that a Deep entry hands to its caller. -/
def DeepEntry.invocation? : DeepEntry → Option String
  | .entered invocation => some invocation
  | _ => none

/-! ### Entering Light Discovery and Grill -/

/-- Discover, start a round on the new snapshot, and make a new object the active workflow. -/
def discoverAndGrill (goal rootDir : String) : Ext (GrillRound × GrillCompatibleDiscovery) := do
  let discovery :=
    buildGrillCompatibleDiscovery host files rootDir (files.runLightDiscovery rootDir goal) goal
  let ref := (← get).nextRef
  let round ← sessionState.startGrillRound goal ⟨ref, discovery.candidates, discovery.manifest⟩
  modify fun s => { s with
    activeWorkflow := some
      { ref := ref
        goal := goal
        codeBaseCandidates := discovery.codeBaseCandidates
        rootDir := rootDir
        snapshot := round.snapshot }
    nextRef := ref + 1 }
  return (round, discovery)

def restartLightDiscoveryAndGrill (workflow : ActiveWorkflowContext) : Ext String := do
  publishState (← sessionState.beginLightDiscovery (some workflow.goal))
  let (round, discovery) ← discoverAndGrill host files workflow.goal workflow.rootDir
  modify fun s => { s with pendingGrillRun := true }
  activateGrillTools host
  publishState (← sessionState.beginGrill (some workflow.goal))
  grillingInvocation host files
    (join "\n\n" ([workflow.goal, discovery.summary].filter (· ≠ ""))) round.roundId round.snapshot.manifest

/-- The start of a workflow, from the intent on; it answers with the first invocation. -/
def startWorkflow (request rootDir : String) : Ext String := do
  clearFallbackWorkflowState
  publishState (← sessionState.beginIntent (some request))
  publishState (← sessionState.beginLightDiscovery (some request))
  modify fun s => { s with pendingGrillRun := true }
  let (round, discovery) ← discoverAndGrill host files request rootDir
  activateGrillTools host
  publishState (← sessionState.beginGrill (some request))
  grillingInvocation host files
    (join "\n\n" ([request, discovery.summary].filter (· ≠ ""))) round.roundId discovery.manifest

/-! ### Answers to Grill questions -/

/-- The answer to the question whether to explore on an empty snapshot. -/
def answerExploratoryConsent (answer : String) (ctx : CommandContext) : Ext (Option String) := do
  if isApproval host answer = false then
    modify fun s => { s with pendingGrillRun := true }
    activateGrillTools host
    publishState (← get).session.uiState
    notify "請先明確同意探索性開發，或保留目前等待狀態。"
    return none
  let answeredState ← sessionState.recordAnswer host answer
  modify fun s => { s with explorationConsentGranted := true }
  let enteredDeep ← continueDeepKnowledge host ctx answeredState.decisionSummary
    (activateDeepRetrievalTools host) .settled true none
  publishState (← get).session.uiState
  return enteredDeep.invocation?

/-- The answer to the last question of a convergence round. -/
def answerConvergence (answer : String) (ctx : CommandContext) : Ext (Option String) := do
  let answeredState ← sessionState.recordAnswer host answer
  if answeredState.stage ≠ .workflow .grill ∨ answeredState.waitUser ≠ none then
    publishState answeredState
    return none
  modify fun s => { s with pendingConvergenceRoundId := none }
  let enteredDeep ← continueDeepKnowledge host ctx answeredState.decisionSummary
    (activateDeepRetrievalTools host) .settled true none
  publishState (← get).session.uiState
  return enteredDeep.invocation?

/-- The answer to a relevance question: the request is narrowed and discovery runs again. -/
def answerRelevance (answer : String) (currentRound : GrillRound) (state : ForgeUiState) :
    Ext (Option String) := do
  modify fun s => { s with activeWaitUserUiLeaseKey := none }
  let some workflow := (← get).activeWorkflow
    | do
      publishState state
      return none
  modify fun s => { s with pendingConvergenceRoundId := none, pendingGrillRun := false }
  restoreActiveTools host
  let clarifiedRequest := join "\n\n" [currentRound.request, answer]
  publishState (← sessionState.beginLightDiscovery (some clarifiedRequest))
  let (nextRound, discovery) ← discoverAndGrill host files clarifiedRequest workflow.rootDir
  modify fun s => { s with pendingGrillRun := true }
  activateGrillTools host
  publishState (← sessionState.beginGrill (some clarifiedRequest))
  return some (← grillingInvocation host files (join "\n\n" [clarifiedRequest, discovery.summary])
    nextRound.roundId nextRound.snapshot.manifest)

def convergenceInstruction : String :=
  "\n\n這是明確收斂 round。只辨識完成 Deep Retrieval 所缺的客觀知識或證據；不得把可採預設值的 implementation detail 當問題。無真正盲點必須提交 READY_FOR_DEEP；有真正盲點時最多提出一題。"

/-- The next round on the same snapshot. -/
def nextGrillRound (currentRound : GrillRound) (state : ForgeUiState) (isConvergenceSelection : Bool) :
    Ext (Option String) := do
  let nextRound ← sessionState.startGrillRound currentRound.request currentRound.snapshot
  if isConvergenceSelection then
    modify fun s => { s with pendingConvergenceRoundId := some nextRound.roundId }
  modify fun s => { s with pendingGrillRun := true }
  activateGrillTools host
  publishState state
  let request := join "\n\n"
    ([currentRound.request, state.decisionSummary.getD ""].filter (· ≠ ""))
  let instruction := if isConvergenceSelection then convergenceInstruction else ""
  return some (← grillingInvocation host files (request ++ instruction) nextRound.roundId
    nextRound.snapshot.manifest)

/-- The pending question is the one about exploring on an empty snapshot. -/
def AsksExploratoryConsent (s : ExtensionState) (round : GrillRound) : Prop :=
  AtStage s .waitUser ∧
    (∃ waitUser ∈ s.session.uiState.waitUser, waitUser.kind = .grillConfirmation ∧
      waitUser.decisionId = emptySnapshotExploratoryConsentId ∧ waitUser.roundId = round.roundId) ∧
    round.isFirstRoundOfSnapshot = true ∧ round.snapshot.manifest.length = 0

instance (s : ExtensionState) (round : GrillRound) : Decidable (AsksExploratoryConsent s round) :=
  inferInstanceAs (Decidable (_ ∧ _))

/-- The pending question is the one that a convergence round may ask. -/
def AsksInConvergence (s : ExtensionState) : Prop :=
  AtStage s .waitUser ∧ ∃ waitUser ∈ s.session.uiState.waitUser,
    waitUser.kind = .grillConfirmation ∧ s.pendingConvergenceRoundId = some waitUser.roundId

instance (s : ExtensionState) : Decidable (AsksInConvergence s) :=
  inferInstanceAs (Decidable (_ ∧ _))

def resumeGrillWithAnswer (answer : String) (ctx : CommandContext) : Ext (Option String) := do
  let currentRound ← sessionState.continueGrillRound
  let s ← get
  if AsksExploratoryConsent s currentRound then
    return ← answerExploratoryConsent host answer ctx
  let atCheckpoint := s.session.uiState.waitUser.map (·.kind) = some .grillCheckpoint
  if atCheckpoint ∧ trim answer = "cancel" then
    cancelWorkflow host
    return none
  if AsksInConvergence s then
    return ← answerConvergence host answer ctx
  let state ← sessionState.recordAnswer host answer
  if state.stage = .workflow .userConfirmed then
    return ← answerRelevance host files answer currentRound state
  if state.stage ≠ .workflow .grill then
    publishState state
    return none
  nextGrillRound host files currentRound state (atCheckpoint ∧ trim answer = "converge")

/-! ### Answers to Deep questions -/

inductive DeepAnswer where
  | notDeep
  | handled (state : ForgeUiState) (invocation : Option String)
deriving DecidableEq, Repr

/-- The premise that a confirmed fallback leaves. -/
def fallbackPremise (goal question answer : String) (sourceRoundIds : List String) : EvidenceInput :=
  { evidenceId := "human-premise-" ++ host.digest
      (join (String.singleton (Char.ofNat 0)) ([goal, question, answer] ++ sourceRoundIds))
    kind := "human_premise"
    source := "forge://human-premise"
    title := "使用者前提"
    content := join "\n" ["目標：" ++ goal, "問題：" ++ question, "回答：" ++ answer]
    metadata :=
      [("needsDiscoveryCount", .number sourceRoundIds.length), ("sourceRoundIds", .texts sourceRoundIds)] }

/-- After a confirmed fallback: the understanding phase starts on what there is. -/
def beginAfterFallback (answer : String) (answeredState : ForgeUiState) : Ext DeepAnswer := do
  let nextState ← sessionState.beginDeepKnowledge answeredState.decisionSummary .knowledgeUnderstanding
  let some nextAttempt := (← get).session.deepAttempt | return .handled nextState none
  activateDeepUnderstandingTools host
  return .handled nextState (some (answeredDeepInvocation answer nextAttempt))

/-- After an answered Deep decision: the phase that asked starts again. -/
def retryAfterDecision (answer : String) (answeredState : ForgeUiState) : Ext DeepAnswer := do
  let retryState ← sessionState.retryDeepKnowledge answeredState.decisionSummary
  let some retryAttempt := (← get).session.deepAttempt | return .handled retryState none
  match retryAttempt.phase with
  | .deepKnowledgeRetrieval => activateDeepRetrievalTools host
  | .knowledgeUnderstanding => activateDeepUnderstandingTools host
  return .handled retryState (some (answeredDeepInvocation answer retryAttempt))

/-- The question of a Deep step that is pending. -/
def pendingDeepQuestion? (s : ExtensionState) : Option WaitUserState :=
  if AtStage s .waitUser then
    s.session.uiState.waitUser.filter fun waitUser =>
      decide (waitUser.kind = .deepDecision ∨ waitUser.kind = .deepDiscoveryFallback)
  else none

def prepareDeepKnowledgeAnswer (answer : String) : Ext DeepAnswer := do
  let some waitUser := pendingDeepQuestion? (← get) | return .notDeep
  let answeredState ← sessionState.recordAnswer host answer
  if answeredState.stage = .workflow .waitUser then
    return .handled answeredState none
  if waitUser.kind = .deepDiscoveryFallback then
    let s ← get
    let some workflow := s.activeWorkflow | return .handled answeredState none
    modify fun s => { s with
      fallbackHumanDecisionId := some waitUser.decisionId
      fallbackHumanPremise := some (fallbackPremise host workflow.goal waitUser.question answer
        s.acceptedNeedsDiscoverySourceRoundIds) }
  if host.sendUserMessage = false then
    return .handled answeredState none
  if waitUser.kind = .deepDiscoveryFallback then
    beginAfterFallback host answer answeredState
  else
    retryAfterDecision host answer answeredState

/-! ### Answers to build questions -/

/-- The stage whose question is pending. -/
def pendingBuildStage? (s : ExtensionState) : Option BuildStage :=
  if AtStage s .waitUser then
    match s.session.uiState.waitUser with
    | some waitUser =>
        match waitUser.kind with
        | .contextAmbiguity => some .contextBuild
        | .adrAmbiguity => some .adrBuild
        | _ => none
    | none => none
  else none

/-- The identity of the live attempt of a stage. -/
def buildAttempt? (session : SessionState) : BuildStage → Option BuildIdentity
  | .contextBuild => session.contextBuildAttempt.map fun a => ⟨a.attemptId, a.sourceRoundId⟩
  | .adrBuild => session.adrBuildAttempt.map fun a => ⟨a.attemptId, a.sourceRoundId⟩

/-- The invocation of a stage and its tools, after an answer. -/
def reenterBuildStage (stage : BuildStage) (identity : BuildIdentity) (package : EvidencePackage) :
    Ext (Option String) := do
  let s ← get
  let humanDecisions := getUnpackagedHumanDecisions s.session package
  match stage with
  | .contextBuild =>
      let invocation ← buildInvocation host files ⟨.contextBuild, identity, package, none, humanDecisions⟩
      activateContextBuildTools host
      return some invocation
  | .adrBuild =>
      let some contextCandidate := s.session.contextCandidate
        | do
          notify "ADR 回答後缺少 Context candidate，已停止。"
          return none
      let invocation ← buildInvocation host files
        ⟨.adrBuild, identity, package, some contextCandidate, humanDecisions⟩
      activateAdrBuildTools host
      return some invocation

def resumeBuildAnswer (answer : String) : Ext Bool := do
  let some stage := pendingBuildStage? (← get) | return false
  if !(← requireBuildToolBoundary host) then
    return true
  modify fun s => { s with
    pendingSettledBuildInvocation := none
    pendingSettledBuildInvocationTimer := none
    pendingReplayInvocation := none }
  let state ← sessionState.recordAnswer host answer
  publishState state
  if state.stage ≠ .workflow stage.stage then
    return true
  let s ← get
  match s.activeWorkflow, s.session.knowledgeUnderstandingPackage, buildAttempt? s.session stage,
      truthy s.documentsBaseHash with
  | some workflow, some package, some identity, some _ =>
      let invocation ← tryCatch (reenterBuildStage host files stage identity package) fun error => do
        notify ("Context/ADR skill 無法載入：" ++ error)
        return none
      if let some invocation := invocation then
        modify fun s => { s with
          pendingSettledBuildInvocation := some ⟨workflow, invocation, stage, identity⟩ }
      return true
  | _, _, _, _ =>
      notify "Context/ADR 回答後缺少可驗證的執行期輸入，已停止。"
      return true

/-! ### Answers -/

/-- How an answer ends: it is handled, its invocation is being sent, or nobody takes it. -/
inductive Resumption where
  | handled
  | sending
  | notHandled
deriving DecidableEq, Repr

/-- The deep step of an answer, with its invocation kept until the agent has settled. -/
def settleDeepAnswer (state : ForgeUiState) (invocation : Option String) : Ext Unit := do
  publishState state
  if let some invocation := truthy invocation then
    let s ← get
    match s.activeWorkflow, s.session.deepAttempt with
    | some workflow, some attempt =>
        modify fun s => { s with pendingSettledDeepInvocation := some ⟨workflow, invocation, attempt⟩ }
    | _, _ => return

def resumeWaitUserAnswer (answer : String) (ctx : CommandContext) : Ext Resumption := do
  let current ← get
  if ← resumeBuildAnswer host files answer then
    return .handled
  let pendingKind := (pendingDeepQuestion? current).map (·.kind)
  if pendingKind = some .deepDiscoveryFallback ∧ trim answer = "取消" then
    cancelWorkflow host
    return .handled
  if pendingKind ≠ none then
    if !(← requireDeepToolBoundary host) then
      return .handled
  match ← prepareDeepKnowledgeAnswer host answer with
  | .handled state invocation =>
      settleDeepAnswer state invocation
      return .handled
  | .notDeep =>
      if host.sendUserMessage = false then
        return .notHandled
      match truthy (← resumeGrillWithAnswer host files answer ctx) with
      | none => return .handled
      | some invocation =>
          modify fun s => { s with pendingReplayInvocation := some invocation }
          sendUserMessage invocation
          return .sending

end Extension

end ForgeRuntime
