import ForgeRuntime.Artifacts.Documents
import ForgeRuntime.Discovery.Relevance
import ForgeRuntime.Grill.GrillResult
import ForgeRuntime.Knowledge.ContextBuildSkill
import ForgeRuntime.Runtime.SessionMoves

/-!
# The state of the extension

`forgeRuntimeExtension` closes over some twenty variables besides the session; `ExtensionState` is the
record of them, with the host's list of active tools and the work that waits for the outside world.

A handler runs to completion between two points at which it waits for something that is not settled yet: a
selector or an editor, a message being sent, the model that classifies an input, or a new session.  Such a
point is a `Suspension`, a record of what the code behind the `await` still needs.  What a handler asks of
the file system is answered by `Files`, which may answer anything on each event.
-/

namespace ForgeRuntime

open EventDriven EventDriven.Text

/-! ### The host -/

/-- What the extension takes from its platform: the digest, lower case, the JSON parser and the seeds that a
request is searched for, the directory of its skills, and which functions the host offers. -/
structure Host where
  digest : String → String
  toLowerCase : String → String
  parseJson : String → Except String (Json String)
  extractDeepDiscoverySeeds : String → List String
  skillsDir : String
  registerTool : Bool
  getActiveTools : Bool
  setActiveTools : Bool
  on : Bool
  sendUserMessage : Bool
  sendMessage : Bool

/-- `CommandContext`: which parts of the user interface there are. -/
structure CommandContext where
  cwd : Option String
  select : Bool
  custom : Bool
  newSession : Bool
deriving DecidableEq, Repr

/-! ### Files -/

structure EvidenceReadRejection where
  reason : String
  byteSize : Nat
  limit : Nat
deriving DecidableEq, Repr

/-- A file that a search found, as the searches hand it on. -/
structure DiscoverySource where
  path : String
  content : String
  metadata : Metadata
deriving DecidableEq, Repr

structure EvidenceReadResult where
  content : String
  rejection : Option EvidenceReadRejection
deriving DecidableEq, Repr

inductive LightDiscoverySource where
  | wiki
  | codeBase
deriving DecidableEq, Repr

/-- A tree is the kind of the files in it. -/
def LightDiscoverySource.kind : LightDiscoverySource → GrillEvidenceKind
  | .wiki => .wiki
  | .codeBase => .codeBase

/-- A file whose name a light discovery found in the request. -/
structure LightDiscoveryMatch where
  source : LightDiscoverySource
  relativePath : String
  fileName : String
deriving DecidableEq, Repr

structure LightDiscoveryResult where
  matches_ : List LightDiscoveryMatch
  warnings : List String
deriving DecidableEq, Repr

structure GrillCompatibleDiscovery where
  codeBaseCandidates : List CodeBaseCandidate
  candidates : OrderedMap String GrillEvidenceCandidate
  manifest : List GrillEvidenceManifestEntry
  summary : String
deriving DecidableEq

/-- The answers of the file system to one event.  What answers with `Except` may throw; a path is given by
the parts that it is resolved from. -/
structure Files where
  grillingSkill : Except String String
  contextBuildSkill : Except String String
  missingAssets : String → List String
  runLightDiscovery : String → String → LightDiscoveryResult
  readEvidenceSource : List String → Except String EvidenceReadResult
  wikiSources : String → Except String (List DiscoverySource)
  codeBaseSources : String → String → Except String (List DiscoverySource)
  documentsBase : String → Except String String
  commitBundle : String → String → DocumentsContent → Except String CommitDocumentsResult

/-! ### Variables -/

/-- `ref` stands for the identity of the object, which the source compares. -/
structure ActiveWorkflowContext where
  ref : Nat
  goal : String
  codeBaseCandidates : List CodeBaseCandidate
  rootDir : String
  snapshot : GrillEvidenceSnapshot
deriving DecidableEq

structure KnowledgeRequest where
  missingAssets : List String
  request : String
  rootDir : String
deriving DecidableEq, Repr

structure DeepRetrievalBatch where
  identity : DeepAttemptIdentity
  searchCallIds : OrderedSet String
  completionCallIds : OrderedSet String
  settledSearchCallIds : OrderedSet String
  mixed : Bool
  followUpQueued : Bool
deriving DecidableEq

structure PendingDiscoveryRestart where
  toolCallId : String
  toolName : String
  identity : DeepAttemptIdentity
deriving DecidableEq, Repr

structure PendingSettledDeepInvocation where
  activeWorkflow : ActiveWorkflowContext
  invocation : String
  identity : DeepAttemptIdentity
deriving DecidableEq

structure PendingSettledDiscoveryInvocation where
  activeWorkflow : ActiveWorkflowContext
  invocation : String
  sourceRoundId : String
deriving DecidableEq

structure PendingSettledBuildInvocation where
  activeWorkflow : ActiveWorkflowContext
  invocation : String
  stage : BuildStage
  identity : BuildIdentity
deriving DecidableEq

/-! ### Results of tools -/

/-- `details.status`. -/
inductive ToolStatus where
  | accepted
  | stale
  | invalid
  | rejected
  | conflict
  | failed
  | ambiguous
  | needsDecision
  | needsDiscovery
  | needsConfirmation
  | readyForDeep
deriving DecidableEq, Repr

/-- The `details` of a result; a field that the source leaves out is `none`. -/
structure ToolDetails where
  status : Option ToolStatus := none
  reason : Option String := none
  errors : Option (List String) := none
  error : Option String := none
  retryable : Option Bool := none
  byteSize : Option Nat := none
  limit : Option Nat := none
  candidate : Option EvidenceInput := none
  evidence : Option (List EvidenceInput) := none
  reusedEvidenceIds : Option (List String) := none
  lockedEvidenceIds : Option (List String) := none
  evidencePackage : Option EvidencePackage := none
  identity : Option DeepAttemptIdentity := none
  payload : Option DeepResult := none
  question : Option String := none
  options : Option (List String) := none
  evidenceIds : Option (List String) := none
  roundId : Option String := none
  commit : Option CommitDocumentsResult := none
deriving DecidableEq, Repr

structure ToolResult where
  text : String
  details : ToolDetails
  terminate : Bool := false
deriving DecidableEq, Repr

/-! ### Waiting -/

/-- A selector or an editor that is open for a decision.  `reply` is what the tool call that waits for it
returns when it is closed, and `catches` says whether the caller reports an error instead of throwing. -/
structure OpenUi where
  decision : WaitUserState
  leaseKey : DecisionKey
  ctx : CommandContext
  editing : Bool
  reply : Option ToolResult
  catches : Bool
deriving DecidableEq, Repr

inductive Suspension where
  | ui (ui : OpenUi)
  /-- The invocation that follows an answer is being sent; then the question of the UI is released. -/
  | answerSent (ui : OpenUi)
  /-- The notice of an omitted completion is being sent. -/
  | omissionNotice
  /-- The model classifies an input. -/
  | intent (canonicalRequest : String) (rootDir : Option String) (ctx : CommandContext)
  /-- A `switch` waits for the new session. -/
  | newSession
  /-- The invocation that follows a `grill-result` command is being sent. -/
  | grillResultSent
deriving DecidableEq, Repr

/-- What a suspended piece of code is woken with. -/
inductive Settlement where
  | selection (value : Option String)
  | thrown (error : String)
  | sent
  | route (startForge : Bool)
  | switched (cancelled : Bool)
deriving DecidableEq, Repr

/-- What the outside world sees of a step. -/
inductive Effect where
  | notify (message : String)
  | status (state : ForgeUiState)
  | sendUserMessage (content : String)
  | sendMessage (content : String)
  | select (question : String) (options : List String)
  | custom
  | skillInvocation (request : BuildSkillInvocationRequest)
  | commitDocuments (rootDir baseHash : String) (documents : DocumentsContent)
deriving DecidableEq, Repr

/-- The variables of the extension.  `calls` and `effects` are the calls of the session and the effects of
the step that is running. -/
structure ExtensionState where
  session : SessionState
  activeTools : List String
  pendingGrillRun : Bool
  pendingKnowledgeRequest : Option KnowledgeRequest
  explorationConsentGranted : Bool
  activeWorkflow : Option ActiveWorkflowContext
  savedActiveTools : Option (List String)
  pendingReplayInvocation : Option String
  pendingConvergenceRoundId : Option String
  pendingSettledDeepInvocation : Option PendingSettledDeepInvocation
  pendingSettledDeepInvocationTimer : Option PendingSettledDeepInvocation
  pendingSettledDiscoveryInvocation : Option PendingSettledDiscoveryInvocation
  pendingSettledDiscoveryInvocationTimer : Option PendingSettledDiscoveryInvocation
  pendingSettledBuildInvocation : Option PendingSettledBuildInvocation
  pendingSettledBuildInvocationTimer : Option PendingSettledBuildInvocation
  lastSentContextBuildInvocation : Option PendingSettledBuildInvocation
  replayedContextBuildIdentity : Option BuildIdentity
  documentsBaseHash : Option String
  pendingDiscoveryRestart : Option PendingDiscoveryRestart
  fetchedGrillEvidence : OrderedMap String EvidenceInput
  fetchedDeepSupplementalEvidence : OrderedMap String EvidenceInput
  acceptedNeedsDiscoverySourceRoundIds : List String
  fallbackHumanDecisionId : Option String
  fallbackHumanPremise : Option EvidenceInput
  activeWaitUserUiLeaseKey : Option DecisionKey
  deepRetrievalBatch : Option DeepRetrievalBatch
  nextRef : Nat
  suspended : List Suspension
  calls : List SessionOp
  effects : List Effect
deriving DecidableEq

/-- The extension as it is loaded, in a host with these active tools. -/
def loadedExtension (activeTools : List String) : ExtensionState :=
  { session := createForgeSessionState
    activeTools := activeTools
    pendingGrillRun := false
    pendingKnowledgeRequest := none
    explorationConsentGranted := false
    activeWorkflow := none
    savedActiveTools := none
    pendingReplayInvocation := none
    pendingConvergenceRoundId := none
    pendingSettledDeepInvocation := none
    pendingSettledDeepInvocationTimer := none
    pendingSettledDiscoveryInvocation := none
    pendingSettledDiscoveryInvocationTimer := none
    pendingSettledBuildInvocation := none
    pendingSettledBuildInvocationTimer := none
    lastSentContextBuildInvocation := none
    replayedContextBuildIdentity := none
    documentsBaseHash := none
    pendingDiscoveryRestart := none
    fetchedGrillEvidence := .empty
    fetchedDeepSupplementalEvidence := .empty
    acceptedNeedsDiscoverySourceRoundIds := []
    fallbackHumanDecisionId := none
    fallbackHumanPremise := none
    activeWaitUserUiLeaseKey := none
    deepRetrievalBatch := none
    nextRef := 0
    suspended := []
    calls := []
    effects := [] }

/-- Code of the extension. -/
abbrev Ext (α : Type) := Turn String ExtensionState α

end ForgeRuntime
