import ForgeRuntime.Decision.AdrBuilder
import ForgeRuntime.Evidence.EvidenceEngine
import ForgeRuntime.Workflow.StateMachine

/-!
# The data of a session

The records that a session keeps and the results that its operations answer with.  Identities of attempts
and rounds are strings issued by the session; the JSON text that keys an answered decision is represented
by the triple it is the text of.
-/

namespace ForgeRuntime

open EventDriven

inductive WaitUserKind where
  | deepDecision
  | grillConfirmation
  | grillCheckpoint
  | relevanceClarification
  | deepDiscoveryFallback
  | contextAmbiguity
  | adrAmbiguity
deriving DecidableEq, Repr

structure WaitUserState where
  kind : WaitUserKind
  roundId : String
  decisionId : String
  evidenceIds : List String
  options : List String
  question : String
  recommendation : String
deriving DecidableEq, Repr

structure WaitUserPayload extends WaitUserState where
  decisionSummary : Option String
deriving DecidableEq, Repr

/-- The key of a decision: the JSON array of these three strings. -/
structure DecisionKey where
  roundId : String
  kind : WaitUserKind
  decisionId : String
deriving DecidableEq, Repr

def waitUserDecisionKey (waitUser : WaitUserState) : DecisionKey :=
  ⟨waitUser.roundId, waitUser.kind, waitUser.decisionId⟩

structure ValidationRepairState where
  rollbackTarget : String
  rootCause : String
deriving DecidableEq, Repr

/-- The stage that is shown: a stage of the workflow or one of the two refusals. -/
inductive UiStage where
  | workflow (stage : WorkflowStage)
  | confirmRejectedWaitUserRequired
  | answerRejectedWaitUserRequired
deriving DecidableEq, Repr

structure ForgeUiState where
  decisionSummary : Option String
  lastEvidenceIds : List String
  stage : UiStage
  validationRepair : Option ValidationRepairState
  waitUser : Option WaitUserState
deriving DecidableEq, Repr

def createForgeUiState (stage : WorkflowStage) : ForgeUiState :=
  { decisionSummary := none
    lastEvidenceIds := []
    stage := .workflow stage
    validationRepair := none
    waitUser := none }

inductive GrillEvidenceKind where
  | wiki
  | codeBase
  | target
deriving DecidableEq, Repr

structure GrillEvidenceManifestEntry where
  candidateId : String
  kind : GrillEvidenceKind
  rejection : Option String
  source : String
  title : String
deriving DecidableEq, Repr

structure GrillEvidenceCandidate extends GrillEvidenceManifestEntry where
  content : String
  metadata : Metadata
deriving DecidableEq, Repr

/-- A captured snapshot.  `ref` stands for the identity of the object, which the source compares. -/
structure GrillEvidenceSnapshot where
  ref : Nat
  candidates : OrderedMap String GrillEvidenceCandidate
  manifest : List GrillEvidenceManifestEntry
deriving DecidableEq

structure GrillRound where
  isFirstRoundOfSnapshot : Bool
  roundId : String
  request : String
  snapshot : GrillEvidenceSnapshot
deriving DecidableEq

inductive DeepAttemptPhase where
  | deepKnowledgeRetrieval
  | knowledgeUnderstanding
deriving DecidableEq, Repr

namespace DeepAttemptPhase

/-- A phase is the name of the stage it runs in. -/
def stage : DeepAttemptPhase → WorkflowStage
  | deepKnowledgeRetrieval => .deepKnowledgeRetrieval
  | knowledgeUnderstanding => .knowledgeUnderstanding

def text (phase : DeepAttemptPhase) : String := phase.stage.text

end DeepAttemptPhase

def deepSearchMaxPerSourceRound : Nat := 8

def grillAnswerCheckpoint : Nat := 8

structure DeepAttemptIdentity where
  attemptId : String
  sourceRoundId : String
  phase : DeepAttemptPhase
deriving DecidableEq, Repr

inductive DeepCallResult where
  | accepted (state : ForgeUiState) (identity : DeepAttemptIdentity)
  | stale (expected : Option DeepAttemptIdentity) (received : DeepAttemptIdentity)
  | invalid (state : ForgeUiState) (errors : List String)
deriving DecidableEq, Repr

structure LockedDeepEvidence where
  inherited : List EvidenceInput
  supplemental : List EvidenceInput
deriving DecidableEq, Repr

inductive ContextBuildCallResult where
  | accepted (state : ForgeUiState) (identity : ContextBuildIdentity)
  | ambiguous (state : ForgeUiState) (identity : ContextBuildIdentity)
  | stale (expected : Option ContextBuildIdentity) (received : ContextBuildIdentity)
  | invalid (state : ForgeUiState) (errors : List String)
deriving DecidableEq, Repr

inductive AdrBuildCallResult where
  | accepted (state : ForgeUiState) (identity : AdrBuildIdentity)
  | ambiguous (state : ForgeUiState) (identity : AdrBuildIdentity)
  | stale (expected : Option AdrBuildIdentity) (received : AdrBuildIdentity)
  | invalid (state : ForgeUiState) (errors : List String)
deriving DecidableEq, Repr

structure DeepNeedsDecisionResult where
  decisionId : String
  question : String
  options : List String
  recommendation : String
  evidenceIds : List String
  decisionSummary : Option String
deriving DecidableEq, Repr

/-- What a deep step hands in: the end of the retrieval phase, the end of the understanding phase, a
question, or a request for another discovery. -/
inductive DeepResult where
  | retrievalCompleted (evidenceIds : List String) (decisionSummary : Option String)
  | understandingCompleted (evidencePackage : EvidencePackage)
  | needsDecision (decision : DeepNeedsDecisionResult)
  | needsDiscovery (decisionSummary : Option String)
deriving DecidableEq, Repr

inductive BudgetAnswer where
  | accepted
  | reserved
  | released
  | stale
  | limit
deriving DecidableEq, Repr

inductive CommitDocumentsResult where
  | committed (baseHash : String)
  | conflict (error : String)
  | invalid (errors : List String)
  | failed (errors : List String)
deriving DecidableEq, Repr

end ForgeRuntime
