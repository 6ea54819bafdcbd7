/-!
# Workflow stages and their transitions

The stage table of the workflow.  A stage is left only along `legalTransitions`; `transitionTo` throws
otherwise, and the machine stays where it was.  The orchestrator of the source is a thin wrapper: three of
its operations are transitions with a fixed target (`handleGrillResult`, `handleUserConfirmation`), so a
session stores the orchestrator as its stage.
-/

namespace ForgeRuntime

/-- `WORKFLOW_STAGES`. -/
inductive WorkflowStage where
  | receive
  | intentUnderstanding
  | lightDiscovery
  | grill
  | waitUser
  | userConfirmed
  | deepKnowledgeRetrieval
  | knowledgeUnderstanding
  | contextBuild
  | adrBuild
  | toSpec
  | toTicket
  | planning
  | implementGate
  | tdd
  | fanOutExecution
  | validation
  | review
  | judge
  | complete
  | rootCause
  | repairOrchestrator
deriving DecidableEq, Repr

namespace WorkflowStage

/-- The spelling of a stage, as it stands in the error text of an illegal transition. -/
def text : WorkflowStage → String
  | receive => "RECEIVE"
  | intentUnderstanding => "INTENT_UNDERSTANDING"
  | lightDiscovery => "LIGHT_DISCOVERY"
  | grill => "GRILL"
  | waitUser => "WAIT_USER"
  | userConfirmed => "USER_CONFIRMED"
  | deepKnowledgeRetrieval => "DEEP_KNOWLEDGE_RETRIEVAL"
  | knowledgeUnderstanding => "KNOWLEDGE_UNDERSTANDING"
  | contextBuild => "CONTEXT_BUILD"
  | adrBuild => "ADR_BUILD"
  | toSpec => "TO_SPEC"
  | toTicket => "TO_TICKET"
  | planning => "PLANNING"
  | implementGate => "IMPLEMENT_GATE"
  | tdd => "TDD"
  | fanOutExecution => "FAN_OUT_EXECUTION"
  | validation => "VALIDATION"
  | review => "REVIEW"
  | judge => "JUDGE"
  | complete => "COMPLETE"
  | rootCause => "ROOT_CAUSE"
  | repairOrchestrator => "REPAIR_ORCHESTRATOR"

/-- `LEGAL_TRANSITIONS`. -/
def legalTransitions : WorkflowStage → List WorkflowStage
  | receive => [intentUnderstanding]
  | intentUnderstanding => [lightDiscovery]
  | lightDiscovery => [grill]
  | grill => [waitUser, deepKnowledgeRetrieval]
  | waitUser => [userConfirmed]
  | userConfirmed =>
      [grill, lightDiscovery, deepKnowledgeRetrieval, knowledgeUnderstanding, contextBuild, adrBuild]
  | deepKnowledgeRetrieval => [knowledgeUnderstanding, lightDiscovery, waitUser]
  | knowledgeUnderstanding => [contextBuild, lightDiscovery, waitUser]
  | contextBuild => [adrBuild, waitUser]
  | adrBuild => [toSpec, waitUser]
  | toSpec => [toTicket]
  | toTicket => [planning]
  | planning => [implementGate]
  | implementGate => [tdd, judge]
  | tdd => [fanOutExecution]
  | fanOutExecution => [validation]
  | validation => [review, rootCause]
  | review => [judge, rootCause]
  | judge => [complete, rootCause]
  | complete => []
  | rootCause => [repairOrchestrator]
  | repairOrchestrator =>
      [grill, deepKnowledgeRetrieval, contextBuild, adrBuild, toSpec, toTicket, implementGate, tdd]

/-- One legal step of the machine. -/
def CanTransitionTo (current next : WorkflowStage) : Prop := next ∈ current.legalTransitions

instance (current next : WorkflowStage) : Decidable (current.CanTransitionTo next) :=
  inferInstanceAs (Decidable (next ∈ current.legalTransitions))

/-- The message of the error that an illegal transition throws. -/
def invalidTransition (current next : WorkflowStage) : String :=
  "Invalid transition: " ++ current.text ++ " -> " ++ next.text

/-- `WAIT_USER` is left for `USER_CONFIRMED` only. -/
@[simp] theorem waitUser_canTransitionTo (next : WorkflowStage) :
    waitUser.CanTransitionTo next ↔ next = userConfirmed := by
  simp [CanTransitionTo, legalTransitions]

end WorkflowStage

end ForgeRuntime
