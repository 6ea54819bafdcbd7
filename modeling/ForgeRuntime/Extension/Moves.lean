import ForgeRuntime.Extension.System
import ForgeRuntime.Runtime.Attempts
import ForgeRuntime.Runtime.ShownState

/-!
# The moves of the extension

What one step of the extension can do to the part of the state that its guarantees speak of: the session,
the tools, the evidence that is kept across rounds, and the workflow.

* `Core` — that part of the state, with the calls of the session that the step has made so far;
* `CallSite` — at which point of a step each operation of the session is called;
* `Move` — the writes of a handler, each with the circumstances in which it happens;
* `Path` — a sequence of moves from the start of a step.

That the handlers make no other move is `extensionStep_path`, proved handler by handler.
-/

namespace ForgeRuntime

open EventDriven EventDriven.Text EventDriven.Machine

/-- The part of the state that the moves of a step speak of. -/
structure Core where
  session : SessionState
  activeTools : List String
  savedActiveTools : Option (List String)
  explorationConsentGranted : Bool
  activeWorkflow : Option ActiveWorkflowContext
  nextRef : Nat
  pendingConvergenceRoundId : Option String
  fetchedGrillEvidence : OrderedMap String EvidenceInput
  fetchedDeepSupplementalEvidence : OrderedMap String EvidenceInput
  acceptedNeedsDiscoverySourceRoundIds : List String
  fallbackHumanDecisionId : Option String
  fallbackHumanPremise : Option EvidenceInput
  calls : List SessionOp

def ExtensionState.core (s : ExtensionState) : Core :=
  { session := s.session
    activeTools := s.activeTools
    savedActiveTools := s.savedActiveTools
    explorationConsentGranted := s.explorationConsentGranted
    activeWorkflow := s.activeWorkflow
    nextRef := s.nextRef
    pendingConvergenceRoundId := s.pendingConvergenceRoundId
    fetchedGrillEvidence := s.fetchedGrillEvidence
    fetchedDeepSupplementalEvidence := s.fetchedDeepSupplementalEvidence
    acceptedNeedsDiscoverySourceRoundIds := s.acceptedNeedsDiscoverySourceRoundIds
    fallbackHumanDecisionId := s.fallbackHumanDecisionId
    fallbackHumanPremise := s.fallbackHumanPremise
    calls := s.calls }

namespace Core

variable (host : Host) (c : Core)

/-- A call of the session. -/
def call (op : SessionOp) : Core :=
  { c with
    session := (sessionStep host.digest op c.session).2
    calls := c.calls ++ [op] }

/-- `pi.setActiveTools`. -/
def setTools (tools : List String) : Core :=
  { c with activeTools := if host.setActiveTools then tools else c.activeTools }

def saveTools : Core :=
  { c with
    savedActiveTools :=
      c.savedActiveTools <|> if host.getActiveTools then some c.activeTools else none }

/-- The saved tools come back, if there are any. -/
def restoreTools : Core :=
  match c.savedActiveTools with
  | some saved => { c.setTools host saved with savedActiveTools := none }
  | none => c

/-- The evidence that is kept across rounds is forgotten. -/
def clearEvidence : Core :=
  { c with
    fetchedGrillEvidence := .empty
    fetchedDeepSupplementalEvidence := .empty
    acceptedNeedsDiscoverySourceRoundIds := []
    fallbackHumanDecisionId := none
    fallbackHumanPremise := none }

/-- A workflow is left: by `reset`, or by `cancelDeepKnowledge`, which keeps the workflow. -/
def leave (op : SessionOp) : Core :=
  let left := ((({ c with
    explorationConsentGranted := false
    pendingConvergenceRoundId := none } : Core).clearEvidence).restoreTools host).call host op
  { left with activeWorkflow := if op = .cancelDeepKnowledge then c.activeWorkflow else none }

/-- A discovery opens a round on a new snapshot and makes a new workflow active. -/
def discover (files : Files) (goal rootDir : String) : Core :=
  let discovery := Extension.buildGrillCompatibleDiscovery host files rootDir
    (files.runLightDiscovery rootDir goal) goal
  let snapshot : GrillEvidenceSnapshot := ⟨c.nextRef, discovery.candidates, discovery.manifest⟩
  { c.call host (.startGrillRound goal snapshot) with
    activeWorkflow := some
      { ref := c.nextRef
        goal := goal
        codeBaseCandidates := discovery.codeBaseCandidates
        rootDir := rootDir
        snapshot := snapshot }
    nextRef := c.nextRef + 1 }

/-- The store after an item: in its place, or unchanged when its ID has another content. -/
def remember (store : OrderedMap String EvidenceInput) (item : EvidenceInput) :
    OrderedMap String EvidenceInput :=
  match Extension.rememberedIn store item with
  | .ok store => store
  | .error _ => store

end Core

/-! ### Where the session is called -/

/-- The answer that an event gives to the pending decision, if it gives one. -/
def submittedAnswer? (host : Host) (s : ExtensionState) : Event → Option String
  | .input rawText _ =>
      if Extension.AtStage s .waitUser then
        some (Extension.inputAnswer host s.session.uiState.waitUser (trim rawText))
      else none
  | .command args _ =>
      (Extension.shownDecision? s.session.uiState).bind fun pending =>
        if trim args = "confirm" then some pending.recommendation
        else if trim args = "reject" then some "reject"
        else if startsWith (trim args) "reject " then some (Extension.textAfter "reject " (trim args))
        else none
  | .resume index (.selection (some choice)) =>
      match s.suspended[index]? with
      | some (.ui ui) => some (if ui.editing then trim choice else choice)
      | _ => none
  | _ => none

/-- The session after the first calls of a step. -/
def sessionAt (host : Host) (s : ExtensionState) (calls : List SessionOp) : SessionState :=
  finish (sessionStep host.digest) s.session calls

/-- The work of a Grill round is handed in: by the tool, or by the command. -/
def HandsInGrill (s : ExtensionState) : Event → Prop
  | .grillComplete _ _ => Extension.HasActiveGrillAttempt s
  | .command args _ => startsWith (trim args) "grill-result " = true ∧ s.pendingGrillRun = true ∧
      (Extension.AtStage s .grill ∨ Extension.AtStage s .waitUser)
  | _ => False

/-- The completion that an event hands in. -/
def handedIn? (host : Host) (s : ExtensionState) : Event → Option GrillCompletionPayload
  | .grillComplete payload _ => (Extension.parseActiveGrillCompletion host payload s).1.toOption
  | .command args _ =>
      (Extension.parseActiveGrillCompletion host
        (.text (String.ofList ((trim args).toList.drop 13))) s).1.toOption
  | _ => none

namespace Extension

/-- The target file that a search names, if it names one. -/
def selectedTarget? (host : Host) (params : DeepSearchParams) (workflow : ActiveWorkflowContext) :
    Option GrillEvidenceCandidate :=
  if params.source = .target then
    match matchingTargets (targetCandidates host workflow (host.toLowerCase (trim params.query)))
        (params.targetSource.getD "") with
    | [selected] => some selected
    | _ => none
  else none

/-- The candidate that a fetch records: it passes the checks of the call. -/
def admittedCandidate? (s : ExtensionState) (candidateId : String) : Option GrillEvidenceCandidate :=
  if HasActiveGrillAttempt s then
    s.activeWorkflow.bind fun workflow =>
      (workflow.snapshot.candidates.get? candidateId).filter fun candidate =>
        (evidenceTooLargeRejection? candidate.metadata).isNone &&
          decide (candidate.content.utf8ByteSize ≤ deepEvidenceMaxBytes) &&
          decide (getDeepEvidenceContentBytes
            ((fetchedCandidates s.session workflow.snapshot ++ [candidate]).map candidateEvidence) ≤
              deepEvidenceRoundMaxBytes)
  else none

/-- A recorded candidate is one of the snapshot, and small enough by itself. -/
theorem admittedCandidate?_eq_some {s : ExtensionState} {candidateId : String} {candidate : GrillEvidenceCandidate}
    (h : admittedCandidate? s candidateId = some candidate) :
    ∃ workflow, s.activeWorkflow = some workflow ∧
      workflow.snapshot.candidates.get? candidateId = some candidate ∧
      candidate.content.utf8ByteSize ≤ deepEvidenceMaxBytes := by
  unfold admittedCandidate? at h
  split at h
  · obtain ⟨workflow, hworkflow, hcandidate⟩ := Option.bind_eq_some_iff.mp h
    obtain ⟨hget, hchecks⟩ := Option.filter_eq_some_iff.mp hcandidate
    simp only [Bool.and_eq_true, decide_eq_true_eq] at hchecks
    exact ⟨workflow, hworkflow, hget, hchecks.1.2⟩
  · cases h

/-- What a search finds and no fetched candidate stands for. -/
def newlyFound (host : Host) (files : Files) (s : ExtensionState) (params : DeepSearchParams) :
    List EvidenceInput :=
  match s.activeWorkflow with
  | none => []
  | some workflow =>
      match searchFiles host files params workflow (selectedTarget? host params workflow)
          (host.toLowerCase (trim params.query)) with
      | .error _ => []
      | .ok evidence => evidence.filter fun item =>
          (reusedCandidate? (fetchedCandidates s.session workflow.snapshot) item).isNone

/-- The query of a call, as it is looked for. -/
def queryOf (host : Host) (params : DeepSearchParams) : String := host.toLowerCase (trim params.query)

/-- Nothing that the call holds answers the query, so that it looks at the files. -/
def LooksAtFiles (host : Host) (s : ExtensionState) (params : DeepSearchParams) (workflow : ActiveWorkflowContext) :
    Prop :=
  (∀ candidate ∈ fetchedCandidates s.session workflow.snapshot, candidate.kind = params.source.kind →
      matchesQuery host (queryOf host params) candidate.source candidate.content = false) ∧
    ∀ item ∈ s.session.deepSupplementalEvidence.values, item.kind = params.source.kind.text →
      matchesQuery host (queryOf host params) item.source item.content = false

instance (host : Host) (s : ExtensionState) (params : DeepSearchParams) (workflow : ActiveWorkflowContext) :
    Decidable (LooksAtFiles host s params workflow) := inferInstanceAs (Decidable (_ ∧ _))

/-- The identity that a search is called for. -/
def searchIdentity (params : DeepSearchParams) : DeepAttemptIdentity :=
  ⟨params.attemptId, params.sourceRoundId, .deepKnowledgeRetrieval⟩

/-- The search looks at the files and the budget has a place for it. -/
def GetsPlace (host : Host) (s : ExtensionState) (params : DeepSearchParams) (workflow : ActiveWorkflowContext) :
    Prop :=
  LooksAtFiles host s params workflow ∧
    (Session.reserveDeepSearchBudget (searchIdentity params) s.session).1.toOption = some .reserved

instance (host : Host) (s : ExtensionState) (params : DeepSearchParams) (workflow : ActiveWorkflowContext) :
    Decidable (GetsPlace host s params workflow) := inferInstanceAs (Decidable (_ ∧ _))

/-- The checks of a search before it looks for evidence. -/
def SearchIsValid (host : Host) (s : ExtensionState) (params : DeepSearchParams) (workflow : ActiveWorkflowContext) :
    Prop :=
  s.session.deepAttempt = some (searchIdentity params) ∧ trim params.query ≠ "" ∧
    codePoints (trim params.query) ≤ deepSearchMaxQueryCodePoints ∧
    (params.source = .target → ¬ Blank (params.targetSource.getD "") ∧
      (selectedTarget? host params workflow).isSome = true)

instance (host : Host) (s : ExtensionState) (params : DeepSearchParams) (workflow : ActiveWorkflowContext) :
    Decidable (SearchIsValid host s params workflow) := inferInstanceAs (Decidable (_ ∧ _))

/-- What a search records of what it has found, if its checks let it through. -/
def ItemsFit (s : ExtensionState) (workflow : ActiveWorkflowContext) (items : List EvidenceInput) : Prop :=
  (∀ item ∈ items, isOversized item = false) ∧
    getDeepEvidenceContentBytes ((fetchedCandidates s.session workflow.snapshot).map candidateEvidence ++
      s.session.deepSupplementalEvidence.values ++ items) ≤ deepEvidenceRoundMaxBytes

instance (s : ExtensionState) (workflow : ActiveWorkflowContext) (items : List EvidenceInput) :
    Decidable (ItemsFit s workflow items) := inferInstanceAs (Decidable (_ ∧ _))

/-- The items that a search records, when it comes to record any. -/
def itemsToRecord (host : Host) (files : Files) (s : ExtensionState) (params : DeepSearchParams) :
    List EvidenceInput :=
  match s.activeWorkflow with
  | none => []
  | some workflow =>
      if SearchIsValid host s params workflow ∧ GetsPlace host s params workflow ∧
          ItemsFit s workflow (newlyFound host files s params) then
        newlyFound host files s params
      else []

/-- What a search records is new to it. -/
theorem itemsToRecord_new {host : Host} {files : Files} {s : ExtensionState} {params : DeepSearchParams}
    {item : EvidenceInput} (h : item ∈ itemsToRecord host files s params) : item ∈ newlyFound host files s params := by
  unfold itemsToRecord at h
  split at h
  · cases h
  · split at h
    · exact h
    · cases h

theorem itemsToRecord_eq {host : Host} {files : Files} {s : ExtensionState} {params : DeepSearchParams}
    {workflow : ActiveWorkflowContext} (hworkflow : s.activeWorkflow = some workflow)
    (hvalid : SearchIsValid host s params workflow) (hplace : GetsPlace host s params workflow)
    (hfit : ItemsFit s workflow (newlyFound host files s params)) :
    itemsToRecord host files s params = newlyFound host files s params := by
  rw [itemsToRecord, hworkflow]
  exact if_pos ⟨hvalid, hplace, hfit⟩

end Extension

/-- The Deep step may take an item of a search as new evidence: the checks of the search let it through. -/
def SearchFinds (host : Host) (files : Files) (s : ExtensionState) (identity : DeepAttemptIdentity)
    (item : EvidenceInput) : Event → Prop
  | .deepSearch params =>
      identity = ⟨params.attemptId, params.sourceRoundId, .deepKnowledgeRetrieval⟩ ∧
        item ∈ Extension.itemsToRecord host files s params
  | _ => False

/-- The package that an event hands in, if it builds one. -/
def handedPackage? (s : ExtensionState) : Event → Option EvidencePackage
  | .deepComplete _ _ _ (.completed result) _ => s.session.currentGrillRound.bind fun round =>
      (Extension.understandingPackage s round result).toOption
  | _ => none

/-- A Deep step hands in its result. -/
inductive SubmitsDeepResult (s : ExtensionState) (e : Event) : DeepResult → Prop
  | decision {decision : DeepNeedsDecisionResult} : SubmitsDeepResult s e (.needsDecision decision)
  | discovery {summary : Option String} : SubmitsDeepResult s e (.needsDiscovery summary)
  | package {package : EvidencePackage} (h : handedPackage? s e = some package) :
      SubmitsDeepResult s e (.understandingCompleted package)

/-- The command that an event gives. -/
def Event.command? : Event → Option String
  | .command args _ => some (trim args)
  | _ => none

/-- The retrieval that an event completes. -/
def Event.completesRetrieval? : Event → Option DeepAttemptIdentity
  | .deepRetrievalComplete _ attemptId sourceRoundId .completed _ =>
      some ⟨attemptId, sourceRoundId, .deepKnowledgeRetrieval⟩
  | _ => none

open Extension in
/-- **Where the session is called**, by the calls that the step has made before. -/
inductive CallSite (host : Host) (s₀ : ExtensionState) (e : Event) : List SessionOp → SessionOp → Prop
  | answer {answer : String} (h : submittedAnswer? host s₀ e = some answer) :
      CallSite host s₀ e [] (.recordAnswer answer)
  /-- A question of a Grill round, from its completion. -/
  | askCompletion {completion : GrillCompletionPayload} {payload : WaitUserPayload}
      (hin : HandsInGrill s₀ e) (hstage : AtStage s₀ .grill) (hcompletion : handedIn? host s₀ e = some completion)
      (h : toWaitUserPayload completion = .ok payload) :
      CallSite host s₀ e [] (.requireWaitUser payload)
  /-- A question that the command `grill ambiguous` hands in. -/
  | askAmbiguous {raw : String} {payload : WaitUserPayload}
      (he : e.command? = some ("grill ambiguous " ++ raw))
      (hshown : shownDecision? s₀.session.uiState = none)
      (h : parseWaitUserPayload host raw = .ok payload) :
      CallSite host s₀ e [] (.requireWaitUser payload)
  /-- The question about the relevance of the candidates. -/
  | askRelevance {round : GrillRound} {ids : List String} {reason : String} (hin : HandsInGrill s₀ e)
      (hstage : AtStage s₀ .grill) (hround : s₀.session.currentGrillRound = some round) :
      CallSite host s₀ e [] (.requireWaitUser (relevanceQuestion round ids reason))
  /-- Deep Knowledge is entered with the result of a Grill round. -/
  | enterDeep {summary : Option String} (hin : HandsInGrill s₀ e) :
      CallSite host s₀ e [] (.beginDeepKnowledge summary .deepKnowledgeRetrieval)
  /-- Deep Knowledge is entered after the consent to explore. -/
  | enterDeepOnConsent {round : GrillRound} {answer : String} {summary : Option String}
      (hround : s₀.session.currentGrillRound = some round) (hasks : AsksExploratoryConsent s₀ round)
      (happroval : isApproval host answer = true) :
      CallSite host s₀ e [.recordAnswer answer] (.beginDeepKnowledge summary .deepKnowledgeRetrieval)
  /-- Deep Knowledge is entered after the last answer of a convergence round. -/
  | enterDeepOnConvergence {answer : String} {summary : Option String} (hasks : AsksInConvergence s₀)
      (hanswered : (sessionAt host s₀ [.recordAnswer answer]).uiState.stage = .workflow .grill) :
      CallSite host s₀ e [.recordAnswer answer] (.beginDeepKnowledge summary .deepKnowledgeRetrieval)
  /-- `continue` replaces the live attempt. -/
  | continueDeep {attempt : DeepAttemptIdentity} (he : e.command? = some "continue") (hat : AtDeepStep s₀)
      (hlive : s₀.session.deepAttempt = some attempt) :
      CallSite host s₀ e [] (.beginDeepKnowledge none attempt.phase)
  /-- `continue` takes up what was cancelled or has asked. -/
  | resumeDeep (he : e.command? = some "continue") (hat : AtDeepStep s₀)
      (hlive : s₀.session.deepAttempt = none) :
      CallSite host s₀ e [] (.retryDeepKnowledge none)
  /-- The phase that asked starts again. -/
  | retryAfterDecision {answer : String} {summary : Option String} {waitUser : WaitUserState}
      (hasks : pendingDeepQuestion? s₀ = some waitUser) (hkind : waitUser.kind = .deepDecision)
      (hanswered : (sessionAt host s₀ [.recordAnswer answer]).uiState.stage ≠ .workflow .waitUser) :
      CallSite host s₀ e [.recordAnswer answer] (.retryDeepKnowledge summary)
  | completeRetrieval {identity : DeepAttemptIdentity} {workflow : ActiveWorkflowContext}
      (he : e.completesRetrieval? = some identity) (hlive : s₀.session.deepAttempt = some identity)
      (hworkflow : s₀.activeWorkflow = some workflow) :
      CallSite host s₀ e []
        (.completeDeepRetrieval ((fetchedCandidates s₀.session workflow.snapshot).map candidateEvidence)
          none identity)
  | deepResult {identity : DeepAttemptIdentity} {result : DeepResult}
      (hlive : s₀.session.deepAttempt = some identity) (h : SubmitsDeepResult s₀ e result) :
      CallSite host s₀ e [] (.handleDeepResult identity result)
  | reserve {calls : List SessionOp} {identity : DeepAttemptIdentity} :
      CallSite host s₀ e calls (.reserveDeepSearchBudget identity)
  | commit {calls : List SessionOp} {identity : DeepAttemptIdentity} :
      CallSite host s₀ e calls (.commitDeepSearchBudget identity)
  | release {calls : List SessionOp} {identity : DeepAttemptIdentity} :
      CallSite host s₀ e calls (.releaseDeepSearchBudget identity)
  /-- An item of a search, for an attempt that is not live any more. -/
  | supplementStale {calls : List SessionOp} {identity : DeepAttemptIdentity} {item : EvidenceInput}
      (h : (sessionAt host s₀ calls).deepAttempt ≠ some identity) :
      CallSite host s₀ e calls
        (.recordDeepSupplementalEvidence identity item.evidenceId (some item))
  /-- A candidate is read while there is no round. -/
  | fetchWithoutRound {candidateId : String} (h : s₀.session.currentGrillRound = none) :
      CallSite host s₀ e [] (.recordEvidenceFetch candidateId)
  | completeContext {identity : ContextBuildIdentity} {completion : ContextBuildCompletion} :
      CallSite host s₀ e [] (.completeContextBuild identity completion)
  | prepareAdr {identity : AdrBuildIdentity} {candidate : AdrBuildCandidate} :
      CallSite host s₀ e [] (.prepareAdrBuild identity candidate)
  | askAdr {identity : AdrBuildIdentity} {ambiguity : ContextAmbiguity} :
      CallSite host s₀ e [] (.requireAdrDecision identity ambiguity)
  /-- The session does not end the workflow after a commit. -/
  | finalizeRefused {identity : AdrBuildIdentity} {candidate : AdrBuildCandidate}
      {commit : CommitDocumentsResult}
      (hrefused : ∀ ui accepted, (sessionStep host.digest (.finalizeAdrBuild identity commit)
        (sessionAt host s₀ [.prepareAdrBuild identity candidate])).1 ≠ .ok (.adr (.accepted ui accepted))) :
      CallSite host s₀ e [.prepareAdrBuild identity candidate] (.finalizeAdrBuild identity commit)
  | confirm (he : e.command? = some "confirm") (hshown : shownDecision? s₀.session.uiState = none) :
      CallSite host s₀ e [] .confirm
  | reject {selection : Option String} (hshown : shownDecision? s₀.session.uiState = none) :
      CallSite host s₀ e [] (.reject selection)
  | retryGrill (he : e.command? = some "retry") : CallSite host s₀ e [] .retryGrillRound
  | omission (h : HasActiveGrillAttempt s₀) : CallSite host s₀ e [] .recordCompletionOmission
  /-- Discovery after the intent of a new workflow. -/
  | discoverAfterIntent {summary : Option String} :
      CallSite host s₀ e [.beginIntent summary] (.beginLightDiscovery summary)
  /-- Discovery once more. -/
  | discoverAgain {summary : Option String} (h : AtStage s₀ .lightDiscovery) :
      CallSite host s₀ e [] (.beginLightDiscovery summary)
  /-- Discovery for a request that an answer has narrowed. -/
  | discoverAfterAnswer {answer : String} {summary : Option String}
      (hanswered : (sessionAt host s₀ [.recordAnswer answer]).uiState.stage = .workflow .userConfirmed) :
      CallSite host s₀ e [.recordAnswer answer] (.beginLightDiscovery summary)
  /-- The next round on the same snapshot. -/
  | nextRound {answer : String} {round : GrillRound} (hround : s₀.session.currentGrillRound = some round)
      (hanswered : (sessionAt host s₀ [.recordAnswer answer]).uiState.stage = .workflow .grill) :
      CallSite host s₀ e [.recordAnswer answer] (.startGrillRound round.request round.snapshot)

/-! ### Where the tools change -/

/-- The operations with which a workflow is left. -/
def SessionOp.leaves : SessionOp → Bool
  | .reset => true
  | .cancelDeepKnowledge => true
  | .finalizeAdrBuild _ _ => true
  | _ => false

/-- No workflow is left by these calls. -/
abbrev GoesOn (calls : List SessionOp) : Prop := (calls.all fun op => !op.leaves) = true

open Extension in
/-- Where the tools of the user come back while a workflow goes on. -/
inductive RestoresTools (s₀ : ExtensionState) (e : Event) : List SessionOp → Prop
  | omission : RestoresTools s₀ e [.recordCompletionOmission]
  | omissionNoticed {index : Nat} {settlement : Settlement} (he : e = .resume index settlement)
      (hwaits : s₀.suspended[index]? = some .omissionNotice) : RestoresTools s₀ e []
  | deepResult {identity : DeepAttemptIdentity} {result : DeepResult} :
      RestoresTools s₀ e [.handleDeepResult identity result]
  | contextResult {identity : ContextBuildIdentity} {completion : ContextBuildCompletion} :
      RestoresTools s₀ e [.completeContextBuild identity completion]
  | adrQuestion {identity : AdrBuildIdentity} {ambiguity : ContextAmbiguity} :
      RestoresTools s₀ e [.requireAdrDecision identity ambiguity]
  | relevanceAnswer {answer : String} (h : pendingDeepQuestion? s₀ = none) :
      RestoresTools s₀ e [.recordAnswer answer]

open Extension in
/-- **Where the tools of the understanding phase are set**, by the calls that the step has made before. -/
inductive EntersUnderstanding (host : Host) (s₀ : ExtensionState) (e : Event) : List SessionOp → Prop
  /-- A retrieval is completed. -/
  | retrieved {inherited : List EvidenceInput} {identity : DeepAttemptIdentity}
      (he : e.completesRetrieval? = some identity) (hlive : s₀.session.deepAttempt = some identity) :
      EntersUnderstanding host s₀ e [.completeDeepRetrieval inherited none identity]
  /-- A fallback is confirmed. -/
  | fallback {answer : String} {summary : Option String} {waitUser : WaitUserState}
      (h : submittedAnswer? host s₀ e = some answer) (hasks : pendingDeepQuestion? s₀ = some waitUser)
      (hkind : waitUser.kind = .deepDiscoveryFallback)
      (haccepted : (sessionAt host s₀ [.recordAnswer answer]).uiState.stage ≠ .workflow .waitUser) :
      EntersUnderstanding host s₀ e [.recordAnswer answer, .beginDeepKnowledge summary .knowledgeUnderstanding]
  /-- A decision of the understanding phase is answered. -/
  | decided {answer : String} {summary : Option String} {waitUser : WaitUserState}
      (h : submittedAnswer? host s₀ e = some answer) (hasks : pendingDeepQuestion? s₀ = some waitUser)
      (hkind : waitUser.kind = .deepDecision)
      (haccepted : (sessionAt host s₀ [.recordAnswer answer]).uiState.stage ≠ .workflow .waitUser)
      (hphase : s₀.session.retryPhase? = some .knowledgeUnderstanding ∨
        s₀.session.deepAttempt.map (·.phase) = some .knowledgeUnderstanding) :
      EntersUnderstanding host s₀ e [.recordAnswer answer, .retryDeepKnowledge summary]
  /-- `continue` replaces the live attempt. -/
  | continued {attempt : DeepAttemptIdentity} (he : e.command? = some "continue") (hat : AtDeepStep s₀)
      (hlive : s₀.session.deepAttempt = some attempt) (hphase : attempt.phase = .knowledgeUnderstanding) :
      EntersUnderstanding host s₀ e [.beginDeepKnowledge none attempt.phase]
  /-- `continue` takes up what was cancelled or has asked. -/
  | resumed (he : e.command? = some "continue") (hat : AtDeepStep s₀)
      (hphase : s₀.session.retryPhase? = some .knowledgeUnderstanding) :
      EntersUnderstanding host s₀ e [.retryDeepKnowledge none]
  /-- The text of the replayed step arrives. -/
  | replayed {rawText : String} {ctx : CommandContext} {attempt : DeepAttemptIdentity}
      (he : e = .input rawText ctx) (hreplay : s₀.pendingReplayInvocation = some (trim rawText))
      (hlive : s₀.session.deepAttempt = some attempt) (hphase : attempt.phase = .knowledgeUnderstanding) :
      EntersUnderstanding host s₀ e []

/-- What a confirmed fallback leaves: the question, and a premise with the answer. -/
def FallbackNoted (host : Host) (waitUser : WaitUserState) (answer : String) (c : Core) : Prop :=
  ∃ workflow, c.activeWorkflow = some workflow ∧ c.fallbackHumanDecisionId = some waitUser.decisionId ∧
    c.fallbackHumanPremise = some (Extension.fallbackPremise host workflow.goal waitUser.question answer
      c.acceptedNeedsDiscoverySourceRoundIds)

/-! ### Moves -/

open Extension in
/-- **The writes of a step**, each with the circumstances in which it happens. -/
inductive Move (host : Host) (files : Files) (s₀ : ExtensionState) (e : Event) : Core → Core → Prop
  | called {c : Core} {op : SessionOp} (h : CallSite host s₀ e c.calls op) :
      Move host files s₀ e c (c.call host op)
  /-- The tools of a stage, after those of the user have been saved. -/
  | activated {c : Core} {tools : List String} (hgoes : GoesOn c.calls)
      (h : tools ∈ [grillToolNames, deepRetrievalToolNames, contextBuildToolNames, adrBuildToolNames]) :
      Move host files s₀ e c ((c.saveTools host).setTools host tools)
  /-- The tools of the understanding phase; nothing is saved. -/
  | understanding {c : Core} (henters : EntersUnderstanding host s₀ e c.calls)
      (h : (c.session.deepAttempt.map (·.phase)) = some .knowledgeUnderstanding) :
      Move host files s₀ e c (c.setTools host deepUnderstandingToolNames)
  | restored {c : Core} (h : RestoresTools s₀ e c.calls) : Move host files s₀ e c (c.restoreTools host)
  | consentGiven {c : Core}
      (h : (∃ round answer, c.calls = [.recordAnswer answer] ∧ isApproval host answer = true ∧
          s₀.session.currentGrillRound = some round ∧ AsksExploratoryConsent s₀ round) ∨
        (c.calls = [] ∧ s₀.pendingKnowledgeRequest ≠ none ∧
          ∃ rawText ctx, e = .input rawText ctx ∧ isApproval host (trim rawText) = true)) :
      Move host files s₀ e c { c with explorationConsentGranted := true }
  | consentWithdrawn {c : Core} :
      Move host files s₀ e c { c with explorationConsentGranted := false }
  | convergenceEnded {c : Core} : Move host files s₀ e c { c with pendingConvergenceRoundId := none }
  /-- A convergence round was started. -/
  | convergenceStarted {c : Core} {round : GrillRound} (hround : c.session.currentGrillRound = some round)
      {answer : String} (h : trim answer = "converge")
      (hcalls : ∃ request snapshot, c.calls = [.recordAnswer answer, .startGrillRound request snapshot])
      (hkind : s₀.session.uiState.waitUser.map (·.kind) = some .grillCheckpoint) :
      Move host files s₀ e c { c with pendingConvergenceRoundId := some round.roundId }
  /-- A new workflow starts. -/
  | started {c : Core} {request : String} (hcalls : c.calls = []) :
      Move host files s₀ e c (c.clearEvidence.call host (.beginIntent (some request)))
  /-- The workflow is left. -/
  | left {c : Core} {op : SessionOp} (hcalls : c.calls = [])
      (hop : op = .reset ∨
        op = .cancelDeepKnowledge ∧ (AtStage s₀ .deepKnowledgeRetrieval ∨ AtStage s₀ .knowledgeUnderstanding ∨
          (AtStage s₀ .waitUser ∧ s₀.session.uiState.waitUser.map (·.kind) = some .deepDecision))) :
      Move host files s₀ e c (c.leave host op)
  /-- A discovery opens a round, and Grill begins. -/
  | grillEntered {c : Core} {goal rootDir : String} {summary : Option String} (hgoes : GoesOn c.calls)
      (hstage : c.session.uiState.stage = .workflow .lightDiscovery)
      (horch : c.session.orchestrator = some .lightDiscovery) :
      Move host files s₀ e c
        ((((c.discover host files goal rootDir).saveTools host).setTools host grillToolNames).call host
          (.beginGrill summary))
  /-- A candidate of the snapshot is read: the session notes it, and it is kept across rounds. -/
  | fetched {c : Core} {candidateId : String} {workflow : ActiveWorkflowContext}
      {candidate : GrillEvidenceCandidate} (he : e = .grillEvidence candidateId) (hcalls : c.calls = [])
      (hactive : HasActiveGrillAttempt s₀) (hworkflow : s₀.activeWorkflow = some workflow)
      (hcandidate : workflow.snapshot.candidates.get? candidateId = some candidate)
      (hround : s₀.session.currentGrillRound ≠ none) (hadmitted : admittedCandidate? s₀ candidateId = some candidate) :
      Move host files s₀ e c
        { c.call host (.recordEvidenceFetch candidate.candidateId) with
          fetchedGrillEvidence := Core.remember c.fetchedGrillEvidence (candidateEvidence candidate) }
  /-- An item of a search is recorded: in the session, and across rounds. -/
  | supplemented {c : Core} {identity : DeepAttemptIdentity} {item : EvidenceInput}
      (hfinds : SearchFinds host files s₀ identity item e) (hlive : c.session.deepAttempt = some identity)
      (hfree : ∀ existing, c.session.deepSupplementalEvidence.get? item.evidenceId = some existing →
        existing.content = item.content) :
      Move host files s₀ e c
        { c.call host (.recordDeepSupplementalEvidence identity item.evidenceId (some item)) with
          fetchedDeepSupplementalEvidence := Core.remember c.fetchedDeepSupplementalEvidence item }
  /-- The session holds another content under the ID of the item: the call throws. -/
  | supplementRefused {c : Core} {identity : DeepAttemptIdentity} {item existing : EvidenceInput}
      (h : c.session.deepSupplementalEvidence.get? item.evidenceId = some existing)
      (hcontent : existing.content ≠ item.content) :
      Move host files s₀ e c
        (c.call host (.recordDeepSupplementalEvidence identity item.evidenceId (some item)))
  /-- An accepted request for discovery is noted. -/
  | discoveryNoted {c : Core} {identity : DeepAttemptIdentity} {summary : Option String}
      (hlive : s₀.session.deepAttempt = some identity)
      (hcalls : c.calls = [.handleDeepResult identity (.needsDiscovery summary)]) :
      Move host files s₀ e c
        { c with
          acceptedNeedsDiscoverySourceRoundIds :=
            c.acceptedNeedsDiscoverySourceRoundIds ++ [identity.sourceRoundId] }
  /-- A confirmed fallback leaves a premise. -/
  | fallbackConfirmed {c : Core} {answer : String} {workflow : ActiveWorkflowContext}
      {waitUser : WaitUserState} (hcalls : c.calls = [.recordAnswer answer])
      (hworkflow : c.activeWorkflow = some workflow) (hasks : pendingDeepQuestion? s₀ = some waitUser)
      (hkind : waitUser.kind = .deepDiscoveryFallback)
      (hanswered : c.session.uiState.stage ≠ .workflow .waitUser) :
      Move host files s₀ e c
        { c with
          fallbackHumanDecisionId := some waitUser.decisionId
          fallbackHumanPremise := some (fallbackPremise host workflow.goal waitUser.question answer
            c.acceptedNeedsDiscoverySourceRoundIds) }
  /-- The understanding phase starts on a confirmed fallback. -/
  | fallbackEntered {c : Core} {answer : String} {summary : Option String} {waitUser : WaitUserState}
      (hcalls : c.calls = [.recordAnswer answer]) (hasks : pendingDeepQuestion? s₀ = some waitUser)
      (hkind : waitUser.kind = .deepDiscoveryFallback) (hnoted : FallbackNoted host waitUser answer c) :
      Move host files s₀ e c (c.call host (.beginDeepKnowledge summary .knowledgeUnderstanding))
  /-- The bundle is committed: the session ends the workflow, and the tools of the user come back. -/
  | finalized {c : Core} {identity : AdrBuildIdentity} {candidate : AdrBuildCandidate}
      {commit : CommitDocumentsResult} (hcalls : c.calls = [.prepareAdrBuild identity candidate]) :
      Move host files s₀ e c ((c.call host (.finalizeAdrBuild identity commit)).restoreTools host)

/-- A sequence of moves from the start of a step. -/
inductive Path (host : Host) (files : Files) (s₀ : ExtensionState) (e : Event) : Core → Prop
  | start (h : s₀.calls = []) : Path host files s₀ e s₀.core
  | move {c c' : Core} (h : Path host files s₀ e c) (hmove : Move host files s₀ e c c') :
      Path host files s₀ e c'

end ForgeRuntime
