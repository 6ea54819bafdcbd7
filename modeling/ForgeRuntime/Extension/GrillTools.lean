import ForgeRuntime.Extension.Answers

/-!
# The tools of a Grill round

`forge_grill_evidence` reads a candidate of the snapshot, `forge_grill_complete` hands in the result of the
round: a question for the user or the entry into Deep Knowledge.
-/

namespace ForgeRuntime

open EventDriven EventDriven.Text

/-- What a step answers to the host.  A tool call that waits for a selector returns its result when the
selector is closed. -/
inductive Reply where
  | done
  | block
  | tool (result : ToolResult)
  | toolLater (result : ToolResult)
  | gate (blocks : Bool)
  | continue_
  | handled
  | transform (text : String)
  | message
  | waiting
deriving DecidableEq, Repr

/-- The result that a call returns, now or later. -/
def Reply.result? : Reply → Option ToolResult
  | .tool result => some result
  | .toolLater result => some result
  | _ => none

/-- The result of a call that waits if a selector was opened. -/
def Reply.ofTool (opened : Bool) (result : ToolResult) : Reply :=
  if opened then .toolLater result else .tool result

namespace Extension

variable (host : Host) (files : Files)

def deepEvidenceMaxBytes : Nat := 256 * 1024

def deepEvidenceRoundMaxBytes : Nat := 2 * 1024 * 1024

/-- `getDeepEvidenceContentBytes`: each pair of ID and source counts once. -/
def getDeepEvidenceContentBytes (evidence : List EvidenceInput) : Nat :=
  (evidence.foldl (fun (seen : List (String × String) × Nat) item =>
    if (item.evidenceId, item.source) ∈ seen.1 then seen
    else (seen.1 ++ [(item.evidenceId, item.source)], seen.2 + item.content.utf8ByteSize)) ([], 0)).2

/-- The rejection that a reader left in the metadata of a file that is too large. -/
def evidenceTooLargeRejection? (metadata : Metadata) : Option EvidenceReadRejection :=
  match metadata.lookup "rejection" with
  | some (.rejection reason byteSize limit) =>
      if reason = "evidence_too_large" then some ⟨reason, byteSize, limit⟩ else none
  | _ => none

/-- A candidate in the form in which evidence is kept. -/
def candidateEvidence (candidate : GrillEvidenceCandidate) : EvidenceInput :=
  { evidenceId := candidate.candidateId
    kind := candidate.kind.text
    source := candidate.source
    title := candidate.title
    content := candidate.content
    metadata := candidate.metadata }

/-- The candidates of a snapshot that were fetched, in the order in which they were fetched. -/
def fetchedCandidates (session : SessionState) (snapshot : GrillEvidenceSnapshot) :
    List GrillEvidenceCandidate :=
  session.fetchedEvidenceIds.elems.filterMap snapshot.candidates.get?

/-- `rememberFetchedEvidence`, of the store it is given. -/
def rememberedIn (store : OrderedMap String EvidenceInput) (evidence : EvidenceInput) :
    Except String (OrderedMap String EvidenceInput) :=
  match store.get? evidence.evidenceId with
  | some existing =>
      if existing.content ≠ evidence.content then .error "evidence_id_content_conflict" else .ok store
  | none => .ok (store.insert evidence.evidenceId evidence)

def grillEvidenceTooLarge (byteSize : Option Nat) (limit : Nat) : ToolResult :=
  { text := "Grill 證據過大，單筆上限為 " ++ toString deepEvidenceMaxBytes ++ " bytes，已拒絕讀取。"
    details :=
      { status := some .rejected
        reason := some "evidence_too_large"
        byteSize := byteSize
        limit := some limit
        evidence := some [] } }

/-- The result when the evidence of a round would be too large. -/
def evidenceRoundTooLarge : ToolResult :=
  { text := "Deep Search 本輪證據總量超過 " ++ toString deepEvidenceRoundMaxBytes ++
      " bytes，已拒絕這次搜尋。"
    details :=
      { status := some .rejected
        reason := some "evidence_round_too_large"
        limit := some deepEvidenceRoundMaxBytes
        evidence := some [] } }

def forgeGrillEvidence (candidateId : String) : Ext Reply := do
  let s ← get
  if ¬ HasActiveGrillAttempt s then
    return .block
  let some workflow := s.activeWorkflow | throw "GRILL_EVIDENCE_CANDIDATE_NOT_FOUND"
  let some candidate := workflow.snapshot.candidates.get? candidateId
    | throw "GRILL_EVIDENCE_CANDIDATE_NOT_FOUND"
  if let some rejection := evidenceTooLargeRejection? candidate.metadata then
    return .tool (grillEvidenceTooLarge (some rejection.byteSize) rejection.limit)
  if candidate.content.utf8ByteSize > deepEvidenceMaxBytes then
    return .tool (grillEvidenceTooLarge none deepEvidenceMaxBytes)
  let roundEvidence := (fetchedCandidates s.session workflow.snapshot ++ [candidate]).map candidateEvidence
  if getDeepEvidenceContentBytes roundEvidence > deepEvidenceRoundMaxBytes then
    return .tool { evidenceRoundTooLarge with terminate := false }
  sessionState.recordEvidenceFetch candidate.candidateId
  match rememberedIn (← get).fetchedGrillEvidence (candidateEvidence candidate) with
  | .error e => throw e
  | .ok store =>
      modify fun s => { s with fetchedGrillEvidence := store }
      return .tool
        { text := candidate.content
          details := { candidate := some { candidateEvidence candidate with content := "" } } }

/-! ### `forge_grill_complete` -/

/-- The question that stands in for the one of a first round on an empty snapshot. -/
def exploratoryConsentQuestion : GrillQuestion :=
  { id := emptySnapshotExploratoryConsentId
    options := ["同意", "不同意"]
    question := "目前沒有可用的知識文件，是否同意以人類前提進行探索性開發？" }

def parseActiveGrillCompletion (payload : Json String) : Ext GrillCompletionPayload := do
  let round ← sessionState.continueGrillRound
  let context : GrillCompletionContext :=
    { expectedRoundId := round.roundId
      fetchedEvidenceIds := (← get).session.fetchedEvidenceIds
      isFirstRoundOfSnapshot := round.isFirstRoundOfSnapshot
      snapshotManifest := round.snapshot.manifest }
  match parseGrillCompletion host.parseJson payload context with
  | .error e => throw e
  | .ok completion =>
      if round.isFirstRoundOfSnapshot = true ∧ round.snapshot.manifest.length = 0 ∧
          completion.requiresUserConfirmation = true then
        return { completion with
          questions := [exploratoryConsentQuestion]
          recommendation := { completion.recommendation with value := "同意" } }
      return completion

def waitUserUiFailure (error : String) : String := "Forge WAIT_USER UI 失敗：" ++ error

/-- `publishWaitUser(…).catch(…)`: an error is reported. -/
def publishWaitUserCaught (ctx : CommandContext) (payload : WaitUserPayload)
    (reply : Option ToolResult) : Ext Bool :=
  tryCatch (publishWaitUser ctx payload reply true) fun error => do
    notify (waitUserUiFailure error)
    return false

/-- The result when Deep Knowledge was not entered. -/
def deepToolBoundaryUnavailable : ToolResult :=
  { text := "Forge 無法安全限制 Deep 工具面，已拒絕進入 Deep。"
    details :=
      { status := some .rejected
        reason := some "deep_tool_boundary_unavailable" } }

def deepSettledInvocationUnavailable : ToolResult :=
  { text := "Forge 無法安全準備 Deep 交接，已拒絕進入 Deep。"
    details :=
      { status := some .rejected
        reason := some "deep_settled_invocation_unavailable" } }

/-- `["GRILL", "WAIT_USER"].includes(sessionState.current().stage)`. -/
def refreshPendingGrillRun : Ext Unit :=
  modify fun s => { s with pendingGrillRun := decide (AtStage s .grill ∨ AtStage s .waitUser) }

def grillStatus (completion : GrillCompletionPayload) : ToolStatus :=
  match completion.status with
  | .needsConfirmation => .needsConfirmation
  | .readyForDeep => .readyForDeep

def grillAccepted (completion : GrillCompletionPayload) : ToolResult :=
  { text := "Forge Grill 完成結果已接受。"
    details :=
      { roundId := some completion.roundId
        status := some (grillStatus completion) }
    terminate := true }

/-- The explorative consent was given for this empty snapshot. -/
def EmptySnapshotAlreadyApproved (s : ExtensionState) : Prop :=
  s.explorationConsentGranted = true ∧ ∃ round ∈ s.session.currentGrillRound,
    round.isFirstRoundOfSnapshot = true ∧ round.snapshot.manifest.length = 0

instance (s : ExtensionState) : Decidable (EmptySnapshotAlreadyApproved s) :=
  inferInstanceAs (Decidable (_ ∧ _))

/-- The completion of a round that asks: the question is put before the user without waiting for it. -/
def completeGrillWithQuestion (ctx : CommandContext) (completion : GrillCompletionPayload) :
    Ext Reply := do
  match toWaitUserPayload completion with
  | .error e => throw e
  | .ok waitUser =>
      let _ ← publishWaitUserCaught ctx waitUser none
      refreshPendingGrillRun
      return .tool (grillAccepted completion)

/-- The completion of a round that is ready for Deep Knowledge. -/
def completeGrillWithDeep (ctx : CommandContext) (completion : GrillCompletionPayload)
    (emptySnapshotAlreadyApproved : Bool) : Ext Reply := do
  let s ← get
  let isConvergenceRound := decide (s.pendingConvergenceRoundId = some completion.roundId)
  modify fun s => { s with pendingConvergenceRoundId := none }
  let onPremises := decide (completion.evidence.length = 0 ∧ s.session.humanPremises.values.length > 0)
  match ← continueDeepKnowledge host ctx completion.recommendation.reason
      (activateDeepRetrievalTools host) .settled
      (emptySnapshotAlreadyApproved || isConvergenceRound || onPremises)
      (some deepToolBoundaryUnavailable) with
  | .asked opened => return .ofTool opened deepToolBoundaryUnavailable
  | .refused => return .tool deepToolBoundaryUnavailable
  | .sending => return .tool deepSettledInvocationUnavailable
  | .entered invocation =>
      let s ← get
      match s.activeWorkflow, s.session.deepAttempt with
      | some workflow, some identity =>
          modify fun s => { s with pendingSettledDeepInvocation := some ⟨workflow, invocation, identity⟩ }
          refreshPendingGrillRun
          return .tool (grillAccepted completion)
      | _, _ => return .tool deepSettledInvocationUnavailable

def forgeGrillComplete (payload : Json String) (ctx : CommandContext) : Ext Reply := do
  if ¬ HasActiveGrillAttempt (← get) then
    return .block
  let completion ← parseActiveGrillCompletion host payload
  let emptySnapshotAlreadyApproved := decide (EmptySnapshotAlreadyApproved (← get))
  if completion.requiresUserConfirmation = true ∧ emptySnapshotAlreadyApproved = false then
    completeGrillWithQuestion ctx completion
  else
    completeGrillWithDeep host ctx completion emptySnapshotAlreadyApproved

end Extension

end ForgeRuntime
