import ForgeRuntime.Extension.GrillTools

/-!
# The tools of the Deep steps

`forge_deep_search` looks for supplemental evidence within its budget, `forge_deep_retrieval_complete` locks
the evidence and moves on to the understanding phase, and `forge_deep_complete` builds the evidence package
and hands it to Context Build.
-/

namespace ForgeRuntime

open EventDriven EventDriven.Text

inductive SearchSource where
  | wiki
  | codeBase
  | target
deriving DecidableEq, Repr

/-- A source is the kind of the evidence found in it. -/
def SearchSource.kind : SearchSource → GrillEvidenceKind
  | .wiki => .wiki
  | .codeBase => .codeBase
  | .target => .target

structure DeepSearchParams where
  attemptId : String
  sourceRoundId : String
  query : String
  source : SearchSource
  targetSource : Option String
deriving DecidableEq, Repr

inductive RetrievalOutcome where
  | completed
  | needsDecision (decision : DeepNeedsDecisionResult)
  | needsDiscovery (decisionSummary : Option String)
deriving DecidableEq, Repr

structure UnderstandingResult where
  knowledgeSummary : String
  decisions : List EvidenceDecision
  findings : List EvidenceFinding
  limitations : List EvidenceLimitation
  verificationLevel : Option EvidenceVerificationLevel
  specGap : Option SpecGap
  formalSpecReference : Option FormalSpecReference
deriving DecidableEq, Repr

inductive UnderstandingOutcome where
  | completed (result : UnderstandingResult)
  | needsDecision (decision : DeepNeedsDecisionResult)
  | needsDiscovery (decisionSummary : Option String)
deriving DecidableEq, Repr

namespace Extension

variable (host : Host) (files : Files)

/-! ### Texts -/

def endsWith (text suffix : String) : Bool := suffix.toList.isSuffixOf text.toList

/-- Does the lower-cased source and content of an item hold the query? -/
def matchesQuery (query source content : String) : Bool :=
  includes (host.toLowerCase (source ++ "\n" ++ content)) query

/-- A path with forward slashes only. -/
def forwardSlashes (path : String) : String :=
  String.ofList (path.toList.map fun c => if c = '\\' then '/' else c)

/-- Two paths name the same file, or one is the end of the other. -/
def samePath (itemSource source : String) : Bool :=
  itemSource == source || endsWith itemSource ("/" ++ source) || endsWith source ("/" ++ itemSource)

/-! ### `forge_deep_search` -/

def deepSearchMaxQueryCodePoints : Nat := 1500

def staleRetrieval : ToolResult :=
  { text := "過期的 Deep Retrieval 嘗試已忽略。"
    details :=
      { status := some .stale
        evidence := some [] }
    terminate := true }

def invalidTarget (text reason : String) : ToolResult :=
  { text := text
    details :=
      { status := some .invalid
        retryable := some true
        reason := some reason }
    terminate := true }

/-- The result of a search that found its evidence without looking at the files. -/
def reusedResult (text : String) (identity : DeepAttemptIdentity) (reusedEvidenceIds : List String) :
    ToolResult :=
  { text := text
    details :=
      { status := some .accepted
        identity := some identity
        evidence := some []
        reusedEvidenceIds := some reusedEvidenceIds }
    terminate := true }

/-- The target candidates of a workflow that hold the query. -/
def targetCandidates (workflow : ActiveWorkflowContext) (query : String) : List GrillEvidenceCandidate :=
  workflow.snapshot.candidates.values.filter fun candidate =>
    decide (candidate.kind = .target) && matchesQuery host query candidate.source candidate.content

/-- The target candidates that the call names. -/
def matchingTargets (candidates : List GrillEvidenceCandidate) (targetSource : String) :
    List GrillEvidenceCandidate :=
  candidates.filter fun candidate =>
    candidate.source == targetSource || relativePath? candidate.metadata == some targetSource ||
      candidate.source == "target/" ++ targetSource

/-- A source without the name of its tree. -/
def belowTarget (source : String) : String :=
  if startsWith source "target/" then String.ofList (source.toList.drop 7) else source

/-- The question which target file is meant. -/
def targetQuestion (identity : DeepAttemptIdentity) (candidates : List GrillEvidenceCandidate)
    (evidenceIds : List String) : DeepNeedsDecisionResult :=
  let options := sortedTexts (candidates.map fun candidate =>
    (relativePath? candidate.metadata).getD (belowTarget candidate.source))
  { decisionId := identity.attemptId ++ "-target-source"
    question := "Target source 不明確，請選擇一個明確的 target 檔案。"
    options := options
    recommendation := options.head?.getD "補充明確的 targetSource"
    evidenceIds := evidenceIds
    decisionSummary := none }

/-- Ask which target file is meant; the Deep step ends with the question. -/
def askTarget (identity : DeepAttemptIdentity) (decision : DeepNeedsDecisionResult) : Ext Reply := do
  match ← sessionState.handleDeepResult identity (.needsDecision decision) with
  | .stale _ _ => return .tool staleRetrieval
  | .accepted state _ | .invalid state _ =>
      restoreActiveTools host
      publishState state
      return .tool
        { text := decision.question
          details :=
            { status := some .needsDecision
              question := some decision.question
              options := some decision.options
              evidenceIds := some decision.evidenceIds }
          terminate := true }

/-- What the files hold for the query. -/
def searchFiles (params : DeepSearchParams) (workflow : ActiveWorkflowContext)
    (selectedTarget : Option GrillEvidenceCandidate) (query : String) :
    Except String (List EvidenceInput) :=
  match params.source with
  | .wiki => do
      let documents ← files.wikiSources workflow.rootDir
      return ((documents.filter fun d => matchesQuery host query d.path d.content).take 3).map fun d =>
        { evidenceId := createEvidenceId host "wiki" d.path d.content
          kind := "wiki"
          source := d.path
          title := d.path
          content := d.content
          metadata := d.metadata }
  | .codeBase => do
      let sources ← files.codeBaseSources workflow.rootDir params.query
      return (sources.take 3).map fun d =>
        { evidenceId := createEvidenceId host "code_base" d.path d.content
          kind := "code_base"
          source := d.path
          title := d.path
          content := d.content
          metadata := d.metadata }
  | .target => .ok (selectedTarget.map candidateEvidence).toList

/-- The fetched candidate that an item of the search is the same file as. -/
def reusedCandidate? (fetched : List GrillEvidenceCandidate) (item : EvidenceInput) :
    Option GrillEvidenceCandidate :=
  fetched.find? fun candidate =>
    decide (candidate.kind.text = item.kind) &&
      (([some candidate.source, relativePath? candidate.metadata].filterMap truthy).any fun source =>
        samePath (forwardSlashes item.source) (forwardSlashes source))

def isOversized (item : EvidenceInput) : Bool :=
  (evidenceTooLargeRejection? item.metadata).isSome ||
    decide (item.content.utf8ByteSize > deepEvidenceMaxBytes)

def searchOversized (item : EvidenceInput) : ToolResult :=
  let rejection := evidenceTooLargeRejection? item.metadata
  { text := "Deep Search 證據過大，單筆上限為 " ++ toString deepEvidenceMaxBytes ++
      " bytes，已拒絕這次搜尋。"
    details :=
      { status := some .rejected
        reason := some ((rejection.map (·.reason)).getD "evidence_too_large")
        byteSize := rejection.map (·.byteSize)
        limit := some ((rejection.map (·.limit)).getD deepEvidenceMaxBytes)
        evidence := some [] }
    terminate := true }

/-- Keep the evidence of a search, in the session and across rounds. -/
def recordSearchEvidence (identity : DeepAttemptIdentity) : List EvidenceInput → Ext Unit
  | [] => return
  | item :: rest => do
      if let .accepted _ _ ← sessionState.recordDeepSupplementalEvidence identity item then
        match rememberedIn (← get).fetchedDeepSupplementalEvidence item with
        | .error e => throw e
        | .ok store => modify fun s => { s with fetchedDeepSupplementalEvidence := store }
      recordSearchEvidence identity rest

/-- A search of the files, with a reserved place in the budget. -/
def searchWithBudget (identity : DeepAttemptIdentity) (found : Except String (List EvidenceInput))
    (fetched : List GrillEvidenceCandidate) : Ext Reply := do
  match found with
  | .error e => do
      let _ ← sessionState.releaseDeepSearchBudget identity
      throw e
  | .ok evidence =>
      let reused := evidence.filterMap (reusedCandidate? fetched)
      let supplemental := evidence.filter fun item => (reusedCandidate? fetched item).isNone
      match supplemental.find? isOversized with
      | some item =>
          let _ ← sessionState.releaseDeepSearchBudget identity
          return .tool (searchOversized item)
      | none =>
          let held := fetched.map candidateEvidence ++
            (← get).session.deepSupplementalEvidence.values ++ supplemental
          if getDeepEvidenceContentBytes held > deepEvidenceRoundMaxBytes then
            let _ ← sessionState.releaseDeepSearchBudget identity
            return .tool { evidenceRoundTooLarge with terminate := true }
          if (← sessionState.commitDeepSearchBudget identity) = .stale then
            return .tool staleRetrieval
          recordSearchEvidence identity supplemental
          return .tool
            { text := join "\n\n" (supplemental.map (·.content))
              details :=
                { status := some .accepted
                  identity := some identity
                  evidence := some supplemental
                  reusedEvidenceIds :=
                    some (OrderedSet.ofList (reused.map (·.candidateId))).elems }
              terminate := true }

def searchBudgetExhausted : ToolResult :=
  { text := "本輪 Deep Search 最多搜尋 " ++ toString deepSearchMaxPerSourceRound ++
      " 次，已拒絕這次搜尋。"
    details :=
      { status := some .rejected
        reason := some "search_budget_exhausted"
        limit := some deepSearchMaxPerSourceRound }
    terminate := true }

/-- A search behind the checks of its parameters: reuse what is held, else look at the files. -/
def searchSource (identity : DeepAttemptIdentity) (params : DeepSearchParams)
    (workflow : ActiveWorkflowContext) (query : String)
    (selectedTarget : Option GrillEvidenceCandidate) : Ext Reply := do
  let s ← get
  let fetched := fetchedCandidates s.session workflow.snapshot
  let reused := fetched.filter fun candidate =>
    decide (candidate.kind = params.source.kind) &&
      matchesQuery host query candidate.source candidate.content
  if reused ≠ [] then
    return .tool (reusedResult "已重用 Grill 快照中的證據。" identity
      (OrderedSet.ofList (reused.map (·.candidateId))).elems)
  let held := s.session.deepSupplementalEvidence.values.filter fun item =>
    decide (item.kind = params.source.kind.text) && matchesQuery host query item.source item.content
  if held ≠ [] then
    return .tool (reusedResult "已重用目前 Deep 嘗試中的證據。" identity (held.map (·.evidenceId)))
  match ← sessionState.reserveDeepSearchBudget identity with
  | .stale => return .tool staleRetrieval
  | .limit => return .tool searchBudgetExhausted
  | _ =>
      searchWithBudget identity (searchFiles host files params workflow selectedTarget query) fetched

/-- A search in the target tree: the call must name one file. -/
def searchTarget (identity : DeepAttemptIdentity) (params : DeepSearchParams)
    (workflow : ActiveWorkflowContext) (query : String) : Ext Reply := do
  let targetSource := params.targetSource.getD ""
  if Blank targetSource then
    return .tool (invalidTarget "Target source 不得為空白。" "target_source_required")
  if ∀ candidate ∈ workflow.snapshot.candidates.values, candidate.kind ≠ .target then
    return .tool (invalidTarget "Target manifest 為空，請改用 wiki 或 code_base。" "target_manifest_empty")
  let candidates := targetCandidates host workflow query
  match matchingTargets candidates targetSource with
  | [selected] => searchSource host files identity params workflow query (some selected)
  | _ =>
      askTarget host identity
        (targetQuestion identity candidates (← get).session.fetchedEvidenceIds.elems)

def forgeDeepSearch (params : DeepSearchParams) : Ext Reply := do
  let identity : DeepAttemptIdentity := ⟨params.attemptId, params.sourceRoundId, .deepKnowledgeRetrieval⟩
  let s ← get
  if s.session.deepAttempt ≠ some identity then
    return .tool staleRetrieval
  let some workflow := s.activeWorkflow | return .block
  let trimmedQuery := trim params.query
  if trimmedQuery = "" then
    return .tool
      { text := "Deep Search 查詢不得為空白。"
        details :=
          { status := some .invalid
            errors := some ["Deep Search 查詢不得為空白。"] }
        terminate := true }
  if codePoints trimmedQuery > deepSearchMaxQueryCodePoints then
    return .tool
      { text := "Deep Search 查詢最多 " ++ toString deepSearchMaxQueryCodePoints ++ " 個字元。"
        details :=
          { status := some .rejected
            reason := some "query_too_long"
            limit := some deepSearchMaxQueryCodePoints }
        terminate := true }
  let query := host.toLowerCase trimmedQuery
  if params.source = .target then
    searchTarget host files identity params workflow query
  else
    searchSource host files identity params workflow query none

/-! ### The end of a Deep step without a completion -/

/-- `recordAcceptedNeedsDiscovery` and `queueDiscoveryRestart`. -/
def noteDeepOutcome (toolCallId toolName : String) (identity : DeepAttemptIdentity)
    (completion : DeepCallResult) (outcome : DeepResult) (state : ForgeUiState) : Ext Unit := do
  if let .accepted _ accepted := completion then
    if let .needsDiscovery _ := outcome then
      modify fun s => { s with
        acceptedNeedsDiscoverySourceRoundIds :=
          s.acceptedNeedsDiscoverySourceRoundIds ++ [accepted.sourceRoundId] }
  if state.stage = .workflow .lightDiscovery then
    modify fun s => { s with pendingDiscoveryRestart := some ⟨toolCallId, toolName, identity⟩ }

/-- Show where the Deep step has led to. -/
def showDeepOutcome (ctx : CommandContext) (state : ForgeUiState) (result : ToolResult) : Ext Reply := do
  match state.stage, state.waitUser with
  | .workflow .waitUser, some waitUser =>
      return .ofTool (← publishWaitUserCaught ctx ⟨waitUser, none⟩ (some result)) result
  | _, _ =>
      publishState state
      return .tool result

/-- The word for an outcome in the texts of the results. -/
def outcomeKind : DeepResult → String
  | .needsDecision _ => "needs_decision"
  | .needsDiscovery _ => "needs_discovery"
  | _ => "completed"

def outcomeStatus : DeepResult → ToolStatus
  | .needsDecision _ => .needsDecision
  | .needsDiscovery _ => .needsDiscovery
  | _ => .accepted

/-- A question or a request for discovery ends the Deep step. -/
def endDeepStep (toolCallId toolName label : String) (identity : DeepAttemptIdentity)
    (outcome : DeepResult) (stale : ToolResult) (ctx : CommandContext) : Ext Reply := do
  let completion ← sessionState.handleDeepResult identity outcome
  match completion with
  | .stale _ _ => return .tool stale
  | .accepted state _ | .invalid state _ =>
      noteDeepOutcome toolCallId toolName identity completion outcome state
      restoreActiveTools host
      showDeepOutcome ctx state
        { text := label ++ "的 " ++ outcomeKind outcome ++ " 結果已接受。"
          details :=
            { status := some (outcomeStatus outcome)
              payload := some outcome }
          terminate := true }

/-- The result when a question cites evidence that is not known. -/
def unknownEvidence (label : String) : ToolResult :=
  let error := label ++ " 的 needs_decision 引用了未知的 Evidence ID。"
  { text := error
    details :=
      { status := some .invalid
        errors := some [error] } }

/-! ### `forge_deep_retrieval_complete` -/

def staleRetrievalCompletion : ToolResult :=
  { text := "過期的 Deep Retrieval 完成結果已忽略。"
    details :=
      { status := some .stale
        lockedEvidenceIds := some [] }
    terminate := true }

def invalidRetrievalCompletion (errors : List String) : ToolResult :=
  { text := join "\n" errors
    details :=
      { status := some .invalid
        errors := some errors
        lockedEvidenceIds := some [] } }

def deepBoundaryRefused : ToolResult :=
  { text := "Forge 無法安全限制 Deep 工具面，已拒絕處理。"
    details :=
      { status := some .rejected
        reason := some "deep_tool_boundary_unavailable" } }

/-- The batch holds searches and completions, and the call is one of the completions. -/
def InMixedBatch (s : ExtensionState) (toolCallId : String) : Prop :=
  ∃ batch ∈ s.deepRetrievalBatch, batch.mixed = true ∧ toolCallId ∈ batch.completionCallIds

instance (s : ExtensionState) (toolCallId : String) : Decidable (InMixedBatch s toolCallId) :=
  match h : s.deepRetrievalBatch with
  | none => isFalse (by simp [InMixedBatch, h])
  | some batch =>
      decidable_of_iff (batch.mixed = true ∧ toolCallId ∈ batch.completionCallIds) (by
        simp [InMixedBatch, h])

def mixedBatchRejected (identity : DeepAttemptIdentity) : ToolResult :=
  { text := "同一批次仍有 Deep Search，完成結果將於搜尋結束後重試。"
    details :=
      { status := some .rejected
        reason := some "mixed_search_completion_batch"
        retryable := some true
        identity := some identity }
    terminate := true }

/-- The evidence is locked and the understanding phase starts. -/
def completeRetrieval (identity : DeepAttemptIdentity) (workflow : ActiveWorkflowContext) :
    Ext Reply := do
  let inherited := (fetchedCandidates (← get).session workflow.snapshot).map candidateEvidence
  match ← sessionState.completeDeepRetrieval inherited identity with
  | .stale _ _ => return .tool staleRetrievalCompletion
  | .invalid _ errors => return .tool (invalidRetrievalCompletion errors)
  | .accepted state accepted =>
      activateDeepUnderstandingTools host
      publishState state
      modify fun s => { s with
        pendingSettledDeepInvocation :=
          (s.activeWorkflow.map fun workflow => ⟨workflow, continueDeepInvocation accepted, accepted⟩) <|>
            s.pendingSettledDeepInvocation }
      let locked := (← get).session.lockedDeepEvidence
      return .tool
        { text := "Forge Deep Retrieval 完成結果已接受。"
          details :=
            { status := some .accepted
              identity := some accepted
              lockedEvidenceIds := some
                ((locked.map fun l => (l.inherited ++ l.supplemental).map (·.evidenceId)).getD []) }
          terminate := true }

def forgeDeepRetrievalComplete (toolCallId attemptId sourceRoundId : String)
    (outcome : RetrievalOutcome) (ctx : CommandContext) : Ext Reply := do
  let identity : DeepAttemptIdentity := ⟨attemptId, sourceRoundId, .deepKnowledgeRetrieval⟩
  let s ← get
  if InMixedBatch s toolCallId then
    return .tool (mixedBatchRejected identity)
  if s.session.deepAttempt ≠ some identity then
    return .tool staleRetrievalCompletion
  let some workflow := s.activeWorkflow | return .block
  if !(← requireDeepToolBoundary host) then
    return .tool deepBoundaryRefused
  match outcome with
  | .needsDecision decision =>
      let known := s.session.fetchedEvidenceIds.elems ++ s.session.deepSupplementalEvidenceIds.elems
      if HasUnknownEvidenceIds decision.evidenceIds known then
        return .tool (unknownEvidence "Deep Retrieval")
      endDeepStep host toolCallId "forge_deep_retrieval_complete" "Forge Deep Retrieval " identity
        (.needsDecision decision) staleRetrievalCompletion ctx
  | .needsDiscovery decisionSummary =>
      endDeepStep host toolCallId "forge_deep_retrieval_complete" "Forge Deep Retrieval " identity
        (.needsDiscovery decisionSummary) staleRetrievalCompletion ctx
  | .completed => completeRetrieval host identity workflow

/-! ### `forge_deep_complete` -/

def staleUnderstanding : ToolResult :=
  { text := "過期的 Knowledge Understanding 完成結果已忽略。"
    details := { status := some .stale }
    terminate := true }

/-- The result when the understanding phase ended while its package was checked. -/
def stalePackage (evidencePackage : EvidencePackage) : ToolResult :=
  { text := "過期的 Knowledge Understanding 完成結果已忽略。"
    details :=
      { status := some .stale
        evidencePackage := some evidencePackage }
    terminate := true }

def invalidResult (text : String) (errors : List String) (evidencePackage : Option EvidencePackage) :
    ToolResult :=
  { text := text
    details :=
      { status := some .invalid
        errors := some errors
        evidencePackage := evidencePackage } }

/-- The evidence that a package inherits, and the supplemental evidence. -/
def packageEvidence (s : ExtensionState) : List EvidenceInput × List EvidenceInput :=
  match s.session.lockedDeepEvidence with
  | some locked => (locked.inherited, locked.supplemental)
  | none => (s.fetchedGrillEvidence.values, s.fetchedDeepSupplementalEvidence.values)

/-- The premises of the user, with the one of a confirmed fallback. -/
def packagePremises (s : ExtensionState) : List EvidenceInput :=
  s.session.humanPremises.values ++ s.fallbackHumanPremise.toList

/-- The premise behind each decision of the user; the last one wins. -/
def premiseOfDecision? (s : ExtensionState) (decisionId : String) : Option String :=
  let fromPremises := ((packagePremises s).reverse.find? fun premise =>
    premise.metadata.lookup "decisionId" = some (.text decisionId)).map (·.evidenceId)
  match truthy s.fallbackHumanDecisionId, s.fallbackHumanPremise with
  | some fallbackDecisionId, some premise =>
      if fallbackDecisionId = decisionId then some premise.evidenceId else fromPremises
  | _, _ => fromPremises

/-- The decisions of a package: those of the user, then those of the model, each with its premise. -/
def packageDecisions (s : ExtensionState) (decisions : List EvidenceDecision) : List EvidenceDecision :=
  (s.session.humanDecisions.values ++ decisions).map fun decision =>
    match premiseOfDecision? s decision.decisionId with
    | some premiseId =>
        { decision with
          evidenceIds := (OrderedSet.ofList (decision.evidenceIds ++ [premiseId])).elems }
    | none => decision

/-- The round rests on premises of the user alone, and the call claims no verification. -/
def IsExploratory (s : ExtensionState) (round : GrillRound) (result : UnderstandingResult) : Prop :=
  round.isFirstRoundOfSnapshot = true ∧ round.snapshot.manifest.length = 0 ∧
    (packageEvidence s).1.length = 0 ∧ (packageEvidence s).2.length = 0 ∧
    (packagePremises s).length > 0 ∧ result.verificationLevel = none ∧ result.specGap = none ∧
    result.formalSpecReference = none

instance (s : ExtensionState) (round : GrillRound) (result : UnderstandingResult) :
    Decidable (IsExploratory s round result) :=
  inferInstanceAs (Decidable (_ ∧ _))

/-- The spec gap of an exploratory package. -/
def exploratorySpecGap (request : String) : SpecGap :=
  { target := request
    version := none
    environment := none
    scenarios := none
    verifiedAt := none
    reason := "本輪沒有可用的知識文件，僅依使用者明確提供的前提進行探索性開發。"
    missingEvidence := ["與本輪目標相關的知識文件或正式規格"]
    impact := "不得據此宣稱 API、協定、安全、法規或相容性；後續需補充可核對證據。" }

/-- The verification fields come together or not at all. -/
def MetadataCombinationIsValid (level : Option EvidenceVerificationLevel) (specGap : Option SpecGap)
    (formalSpecReference : Option FormalSpecReference) : Prop :=
  (level = none ∧ specGap = none ∧ formalSpecReference = none) ∨
    (level ≠ none ∧ specGap ≠ none ∧
      if level = some .specVerified then formalSpecReference ≠ none else formalSpecReference = none)

instance (level : Option EvidenceVerificationLevel) (specGap : Option SpecGap)
    (formalSpecReference : Option FormalSpecReference) :
    Decidable (MetadataCombinationIsValid level specGap formalSpecReference) :=
  inferInstanceAs (Decidable (_ ∨ _))

def invalidCombination : String :=
  "Evidence metadata 組合不完整：verificationLevel 與 specGap 必須成對；formalSpecReference 僅能搭配 spec_verified。"

/-- The package that a call hands in. -/
def understandingPackage (s : ExtensionState) (round : GrillRound) (result : UnderstandingResult) :
    Except String EvidencePackage :=
  let exploratory := decide (IsExploratory s round result)
  let level := if exploratory then some .exploratory else result.verificationLevel
  let specGap := if exploratory then some (exploratorySpecGap round.request) else result.specGap
  if ¬ MetadataCombinationIsValid level specGap result.formalSpecReference then
    .error invalidCombination
  else
    .ok (createEvidencePackage
      { inherited := (packageEvidence s).1
        supplemental := (packageEvidence s).2
        humanPremise := packagePremises s
        decisions := packageDecisions s result.decisions
        findings := result.findings
        limitations := result.limitations
        knowledgeSummary := result.knowledgeSummary
        verificationLevel := level
        specGap := specGap
        formalSpecReference := result.formalSpecReference })

/-- A hand-off that cannot be made: the tools of the user come back, and the result says why. -/
def stopHandOff (state : ForgeUiState) (text reason : String) (error : Option String)
    (evidencePackage : Option EvidencePackage) : Ext Reply := do
  restoreActiveTools host
  publishState state
  return .tool
    { text := text
      details :=
        { status := some .invalid
          reason := some reason
          error := error
          evidencePackage := evidencePackage }
      terminate := true }

/-- The accepted package goes to Context Build. -/
def handOffToContextBuild (state : ForgeUiState) (evidencePackage : EvidencePackage) : Ext Reply := do
  let s ← get
  match s.activeWorkflow, s.session.contextBuildAttempt, s.session.knowledgeUnderstandingPackage with
  | some workflow, some contextAttempt, some knowledgePackage =>
      match files.documentsBase workflow.rootDir with
      | .error error =>
          stopHandOff host state "Documents 基準無法安全建立，Context Build 已停止。"
            "documents_base_unavailable" (some error) none
      | .ok baseHash =>
          let identity : BuildIdentity := ⟨contextAttempt.attemptId, contextAttempt.sourceRoundId⟩
          let humanDecisions := getUnpackagedHumanDecisions s.session knowledgePackage
          match ← Turn.attempt (buildInvocation host files
              ⟨.contextBuild, identity, knowledgePackage, none, humanDecisions⟩) with
          | .error error =>
              stopHandOff host state "Context Build skill 無法載入，已停止。"
                "context_build_skill_unavailable" (some error) none
          | .ok invocation =>
              restoreActiveTools host
              activateContextBuildTools host
              modify fun s => { s with
                documentsBaseHash := some baseHash
                pendingSettledBuildInvocation := some ⟨workflow, invocation, .contextBuild, identity⟩ }
              publishState state
              return .tool
                { text := "Forge Deep 完成結果已接受。"
                  details :=
                    { status := some .accepted
                      evidencePackage := some evidencePackage }
                  terminate := true }
  | _, _, _ =>
      stopHandOff host state "Context Build 缺少可驗證的執行期輸入，已停止。"
        "context_build_input_unavailable" none (some evidencePackage)

def duplicateDecisionPrefix : String := "決策 ID 重複："

/-- The result for a package that the validator refuses. -/
def refusedPackage (errors : List String) (evidencePackage : EvidencePackage) : ToolResult :=
  let result := invalidResult (join "\n" errors) errors (some evidencePackage)
  if errors.any fun error => startsWith error duplicateDecisionPrefix then
    { result with details := { result.details with retryable := some true } }
  else result

/-- The end of the understanding phase: build the package, check it and hand it on. -/
def completeUnderstanding (identity : DeepAttemptIdentity) (result : UnderstandingResult) :
    Ext Reply := do
  let s ← get
  if (packageEvidence s).1.length = 0 ∧ (packageEvidence s).2.length = 0 ∧
      (packagePremises s).length = 0 then
    return .tool (invalidResult "Deep 證據尚未鎖定。" ["Deep evidence 尚未鎖定"] none)
  let round ← sessionState.continueGrillRound
  match understandingPackage s round result with
  | .error error => return .tool (invalidResult error [error] none)
  | .ok package =>
      match validateEvidencePackage package with
      | .error errors => return .tool (refusedPackage errors package)
      | .ok () =>
          match ← sessionState.handleDeepResult identity (.understandingCompleted package) with
          | .invalid _ errors => return .tool (invalidResult (join "\n" errors) errors (some package))
          | .stale _ _ => return .tool (stalePackage package)
          | .accepted state _ => handOffToContextBuild host files state package

def forgeDeepComplete (toolCallId attemptId sourceRoundId : String)
    (outcome : UnderstandingOutcome) (ctx : CommandContext) : Ext Reply := do
  let identity : DeepAttemptIdentity := ⟨attemptId, sourceRoundId, .knowledgeUnderstanding⟩
  let s ← get
  if s.session.deepAttempt ≠ some identity then
    return .tool staleUnderstanding
  if !(← requireDeepToolBoundary host) then
    return .tool deepBoundaryRefused
  match outcome with
  | .needsDecision decision =>
      let known := match s.session.lockedDeepEvidence with
        | some locked => (locked.inherited ++ locked.supplemental).map (·.evidenceId)
        | none => s.fetchedGrillEvidence.keys ++ s.fetchedDeepSupplementalEvidence.keys
      if HasUnknownEvidenceIds decision.evidenceIds known then
        return .tool (unknownEvidence "Knowledge Understanding")
      endDeepStep host toolCallId "forge_deep_complete" "Forge Deep " identity (.needsDecision decision)
        staleUnderstanding ctx
  | .needsDiscovery decisionSummary =>
      endDeepStep host toolCallId "forge_deep_complete" "Forge Deep " identity
        (.needsDiscovery decisionSummary) staleUnderstanding ctx
  | .completed result => completeUnderstanding host files identity result

end Extension

end ForgeRuntime
