import ForgeRuntime.Extension.GrillTools

/-!
# The tools of Context Build and ADR Build

`forge_context_complete` takes the glossary and hands over to ADR Build; `forge_adr_complete` takes the
records, writes the three documents and ends the workflow.  Either tool may ask the user instead.
-/

namespace ForgeRuntime

open EventDriven EventDriven.Text

/-- What ADR Build hands in. -/
inductive AdrOutcome where
  | completed (candidate : AdrBuildCandidate)
  | ambiguous (ambiguity : ContextAmbiguity)
deriving DecidableEq, Repr

namespace Extension

variable (host : Host) (files : Files)

def buildBoundaryRefused (text reason : String) : ToolResult :=
  { text := text
    details :=
      { status := some .rejected
        reason := some reason } }

/-- The result for an attempt that is not live. -/
def staleBuild (text : String) : ToolResult :=
  { text := text
    details := { status := some .stale }
    terminate := true }

def invalidBuild (errors : List String) : ToolResult :=
  { text := join "\n" errors
    details :=
      { status := some .invalid
        errors := some errors } }

/-- The result of a call that asks the user. -/
def ambiguousBuild (text : String) : ToolResult :=
  { text := text
    details := { status := some .ambiguous }
    terminate := true }

/-- Put the question of an ambiguity before the user; the call waits for the selector. -/
def askBuildQuestion (ctx : CommandContext) (state : ForgeUiState) (result : ToolResult) : Ext Reply := do
  restoreActiveTools host
  match state.waitUser with
  | some waitUser => return .ofTool (← publishWaitUser ctx ⟨waitUser, none⟩ (some result) false) result
  | none =>
      publishState state
      return .tool result

/-! ### `forge_context_complete` -/

/-- A stale completion of a Context Build whose invocation was sent is answered by sending it once more. -/
def replayContextBuild : Ext Unit :=
  modify fun s =>
    match s.pendingSettledBuildInvocation, s.session.contextBuildAttempt, s.lastSentContextBuildInvocation with
    | none, some currentAttempt, some lastSent =>
        let identity : BuildIdentity := ⟨currentAttempt.attemptId, currentAttempt.sourceRoundId⟩
        if lastSent.stage = .contextBuild ∧ lastSent.identity = identity ∧
            s.replayedContextBuildIdentity ≠ some identity then
          { s with
            pendingSettledBuildInvocation := some lastSent
            replayedContextBuildIdentity := some lastSent.identity }
        else s
    | _, _, _ => s

/-- The glossary was taken, but ADR Build cannot be entered. -/
def adrBuildStopped (text reason : String) (error : Option String) : ToolResult :=
  { text := text
    details :=
      { status := some .invalid
        reason := some reason
        error := error }
    terminate := true }

def contextAccepted : ToolResult :=
  { text := "Forge Context Build 完成結果已接受。"
    details := { status := some .accepted }
    terminate := true }

/-- The tools of the user come back, and the result says why the hand-off stopped. -/
def stopAdrBuild (state : ForgeUiState) (result : ToolResult) : Ext Reply := do
  restoreActiveTools host
  publishState state
  return .tool result

/-- The accepted glossary goes to ADR Build. -/
def handOffToAdrBuild (state : ForgeUiState) : Ext Reply := do
  let s ← get
  match s.activeWorkflow, s.session.adrBuildAttempt, s.session.knowledgeUnderstandingPackage,
      s.session.contextCandidate, truthy s.documentsBaseHash with
  | some workflow, some adrAttempt, some knowledgePackage, some contextCandidate, some _ =>
      let identity : BuildIdentity := ⟨adrAttempt.attemptId, adrAttempt.sourceRoundId⟩
      let humanDecisions := getUnpackagedHumanDecisions s.session knowledgePackage
      match ← Turn.attempt (buildInvocation host files
          ⟨.adrBuild, identity, knowledgePackage, some contextCandidate, humanDecisions⟩) with
      | .error error =>
          stopAdrBuild host state
            (adrBuildStopped "ADR Build skill 無法載入，已停止。" "adr_build_skill_unavailable" (some error))
      | .ok invocation =>
          activateAdrBuildTools host
          modify fun s => { s with
            pendingSettledBuildInvocation := some ⟨workflow, invocation, .adrBuild, identity⟩ }
          publishState state
          return .tool contextAccepted
  | _, _, _, _, _ =>
      stopAdrBuild host state
        (adrBuildStopped "ADR Build 缺少可驗證的執行期輸入，已停止。" "adr_build_input_unavailable" none)

/-- No invocation of Context Build is kept any more. -/
def forgetContextBuildInvocations : Ext Unit :=
  modify fun s => { s with
    pendingSettledBuildInvocation := none
    lastSentContextBuildInvocation := none
    replayedContextBuildIdentity := none }

def forgeContextComplete (attemptId sourceRoundId : String) (outcome : ContextBuildCompletion)
    (ctx : CommandContext) : Ext Reply := do
  if !(← requireBuildToolBoundary host) then
    return .tool (buildBoundaryRefused "Forge 無法安全限制 Context 工具面，已拒絕處理。"
      "context_tool_boundary_unavailable")
  match ← sessionState.completeContextBuild ⟨attemptId, sourceRoundId⟩ outcome with
  | .stale _ _ =>
      replayContextBuild
      return .tool (staleBuild "過期的 Context Build 完成結果已忽略。")
  | .invalid _ errors => return .tool (invalidBuild errors)
  | .ambiguous state _ =>
      forgetContextBuildInvocations
      askBuildQuestion host ctx state (ambiguousBuild "Context Build 的重大歧義需要使用者決定。")
  | .accepted state _ =>
      forgetContextBuildInvocations
      handOffToAdrBuild host files state

/-! ### `forge_adr_complete` -/

/-- A commit that cannot be made. -/
def commitStopped (text reason : String) : ToolResult :=
  { text := text
    details :=
      { status := some .invalid
        reason := some reason } }

def adrAccepted (commit : CommitDocumentsResult) : ToolResult :=
  { text := "Forge ADR Build 與 Documents bundle 已完成。"
    details :=
      { status := some .accepted
        commit := some commit }
    terminate := true }

/-- The result for a commit that did not succeed. -/
def refusedCommit (status : ToolStatus) (errors : List String) : ToolResult :=
  { text := join "\n" errors
    details :=
      { status := some status
        errors := some errors } }

/-- The bundle stands on disk: the session ends the workflow. -/
def finalizeDocuments (identity : AdrBuildIdentity) (commit : CommitDocumentsResult) : Ext Reply := do
  match ← sessionState.finalizeAdrBuild identity commit with
  | .accepted state _ =>
      modify fun s => { s with documentsBaseHash := none }
      restoreActiveTools host
      publishState state
      return .tool (adrAccepted commit)
  | _ =>
      return .tool (commitStopped "Documents 已提交，但 ADR Build 無法完成狀態轉移。" "adr_finalize_failed")

/-- Write the documents of an accepted candidate and commit them. -/
def commitDocuments (identity : AdrBuildIdentity) : Ext Reply := do
  let s ← get
  match s.activeWorkflow, s.session.knowledgeUnderstandingPackage, s.session.contextCandidate,
      s.session.adrBuildCandidate, truthy s.documentsBaseHash with
  | some workflow, some knowledgePackage, some contextCandidate, some adrBuildCandidate, some baseHash =>
      let documents := renderDeliverableDocuments knowledgePackage contextCandidate adrBuildCandidate
        (getUnpackagedHumanDecisions s.session knowledgePackage)
      emit (.commitDocuments workflow.rootDir baseHash documents)
      match files.commitBundle workflow.rootDir baseHash documents with
      | .error error => throw error
      | .ok (.conflict error) => return .tool (refusedCommit .conflict [error])
      | .ok (.invalid errors) => return .tool (refusedCommit .invalid errors)
      | .ok (.failed errors) => return .tool (refusedCommit .failed errors)
      | .ok (.committed committedHash) => finalizeDocuments host identity (.committed committedHash)
  | _, _, _, _, _ =>
      return .tool (commitStopped "Documents commit 缺少可驗證的執行期輸入，已停止。"
        "documents_commit_input_unavailable")

/-- The call of the session that an outcome makes. -/
def submitAdrOutcome (identity : AdrBuildIdentity) : AdrOutcome → Ext AdrBuildCallResult
  | .ambiguous ambiguity => sessionState.requireAdrDecision identity ambiguity
  | .completed candidate => sessionState.prepareAdrBuild identity candidate

def forgeAdrComplete (attemptId sourceRoundId : String) (outcome : AdrOutcome)
    (ctx : CommandContext) : Ext Reply := do
  if !(← requireBuildToolBoundary host) then
    return .tool (buildBoundaryRefused "Forge 無法安全限制 ADR 工具面，已拒絕處理。"
      "adr_tool_boundary_unavailable")
  modify fun s => { s with
    pendingSettledBuildInvocation := none
    pendingReplayInvocation := none }
  match ← submitAdrOutcome ⟨attemptId, sourceRoundId⟩ outcome with
  | .stale _ _ => return .tool (staleBuild "過期的 ADR Build 完成結果已忽略。")
  | .invalid _ errors => return .tool (invalidBuild errors)
  | .ambiguous state _ =>
      askBuildQuestion host ctx state (ambiguousBuild "ADR Build 的重大歧義需要使用者決定。")
  | .accepted _ _ => commitDocuments host files ⟨attemptId, sourceRoundId⟩

end Extension

end ForgeRuntime
