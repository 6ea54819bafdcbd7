import ForgeRuntime.Extension.Agenda
import ForgeRuntime.Extension.Runs

/-!
# The agenda through the handlers

Which handlers keep a fact about the agenda, tool by tool and event by event.

* `holds_handler` — a fact that survives all writes but those of the batch is kept by every event but the end of a
  message;
* `holds_messageEnd` — and by that one as well, if it survives the writes of the batch;
* `step_holds` — so by every step.
-/

namespace ForgeRuntime

open EventDriven EventDriven.Text EventDriven.Turn EventDriven.Machine

/-- `I` survives the writes of the batch. -/
def Batches (I : Agenda → Prop) : Prop := ∀ a batch, I a → I { a with deepRetrievalBatch := batch }

/-- The event is the command `continue`. -/
def Event.continues : Event → Bool
  | .command args _ => decide (trim args = "continue")
  | _ => false

/-- The event is the end of a message. -/
def Event.endsMessage : Event → Bool
  | .messageEnd _ => true
  | _ => false

namespace Extension

variable {host : Host} {files : Files} {I : Agenda → Prop}

/-! ### The tools of Grill -/

theorem holds_forgeGrillEvidence (hI : Steady host I) (candidateId : String) :
    Holds I (forgeGrillEvidence candidateId) := by
  refine holds_get_bind fun s => keeps_ite (keeps_pure _) ?_
  cases s.activeWorkflow with
  | none => exact keeps_throw _
  | some workflow =>
      dsimp only
      cases workflow.snapshot.candidates.get? candidateId with
      | none => exact keeps_throw _
      | some candidate =>
          dsimp only
          cases evidenceTooLargeRejection? candidate.metadata with
          | some rejection => exact keeps_pure _
          | none =>
              refine keeps_ite (keeps_pure _) (keeps_ite (keeps_pure _) ?_)
              refine keeps_bind (holds_call hI (fun _ => .done) rfl nofun) fun _ => holds_get_bind fun s => ?_
              cases rememberedIn s.fetchedGrillEvidence (candidateEvidence candidate) with
              | error error => exact keeps_throw _
              | ok store => exact holds_modify_bind (fun _ => rfl) (keeps_pure _)

theorem untouched_parseActiveGrillCompletion (payload : Json String) :
    Untouched (parseActiveGrillCompletion host payload) := by
  refine untouched_bind untouched_continueGrillRound fun round => untouched_get_bind fun s => ?_
  dsimp only
  split
  · exact fun _ => rfl
  · exact untouched_ite (fun _ => rfl) fun _ => rfl

theorem holds_publishWaitUserCaught {ctx : CommandContext} {payload : WaitUserPayload} {reply : Option ToolResult}
    (hpublish : Holds I (publishWaitUser ctx payload reply true)) :
    Holds I (publishWaitUserCaught ctx payload reply) :=
  keeps_tryCatch hpublish fun _ => holds_untouched_bind (untouched_notify _) fun _ => keeps_pure _

theorem holds_refreshPendingGrillRun (hI : Steady host I) : Holds I refreshPendingGrillRun :=
  fun s hs => hI.grillRun s.agenda _ hs

theorem holds_completeGrillWithDeep (hI : Steady host I) {ctx : CommandContext}
    {completion : GrillCompletionPayload} {approved : Bool}
    (hpublish : ∀ payload reply, Holds I (publishWaitUser ctx payload reply false)) :
    Holds I (completeGrillWithDeep host ctx completion approved) := by
  refine holds_get_bind fun s => holds_modify_bind (fun _ => rfl) ?_
  refine keeps_bind_returns (holds_continueDeepKnowledge hI (fun _ payload => hpublish payload _)
    (holds_activateDeepRetrievalTools hI)) returns_continueDeepKnowledge fun entered hentered => ?_
  cases entered with
  | asked opened => exact keeps_pure _
  | refused => exact keeps_pure _
  | sending => exact keeps_pure _
  | entered invocation =>
      refine holds_get_bind fun s => ?_
      split
      · refine keeps_bind (holds_keepDeep hI (hentered invocation rfl)) fun _ => ?_
        exact keeps_bind (holds_refreshPendingGrillRun hI) fun _ => keeps_pure _
      · exact keeps_pure _

theorem holds_forgeGrillComplete (hI : Steady host I) {payload : Json String} {ctx : CommandContext}
    (hpublish : ∀ payload reply catches, Holds I (publishWaitUser ctx payload reply catches)) :
    Holds I (forgeGrillComplete host payload ctx) := by
  refine holds_get_bind fun s => keeps_ite (keeps_pure _) ?_
  refine holds_untouched_bind (untouched_parseActiveGrillCompletion _) fun completion => holds_get_bind fun s => ?_
  refine keeps_ite ?_ (holds_completeGrillWithDeep hI fun payload reply => hpublish payload reply false)
  unfold completeGrillWithQuestion
  split
  · exact keeps_throw _
  · refine keeps_bind (holds_publishWaitUserCaught (hpublish _ _ _)) fun _ => ?_
    exact keeps_bind (holds_refreshPendingGrillRun hI) fun _ => keeps_pure _

/-! ### The tools of the Deep steps -/

theorem holds_askTarget (hI : Steady host I) (identity : DeepAttemptIdentity) (decision : DeepNeedsDecisionResult) :
    Holds I (askTarget host identity decision) := by
  refine keeps_bind (holds_call hI .deep rfl nofun) fun result => ?_
  cases result with
  | stale expected received => exact keeps_pure _
  | accepted state accepted =>
      refine holds_untouched_bind untouched_restoreActiveTools fun _ => ?_
      exact holds_untouched_bind (untouched_publishState _) fun _ => keeps_pure _
  | invalid state errors =>
      refine holds_untouched_bind untouched_restoreActiveTools fun _ => ?_
      exact holds_untouched_bind (untouched_publishState _) fun _ => keeps_pure _

theorem holds_recordSearchEvidence (hI : Steady host I) (identity : DeepAttemptIdentity)
    (items : List EvidenceInput) : Holds I (recordSearchEvidence identity items) := by
  induction items with
  | nil => exact keeps_pure _
  | cons item rest ih =>
      refine keeps_bind (holds_call hI .deep rfl nofun) fun result => ?_
      cases result with
      | stale expected received => exact ih
      | invalid state errors => exact ih
      | accepted state accepted =>
          refine holds_get_bind fun s => ?_
          cases rememberedIn s.fetchedDeepSupplementalEvidence item with
          | error error => exact keeps_throw _
          | ok store => exact holds_modify_bind (fun _ => rfl) ih

theorem holds_searchWithBudget (hI : Steady host I) (identity : DeepAttemptIdentity)
    (found : Except String (List EvidenceInput)) (fetched : List GrillEvidenceCandidate) :
    Holds I (searchWithBudget identity found fetched) := by
  have hbudget : ∀ {op : SessionOp} {run : Session BudgetAnswer} {α : Type} {f : BudgetAnswer → Ext α},
      Session.runOp host.digest op = .budget <$> run → op.issuesDeep = false → (∀ a, Holds I (f a)) →
      Holds I (call op run >>= f) := by
    intro op run α f hop hdeep hf
    refine keeps_bind (holds_call hI .budget hop fun h => ?_) hf
    rw [hdeep] at h
    cases h
  cases found with
  | error error => exact hbudget rfl rfl fun _ => keeps_throw _
  | ok evidence =>
      unfold searchWithBudget
      dsimp only
      split
      · exact hbudget rfl rfl fun _ => keeps_pure _
      · refine holds_get_bind fun s => keeps_ite (hbudget rfl rfl fun _ => keeps_pure _) ?_
        refine hbudget rfl rfl fun answer => keeps_ite (keeps_pure _) ?_
        exact keeps_bind (holds_recordSearchEvidence hI _ _) fun _ => keeps_pure _

theorem holds_searchSource (hI : Steady host I) (identity : DeepAttemptIdentity) (params : DeepSearchParams)
    (workflow : ActiveWorkflowContext) (query : String) (selected : Option GrillEvidenceCandidate) :
    Holds I (searchSource host files identity params workflow query selected) := by
  refine holds_get_bind fun s => keeps_ite (keeps_pure _) (keeps_ite (keeps_pure _) ?_)
  refine keeps_bind (holds_call hI .budget rfl nofun) fun answer => ?_
  cases answer with
  | stale => exact keeps_pure _
  | limit => exact keeps_pure _
  | accepted => exact holds_searchWithBudget hI _ _ _
  | reserved => exact holds_searchWithBudget hI _ _ _
  | released => exact holds_searchWithBudget hI _ _ _

theorem holds_forgeDeepSearch (hI : Steady host I) (params : DeepSearchParams) :
    Holds I (forgeDeepSearch host files params) := by
  refine holds_get_bind fun s => keeps_ite (keeps_pure _) ?_
  cases s.activeWorkflow with
  | none => exact keeps_pure _
  | some workflow =>
      refine keeps_ite (keeps_pure _) (keeps_ite (keeps_pure _) (keeps_ite ?_ (holds_searchSource hI _ _ _ _ _)))
      unfold searchTarget
      refine keeps_ite (keeps_pure _) (keeps_ite (keeps_pure _) ?_)
      dsimp only
      split
      · exact holds_searchSource hI _ _ _ _ _
      · exact holds_get_bind fun s => holds_askTarget hI _ _

theorem untouched_noteDeepOutcome (toolCallId toolName : String) (identity : DeepAttemptIdentity)
    (completion : DeepCallResult) (outcome : DeepResult) (state : ForgeUiState) :
    Untouched (noteDeepOutcome toolCallId toolName identity completion outcome state) := by
  have hrestart : Untouched (if state.stage = .workflow .lightDiscovery then
      modify fun s => { s with pendingDiscoveryRestart := some ⟨toolCallId, toolName, identity⟩ }
      else pure ()) := untouched_ite (fun _ => rfl) fun _ => rfl
  cases completion with
  | stale expected received => exact hrestart
  | invalid invalidState errors => exact hrestart
  | accepted acceptedState accepted =>
      cases outcome with
      | needsDiscovery summary => exact untouched_bind (fun _ => rfl) fun _ => hrestart
      | retrievalCompleted evidenceIds summary => exact hrestart
      | understandingCompleted package => exact hrestart
      | needsDecision decision => exact hrestart

theorem holds_showDeepOutcome {ctx : CommandContext} {state : ForgeUiState} {result : ToolResult}
    (hpublish : ∀ payload reply, Holds I (publishWaitUser ctx payload reply true)) :
    Holds I (showDeepOutcome ctx state result) := by
  unfold showDeepOutcome
  split
  · exact keeps_bind (holds_publishWaitUserCaught (hpublish _ _)) fun _ => keeps_pure _
  · exact holds_untouched_bind (untouched_publishState _) fun _ => keeps_pure _

theorem holds_endDeepStep (hI : Steady host I) {toolCallId toolName label : String}
    {identity : DeepAttemptIdentity} {outcome : DeepResult} {stale : ToolResult} {ctx : CommandContext}
    (hpublish : ∀ payload reply, Holds I (publishWaitUser ctx payload reply true)) :
    Holds I (endDeepStep host toolCallId toolName label identity outcome stale ctx) := by
  refine keeps_bind (holds_call hI .deep rfl nofun) fun completion => ?_
  cases completion with
  | stale expected received => exact keeps_pure _
  | accepted state accepted =>
      refine holds_untouched_bind (untouched_noteDeepOutcome _ _ _ _ _ _) fun _ => ?_
      exact holds_untouched_bind untouched_restoreActiveTools fun _ => holds_showDeepOutcome hpublish
  | invalid state errors =>
      refine holds_untouched_bind (untouched_noteDeepOutcome _ _ _ _ _ _) fun _ => ?_
      exact holds_untouched_bind untouched_restoreActiveTools fun _ => holds_showDeepOutcome hpublish

theorem holds_completeRetrieval (hI : Steady host I) (identity : DeepAttemptIdentity)
    (workflow : ActiveWorkflowContext) : Holds I (completeRetrieval host identity workflow) := by
  refine holds_get_bind fun s => keeps_bind (holds_call hI .deep rfl nofun) fun result => ?_
  cases result with
  | stale expected received => exact keeps_pure _
  | invalid state errors => exact keeps_pure _
  | accepted state accepted =>
      refine holds_untouched_bind untouched_activateDeepUnderstandingTools fun _ => ?_
      refine holds_untouched_bind (untouched_publishState _) fun _ => ?_
      refine keeps_bind (holds_modify_kept hI (fun _ => rfl) fun s text htext => ?_) fun _ =>
        holds_get_bind fun s => keeps_pure _
      rcases ExtensionState.mem_keptTexts.mp htext with ⟨pending, hpending, hsame⟩ | hold
      · cases hworkflow : s.activeWorkflow with
        | none =>
            rw [hworkflow] at hpending
            exact .inl (ExtensionState.mem_keptTexts.mpr (.inl ⟨pending, hpending, hsame⟩))
        | some workflow =>
            rw [hworkflow] at hpending
            obtain rfl := Option.some.inj hpending
            exact .inr (hsame ▸ .deepContinued accepted)
      · exact .inl (ExtensionState.mem_keptTexts.mpr (.inr hold))

theorem holds_forgeDeepRetrievalComplete (hI : Steady host I) {toolCallId attemptId sourceRoundId : String}
    {outcome : RetrievalOutcome} {ctx : CommandContext}
    (hpublish : ∀ payload reply, Holds I (publishWaitUser ctx payload reply true)) :
    Holds I (forgeDeepRetrievalComplete host toolCallId attemptId sourceRoundId outcome ctx) := by
  refine holds_get_bind fun s => keeps_ite (keeps_pure _) (keeps_ite (keeps_pure _) ?_)
  cases s.activeWorkflow with
  | none => exact keeps_pure _
  | some workflow =>
      refine holds_untouched_bind (untouched_requireBoundary _ _) fun enforceable => keeps_ite (keeps_pure _) ?_
      cases outcome with
      | completed => exact holds_completeRetrieval hI _ _
      | needsDecision decision => exact keeps_ite (keeps_pure _) (holds_endDeepStep hI hpublish)
      | needsDiscovery summary => exact holds_endDeepStep hI hpublish

theorem untouched_stopHandOff (state : ForgeUiState) (text reason : String) (error : Option String)
    (package : Option EvidencePackage) : Untouched (stopHandOff host state text reason error package) :=
  untouched_bind untouched_restoreActiveTools fun _ => untouched_bind (untouched_publishState _) fun _ => untouched_pure _

theorem untouched_attempt {α : Type} {m : Ext α} (h : Untouched m) : Untouched (Turn.attempt m) := h

theorem holds_handOffToContextBuild (hbuild : Builds I) (state : ForgeUiState) (package : EvidencePackage) :
    Holds I (handOffToContextBuild host files state package) := by
  refine holds_get_bind fun s => ?_
  split
  · split
    · exact (untouched_stopHandOff _ _ _ _ _).holds
    · refine holds_untouched_bind (untouched_attempt (untouched_buildInvocation _)) fun result => ?_
      cases result with
      | error error => exact (untouched_stopHandOff _ _ _ _ _).holds
      | ok invocation =>
          refine holds_untouched_bind untouched_restoreActiveTools fun _ => ?_
          refine holds_untouched_bind untouched_activateContextBuildTools fun _ => ?_
          refine keeps_bind (fun s hs => hbuild s.agenda _ _ _ _ hs) fun _ => ?_
          exact holds_untouched_bind (untouched_publishState _) fun _ => keeps_pure _
  · exact (untouched_stopHandOff _ _ _ _ _).holds

theorem holds_completeUnderstanding (hI : Steady host I) (hbuild : Builds I) (identity : DeepAttemptIdentity)
    (result : UnderstandingResult) : Holds I (completeUnderstanding host files identity result) := by
  refine holds_get_bind fun s => keeps_ite (keeps_pure _) ?_
  refine holds_untouched_bind untouched_continueGrillRound fun round => ?_
  split
  · exact keeps_pure _
  · split
    · exact keeps_pure _
    · refine keeps_bind (holds_call hI .deep rfl nofun) fun completion => ?_
      cases completion with
      | stale expected received => exact keeps_pure _
      | invalid state errors => exact keeps_pure _
      | accepted state accepted => exact holds_handOffToContextBuild hbuild _ _

theorem holds_forgeDeepComplete (hI : Steady host I) {toolCallId attemptId sourceRoundId : String}
    {outcome : UnderstandingOutcome} {ctx : CommandContext}
    (hpublish : ∀ payload reply, Holds I (publishWaitUser ctx payload reply true))
    (hcomplete : (canEnforceToolBoundary host && host.sendUserMessage) = true → ∀ identity result,
      Holds I (completeUnderstanding host files identity result)) :
    Holds I (forgeDeepComplete host files toolCallId attemptId sourceRoundId outcome ctx) := by
  refine holds_get_bind fun s => keeps_ite (keeps_pure _) ?_
  cases hboundary : canEnforceToolBoundary host && host.sendUserMessage with
  | false =>
      unfold requireDeepToolBoundary
      rw [hboundary]
      exact (untouched_notify _).holds
  | true =>
      refine holds_untouched_bind (untouched_requireBoundary _ _) fun enforceable => keeps_ite (keeps_pure _) ?_
      cases outcome with
      | completed result => exact hcomplete hboundary _ _
      | needsDecision decision => exact keeps_ite (keeps_pure _) (holds_endDeepStep hI hpublish)
      | needsDiscovery summary => exact holds_endDeepStep hI hpublish

/-! ### The tools of the build stages -/

theorem holds_askBuildQuestion {ctx : CommandContext} {state : ForgeUiState} {result : ToolResult}
    (hpublish : ∀ payload reply, Holds I (publishWaitUser ctx payload reply false)) :
    Holds I (askBuildQuestion host ctx state result) := by
  refine holds_untouched_bind untouched_restoreActiveTools fun _ => ?_
  cases state.waitUser with
  | none => exact holds_untouched_bind (untouched_publishState _) fun _ => keeps_pure _
  | some waitUser => exact keeps_bind (hpublish _ _) fun _ => keeps_pure _

theorem holds_replayContextBuild (hbuild : Builds I) : Holds I replayContextBuild := by
  refine keeps_modify fun s hs => ?_
  split
  · dsimp only
    split
    · exact hbuild s.agenda _ _ _ _ hs
    · exact hs
  · exact hs

theorem untouched_stopAdrBuild (state : ForgeUiState) (result : ToolResult) :
    Untouched (stopAdrBuild host state result) :=
  untouched_bind untouched_restoreActiveTools fun _ => untouched_bind (untouched_publishState _) fun _ => untouched_pure _

theorem holds_handOffToAdrBuild (hbuild : Builds I) (state : ForgeUiState) :
    Holds I (handOffToAdrBuild host files state) := by
  refine holds_get_bind fun s => ?_
  split
  · refine holds_untouched_bind (untouched_attempt (untouched_buildInvocation _)) fun result => ?_
    cases result with
    | error error => exact (untouched_stopAdrBuild _ _).holds
    | ok invocation =>
        refine holds_untouched_bind untouched_activateAdrBuildTools fun _ => ?_
        refine keeps_bind (fun s hs => hbuild s.agenda _ _ _ _ hs) fun _ => ?_
        exact holds_untouched_bind (untouched_publishState _) fun _ => keeps_pure _
  · exact (untouched_stopAdrBuild _ _).holds

theorem holds_forgetContextBuildInvocations (hbuild : Builds I) : Holds I forgetContextBuildInvocations :=
  fun s hs => hbuild s.agenda _ _ _ _ hs

theorem holds_forgeContextComplete (hI : Steady host I) (hbuild : Builds I) {attemptId sourceRoundId : String}
    {outcome : ContextBuildCompletion} {ctx : CommandContext}
    (hpublish : ∀ payload reply, Holds I (publishWaitUser ctx payload reply false)) :
    Holds I (forgeContextComplete host files attemptId sourceRoundId outcome ctx) := by
  refine holds_untouched_bind (untouched_requireBoundary _ _) fun enforceable => keeps_ite (keeps_pure _) ?_
  refine keeps_bind (holds_call hI .context rfl nofun) fun result => ?_
  cases result with
  | stale expected received => exact keeps_bind (holds_replayContextBuild hbuild) fun _ => keeps_pure _
  | invalid state errors => exact keeps_pure _
  | ambiguous state accepted =>
      exact keeps_bind (holds_forgetContextBuildInvocations hbuild) fun _ => holds_askBuildQuestion hpublish
  | accepted state accepted =>
      exact keeps_bind (holds_forgetContextBuildInvocations hbuild) fun _ => holds_handOffToAdrBuild hbuild _

theorem holds_commitDocuments (hI : Steady host I) (identity : AdrBuildIdentity) :
    Holds I (commitDocuments host files identity) := by
  refine holds_get_bind fun s => ?_
  split
  · refine holds_untouched_bind (untouched_emit rfl) fun _ => ?_
    split
    · exact keeps_throw _
    · exact keeps_pure _
    · exact keeps_pure _
    · exact keeps_pure _
    · refine keeps_bind (holds_call hI .adr rfl nofun) fun result => ?_
      cases result with
      | accepted state accepted =>
          refine holds_modify_bind (fun _ => rfl) (holds_untouched_bind untouched_restoreActiveTools fun _ => ?_)
          exact holds_untouched_bind (untouched_publishState _) fun _ => keeps_pure _
      | stale expected received => exact keeps_pure _
      | invalid state errors => exact keeps_pure _
      | ambiguous state accepted => exact keeps_pure _
  · exact keeps_pure _

theorem holds_submitAdrOutcome (hI : Steady host I) (identity : AdrBuildIdentity) (outcome : AdrOutcome) :
    Holds I (submitAdrOutcome identity outcome) := by
  cases outcome with
  | completed candidate => exact holds_call hI .adr rfl nofun
  | ambiguous ambiguity => exact holds_call hI .adr rfl nofun

theorem holds_forgeAdrComplete (hI : Steady host I) {attemptId sourceRoundId : String}
    {outcome : AdrOutcome} {ctx : CommandContext}
    (hforget : ∀ a, I a → I { a with pendingSettledBuildInvocation := none })
    (hpublish : ∀ payload reply, Holds I (publishWaitUser ctx payload reply false)) :
    Holds I (forgeAdrComplete host files attemptId sourceRoundId outcome ctx) := by
  refine holds_untouched_bind (untouched_requireBoundary _ _) fun enforceable => keeps_ite (keeps_pure _) ?_
  refine keeps_bind (fun s hs => hforget s.agenda hs) fun _ => ?_
  refine keeps_bind (holds_submitAdrOutcome hI _ _) fun result => ?_
  cases result with
  | stale expected received => exact keeps_pure _
  | invalid state errors => exact keeps_pure _
  | ambiguous state accepted => exact holds_askBuildQuestion hpublish
  | accepted state accepted => exact holds_commitDocuments hI _

/-! ### Messages -/

theorem untouched_messageStart (texts : List String) : Untouched (messageStart texts) := by
  refine untouched_get_bind fun s => ?_
  exact untouched_ite (untouched_bind (fun _ => rfl) fun _ _ => rfl) fun _ => rfl

theorem holds_endOmission (hclear : Clears I) : Holds I (endOmission host) :=
  keeps_bind (holds_clearPendingState hclear) fun _ =>
    holds_untouched_bind untouched_restoreActiveTools fun _ => keeps_pure _

/-- `I` survives that code is suspended. -/
theorem asks_suspend (hask : Asks I) {a : Agenda} (h : I a) (suspended : List Suspension) :
    I { a with suspended := suspended } :=
  hask a a.activeWaitUserUiLeaseKey suspended h

theorem holds_omittedCompletion (hI : Steady host I) (hask : Asks I) (hclear : Clears I) :
    Holds I (omittedCompletion host) := by
  refine keeps_bind (holds_call hI .flag rfl nofun) fun first => keeps_ite ?_ (holds_endOmission hclear)
  refine holds_get_bind fun s => holds_untouched_bind (untouched_publishState _) fun _ => ?_
  refine keeps_ite (holds_untouched_bind (untouched_emit rfl) fun _ => ?_) (holds_endOmission hclear)
  exact keeps_bind (fun s hs => asks_suspend hask hs _) fun _ => keeps_pure _

theorem holds_searchSettled (hbatch : Batches I)
    (hsend : ∀ workflow identity, Holds I (sendUserMessage (batchInvocation workflow identity)))
    (batch : DeepRetrievalBatch) (toolCallId : String) : Holds I (searchSettled host batch toolCallId) := by
  refine keeps_bind (fun s hs => hbatch s.agenda _ hs) fun _ => holds_get_bind fun s => ?_
  cases s.activeWorkflow with
  | none => exact keeps_pure _
  | some workflow =>
      refine keeps_ite (keeps_pure _) (keeps_bind (fun s hs => hbatch s.agenda _ hs) fun _ => ?_)
      exact keeps_ite (keeps_bind (hsend _ _) fun _ => keeps_pure _) (keeps_pure _)

/-- The end of a tool result. -/
theorem holds_resultEnd (hbatch : Batches I)
    (hsend : ∀ workflow identity, Holds I (sendUserMessage (batchInvocation workflow identity)))
    (toolCallId : Option String) : Holds I (messageEnd host (.toolResult toolCallId)) := by
  refine holds_get_bind fun s => ?_
  split
  · exact keeps_ite (holds_searchSettled hbatch hsend _ _) (keeps_pure _)
  · exact keeps_pure _

/-- The end of a message that is no tool result. -/
theorem holds_messageEnd_of (hI : Steady host I) (hask : Asks I) (hclear : Clears I) (hbatch : Batches I)
    {message : EndedMessage}
    (hresult : ∀ toolCallId, message = .toolResult toolCallId → Holds I (messageEnd host message)) :
    Holds I (messageEnd host message) := by
  cases message with
  | other => exact keeps_pure _
  | toolResult toolCallId => exact hresult toolCallId rfl
  | assistant content =>
      refine holds_get_bind fun s => keeps_ite ?_ (keeps_ite (keeps_pure _) (keeps_ite (keeps_pure _) ?_))
      · exact keeps_bind (fun s hs => hbatch s.agenda _ hs) fun _ => keeps_pure _
      · exact holds_omittedCompletion hI hask hclear

theorem holds_messageEnd (hI : Steady host I) (hask : Asks I) (hclear : Clears I) (hbatch : Batches I)
    (hsends : Sends I) (message : EndedMessage) : Holds I (messageEnd host message) := by
  refine holds_messageEnd_of hI hask hclear hbatch fun toolCallId hmessage => ?_
  subst hmessage
  exact holds_resultEnd hbatch (fun _ _ => holds_sendAny hsends _) toolCallId

/-! ### Tool results and timers -/

theorem holds_toolResult (hI : Steady host I) (toolCallId toolName : String) (isError : Option Bool) :
    Holds I (toolResult host files toolCallId toolName isError) := by
  refine holds_get_bind fun s => ?_
  cases s.pendingDiscoveryRestart with
  | none => exact keeps_pure _
  | some restart =>
      refine keeps_ite (keeps_pure _) (holds_modify_bind (fun _ => rfl) (keeps_ite (keeps_pure _) ?_))
      refine holds_get_bind fun s => ?_
      cases s.activeWorkflow with
      | none => exact keeps_pure _
      | some workflow =>
          refine keeps_ite (keeps_pure _) ?_
          refine holds_untouched_bind (untouched_requireBoundary _ _) fun enforceable => keeps_ite (keeps_pure _) ?_
          refine keeps_bind_returns (holds_restartLightDiscoveryAndGrill hI _)
            (returns_restartLightDiscoveryAndGrill _) fun invocation hinvocation => ?_
          refine keeps_bind (holds_modify_kept hI (fun _ => rfl) fun s text htext => ?_) fun _ => keeps_pure _
          rcases ExtensionState.mem_keptTexts.mp htext with hold | hold | ⟨pending, hpending, hsame⟩ | hold
          · exact .inl (ExtensionState.mem_keptTexts.mpr (.inl hold))
          · exact .inl (ExtensionState.mem_keptTexts.mpr (.inr (.inl hold)))
          · dsimp only at hpending
            split at hpending
            · obtain rfl := Option.some.inj hpending
              exact .inr (hsame ▸ hinvocation)
            · exact .inl (ExtensionState.mem_keptTexts.mpr (.inr (.inr (.inl ⟨pending, hpending, hsame⟩))))
          · exact .inl (ExtensionState.mem_keptTexts.mpr (.inr (.inr (.inr hold))))

/-- The timers take over what is pending for them. -/
theorem holds_arm (hI : Steady host I) {c : ExtensionState → Prop} [DecidablePred c]
    {g : ExtensionState → ExtensionState} (hg : ∀ s, (g s).agenda = { s.agenda with keptTexts := (g s).keptTexts })
    (hkept : ∀ s, ∀ text ∈ (g s).keptTexts, text ∈ s.keptTexts) :
    Holds I (modify fun s => if c s then g s else s) := by
  have harms := holds_modify_kept hI hg fun s text htext => .inl (hkept s text htext)
  intro s hs
  dsimp only [modify_apply]
  split
  · exact harms s hs
  · exact hs

theorem holds_agentSettled (hI : Steady host I) (hbuild : Holds I (modify fun s =>
      if s.pendingSettledBuildInvocation ≠ none ∧ s.pendingSettledBuildInvocationTimer = none then
        { s with
          pendingSettledBuildInvocationTimer := s.pendingSettledBuildInvocation
          pendingSettledBuildInvocation := none }
      else s)) : Holds I agentSettled := by
  refine keeps_bind (holds_arm hI (fun _ => rfl) fun s text htext => ?_) fun _ => keeps_bind hbuild fun _ =>
    keeps_bind (holds_arm hI (fun _ => rfl) fun s text htext => ?_) fun _ => keeps_pure _
  · rw [ExtensionState.mem_keptTexts] at htext ⊢
    rcases htext with hold | hold | ⟨pending, hnone, -⟩ | hold
    · exact .inl hold
    · exact .inr (.inl hold)
    · cases hnone
    · exact .inr (.inr (.inl hold))
  · rw [ExtensionState.mem_keptTexts] at htext ⊢
    rcases htext with ⟨pending, hnone, -⟩ | hold | hold
    · cases hnone
    · exact .inl hold
    · exact .inr (.inr hold)

theorem holds_armBuild (hbuild : Builds I) : Holds I (modify fun s =>
    if s.pendingSettledBuildInvocation ≠ none ∧ s.pendingSettledBuildInvocationTimer = none then
      { s with
        pendingSettledBuildInvocationTimer := s.pendingSettledBuildInvocation
        pendingSettledBuildInvocation := none }
    else s) := by
  intro s hs
  dsimp only [modify_apply]
  split
  · exact hbuild s.agenda _ _ _ _ hs
  · exact hs

/-- What waited for a timer is sent when it fires, or is dropped. -/
theorem holds_sendSettled (hI : Steady host I) {s t : ExtensionState} {c : Prop} [Decidable c] {content : String}
    (ht : t.agenda = { s.agenda with keptTexts := t.keptTexts }) (hfewer : ∀ text ∈ t.keptTexts, text ∈ s.keptTexts)
    (hcontent : content ∈ s.keptTexts) (hs : I s.agenda) :
    I ((if c then sendSettled content else pure .done : Ext Reply) t).2.agenda := by
  have hdrops : I t.agenda := by
    have hkept := hI.texts s.agenda t.keptTexts []
      (fun text htext => .inl (hfewer text (List.append_nil t.keptTexts ▸ htext))) hs
    rw [List.append_nil] at hkept
    rwa [ht]
  split
  · show I (sendUserMessage content { t with pendingReplayInvocation := some content }).2.agenda
    exact holds_sendKept hI ht hfewer hcontent hs
  · exact hdrops

theorem holds_discoveryTimer (hI : Steady host I) : Holds I (discoveryTimer host) := by
  intro s hs
  cases hpending : s.pendingSettledDiscoveryInvocationTimer with
  | none =>
      simp only [discoveryTimer, get_bind_apply, hpending]
      exact hs
  | some pending =>
      simp only [discoveryTimer, get_bind_apply, hpending, modify_bind_apply]
      refine holds_sendSettled (s := s) hI rfl (fun text htext => ?_) ?_ hs
      · rw [ExtensionState.mem_keptTexts] at htext ⊢
        rcases htext with hold | hold | hold | ⟨other, hnone, -⟩
        · exact .inl hold
        · exact .inr (.inl hold)
        · exact .inr (.inr (.inl hold))
        · cases hnone
      · exact ExtensionState.mem_keptTexts.mpr (.inr (.inr (.inr ⟨pending, hpending, rfl⟩)))

theorem holds_deepTimer (hI : Steady host I) : Holds I (deepTimer host) := by
  intro s hs
  cases hpending : s.pendingSettledDeepInvocationTimer with
  | none =>
      simp only [deepTimer, get_bind_apply, hpending]
      exact hs
  | some pending =>
      simp only [deepTimer, get_bind_apply, hpending, modify_bind_apply]
      refine holds_sendSettled (s := s) hI rfl (fun text htext => ?_) ?_ hs
      · rw [ExtensionState.mem_keptTexts] at htext ⊢
        rcases htext with hold | ⟨other, hnone, -⟩ | hold
        · exact .inl hold
        · cases hnone
        · exact .inr (.inr hold)
      · exact ExtensionState.mem_keptTexts.mpr (.inr (.inl ⟨pending, hpending, rfl⟩))

/-- Any text that waited for a timer. -/
theorem holds_sendAnySettled (hsends : Sends I) (content : String) : Holds I (sendSettled content) :=
  holds_modify_bind (fun _ => rfl) (keeps_bind (holds_sendAny hsends content) fun _ => keeps_pure _)

theorem holds_rememberSentContextBuildInvocation (hbuild : Builds I) (pending : PendingSettledBuildInvocation) :
    Holds I (rememberSentContextBuildInvocation pending) :=
  keeps_ite (keeps_pure _) fun s hs => hbuild s.agenda _ _ _ _ hs

theorem holds_buildTimer (hbuild : Builds I) (hsends : Sends I) : Holds I (buildTimer host) := by
  refine holds_get_bind fun s => ?_
  cases s.pendingSettledBuildInvocationTimer with
  | none => exact keeps_pure _
  | some pending =>
      refine keeps_bind (fun s hs => hbuild s.agenda _ _ _ _ hs) fun _ => holds_get_bind fun s => ?_
      refine keeps_ite (keeps_bind (holds_rememberSentContextBuildInvocation hbuild _) fun _ => ?_) (keeps_pure _)
      exact holds_sendAnySettled hsends _

/-! ### Inputs -/

theorem holds_answerDeepOrGrill (hI : Steady host I) (hask : Asks I) (hclear : Clears I) (answer : String)
    (ctx : CommandContext) : Holds I (answerDeepOrGrill host files answer ctx) := by
  refine keeps_bind (holds_prepareDeepKnowledgeAnswer hI _) fun prepared => ?_
  cases prepared with
  | handled state invocation => exact holds_untouched_bind (untouched_publishState _) fun _ => keeps_pure _
  | notDeep => exact keeps_bind (holds_resumeGrillWithAnswer hI hask hclear _ _) fun _ => keeps_pure _

theorem holds_answerRest (hI : Steady host I) (hask : Asks I) (hclear : Clears I) (asksDeep : Bool) (answer : String)
    (ctx : CommandContext) : Holds I (answerRest host files asksDeep answer ctx) := by
  have hlast : Holds I (answerDeepOrGrill host files answer ctx) := holds_answerDeepOrGrill hI hask hclear answer ctx
  cases asksDeep with
  | false => exact hlast
  | true => exact holds_untouched_bind (untouched_requireBoundary _ _) fun enforceable => keeps_ite (keeps_pure _) hlast

theorem holds_answerInput (hI : Steady host I) (hask : Asks I) (hclear : Clears I) (hbuild : Builds I)
    (routingText : String) (ctx : CommandContext) : Holds I (answerInput host files routingText ctx) := by
  refine holds_untouched_bind (untouched_requireBoundary _ _) fun enforceable => keeps_ite (keeps_pure _) ?_
  refine holds_get_bind fun s => keeps_bind (holds_resumeBuildAnswer hI hbuild _) fun handled => ?_
  refine keeps_ite ?_ (holds_answerRest hI hask hclear _ _ _)
  refine holds_get_bind fun s => keeps_bind (fun s hs => hbuild s.agenda _ _ _ _ hs) fun _ => ?_
  cases s.pendingSettledBuildInvocation with
  | none => exact keeps_pure _
  | some pending => exact keeps_bind (holds_rememberSentContextBuildInvocation hbuild _) fun _ => keeps_pure _

theorem holds_startFromInput (hI : Steady host I) (request : String) (rootDir : Option String) :
    Holds I (startFromInput host files request rootDir) := by
  cases rootDir with
  | none => exact holds_untouched_bind (untouched_notify _) fun _ => keeps_pure _
  | some rootDir =>
      refine holds_untouched_bind (untouched_requireBoundary _ _) fun enforceable => keeps_ite (keeps_pure _) ?_
      refine holds_modify_bind (fun _ => rfl) (keeps_ite ?_ ?_)
      · exact holds_modify_bind (fun _ => rfl) (holds_untouched_bind (untouched_notify _) fun _ => keeps_pure _)
      · exact keeps_bind (holds_startWorkflow hI _ _) fun _ => keeps_pure _

theorem holds_answerKnowledgeRequest (hI : Steady host I) (request : KnowledgeRequest) (routingText : String) :
    Holds I (answerKnowledgeRequest host files request routingText) := by
  refine keeps_ite (holds_untouched_bind (untouched_notify _) fun _ => keeps_pure _) ?_
  refine holds_untouched_bind (untouched_requireBoundary _ _) fun enforceable => keeps_ite (keeps_pure _) ?_
  exact holds_modify_bind (fun _ => rfl) (keeps_bind (holds_startWorkflow hI _ _) fun _ => keeps_pure _)

theorem holds_requestInput (hI : Steady host I) (hask : Asks I) (rawText routingText : String)
    (ctx : CommandContext) : Holds I (requestInput host files rawText routingText ctx) := by
  refine holds_get_bind fun s => keeps_ite ?_ (keeps_ite (holds_startFromInput hI _ _) (keeps_ite (keeps_pure _) ?_))
  · exact holds_untouched_bind (untouched_notify _) fun _ => keeps_pure _
  · exact keeps_bind (fun s hs => asks_suspend hask hs _) fun _ => keeps_pure _

theorem holds_replayInput (hI : Steady host I) : Holds I (replayInput host) := by
  refine holds_get_bind fun s => ?_
  dsimp only
  split
  · exact keeps_bind (holds_activateDeepRetrievalTools hI) fun _ => keeps_pure _
  · exact holds_untouched_bind untouched_activateDeepUnderstandingTools fun _ => keeps_pure _
  · exact keeps_pure _

theorem holds_input (hI : Steady host I) (hask : Asks I) {rawText : String} {ctx : CommandContext}
    (hanswer : Holds I (answerInput host files (trim rawText) ctx)) : Holds I (input host files rawText ctx) := by
  refine holds_get_bind fun s => keeps_ite (holds_replayInput hI) (keeps_ite (keeps_pure _) ?_)
  cases s.pendingKnowledgeRequest with
  | some request => exact holds_answerKnowledgeRequest hI _ _
  | none => exact keeps_ite hanswer (holds_requestInput hI hask _ _ _)

/-! ### The command -/

theorem untouched_publishCurrent : Untouched publishCurrent :=
  untouched_get_bind fun _ => untouched_bind (untouched_publishState _) fun _ => untouched_pure _

theorem holds_grillAmbiguous {raw : String} {ctx : CommandContext}
    (hpublish : ∀ payload, Holds I (publishWaitUser ctx payload none false)) :
    Holds I (grillAmbiguous host raw ctx) := by
  unfold grillAmbiguous
  split
  · exact keeps_throw _
  · exact keeps_bind (hpublish _) fun _ => keeps_pure _

theorem holds_grillResult (hI : Steady host I) (hask : Asks I) (raw : String) (ctx : CommandContext) :
    Holds I (grillResult host raw ctx) := by
  have hpublish : ∀ payload reply catches, Holds I (publishWaitUser ctx payload reply catches) :=
    fun payload reply catches => holds_publishWaitUser hI hask ctx payload reply catches
  refine holds_get_bind fun s => keeps_ite (keeps_pure _) ?_
  refine holds_untouched_bind (untouched_parseActiveGrillCompletion _) fun completion => ?_
  refine keeps_ite (keeps_pure _) (keeps_ite ?_ ?_)
  · refine holds_modify_bind (fun _ => rfl) ?_
    refine keeps_bind (holds_continueDeepKnowledge hI (fun _ payload => hpublish payload _ _)
      (holds_activateDeepRetrievalTools hI)) fun entered => ?_
    cases entered with
    | asked opened => exact keeps_pure _
    | refused => exact keeps_pure _
    | entered invocation => exact keeps_pure _
    | sending => exact keeps_bind (fun s hs => asks_suspend hask hs _) fun _ => keeps_pure _
  · split
    · exact keeps_throw _
    · exact keeps_bind (hpublish _ _ _) fun _ => keeps_pure _

theorem holds_replay (hI : Steady host I) {invocation : String} (h : Invocation host invocation) :
    Holds I (replay invocation) :=
  holds_modify_bind (fun _ => rfl) (holds_sendUserMessage hI h)

theorem holds_replayGrillRound (hI : Steady host I) (round : GrillRound) :
    Holds I (replayGrillRound host files round) := by
  refine holds_get_bind fun s => keeps_bind_returns (untouched_grillingInvocation _ _ _).holds
    (returns_grillingInvocation _ _ _) fun invocation hinvocation => ?_
  refine keeps_bind (fun s hs => hI.grillRun s.agenda true hs) fun _ => ?_
  refine holds_untouched_bind untouched_activateGrillTools fun _ => ?_
  exact keeps_bind (holds_sendUserMessage hI hinvocation) fun _ => untouched_publishCurrent.holds

theorem holds_continueDeep (hI : Steady host I) : Holds I (continueDeep host) := by
  cases hsend : host.sendUserMessage with
  | false =>
      unfold continueDeep
      rw [hsend]
      exact untouched_publishCurrent.holds
  | true =>
      refine keeps_ite untouched_publishCurrent.holds ?_
      refine holds_untouched_bind (untouched_requireBoundary _ _) fun enforceable => ?_
      refine keeps_ite untouched_publishCurrent.holds (holds_get_bind fun s => ?_)
      cases s.session.deepAttempt
      -- the attempt is read again once the state is shown, whichever state that was
      all_goals
        refine holds_show_bind hI rfl (fun _ => hsend) fun state => holds_get_bind fun t => ?_
        cases t.session.deepAttempt with
        | none => exact keeps_pure _
        | some attempt =>
            refine holds_activatePhaseTools_bind hI (fun _ => ?_) attempt.phase
            refine keeps_bind (holds_replay hI (.deepContinued _)) fun _ => ?_
            exact holds_untouched_bind (untouched_publishState _) fun _ => keeps_pure _

theorem holds_continueContextBuild (hsends : Sends I) : Holds I (continueContextBuild host) := by
  refine keeps_ite untouched_publishCurrent.holds ?_
  refine holds_untouched_bind (untouched_requireBoundary _ _) fun enforceable => ?_
  refine keeps_ite untouched_publishCurrent.holds (holds_get_bind fun s => ?_)
  cases replayableContextBuild? s with
  | none => exact untouched_publishCurrent.holds
  | some lastSent =>
      refine holds_untouched_bind untouched_activateContextBuildTools fun _ => keeps_bind ?_ fun _ =>
        untouched_publishCurrent.holds
      exact holds_modify_bind (fun _ => rfl) (holds_sendAny hsends _)

theorem holds_continueCommand (hI : Steady host I) (hbuild : Holds I (continueContextBuild host)) :
    Holds I (continueCommand host files) := by
  refine holds_get_bind fun s => keeps_ite ?_ ?_
  · exact holds_untouched_bind (untouched_notify _) fun _ => untouched_publishCurrent.holds
  · cases discoveryWorkflow? s with
    | some workflow =>
        refine keeps_ite untouched_publishCurrent.holds ?_
        refine holds_untouched_bind (untouched_requireBoundary _ _) fun enforceable => ?_
        refine keeps_ite untouched_publishCurrent.holds ?_
        refine keeps_bind_returns (holds_restartLightDiscoveryAndGrill hI _)
          (returns_restartLightDiscoveryAndGrill _) fun invocation hinvocation => ?_
        exact keeps_bind (holds_replay hI hinvocation) fun _ => keeps_pure _
    | none =>
        refine keeps_ite hbuild (keeps_ite (holds_continueDeep hI) ?_)
        refine holds_get_bind fun s => keeps_ite (keeps_pure _) (keeps_ite untouched_publishCurrent.holds ?_)
        refine holds_untouched_bind (untouched_requireBoundary _ _) fun enforceable => ?_
        refine keeps_ite untouched_publishCurrent.holds ?_
        exact holds_untouched_bind untouched_continueGrillRound fun round => holds_replayGrillRound hI _

theorem holds_retryCommand (hI : Steady host I) : Holds I (retryCommand host files) := by
  refine keeps_ite untouched_publishCurrent.holds ?_
  refine holds_untouched_bind (untouched_requireBoundary _ _) fun enforceable => ?_
  refine keeps_ite untouched_publishCurrent.holds ?_
  refine keeps_bind (holds_call hI .roundIfAny rfl nofun) fun round => ?_
  cases round with
  | none => exact holds_untouched_bind (untouched_notify _) fun _ => untouched_publishCurrent.holds
  | some round => exact holds_replayGrillRound hI _

theorem holds_switchCommand (hask : Asks I) (request : String) (ctx : CommandContext) :
    Holds I (switchCommand request ctx) := by
  refine keeps_ite untouched_publishCurrent.holds ?_
  exact keeps_bind (fun s hs => asks_suspend hask hs _) fun _ => keeps_pure _

theorem holds_answerPending {state : ForgeUiState} {answer : String} {ctx : CommandContext}
    (hanswer : ∀ answer, Holds I (resumeWaitUserAnswer host files answer ctx)) :
    Holds I (answerPending host files state answer ctx) := by
  refine keeps_bind (hanswer _) fun resumption => ?_
  cases resumption with
  | handled => exact keeps_pure _
  | sending => exact keeps_pure _
  | notHandled => exact holds_untouched_bind (untouched_publishState _) fun _ => keeps_pure _

theorem holds_confirmCommand (hI : Steady host I) (hask : Asks I) {ctx : CommandContext}
    (hanswer : ∀ answer, Holds I (resumeWaitUserAnswer host files answer ctx)) :
    Holds I (confirmCommand host files ctx) := by
  refine holds_get_bind fun s => ?_
  dsimp only
  cases shownDecision? s.session.uiState with
  | some pending =>
      refine keeps_ite ?_ (holds_answerPending hanswer)
      refine holds_untouched_bind (untouched_notify _) fun _ => ?_
      exact holds_untouched_bind (untouched_publishState _) fun _ => keeps_pure _
  | none =>
      refine holds_get_bind fun s => holds_show_bind hI rfl nofun fun state => ?_
      refine holds_untouched_bind (untouched_publishState _) fun _ => keeps_ite (keeps_pure _) ?_
      refine holds_untouched_bind (untouched_requireBoundary _ _) fun enforceable => keeps_ite (keeps_pure _) ?_
      refine keeps_bind (holds_continueDeepKnowledge hI (fun _ payload => holds_publishWaitUser hI hask _ _ _ _)
        (holds_releaseGrillBoundary hI)) fun entered => ?_
      cases entered with
      | asked opened => exact keeps_pure _
      | sending => exact keeps_pure _
      | refused => exact keeps_pure _
      | entered invocation => exact keeps_pure _

theorem holds_rejectCommand (hI : Steady host I) {selection : Option String} {ctx : CommandContext}
    (hanswer : ∀ answer, Holds I (resumeWaitUserAnswer host files answer ctx)) :
    Holds I (rejectCommand host files selection ctx) := by
  refine holds_get_bind fun s => ?_
  dsimp only
  cases shownDecision? s.session.uiState with
  | some pending => exact holds_answerPending hanswer
  | none =>
      refine holds_show_bind hI rfl nofun fun state => ?_
      exact holds_untouched_bind (untouched_publishState _) fun _ => keeps_pure _

theorem holds_command (hI : Steady host I) (hask : Asks I) (hclear : Clears I) {args : String}
    {ctx : CommandContext} (hanswer : ∀ answer, Holds I (resumeWaitUserAnswer host files answer ctx))
    (hcontinue : trim args = "continue" → Holds I (continueContextBuild host)) :
    Holds I (command host files args ctx) := by
  refine keeps_ite (holds_grillAmbiguous fun payload => holds_publishWaitUser hI hask _ _ _ _) ?_
  refine keeps_ite (holds_grillResult hI hask _ _) ?_
  refine keeps_ite_of (fun hargs => holds_continueCommand hI (hcontinue hargs)) fun _ => ?_
  refine keeps_ite (holds_retryCommand hI) (keeps_ite ?_ (keeps_ite (holds_switchCommand hask _ _) ?_))
  · exact keeps_bind (holds_cancelWorkflow hI hclear) fun _ => keeps_pure _
  refine keeps_ite (holds_confirmCommand hI hask hanswer) (keeps_ite (holds_rejectCommand hI hanswer) ?_)
  exact keeps_ite (holds_rejectCommand hI hanswer) untouched_publishCurrent.holds

/-! ### Suspended code -/

theorem holds_closeUi (hask : Asks I) (ui : OpenUi) : Holds I (closeUi ui) := by
  refine keeps_bind (holds_releaseUiLease hask _) fun _ => ?_
  cases ui.reply with
  | none => exact keeps_pure _
  | some result => exact keeps_pure _

theorem holds_failUi (hask : Asks I) (ui : OpenUi) (error : String) : Holds I (failUi ui error) := by
  refine keeps_bind (holds_releaseUiLease hask _) fun _ => keeps_ite ?_ (keeps_throw _)
  refine holds_untouched_bind (untouched_notify _) fun _ => ?_
  cases ui.reply with
  | none => exact keeps_pure _
  | some result => exact keeps_pure _

theorem holds_uiSelection (hask : Asks I) {ui : OpenUi} {selection : Option String}
    (hanswer : ∀ answer, Holds I (resumeWaitUserAnswer host files answer ui.ctx)) :
    Holds I (uiSelection host files ui selection) := by
  have hsubmit : ∀ answer, Holds I (submitUiAnswer host files ui answer) := by
    intro answer
    refine keeps_bind (hanswer answer) fun result => ?_
    split
    · exact holds_failUi hask _ _
    · exact keeps_bind (fun s hs => asks_suspend hask hs _) fun _ => keeps_pure _
    · exact holds_closeUi hask _
  have hreopen : Holds I (reopenSelector ui) := keeps_bind (holds_openSelector hask _) fun _ => keeps_pure _
  have heditor : Holds I (openEditor ui) :=
    holds_untouched_bind (untouched_emit rfl) fun _ => keeps_bind (fun s hs => asks_suspend hask hs _) fun _ =>
      keeps_pure _
  unfold uiSelection
  split
  · exact holds_closeUi hask _
  · exact keeps_ite (keeps_ite heditor (holds_closeUi hask _)) (hsubmit _)
  · exact hreopen
  · exact keeps_ite hreopen (hsubmit _)

theorem holds_wake (hI : Steady host I) (hask : Asks I) (hclear : Clears I)
    (hanswer : ∀ answer ctx, Holds I (resumeWaitUserAnswer host files answer ctx)) (suspension : Suspension)
    (settlement : Settlement) : Holds I (wake host files suspension settlement) := by
  unfold wake
  split
  · exact holds_uiSelection hask fun answer => hanswer answer _
  · exact holds_failUi hask _ _
  · exact holds_closeUi hask _
  · exact holds_failUi hask _ _
  · exact holds_endOmission hclear
  · exact keeps_throw _
  · exact keeps_ite (holds_startFromInput hI _ _) (keeps_pure _)
  · exact keeps_ite untouched_publishCurrent.holds (keeps_bind (holds_leaveWorkflow hI hclear) fun _ => keeps_pure _)
  · exact keeps_throw _
  · exact keeps_bind (holds_refreshPendingGrillRun hI) fun _ => keeps_pure _
  · exact keeps_throw _
  · exact keeps_pure _

theorem holds_resume (hI : Steady host I) (hask : Asks I) (hclear : Clears I)
    (hanswer : ∀ answer ctx, Holds I (resumeWaitUserAnswer host files answer ctx)) (index : Nat)
    (settlement : Settlement) : Holds I (resume host files index settlement) := by
  refine holds_get_bind fun s => ?_
  cases s.suspended[index]? with
  | none => exact keeps_pure _
  | some suspension =>
      refine keeps_ite (keeps_bind (fun s hs => asks_suspend hask hs _) fun _ => ?_) (keeps_pure _)
      exact holds_wake hI hask hclear hanswer _ _

/-! ### The step -/

/-- `I` survives what is done with the invocations of the build stages, function by function. -/
structure KeepsBuilds (host : Host) (files : Files) (I : Agenda → Prop) : Prop where
  forget : ∀ a, I a → I { a with pendingSettledBuildInvocation := none }
  complete : (canEnforceToolBoundary host && host.sendUserMessage) = true → ∀ identity result,
    Holds I (completeUnderstanding host files identity result)
  contextComplete : ∀ attemptId sourceRoundId outcome ctx,
    Holds I (forgeContextComplete host files attemptId sourceRoundId outcome ctx)
  resume : ∀ answer, Holds I (resumeBuildAnswer host files answer)
  settled : Holds I agentSettled

theorem keepsBuilds_of_builds (hI : Steady host I) (hask : Asks I) (hbuild : Builds I) : KeepsBuilds host files I where
  forget a ha := hbuild a none _ _ _ ha
  complete _ _ _ := holds_completeUnderstanding hI hbuild _ _
  contextComplete _ _ _ _ := holds_forgeContextComplete hI hbuild fun _ _ => holds_publishWaitUser hI hask _ _ _ _
  resume _ := holds_resumeBuildAnswer hI hbuild _
  settled := holds_agentSettled hI (holds_armBuild hbuild)

theorem KeepsBuilds.and {J : Agenda → Prop} (hI : KeepsBuilds host files I) (hJ : KeepsBuilds host files J) :
    KeepsBuilds host files fun a => I a ∧ J a where
  forget a ha := ⟨hI.forget a ha.1, hJ.forget a ha.2⟩
  complete henforces identity result :=
    keeps_and (hI.complete henforces identity result) (hJ.complete henforces identity result)
  contextComplete attemptId sourceRoundId outcome ctx :=
    keeps_and (hI.contextComplete attemptId sourceRoundId outcome ctx) (hJ.contextComplete attemptId sourceRoundId outcome ctx)
  resume answer := keeps_and (hI.resume answer) (hJ.resume answer)
  settled := keeps_and hI.settled hJ.settled

/-- A fact that the functions of the build stages keep is kept by every event but an input, the build timer, the
command `continue` and the end of a message. -/
theorem holds_handler_of (hI : Steady host I) (hask : Asks I) (hclear : Clears I) (hbuilds : KeepsBuilds host files I)
    {e : Event} (he : e.endsMessage = false) (htimer : e = .buildTimer → Holds I (buildTimer host))
    (hinput : ∀ rawText ctx, e = .input rawText ctx → Holds I (input host files rawText ctx))
    (hcontinue : e.continues = true → Holds I (continueContextBuild host)) :
    Holds I (handler host files e) := by
  have hpublish : ∀ ctx payload reply catches, Holds I (publishWaitUser ctx payload reply catches) :=
    fun ctx payload reply catches => holds_publishWaitUser hI hask ctx payload reply catches
  have hanswer : ∀ answer ctx, Holds I (resumeWaitUserAnswer host files answer ctx) :=
    fun answer ctx => holds_resumeWaitUserAnswer hI hask hclear hbuilds.resume answer ctx
  cases e with
  | grillEvidence candidateId => exact holds_forgeGrillEvidence hI _
  | grillComplete payload ctx => exact holds_forgeGrillComplete hI (hpublish ctx)
  | deepSearch params => exact holds_forgeDeepSearch hI _
  | deepRetrievalComplete toolCallId attemptId sourceRoundId outcome ctx =>
      exact holds_forgeDeepRetrievalComplete hI fun payload reply => hpublish ctx payload reply true
  | deepComplete toolCallId attemptId sourceRoundId outcome ctx =>
      exact holds_forgeDeepComplete hI (fun payload reply => hpublish ctx payload reply true) hbuilds.complete
  | contextComplete attemptId sourceRoundId outcome ctx => exact hbuilds.contextComplete _ _ _ _
  | adrComplete attemptId sourceRoundId outcome ctx =>
      exact holds_forgeAdrComplete hI hbuilds.forget fun payload reply => hpublish ctx payload reply false
  | toolCall toolName => exact holds_get_bind fun s => keeps_pure _
  | toolResult toolCallId toolName isError => exact holds_toolResult hI _ _ _
  | messageStart texts => exact (untouched_messageStart texts).holds
  | messageEnd message => cases he
  | agentSettled => exact hbuilds.settled
  | discoveryTimer => exact holds_discoveryTimer hI
  | buildTimer => exact htimer rfl
  | deepTimer => exact holds_deepTimer hI
  | input rawText ctx => exact hinput rawText ctx rfl
  | command args ctx =>
      exact holds_command hI hask hclear (fun answer => hanswer answer ctx) fun hargs =>
        hcontinue (decide_eq_true hargs)
  | resume index settlement => exact holds_resume hI hask hclear hanswer _ _

/-- **The agenda through a handler.**  A fact that survives all writes but those of the batch is kept by the
handler of every event but the end of a message. -/
theorem holds_handler (hI : Steady host I) (hask : Asks I) (hclear : Clears I) (hbuild : Builds I)
    (hsends : Sends I) {e : Event} (he : e.endsMessage = false) : Holds I (handler host files e) :=
  holds_handler_of hI hask hclear (keepsBuilds_of_builds hI hask hbuild) he (fun _ => holds_buildTimer hbuild hsends)
    (fun _ _ _ => holds_input hI hask (holds_answerInput hI hask hclear hbuild _ _))
    fun _ => holds_continueContextBuild hsends

end Extension

/-! ### Steps and runs -/

variable {host : Host} {I : Agenda → Prop}

/-- A step keeps what its handler keeps. -/
theorem step_holds_of {o : Occurrence} (h : Extension.Holds I (Extension.handler host o.files o.event))
    {s : ExtensionState} (hs : I s.cleared.agenda) : I (extensionStep host o s).2.agenda :=
  h s.cleared hs

/-- **The agenda through a step.** -/
theorem step_holds (hI : Steady host I) (hask : Asks I) (hclear : Clears I) (hbuild : Builds I) (hbatch : Batches I)
    (hsends : Sends I) {o : Occurrence} {s : ExtensionState} (hs : I s.agenda) :
    I (extensionStep host o s).2.agenda := by
  refine step_holds_of ?_ (hsends s.agenda [] hs)
  cases he : o.event.endsMessage with
  | false => exact Extension.holds_handler hI hask hclear hbuild hsends he
  | true =>
      cases hevent : o.event with
      | messageEnd message => exact Extension.holds_messageEnd hI hask hclear hbatch hsends message
      | _ => rw [hevent] at he; cases he

end ForgeRuntime
