import ForgeRuntime.Extension.ToolMoves

/-!
# The moves of the handlers

The rules of the event handlers, of the command and of the code that a step wakes.  With the rules of the
tools they give the main result, `extensionStep_path`: a step of the extension is a path of moves.
-/

namespace ForgeRuntime

open EventDriven EventDriven.Text EventDriven.Turn EventDriven.Machine

namespace Extension

variable {host : Host} {files : Files} {s₀ : ExtensionState} {e : Event} {calls : List SessionOp}

theorem starts_of_quiet {α : Type} {m : Ext α} (hstart : s₀.calls = []) (h : Quiet m) :
    Starts host files s₀ e m :=
  starts_of_ends hstart (ends_of_stays h.stays)

/-! ### Messages -/

theorem quiet_messageStart (texts : List String) : Quiet (messageStart texts) := by
  refine quiet_get_bind fun s => ?_
  exact quiet_ite (quiet_bind (quiet_modify fun _ => rfl) fun _ => quiet_pure _) (quiet_pure _)

theorem quiet_clearPendingState : Quiet clearPendingState := fun _ => rfl

theorem endOmission_rule (h : RestoresTools s₀ e calls) : Ends host files s₀ e calls (endOmission host) :=
  leads_quiet_bind quiet_clearPendingState fun _ =>
    leads_stays_bind (restoreActiveTools_rule h) fun _ => ends_pure _

theorem omittedCompletion_rule (hactive : HasActiveGrillAttempt s₀) :
    Ends host files s₀ e [] (omittedCompletion host) := by
  refine leads_call_bind .flag rfl (.omission hactive) fun first _ => ?_
  refine leads_ite (fun _ => ?_) fun _ => endOmission_rule .omission
  refine leads_get_bind fun s _ => leads_quiet_bind (quiet_publishState _) fun _ => ?_
  refine leads_ite (fun _ => ?_) fun _ => endOmission_rule .omission
  exact leads_quiet_bind (quiet_emit _) fun _ => leads_quiet_bind (quiet_modify fun _ => rfl) fun _ =>
    ends_pure _

theorem assistantMessageEnd_rule {content : List AssistantBlock} (hstart : s₀.calls = []) :
    Starts host files s₀ e (assistantMessageEnd host content) := by
  refine starts_get_bind hstart (leads_ite (fun _ => ?_) fun _ => leads_ite (fun _ => ends_pure _) fun hactive =>
    leads_ite (fun _ => ends_pure _) fun _ => omittedCompletion_rule (not_not.mp hactive))
  exact leads_quiet_bind (quiet_modify fun _ => rfl) fun _ => ends_pure _

theorem quiet_searchSettled (batch : DeepRetrievalBatch) (toolCallId : String) :
    Quiet (searchSettled host batch toolCallId) := by
  refine quiet_bind (quiet_modify fun _ => rfl) fun _ => quiet_get_bind fun s => ?_
  cases s.activeWorkflow with
  | none => exact quiet_pure _
  | some workflow =>
      refine quiet_ite (quiet_pure _) (quiet_bind (quiet_modify fun _ => rfl) fun _ => ?_)
      exact quiet_ite (quiet_bind (quiet_sendUserMessage _) fun _ => quiet_pure _) (quiet_pure _)

theorem messageEnd_rule {message : EndedMessage} (hstart : s₀.calls = []) :
    Starts host files s₀ e (messageEnd host message) := by
  cases message with
  | toolResult toolCallId =>
      refine starts_get_bind hstart (ends_of_stays (Quiet.stays ?_))
      cases s₀.deepRetrievalBatch with
      | none => exact quiet_pure _
      | some batch =>
          cases truthy toolCallId with
          | none => exact quiet_pure _
          | some id => exact quiet_ite (quiet_searchSettled _ _) (quiet_pure _)
  | assistant content => exact assistantMessageEnd_rule hstart
  | other => exact starts_of_quiet hstart (quiet_pure _)

/-! ### Tool results -/

theorem restartDiscovery_rule {restart : PendingDiscoveryRestart} :
    Ends host files s₀ e [] (restartDiscovery host files restart) := by
  refine leads_get_bind fun s hat => ?_
  cases s.activeWorkflow with
  | none => exact ends_pure _
  | some workflow =>
      refine leads_ite (fun _ => ends_pure _) fun hstage => ?_
      have hdiscovery : AtStage s₀ .lightDiscovery := by
        rw [AtStage, ← hat.fresh.1]
        exact not_not.mp fun hne => hstage (.inl hne)
      refine leads_quiet_bind (quiet_requireBoundary _ _) fun enforceable => ?_
      refine leads_ite (fun _ => ends_pure _) fun _ => ?_
      refine ends_bind (restartLightDiscoveryAndGrill_rule (.discoverAgain hdiscovery)) fun invocation => ?_
      exact leads_modify_bind (fun _ hpath => hpath) (closes_pure _)

theorem toolResult_rule {toolCallId toolName : String} {isError : Option Bool} (hstart : s₀.calls = []) :
    Starts host files s₀ e (toolResult host files toolCallId toolName isError) := by
  refine starts_get_bind hstart ?_
  cases s₀.pendingDiscoveryRestart with
  | none => exact ends_pure _
  | some restart =>
      refine leads_ite (fun _ => ends_pure _) fun _ => leads_quiet_bind (quiet_modify fun _ => rfl) fun _ => ?_
      exact leads_ite (fun _ => ends_pure _) fun _ => restartDiscovery_rule

/-! ### Timers and the gate -/

theorem quiet_agentSettled : Quiet agentSettled := by
  refine quiet_bind (quiet_modify fun s => ?_) fun _ => ?_
  · split <;> rfl
  refine quiet_bind (quiet_modify fun s => ?_) fun _ => ?_
  · split <;> rfl
  refine quiet_bind (quiet_modify fun s => ?_) fun _ => quiet_pure _
  split <;> rfl

theorem quiet_sendSettled (invocation : String) : Quiet (sendSettled invocation) := fun _ => rfl

theorem quiet_rememberSentContextBuildInvocation (pending : PendingSettledBuildInvocation) :
    Quiet (rememberSentContextBuildInvocation pending) :=
  quiet_ite (quiet_pure _) (quiet_modify fun _ => rfl)

theorem quiet_discoveryTimer : Quiet (discoveryTimer host) := by
  refine quiet_get_bind fun s => ?_
  cases s.pendingSettledDiscoveryInvocationTimer with
  | none => exact quiet_pure _
  | some pending =>
      refine quiet_bind (quiet_modify fun _ => rfl) fun _ => quiet_get_bind fun s => ?_
      exact quiet_ite (quiet_sendSettled _) (quiet_pure _)

theorem quiet_buildTimer : Quiet (buildTimer host) := by
  refine quiet_get_bind fun s => ?_
  cases s.pendingSettledBuildInvocationTimer with
  | none => exact quiet_pure _
  | some pending =>
      refine quiet_bind (quiet_modify fun _ => rfl) fun _ => quiet_get_bind fun s => ?_
      exact quiet_ite (quiet_bind (quiet_rememberSentContextBuildInvocation _) fun _ => quiet_sendSettled _)
        (quiet_pure _)

theorem quiet_deepTimer : Quiet (deepTimer host) := by
  refine quiet_get_bind fun s => ?_
  cases s.pendingSettledDeepInvocationTimer with
  | none => exact quiet_pure _
  | some pending =>
      refine quiet_bind (quiet_modify fun _ => rfl) fun _ => quiet_get_bind fun s => ?_
      exact quiet_ite (quiet_sendSettled _) (quiet_pure _)

theorem quiet_toolCall (toolName : String) : Quiet (toolCall toolName) := fun _ => rfl

/-! ### Inputs -/

theorem replayInput_rule {rawText : String} {ctx : CommandContext} (he : e = .input rawText ctx)
    (hreplay : s₀.pendingReplayInvocation = some (trim rawText)) :
    Ends host files s₀ e [] (replayInput host) := by
  refine leads_get_bind fun s hat => ?_
  cases hphase : s.session.deepAttempt.map (·.phase) with
  | none => exact ends_pure _
  | some phase =>
      cases phase with
      | deepKnowledgeRetrieval => exact leads_stays_bind (activateDeepRetrievalTools_rule rfl) fun _ => ends_pure _
      | knowledgeUnderstanding =>
          rw [hat.fresh.1] at hphase
          obtain ⟨attempt, hlive, hattempt⟩ := Option.map_eq_some_iff.mp hphase
          exact leads_stays_bind (activateDeepUnderstandingTools_rule (.replayed he hreplay hlive hattempt) hphase)
            fun _ => ends_pure _

theorem answerInput_rule {rawText : String} {ctx : CommandContext} (he : e = .input rawText ctx)
    (hstage : AtStage s₀ .waitUser) : Ends host files s₀ e [] (answerInput host files (trim rawText) ctx) := by
  refine leads_quiet_bind (quiet_requireBoundary _ _) fun enforceable => leads_ite (fun _ => ends_pure _) fun _ => ?_
  refine leads_get_bind fun s hat => ?_
  have hanswer : submittedAnswer? host s₀ e = some (inputAnswer host s.session.uiState.waitUser (trim rawText)) := by
    rw [he, hat.fresh.1]
    exact if_pos hstage
  generalize inputAnswer host s.session.uiState.waitUser (trim rawText) = answer at hanswer
  refine leads_bind (resumeBuildAnswer_rule hanswer) fun taken => ?_
  cases taken with
  | true =>
      refine leads_mono (P := fun s => Path host files s₀ e s.core) ?_ (fun _ hs => hs.1) fun _ _ hpath => hpath
      refine leads_ite (fun _ => ?_) fun htaken => absurd rfl htaken
      refine leads_get_bind fun s _ => leads_modify_bind (M := fun s => Path host files s₀ e s.core)
        (fun _ hpath => hpath) ?_
      cases s.pendingSettledBuildInvocation with
      | none => exact closes_pure _
      | some pending =>
          exact leads_bind (quiet_rememberSentContextBuildInvocation _).closes fun _ => closes_pure _
  | false =>
      refine leads_mono (P := fun s => At host files s₀ e [] s.core) ?_ (fun _ hs => hs.2 rfl) fun _ _ hs => hs
      refine leads_ite (fun htaken => absurd htaken (by simp)) fun _ => leads_ite (fun _ => ?boundary) fun _ => ?rest
      case' boundary =>
        refine leads_quiet_bind (quiet_requireBoundary _ _) fun _ => leads_ite (fun _ => ends_pure _) fun _ => ?_
      -- with or without the boundary of Deep, the answer goes on alike
      all_goals
        refine leads_bind (prepareDeepKnowledgeAnswer_rule hanswer) fun outcome => ?_
        cases outcome with
        | handled state invocation =>
            exact leads_mono (leads_bind (quiet_publishState _).closes fun _ => closes_pure _)
              (fun _ hs => hs.1) fun _ _ hpath => hpath
        | notDeep =>
            refine leads_pre (fun _ hs => hs.2 rfl) fun hgrill => ?_
            exact ends_bind (resumeGrillWithAnswer_rule hanswer hgrill) fun _ => closes_pure _

theorem startFromInput_rule {canonicalRequest : String} {rootDir : Option String} :
    Ends host files s₀ e [] (startFromInput host files canonicalRequest rootDir) := by
  cases rootDir with
  | none => exact leads_quiet_bind (quiet_notify _) fun _ => ends_pure _
  | some rootDir =>
      refine leads_quiet_bind (quiet_requireBoundary _ _) fun _ => leads_ite (fun _ => ends_pure _) fun _ => ?_
      refine leads_bind (Q := fun _ s => At host files s₀ e [] s.core) ?_ fun _ => ?_
      · exact leads_of_ok fun s hat => ⟨_, _, rfl, .move hat.path .consentWithdrawn, hat.calls⟩
      refine leads_ite (fun _ => ?_) fun _ => ends_bind startWorkflow_rule fun _ => closes_pure _
      exact leads_quiet_bind (quiet_modify fun _ => rfl) fun _ => leads_quiet_bind (quiet_notify _) fun _ =>
        ends_pure _

theorem answerKnowledgeRequest_rule {request : KnowledgeRequest} {rawText : String} {ctx : CommandContext}
    (he : e = .input rawText ctx) (hasked : s₀.pendingKnowledgeRequest ≠ none) :
    Ends host files s₀ e [] (answerKnowledgeRequest host files request (trim rawText)) := by
  refine leads_ite (fun _ => leads_quiet_bind (quiet_notify _) fun _ => ends_pure _) fun happroval => ?_
  have happroved : isApproval host (trim rawText) = true := by simpa using happroval
  refine leads_quiet_bind (quiet_requireBoundary _ _) fun _ => leads_ite (fun _ => ends_pure _) fun _ => ?_
  refine leads_bind (Q := fun _ s => At host files s₀ e [] s.core) ?_ fun _ =>
    ends_bind startWorkflow_rule fun _ => closes_pure _
  exact leads_of_ok fun s hat => ⟨_, _, rfl,
    .move hat.path (.consentGiven (.inr ⟨hat.calls, hasked, rawText, ctx, he, happroved⟩)), hat.calls⟩

theorem requestInput_rule {rawText routingText : String} {ctx : CommandContext} :
    Ends host files s₀ e [] (requestInput host files rawText routingText ctx) := by
  refine leads_get_bind fun s _ => leads_ite (fun _ => ?_) fun _ => ?_
  · exact leads_quiet_bind (quiet_notify _) fun _ => ends_pure _
  · refine leads_ite (fun _ => startFromInput_rule) fun _ => leads_ite (fun _ => ends_pure _) fun _ => ?_
    exact leads_quiet_bind (quiet_modify fun _ => rfl) fun _ => ends_pure _

theorem input_rule {rawText : String} {ctx : CommandContext} (hstart : s₀.calls = [])
    (he : e = .input rawText ctx) : Starts host files s₀ e (input host files rawText ctx) := by
  refine starts_get_bind hstart (leads_ite (fun hreplay => replayInput_rule he hreplay) fun _ =>
    leads_ite (fun _ => ends_pure _) fun _ => ?_)
  cases hasked : s₀.pendingKnowledgeRequest with
  | some request => exact answerKnowledgeRequest_rule he (by simp [hasked])
  | none => exact leads_ite (fun hstage => answerInput_rule he hstage) fun _ => requestInput_rule

/-! ### `grill ambiguous` and `grill-result` -/

theorem shownDecision_shows (h : shownDecision? s₀.session.uiState ≠ none) :
    Session.ShowsDecision (sessionAt host s₀ []) := by
  unfold shownDecision? at h
  split at h
  case isTrue hstage => exact ⟨hstage, h⟩
  case isFalse => exact absurd rfl h

theorem grillAmbiguous_rule {raw : String} {ctx : CommandContext}
    (he : e.command? = some ("grill ambiguous " ++ raw)) :
    Ends host files s₀ e [] (grillAmbiguous host raw ctx) := by
  unfold grillAmbiguous
  cases hpayload : parseWaitUserPayload host raw with
  | error error => exact ends_throw _
  | ok payload =>
      refine ends_bind (publishWaitUser_rule ?_) fun _ => closes_pure _
      by_cases hshown : shownDecision? s₀.session.uiState = none
      · exact .inr (.askAmbiguous he hshown hpayload)
      · exact .inl (shownDecision_shows hshown)

theorem grillResultDeep_rule {completion : GrillCompletionPayload} {ctx : CommandContext}
    (hin : HandsInGrill s₀ e)
    (hasks : AtStage s₀ .grill ∨ Session.ShowsDecision (sessionAt host s₀ [])) :
    Ends host files s₀ e [] (grillResultDeep host completion ctx) := by
  refine leads_bind (Q := fun _ s => At host files s₀ e [] s.core) ?_ fun _ => ?_
  · exact leads_of_ok fun s hat => ⟨_, _, rfl, .move hat.path .convergenceEnded, hat.calls⟩
  refine ends_bind (continueDeepKnowledge_rule (fun _ round hround _ _ => ?_) (.enterDeep hin)
    (activateDeepRetrievalTools_rule rfl)) fun entry => ?_
  · exact hasks.symm.imp (fun hshows => hshows) fun hstage => .askRelevance hin hstage hround
  · cases entry with
    | asked opened => exact closes_pure _
    | sending => exact leads_modify_bind (fun _ hpath => hpath) (closes_pure _)
    | refused => exact closes_pure _
    | entered invocation => exact closes_pure _

theorem exists_command {text : String} (h : e.command? = some text) :
    ∃ args ctx, e = .command args ctx ∧ trim args = text := by
  cases e with
  | command args ctx => exact ⟨args, ctx, rfl, Option.some.inj h⟩
  | _ => cases h

theorem grillResult_rule {raw : String} {ctx : CommandContext} (hstart : s₀.calls = [])
    (he : e.command? = some ("grill-result " ++ raw)) :
    Starts host files s₀ e (grillResult host raw ctx) := by
  obtain ⟨args, argsCtx, rfl, hargs⟩ := exists_command he
  refine starts_get_bind hstart (leads_ite (fun _ => ends_pure _) fun hactive => ?_)
  have hstages : s₀.pendingGrillRun = true ∧ (AtStage s₀ .grill ∨ AtStage s₀ .waitUser) := by
    by_cases hreplay : s₀.pendingGrillRun = true ∧ AtStage s₀ .waitUser
    · exact ⟨hreplay.1, .inr hreplay.2⟩
    · have hgrill : HasActiveGrillAttempt s₀ := not_not.mp fun hno => hactive ⟨hno, by simpa using hreplay⟩
      exact ⟨hgrill.1, .inl hgrill.2⟩
  have hin : HandsInGrill s₀ (.command args argsCtx) := by
    refine ⟨?_, hstages⟩
    rw [hargs]
    simp [startsWith]
  have hhanded : handedIn? host s₀ (.command args argsCtx) =
      (parseActiveGrillCompletion host (.text raw) s₀).1.toOption := by
    simp [handedIn?, hargs]
  refine leads_fact_bind (parseActiveGrillCompletion_rule hhanded) fun completion hcompletion => ?_
  refine leads_ite (fun _ => ends_pure _) fun hrepeats => ?_
  have hasks : AtStage s₀ .grill ∨ Session.ShowsDecision (sessionAt host s₀ []) := by
    refine hstages.2.imp_right fun hstage => ⟨hstage, fun hnone => hrepeats ⟨?_, ?_, ?_⟩⟩
    · simpa using ⟨hstages.1, hstage⟩
    · rintro ⟨pending, hpending, -⟩
      exact absurd (hnone.symm.trans hpending) (by simp)
    · rintro ⟨pending, hpending, -⟩
      exact absurd (hnone.symm.trans hpending) (by simp)
  refine leads_ite (fun _ => grillResultDeep_rule hin hasks) fun _ => ?_
  cases hpayload : toWaitUserPayload completion with
  | error error => exact ends_throw _
  | ok payload =>
      refine ends_bind (publishWaitUser_rule ?_) fun _ => closes_pure _
      exact hasks.symm.imp (fun hshows => hshows) fun hstage => .askCompletion hin hstage hcompletion hpayload

/-! ### `continue` and `retry` -/

theorem quiet_publishCurrent : Quiet publishCurrent := fun _ => rfl

theorem publishCurrent_rule : Ends host files s₀ e calls publishCurrent :=
  ends_of_stays quiet_publishCurrent.stays

theorem quiet_replay (invocation : String) : Quiet (replay invocation) := fun _ => rfl

theorem replayGrillRound_rule {round : GrillRound} (hgoes : GoesOn calls) :
    Ends host files s₀ e calls (replayGrillRound host files round) := by
  refine leads_get_bind fun s _ => leads_quiet_bind (quiet_grillingInvocation _ _ _) fun invocation => ?_
  refine leads_quiet_bind (quiet_modify fun _ => rfl) fun _ => leads_stays_bind (activateGrillTools_rule hgoes) fun _ => ?_
  exact leads_quiet_bind (quiet_sendUserMessage _) fun _ => publishCurrent_rule

theorem continueDiscovery_rule {workflow : ActiveWorkflowContext} (hstage : AtStage s₀ .lightDiscovery) :
    Ends host files s₀ e [] (continueDiscovery host files workflow) := by
  refine leads_ite (fun _ => publishCurrent_rule) fun _ => leads_quiet_bind (quiet_requireBoundary _ _) fun _ => ?_
  refine leads_ite (fun _ => publishCurrent_rule) fun _ => ?_
  refine ends_bind (restartLightDiscoveryAndGrill_rule (.discoverAgain hstage)) fun invocation => ?_
  exact leads_bind (quiet_replay _).closes fun _ => closes_pure _

theorem continueContextBuild_rule : Ends host files s₀ e [] (continueContextBuild host) := by
  refine leads_ite (fun _ => publishCurrent_rule) fun _ => leads_quiet_bind (quiet_requireBoundary _ _) fun _ => ?_
  refine leads_ite (fun _ => publishCurrent_rule) fun _ => leads_get_bind fun s _ => ?_
  cases replayableContextBuild? s with
  | none => exact publishCurrent_rule
  | some lastSent =>
      exact leads_stays_bind (activateContextBuildTools_rule rfl) fun _ => leads_quiet_bind (quiet_replay _) fun _ =>
        publishCurrent_rule

/-- The tools and the invocation of an attempt that was started again. -/
theorem resendDeep_rule {retryState : ForgeUiState} (hgoes : GoesOn calls)
    (henters : (sessionAt host s₀ calls).deepAttempt.map (·.phase) = some .knowledgeUnderstanding →
      EntersUnderstanding host s₀ e calls) :
    Ends host files s₀ e calls (do
      let some retryAttempt := (← get).session.deepAttempt | return Reply.done
      match retryAttempt.phase with
      | .deepKnowledgeRetrieval => activateDeepRetrievalTools host
      | .knowledgeUnderstanding => activateDeepUnderstandingTools host
      replay (continueDeepInvocation retryAttempt)
      publishState retryState
      return Reply.done) := by
  refine leads_get_bind fun s hat => ?_
  cases hattempt : s.session.deepAttempt with
  | none => exact ends_pure _
  | some attempt =>
      rw [hat.session] at hattempt
      refine activateDeepTools_rule hgoes hattempt (fun hphase => henters ?_)
        (leads_quiet_bind (quiet_replay _) fun _ => leads_quiet_bind (quiet_publishState _) fun _ => ends_pure _)
      rw [hattempt, Option.map_some, hphase]

theorem continueDeep_rule (he : e.command? = some "continue") (hat : AtDeepStep s₀) :
    Ends host files s₀ e [] (continueDeep host) := by
  refine leads_ite (fun _ => publishCurrent_rule) fun _ => leads_quiet_bind (quiet_requireBoundary _ _) fun _ => ?_
  refine leads_ite (fun _ => publishCurrent_rule) fun _ => leads_get_bind fun s hs => ?_
  rw [hs.fresh.1]
  cases hlive : s₀.session.deepAttempt with
  | none =>
      refine leads_call_bind .ui rfl (.resumeDeep he hat hlive) fun _ hrun => resendDeep_rule rfl fun hphase => ?_
      have hretried := Session.retryDeepKnowledge_phase _ hrun hphase
      have hnone : (sessionAt host s₀ []).deepAttempt = none := hlive
      rw [hnone, Option.map_none] at hretried
      exact .resumed he hat (hretried.resolve_right nofun)
  | some attempt =>
      refine leads_call_bind .ui rfl (.continueDeep he hat hlive) fun _ hrun => resendDeep_rule rfl fun hphase => ?_
      have hissued := Session.beginDeepKnowledge_issues _ _ hrun
      exact .continued he hat hlive (Option.some.inj (hissued.symm.trans hphase))

theorem continueGrill_rule : Ends host files s₀ e [] (continueGrill host files) := by
  refine leads_get_bind fun s _ => leads_ite (fun _ => ends_pure _) fun _ => ?_
  refine leads_ite (fun _ => publishCurrent_rule) fun _ => leads_quiet_bind (quiet_requireBoundary _ _) fun _ => ?_
  refine leads_ite (fun _ => publishCurrent_rule) fun _ => ?_
  exact leads_fact_bind continueGrillRound_rule fun round _ => replayGrillRound_rule rfl

theorem continueCommand_rule (hstart : s₀.calls = []) (he : e.command? = some "continue") :
    Starts host files s₀ e (continueCommand host files) := by
  refine starts_get_bind hstart (leads_ite (fun _ => ?_) fun _ => ?_)
  · exact leads_quiet_bind (quiet_notify _) fun _ => publishCurrent_rule
  cases hworkflow : discoveryWorkflow? s₀ with
  | some workflow =>
      unfold discoveryWorkflow? at hworkflow
      split at hworkflow
      case isTrue hstage => exact continueDiscovery_rule hstage
      case isFalse => cases hworkflow
  | none =>
      refine leads_ite (fun _ => continueContextBuild_rule) fun _ => leads_ite (fun hat => ?_) fun _ => ?_
      · exact continueDeep_rule he hat
      · exact continueGrill_rule

theorem retryCommand_rule (he : e.command? = some "retry") :
    Ends host files s₀ e [] (retryCommand host files) := by
  refine leads_ite (fun _ => publishCurrent_rule) fun _ => leads_quiet_bind (quiet_requireBoundary _ _) fun _ => ?_
  refine leads_ite (fun _ => publishCurrent_rule) fun _ => ?_
  refine leads_call_bind .roundIfAny rfl (.retryGrill he) fun round _ => ?_
  cases round with
  | none => exact leads_quiet_bind (quiet_notify _) fun _ => publishCurrent_rule
  | some round => exact replayGrillRound_rule rfl

/-! ### `switch`, `confirm` and `reject` -/

theorem switchCommand_rule {request : String} {ctx : CommandContext} :
    Ends host files s₀ e calls (switchCommand request ctx) :=
  leads_ite (fun _ => publishCurrent_rule) fun _ => leads_quiet_bind (quiet_modify fun _ => rfl) fun _ =>
    ends_pure _

theorem answerPending_rule {state : ForgeUiState} {answer : String} {ctx : CommandContext}
    (h : submittedAnswer? host s₀ e = some answer) :
    Ends host files s₀ e [] (answerPending host files state answer ctx) := by
  refine ends_bind (resumeWaitUserAnswer_rule h) fun resumption => ?_
  cases resumption with
  | handled => exact closes_pure _
  | sending => exact closes_pure _
  | notHandled => exact leads_bind (quiet_publishState _).closes fun _ => closes_pure _

/-- Where the command `confirm` may confirm, no decision is shown, and it does nothing more. -/
theorem confirmAndContinueDeepKnowledge_rule {ctx : CommandContext} (he : e.command? = some "confirm")
    (hshown : shownDecision? s₀.session.uiState = none) :
    Ends host files s₀ e [] (confirmAndContinueDeepKnowledge host ctx) := by
  refine leads_get_bind fun s hat => ?_
  rw [hat.fresh.1]
  refine leads_call_bind .ui rfl (.confirm he hshown) fun nextState _ => ?_
  refine leads_quiet_bind (quiet_publishState _) fun _ => leads_ite (fun _ => ends_pure _) fun hgoes => ?_
  exact absurd (.inl hshown) hgoes

theorem confirmCommand_rule {args : String} {ctx : CommandContext} (hstart : s₀.calls = [])
    (he : e = .command args ctx) (hargs : trim args = "confirm") :
    Starts host files s₀ e (confirmCommand host files ctx) := by
  have hcommand : e.command? = some "confirm" := by rw [he, ← hargs]; rfl
  refine starts_get_bind hstart ?_
  cases hshown : shownDecision? s₀.session.uiState with
  | none =>
      simp only [hshown]
      exact confirmAndContinueDeepKnowledge_rule hcommand hshown
  | some pending =>
      simp only [hshown]
      refine leads_ite (fun _ => ?_) fun _ => answerPending_rule ?_
      · exact leads_quiet_bind (quiet_notify _) fun _ => leads_quiet_bind (quiet_publishState _) fun _ =>
          ends_pure _
      · simp [he, submittedAnswer?, hshown, hargs]

theorem rejectCommand_rule {selection : Option String} {ctx : CommandContext} (hstart : s₀.calls = [])
    (h : shownDecision? s₀.session.uiState ≠ none →
      submittedAnswer? host s₀ e = some (selection.getD "reject")) :
    Starts host files s₀ e (rejectCommand host files selection ctx) := by
  refine starts_get_bind hstart ?_
  cases hshown : shownDecision? s₀.session.uiState with
  | none =>
      simp only [hshown]
      refine leads_call_bind .ui rfl (.reject hshown) fun _ _ => ?_
      exact leads_quiet_bind (quiet_publishState _) fun _ => ends_pure _
  | some pending =>
      simp only [hshown]
      exact answerPending_rule (h (by simp [hshown]))

theorem command_rule {args : String} {ctx : CommandContext} (hstart : s₀.calls = [])
    (he : e = .command args ctx) : Starts host files s₀ e (command host files args ctx) := by
  have hcommand : e.command? = some (trim args) := by rw [he]; rfl
  unfold command
  refine leads_ite (fun hgrill => ?_) fun hgrill => leads_ite (fun hresult => ?_) fun hresult =>
    leads_ite (fun hcontinue => ?_) fun _ => leads_ite (fun hretry => ?_) fun _ =>
    leads_ite (fun _ => ?_) fun _ => leads_ite (fun _ => ?_) fun _ =>
    leads_ite (fun hconfirm => ?_) fun hconfirm => leads_ite (fun hreject => ?_) fun _ =>
    leads_ite (fun hanswer => ?_) fun _ => ?_
  · exact starts_of_ends hstart (grillAmbiguous_rule (hcommand.trans (congrArg some (eq_append_of_startsWith hgrill))))
  · exact grillResult_rule hstart (hcommand.trans (congrArg some (eq_append_of_startsWith hresult)))
  · exact continueCommand_rule hstart (hcommand.trans (congrArg some hcontinue))
  · exact starts_of_ends hstart (retryCommand_rule (hcommand.trans (congrArg some hretry)))
  · exact starts_of_ends hstart (ends_bind cancelWorkflow_rule fun _ => closes_pure _)
  · exact starts_of_ends hstart switchCommand_rule
  · exact confirmCommand_rule hstart he hconfirm
  · refine rejectCommand_rule hstart fun hshown => ?_
    obtain ⟨pending, hpending⟩ := Option.ne_none_iff_exists'.mp hshown
    simp [he, submittedAnswer?, hpending, hreject]
  · refine rejectCommand_rule hstart fun hshown => ?_
    obtain ⟨pending, hpending⟩ := Option.ne_none_iff_exists'.mp hshown
    simp_all [submittedAnswer?]
  · exact starts_of_quiet hstart quiet_publishCurrent

/-! ### Waking suspended code -/

theorem closes_closeUi (ui : OpenUi) : Closes host files s₀ e (closeUi ui) := by
  refine leads_bind (quiet_releaseUiLease _).closes fun _ => ?_
  cases ui.reply with
  | none => exact closes_pure _
  | some result => exact closes_pure _

theorem closes_failUi (ui : OpenUi) (error : String) : Closes host files s₀ e (failUi ui error) := by
  refine leads_bind (quiet_releaseUiLease _).closes fun _ => leads_ite (fun _ => ?_) fun _ => ?_
  · refine leads_bind (quiet_notify _).closes fun _ => ?_
    cases ui.reply with
    | none => exact closes_pure _
    | some result => exact closes_pure _
  · exact leads_throw fun _ hpath => hpath

theorem submitUiAnswer_rule {ui : OpenUi} {answer : String}
    (h : submittedAnswer? host s₀ e = some answer) :
    Ends host files s₀ e [] (submitUiAnswer host files ui answer) := by
  refine leads_bind (Q := fun _ s => Path host files s₀ e s.core) (leads_attempt ?_) fun outcome => ?_
  · intro s hat
    have hends : Ends host files s₀ e [] (resumeWaitUserAnswer host files answer ui.ctx) :=
      resumeWaitUserAnswer_rule h
    exact ⟨(hends s hat).1, fun error t hrun _ => (hends s hat).2 error t hrun⟩
  · rcases outcome with error | ⟨⟨⟩ | ⟨⟩ | ⟨⟩⟩
    all_goals first
      | exact closes_failUi ui _
      | exact closes_closeUi ui
      | exact leads_modify_bind (fun _ hpath => hpath) (closes_pure _)

theorem quiet_reopenSelector (ui : OpenUi) : Quiet (reopenSelector ui) := fun _ => rfl

theorem quiet_openEditor (ui : OpenUi) : Quiet (openEditor ui) := fun _ => rfl

theorem uiSelection_rule {ui : OpenUi} {selection : Option String}
    (h : ∀ choice, selection = some choice →
      submittedAnswer? host s₀ e = some (if ui.editing then trim choice else choice)) :
    Ends host files s₀ e [] (uiSelection host files ui selection) := by
  unfold uiSelection
  cases hediting : ui.editing with
  | false =>
      cases selection with
      | none => exact ends_of_closes (closes_closeUi ui)
      | some choice =>
          have hchoice := h choice rfl
          rw [hediting] at hchoice
          refine leads_ite (fun _ => leads_ite (fun _ => ?_) fun _ => ?_) fun _ => submitUiAnswer_rule hchoice
          · exact ends_of_stays (quiet_openEditor ui).stays
          · exact ends_of_closes (closes_closeUi ui)
  | true =>
      cases selection with
      | none => exact ends_of_stays (quiet_reopenSelector ui).stays
      | some answer =>
          have hanswer := h answer rfl
          rw [hediting] at hanswer
          refine leads_ite (fun _ => ?_) fun _ => submitUiAnswer_rule hanswer
          exact ends_of_stays (quiet_reopenSelector ui).stays

/-- What a successful `switch` calls, and what it leaves. -/
theorem leaveWorkflow_run (host : Host) (s : ExtensionState) :
    ∃ t, leaveWorkflow host s = (.ok (), t) ∧ t.core = s.core.leave host .reset := by
  simp only [leaveWorkflow, clearPendingState, clearFallbackWorkflowState, modify_bind_apply,
    restoreActiveTools_bind_apply]
  refine ⟨_, rfl, ?_⟩
  dsimp only [Core.leave, Core.restoreTools, restored, ExtensionState.core, Core.clearEvidence]
  cases s.savedActiveTools <;> rfl

theorem leaveWorkflow_rule : Ends host files s₀ e [] (leaveWorkflow host) := by
  refine leads_of_ok fun s hat => ?_
  obtain ⟨t, hrun, hcore⟩ := leaveWorkflow_run host s
  have hmove : Move host files s₀ e s.core (s.core.leave host .reset) := .left hat.calls (.inl rfl)
  rw [← hcore] at hmove
  exact ⟨(), t, hrun, .move hat.path hmove⟩

theorem wake_rule {index : Nat} {suspension : Suspension} {settlement : Settlement}
    (he : e = .resume index settlement) (hwaits : s₀.suspended[index]? = some suspension) :
    Ends host files s₀ e [] (wake host files suspension settlement) := by
  have hquiet : Ends host files s₀ e [] (pure Reply.done) := ends_pure _
  cases suspension with
  | ui ui =>
      cases settlement with
      | selection selection =>
          refine uiSelection_rule fun choice hchoice => ?_
          simp [he, submittedAnswer?, hchoice, hwaits]
      | thrown error => exact ends_of_closes (closes_failUi ui error)
      | _ => exact hquiet
  | answerSent ui =>
      cases settlement with
      | sent => exact ends_of_closes (closes_closeUi ui)
      | thrown error => exact ends_of_closes (closes_failUi ui error)
      | _ => exact hquiet
  | omissionNotice =>
      cases settlement with
      | sent => exact endOmission_rule (.omissionNoticed he hwaits)
      | thrown error => exact ends_throw _
      | _ => exact hquiet
  | intent canonicalRequest rootDir ctx =>
      cases settlement with
      | route startForge => exact leads_ite (fun _ => startFromInput_rule) fun _ => ends_pure _
      | _ => exact hquiet
  | newSession =>
      cases settlement with
      | switched cancelled =>
          exact leads_ite (fun _ => publishCurrent_rule) fun _ =>
            ends_bind leaveWorkflow_rule fun _ => closes_pure _
      | thrown error => exact ends_throw _
      | _ => exact hquiet
  | grillResultSent =>
      cases settlement with
      | sent => exact leads_quiet_bind quiet_refreshPendingGrillRun fun _ => ends_pure _
      | thrown error => exact ends_throw _
      | _ => exact hquiet

theorem resume_rule {index : Nat} {settlement : Settlement} (hstart : s₀.calls = [])
    (he : e = .resume index settlement) : Starts host files s₀ e (resume host files index settlement) := by
  refine starts_get_bind hstart ?_
  cases hwaits : s₀.suspended[index]? with
  | none => exact ends_pure _
  | some suspension =>
      refine leads_ite (fun _ => ?_) fun _ => ends_pure _
      exact leads_quiet_bind (quiet_modify fun _ => rfl) fun _ => wake_rule he hwaits

/-! ### Every step -/

theorem handler_rule (hstart : s₀.calls = []) : Starts host files s₀ e (handler host files e) := by
  cases e with
  | grillEvidence candidateId => exact forgeGrillEvidence_rule hstart rfl
  | grillComplete payload ctx => exact forgeGrillComplete_rule hstart rfl
  | deepSearch params => exact forgeDeepSearch_rule hstart rfl
  | deepRetrievalComplete toolCallId attemptId sourceRoundId outcome ctx =>
      exact forgeDeepRetrievalComplete_rule hstart rfl
  | deepComplete toolCallId attemptId sourceRoundId outcome ctx => exact forgeDeepComplete_rule hstart rfl
  | contextComplete attemptId sourceRoundId outcome ctx => exact forgeContextComplete_rule hstart
  | adrComplete attemptId sourceRoundId outcome ctx => exact forgeAdrComplete_rule hstart
  | toolCall toolName => exact starts_of_quiet hstart (quiet_toolCall _)
  | toolResult toolCallId toolName isError => exact toolResult_rule hstart
  | messageStart texts => exact starts_of_quiet hstart (quiet_messageStart _)
  | messageEnd message => exact messageEnd_rule hstart
  | agentSettled => exact starts_of_quiet hstart quiet_agentSettled
  | discoveryTimer => exact starts_of_quiet hstart quiet_discoveryTimer
  | buildTimer => exact starts_of_quiet hstart quiet_buildTimer
  | deepTimer => exact starts_of_quiet hstart quiet_deepTimer
  | input rawText ctx => exact input_rule hstart rfl
  | command args ctx =>
      change Starts host files s₀ _ (command host files args ctx)
      exact command_rule hstart rfl
  | resume index settlement => exact resume_rule hstart rfl

end Extension

/-- **A step of the extension is a path of moves.** -/
theorem extensionStep_path (host : Host) (o : Occurrence) (s : ExtensionState) :
    Path host o.files s.cleared o.event (extensionStep host o s).2.core := by
  have hstarts : Extension.Starts host o.files s.cleared o.event (Extension.handler host o.files o.event) :=
    Extension.handler_rule rfl
  have hleads := hstarts s.cleared rfl
  unfold extensionStep
  dsimp only
  rcases hrun : Extension.handler host o.files o.event s.cleared with ⟨error | reply, t⟩
  · exact hleads.2 error t hrun
  · exact hleads.1 reply t hrun

end ForgeRuntime
