import ForgeRuntime.Extension.Questions

/-!
# What an accepted completion of Grill stands for

`forge_grill_complete` accepts a completion that asks before it knows whether its question was put: the session
ignores a question whose ID is used up, and an error of the publication is reported, not thrown.

* `grill_completion_truth` — an accepted completion has led to its question or to the queued Deep attempt,
  exactly when the session can take the question that it asks;
* `answered_question_accepted` — a run in which nothing is pending and nothing runs after the acceptance.
-/

namespace ForgeRuntime

open EventDriven EventDriven.Machine EventDriven.Text EventDriven.Turn

namespace Extension

/-! ### What the call must leave -/

/-- The completion that a payload holds, by its schema alone. -/
def submitted? (host : Host) (payload : Json String) : Option GrillCompletionPayload :=
  (grillInput host.parseJson payload).toOption.bind grillCompletion?

/-- A decision with this question and these options is pending. -/
def PendingQuestion (s : ExtensionState) (question : GrillQuestion) : Prop :=
  AtStage s .waitUser ∧ ∃ pending ∈ s.session.uiState.waitUser,
    pending.question = question.question ∧ pending.options = question.options

/-- A Deep attempt for the round is live, and its invocation is queued. -/
def DeepQueued (s : ExtensionState) (roundId : String) : Prop :=
  ∃ queued ∈ s.pendingSettledDeepInvocation, s.session.deepAttempt = some queued.identity ∧
    queued.identity.sourceRoundId = roundId

instance (s : ExtensionState) (roundId : String) : Decidable (DeepQueued s roundId) :=
  inferInstanceAs (Decidable (∃ _ ∈ s.pendingSettledDeepInvocation, _))

/-- The round is the first of an empty snapshot. -/
def EmptyFirstSnapshot (s : ExtensionState) : Prop :=
  ∃ round ∈ s.session.currentGrillRound, round.isFirstRoundOfSnapshot = true ∧ round.snapshot.manifest.length = 0

/-- What the acceptance of a payload has led to: its question, the fixed question about exploring on an empty
snapshot, or the Deep attempt of its round. -/
def LedTo (s t : ExtensionState) (completion : GrillCompletionPayload) : Prop :=
  (∃ question ∈ completion.questions, PendingQuestion t question) ∨
    (EmptyFirstSnapshot s ∧ PendingQuestion t exploratoryConsentQuestion) ∨ DeepQueued t completion.roundId

/-- The question that a call puts before the user, if it asks one. -/
def askedBy? (host : Host) (s : ExtensionState) (payload : Json String) : Option WaitUserPayload :=
  match (parseActiveGrillCompletion host payload s).1 with
  | .ok completion =>
      if HasActiveGrillAttempt s ∧ completion.requiresUserConfirmation = true ∧ ¬ EmptySnapshotAlreadyApproved s then
        (toWaitUserPayload completion).toOption
      else none
  | .error _ => none

variable {host : Host}

/-! ### What is parsed -/

/-- The gate on the status passes a completion as it is. -/
theorem parseStructuredGrillResult_ok {completion result : GrillCompletionPayload}
    (h : parseStructuredGrillResult completion = .ok result) : result = completion := by
  unfold parseStructuredGrillResult at h
  split at h
  · split at h
    · cases h
    · cases h
      rfl
  · split at h
    · cases h
    · cases h
      rfl

/-- A completion that the gates pass is the one that was handed in, for the round that was issued. -/
theorem parseGrillCompletion_submitted {payload : Json String} {context : GrillCompletionContext}
    {completion : GrillCompletionPayload} (h : parseGrillCompletion host.parseJson payload context = .ok completion) :
    submitted? host payload = some completion ∧ completion.roundId = context.expectedRoundId := by
  obtain ⟨input, hinput, h⟩ := Checks.bind_eq_ok.mp h
  cases hschema : grillCompletion? input with
  | none =>
      simp only [hschema] at h
      cases h
  | some decoded =>
      simp only [hschema] at h
      split at h
      case isTrue => cases h
      case isFalse hround =>
        obtain ⟨result, hresult, h⟩ := Checks.bind_eq_ok.mp h
        have hsame := parseStructuredGrillResult_ok hresult
        split at h
        case isTrue => cases h
        case isFalse =>
          split at h
          case isTrue => cases h
          case isFalse =>
            cases h
            subst hsame
            refine ⟨?_, not_not.mp hround⟩
            rw [submitted?, hinput]
            exact hschema

/-- The completion that goes on is the one that was handed in, but for the question of an empty first round. -/
inductive GoesOnAs (s : ExtensionState) (submitted : GrillCompletionPayload) : GrillCompletionPayload → Prop
  | same : GoesOnAs s submitted submitted
  | consent {recommendation : GrillRecommendation} (hempty : EmptyFirstSnapshot s) :
      GoesOnAs s submitted
        { submitted with
          questions := [exploratoryConsentQuestion]
          recommendation := recommendation }

theorem GoesOnAs.roundId {s : ExtensionState} {submitted completion : GrillCompletionPayload}
    (h : GoesOnAs s submitted completion) : completion.roundId = submitted.roundId := by
  cases h with
  | same => rfl
  | consent => rfl

theorem parseActiveGrillCompletion_goesOn {payload : Json String} {s : ExtensionState}
    {completion : GrillCompletionPayload} (h : (parseActiveGrillCompletion host payload s).1 = .ok completion) :
    s.session.currentGrillRound.map (·.roundId) = some completion.roundId ∧
      ∃ submitted, submitted? host payload = some submitted ∧ GoesOnAs s submitted completion := by
  simp only [parseActiveGrillCompletion, bind_apply, continueGrillRound_apply] at h
  cases hround : s.session.currentGrillRound with
  | none =>
      simp only [hround] at h
      cases h
  | some round =>
      simp only [hround, get_apply] at h
      generalize hcontext : GrillCompletionContext.mk round.roundId _ _ _ = context at h
      have hexpected : context.expectedRoundId = round.roundId := by rw [← hcontext]
      cases hparsed : parseGrillCompletion host.parseJson payload context with
      | error error =>
          simp only [hparsed] at h
          cases h
      | ok parsed =>
          obtain ⟨hsubmitted, hroundId⟩ := parseGrillCompletion_submitted hparsed
          simp only [hparsed, ite_apply_state, pure_apply] at h
          split at h
          case isTrue hempty =>
            cases h
            refine ⟨congrArg some (hexpected.symm.trans hroundId.symm), parsed, hsubmitted, ?_⟩
            exact .consent ⟨round, hround, hempty.1, hempty.2.1⟩
          case isFalse =>
            cases h
            exact ⟨congrArg some (hexpected.symm.trans hroundId.symm), _, hsubmitted, .same⟩

/-! ### A completion that asks -/

/-- **A completion that asks is accepted**, whatever the session makes of its question. -/
theorem completeGrillWithQuestion_accepts (ctx : CommandContext) {completion : GrillCompletionPayload}
    {waitUser : WaitUserPayload} {s : ExtensionState} (hstage : AtStage s .grill)
    (hpayload : toWaitUserPayload completion = .ok waitUser) :
    ∃ t, completeGrillWithQuestion ctx completion s = (.ok (.tool (grillAccepted completion)), t) ∧
      t.session = (Session.requireWaitUser waitUser s.session).2 ∧
      t.pendingSettledDeepInvocation = s.pendingSettledDeepInvocation := by
  have hnone : shownDecision? s.session.uiState = none := by
    have hother : s.session.uiState.stage ≠ .workflow .waitUser := by
      rw [show s.session.uiState.stage = .workflow .grill from hstage]
      decide
    exact if_neg hother
  obtain ⟨opened, t, hrun, hsession, hqueued⟩ :=
    publishWaitUserCaught_returns ctx waitUser none hnone
  unfold completeGrillWithQuestion
  simp only [hpayload]
  rw [bind_eq_ok hrun]
  exact ⟨_, rfl, hsession, hqueued⟩

/-- The question of a completion is the first one in it. -/
theorem toWaitUserPayload_ok {completion : GrillCompletionPayload} {waitUser : WaitUserPayload}
    (h : toWaitUserPayload completion = .ok waitUser) :
    waitUser.roundId = completion.roundId ∧ ∃ question ∈ completion.questions,
      waitUser.question = question.question ∧ waitUser.options = question.options := by
  unfold toWaitUserPayload at h
  cases hquestions : completion.questions with
  | nil =>
      rw [hquestions] at h
      cases h
  | cons question rest =>
      rw [hquestions] at h
      cases h
      exact ⟨rfl, question, List.mem_cons_self, rfl, rfl⟩

/-- A question that the session takes is pending, as the payload put it or as the fixed one. -/
theorem ledTo_of_asked {s t : ExtensionState} {submitted completion : GrillCompletionPayload}
    {waitUser : WaitUserPayload} (hgoes : GoesOnAs s submitted completion)
    (hpayload : toWaitUserPayload completion = .ok waitUser)
    (hround : s.session.currentGrillRound.map (·.roundId) = some completion.roundId)
    (hask : CanAsk s.session waitUser) (ht : t.session = (Session.requireWaitUser waitUser s.session).2) :
    LedTo s t submitted := by
  obtain ⟨hroundId, question, hquestion, htext, hoptions⟩ := toWaitUserPayload_ok hpayload
  obtain ⟨hstage, hwait⟩ := Session.requireWaitUser_asks hask (by rw [hround, hroundId])
  have hpending : PendingQuestion t question := by
    refine ⟨?_, waitUser.toWaitUserState, ?_, htext, hoptions⟩
    · rw [AtStage, ht, hstage]
    · rw [ht, hwait]
      rfl
  cases hgoes with
  | same => exact .inl ⟨question, hquestion, hpending⟩
  | consent hempty =>
      rw [List.mem_singleton.mp hquestion] at hpending
      exact .inr (.inl ⟨hempty, hpending⟩)

/-- A question that the session ignores leaves what was there. -/
theorem ledTo_of_ignored {s t : ExtensionState} {submitted : GrillCompletionPayload} {waitUser : WaitUserPayload}
    (hstage : AtStage s .grill) (hask : ¬ CanAsk s.session waitUser)
    (ht : t.session = (Session.requireWaitUser waitUser s.session).2)
    (hqueued : t.pendingSettledDeepInvocation = s.pendingSettledDeepInvocation) :
    LedTo s t submitted ↔ DeepQueued s submitted.roundId := by
  have hother : ∀ question, ¬ PendingQuestion t question := by
    rintro question ⟨hwaits, -⟩
    rw [AtStage, ht, Session.requireWaitUser_ignores hask, show s.session.uiState.stage = _ from hstage] at hwaits
    cases hwaits
  have hdeep : DeepQueued t submitted.roundId ↔ DeepQueued s submitted.roundId := by
    rw [DeepQueued, DeepQueued, hqueued, ht, Session.requireWaitUser_deepAttempt]
  constructor
  · rintro (⟨question, -, hpending⟩ | ⟨-, hpending⟩ | hled)
    · exact absurd hpending (hother question)
    · exact absurd hpending (hother _)
    · exact hdeep.mp hled
  · exact fun hled => .inr (.inr (hdeep.mpr hled))

/-! ### A completion that is ready for Deep Knowledge -/

/-- The Deep attempt of a step is one for the current round. -/
def LiveFor (roundId : String) (s : ExtensionState) : Prop :=
  s.session.deepAttempt.map (·.sourceRoundId) = some roundId

/-- An attempt is issued for the round that is current. -/
theorem beginDeepKnowledge_liveFor {summary : Option String} {roundId : String} :
    Turn.Leads (fun s => s.session.currentGrillRound.map (·.roundId) = some roundId)
      (sessionState.beginDeepKnowledge summary .deepKnowledgeRetrieval) (fun _ t => LiveFor roundId t) fun _ => True := by
  intro s hround
  refine ⟨fun ui t hrun => ?_, fun _ _ _ => trivial⟩
  exact (Session.beginDeepKnowledge_source _ _ (call_run hrun)).trans hround

/-- Deep Knowledge is entered with an attempt for the current round. -/
theorem continueDeepKnowledge_liveFor {ctx : CommandContext} {summary : Option String} {onProceed : Ext Unit}
    {mode : DeliveryMode} {bypass : Bool} {reply : Option ToolResult} {roundId : String}
    (hproceed : ∀ s, (onProceed s).2.session = s.session) :
    Turn.Leads (fun s => s.session.currentGrillRound.map (·.roundId) = some roundId)
      (continueDeepKnowledge host ctx summary onProceed mode bypass reply)
      (fun entry t => ∀ invocation, entry = .entered invocation → LiveFor roundId t) fun _ => True := by
  unfold continueDeepKnowledge
  refine leads_get_bind fun s hround => leads_ite (fun _ => ?_) fun _ => ?_
  · refine leads_bind leads_anywhere fun round => ?_
    refine leads_bind leads_anywhere fun opened => leads_pure fun t _ invocation hentered => ?_
    cases hentered
  · refine leads_bind (Q := fun _ s => s.session.currentGrillRound.map (·.roundId) = some roundId) ?_ fun enforceable => ?_
    · exact leads_of_ok fun s hs => by
        unfold requireDeepToolBoundary requireBoundary
        cases canEnforceToolBoundary host && host.sendUserMessage with
        | true => exact ⟨_, _, rfl, hs⟩
        | false => exact ⟨_, _, rfl, hs⟩
    · refine leads_ite (fun _ => leads_pure fun t _ invocation hentered => by cases hentered) fun _ => ?_
      refine leads_bind beginDeepKnowledge_liveFor fun nextState => ?_
      refine leads_bind (Q := fun _ => LiveFor roundId) (leads_of_ok fun s hs => ⟨_, _, rfl, hs⟩) fun _ => ?_
      refine leads_get_bind fun s hs => ?_
      cases s.session.deepAttempt with
      | none => exact leads_throw fun _ _ => trivial
      | some attempt =>
          refine leads_bind (Q := fun _ => LiveFor roundId) ?_ fun _ => ?_
          · intro t ht
            refine ⟨fun _ t' hrun => ?_, fun _ _ _ => trivial⟩
            have hsame : t'.session = t.session := by rw [← hproceed t, hrun]
            show t'.session.deepAttempt.map (·.sourceRoundId) = some roundId
            rw [hsame]
            exact ht
          · cases mode with
            | settled => exact leads_pure fun t ht _ _ => ht
            | followUp =>
                refine leads_bind leads_anywhere fun _ => leads_bind leads_anywhere fun _ => ?_
                exact leads_pure fun t _ invocation hentered => by cases hentered

/-- **A completion that is ready for Deep Knowledge** is accepted with the attempt live and its invocation queued. -/
theorem completeGrillWithDeep_queues {ctx : CommandContext} {completion : GrillCompletionPayload} {approved : Bool} :
    Turn.Leads (fun s => s.session.currentGrillRound.map (·.roundId) = some completion.roundId)
      (completeGrillWithDeep host ctx completion approved)
      (fun reply t => ∀ result, reply.result? = some result → result.terminate = true →
        DeepQueued t completion.roundId) fun _ => True := by
  have hactivates : ∀ s, (activateDeepRetrievalTools host s).2.session = s.session := fun _ => rfl
  have hrefuses : ∀ result : ToolResult, result.terminate = false → ∀ (P : ExtensionState → Prop) (reply : Reply),
      reply.result? = some result → Turn.Leads P (pure reply : Ext Reply)
        (fun reply t => ∀ result, reply.result? = some result → result.terminate = true →
          DeepQueued t completion.roundId) fun _ => True := by
    intro result hfalse P reply hreply
    refine leads_pure fun t _ result' hresult htrue => ?_
    rw [hreply] at hresult
    cases hresult
    rw [hfalse] at htrue
    cases htrue
  unfold completeGrillWithDeep
  refine leads_get_bind fun s _ => ?_
  refine leads_modify_bind (M := fun s => s.session.currentGrillRound.map (·.roundId) = some completion.roundId)
    (fun _ hs => hs) ?_
  refine leads_bind (continueDeepKnowledge_liveFor hactivates) fun entry => ?_
  cases entry with
  | asked opened =>
      refine hrefuses deepToolBoundaryUnavailable rfl _ _ ?_
      cases opened with
      | true => rfl
      | false => rfl
  | refused => exact hrefuses deepToolBoundaryUnavailable rfl _ _ rfl
  | sending => exact hrefuses deepSettledInvocationUnavailable rfl _ _ rfl
  | entered invocation =>
      refine leads_get_bind_eq fun s hlive => ?_
      have hlive : LiveFor completion.roundId s := hlive invocation rfl
      split
      · rename_i workflow identity _ hidentity
        refine leads_of_ok fun t ht => ⟨_, _, rfl, fun _ _ _ => ?_⟩
        refine ⟨⟨workflow, invocation, identity⟩, rfl, ?_, ?_⟩
        · rw [ht]
          exact hidentity
        · rw [LiveFor, hidentity] at hlive
          exact Option.some.inj hlive
      · exact hrefuses deepSettledInvocationUnavailable rfl _ _ rfl

/-! ### The guarantee -/

/-- What an accepted call of `forge_grill_complete` says is true. -/
def TellsTruth (host : Host) (payload : Json String) (st : ExtensionStepRecord) : Prop :=
  ∀ reply result, st.output.reply = .ok reply → reply.result? = some result → result.terminate = true →
    ∃ completion ∈ submitted? host payload, LedTo st.before st.after completion

section Step

variable {payload : Json String} {ctx : CommandContext} {o : Occurrence} {s t : ExtensionState}
variable (he : o.event = .grillComplete payload ctx)

include he

/-- A call that throws says nothing. -/
theorem tellsTruth_of_error {error : String}
    (hrun : forgeGrillComplete host payload ctx s.cleared = (.error error, t)) :
    TellsTruth host payload (extensionStepAt host s o) := by
  have hstep := extensionStep_eq (show handler host o.files o.event s.cleared = _ by rw [he, handler, hrun])
  intro reply result hreply
  rw [show (extensionStepAt host s o).output.reply = .error error from congrArg (·.1.reply) hstep] at hreply
  cases hreply

/-- What a call that returns says. -/
theorem tellsTruth_of_ok {reply : Reply} (hrun : forgeGrillComplete host payload ctx s.cleared = (.ok reply, t)) :
    TellsTruth host payload (extensionStepAt host s o) ↔
      ∀ result, reply.result? = some result → result.terminate = true →
        ∃ completion ∈ submitted? host payload, LedTo s t completion := by
  have hstep := extensionStep_eq (show handler host o.files o.event s.cleared = _ by rw [he, handler, hrun])
  have hreply : (extensionStepAt host s o).output.reply = .ok reply := congrArg (·.1.reply) hstep
  have hafter : (extensionStepAt host s o).after = t := congrArg Prod.snd hstep
  rw [TellsTruth, hreply, hafter]
  constructor
  · exact fun h result => h reply result rfl
  · intro h reply' result hsame
    cases hsame
    exact h result

end Step

/-- The completion of a call is parsed against the session. -/
theorem parseActiveGrillCompletion_cleared (host : Host) (payload : Json String) (s : ExtensionState) :
    parseActiveGrillCompletion host payload s.cleared =
      ((parseActiveGrillCompletion host payload s).1, s.cleared) :=
  parseActiveGrillCompletion_congr rfl

/-- The call of an active round goes on with what is parsed. -/
theorem forgeGrillComplete_active {payload : Json String} (ctx : CommandContext) {s : ExtensionState}
    {completion : GrillCompletionPayload} (hactive : HasActiveGrillAttempt s)
    (hparsed : (parseActiveGrillCompletion host payload s).1 = .ok completion) :
    forgeGrillComplete host payload ctx s.cleared =
      if completion.requiresUserConfirmation = true ∧ ¬ EmptySnapshotAlreadyApproved s then
        completeGrillWithQuestion ctx completion s.cleared
      else
        completeGrillWithDeep host ctx completion (decide (EmptySnapshotAlreadyApproved s)) s.cleared := by
  have hactive : ¬ ¬ HasActiveGrillAttempt s.cleared := not_not.mpr hactive
  have hparse := parseActiveGrillCompletion_cleared host payload s
  rw [hparsed] at hparse
  unfold forgeGrillComplete
  rw [get_bind_apply, if_neg hactive, bind_eq_ok hparse, get_bind_apply]
  simp only [ite_apply_state, decide_eq_false_iff_not]
  rfl

/-- A call that asks: the question is taken, or what was queued stands. -/
theorem truth_of_question {payload : Json String} {ctx : CommandContext} {o : Occurrence} {s : ExtensionState}
    {submitted completion : GrillCompletionPayload} {waitUser : WaitUserPayload}
    (he : o.event = .grillComplete payload ctx) (hactive : HasActiveGrillAttempt s)
    (hsubmitted : submitted? host payload = some submitted) (hgoes : GoesOnAs s submitted completion)
    (hround : s.session.currentGrillRound.map (·.roundId) = some completion.roundId)
    (hpayload : toWaitUserPayload completion = .ok waitUser)
    (hrun : forgeGrillComplete host payload ctx s.cleared = completeGrillWithQuestion ctx completion s.cleared) :
    TellsTruth host payload (extensionStepAt host s o) ↔
      CanAsk s.session waitUser ∨ DeepQueued s waitUser.roundId := by
  obtain ⟨t, haccepts, hsession, hqueued⟩ :=
    completeGrillWithQuestion_accepts ctx (s := s.cleared) hactive.2 hpayload
  have hroundId : waitUser.roundId = submitted.roundId := (toWaitUserPayload_ok hpayload).1.trans hgoes.roundId
  have htruth : TellsTruth host payload (extensionStepAt host s o) ↔ LedTo s t submitted := by
    rw [tellsTruth_of_ok he (hrun.trans haccepts), hsubmitted]
    constructor
    · intro h
      obtain ⟨found, hfound, hled⟩ := h _ rfl rfl
      cases hfound
      exact hled
    · exact fun hled _ _ _ => ⟨submitted, rfl, hled⟩
  rw [htruth]
  by_cases hask : CanAsk s.session waitUser
  · exact iff_of_true (ledTo_of_asked hgoes hpayload hround hask hsession) (.inl hask)
  · rw [ledTo_of_ignored hactive.2 hask hsession hqueued, ← hroundId]
    exact ⟨.inr, fun h => h.resolve_left hask⟩

/-- A call that is ready for Deep Knowledge tells the truth. -/
theorem truth_of_deep {payload : Json String} {ctx : CommandContext} {o : Occurrence} {s : ExtensionState}
    {submitted completion : GrillCompletionPayload} {approved : Bool}
    (he : o.event = .grillComplete payload ctx)
    (hsubmitted : submitted? host payload = some submitted) (hgoes : GoesOnAs s submitted completion)
    (hround : s.session.currentGrillRound.map (·.roundId) = some completion.roundId)
    (hrun : forgeGrillComplete host payload ctx s.cleared =
      completeGrillWithDeep host ctx completion approved s.cleared) :
    TellsTruth host payload (extensionStepAt host s o) := by
  rcases hout : completeGrillWithDeep host ctx completion approved s.cleared with ⟨error | reply, t⟩
  · exact tellsTruth_of_error he (hrun.trans hout)
  · refine (tellsTruth_of_ok he (hrun.trans hout)).mpr fun result hresult hterminate => ?_
    refine ⟨submitted, hsubmitted, .inr (.inr ?_)⟩
    rw [← hgoes.roundId]
    exact (completeGrillWithDeep_queues s.cleared hround).1 reply t hout result hresult hterminate

/-- **One call** tells the truth exactly when its question can be taken, or the Deep attempt of its round is
queued already. -/
theorem forgeGrillComplete_truth {payload : Json String} {ctx : CommandContext} {o : Occurrence} {s : ExtensionState}
    (he : o.event = .grillComplete payload ctx) :
    TellsTruth host payload (extensionStepAt host s o) ↔
      ∀ question ∈ askedBy? host s payload, CanAsk s.session question ∨ DeepQueued s question.roundId := by
  have hnothing : askedBy? host s payload = none → TellsTruth host payload (extensionStepAt host s o) →
      (TellsTruth host payload (extensionStepAt host s o) ↔
        ∀ question ∈ askedBy? host s payload, CanAsk s.session question ∨ DeepQueued s question.roundId) :=
    fun hnone htruth => iff_of_true htruth fun question h => by rw [hnone] at h; cases h
  have hcleared := parseActiveGrillCompletion_cleared host payload s
  by_cases hactive : HasActiveGrillAttempt s
  case neg =>
    refine hnothing ?_ ?_
    · unfold askedBy?
      split
      · exact if_neg fun h => hactive h.1
      · rfl
    · have hrun : forgeGrillComplete host payload ctx s.cleared = (.ok .block, s.cleared) := by
        have hactive : ¬ HasActiveGrillAttempt s.cleared := hactive
        unfold forgeGrillComplete
        rw [get_bind_apply, if_pos hactive]
        rfl
      exact (tellsTruth_of_ok he hrun).mpr fun result hresult => by cases hresult
  case pos =>
  cases hparsed : (parseActiveGrillCompletion host payload s).1 with
  | error error =>
      rw [hparsed] at hcleared
      have hrun : forgeGrillComplete host payload ctx s.cleared = (.error error, s.cleared) := by
        have hactive : ¬ ¬ HasActiveGrillAttempt s.cleared := not_not.mpr hactive
        unfold forgeGrillComplete
        rw [get_bind_apply, if_neg hactive, bind_eq_error hcleared]
      exact hnothing (by rw [askedBy?, hparsed]) (tellsTruth_of_error he hrun)
  | ok completion =>
      rw [hparsed] at hcleared
      obtain ⟨hround, submitted, hsubmitted, hgoes⟩ := parseActiveGrillCompletion_goesOn hparsed
      have hrun := forgeGrillComplete_active ctx hactive hparsed
      by_cases hasks : completion.requiresUserConfirmation = true ∧ ¬ EmptySnapshotAlreadyApproved s
      case neg =>
        rw [if_neg hasks] at hrun
        refine hnothing ?_ (truth_of_deep he hsubmitted hgoes hround hrun)
        simp only [askedBy?, hparsed, if_neg fun h => hasks (And.right h)]
      case pos =>
        rw [if_pos hasks] at hrun
        have hasked : askedBy? host s payload = (toWaitUserPayload completion).toOption := by
          simp only [askedBy?, hparsed, if_pos (And.intro hactive hasks)]
        cases hpayload : toWaitUserPayload completion with
        | error error =>
            rw [hpayload] at hasked
            have hthrows : completeGrillWithQuestion ctx completion s.cleared = (.error error, s.cleared) := by
              unfold completeGrillWithQuestion
              rw [hpayload]
              rfl
            exact hnothing hasked (tellsTruth_of_error he (hrun.trans hthrows))
        | ok waitUser =>
            rw [hasked, hpayload, truth_of_question he hactive hsubmitted hgoes hround hpayload hrun]
            exact ⟨fun h question hquestion => by cases hquestion; exact h, fun h => h waitUser rfl⟩

/-- **Grill completion tells the truth**: in every run, an accepted call has led to the question that it
submitted, to the question about exploring on an empty snapshot, or to the queued Deep attempt of its round, if
and only if the session can take the question that the call asks, or the Deep attempt is queued already. -/
theorem grill_completion_truth (host : Host) (tools : List String) (os : List Occurrence)
    (st : ExtensionStepRecord) (ht : st ∈ extensionRun host tools os) (payload : Json String) (ctx : CommandContext)
    (he : st.input.event = .grillComplete payload ctx) :
    TellsTruth host payload st ↔
      ∀ question ∈ askedBy? host st.before payload,
        CanAsk st.before.session question ∨ DeepQueued st.before question.roundId := by
  obtain ⟨pre, post, hsplit⟩ := List.append_of_mem ht
  rw [(trace_split hsplit).1]
  exact forgeGrillComplete_truth he

/-! ### Concrete runs -/

/-- A completion of Grill that asks one question. -/
def askingFor (roundId questionId : String) : Json String :=
  .object [("evidence", .texts [sampleCandidateId]),
    ("questions", .array [.object
      [("id", .text questionId), ("options", .texts ["yes", "no"]), ("question", .text "which?")]]),
    ("recommendation", .object [("value", .text "yes"), ("reason", .text "because")]),
    ("requiresUserConfirmation", .bool true), ("status", .text "NEEDS_CONFIRMATION"), ("roundId", .text roundId)]

/-- A round is started, and its evidence is fetched. -/
def firstRound : List Event := [.input "/grill-run do it" sampleCtx, .grillEvidence sampleCandidateId]

/-- The first question of a run is put. -/
theorem grill_completion_truth_firstRound :
    TellsTruth sampleHost (askingFor "grill-1" "q")
      (sampleStep firstRound (.grillComplete (askingFor "grill-1" "q") sampleCtx)) := by
  refine (grill_completion_truth sampleHost sampleTools _ _ (sampleStep_mem _ _) _ _
    (sampleStep_event _ _)).mpr fun question hquestion => .inl ?_
  rw [sampleStep_before] at hquestion ⊢
  rw [show askedBy? sampleHost (sampleAfter firstRound) (askingFor "grill-1" "q") = some
    { kind := .grillConfirmation
      roundId := "grill-1"
      decisionId := "q"
      decisionSummary := some "because"
      evidenceIds := [sampleCandidateId]
      options := ["yes", "no"]
      question := "which?"
      recommendation := "yes" } by decide +kernel] at hquestion
  cases hquestion
  decide +kernel

/-- The question of the first round is answered. -/
def answeredRound : List Event :=
  firstRound ++ [.grillComplete (askingFor "grill-1" "q") sampleCtx, .input "yes" sampleCtx]

/-- **An answered question is asked again**: the call is accepted and ends the turn, but no decision is pending
and no Deep attempt runs. -/
theorem answered_question_accepted :
    ∃ st ∈ extensionRun sampleHost sampleTools
        (withFiles sampleFiles (answeredRound ++ [.grillComplete (askingFor "grill-2" "q") sampleCtx])),
      st.input.event = .grillComplete (askingFor "grill-2" "q") sampleCtx ∧
      (∃ result, st.output.reply = .ok (.tool result) ∧ result.terminate = true ∧
        result.details.status = some .needsConfirmation) ∧
      st.after.session.uiState.waitUser = none ∧ st.after.session.deepAttempt = none ∧
      ¬ TellsTruth sampleHost (askingFor "grill-2" "q") st := by
  let e : Event := .grillComplete (askingFor "grill-2" "q") sampleCtx
  have hwait : (sampleStep answeredRound e).after.session.uiState.waitUser = none := by decide +kernel
  have hdeep : (sampleStep answeredRound e).after.session.deepAttempt = none := by decide +kernel
  have hreply : (sampleStep answeredRound e).output.reply =
      .ok (.tool
        { text := "Forge Grill 完成結果已接受。"
          details :=
            { roundId := some "grill-2"
              status := some .needsConfirmation }
          terminate := true }) := by decide +kernel
  refine ⟨_, sampleStep_mem answeredRound e, rfl, ⟨_, hreply, rfl, rfl⟩, hwait, hdeep, fun htruth => ?_⟩
  obtain ⟨completion, -, hled⟩ := htruth _ _ hreply rfl rfl
  rcases hled with ⟨question, -, -, pending, hpending, -⟩ | ⟨-, -, pending, hpending, -⟩ | ⟨queued, -, hlive, -⟩
  · rw [hwait] at hpending
    cases hpending
  · rw [hwait] at hpending
    cases hpending
  · rw [hdeep] at hlive
    cases hlive

end Extension

end ForgeRuntime
