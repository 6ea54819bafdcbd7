import ForgeRuntime.Extension.System

/-!
# The texts for the model

What the extension hands to the model is a text: the message that it sends, or what it makes of an input.  A text is
made where a Grill round, a Deep attempt or a build stage is entered, may wait until the agent has settled, and
leaves the extension then.

* `Invocation` — the texts of the Grill rounds and of the Deep steps;
* `Effect.sentText?`, `ExtensionState.keptTexts` — what is sent, and what waits;
* `returns_resumeGrillWithAnswer`, `returns_prepareDeepKnowledgeAnswer`, `returns_startFromInput` — where the texts
  come from;
* `Invocation.not_followUp`, `Invocation.not_build` — how they are told from the other texts.
-/

namespace ForgeRuntime

open EventDriven EventDriven.Text EventDriven.Turn

/-- The text that an effect sends to the model. -/
def Effect.sentText? : Effect → Option String
  | .sendUserMessage content => some content
  | _ => none

/-- What an input becomes, when it becomes a text. -/
def Reply.transformed? : Reply → Option String
  | .transform text => some text
  | _ => none

/-- The texts of the Grill rounds and of the Deep steps that wait until the agent has settled, or for their timer. -/
def ExtensionState.keptTexts (s : ExtensionState) : List String :=
  (s.pendingSettledDeepInvocation.map (·.invocation)).toList ++
    (s.pendingSettledDeepInvocationTimer.map (·.invocation)).toList ++
    (s.pendingSettledDiscoveryInvocation.map (·.invocation)).toList ++
    (s.pendingSettledDiscoveryInvocationTimer.map (·.invocation)).toList

theorem ExtensionState.mem_keptTexts {s : ExtensionState} {text : String} :
    text ∈ s.keptTexts ↔ (∃ pending ∈ s.pendingSettledDeepInvocation, pending.invocation = text) ∨
      (∃ pending ∈ s.pendingSettledDeepInvocationTimer, pending.invocation = text) ∨
      (∃ pending ∈ s.pendingSettledDiscoveryInvocation, pending.invocation = text) ∨
      ∃ pending ∈ s.pendingSettledDiscoveryInvocationTimer, pending.invocation = text := by
  simp only [keptTexts, List.mem_append, Option.mem_toList, Option.mem_def, Option.map_eq_some_iff, or_assoc]

/-- The texts that the running step has sent. -/
def ExtensionState.sentTexts (s : ExtensionState) : List String := s.effects.filterMap Effect.sentText?

namespace Extension

/-- **The texts of the Grill rounds and of the Deep steps.** -/
inductive Invocation (host : Host) : String → Prop
  | grilling (file request roundId : String) (manifest : List GrillEvidenceManifestEntry) :
      Invocation host (buildGrillingSkillInvocation host.skillsDir file request roundId manifest)
  | deepStarted (workflow : Option ActiveWorkflowContext) (identity : DeepAttemptIdentity) :
      Invocation host (startDeepInvocation workflow identity)
  | deepContinued (identity : DeepAttemptIdentity) : Invocation host (continueDeepInvocation identity)
  | deepAnswered (answer : String) (identity : DeepAttemptIdentity) :
      Invocation host (answeredDeepInvocation answer identity)

variable {host : Host} {files : Files}

/-- What a function that may make a text returns. -/
def InvocationIfAny (host : Host) (text : Option String) : Prop := ∀ made, text = some made → Invocation host made

theorem invocationIfAny_none : InvocationIfAny host none := by
  intro made hmade
  cases hmade

theorem invocationIfAny_some {text : String} (h : Invocation host text) : InvocationIfAny host (some text) := by
  intro made hmade
  rwa [← Option.some.inj hmade]

theorem InvocationIfAny.truthy {text : Option String} (h : InvocationIfAny host text) :
    InvocationIfAny host (truthy text) := by
  intro made hmade
  exact h made (Option.eq_some_of_filter_eq_some hmade)

/-! ### The texts of a round -/

theorem returns_grillingInvocation (request roundId : String) (manifest : List GrillEvidenceManifestEntry) :
    Returns (Invocation host) (grillingInvocation host files request roundId manifest) := by
  unfold grillingInvocation
  cases files.grillingSkill with
  | error error => exact returns_throw error
  | ok file => exact returns_pure (.grilling file request roundId manifest)

/-- The text of a round is what a function returns. -/
theorem returns_grillingInvocation_some (request roundId : String) (manifest : List GrillEvidenceManifestEntry) :
    Returns (InvocationIfAny host) (do return some (← grillingInvocation host files request roundId manifest)) :=
  returns_bind (returns_grillingInvocation request roundId manifest) fun _ h => returns_pure (invocationIfAny_some h)

theorem returns_restartLightDiscoveryAndGrill (workflow : ActiveWorkflowContext) :
    Returns (Invocation host) (restartLightDiscoveryAndGrill host files workflow) := by
  refine returns_last fun _ => returns_last fun _ => returns_last fun found => ?_
  refine returns_last fun _ => returns_last fun _ => returns_last fun _ => returns_last fun _ => ?_
  exact returns_grillingInvocation _ _ _

theorem returns_startWorkflow (request rootDir : String) :
    Returns (Invocation host) (startWorkflow host files request rootDir) := by
  refine returns_last fun _ => returns_last fun _ => returns_last fun _ => returns_last fun _ => ?_
  refine returns_last fun _ => returns_last fun _ => returns_last fun found => ?_
  refine returns_last fun _ => returns_last fun _ => returns_last fun _ => ?_
  exact returns_grillingInvocation _ _ _

/-! ### The texts of the Deep steps -/

theorem returns_continueDeepKnowledge {ctx : CommandContext} {summary : Option String} {onProceed : Ext Unit}
    {mode : DeliveryMode} {bypass : Bool} {reply : Option ToolResult} :
    Returns (fun entry => InvocationIfAny host entry.invocation?)
      (continueDeepKnowledge host ctx summary onProceed mode bypass reply) := by
  refine returns_last fun s => ?_
  dsimp only
  refine returns_ite ?_ (returns_last fun enforceable => returns_ite (returns_pure invocationIfAny_none) ?_)
  · exact returns_last fun round => returns_last fun opened => returns_pure invocationIfAny_none
  · refine returns_last fun state => returns_last fun _ => returns_last fun s => ?_
    cases s.session.deepAttempt with
    | none => exact returns_throw _
    | some attempt =>
        refine returns_last fun _ => ?_
        cases mode with
        | settled => exact returns_pure (invocationIfAny_some (.deepStarted _ _))
        | followUp => exact returns_last fun _ => returns_last fun _ => returns_pure invocationIfAny_none

/-! ### Answers -/

/-- Deep Knowledge is entered after an answer, without a question about the relevance. -/
theorem returns_enterDeepAfterAnswer {ctx : CommandContext} {summary : Option String} :
    Returns (InvocationIfAny host) (do
      let enteredDeep ← continueDeepKnowledge host ctx summary (activateDeepRetrievalTools host) .settled true none
      publishState (← get).session.uiState
      return enteredDeep.invocation?) := by
  refine returns_bind returns_continueDeepKnowledge fun entry hentry => ?_
  exact returns_last fun s => returns_last fun _ => returns_pure hentry

theorem returns_answerExploratoryConsent (answer : String) (ctx : CommandContext) :
    Returns (InvocationIfAny host) (answerExploratoryConsent host answer ctx) := by
  refine returns_ite ?_ ?_
  · refine returns_last fun _ => returns_last fun _ => returns_last fun s => ?_
    exact returns_last fun _ => returns_last fun _ => returns_pure invocationIfAny_none
  · exact returns_last fun state => returns_last fun _ => returns_enterDeepAfterAnswer

theorem returns_answerConvergence (answer : String) (ctx : CommandContext) :
    Returns (InvocationIfAny host) (answerConvergence host answer ctx) := by
  refine returns_last fun state => returns_ite ?_ ?_
  · exact returns_last fun _ => returns_pure invocationIfAny_none
  · exact returns_last fun _ => returns_enterDeepAfterAnswer

theorem returns_answerRelevance (answer : String) (round : GrillRound) (state : ForgeUiState) :
    Returns (InvocationIfAny host) (answerRelevance host files answer round state) := by
  refine returns_last fun _ => returns_last fun s => ?_
  cases s.activeWorkflow with
  | none => exact returns_last fun _ => returns_pure invocationIfAny_none
  | some workflow =>
      refine returns_last fun _ => returns_last fun _ => returns_last fun _ => returns_last fun _ => ?_
      refine returns_last fun found => returns_last fun _ => returns_last fun _ => returns_last fun _ => ?_
      exact returns_last fun _ => returns_grillingInvocation_some _ _ _

theorem returns_nextGrillRound (round : GrillRound) (state : ForgeUiState) (converges : Bool) :
    Returns (InvocationIfAny host) (nextGrillRound host files round state converges) := by
  refine returns_last fun nextRound => ?_
  have hgrill : ∀ request, Returns (InvocationIfAny host) (do
      modify fun s => { s with pendingGrillRun := true }
      activateGrillTools host
      publishState state
      return some (← grillingInvocation host files request nextRound.roundId nextRound.snapshot.manifest)) :=
    fun request => returns_last fun _ => returns_last fun _ => returns_last fun _ =>
      returns_grillingInvocation_some request _ _
  cases converges with
  | false => exact hgrill _
  | true => exact returns_last fun _ => hgrill _

theorem returns_resumeGrillWithAnswer (answer : String) (ctx : CommandContext) :
    Returns (InvocationIfAny host) (resumeGrillWithAnswer host files answer ctx) := by
  refine returns_last fun round => returns_last fun s => ?_
  refine returns_ite (returns_answerExploratoryConsent _ _) ?_
  refine returns_ite (returns_last fun _ => returns_pure invocationIfAny_none) ?_
  refine returns_ite (returns_answerConvergence _ _) (returns_last fun state => ?_)
  refine returns_ite (returns_answerRelevance _ _ _) (returns_ite ?_ (returns_nextGrillRound _ _ _))
  exact returns_last fun _ => returns_pure invocationIfAny_none

/-- The text that an answer to a Deep question leaves. -/
def DeepAnswer.invocation? : DeepAnswer → Option String
  | .notDeep => none
  | .handled _ invocation => invocation

theorem returns_beginAfterFallback (answer : String) (state : ForgeUiState) :
    Returns (fun prepared => InvocationIfAny host prepared.invocation?) (beginAfterFallback host answer state) := by
  refine returns_last fun next => returns_last fun s => ?_
  cases s.session.deepAttempt with
  | none => exact returns_pure invocationIfAny_none
  | some attempt => exact returns_last fun _ => returns_pure (invocationIfAny_some (.deepAnswered answer attempt))

theorem returns_retryAfterDecision (answer : String) (state : ForgeUiState) :
    Returns (fun prepared => InvocationIfAny host prepared.invocation?) (retryAfterDecision host answer state) := by
  refine returns_last fun next => returns_last fun s => ?_
  cases s.session.deepAttempt with
  | none => exact returns_pure invocationIfAny_none
  | some attempt =>
      dsimp only
      cases attempt.phase with
      | deepKnowledgeRetrieval =>
          exact returns_last fun _ => returns_pure (invocationIfAny_some (.deepAnswered answer attempt))
      | knowledgeUnderstanding =>
          exact returns_last fun _ => returns_pure (invocationIfAny_some (.deepAnswered answer attempt))

theorem returns_prepareDeepKnowledgeAnswer (answer : String) :
    Returns (fun prepared => InvocationIfAny host prepared.invocation?) (prepareDeepKnowledgeAnswer host answer) := by
  refine returns_last fun s => ?_
  cases pendingDeepQuestion? s with
  | none => exact returns_pure invocationIfAny_none
  | some waitUser =>
      refine returns_last fun state => returns_ite (returns_pure invocationIfAny_none) ?_
      dsimp only
      split
      case isTrue hfallback =>
        refine returns_last fun s => ?_
        cases s.activeWorkflow with
        | none => exact returns_pure invocationIfAny_none
        | some workflow =>
            refine returns_last fun _ => returns_ite (returns_pure invocationIfAny_none) ?_
            exact returns_beginAfterFallback _ _
      case isFalse => exact returns_ite (returns_pure invocationIfAny_none) (returns_retryAfterDecision _ _)

/-! ### Inputs -/

theorem transformOrHandled_transformed {text : Option String} (h : InvocationIfAny host text) :
    InvocationIfAny host (transformOrHandled text).transformed? := by
  intro made hmade
  unfold transformOrHandled at hmade
  cases htext : truthy text with
  | none =>
      rw [htext] at hmade
      cases hmade
  | some other =>
      rw [htext] at hmade
      exact h.truthy made (htext.trans hmade)

theorem returns_startFromInput (request : String) (rootDir : Option String) :
    Returns (fun reply => InvocationIfAny host reply.transformed?)
      (startFromInput host files request rootDir) := by
  cases rootDir with
  | none => exact returns_last fun _ => returns_pure invocationIfAny_none
  | some rootDir =>
      refine returns_last fun enforceable => returns_ite (returns_pure invocationIfAny_none) ?_
      refine returns_last fun _ => returns_ite ?_ ?_
      · exact returns_last fun _ => returns_last fun _ => returns_pure invocationIfAny_none
      · exact returns_bind (returns_startWorkflow _ _) fun _ h => returns_pure (invocationIfAny_some h)

theorem returns_answerKnowledgeRequest (request : KnowledgeRequest) (routingText : String) :
    Returns (fun reply => InvocationIfAny host reply.transformed?)
      (answerKnowledgeRequest host files request routingText) := by
  refine returns_ite (returns_last fun _ => returns_pure invocationIfAny_none) ?_
  refine returns_last fun enforceable => returns_ite (returns_pure invocationIfAny_none) (returns_last fun _ => ?_)
  exact returns_bind (returns_startWorkflow _ _) fun _ h => returns_pure (invocationIfAny_some h)

theorem returns_requestInput (rawText routingText : String) (ctx : CommandContext) :
    Returns (fun reply => InvocationIfAny host reply.transformed?)
      (requestInput host files rawText routingText ctx) := by
  refine returns_last fun s => returns_ite ?_ (returns_ite (returns_startFromInput _ _) ?_)
  · exact returns_last fun _ => returns_pure invocationIfAny_none
  · refine returns_ite (returns_pure invocationIfAny_none) ?_
    exact returns_last fun _ => returns_pure invocationIfAny_none

theorem returns_replayInput :
    Returns (fun reply => InvocationIfAny host reply.transformed?) (replayInput host) := by
  refine returns_last fun s => ?_
  dsimp only
  split
  · exact returns_last fun _ => returns_pure invocationIfAny_none
  · exact returns_last fun _ => returns_pure invocationIfAny_none
  · exact returns_pure invocationIfAny_none

/-- An answer that goes to no Deep question, or to one. -/
def answerDeepOrGrill (host : Host) (files : Files) (answer : String) (ctx : CommandContext) : Ext Reply := do
  match ← prepareDeepKnowledgeAnswer host answer with
  | .handled state invocation =>
      publishState state
      return transformOrHandled invocation
  | .notDeep => return transformOrHandled (← resumeGrillWithAnswer host files answer ctx)

/-- The rest of an answer, when it is not to a build question. -/
def answerRest (host : Host) (files : Files) (asksDeep : Bool) (answer : String) (ctx : CommandContext) : Ext Reply := do
  if asksDeep = true then
    if !(← requireDeepToolBoundary host) then
      return .handled
  answerDeepOrGrill host files answer ctx

theorem returns_answerDeepOrGrill (answer : String) (ctx : CommandContext) :
    Returns (fun reply => InvocationIfAny host reply.transformed?) (answerDeepOrGrill host files answer ctx) := by
  refine returns_bind (returns_prepareDeepKnowledgeAnswer _) fun prepared hprepared => ?_
  cases prepared with
  | handled state invocation => exact returns_last fun _ => returns_pure (transformOrHandled_transformed hprepared)
  | notDeep =>
      exact returns_bind (returns_resumeGrillWithAnswer _ _) fun _ h => returns_pure (transformOrHandled_transformed h)

theorem returns_answerRest (asksDeep : Bool) (answer : String) (ctx : CommandContext) :
    Returns (fun reply => InvocationIfAny host reply.transformed?) (answerRest host files asksDeep answer ctx) := by
  cases asksDeep with
  | false => exact returns_answerDeepOrGrill answer ctx
  | true =>
      exact returns_last fun enforceable => returns_ite (returns_pure invocationIfAny_none)
        (returns_answerDeepOrGrill answer ctx)

/-! ### Suspended code -/

theorem returns_closeUi (ui : OpenUi) : Returns (fun reply => InvocationIfAny host reply.transformed?) (closeUi ui) := by
  refine returns_last fun _ => ?_
  cases ui.reply with
  | none => exact returns_pure invocationIfAny_none
  | some result => exact returns_pure invocationIfAny_none

theorem returns_failUi (ui : OpenUi) (error : String) :
    Returns (fun reply => InvocationIfAny host reply.transformed?) (failUi ui error) := by
  refine returns_last fun _ => returns_ite (returns_last fun _ => ?_) (returns_throw _)
  cases ui.reply with
  | none => exact returns_pure invocationIfAny_none
  | some result => exact returns_pure invocationIfAny_none

theorem returns_uiSelection (ui : OpenUi) (selection : Option String) :
    Returns (fun reply => InvocationIfAny host reply.transformed?) (uiSelection host files ui selection) := by
  have hsubmit : ∀ answer, Returns (fun reply => InvocationIfAny host reply.transformed?)
      (submitUiAnswer host files ui answer) := by
    intro answer
    refine returns_last fun result => ?_
    split
    · exact returns_failUi _ _
    · exact returns_last fun _ => returns_pure invocationIfAny_none
    · exact returns_closeUi _
  have hreopen : Returns (fun reply => InvocationIfAny host reply.transformed?) (reopenSelector ui) :=
    returns_last fun _ => returns_pure invocationIfAny_none
  have heditor : Returns (fun reply => InvocationIfAny host reply.transformed?) (openEditor ui) :=
    returns_last fun _ => returns_last fun _ => returns_pure invocationIfAny_none
  unfold uiSelection
  split
  · exact returns_closeUi _
  · exact returns_ite (returns_ite heditor (returns_closeUi _)) (hsubmit _)
  · exact hreopen
  · exact returns_ite hreopen (hsubmit _)

theorem returns_wake (suspension : Suspension) (settlement : Settlement) :
    Returns (fun reply => InvocationIfAny host reply.transformed?) (wake host files suspension settlement) := by
  unfold wake
  split
  · exact returns_uiSelection _ _
  · exact returns_failUi _ _
  · exact returns_closeUi _
  · exact returns_failUi _ _
  · exact returns_last fun _ => returns_last fun _ => returns_pure invocationIfAny_none
  · exact returns_throw _
  · exact returns_ite (returns_startFromInput _ _) (returns_pure invocationIfAny_none)
  · refine returns_ite ?_ (returns_last fun _ => returns_pure invocationIfAny_none)
    exact returns_last fun _ => returns_last fun _ => returns_pure invocationIfAny_none
  · exact returns_throw _
  · exact returns_last fun _ => returns_pure invocationIfAny_none
  · exact returns_throw _
  · exact returns_pure invocationIfAny_none

theorem returns_resume (index : Nat) (settlement : Settlement) :
    Returns (fun reply => InvocationIfAny host reply.transformed?) (resume host files index settlement) := by
  refine returns_last fun s => ?_
  cases s.suspended[index]? with
  | none => exact returns_pure invocationIfAny_none
  | some suspension =>
      refine returns_ite (returns_last fun _ => returns_wake _ _) (returns_pure invocationIfAny_none)

/-! ### Telling the texts apart -/

theorem startsWith_iff {text head : String} : startsWith text head = true ↔ head.toList <+: text.toList :=
  List.isPrefixOf_iff_prefix

/-- The text asks for the completion after a batch of searches. -/
def isFollowUp (text : String) : Bool := startsWith text "Deep Search 批次已完成。"

/-- The text invokes the skill of the build stages. -/
def isBuildInvocation (text : String) : Bool := startsWith text "<skill name=\"context-build\""

/-- How the texts of the Grill rounds and of the Deep steps begin. -/
def invocationHeads : List String :=
  ["<skill name=\"grilling\" location=\"", "Deep Knowledge 已開始。\n", "請繼續 Forge Deep ", "請依使用者決定 "]

theorem begins_append {head first : String} (h : head.toList <+: first.toList) (rest : String) :
    head.toList <+: (first ++ rest).toList := by
  rw [String.toList_append]
  exact h.trans (List.prefix_append _ _)

theorem Invocation.begins {text : String} (h : Invocation host text) :
    ∃ first ∈ invocationHeads, first.toList <+: text.toList := by
  cases h with
  | grilling file request roundId manifest =>
      refine ⟨"<skill name=\"grilling\" location=\"", by simp [invocationHeads], ?_⟩
      simp only [buildGrillingSkillInvocation, List.cons_append, join, String.toList_append, List.append_assoc]
      exact List.prefix_append _ _
  | deepStarted workflow identity =>
      refine ⟨"Deep Knowledge 已開始。\n", by simp [invocationHeads], ?_⟩
      unfold startDeepInvocation
      exact begins_append (begins_append (begins_append (begins_append (begins_append List.prefix_rfl _) _) _) _) _
  | deepContinued identity =>
      refine ⟨"請繼續 Forge Deep ", by simp [invocationHeads], ?_⟩
      unfold continueDeepInvocation
      exact begins_append (begins_append (begins_append List.prefix_rfl _) _) _
  | deepAnswered answer identity =>
      refine ⟨"請依使用者決定 ", by simp [invocationHeads], ?_⟩
      unfold answeredDeepInvocation
      exact begins_append (begins_append (begins_append (begins_append (begins_append List.prefix_rfl _) _) _) _) _

theorem batchInvocation_begins (workflow : ActiveWorkflowContext) (identity : DeepAttemptIdentity) :
    "Deep Search 批次已完成。\n".toList <+: (batchInvocation workflow identity).toList := by
  unfold batchInvocation
  exact begins_append (begins_append (begins_append (begins_append (begins_append List.prefix_rfl _) _) _) _) _

theorem buildInvocation_begins (skillsDir file : String) (request : BuildSkillInvocationRequest) :
    "<skill name=\"context-build\" location=\"".toList <+:
      (buildContextBuildSkillInvocation skillsDir file request).toList := by
  simp only [buildContextBuildSkillInvocation, join, String.toList_append, List.append_assoc]
  exact List.prefix_append _ _

theorem buildInvocation_isBuild (skillsDir file : String) (request : BuildSkillInvocationRequest) :
    isBuildInvocation (buildContextBuildSkillInvocation skillsDir file request) = true := by
  have hhead : "<skill name=\"context-build\"".toList <+: "<skill name=\"context-build\" location=\"".toList := by decide
  exact startsWith_iff.mpr (hhead.trans (buildInvocation_begins skillsDir file request))

/-- None of these beginnings goes on as another one. -/
theorem heads_differ :
    (∀ first ∈ "<skill name=\"context-build\" location=\"" :: invocationHeads,
      ¬ ("Deep Search 批次已完成。".toList <+: first.toList ∨ first.toList <+: "Deep Search 批次已完成。".toList)) ∧
    (∀ first ∈ "Deep Search 批次已完成。\n" :: invocationHeads,
      ¬ ("<skill name=\"context-build\"".toList <+: first.toList ∨
        first.toList <+: "<skill name=\"context-build\"".toList)) ∧
    "Deep Search 批次已完成。".toList <+: "Deep Search 批次已完成。\n".toList := by
  decide +kernel

/-- A text that begins in one way does not begin in another. -/
theorem not_startsWith {text first head : String} (hfirst : first.toList <+: text.toList)
    (hother : ¬ (head.toList <+: first.toList ∨ first.toList <+: head.toList)) : startsWith text head = false :=
  Bool.eq_false_iff.mpr fun hhead =>
    hother (List.prefix_or_prefix_of_prefix (startsWith_iff.mp hhead) hfirst)

theorem batchInvocation_isFollowUp (workflow : ActiveWorkflowContext) (identity : DeepAttemptIdentity) :
    isFollowUp (batchInvocation workflow identity) = true :=
  startsWith_iff.mpr (heads_differ.2.2.trans (batchInvocation_begins workflow identity))

theorem batchInvocation_not_build (workflow : ActiveWorkflowContext) (identity : DeepAttemptIdentity) :
    isBuildInvocation (batchInvocation workflow identity) = false :=
  not_startsWith (batchInvocation_begins workflow identity) (heads_differ.2.1 _ List.mem_cons_self)

theorem buildInvocation_not_followUp (skillsDir file : String) (request : BuildSkillInvocationRequest) :
    isFollowUp (buildContextBuildSkillInvocation skillsDir file request) = false :=
  not_startsWith (buildInvocation_begins skillsDir file request) (heads_differ.1 _ List.mem_cons_self)

theorem Invocation.not_followUp {text : String} (h : Invocation host text) : isFollowUp text = false := by
  obtain ⟨first, hfirst, hbegins⟩ := h.begins
  exact not_startsWith hbegins (heads_differ.1 first (List.mem_cons_of_mem _ hfirst))

theorem Invocation.not_build {text : String} (h : Invocation host text) : isBuildInvocation text = false := by
  obtain ⟨first, hfirst, hbegins⟩ := h.begins
  exact not_startsWith hbegins (heads_differ.2.1 first (List.mem_cons_of_mem _ hfirst))

end Extension

end ForgeRuntime
