import ForgeRuntime.Extension.MoveRules

/-!
# The moves of an answer

The rules of the functions that take an answer on, and of the entries into the stages that they share.  Each
says that the function leads from a point of the step along a path.
-/

namespace ForgeRuntime

open EventDriven EventDriven.Text EventDriven.Turn EventDriven.Machine

namespace Extension

variable {host : Host} {files : Files} {s₀ : ExtensionState} {e : Event} {calls : List SessionOp}

/-! ### Leaving a workflow -/

/-- What `cancelWorkflow` calls, and what it leaves. -/
theorem cancelWorkflow_run (host : Host) (s : ExtensionState) : ∃ t op,
    cancelWorkflow host s = (.ok (), t) ∧ t.core = s.core.leave host op ∧
      (op = .reset ∨
        op = .cancelDeepKnowledge ∧ (AtStage s .deepKnowledgeRetrieval ∨ AtStage s .knowledgeUnderstanding ∨
          (AtStage s .waitUser ∧ s.session.uiState.waitUser.map (·.kind) = some .deepDecision))) := by
  simp only [cancelWorkflow, clearPendingState, clearFallbackWorkflowState, modify_bind_apply, get_bind_apply,
    restoreActiveTools_bind_apply, ite_apply_state]
  split
  case isTrue hfallback =>
    refine ⟨_, .reset, rfl, ?_, .inl rfl⟩
    dsimp only [Core.leave, Core.restoreTools, restored, ExtensionState.core, Core.clearEvidence]
    cases s.savedActiveTools <;> rfl
  case isFalse =>
    split
    case isTrue hdeep =>
      refine ⟨_, .cancelDeepKnowledge, rfl, ?_, .inr ⟨rfl, hdeep⟩⟩
      dsimp only [Core.leave, Core.restoreTools, restored, ExtensionState.core, Core.clearEvidence]
      cases s.savedActiveTools <;> rfl
    case isFalse =>
      refine ⟨_, .reset, rfl, ?_, .inl rfl⟩
      dsimp only [Core.leave, Core.restoreTools, restored, ExtensionState.core, Core.clearEvidence]
      cases s.savedActiveTools <;> rfl

theorem cancelWorkflow_rule : Ends host files s₀ e [] (cancelWorkflow host) := by
  refine leads_of_ok fun s hat => ?_
  obtain ⟨t, op, hrun, hcore, hop⟩ := cancelWorkflow_run host s
  have hmove : Move host files s₀ e s.core (s.core.leave host op) := by
    refine .left hat.calls ?_
    simpa only [AtStage, hat.fresh.1] using hop
  rw [← hcore] at hmove
  exact ⟨(), t, hrun, .move hat.path hmove⟩

/-! ### Asking the user -/

theorem quiet_handleWaitUserState (ctx : CommandContext) (state : ForgeUiState) (leaseKey : DecisionKey)
    (reply : Option ToolResult) (catches : Bool) :
    Quiet (handleWaitUserState ctx state leaseKey reply catches) := by
  intro s
  unfold handleWaitUserState
  rcases state.waitUser with _ | decision
  · rfl
  · cases hselect : ctx.select <;> rfl

/-- A question is asked where the session may be asked to, or where one is shown already. -/
theorem publishWaitUser_rule {ctx : CommandContext} {payload : WaitUserPayload}
    {reply : Option ToolResult} {catches : Bool}
    (h : Session.ShowsDecision (sessionAt host s₀ calls) ∨ CallSite host s₀ e calls (.requireWaitUser payload)) :
    Ends host files s₀ e calls (publishWaitUser ctx payload reply catches) := by
  unfold publishWaitUser
  refine leads_get_bind fun s hat => ?_
  split
  · refine leads_ite (fun _ => ends_pure _) fun _ => leads_ite (fun _ => ends_pure _) fun _ => ?_
    refine leads_quiet_bind (quiet_modify fun _ => rfl) fun _ => ?_
    exact ends_of_stays (quiet_handleWaitUserState _ _ _ _ _).stays
  · rename_i hnone
    have hsite : CallSite host s₀ e calls (.requireWaitUser payload) := by
      rcases h with ⟨hstage, hwait⟩ | hsite
      · rw [← hat.session] at hstage hwait
        obtain ⟨waitUser, hwaitUser⟩ := Option.ne_none_iff_exists'.mp hwait
        exact absurd hwaitUser (hnone waitUser hstage)
      · exact hsite
    refine leads_quiet_bind (quiet_modify fun _ => rfl) fun _ => ?_
    refine leads_bind (leads_tryCatch (call_rule .ui rfl hsite) fun error => ?_) fun state => ?_
    · refine leads_bind (quiet_releaseUiLease _).closes fun _ => leads_throw fun _ hpath => hpath
    · exact leads_mono (quiet_handleWaitUserState _ _ _ _ _).closes (fun _ hcall => hcall.1.path)
        fun _ _ hpath => hpath

/-! ### Entering Deep Knowledge -/

theorem continueDeepKnowledge_rule {ctx : CommandContext} {summary : Option String}
    {onProceed : Ext Unit} {mode : DeliveryMode} {bypass : Bool} {reply : Option ToolResult}
    (hask : bypass = false → ∀ round, (sessionAt host s₀ calls).currentGrillRound = some round →
      ∀ ids reason, Session.ShowsDecision (sessionAt host s₀ calls) ∨
        CallSite host s₀ e calls (.requireWaitUser (relevanceQuestion round ids reason)))
    (hbegin : CallSite host s₀ e calls (.beginDeepKnowledge summary .deepKnowledgeRetrieval))
    (hproceed : Stays host files s₀ e (calls ++ [.beginDeepKnowledge summary .deepKnowledgeRetrieval])
      onProceed) :
    Ends host files s₀ e calls (continueDeepKnowledge host ctx summary onProceed mode bypass reply) := by
  unfold continueDeepKnowledge
  refine leads_get_bind fun s hat => leads_ite (fun hrelevance => ?_) fun _ => ?_
  · refine leads_bind continueGrillRound_rule fun round => ?_
    refine leads_bind (Q := fun _ s => Path host files s₀ e s.core) ?_ fun _ => closes_pure _
    intro s' hround
    exact publishWaitUser_rule (hask hrelevance.2.1 round hround.2 _ _) s' hround.1
  · refine leads_quiet_bind (quiet_requireBoundary _ _) fun enforceable => ?_
    refine leads_ite (fun _ => ends_pure _) fun _ => ?_
    refine leads_bind (call_rule .ui rfl hbegin) fun state => ?_
    refine leads_mono (P := fun s => At host files s₀ e (calls ++ [.beginDeepKnowledge summary .deepKnowledgeRetrieval]) s.core) ?_ (fun _ h => h.1) fun _ _ h => h
    refine leads_quiet_bind (quiet_publishState _) fun _ => ?_
    refine leads_get_bind fun s hat => ?_
    cases s.session.deepAttempt with
    | none => exact ends_throw _
    | some attempt =>
        refine leads_stays_bind hproceed fun _ => ?_
        cases mode with
        | settled => exact ends_pure _
        | followUp =>
            refine leads_quiet_bind (quiet_modify fun _ => rfl) fun _ => ?_
            exact leads_quiet_bind (quiet_sendUserMessage _) fun _ => ends_pure _

/-! ### Entering Light Discovery and Grill -/

theorem quiet_grillingInvocation (request roundId : String) (manifest : List GrillEvidenceManifestEntry) :
    Quiet (grillingInvocation host files request roundId manifest) := by
  intro s
  unfold grillingInvocation
  cases files.grillingSkill <;> rfl

theorem quiet_buildInvocation (request : BuildSkillInvocationRequest) :
    Quiet (buildInvocation host files request) := by
  intro s
  unfold buildInvocation
  cases files.contextBuildSkill <;> rfl

/-- The session stands at the start of a discovery. -/
def InDiscovery (session : SessionState) : Prop :=
  session.uiState.stage = .workflow .lightDiscovery ∧ session.orchestrator = some .lightDiscovery

theorem beginLightDiscovery_rule {summary : Option String}
    (hsite : CallSite host s₀ e calls (.beginLightDiscovery summary)) :
    Leads host files s₀ e calls (sessionState.beginLightDiscovery summary) fun _ s =>
      At host files s₀ e (calls ++ [.beginLightDiscovery summary]) s.core ∧ InDiscovery s.session := by
  refine leads_mono (call_rule .ui rfl hsite) (fun _ hat => hat) fun _ s h => ⟨h.1, ?_⟩
  have henters := Session.beginStage_enters _ _ h.2
  rw [← h.1.session] at henters
  exact ⟨henters.2, henters.1⟩

/-- From a discovery into Grill: the round, the tools, the stage.  `wait` is what the callers write in
between. -/
theorem enterGrill_rule {goal rootDir : String} {summary : Option String} {α : Type}
    {wait : Ext Unit} {next : GrillRound × GrillCompatibleDiscovery → Ext α} (hgoes : GoesOn calls)
    (hwait : ∀ s, ∃ t, wait s = (.ok (), t) ∧ t.core = s.core) (hnext : ∀ found, Quiet (next found)) :
    Turn.Leads (fun s => At host files s₀ e calls s.core ∧ InDiscovery s.session)
      (do
        let found ← discoverAndGrill host files goal rootDir
        wait
        activateGrillTools host
        publishState (← sessionState.beginGrill summary)
        next found)
      (fun _ s => Path host files s₀ e s.core) fun s => Path host files s₀ e s.core := by
  let Discovered (c : Core) (s : ExtensionState) : Prop :=
    At host files s₀ e calls c ∧ InDiscovery c.session ∧ s.core = c.discover host files goal rootDir
  let Armed (c : Core) (s : ExtensionState) : Prop :=
    At host files s₀ e calls c ∧ InDiscovery c.session ∧
      s.core = ((c.discover host files goal rootDir).saveTools host).setTools host grillToolNames
  refine leads_bind (Q := fun _ s => ∃ c, Discovered c s) ?_ fun found => ?_
  · exact leads_of_ok fun s hs => ⟨_, _, rfl, s.core, hs.1, hs.2, rfl⟩
  refine leads_bind (Q := fun _ s => ∃ c, Discovered c s) ?_ fun _ => ?_
  · refine leads_of_ok fun s hs => ?_
    obtain ⟨c, hat, hin, hcore⟩ := hs
    obtain ⟨t, hrun, hsame⟩ := hwait s
    exact ⟨(), t, hrun, c, hat, hin, hsame.trans hcore⟩
  refine leads_bind (Q := fun _ s => ∃ c, Armed c s) ?_ fun _ => ?_
  · refine leads_of_ok fun s hs => ?_
    obtain ⟨c, hat, hin, hcore⟩ := hs
    exact ⟨(), _, rfl, c, hat, hin, by rw [← hcore]; rfl⟩
  refine leads_bind (Q := fun _ s => Path host files s₀ e s.core) ?_ fun state => ?_
  · intro s hs
    obtain ⟨c, hat, hin, hcore⟩ := hs
    have hend : Path host files s₀ e (sessionState.beginGrill summary s).2.core := by
      rw [show (sessionState.beginGrill summary s).2.core = _ from core_call .ui rfl s, hcore]
      exact .move hat.path (.grillEntered (by rwa [hat.calls]) hin.1 hin.2)
    refine ⟨fun a t hrun => ?_, fun error t hrun => ?_⟩
    · rwa [hrun] at hend
    · rwa [hrun] at hend
  exact leads_bind (quiet_publishState _).closes fun _ => (hnext found).closes

theorem restartLightDiscoveryAndGrill_rule {workflow : ActiveWorkflowContext}
    (hsite : CallSite host s₀ e [] (.beginLightDiscovery (some workflow.goal))) :
    Ends host files s₀ e [] (restartLightDiscoveryAndGrill host files workflow) := by
  refine leads_bind (beginLightDiscovery_rule hsite) fun state => ?_
  refine leads_bind (Q := fun _ s => At host files s₀ e [.beginLightDiscovery (some workflow.goal)]
    s.core ∧ InDiscovery s.session) ?_ fun _ => ?_
  · exact leads_of_ok fun s hs => ⟨_, _, rfl, hs⟩
  · exact enterGrill_rule rfl (fun _ => ⟨_, rfl, rfl⟩) fun _ => quiet_grillingInvocation _ _ _

/-- A new workflow: what is kept of the old one has been forgotten, and the intent is understood. -/
theorem beginIntent_rule {request : String} :
    Turn.Leads (fun s => ∃ c, At host files s₀ e [] c ∧ s.core = c.clearEvidence)
      (sessionState.beginIntent (some request))
      (fun _ s => At host files s₀ e [.beginIntent (some request)] s.core)
      fun s => Path host files s₀ e s.core := by
  intro s hs
  obtain ⟨c, hat, hcore⟩ := hs
  have hend : At host files s₀ e [.beginIntent (some request)]
      (sessionState.beginIntent (some request) s).2.core := by
    rw [show (sessionState.beginIntent (some request) s).2.core = _ from core_call .ui rfl s,
      hcore]
    exact ⟨.move hat.path (.started hat.calls), congrArg (· ++ _) hat.calls⟩
  refine ⟨fun a t hrun => ?_, fun error t hrun => ?_⟩
  · rwa [hrun] at hend
  · rw [hrun] at hend
    exact hend.path

theorem startWorkflow_rule {request rootDir : String} :
    Ends host files s₀ e [] (startWorkflow host files request rootDir) := by
  refine leads_bind (Q := fun _ s => ∃ c, At host files s₀ e [] c ∧ s.core = c.clearEvidence) ?_ fun _ => ?_
  · exact leads_of_ok fun s hat => ⟨_, _, rfl, s.core, hat, rfl⟩
  refine leads_bind beginIntent_rule fun _ => ?_
  refine leads_quiet_bind (quiet_publishState _) fun _ => ?_
  refine leads_bind (beginLightDiscovery_rule .discoverAfterIntent) fun state => ?_
  refine leads_bind (Q := fun _ s => At host files s₀ e _ s.core ∧ InDiscovery s.session)
    (leads_of_ok fun s hs => ⟨_, _, rfl, hs⟩) fun _ => ?_
  refine leads_bind (Q := fun _ s => At host files s₀ e _ s.core ∧ InDiscovery s.session)
    (leads_of_ok fun s hs => ⟨_, _, rfl, hs⟩) fun _ => ?_
  exact enterGrill_rule rfl (fun s => ⟨s, show (pure () : Ext Unit) s = _ from rfl, rfl⟩) fun _ => quiet_grillingInvocation _ _ _

/-! ### Answers to Grill questions -/

theorem recordAnswer_rule {answer : String} (h : submittedAnswer? host s₀ e = some answer) :
    Leads host files s₀ e [] (sessionState.recordAnswer host answer) fun ui s =>
      At host files s₀ e [.recordAnswer answer] s.core ∧
        ui = (sessionAt host s₀ [.recordAnswer answer]).uiState :=
  ui_call_rule rfl (Session.showsUi_recordAnswer _ _) (.answer h)

theorem answerExploratoryConsent_rule {answer : String} {ctx : CommandContext} {round : GrillRound}
    (h : submittedAnswer? host s₀ e = some answer) (hround : s₀.session.currentGrillRound = some round)
    (hasks : AsksExploratoryConsent s₀ round) :
    Ends host files s₀ e [] (answerExploratoryConsent host answer ctx) := by
  unfold answerExploratoryConsent
  refine leads_ite (fun _ => ?_) fun happroval => ?_
  · refine leads_quiet_bind (quiet_modify fun _ => rfl) fun _ => ?_
    refine leads_stays_bind (activateGrillTools_rule rfl) fun _ => ?_
    refine leads_get_bind fun s hat => ?_
    exact leads_quiet_bind (quiet_publishState _) fun _ => leads_quiet_bind (quiet_notify _) fun _ =>
      ends_pure _
  · have happroved : isApproval host answer = true := by simpa using happroval
    refine leads_fact_bind (recordAnswer_rule h) fun state hstate => ?_
    refine leads_bind (Q := fun _ s => At host files s₀ e [.recordAnswer answer] s.core) ?_ fun _ => ?_
    · refine leads_of_ok fun s hat => ⟨_, _, rfl, .move hat.path (.consentGiven (.inl ?_)), hat.calls⟩
      exact ⟨round, answer, hat.calls, happroved, hround, hasks⟩
    refine ends_bind (continueDeepKnowledge_rule (by simp) (.enterDeepOnConsent hround hasks happroved)
      (activateDeepRetrievalTools_rule rfl)) fun entered => ?_
    exact leads_get_bind fun s _ => leads_bind (quiet_publishState _).closes fun _ => closes_pure _

theorem answerConvergence_rule {answer : String} {ctx : CommandContext}
    (h : submittedAnswer? host s₀ e = some answer) (hasks : AsksInConvergence s₀) :
    Ends host files s₀ e [] (answerConvergence host answer ctx) := by
  unfold answerConvergence
  refine leads_fact_bind (recordAnswer_rule h) fun state hstate => leads_ite (fun _ => ?_) fun hgrill => ?_
  · exact leads_quiet_bind (quiet_publishState _) fun _ => ends_pure _
  · have hanswered : (sessionAt host s₀ [.recordAnswer answer]).uiState.stage = .workflow .grill := by
      rw [← hstate]
      exact not_not.mp fun hne => hgrill (.inl hne)
    refine leads_bind (Q := fun _ s => At host files s₀ e [.recordAnswer answer] s.core) ?_ fun _ => ?_
    · exact leads_of_ok fun s hat => ⟨_, _, rfl, .move hat.path .convergenceEnded, hat.calls⟩
    refine ends_bind (continueDeepKnowledge_rule (by simp) (.enterDeepOnConvergence hasks hanswered)
      (activateDeepRetrievalTools_rule rfl)) fun entered => ?_
    exact leads_get_bind fun s _ => leads_bind (quiet_publishState _).closes fun _ => closes_pure _

theorem answerRelevance_rule {answer : String} {round : GrillRound} {state : ForgeUiState}
    (hgrill : pendingDeepQuestion? s₀ = none)
    (hstage : (sessionAt host s₀ [.recordAnswer answer]).uiState.stage = .workflow .userConfirmed) :
    Ends host files s₀ e [.recordAnswer answer] (answerRelevance host files answer round state) := by
  unfold answerRelevance
  refine leads_quiet_bind (quiet_modify fun _ => rfl) fun _ => leads_get_bind fun s hat => ?_
  cases s.activeWorkflow with
  | none => exact leads_quiet_bind (quiet_publishState _) fun _ => ends_pure _
  | some workflow =>
      refine leads_bind (Q := fun _ s => At host files s₀ e [.recordAnswer answer] s.core) ?_ fun _ => ?_
      · exact leads_of_ok fun s hat => ⟨_, _, rfl, .move hat.path .convergenceEnded, hat.calls⟩
      refine leads_stays_bind (restoreActiveTools_rule (.relevanceAnswer hgrill)) fun _ => ?_
      refine leads_bind (beginLightDiscovery_rule (.discoverAfterAnswer hstage)) fun _ => ?_
      refine leads_bind (Q := fun _ s => At host files s₀ e _ s.core ∧ InDiscovery s.session)
        (leads_of_ok fun s hs => ⟨_, _, rfl, hs⟩) fun _ => ?_
      exact enterGrill_rule rfl (fun _ => ⟨_, rfl, rfl⟩) fun _ =>
        quiet_bind (quiet_grillingInvocation _ _ _) fun _ => quiet_pure _

theorem nextGrillRound_rule {answer : String} {round : GrillRound} {state : ForgeUiState}
    {isConvergenceSelection : Bool} (hround : s₀.session.currentGrillRound = some round)
    (hstage : (sessionAt host s₀ [.recordAnswer answer]).uiState.stage = .workflow .grill)
    (hconverge : isConvergenceSelection = true → trim answer = "converge" ∧
      s₀.session.uiState.waitUser.map (·.kind) = some .grillCheckpoint) :
    Ends host files s₀ e [.recordAnswer answer]
      (nextGrillRound host files round state isConvergenceSelection) := by
  unfold nextGrillRound
  refine leads_fact_bind (l := [.recordAnswer answer, .startGrillRound round.request round.snapshot])
    (R := fun next => (sessionAt host s₀
      [.recordAnswer answer, .startGrillRound round.request round.snapshot]).currentGrillRound = some next)
    ?_ fun next hnext => ?_
  · refine leads_mono (call_rule .round rfl (.nextRound hround hstage)) (fun _ hat => hat)
      fun next s h => ⟨h.1, ?_⟩
    have hrun := h.2
    simp only [Session.startGrillRound, get_bind_apply, modify_bind_apply, pure_apply, Prod.mk.injEq,
      Except.ok.injEq] at hrun
    exact (congrArg SessionState.currentGrillRound hrun.2.symm).trans (congrArg some hrun.1)
  · have hrest : Ends host files s₀ e
        [.recordAnswer answer, .startGrillRound round.request round.snapshot] (do
          modify fun s => { s with pendingGrillRun := true }
          activateGrillTools host
          publishState state
          let request := join "\n\n"
            ([round.request, state.decisionSummary.getD ""].filter (· ≠ ""))
          let instruction := if isConvergenceSelection then convergenceInstruction else ""
          return some (← grillingInvocation host files (request ++ instruction) next.roundId
            next.snapshot.manifest)) := by
      refine leads_quiet_bind (quiet_modify fun _ => rfl) fun _ => ?_
      refine leads_stays_bind (activateGrillTools_rule rfl) fun _ => ?_
      refine leads_quiet_bind (quiet_publishState _) fun _ => ?_
      exact ends_of_stays (quiet_bind (quiet_grillingInvocation _ _ _) fun _ => quiet_pure _).stays
    refine leads_ite (fun hconv => ?_) fun _ => hrest
    refine leads_bind (Q := fun _ s => At host files s₀ e
      [.recordAnswer answer, .startGrillRound round.request round.snapshot] s.core) ?_ fun _ => hrest
    refine leads_of_ok fun s hat => ⟨_, _, rfl, .move hat.path ?_, hat.calls⟩
    have hcurrent : s.core.session.currentGrillRound = some next := by
      rw [← hnext, ← hat.session]
      rfl
    exact .convergenceStarted hcurrent (hconverge hconv).1 ⟨_, _, hat.calls⟩ (hconverge hconv).2

theorem resumeGrillWithAnswer_rule {answer : String} {ctx : CommandContext}
    (h : submittedAnswer? host s₀ e = some answer) (hgrill : pendingDeepQuestion? s₀ = none) :
    Ends host files s₀ e [] (resumeGrillWithAnswer host files answer ctx) := by
  unfold resumeGrillWithAnswer
  refine leads_fact_bind continueGrillRound_rule fun round hround => leads_get_bind fun s hat => ?_
  have hsession : s.session = s₀.session := hat.fresh.1
  have hconvergence : AsksInConvergence s → AsksInConvergence s₀ := by
    intro hasks
    obtain ⟨hstage, waitUser, hmem, hkind, hround⟩ := hasks
    rw [AtStage, hsession] at hstage
    rw [hsession] at hmem
    have hsame : s.pendingConvergenceRoundId = none ∨
        s.pendingConvergenceRoundId = s₀.pendingConvergenceRoundId :=
      path_convergence hat.path hat.calls
    rw [hround] at hsame
    exact ⟨hstage, waitUser, hmem, hkind, (hsame.resolve_left (by simp)).symm⟩
  refine leads_ite (fun hasks => ?_) fun _ => ?_
  · refine answerExploratoryConsent_rule h hround ?_
    simpa only [AsksExploratoryConsent, AtStage, hsession] using hasks
  refine leads_ite (fun _ => ?_) fun _ => ?_
  · exact ends_bind cancelWorkflow_rule fun _ => closes_pure _
  refine leads_ite (fun hasks => answerConvergence_rule h (hconvergence hasks)) fun _ => ?_
  refine leads_fact_bind (recordAnswer_rule h) fun state hstate => ?_
  refine leads_ite (fun hstage => ?_) fun _ => leads_ite (fun _ => ?_) fun hstage => ?_
  · exact answerRelevance_rule hgrill (by rw [← hstate]; exact hstage)
  · exact leads_quiet_bind (quiet_publishState _) fun _ => ends_pure _
  · refine nextGrillRound_rule hround ?_ ?_
    · rw [← hstate]
      exact not_not.mp hstage
    · intro hconv
      simp only [decide_eq_true_eq, hsession] at hconv
      exact ⟨hconv.2, hconv.1⟩

/-! ### Answers to Deep questions -/

/-- The answer was one to a Deep question. -/
abbrev Handles (host : Host) (files : Files) (s₀ : ExtensionState) (e : Event) (calls : List SessionOp)
    (m : Ext DeepAnswer) : Prop :=
  Leads host files s₀ e calls m fun outcome s => Path host files s₀ e s.core ∧ outcome ≠ .notDeep

theorem handles_pure (state : ForgeUiState) (invocation : Option String) :
    Handles host files s₀ e calls (pure (.handled state invocation)) :=
  leads_pure fun _ hat => ⟨hat.path, nofun⟩

theorem beginAfterFallback_rule {answer : String} {state : ForgeUiState} {waitUser : WaitUserState}
    (h : submittedAnswer? host s₀ e = some answer) (hasks : pendingDeepQuestion? s₀ = some waitUser)
    (hkind : waitUser.kind = .deepDiscoveryFallback)
    (hstage : (sessionAt host s₀ [.recordAnswer answer]).uiState.stage ≠ .workflow .waitUser) :
    Turn.Leads (fun s => At host files s₀ e [.recordAnswer answer] s.core ∧ FallbackNoted host waitUser answer s.core)
      (beginAfterFallback host answer state)
      (fun outcome s => Path host files s₀ e s.core ∧ outcome ≠ .notDeep) fun s => Path host files s₀ e s.core := by
  let begins : SessionOp := .beginDeepKnowledge state.decisionSummary .knowledgeUnderstanding
  let run := Session.beginDeepKnowledge state.decisionSummary .knowledgeUnderstanding
  have hcall : Turn.Leads
      (fun s => At host files s₀ e [.recordAnswer answer] s.core ∧ FallbackNoted host waitUser answer s.core)
      (call begins run)
      (fun _ s => At host files s₀ e [.recordAnswer answer, begins] s.core ∧
        (sessionAt host s₀ [.recordAnswer answer, begins]).deepAttempt.map (·.phase) =
          some .knowledgeUnderstanding)
      fun s => Path host files s₀ e s.core := by
    intro s hs
    obtain ⟨hat, hnoted⟩ := hs
    have hnext : At host files s₀ e [.recordAnswer answer, begins] (call begins run s).2.core := by
      rw [core_call .ui rfl s]
      exact ⟨.move hat.path (.fallbackEntered hat.calls hasks hkind hnoted), congrArg (· ++ _) hat.calls⟩
    refine ⟨fun ui t hout => ?_, fun error t hout => ?_⟩
    · rw [hout] at hnext
      refine ⟨hnext, ?_⟩
      rw [← hnext.session]
      exact Session.beginDeepKnowledge_issues _ _ (call_run hout)
    · rw [hout] at hnext
      exact hnext.path
  refine leads_bind hcall fun next => leads_pre (fun _ hs => hs) fun hphase => ?_
  refine leads_get_bind fun s hat => ?_
  cases s.session.deepAttempt with
  | none => exact handles_pure _ _
  | some attempt =>
      exact leads_stays_bind (activateDeepUnderstandingTools_rule (.fallback h hasks hkind hstage) hphase) fun _ =>
        handles_pure _ _

/-- The tools of the phase that the live attempt is in. -/
theorem activateDeepTools_rule {α : Type} {attempt : DeepAttemptIdentity} {rest : Ext α}
    {Q : α → ExtensionState → Prop} (hgoes : GoesOn calls)
    (hlive : (sessionAt host s₀ calls).deepAttempt = some attempt)
    (henters : attempt.phase = .knowledgeUnderstanding → EntersUnderstanding host s₀ e calls)
    (hrest : Leads host files s₀ e calls rest Q) :
    Leads host files s₀ e calls (do
      match attempt.phase with
      | .deepKnowledgeRetrieval => activateDeepRetrievalTools host
      | .knowledgeUnderstanding => activateDeepUnderstandingTools host
      rest) Q := by
  cases hphase : attempt.phase with
  | deepKnowledgeRetrieval => exact leads_stays_bind (activateDeepRetrievalTools_rule hgoes) fun _ => hrest
  | knowledgeUnderstanding =>
      exact leads_stays_bind (activateDeepUnderstandingTools_rule (henters hphase)
        (by rw [hlive, Option.map_some, hphase])) fun _ => hrest

theorem retryAfterDecision_rule {answer : String} {state : ForgeUiState} {waitUser : WaitUserState}
    (h : submittedAnswer? host s₀ e = some answer) (hasks : pendingDeepQuestion? s₀ = some waitUser) (hkind : waitUser.kind = .deepDecision)
    (hstage : (sessionAt host s₀ [.recordAnswer answer]).uiState.stage ≠ .workflow .waitUser) :
    Handles host files s₀ e [.recordAnswer answer] (retryAfterDecision host answer state) := by
  refine leads_call_bind .ui rfl (.retryAfterDecision hasks hkind hstage) fun next hrun => ?_
  refine leads_get_bind fun s hat => ?_
  cases hattempt : s.session.deepAttempt with
  | none => exact handles_pure _ _
  | some attempt =>
      rw [hat.session] at hattempt
      refine activateDeepTools_rule rfl hattempt (fun hphase =>
        .decided h hasks hkind hstage ?_) (handles_pure _ _)
      have hunderstanding : (sessionAt host s₀ [.recordAnswer answer,
          .retryDeepKnowledge state.decisionSummary]).deepAttempt.map (·.phase) = some .knowledgeUnderstanding := by
        rw [← hphase, ← Option.map_some, ← hattempt]
        rfl
      have hretried := Session.retryDeepKnowledge_phase _ hrun hunderstanding
      have hkeeps := recordAnswer_keepsDeep host.digest answer s₀.session
      rw [← hkeeps.1, ← hkeeps.2]
      exact hretried

theorem pendingDeepQuestion_congr {s t : ExtensionState} (h : s.session = t.session) :
    pendingDeepQuestion? s = pendingDeepQuestion? t := by
  have hstage : AtStage s .waitUser ↔ AtStage t .waitUser := by simp only [AtStage, h]
  unfold pendingDeepQuestion?
  by_cases ht : AtStage t .waitUser
  · rw [if_pos ht, if_pos (hstage.mpr ht), h]
  · rw [if_neg ht, if_neg fun hs => ht (hstage.mp hs)]

theorem pendingDeepQuestion_kind {s : ExtensionState} {waitUser : WaitUserState}
    (h : pendingDeepQuestion? s = some waitUser) :
    waitUser.kind = .deepDecision ∨ waitUser.kind = .deepDiscoveryFallback := by
  unfold pendingDeepQuestion? at h
  split at h
  · simpa using (Option.filter_eq_some_iff.mp h).2
  · cases h

/-- What follows an accepted answer to a Deep question. -/
theorem afterDeepAnswer_rule {answer : String} {state : ForgeUiState} {waitUser : WaitUserState}
    (h : submittedAnswer? host s₀ e = some answer) (hasks : pendingDeepQuestion? s₀ = some waitUser)
    (hstage : (sessionAt host s₀ [.recordAnswer answer]).uiState.stage ≠ .workflow .waitUser) :
    Turn.Leads (fun s => At host files s₀ e [.recordAnswer answer] s.core ∧
        (waitUser.kind = .deepDiscoveryFallback → FallbackNoted host waitUser answer s.core)) (do
      if host.sendUserMessage = false then
        return .handled state none
      if waitUser.kind = .deepDiscoveryFallback then
        beginAfterFallback host answer state
      else
        retryAfterDecision host answer state)
      (fun outcome s => Path host files s₀ e s.core ∧ outcome ≠ .notDeep) fun s => Path host files s₀ e s.core := by
  refine leads_ite (fun _ => ?_) fun _ => leads_ite (fun hkind => ?_) fun hkind => ?_
  · exact leads_mono (handles_pure _ _) (fun _ hs => hs.1) fun _ _ hs => hs
  · exact leads_mono (beginAfterFallback_rule h hasks hkind hstage) (fun _ hs => ⟨hs.1, hs.2 hkind⟩) fun _ _ hs => hs
  · exact leads_mono (retryAfterDecision_rule h hasks ((pendingDeepQuestion_kind hasks).resolve_right hkind)
      hstage) (fun _ hs => hs.1) fun _ _ hs => hs

theorem prepareDeepKnowledgeAnswer_rule {answer : String} (h : submittedAnswer? host s₀ e = some answer) :
    Leads host files s₀ e [] (prepareDeepKnowledgeAnswer host answer) fun outcome s =>
      Path host files s₀ e s.core ∧
        (outcome = .notDeep → At host files s₀ e [] s.core ∧ pendingDeepQuestion? s₀ = none) := by
  unfold prepareDeepKnowledgeAnswer
  refine leads_get_bind fun s hat => ?_
  rw [pendingDeepQuestion_congr hat.fresh.1]
  cases hasks : pendingDeepQuestion? s₀ with
  | none => exact leads_pure fun _ hat => ⟨hat.path, fun _ => ⟨hat, rfl⟩⟩
  | some waitUser =>
      refine leads_mono (P := fun s => At host files s₀ e [] s.core)
        (Q := fun outcome s => Path host files s₀ e s.core ∧ outcome ≠ .notDeep) ?_ (fun _ hat => hat)
        fun outcome s hs => ⟨hs.1, fun hout => absurd hout hs.2⟩
      refine leads_fact_bind (recordAnswer_rule h) fun state hstate => ?_
      refine leads_ite (fun _ => handles_pure _ _) fun hstage => ?_
      rw [hstate] at hstage
      refine leads_ite (fun hkind => ?_) fun hkind => ?_
      · refine leads_get_bind_eq fun s hat => ?_
        cases hworkflow : s.activeWorkflow with
        | none => exact leads_mono (handles_pure _ _) (fun t ht => ht ▸ hat) fun _ _ hs => hs
        | some workflow =>
            refine leads_bind (Q := fun _ s => At host files s₀ e [.recordAnswer answer] s.core ∧
                (waitUser.kind = .deepDiscoveryFallback → FallbackNoted host waitUser answer s.core)) ?_
              fun _ => afterDeepAnswer_rule h hasks hstage
            refine leads_of_ok fun t ht => ⟨_, _, rfl, ?_, fun _ => ⟨workflow, ?_, rfl, ?_⟩⟩
            · subst ht
              refine ⟨.move hat.path (.fallbackConfirmed hat.calls hworkflow hasks hkind ?_), hat.calls⟩
              rw [show t.core.session = sessionAt host s₀ [.recordAnswer answer] from hat.session]
              exact hstage
            · rw [ht]
              exact hworkflow
            · rw [ht]
              rfl
      · exact leads_mono (afterDeepAnswer_rule h hasks hstage) (fun _ hat => ⟨hat, fun hf => absurd hf hkind⟩)
          fun _ _ hs => hs

/-! ### Answers to build questions -/

theorem reenterBuildStage_rule {stage : BuildStage} {identity : BuildIdentity}
    {package : EvidencePackage} (hgoes : GoesOn calls) :
    Stays host files s₀ e calls (reenterBuildStage host files stage identity package) := by
  refine leads_get_bind fun s hat => ?_
  cases stage with
  | contextBuild =>
      refine leads_quiet_bind (quiet_buildInvocation _) fun _ => ?_
      exact leads_stays_bind (activateContextBuildTools_rule hgoes) fun _ => (quiet_pure _).stays
  | adrBuild =>
      cases s.session.contextCandidate with
      | none => exact leads_quiet_bind (quiet_notify _) fun _ => (quiet_pure _).stays
      | some candidate =>
          refine leads_quiet_bind (quiet_buildInvocation _) fun _ => ?_
          exact leads_stays_bind (activateAdrBuildTools_rule hgoes) fun _ => (quiet_pure _).stays

theorem resumeBuildAnswer_rule {answer : String} (h : submittedAnswer? host s₀ e = some answer) :
    Leads host files s₀ e [] (resumeBuildAnswer host files answer) fun taken s =>
      Path host files s₀ e s.core ∧ (taken = false → At host files s₀ e [] s.core) := by
  have htaken : ∀ {calls}, Leads host files s₀ e calls (pure true) fun taken s =>
      Path host files s₀ e s.core ∧ (taken = false → At host files s₀ e [] s.core) :=
    leads_pure fun _ hat => ⟨hat.path, nofun⟩
  unfold resumeBuildAnswer
  refine leads_get_bind fun s hat => ?_
  cases pendingBuildStage? s with
  | none => exact leads_pure fun _ hat => ⟨hat.path, fun _ => hat⟩
  | some stage =>
      refine leads_quiet_bind (quiet_requireBoundary _ _) fun enforceable => leads_ite (fun _ => htaken) fun _ => ?_
      refine leads_quiet_bind (quiet_modify fun _ => rfl) fun _ => ?_
      refine leads_fact_bind (recordAnswer_rule h) fun state hstate => ?_
      refine leads_quiet_bind (quiet_publishState _) fun _ => leads_ite (fun _ => htaken) fun _ => ?_
      refine leads_get_bind fun s hat => ?_
      split
      · refine leads_bind (leads_tryCatch (ends_of_stays (reenterBuildStage_rule rfl)) fun error => ?_)
          fun invocation => ?_
        · exact leads_bind (quiet_notify _).closes fun _ => closes_pure _
        · cases invocation with
          | none => exact leads_pure fun _ hpath => ⟨hpath, nofun⟩
          | some invocation =>
              exact leads_modify_bind (fun _ hpath => hpath) (leads_pure fun _ hpath => ⟨hpath, nofun⟩)
      · exact leads_quiet_bind (quiet_notify _) fun _ => htaken

/-! ### Answers -/

theorem quiet_settleDeepAnswer (state : ForgeUiState) (invocation : Option String) :
    Quiet (settleDeepAnswer state invocation) := by
  refine quiet_bind (quiet_publishState _) fun _ => ?_
  cases truthy invocation with
  | none => exact quiet_pure _
  | some invocation =>
      refine quiet_get_bind fun s => ?_
      cases s.activeWorkflow <;> cases s.session.deepAttempt <;> exact fun _ => rfl

theorem resumeWaitUserAnswer_rule {answer : String} {ctx : CommandContext}
    (h : submittedAnswer? host s₀ e = some answer) :
    Ends host files s₀ e [] (resumeWaitUserAnswer host files answer ctx) := by
  unfold resumeWaitUserAnswer
  refine leads_get_bind fun current hcurrent => ?_
  refine leads_bind (resumeBuildAnswer_rule h) fun taken => ?_
  cases taken with
  | true => exact leads_pure fun _ hs => hs.1
  | false =>
      refine leads_mono (P := fun s => At host files s₀ e [] s.core) ?_ (fun _ hs => hs.2 rfl) fun _ _ hs => hs
      refine leads_ite (fun htaken => absurd htaken (by simp)) fun _ => ?_
      refine leads_ite (fun _ => ends_bind cancelWorkflow_rule fun _ => closes_pure _) fun _ => ?_
      refine leads_ite (fun _ => ?boundary) fun _ => ?rest
      case' boundary =>
        refine leads_quiet_bind (quiet_requireBoundary _ _) fun enforceable =>
          leads_ite (fun _ => ends_pure _) fun _ => ?_
      -- with or without the boundary of Deep, the answer goes on alike
      all_goals
        refine leads_bind (prepareDeepKnowledgeAnswer_rule h) fun outcome => ?_
        cases outcome with
        | handled state invocation =>
            exact leads_mono (leads_bind (quiet_settleDeepAnswer state invocation).closes fun _ => closes_pure _)
              (fun _ hs => hs.1) fun _ _ hpath => hpath
        | notDeep =>
            refine leads_pre (fun _ hs => hs.2 rfl) fun hgrill => ?_
            refine leads_ite (fun _ => ends_pure _) fun _ => ?_
            refine ends_bind (resumeGrillWithAnswer_rule h hgrill) fun invocation => ?_
            cases truthy invocation with
            | none => exact closes_pure _
            | some invocation =>
                exact leads_modify_bind (fun _ hpath => hpath) (leads_bind (quiet_sendUserMessage _).closes
                  fun _ => closes_pure _)

end Extension

end ForgeRuntime
