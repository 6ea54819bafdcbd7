import ForgeRuntime.Extension.Runs

/-!
# Stray actions of the user

An answer or a confirmation that comes while no decision is pending is refused by the session, which writes the
refusal over the stage that is shown.  Every test for a running attempt reads that stage, so the work that was
running counts as not running any more.

* `refused_disturbs`, `kept_undisturbed` — what a stray action does to the three tests;
* `stray_actions_disturb` — which stray actions leave the three tests as they were, and that never all of them do;
* `confirm_stops_grill` — a confirmation after which Grill cannot be completed.
-/

namespace ForgeRuntime

open EventDriven EventDriven.Machine EventDriven.Text EventDriven.Turn Extension

variable {host : Host}

/-! ### Running work -/

/-- An attempt of one of the three kinds is running. -/
def HasActiveAttempt (s : ExtensionState) : Prop :=
  HasActiveGrillAttempt s ∨ HasActiveDeepAttempt s ∨ HasActiveBuildAttempt s

instance (s : ExtensionState) : Decidable (HasActiveAttempt s) := inferInstanceAs (Decidable (_ ∨ _))

/-- The three tests answer in `t` as they do in `s`. -/
structure SameAttempts (s t : ExtensionState) : Prop where
  grill : HasActiveGrillAttempt t ↔ HasActiveGrillAttempt s
  deep : HasActiveDeepAttempt t ↔ HasActiveDeepAttempt s
  build : HasActiveBuildAttempt t ↔ HasActiveBuildAttempt s

/-- The event is a call of one of the tools of the extension. -/
def Event.isToolRun : Event → Bool
  | .grillEvidence _ => true
  | .grillComplete _ _ => true
  | .deepSearch _ => true
  | .deepRetrievalComplete _ _ _ _ _ => true
  | .deepComplete _ _ _ _ _ => true
  | .contextComplete _ _ _ _ => true
  | .adrComplete _ _ _ _ => true
  | _ => false

/-- The tool calls that complete the workflow from `s` on complete it from `t` on as well. -/
def CompletesToo (host : Host) (s t : ExtensionState) : Prop :=
  ∀ os : List Occurrence, (∀ o ∈ os, o.event.isToolRun = true) →
    AtStage (finish (extensionStep host) s os) .toSpec → AtStage (finish (extensionStep host) t os) .toSpec

/-- The work that runs in `s` runs in `t` as it did, and can still be completed. -/
structure Undisturbed (host : Host) (s t : ExtensionState) : Prop where
  attempts : SameAttempts s t
  completes : CompletesToo host s t

/-! ### Stray actions -/

/-- What a user may do while no decision is pending: confirm, choose or write in a UI that is still open, or
answer the session once more. -/
inductive StrayAction where
  | confirm (files : Files) (args : String) (ctx : CommandContext)
  | selection (files : Files) (index : Nat) (choice : Option String)
  | recordAnswer (answer : String)

namespace StrayAction

/-- The command is `confirm`, and the selection comes from a UI. -/
def Possible (s : ExtensionState) : StrayAction → Prop
  | confirm _ args _ => trim args = "confirm"
  | selection _ index _ => ∃ ui, s.suspended[index]? = some (.ui ui)
  | recordAnswer _ => True

/-- The state after the action. -/
def after (host : Host) (s : ExtensionState) : StrayAction → ExtensionState
  | confirm files args ctx => (extensionStep host ⟨files, .command args ctx⟩ s).2
  | selection files index choice => (extensionStep host ⟨files, .resume index (.selection choice)⟩ s).2
  | recordAnswer answer => { s with session := (Session.recordAnswer host.digest answer s.session).2 }

/-- The answer that a UI hands on: what was written, unless it is blank, or what was chosen, unless it is the
entry for writing. -/
def uiAnswer? (ui : OpenUi) (choice : Option String) : Option String :=
  if ui.editing then (choice.filter fun written => ¬ Blank written).map trim
  else choice.filter fun chosen => chosen ≠ runtimeOwnedInputLabel

/-- The action reaches the session: an answer from a UI does so while a round stands and the host can send. -/
def ReachesSession (host : Host) (s : ExtensionState) : StrayAction → Prop
  | confirm _ _ _ => True
  | selection _ index choice => host.sendUserMessage = true ∧ s.session.currentGrillRound ≠ none ∧
      ∃ ui, s.suspended[index]? = some (.ui ui) ∧ uiAnswer? ui choice ≠ none
  | recordAnswer _ => True

end StrayAction

/-! ### The three tests -/

theorem kept_undisturbed {s t : ExtensionState} (hsession : t.session = s.session)
    (hpending : t.pendingGrillRun = s.pendingGrillRun) : SameAttempts s t := by
  constructor
  · simp only [HasActiveGrillAttempt, AtStage, hsession, hpending]
  · simp only [HasActiveDeepAttempt, AtStage, hsession]
  · simp only [HasActiveBuildAttempt, AtStage, hsession]

/-- Where no stage of the workflow is shown, nothing runs. -/
theorem not_active_of_no_stage {t : ExtensionState} (h : ∀ stage, ¬ AtStage t stage) : ¬ HasActiveAttempt t := by
  rintro (hgrill | hdeep | hbuild)
  · exact h _ hgrill.2
  · exact hdeep.2.elim (h _) (h _)
  · exact hbuild.elim (fun hcontext => h _ hcontext.1) fun hadr => h _ hadr.1

theorem refused_disturbs {s t : ExtensionState} (hactive : HasActiveAttempt s)
    (h : ∀ stage, ¬ AtStage t stage) : ¬ SameAttempts s t := by
  intro hsame
  refine not_active_of_no_stage h (hactive.imp hsame.grill.mpr ?_)
  exact Or.imp hsame.deep.mpr hsame.build.mpr

/-- Running work is shown at a stage that is not `WAIT_USER`. -/
theorem HasActiveAttempt.not_waiting {s : ExtensionState} (h : HasActiveAttempt s) : ¬ AtStage s .waitUser := by
  intro hwait
  unfold HasActiveAttempt HasActiveGrillAttempt HasActiveDeepAttempt HasActiveBuildAttempt at h
  unfold AtStage at h hwait
  rw [hwait] at h
  simp at h

/-! ### Refusals of the session -/

theorem recordAnswer_refused {digest : String → String} {answer : String} {s : SessionState}
    (h : s.orchestrator ≠ some .waitUser) :
    Session.recordAnswer digest answer s =
      (.ok { s.uiState with stage := .answerRejectedWaitUserRequired },
        { s with uiState := { s.uiState with stage := .answerRejectedWaitUserRequired } }) := by
  simp only [Session.recordAnswer, get_bind_apply, ite_apply_state, if_pos h]
  rfl

theorem confirm_refused {s : SessionState} (h : s.orchestrator ≠ some .waitUser) :
    Session.confirm s =
      (.ok { s.uiState with stage := .confirmRejectedWaitUserRequired },
        { s with uiState := { s.uiState with stage := .confirmRejectedWaitUserRequired } }) := by
  simp only [Session.confirm, get_bind_apply, ite_apply_state, if_pos h]
  rfl

/-- A session at which no stage of the workflow is shown. -/
def ShowsRefusal (s : SessionState) : Prop :=
  s.uiState.stage = .answerRejectedWaitUserRequired ∨ s.uiState.stage = .confirmRejectedWaitUserRequired

theorem ShowsRefusal.no_stage {t : ExtensionState} (h : ShowsRefusal t.session) (stage : WorkflowStage) :
    ¬ AtStage t stage := by
  intro hat
  rw [ShowsRefusal, show t.session.uiState.stage = .workflow stage from hat] at h
  simp at h

namespace Extension

/-! ### A late answer -/

/-- No decision is pending: none is kept, and the orchestrator does not wait. -/
structure NonePending (s : ExtensionState) : Prop where
  waitUser : s.session.uiState.waitUser = none
  orchestrator : s.session.orchestrator ≠ some .waitUser
  stage : ¬ AtStage s .waitUser

/-- The session and the note of a running Grill are as they were. -/
def SameWork (s t : ExtensionState) : Prop := t.session = s.session ∧ t.pendingGrillRun = s.pendingGrillRun

variable {files : Files}

/-- **An answer to a Grill question that is not pending**: the session refuses it. -/
theorem resumeGrillWithAnswer_late (host : Host) (files : Files) (answer : String) (ctx : CommandContext)
    {s : ExtensionState}
    (h : NonePending s) {round : GrillRound} (hround : s.session.currentGrillRound = some round) :
    ∃ t, resumeGrillWithAnswer host files answer ctx s = (.ok none, t) ∧ ShowsRefusal t.session := by
  have hconsent : ¬ AsksExploratoryConsent s round := fun hasks => h.stage hasks.1
  have hconvergence : ¬ AsksInConvergence s := fun hasks => h.stage hasks.1
  have hcheckpoint : ¬ (s.session.uiState.waitUser.map (·.kind) = some .grillCheckpoint ∧
      trim answer = "cancel") := by
    rw [h.waitUser]
    exact fun hasks => nomatch hasks.1
  obtain ⟨ui, t, hrefused, hshown, hrefusal⟩ : ∃ ui t, sessionState.recordAnswer host answer s = (.ok ui, t) ∧
      ui.stage = .answerRejectedWaitUserRequired ∧ ShowsRefusal t.session := by
    rw [sessionState.recordAnswer, call, recordAnswer_refused h.orchestrator]
    exact ⟨_, _, rfl, rfl, .inl rfl⟩
  have hcurrent : sessionState.continueGrillRound s = (.ok round, s) := by
    rw [continueGrillRound_apply, hround]
  rw [resumeGrillWithAnswer, bind_eq_ok hcurrent, get_bind_apply, if_neg hconsent]
  simp only [if_neg hcheckpoint, if_neg hconvergence]
  rw [bind_eq_ok hrefused]
  simp only [hshown, reduceCtorEq, if_false, ne_eq, not_false_eq_true, if_true]
  exact ⟨_, rfl, hrefusal⟩

/-- **An answer that nothing asks for.**  It reaches the session while a round stands and the host can send. -/
theorem resumeWaitUserAnswer_late (host : Host) (files : Files) (answer : String) (ctx : CommandContext)
    {s : ExtensionState}
    (h : NonePending s) :
    ∃ r t, resumeWaitUserAnswer host files answer ctx s = (r, t) ∧ r ≠ .ok .sending ∧
      if host.sendUserMessage = true ∧ s.session.currentGrillRound ≠ none then ShowsRefusal t.session
      else SameWork s t := by
  have hbuild : resumeBuildAnswer host files answer s = (.ok false, s) := by
    simp only [resumeBuildAnswer, get_bind_apply, pendingBuildStage?, if_neg h.stage]
    rfl
  have hquestion : pendingDeepQuestion? s = none := if_neg h.stage
  have hdeep : prepareDeepKnowledgeAnswer host answer s = (.ok .notDeep, s) := by
    simp only [prepareDeepKnowledgeAnswer, get_bind_apply, hquestion]
    rfl
  rw [resumeWaitUserAnswer, get_bind_apply, bind_eq_ok hbuild]
  simp only [hquestion, Option.map_none, Bool.false_eq_true, if_false, reduceCtorEq, false_and, ne_eq,
    not_true_eq_false]
  rw [bind_eq_ok hdeep]
  dsimp only
  cases hsend : host.sendUserMessage with
  | false => exact ⟨_, s, rfl, nofun, by simp [SameWork]⟩
  | true =>
      cases hround : s.session.currentGrillRound with
      | none =>
          have hfails : resumeGrillWithAnswer host files answer ctx s =
              (.error "No active Grill round to continue", s) := by
            rw [resumeGrillWithAnswer, bind_apply, continueGrillRound_apply, hround]
          simp only [Bool.true_eq_false, if_false]
          rw [bind_eq_error hfails]
          exact ⟨_, s, rfl, nofun, by simp [SameWork]⟩
      | some round =>
          obtain ⟨t, hrun, hrefusal⟩ := resumeGrillWithAnswer_late host files answer ctx h hround
          simp only [Bool.true_eq_false, if_false]
          rw [bind_eq_ok hrun]
          exact ⟨_, t, rfl, nofun, by simpa using hrefusal⟩

/-! ### The end of a UI -/

theorem closeUi_same (ui : OpenUi) (s : ExtensionState) : SameWork s (closeUi ui s).2 := by
  unfold closeUi
  cases ui.reply with
  | none => exact ⟨rfl, rfl⟩
  | some result => exact ⟨rfl, rfl⟩

theorem failUi_same (ui : OpenUi) (error : String) (s : ExtensionState) : SameWork s (failUi ui error s).2 := by
  unfold failUi
  cases ui.catches with
  | false => exact ⟨rfl, rfl⟩
  | true =>
      cases ui.reply with
      | none => exact ⟨rfl, rfl⟩
      | some result => exact ⟨rfl, rfl⟩

/-- **The answer of a UI whose decision is gone.** -/
theorem submitUiAnswer_late {ui : OpenUi} {answer : String} {s : ExtensionState} (h : NonePending s) :
    if host.sendUserMessage = true ∧ s.session.currentGrillRound ≠ none then
      ShowsRefusal (submitUiAnswer host files ui answer s).2.session
    else SameWork s (submitUiAnswer host files ui answer s).2 := by
  obtain ⟨r, t, hrun, hsending, hlate⟩ := resumeWaitUserAnswer_late host files answer
    ui.ctx h
  obtain ⟨u, hends, hsame⟩ : ∃ u, submitUiAnswer host files ui answer s = u ∧ SameWork t u.2 := by
    rw [submitUiAnswer, bind_apply, attempt, hrun]
    rcases r with error | resumption
    · exact ⟨_, rfl, failUi_same ui error t⟩
    · cases resumption with
      | sending => exact absurd rfl hsending
      | handled => exact ⟨_, rfl, closeUi_same ui t⟩
      | notHandled => exact ⟨_, rfl, closeUi_same ui t⟩
  rw [hends]
  split at hlate
  · rw [if_pos ‹_›, hsame.1]
    exact hlate
  · rw [if_neg ‹_›]
    exact ⟨hsame.1.trans hlate.1, hsame.2.trans hlate.2⟩

/-- **What the user chose or wrote in a UI whose decision is gone.** -/
theorem uiSelection_late (host : Host) (files : Files) (ui : OpenUi) (choice : Option String)
    {s : ExtensionState} (h : NonePending s) :
    if host.sendUserMessage = true ∧ s.session.currentGrillRound ≠ none ∧
        StrayAction.uiAnswer? ui choice ≠ none then
      ShowsRefusal (uiSelection host files ui choice s).2.session
    else SameWork s (uiSelection host files ui choice s).2 := by
  have hsubmit : ∀ answer, StrayAction.uiAnswer? ui choice ≠ none →
      uiSelection host files ui choice = submitUiAnswer host files ui answer →
      if host.sendUserMessage = true ∧ s.session.currentGrillRound ≠ none ∧
          StrayAction.uiAnswer? ui choice ≠ none then
        ShowsRefusal (uiSelection host files ui choice s).2.session
      else SameWork s (uiSelection host files ui choice s).2 := by
    intro answer hanswer heq
    simp only [heq, hanswer, ne_eq, not_false_eq_true, and_true]
    exact submitUiAnswer_late h
  have hstays : StrayAction.uiAnswer? ui choice = none → SameWork s (uiSelection host files ui choice s).2 →
      if host.sendUserMessage = true ∧ s.session.currentGrillRound ≠ none ∧
          StrayAction.uiAnswer? ui choice ≠ none then
        ShowsRefusal (uiSelection host files ui choice s).2.session
      else SameWork s (uiSelection host files ui choice s).2 := by
    intro hnone hsame
    rw [if_neg fun hreaches => hreaches.2.2 hnone]
    exact hsame
  cases hediting : ui.editing with
  | false =>
      cases choice with
      | none =>
          refine hstays (by simp [StrayAction.uiAnswer?, hediting]) ?_
          simp only [uiSelection, hediting]
          exact closeUi_same ui s
      | some chosen =>
          by_cases howned : chosen = runtimeOwnedInputLabel
          · refine hstays (by simp [StrayAction.uiAnswer?, hediting, howned]) ?_
            simp only [uiSelection, hediting, if_pos howned]
            cases ui.ctx.custom with
            | false => exact closeUi_same ui s
            | true => exact ⟨rfl, rfl⟩
          · refine hsubmit chosen (by simp [StrayAction.uiAnswer?, hediting, howned]) ?_
            simp only [uiSelection, hediting, if_neg howned]
  | true =>
      cases choice with
      | none =>
          refine hstays (by simp [StrayAction.uiAnswer?, hediting]) ?_
          simp only [uiSelection, hediting]
          exact ⟨rfl, rfl⟩
      | some written =>
          by_cases hblank : Blank written
          · refine hstays (by simp [StrayAction.uiAnswer?, hediting, hblank]) ?_
            simp only [uiSelection, hediting, if_pos hblank]
            exact ⟨rfl, rfl⟩
          · refine hsubmit (trim written) (by simp [StrayAction.uiAnswer?, hediting, hblank]) ?_
            simp only [uiSelection, hediting, if_neg hblank]

/-! ### A confirmation of nothing -/

theorem command_confirm (host : Host) (files : Files) {args : String} (ctx : CommandContext) (hargs : trim args = "confirm") :
    command host files args ctx = confirmCommand host files ctx := by
  unfold command
  rw [hargs]
  rfl

/-- **A confirmation while nothing is pending**: the session refuses it. -/
theorem confirmCommand_late {ctx : CommandContext} {s : ExtensionState} (h : NonePending s) :
    ShowsRefusal (confirmCommand host files ctx s).2.session := by
  have hshown : shownDecision? s.session.uiState = none := if_neg h.stage
  obtain ⟨ui, t, hrefused, hrefusal⟩ : ∃ ui t, sessionState.confirm s = (.ok ui, t) ∧ ShowsRefusal t.session := by
    rw [sessionState.confirm, call, confirm_refused h.orchestrator]
    exact ⟨_, _, rfl, .inr rfl⟩
  simp only [confirmCommand, get_bind_apply, hshown, confirmAndContinueDeepKnowledge]
  rw [bind_eq_ok hrefused]
  simp only [true_or, if_true]
  exact hrefusal

end Extension

/-! ### What a stray action does -/

/-- An action that reaches the session leaves a refusal, and any other one leaves the work as it was. -/
theorem strayAction_outcome (host : Host) {s : ExtensionState} (h : NonePending s) {a : StrayAction} (hpossible : a.Possible s) :
    (a.ReachesSession host s → ShowsRefusal (a.after host s).session) ∧
      (¬ a.ReachesSession host s → SameWork s (a.after host s)) := by
  have hcleared : NonePending s.cleared := ⟨h.waitUser, h.orchestrator, h.stage⟩
  cases a with
  | confirm files args ctx =>
      refine ⟨fun _ => ?_, fun hnot => absurd trivial hnot⟩
      have hcommand := command_confirm host files ctx hpossible
      simp only [StrayAction.after, extensionStep, handler, hcommand]
      exact confirmCommand_late hcleared
  | recordAnswer answer =>
      refine ⟨fun _ => ?_, fun hnot => absurd trivial hnot⟩
      simp only [StrayAction.after, recordAnswer_refused h.orchestrator]
      exact .inl rfl
  | selection files index choice =>
      obtain ⟨ui, hui⟩ := hpossible
      have hopen : NonePending { s.cleared with suspended := s.suspended.eraseIdx index } :=
        ⟨h.waitUser, h.orchestrator, h.stage⟩
      have hrun : (extensionStep host ⟨files, .resume index (.selection choice)⟩ s).2 =
          (uiSelection host files ui choice { s.cleared with suspended := s.suspended.eraseIdx index }).2 := by
        have hwaits : s.cleared.suspended[index]? = some (.ui ui) := hui
        simp only [extensionStep, handler, resume, get_bind_apply, hwaits, Suspension.Awaits]
        rfl
      have hlate := uiSelection_late host files ui choice hopen
      rw [StrayAction.after, hrun]
      constructor
      · rintro ⟨hsend, hround, ui', hui', hanswer⟩
        obtain rfl : ui = ui' := by simpa [hui] using hui'
        rwa [if_pos ⟨hsend, hround, hanswer⟩] at hlate
      · intro hnot
        rwa [if_neg fun hreaches => hnot ⟨hreaches.1, hreaches.2.1, ui, hui, hreaches.2.2⟩] at hlate

/-- In a state that a run reaches, running work without a decision leaves nothing pending. -/
theorem nonePending_of_active {tools : List String} {os : List Occurrence}
    (hactive : HasActiveAttempt (finish (extensionStep host) (loadedExtension tools) os))
    (hnone : (finish (extensionStep host) (loadedExtension tools) os).session.uiState.waitUser = none) :
    NonePending (finish (extensionStep host) (loadedExtension tools) os) := by
  refine ⟨hnone, fun hwaits => ?_, hactive.not_waiting⟩
  have hsome := (waiting_at_finish host tools os).mpr hwaits
  rw [hnone] at hsome
  cases hsome

/-- **Stray actions disturb running work.**  Take any reachable state in which work runs and no decision is
pending.  A possible stray action leaves the three tests as they were exactly when it does not reach the session;
a confirmation always does, so that in no such state all stray actions leave the work undisturbed. -/
theorem stray_actions_disturb (host : Host) (tools : List String) (os : List Occurrence)
    (hactive : HasActiveAttempt (finish (extensionStep host) (loadedExtension tools) os))
    (hnone : (finish (extensionStep host) (loadedExtension tools) os).session.uiState.waitUser = none) :
    (¬ ∀ a : StrayAction, a.Possible (finish (extensionStep host) (loadedExtension tools) os) →
      Undisturbed host (finish (extensionStep host) (loadedExtension tools) os)
        (a.after host (finish (extensionStep host) (loadedExtension tools) os))) ∧
    ∀ a : StrayAction, a.Possible (finish (extensionStep host) (loadedExtension tools) os) →
      (SameAttempts (finish (extensionStep host) (loadedExtension tools) os)
          (a.after host (finish (extensionStep host) (loadedExtension tools) os)) ↔
        ¬ a.ReachesSession host (finish (extensionStep host) (loadedExtension tools) os)) := by
  have hpending := nonePending_of_active hactive hnone
  generalize finish (extensionStep host) (loadedExtension tools) os = s at hactive hpending
  have hexact : ∀ a : StrayAction, a.Possible s →
      (SameAttempts s (a.after host s) ↔ ¬ a.ReachesSession host s) := by
    intro a hpossible
    obtain ⟨hreaches, hkept⟩ := strayAction_outcome host hpending hpossible
    constructor
    · intro hsame hreach
      exact refused_disturbs hactive (hreaches hreach).no_stage hsame
    · intro hnot
      exact kept_undisturbed (hkept hnot).1 (hkept hnot).2
  refine ⟨fun hall => ?_, hexact⟩
  have hconfirm : (StrayAction.confirm sampleFiles "confirm" sampleCtx).Possible s :=
    show trim "confirm" = "confirm" by decide
  exact (hexact _ hconfirm).mp (hall _ hconfirm).attempts trivial

/-- Grill runs. -/
def grillRuns : List Event := [.input "/grill-run do it" sampleCtx]

theorem stray_actions_disturb_grill :
    ¬ SameAttempts (sampleAfter grillRuns)
      ((StrayAction.confirm sampleFiles " confirm" sampleCtx).after sampleHost (sampleAfter grillRuns)) := by
  have hexact := (stray_actions_disturb sampleHost sampleTools (withFiles sampleFiles grillRuns)
    (by decide +kernel) (by decide +kernel)).2 (.confirm sampleFiles " confirm" sampleCtx)
    (show trim " confirm" = "confirm" by decide +kernel)
  exact fun hsame => hexact.mp hsame trivial

/-- The tool calls of a whole workflow, from the first Grill round on. -/
def toolRunsOfWorkflow : List Event :=
  [.grillEvidence sampleCandidateId, .grillComplete (readyForDeep "grill-1" [sampleCandidateId]) sampleCtx,
    acceptRetrieval,
    .deepComplete "call-3" "deep-1" "grill-1" (.completed (sampleUnderstanding [sampleCandidateId])) sampleCtx,
    .contextComplete "context-1" "grill-1" (.completed (glossaryCiting [sampleCandidateId])) sampleCtx,
    completeAdr [sampleCandidateId]]

/-- **A confirmation stops Grill.**  Grill runs and no decision is pending; after a confirmation no attempt counts
as running, and the tool calls that would have completed the workflow do not complete it any more. -/
theorem confirm_stops_grill :
    HasActiveGrillAttempt (sampleAfter grillRuns) ∧ (sampleAfter grillRuns).session.uiState.waitUser = none ∧
      ¬ HasActiveAttempt ((StrayAction.confirm sampleFiles "confirm" sampleCtx).after sampleHost
        (sampleAfter grillRuns)) ∧
      ¬ SameAttempts (sampleAfter grillRuns) ((StrayAction.confirm sampleFiles "confirm" sampleCtx).after sampleHost
        (sampleAfter grillRuns)) ∧
      ¬ CompletesToo sampleHost (sampleAfter grillRuns)
        ((StrayAction.confirm sampleFiles "confirm" sampleCtx).after sampleHost (sampleAfter grillRuns)) := by
  have hruns : HasActiveGrillAttempt (sampleAfter grillRuns) := by decide +kernel
  have hstops : ¬ HasActiveAttempt ((StrayAction.confirm sampleFiles "confirm" sampleCtx).after sampleHost
      (sampleAfter grillRuns)) := by decide +kernel
  refine ⟨hruns, by decide +kernel, hstops, fun hsame => hstops (.inl (hsame.grill.mpr hruns)), fun hall => ?_⟩
  have hcalls : ∀ o ∈ withFiles sampleFiles toolRunsOfWorkflow, o.event.isToolRun = true := by
    intro o ho
    obtain ⟨e, he, rfl⟩ := List.mem_map.mp ho
    have hevery : (toolRunsOfWorkflow.all Event.isToolRun) = true := by decide
    exact List.all_eq_true.mp hevery e he
  have hstopped : ¬ AtStage (finish (extensionStep sampleHost)
      ((StrayAction.confirm sampleFiles "confirm" sampleCtx).after sampleHost (sampleAfter grillRuns))
      (withFiles sampleFiles toolRunsOfWorkflow)) .toSpec := by decide +kernel
  exact hstopped (hall _ hcalls (by decide +kernel))

end ForgeRuntime
