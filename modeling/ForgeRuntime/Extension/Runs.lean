import ForgeRuntime.Extension.HandlerMoves
import ForgeRuntime.Runtime.PendingDecision

/-!
# Runs of the extension

What one step of the extension does to the session is a run of the session; so an invariant of the session
is one of the extension.

* `extensionStep_session` — the session after a step is the one to which the calls of the step have led;
* `extensionStep_callOf` — which calls a step may make;
* `step_waiting`, `answer_refused_shown` — when a question is pending, and what a refused answer leaves of it.

`sampleHost` and the files beside it are what the concrete runs of this development are made with.
-/

namespace ForgeRuntime

open EventDriven EventDriven.Machine EventDriven.Text

/-- A step of a run of the extension. -/
abbrev ExtensionStepRecord := Step Occurrence StepOutput ExtensionState

/-- The steps of the extension from its loading on, in a host with these active tools. -/
abbrev extensionRun (host : Host) (tools : List String) (os : List Occurrence) : List ExtensionStepRecord :=
  trace (extensionStep host) (loadedExtension tools) os

/-- The record of one step. -/
abbrev extensionStepAt (host : Host) (s : ExtensionState) (o : Occurrence) : ExtensionStepRecord :=
  stepAt (extensionStep host) s o

/-- A step, by the run of its handler. -/
theorem extensionStep_eq {host : Host} {o : Occurrence} {s t : ExtensionState} {r : Except String Reply}
    (h : Extension.handler host o.files o.event s.cleared = (r, t)) :
    extensionStep host o s = (⟨r, t.calls, t.effects⟩, t) := by
  simp only [extensionStep, h]

/-- The status in the details that a step returns, if it returns a result. -/
def StepOutput.status? (output : StepOutput) : Option ToolStatus :=
  match output.reply with
  | .ok reply => reply.result?.bind (·.details.status)
  | .error _ => none

/-- The session after a step. -/
theorem extensionStep_session (host : Host) (o : Occurrence) (s : ExtensionState) :
    (extensionStep host o s).2.session = sessionAt host s (extensionStep host o s).1.calls :=
  Extension.path_session (extensionStep_path host o s)

/-- The calls that a step may make. -/
inductive CallOf (host : Host) (s₀ : ExtensionState) (e : Event) : SessionOp → Prop
  | site {calls : List SessionOp} {op : SessionOp} (h : CallSite host s₀ e calls op) : CallOf host s₀ e op
  | intent {request : String} : CallOf host s₀ e (.beginIntent (some request))
  | reset : CallOf host s₀ e .reset
  | cancelDeep : CallOf host s₀ e .cancelDeepKnowledge
  | round {request : String} {snapshot : GrillEvidenceSnapshot} :
      CallOf host s₀ e (.startGrillRound request snapshot)
  | grill {summary : Option String} : CallOf host s₀ e (.beginGrill summary)
  | fetch {candidateId : String} : CallOf host s₀ e (.recordEvidenceFetch candidateId)
  | supplement {identity : DeepAttemptIdentity} {item : EvidenceInput} :
      CallOf host s₀ e (.recordDeepSupplementalEvidence identity item.evidenceId (some item))
  | fallback {summary : Option String} : CallOf host s₀ e (.beginDeepKnowledge summary .knowledgeUnderstanding)
  | finalize {identity : AdrBuildIdentity} {commit : CommitDocumentsResult} :
      CallOf host s₀ e (.finalizeAdrBuild identity commit)

theorem path_calls {host : Host} {files : Files} {s₀ : ExtensionState} {e : Event} {c : Core}
    (h : Path host files s₀ e c) : ∀ op ∈ c.calls, CallOf host s₀ e op := by
  induction h with
  | start hstart =>
      intro op hop
      rw [show s₀.core.calls = [] from hstart] at hop
      exact absurd hop List.not_mem_nil
  | @move c c' hpath hmove ih =>
      have hcall : ∀ d : Core, (∀ op ∈ d.calls, CallOf host s₀ e op) → ∀ op, CallOf host s₀ e op →
          ∀ made ∈ (d.call host op).calls, CallOf host s₀ e made := by
        intro d hd op hop made hmade
        rcases List.mem_append.mp hmade with hmade | hmade
        · exact hd made hmade
        · rwa [List.mem_singleton.mp hmade]
      cases hmove with
      | called hsite => exact hcall _ ih _ (.site hsite)
      | restored => simpa using ih
      | started hcalls => exact hcall c.clearEvidence ih _ .intent
      | left hcalls hop =>
          refine hcall _ ?_ _ ?_
          · rw [Extension.restoreTools_calls]
            exact ih
          · rcases hop with rfl | ⟨rfl, -⟩
            · exact .reset
            · exact .cancelDeep
      | grillEntered hstage horch => exact hcall _ (hcall _ ih _ .round) _ .grill
      | fetched => exact hcall _ ih _ .fetch
      | supplemented => exact hcall _ ih _ .supplement
      | supplementRefused => exact hcall _ ih _ .supplement
      | fallbackEntered => exact hcall _ ih _ .fallback
      | finalized hcalls =>
          rw [Extension.restoreTools_calls]
          exact hcall _ ih _ .finalize
      | _ => exact ih

theorem extensionStep_callOf {host : Host} {o : Occurrence} {s : ExtensionState} {op : SessionOp}
    (h : op ∈ (extensionStep host o s).1.calls) : CallOf host s.cleared o.event op :=
  path_calls (extensionStep_path host o s) op h

/-- What every discovery gives its snapshot holds of the snapshot of the workflow. -/
theorem path_snapshot {host : Host} {files : Files} {s₀ : ExtensionState} {e : Event}
    {P : GrillEvidenceSnapshot → Prop}
    (hfound : ∀ goal rootDir ref, P ⟨ref,
      (Extension.buildGrillCompatibleDiscovery host files rootDir (files.runLightDiscovery rootDir goal) goal).candidates,
      (Extension.buildGrillCompatibleDiscovery host files rootDir (files.runLightDiscovery rootDir goal) goal).manifest⟩)
    {c : Core} (h : Path host files s₀ e c) (hs : ∀ workflow ∈ s₀.activeWorkflow, P workflow.snapshot) :
    ∀ workflow ∈ c.activeWorkflow, P workflow.snapshot := by
  induction h with
  | start => exact hs
  | @move c c' hpath hmove ih =>
      cases hmove with
      | restored =>
          obtain ⟨active, saved, hframe⟩ := Extension.restoreTools_frame host c
          rw [hframe]
          exact ih
      | @finalized identity candidate commit hmade =>
          obtain ⟨active, saved, hframe⟩ :=
            Extension.restoreTools_frame host (c.call host (.finalizeAdrBuild identity commit))
          rw [hframe]
          exact ih
      | left hmade hop =>
          intro workflow hworkflow
          simp only [Core.leave] at hworkflow
          split at hworkflow
          · exact ih workflow hworkflow
          · cases hworkflow
      | @grillEntered goal rootDir summary =>
          intro workflow hworkflow
          rw [← Option.some.inj hworkflow]
          exact hfound goal rootDir c.nextRef
      | _ => exact ih

/-! ### The pending question -/

/-- In every state of the extension a question is pending exactly when the session waits for the user. -/
theorem step_waiting (host : Host) (s : ExtensionState) (o : Occurrence) (hs : PendingIffWaiting s.session) :
    PendingIffWaiting (extensionStep host o s).2.session := by
  rw [extensionStep_session]
  exact holds_at_finish step_pendingIffWaiting hs (admissible_of_forall (fun _ _ => trivial) _ _)

theorem waiting_at_finish (host : Host) (tools : List String) (os : List Occurrence) :
    PendingIffWaiting (finish (extensionStep host) (loadedExtension tools) os).session :=
  holds_at_finish (I := fun s => PendingIffWaiting s.session) (fun s o hs _ => step_waiting host s o hs)
    init_pendingIffWaiting (admissible_of_forall (fun _ _ => trivial) _ os)

/-- A pending question of a Deep step is the one that is shown. -/
theorem pendingDeepQuestion?_shown {s : ExtensionState} {waitUser : WaitUserState}
    (h : Extension.pendingDeepQuestion? s = some waitUser) : s.session.uiState.waitUser = some waitUser := by
  unfold Extension.pendingDeepQuestion? at h
  split at h
  · exact (Option.filter_eq_some_iff.mp h).1
  · cases h

/-- A refused answer to a question of a Deep step leaves the question shown. -/
theorem answer_refused_shown {host : Host} {s : ExtensionState} {waitUser : WaitUserState} {answer : String}
    (hwaiting : PendingIffWaiting s.session) (hasks : Extension.pendingDeepQuestion? s = some waitUser)
    (hrefuses : Session.refusesAnswer s.session waitUser (trim answer)) :
    (sessionAt host s [.recordAnswer answer]).uiState.stage = .workflow .waitUser := by
  have hshown := pendingDeepQuestion?_shown hasks
  have horch : s.session.orchestrator = some .waitUser := hwaiting.mp (by rw [hshown]; rfl)
  have hstage : Extension.AtStage s .waitUser := by
    unfold Extension.pendingDeepQuestion? at hasks
    split at hasks
    · assumption
    · cases hasks
  have hsame : (sessionStep host.digest (.recordAnswer answer) s.session).2 = s.session := by
    rw [sessionStep, Session.runOp, Turn.map_apply]
    simp only [Session.recordAnswer, Turn.get_bind_apply, Turn.ite_apply_state, horch, hshown, hrefuses, ne_eq,
      not_true_eq_false, if_false, if_true, Turn.pure_apply]
  show ((sessionStep host.digest (.recordAnswer answer) s.session).2).uiState.stage = _
  rw [hsame]
  exact hstage

/-! ### A host for concrete runs -/

/-- A host that offers everything.  Its digest is the text itself, and the seeds are those of the request `do it`. -/
def sampleHost : Host :=
  { digest := id
    toLowerCase := id
    parseJson := fun _ => .error "SyntaxError"
    extractDeepDiscoverySeeds := fun _ => ["do", "it"]
    skillsDir := "/skills"
    registerTool := true
    getActiveTools := true
    setActiveTools := true
    on := true
    sendUserMessage := true
    sendMessage := true }

def sampleCtx : CommandContext := ⟨some "/project", true, true, true⟩

/-- One file of the code base is found, and one page of the wiki. -/
def sampleFiles : Files :=
  { grillingSkill := .ok "skill"
    contextBuildSkill := .ok "skill"
    missingAssets := fun _ => []
    runLightDiscovery := fun _ _ => ⟨[⟨.codeBase, "do.ts", "do.ts"⟩], []⟩
    readEvidenceSource := fun path => if path.length = 3 then .ok ⟨"do", none⟩ else .error "ENOENT"
    wikiSources := fun _ => .ok [⟨"b.md", "b", []⟩]
    codeBaseSources := fun _ _ => .ok []
    documentsBase := fun _ => .ok (String.ofList (List.replicate 64 'a'))
    commitBundle := fun _ _ _ => .ok (.committed (String.ofList (List.replicate 64 'b'))) }

/-- The tools that the user has. -/
def sampleTools : List String := ["read", "bash"]

/-- The events of a run, all with the same files. -/
def withFiles (files : Files) (events : List Event) : List Occurrence := events.map fun e => ⟨files, e⟩

/-- The state after these events. -/
def sampleAfter (events : List Event) : ExtensionState :=
  finish (extensionStep sampleHost) (loadedExtension sampleTools) (withFiles sampleFiles events)

/-- The steps of these events, from a state on. -/
def sampleSteps (s : ExtensionState) (events : List Event) : List ExtensionStepRecord :=
  trace (extensionStep sampleHost) s (withFiles sampleFiles events)

/-- The step of one event after these. -/
def sampleStep (events : List Event) (e : Event) : ExtensionStepRecord :=
  extensionStepAt sampleHost (sampleAfter events) ⟨sampleFiles, e⟩

theorem sampleStep_before (events : List Event) (e : Event) :
    (sampleStep events e).before = sampleAfter events := rfl

theorem sampleStep_event (events : List Event) (e : Event) : (sampleStep events e).input.event = e := rfl

/-- A run with one step marked in it. -/
theorem sampleRun_split (early late : List Event) (e : Event) :
    extensionRun sampleHost sampleTools (withFiles sampleFiles (early ++ e :: late)) =
      sampleSteps (loadedExtension sampleTools) early ++
        sampleStep early e :: sampleSteps (sampleAfter (early ++ [e])) late := by
  simp [withFiles, trace_append, trace, sampleSteps, sampleStep, sampleAfter, finish_append, finish, stepAt]

/-- A run with two steps marked in it. -/
theorem sampleRun_split_two (early mid late : List Event) (e e' : Event) :
    extensionRun sampleHost sampleTools (withFiles sampleFiles (early ++ e :: (mid ++ e' :: late))) =
      sampleSteps (loadedExtension sampleTools) early ++
        sampleStep early e :: (sampleSteps (sampleAfter (early ++ [e])) mid ++
          sampleStep (early ++ e :: mid) e' :: sampleSteps (sampleAfter (early ++ e :: (mid ++ [e']))) late) := by
  simp [withFiles, trace_append, trace, sampleSteps, sampleStep, sampleAfter, finish_append, finish, stepAt]

/-- The ID of the file that the discovery finds. -/
def sampleCandidateId : String := Extension.createEvidenceId sampleHost "code_base" "code_base/do.ts" "do"

/-- A completion of Grill that is ready for Deep Knowledge. -/
def readyForDeep (roundId : String) (evidence : List String) : Json String :=
  .object [("evidence", .texts evidence), ("questions", .array []),
    ("recommendation", .object [("value", .text "go"), ("reason", .text "because")]),
    ("requiresUserConfirmation", .bool false), ("status", .text "READY_FOR_DEEP"),
    ("roundId", .text roundId)]

/-- What the understanding phase hands in, citing this evidence. -/
def sampleUnderstanding (evidenceIds : List String) : UnderstandingResult :=
  ⟨"summary", [], [⟨"finding", evidenceIds⟩], [], none, none, none⟩

/-- A run up to the end of the retrieval: one candidate is fetched, and one page of the wiki is found. -/
def runToRetrieval : List Event :=
  [.input "/grill-run do it" sampleCtx, .grillEvidence sampleCandidateId,
    .grillComplete (readyForDeep "grill-1" [sampleCandidateId]) sampleCtx, .agentSettled, .deepTimer,
    .messageStart ["x"], .deepSearch ⟨"deep-1", "grill-1", "b", .wiki, none⟩]

def acceptRetrieval : Event := .deepRetrievalComplete "call-1" "deep-1" "grill-1" .completed sampleCtx

/-- A glossary with one entry, and records with one record, citing this evidence. -/
def glossaryCiting (evidenceIds : List String) : ContextCandidate := ⟨[⟨"term", "definition", evidenceIds⟩]⟩

def recordsCiting (evidenceIds : List String) : AdrBuildCandidate :=
  { records := [⟨evidenceIds, ["consequence"], "decision", "rationale"⟩]
    handoff :=
      { summary := "summary"
        nextSessionFocus := "focus"
        references := ["Documents/CONTEXT.md", "Documents/ADR.md"]
        suggestedSkills := ["skill"] } }

/-- From the understanding phase to the last candidate: the agent settles before each step goes on. -/
def buildCandidates (deepAttemptId : String) (evidenceIds : List String) : List Event :=
  [.deepComplete "call-3" deepAttemptId "grill-1" (.completed (sampleUnderstanding evidenceIds)) sampleCtx,
    .agentSettled, .buildTimer, .messageStart ["x"],
    .contextComplete "context-1" "grill-1" (.completed (glossaryCiting evidenceIds)) sampleCtx,
    .agentSettled, .buildTimer, .messageStart ["x"]]

def completeAdr (evidenceIds : List String) : Event :=
  .adrComplete "adr-1" "grill-1" (.completed (recordsCiting evidenceIds)) sampleCtx

/-- A step is one of its run. -/
theorem sampleStep_mem (early : List Event) (e : Event) :
    sampleStep early e ∈ extensionRun sampleHost sampleTools (withFiles sampleFiles (early ++ [e])) := by
  rw [sampleRun_split early [] e]
  exact List.mem_append_right _ List.mem_cons_self

end ForgeRuntime
