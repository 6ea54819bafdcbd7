import ForgeRuntime.Extension.AnswerMoves
import ForgeRuntime.Runtime.SearchBudget

/-!
# The moves of the tools

The rules of the seven tools, one for each stage of their work: a tool leads from the start of a step along a
path.
-/

namespace ForgeRuntime

open EventDriven EventDriven.Text EventDriven.Turn EventDriven.Machine

namespace Extension

variable {host : Host} {files : Files} {s₀ : ExtensionState} {e : Event} {calls : List SessionOp}

/-! ### `forge_grill_evidence` -/

/-- A candidate is kept in both places, or its ID stands for another content already. -/
theorem keepCandidate_rule {candidateId : String} {workflow : ActiveWorkflowContext}
    {candidate : GrillEvidenceCandidate} (he : e = .grillEvidence candidateId)
    (hactive : HasActiveGrillAttempt s₀) (hworkflow : s₀.activeWorkflow = some workflow)
    (hcandidate : workflow.snapshot.candidates.get? candidateId = some candidate)
    (hadmitted : admittedCandidate? s₀ candidateId = some candidate) :
    Ends host files s₀ e [] (do
      sessionState.recordEvidenceFetch candidate.candidateId
      match rememberedIn (← get).fetchedGrillEvidence (candidateEvidence candidate) with
      | .error error => throw error
      | .ok store =>
          modify fun s => { s with fetchedGrillEvidence := store }
          return Reply.tool
            { text := candidate.content
              details := { candidate := some { candidateEvidence candidate with content := "" } } }) := by
  cases hround : s₀.session.currentGrillRound with
  | none =>
      refine leads_bind (call_rule (fun _ => .done) rfl (.fetchWithoutRound hround)) fun _ => ?_
      intro s hs
      exact absurd hs.2 (by simp [Session.recordEvidenceFetch, sessionAt, finish, hround])
  | some round =>
      let fetch : SessionOp := .recordEvidenceFetch candidate.candidateId
      let item := candidateEvidence candidate
      have hfetched : ∀ c, At host files s₀ e [] c → Path host files s₀ e
          { c.call host fetch with fetchedGrillEvidence := Core.remember c.fetchedGrillEvidence item } :=
        fun c hat => .move hat.path
          (.fetched he hat.calls hactive hworkflow hcandidate (by simp [hround]) hadmitted)
      refine leads_bind (Q := fun _ s => ∃ c, At host files s₀ e [] c ∧ s.core = c.call host fetch) ?_ fun _ => ?_
      · refine leads_of_ok fun s hat => ⟨(), (call fetch (Session.recordEvidenceFetch candidate.candidateId) s).2,
          ?_, s.core, hat, core_call (fun _ => .done) rfl s⟩
        have hsome : s.session.currentGrillRound ≠ none := by simp [hat.fresh.1, hround]
        simp [sessionState.recordEvidenceFetch, call, Session.recordEvidenceFetch, hsome, fetch]
      refine leads_get_bind_eq fun s hs => ?_
      obtain ⟨c, hat, hcore⟩ := hs
      have hstore : s.fetchedGrillEvidence = c.fetchedGrillEvidence :=
        congrArg Core.fetchedGrillEvidence hcore
      have hend := hfetched c hat
      rw [hstore]
      cases hremember : rememberedIn c.fetchedGrillEvidence item with
      | error error =>
          refine leads_throw fun t ht => ?_
          have hkeep : Core.remember c.fetchedGrillEvidence item = c.fetchedGrillEvidence := by
            simp [Core.remember, hremember]
          rw [hkeep] at hend
          rw [ht, hcore]
          exact hend
      | ok store =>
          refine leads_modify_bind (M := fun t => Path host files s₀ e t.core) (fun t ht => ?_) (closes_pure _)
          have hkeep : Core.remember c.fetchedGrillEvidence item = store := by
            simp [Core.remember, hremember]
          rw [hkeep, ← hcore] at hend
          rw [ht]
          exact hend

theorem forgeGrillEvidence_rule {candidateId : String} (hstart : s₀.calls = [])
    (he : e = .grillEvidence candidateId) : Starts host files s₀ e (forgeGrillEvidence candidateId) := by
  refine starts_get_bind hstart (leads_ite (fun _ => ends_pure _) fun hactive => ?_)
  cases hworkflow : s₀.activeWorkflow with
  | none => exact ends_throw _
  | some workflow =>
      cases hcandidate : workflow.snapshot.candidates.get? candidateId with
      | none =>
          simp only [hcandidate]
          exact ends_throw _
      | some candidate =>
          simp only [hcandidate]
          cases hrejection : evidenceTooLargeRejection? candidate.metadata with
          | some rejection => exact ends_pure _
          | none =>
              refine leads_ite (fun _ => ends_pure _) fun hsize => leads_ite (fun _ => ends_pure _) fun hbytes => ?_
              have hactive := not_not.mp hactive
              have hadmitted : admittedCandidate? s₀ candidateId = some candidate := by
                rw [admittedCandidate?, if_pos hactive, hworkflow, Option.bind_some, hcandidate]
                refine Option.filter_eq_some_iff.mpr ⟨rfl, ?_⟩
                rw [hrejection]
                simp only [Option.isNone_none, Bool.true_and, Bool.and_eq_true, decide_eq_true_eq]
                exact ⟨Nat.le_of_not_gt hsize, Nat.le_of_not_gt hbytes⟩
              exact keepCandidate_rule he hactive hworkflow hcandidate hadmitted

/-! ### `forge_grill_complete` -/

/-- A completion is parsed against the session, and nothing is written. -/
theorem parseActiveGrillCompletion_congr {payload : Json String} {s t : ExtensionState}
    (h : s.session = t.session) :
    parseActiveGrillCompletion host payload s = ((parseActiveGrillCompletion host payload t).1, s) := by
  simp only [parseActiveGrillCompletion, bind_apply, continueGrillRound_apply, h]
  cases t.session.currentGrillRound with
  | none => rfl
  | some round =>
      simp only [get_apply, h]
      generalize parseGrillCompletion host.parseJson payload _ = parsed
      cases parsed with
      | error error => rfl
      | ok completion =>
          simp only [ite_apply_state, pure_apply]
          split
          · rfl
          · rfl

theorem parseActiveGrillCompletion_rule {payload : Json String}
    (h : handedIn? host s₀ e = (parseActiveGrillCompletion host payload s₀).1.toOption) :
    Leads host files s₀ e [] (parseActiveGrillCompletion host payload) fun completion s =>
      At host files s₀ e [] s.core ∧ handedIn? host s₀ e = some completion := by
  intro s hat
  rw [parseActiveGrillCompletion_congr hat.fresh.1]
  refine ⟨fun completion t hrun => ?_, fun error t hrun => ?_⟩
  · rw [Prod.mk.injEq] at hrun
    obtain ⟨hparsed, rfl⟩ := hrun
    exact ⟨hat, by rw [h, hparsed]; rfl⟩
  · rw [Prod.mk.injEq] at hrun
    obtain ⟨-, rfl⟩ := hrun
    exact hat.path

theorem quiet_refreshPendingGrillRun : Quiet refreshPendingGrillRun := fun _ => rfl

theorem publishWaitUserCaught_rule {ctx : CommandContext} {payload : WaitUserPayload}
    {reply : Option ToolResult}
    (h : Session.ShowsDecision (sessionAt host s₀ calls) ∨
      CallSite host s₀ e calls (.requireWaitUser payload)) :
    Ends host files s₀ e calls (publishWaitUserCaught ctx payload reply) :=
  leads_tryCatch (publishWaitUser_rule h) fun _ =>
    leads_bind (quiet_notify _).closes fun _ => closes_pure _

theorem completeGrillWithQuestion_rule {ctx : CommandContext} {completion : GrillCompletionPayload}
    (hin : HandsInGrill s₀ e) (hstage : AtStage s₀ .grill) (hcompletion : handedIn? host s₀ e = some completion) :
    Ends host files s₀ e [] (completeGrillWithQuestion ctx completion) := by
  unfold completeGrillWithQuestion
  cases hpayload : toWaitUserPayload completion with
  | error error => exact ends_throw _
  | ok payload =>
      refine ends_bind (publishWaitUserCaught_rule (.inr (.askCompletion hin hstage hcompletion hpayload)))
        fun _ => ?_
      exact leads_bind quiet_refreshPendingGrillRun.closes fun _ => closes_pure _

theorem completeGrillWithDeep_rule {ctx : CommandContext} {completion : GrillCompletionPayload}
    {approved : Bool} (hin : HandsInGrill s₀ e) (hstage : AtStage s₀ .grill) :
    Ends host files s₀ e [] (completeGrillWithDeep host ctx completion approved) := by
  unfold completeGrillWithDeep
  refine leads_get_bind fun s hat => ?_
  refine leads_bind (Q := fun _ s => At host files s₀ e [] s.core) ?_ fun _ => ?_
  · exact leads_of_ok fun s hat => ⟨_, _, rfl, .move hat.path .convergenceEnded, hat.calls⟩
  refine ends_bind (continueDeepKnowledge_rule
    (fun _ round hround _ _ => .inr (.askRelevance hin hstage hround)) (.enterDeep hin)
    (activateDeepRetrievalTools_rule rfl)) fun entry => ?_
  cases entry with
  | asked opened => exact closes_pure _
  | refused => exact closes_pure _
  | sending => exact closes_pure _
  | entered invocation =>
      refine leads_get_bind fun s hpath => ?_
      split
      · exact leads_modify_bind (fun _ hpath => hpath)
          (leads_bind quiet_refreshPendingGrillRun.closes fun _ => closes_pure _)
      · exact closes_pure _

theorem forgeGrillComplete_rule {payload : Json String} {ctx : CommandContext} (hstart : s₀.calls = [])
    (he : e = .grillComplete payload ctx) : Starts host files s₀ e (forgeGrillComplete host payload ctx) := by
  refine starts_get_bind hstart (leads_ite (fun _ => ends_pure _) fun hactive => ?_)
  have hactive : HasActiveGrillAttempt s₀ := not_not.mp hactive
  have hin : HandsInGrill s₀ e := he ▸ hactive
  refine leads_fact_bind (parseActiveGrillCompletion_rule (by rw [he]; rfl)) fun completion hcompletion => ?_
  refine leads_get_bind fun s hat => leads_ite (fun _ => ?_) fun _ => ?_
  · exact completeGrillWithQuestion_rule hin hactive.2 hcompletion
  · exact completeGrillWithDeep_rule hin hactive.2

/-! ### `forge_deep_search` -/

theorem askTarget_rule {identity : DeepAttemptIdentity} {decision : DeepNeedsDecisionResult}
    (hlive : s₀.session.deepAttempt = some identity) :
    Ends host files s₀ e [] (askTarget host identity decision) := by
  refine leads_call_bind .deep rfl (.deepResult hlive .decision) fun result _ => ?_
  cases result with
  | stale expected received => exact ends_pure _
  | accepted state _ | invalid state _ =>
      exact leads_stays_bind (restoreActiveTools_rule .deepResult) fun _ =>
        leads_quiet_bind (quiet_publishState _) fun _ => ends_pure _

/-- After the call for an item of a search: when the session has taken it, it is still to be kept across
rounds. -/
def Recorded (host : Host) (files : Files) (s₀ : ExtensionState) (e : Event) (item : EvidenceInput)
    (s : ExtensionState) : DeepCallResult → Prop
  | .accepted _ _ => Path host files s₀ e
      { s.core with
        fetchedDeepSupplementalEvidence := Core.remember s.core.fetchedDeepSupplementalEvidence item }
  | _ => Path host files s₀ e s.core

theorem recordDeepSupplementalEvidence_rule {identity : DeepAttemptIdentity} {item : EvidenceInput}
    (hfinds : SearchFinds host files s₀ identity item e) :
    Turn.Leads (fun s => Path host files s₀ e s.core)
      (sessionState.recordDeepSupplementalEvidence identity item)
      (fun result s => Recorded host files s₀ e item s result) fun s => Path host files s₀ e s.core := by
  intro s hpath
  let record : SessionOp := .recordDeepSupplementalEvidence identity item.evidenceId (some item)
  let run := Session.recordDeepSupplementalEvidence identity item.evidenceId (some item)
  have hcore : (call record run s).2.core = s.core.call host record := core_call .deep rfl s
  have hout : ∀ r t, run s.session = (r, t) → call record run s = (r, (call record run s).2) := by
    intro r t hrun
    simp [call, hrun]
  refine leads_mono (P := (· = s)) (Q := fun result s => Recorded host files s₀ e item s result) ?_
    (fun _ h => h) (fun _ _ h => h) s rfl
  rcases Session.recordDeepSupplementalEvidence_cases identity item s.session with
    ⟨hlive, expected, hrun⟩ | ⟨existing, error, hheld, hcontent, hrun⟩ | ⟨hlive, hfree, ui, t, hrun⟩
  · refine leads_of_ok fun s' hs' => ⟨_, (call record run s).2,
      (congrArg (call record run) hs').trans (hout _ _ hrun), ?_⟩
    rw [show s.session = _ from path_session hpath] at hlive
    have hnext : Path host files s₀ e (s.core.call host record) :=
      .move hpath (.called (.supplementStale (show (sessionAt host s₀ s.calls).deepAttempt ≠ _ from hlive)))
    rwa [← hcore] at hnext
  · refine leads_of_error fun s' hs' => ⟨_, (call record run s).2,
      (congrArg (call record run) hs').trans (hout _ _ hrun), ?_⟩
    have hnext : Path host files s₀ e (s.core.call host record) :=
      .move hpath (.supplementRefused hheld hcontent)
    rwa [← hcore] at hnext
  · refine leads_of_ok fun s' hs' => ⟨_, (call record run s).2,
      (congrArg (call record run) hs').trans (hout _ _ hrun), ?_⟩
    have hnext := Path.move hpath (.supplemented hfinds hlive hfree)
    rw [← hcore] at hnext
    exact hnext

/-- One item of a search: it is stale, it is refused, or it is kept in both places. -/
theorem recordItem_rule {identity : DeepAttemptIdentity} {item : EvidenceInput} {α : Type} {rest : Ext α}
    (hfinds : SearchFinds host files s₀ identity item e) (hrest : Closes host files s₀ e rest) :
    Closes host files s₀ e (do
      if let .accepted _ _ ← sessionState.recordDeepSupplementalEvidence identity item then
        match rememberedIn (← get).fetchedDeepSupplementalEvidence item with
        | .error error => throw error
        | .ok store => modify fun s => { s with fetchedDeepSupplementalEvidence := store }
      rest) := by
  refine leads_bind (recordDeepSupplementalEvidence_rule hfinds) fun result => ?_
  cases result with
  | stale expected received => exact hrest
  | invalid ui errors => exact hrest
  | accepted ui accepted =>
      refine leads_get_bind_eq fun s hs => ?_
      cases hremember : rememberedIn s.fetchedDeepSupplementalEvidence item with
      | error error =>
          refine leads_of_error fun t ht => ⟨error, t, rfl, ?_⟩
          have hkeep : Core.remember s.core.fetchedDeepSupplementalEvidence item =
              s.core.fetchedDeepSupplementalEvidence := by
            change Core.remember s.fetchedDeepSupplementalEvidence item = _
            rw [Core.remember, hremember]
            rfl
          simp only [Recorded, hkeep] at hs
          rw [ht]
          exact hs
      | ok store =>
          refine leads_modify_bind (M := fun t => Path host files s₀ e t.core) (fun t ht => ?_) hrest
          have hkeep : Core.remember s.core.fetchedDeepSupplementalEvidence item = store := by
            change Core.remember s.fetchedDeepSupplementalEvidence item = _
            rw [Core.remember, hremember]
          simp only [Recorded, hkeep] at hs
          rw [ht]
          exact hs

theorem recordSearchEvidence_rule {identity : DeepAttemptIdentity} {items : List EvidenceInput}
    (hfinds : ∀ item ∈ items, SearchFinds host files s₀ identity item e) :
    Closes host files s₀ e (recordSearchEvidence identity items) := by
  induction items with
  | nil => exact closes_pure _
  | cons item rest ih =>
      exact recordItem_rule (hfinds item List.mem_cons_self)
        (ih fun other hother => hfinds other (List.mem_cons_of_mem _ hother))

theorem searchWithBudget_rule {params : DeepSearchParams} {identity : DeepAttemptIdentity}
    {workflow : ActiveWorkflowContext} {selected : Option GrillEvidenceCandidate}
    (he : e = .deepSearch params)
    (hidentity : identity = ⟨params.attemptId, params.sourceRoundId, .deepKnowledgeRetrieval⟩)
    (hworkflow : s₀.activeWorkflow = some workflow)
    (hselected : selectedTarget? host params workflow = selected)
    (hvalid : SearchIsValid host s₀ params workflow) (hplace : GetsPlace host s₀ params workflow)
    (hheld : (sessionAt host s₀ calls).deepSupplementalEvidence = s₀.session.deepSupplementalEvidence) :
    Ends host files s₀ e calls (searchWithBudget identity
      (searchFiles host files params workflow selected (host.toLowerCase (trim params.query)))
      (fetchedCandidates s₀.session workflow.snapshot)) := by
  unfold searchWithBudget
  cases hfound : searchFiles host files params workflow selected (host.toLowerCase (trim params.query)) with
  | error error =>
      exact leads_call_bind .budget rfl .release fun _ _ => ends_throw _
  | ok evidence =>
      have hnew : newlyFound host files s₀ params = evidence.filter fun item =>
          (reusedCandidate? (fetchedCandidates s₀.session workflow.snapshot) item).isNone := by
        simp only [newlyFound, hworkflow, hselected, hfound]
      dsimp only
      split
      · exact leads_call_bind .budget rfl .release fun _ _ => ends_pure _
      · next hsizes =>
        refine leads_get_bind fun s hat => leads_ite (fun _ => ?_) fun hbytes => ?_
        · exact leads_call_bind .budget rfl .release fun _ _ => ends_pure _
        · refine leads_call_bind .budget rfl .commit fun answer _ => ?_
          refine leads_ite (fun _ => ends_pure _) fun _ => ?_
          refine ends_of_closes (leads_bind (recordSearchEvidence_rule fun item hitem => ?_) fun _ => closes_pure _)
          subst he
          have hfit : ItemsFit s₀ workflow (newlyFound host files s₀ params) := by
            rw [hnew]
            refine ⟨fun other hother => Bool.eq_false_iff.mpr (List.find?_eq_none.mp hsizes other hother), ?_⟩
            rw [hat.session, hheld] at hbytes
            exact Nat.le_of_not_gt hbytes
          refine ⟨hidentity, ?_⟩
          rw [itemsToRecord_eq hworkflow hvalid hplace hfit, hnew]
          exact hitem

theorem searchSource_rule {params : DeepSearchParams} {identity : DeepAttemptIdentity}
    {workflow : ActiveWorkflowContext} {selected : Option GrillEvidenceCandidate}
    (he : e = .deepSearch params)
    (hidentity : identity = ⟨params.attemptId, params.sourceRoundId, .deepKnowledgeRetrieval⟩)
    (hworkflow : s₀.activeWorkflow = some workflow)
    (hselected : selectedTarget? host params workflow = selected)
    (hvalid : SearchIsValid host s₀ params workflow) :
    Ends host files s₀ e [] (searchSource host files identity params workflow
      (host.toLowerCase (trim params.query)) selected) := by
  unfold searchSource
  refine leads_get_bind fun s hat => ?_
  rw [hat.fresh.1]
  refine leads_ite (fun _ => ends_pure _) fun hreused => leads_ite (fun _ => ends_pure _) fun hanswered => ?_
  have hlooks : LooksAtFiles host s₀ params workflow := by
    constructor
    · intro candidate hmem hkind
      have hnot := List.filter_eq_nil_iff.mp (not_not.mp hreused) candidate hmem
      simpa [hkind, queryOf] using hnot
    · intro item hmem hkind
      have hnot := List.filter_eq_nil_iff.mp (not_not.mp hanswered) item hmem
      simpa [hkind, queryOf] using hnot
  refine leads_call_bind .budget rfl .reserve fun answer hrun => ?_
  have honly := Session.reserveDeepSearchBudget_only identity (sessionAt host s₀ [])
  rw [hrun] at honly
  obtain ⟨budgetRound, count, reservations, hreserved⟩ := honly
  have hheld := congrArg SessionState.deepSupplementalEvidence hreserved
  have hgiven := congrArg Prod.fst hrun
  have hplace : answer = .reserved → GetsPlace host s₀ params workflow := by
    intro hanswer
    refine ⟨hlooks, ?_⟩
    rw [show searchIdentity params = identity from hidentity.symm]
    exact (congrArg Except.toOption hgiven).trans (congrArg some hanswer)
  rw [Session.reserveDeepSearchBudget_apply] at hgiven
  cases answer with
  | stale | limit => exact ends_pure _
  | reserved => exact searchWithBudget_rule he hidentity hworkflow hselected hvalid (hplace rfl) hheld
  | accepted | released =>
      split at hgiven
      · cases hgiven
      · split at hgiven
        · cases hgiven
        · cases hgiven

theorem searchTarget_rule {params : DeepSearchParams} {identity : DeepAttemptIdentity}
    {workflow : ActiveWorkflowContext} (he : e = .deepSearch params) (htarget : params.source = .target)
    (hidentity : identity = ⟨params.attemptId, params.sourceRoundId, .deepKnowledgeRetrieval⟩)
    (hlive : s₀.session.deepAttempt = some identity) (hworkflow : s₀.activeWorkflow = some workflow)
    (hempty : trim params.query ≠ "") (hlong : codePoints (trim params.query) ≤ deepSearchMaxQueryCodePoints) :
    Ends host files s₀ e [] (searchTarget host files identity params workflow
      (host.toLowerCase (trim params.query))) := by
  unfold searchTarget
  refine leads_ite (fun _ => ends_pure _) fun hnamed => leads_ite (fun _ => ends_pure _) fun _ => ?_
  dsimp only
  split
  · rename_i selected hmatching
    have hselected : selectedTarget? host params workflow = some selected := by
      simp only [selectedTarget?, htarget, if_true, hmatching]
    have hvalid : SearchIsValid host s₀ params workflow :=
      ⟨hlive.trans (congrArg some hidentity), hempty, hlong, fun _ => ⟨hnamed, by rw [hselected]; rfl⟩⟩
    exact searchSource_rule he hidentity hworkflow hselected hvalid
  · exact leads_get_bind fun s _ => askTarget_rule hlive

theorem forgeDeepSearch_rule {params : DeepSearchParams} (hstart : s₀.calls = [])
    (he : e = .deepSearch params) : Starts host files s₀ e (forgeDeepSearch host files params) := by
  refine starts_get_bind hstart (leads_ite (fun _ => ends_pure _) fun hlive => ?_)
  have hlive := not_not.mp hlive
  cases hworkflow : s₀.activeWorkflow with
  | none => exact ends_pure _
  | some workflow =>
      refine leads_ite (fun _ => ends_pure _) fun hempty => leads_ite (fun _ => ends_pure _) fun hlong => ?_
      have hlong := Nat.le_of_not_gt hlong
      refine leads_ite (fun htarget => searchTarget_rule he htarget rfl hlive hworkflow hempty hlong) fun hother => ?_
      exact searchSource_rule he rfl hworkflow (if_neg hother) ⟨hlive, hempty, hlong, fun h => absurd h hother⟩

/-! ### The end of a Deep step without a completion -/

/-- An accepted outcome is noted, and a restart of discovery is queued. -/
theorem noteDeepOutcome_rule {toolCallId toolName : String} {identity : DeepAttemptIdentity}
    {completion : DeepCallResult} {outcome : DeepResult} {state : ForgeUiState}
    (hlive : s₀.session.deepAttempt = some identity)
    (haccepted : ∀ ui accepted, completion = .accepted ui accepted → accepted = identity) :
    Stays host files s₀ e [.handleDeepResult identity outcome]
      (noteDeepOutcome toolCallId toolName identity completion outcome state) := by
  have hqueue : Stays host files s₀ e [.handleDeepResult identity outcome] (do
      if state.stage = .workflow .lightDiscovery then
        modify fun s => { s with pendingDiscoveryRestart := some ⟨toolCallId, toolName, identity⟩ }) :=
    leads_ite (fun _ => leads_modify fun _ hat => hat) fun _ => (quiet_pure _).stays
  cases completion with
  | stale expected received => exact hqueue
  | invalid ui errors => exact hqueue
  | accepted ui accepted =>
      cases outcome with
      | needsDecision decision => exact hqueue
      | retrievalCompleted ids summary => exact hqueue
      | understandingCompleted package => exact hqueue
      | needsDiscovery summary =>
          refine leads_bind (Q := fun _ s =>
            At host files s₀ e [.handleDeepResult identity (.needsDiscovery summary)] s.core) ?_ fun _ => hqueue
          obtain rfl := haccepted ui accepted rfl
          exact leads_of_ok fun s hat => ⟨_, _, rfl, .move hat.path (.discoveryNoted hlive hat.calls), hat.calls⟩

/-- A decision that is pending is put before the user again, and everything else is only shown. -/
theorem showDeepOutcome_rule {ctx : CommandContext} {result : ToolResult} :
    Ends host files s₀ e calls (showDeepOutcome ctx (sessionAt host s₀ calls).uiState result) := by
  unfold showDeepOutcome
  split
  · rename_i waitUser hstage hwait
    refine ends_bind (publishWaitUserCaught_rule (.inl ⟨hstage, by simp [hwait]⟩)) fun _ => closes_pure _
  · exact leads_quiet_bind (quiet_publishState _) fun _ => ends_pure _

theorem endDeepStep_rule {toolCallId toolName label : String} {identity : DeepAttemptIdentity}
    {outcome : DeepResult} {stale : ToolResult} {ctx : CommandContext}
    (hlive : s₀.session.deepAttempt = some identity)
    (houtcome : (∃ decision, outcome = .needsDecision decision) ∨ ∃ summary, outcome = .needsDiscovery summary) :
    Ends host files s₀ e [] (endDeepStep host toolCallId toolName label identity outcome stale ctx) := by
  have hsite : SubmitsDeepResult s₀ e outcome := by
    rcases houtcome with ⟨decision, rfl⟩ | ⟨summary, rfl⟩
    · exact .decision
    · exact .discovery
  refine leads_call_bind .deep rfl (.deepResult hlive hsite) fun completion hrun => ?_
  have hshown : Session.ShownDeep identity completion
      (sessionAt host s₀ [.handleDeepResult identity outcome]) := by
    rcases houtcome with ⟨decision, rfl⟩ | ⟨summary, rfl⟩
    · exact Session.handleNeedsDecision_shows identity decision hrun
    · exact Session.handleNeedsDiscovery_shows identity summary hrun
  rcases hshown with ⟨expected, received, rfl⟩ | rfl
  · exact ends_pure _
  · refine leads_stays_bind (noteDeepOutcome_rule hlive fun ui accepted h => by cases h; rfl) fun _ => ?_
    exact leads_stays_bind (restoreActiveTools_rule .deepResult) fun _ => showDeepOutcome_rule

/-! ### `forge_deep_retrieval_complete` -/

theorem completeRetrieval_rule {identity : DeepAttemptIdentity} {workflow : ActiveWorkflowContext}
    (he : e.completesRetrieval? = some identity) (hlive : s₀.session.deepAttempt = some identity)
    (hworkflow : s₀.activeWorkflow = some workflow) :
    Ends host files s₀ e [] (completeRetrieval host identity workflow) := by
  unfold completeRetrieval
  refine leads_get_bind fun s hat => ?_
  rw [hat.fresh.1]
  refine leads_call_bind .deep rfl (.completeRetrieval he hlive hworkflow) fun result hrun => ?_
  cases result with
  | stale expected received => exact ends_pure _
  | invalid state errors => exact ends_pure _
  | accepted state accepted =>
      have hphase := Session.completeDeepRetrieval_accepts hrun
      refine leads_stays_bind (activateDeepUnderstandingTools_rule (.retrieved he hlive) ?_) fun _ => ?_
      · rw [List.nil_append] at hphase
        rw [List.nil_append, hphase.2, hphase.1]
        rfl
      · refine leads_quiet_bind (quiet_publishState _) fun _ => ?_
        refine leads_quiet_bind (quiet_modify fun _ => rfl) fun _ => ?_
        exact leads_get_bind fun s _ => ends_pure _

theorem forgeDeepRetrievalComplete_rule {toolCallId attemptId sourceRoundId : String}
    {outcome : RetrievalOutcome} {ctx : CommandContext} (hstart : s₀.calls = [])
    (he : e = .deepRetrievalComplete toolCallId attemptId sourceRoundId outcome ctx) :
    Starts host files s₀ e
      (forgeDeepRetrievalComplete host toolCallId attemptId sourceRoundId outcome ctx) := by
  refine starts_get_bind hstart (leads_ite (fun _ => ends_pure _) fun _ =>
    leads_ite (fun _ => ends_pure _) fun hlive => ?_)
  have hlive := not_not.mp hlive
  cases hworkflow : s₀.activeWorkflow with
  | none => exact ends_pure _
  | some workflow =>
      refine leads_quiet_bind (quiet_requireBoundary _ _) fun enforceable => ?_
      refine leads_ite (fun _ => ends_pure _) fun _ => ?_
      cases outcome with
      | needsDecision decision =>
          exact leads_ite (fun _ => ends_pure _) fun _ => endDeepStep_rule hlive (.inl ⟨_, rfl⟩)
      | needsDiscovery summary => exact endDeepStep_rule hlive (.inr ⟨_, rfl⟩)
      | completed => exact completeRetrieval_rule (by rw [he]; rfl) hlive hworkflow

/-! ### `forge_deep_complete` -/

theorem stopHandOff_rule {state : ForgeUiState} {text reason : String} {error : Option String}
    {package : Option EvidencePackage} (h : RestoresTools s₀ e calls) :
    Ends host files s₀ e calls (stopHandOff host state text reason error package) :=
  leads_stays_bind (restoreActiveTools_rule h) fun _ =>
    leads_quiet_bind (quiet_publishState _) fun _ => ends_pure _

theorem handOffToContextBuild_rule {state : ForgeUiState} {package : EvidencePackage}
    {identity : DeepAttemptIdentity} {result : DeepResult} :
    Ends host files s₀ e [.handleDeepResult identity result] (handOffToContextBuild host files state package) := by
  unfold handOffToContextBuild
  refine leads_get_bind fun s _ => ?_
  split
  · rename_i workflow contextAttempt knowledgePackage _ _ _
    cases files.documentsBase workflow.rootDir with
    | error error => exact stopHandOff_rule .deepResult
    | ok baseHash =>
        refine leads_quiet_bind (quiet_attempt (quiet_buildInvocation _)) fun invocation => ?_
        cases invocation with
        | error error => exact stopHandOff_rule .deepResult
        | ok invocation =>
            refine leads_stays_bind (restoreActiveTools_rule .deepResult) fun _ => ?_
            refine leads_stays_bind (activateContextBuildTools_rule rfl) fun _ => ?_
            refine leads_quiet_bind (quiet_modify fun _ => rfl) fun _ => ?_
            exact leads_quiet_bind (quiet_publishState _) fun _ => ends_pure _
  · exact stopHandOff_rule .deepResult

/-- The package depends on the session and on what is kept across rounds only. -/
theorem understandingPackage_congr {s t : ExtensionState} (hsession : s.session = t.session)
    (hgrill : s.fetchedGrillEvidence = t.fetchedGrillEvidence)
    (hdeep : s.fetchedDeepSupplementalEvidence = t.fetchedDeepSupplementalEvidence)
    (hid : s.fallbackHumanDecisionId = t.fallbackHumanDecisionId)
    (hpremise : s.fallbackHumanPremise = t.fallbackHumanPremise) (round : GrillRound)
    (result : UnderstandingResult) :
    understandingPackage s round result = understandingPackage t round result := by
  have hevidence : packageEvidence s = packageEvidence t := by
    simp only [packageEvidence, hsession, hgrill, hdeep]
  have hpremises : packagePremises s = packagePremises t := by
    simp only [packagePremises, hsession, hpremise]
  have hdecisions : packageDecisions s result.decisions = packageDecisions t result.decisions := by
    simp only [packageDecisions, premiseOfDecision?, hsession, hpremises, hid, hpremise]
  have hexploratory : IsExploratory s round result ↔ IsExploratory t round result := by
    simp only [IsExploratory, hevidence, hpremises]
  simp only [understandingPackage, hevidence, hpremises, hdecisions, hexploratory]

theorem completeUnderstanding_rule {toolCallId attemptId sourceRoundId : String}
    {identity : DeepAttemptIdentity} {result : UnderstandingResult} {ctx : CommandContext}
    (he : e = .deepComplete toolCallId attemptId sourceRoundId (.completed result) ctx)
    (hlive : s₀.session.deepAttempt = some identity) :
    Ends host files s₀ e [] (completeUnderstanding host files identity result) := by
  refine leads_get_bind fun s hat => leads_ite (fun _ => ends_pure _) fun _ => ?_
  refine leads_fact_bind continueGrillRound_rule fun round hround => ?_
  have hcongr := understandingPackage_congr hat.fresh.1 hat.fresh_evidence.1 hat.fresh_evidence.2.1
    hat.fresh_evidence.2.2.1 hat.fresh_evidence.2.2.2 round result
  cases hpackage : understandingPackage s round result with
  | error error => exact ends_pure _
  | ok package =>
      have hin : handedPackage? s₀ e = some package := by
        rw [he, handedPackage?, show s₀.session.currentGrillRound = some round from hround, Option.bind_some,
          ← hcongr, hpackage]
        rfl
      dsimp only
      split
      · exact ends_pure _
      · refine leads_call_bind .deep rfl (.deepResult hlive (.package hin)) fun completion _ => ?_
        cases completion with
        | invalid state errors => exact ends_pure _
        | stale expected received => exact ends_pure _
        | accepted state accepted => exact handOffToContextBuild_rule

theorem forgeDeepComplete_rule {toolCallId attemptId sourceRoundId : String}
    {outcome : UnderstandingOutcome} {ctx : CommandContext} (hstart : s₀.calls = [])
    (he : e = .deepComplete toolCallId attemptId sourceRoundId outcome ctx) :
    Starts host files s₀ e
      (forgeDeepComplete host files toolCallId attemptId sourceRoundId outcome ctx) := by
  refine starts_get_bind hstart (leads_ite (fun _ => ends_pure _) fun hlive => ?_)
  have hlive := not_not.mp hlive
  refine leads_quiet_bind (quiet_requireBoundary _ _) fun enforceable => ?_
  refine leads_ite (fun _ => ends_pure _) fun _ => ?_
  cases outcome with
  | needsDecision decision =>
      exact leads_ite (fun _ => ends_pure _) fun _ => endDeepStep_rule hlive (.inl ⟨_, rfl⟩)
  | needsDiscovery summary => exact endDeepStep_rule hlive (.inr ⟨_, rfl⟩)
  | completed result => exact completeUnderstanding_rule he hlive

/-! ### `forge_context_complete` -/

/-- A question that is shown is put before the user again. -/
theorem askBuildQuestion_rule {ctx : CommandContext} {state : ForgeUiState} {result : ToolResult}
    (hrestores : RestoresTools s₀ e calls) (h : Session.ShowsDecision (sessionAt host s₀ calls)) :
    Ends host files s₀ e calls (askBuildQuestion host ctx state result) := by
  refine leads_stays_bind (restoreActiveTools_rule hrestores) fun _ => ?_
  cases state.waitUser with
  | none => exact leads_quiet_bind (quiet_publishState _) fun _ => ends_pure _
  | some waitUser => exact ends_bind (publishWaitUser_rule (.inl h)) fun _ => closes_pure _

theorem stopAdrBuild_rule {state : ForgeUiState} {result : ToolResult} (h : RestoresTools s₀ e calls) :
    Ends host files s₀ e calls (stopAdrBuild host state result) :=
  leads_stays_bind (restoreActiveTools_rule h) fun _ =>
    leads_quiet_bind (quiet_publishState _) fun _ => ends_pure _

theorem handOffToAdrBuild_rule {state : ForgeUiState} {identity : ContextBuildIdentity}
    {completion : ContextBuildCompletion} :
    Ends host files s₀ e [.completeContextBuild identity completion] (handOffToAdrBuild host files state) := by
  unfold handOffToAdrBuild
  refine leads_get_bind fun s _ => ?_
  split
  · refine leads_quiet_bind (quiet_attempt (quiet_buildInvocation _)) fun invocation => ?_
    cases invocation with
    | error error => exact stopAdrBuild_rule .contextResult
    | ok invocation =>
        refine leads_stays_bind (activateAdrBuildTools_rule rfl) fun _ => ?_
        refine leads_quiet_bind (quiet_modify fun _ => rfl) fun _ => ?_
        exact leads_quiet_bind (quiet_publishState _) fun _ => ends_pure _
  · exact stopAdrBuild_rule .contextResult

theorem quiet_replayContextBuild : Quiet replayContextBuild := by
  refine quiet_modify fun s => ?_
  split
  · dsimp only
    split
    · rfl
    · rfl
  · rfl

theorem forgeContextComplete_rule {attemptId sourceRoundId : String}
    {outcome : ContextBuildCompletion} {ctx : CommandContext} (hstart : s₀.calls = []) :
    Starts host files s₀ e (forgeContextComplete host files attemptId sourceRoundId outcome ctx) := by
  refine starts_of_ends hstart (leads_quiet_bind (quiet_requireBoundary _ _) fun enforceable => ?_)
  refine leads_ite (fun _ => ends_pure _) fun _ => ?_
  refine leads_call_bind .context rfl .completeContext fun result hrun => ?_
  cases result with
  | stale expected received => exact leads_quiet_bind quiet_replayContextBuild fun _ => ends_pure _
  | invalid state errors => exact ends_pure _
  | ambiguous state accepted =>
      refine leads_quiet_bind (quiet_modify fun _ => rfl) fun _ => ?_
      exact askBuildQuestion_rule .contextResult (Session.completeContextBuild_shows hrun)
  | accepted state accepted =>
      exact leads_quiet_bind (quiet_modify fun _ => rfl) fun _ => handOffToAdrBuild_rule

/-! ### `forge_adr_complete` -/

/-- The session ends the workflow, or it refuses to. -/
theorem finalizeAdrBuild_rule {identity : AdrBuildIdentity} {candidate : AdrBuildCandidate}
    {commit : CommitDocumentsResult} :
    Turn.Leads (fun s => At host files s₀ e [.prepareAdrBuild identity candidate] s.core)
      (sessionState.finalizeAdrBuild identity commit)
      (fun result s => match result with
        | .accepted _ _ => ∃ c, At host files s₀ e [.prepareAdrBuild identity candidate] c ∧
            s.core = c.call host (.finalizeAdrBuild identity commit)
        | _ => Path host files s₀ e s.core)
      fun s => Path host files s₀ e s.core := by
  intro s hat
  let finalize : SessionOp := .finalizeAdrBuild identity commit
  let run := Session.finalizeAdrBuild identity commit
  have hcore : (call finalize run s).2.core = s.core.call host finalize := core_call .adr rfl s
  have hout : (call finalize run s).1 = (run s.session).1 := rfl
  have hstep : (sessionStep host.digest finalize s.session).1 = (run s.session).1.map .adr :=
    congrArg Prod.fst (map_apply SessionResult.adr run s.session)
  have hrefuse : (∀ ui accepted, (run s.session).1 ≠ .ok (.accepted ui accepted)) →
      Path host files s₀ e (call finalize run s).2.core := by
    intro hrefused
    rw [hcore]
    refine .move hat.path (.called ?_)
    rw [show s.core.calls = _ from hat.calls]
    refine .finalizeRefused fun ui accepted htaken => ?_
    rw [← hat.session, hstep] at htaken
    cases hresult : (run s.session).1 with
    | error error => rw [hresult] at htaken; cases htaken
    | ok result =>
        rw [hresult, Except.map, Except.ok.injEq, SessionResult.adr.injEq] at htaken
        exact hrefused ui accepted (hresult.trans (congrArg Except.ok htaken))
  rw [← hout] at hrefuse
  refine ⟨fun result t hrun => ?_, fun error t hrun => ?_⟩
  · change call finalize run s = _ at hrun
    rw [hrun] at hcore hrefuse
    cases result with
    | accepted ui accepted => exact ⟨s.core, hat, hcore⟩
    | stale expected received => exact hrefuse (by simp)
    | invalid ui errors => exact hrefuse (by simp)
    | ambiguous ui accepted => exact hrefuse (by simp)
  · change call finalize run s = _ at hrun
    rw [hrun] at hrefuse
    exact hrefuse (by simp)

theorem finalizeDocuments_rule {identity : AdrBuildIdentity} {candidate : AdrBuildCandidate}
    {commit : CommitDocumentsResult} :
    Ends host files s₀ e [.prepareAdrBuild identity candidate] (finalizeDocuments host identity commit) := by
  refine leads_bind finalizeAdrBuild_rule fun result => ?_
  cases result with
  | stale expected received => exact closes_pure _
  | invalid ui errors => exact closes_pure _
  | ambiguous ui accepted => exact closes_pure _
  | accepted ui accepted =>
      refine leads_modify_bind (M := fun s => ∃ c, At host files s₀ e [.prepareAdrBuild identity candidate] c ∧
        s.core = c.call host (.finalizeAdrBuild identity commit)) (fun _ hs => hs) ?_
      refine leads_bind (Q := fun _ s => Path host files s₀ e s.core) ?_ fun _ =>
        leads_bind (quiet_publishState _).closes fun _ => closes_pure _
      refine leads_of_ok fun s hs => ⟨_, _, restoreActiveTools_apply host s, ?_⟩
      obtain ⟨c, hat, hcore⟩ := hs
      rw [restored_core, hcore]
      exact .move hat.path (.finalized hat.calls)

theorem commitDocuments_rule {identity : AdrBuildIdentity} {candidate : AdrBuildCandidate} :
    Ends host files s₀ e [.prepareAdrBuild identity candidate] (commitDocuments host files identity) := by
  unfold commitDocuments
  refine leads_get_bind fun s _ => ?_
  split
  · refine leads_quiet_bind (quiet_emit _) fun _ => ?_
    split
    · exact ends_throw _
    · exact ends_pure _
    · exact ends_pure _
    · exact ends_pure _
    · exact finalizeDocuments_rule
  · exact ends_pure _

theorem forgeAdrComplete_rule {attemptId sourceRoundId : String} {outcome : AdrOutcome}
    {ctx : CommandContext} (hstart : s₀.calls = []) :
    Starts host files s₀ e (forgeAdrComplete host files attemptId sourceRoundId outcome ctx) := by
  refine starts_of_ends hstart (leads_quiet_bind (quiet_requireBoundary _ _) fun enforceable => ?_)
  refine leads_ite (fun _ => ends_pure _) fun _ => ?_
  refine leads_quiet_bind (quiet_modify fun _ => rfl) fun _ => ?_
  cases outcome with
  | ambiguous ambiguity =>
      refine leads_call_bind .adr rfl .askAdr fun result hrun => ?_
      cases result with
      | stale expected received => exact ends_pure _
      | invalid state errors => exact ends_pure _
      | ambiguous state accepted => exact askBuildQuestion_rule .adrQuestion (Session.requireAdrDecision_shows hrun)
      | accepted state accepted => exact absurd hrun Session.requireAdrDecision_ne_accepted
  | completed candidate =>
      refine leads_call_bind .adr rfl .prepareAdr fun result hrun => ?_
      cases result with
      | stale expected received => exact ends_pure _
      | invalid state errors => exact ends_pure _
      | ambiguous state accepted => exact absurd hrun Session.prepareAdrBuild_ne_ambiguous
      | accepted state accepted => exact commitDocuments_rule

end Extension

end ForgeRuntime
