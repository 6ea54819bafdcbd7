import ForgeRuntime.Extension.Runs

/-!
# The evidence lock

An accepted `forge_deep_retrieval_complete` locks the evidence: from then on every package of
`forge_deep_complete` is made of what was held at that moment, until the next acceptance, a new snapshot or a
reset.

* `move_keeps_lock` — which operations of the session leave the lock alone;
* `completesRetrieval_step` — the step that locks;
* `evidence_lock` — what the packages are made of.
-/

namespace ForgeRuntime

open EventDriven EventDriven.Machine EventDriven.Text EventDriven.Turn

variable {host : Host} {files : Files} {s₀ : ExtensionState} {e : Event}

/-! ### The lock in the session -/

/-- The snapshot that the session works on. -/
def SessionState.snapshotRef? (s : SessionState) : Option Nat := s.currentGrillRound.map (·.snapshot.ref)

/-- The operation replaces neither the lock nor the snapshot. -/
structure KeepsLock (s : SessionState) (op : SessionOp) : Prop where
  not_reset : op ≠ .reset
  same_snapshot : ∀ request snapshot, op = .startGrillRound request snapshot →
    s.snapshotRef? = some snapshot.ref
  no_retrieval : op.retrievalIdentity? = none

theorem move_keeps_lock {digest : String → String} {s t : SessionState} {op : SessionOp}
    {r : SessionOutcome} (h : SessionMove digest s op r t) (hop : KeepsLock s op) :
    t.lockedDeepEvidence = s.lockedDeepEvidence ∧ t.snapshotRef? = s.snapshotRef? := by
  cases h with
  | retrievalEnded hid hlive horch summary ids locked => exact absurd (hid.symm.trans hop.no_retrieval) (by simp)
  | answered hr horch hpending hkind hguard hcontinues => cases hcontinues <;> exact ⟨rfl, rfl⟩
  | wasReset hr => exact absurd rfl hop.not_reset
  | roundStarted hr first hfirst =>
      have hsame := hop.same_snapshot _ _ rfl
      have hnot : first = false := by
        rw [hfirst]
        simpa [SessionState.snapshotRef?] using hsame
      subst hnot
      exact ⟨rfl, hsame.symm⟩
  | _ => exact ⟨rfl, rfl⟩

/-- Operations that leave the lock alone, one after the other. -/
theorem finish_keeps_lock {digest : String → String} {s : SessionState} {ops : List SessionOp}
    (hops : ∀ op ∈ ops, KeepsLock s op) :
    (finish (sessionStep digest) s ops).lockedDeepEvidence = s.lockedDeepEvidence := by
  let Same (t : SessionState) : Prop :=
    t.lockedDeepEvidence = s.lockedDeepEvidence ∧ t.snapshotRef? = s.snapshotRef?
  have hstep : ∀ t op, Same t → KeepsLock s op → Same (sessionStep digest op t).2 := by
    intro t op hsame hop
    have hmove := move_keeps_lock (step_move digest t op)
      ⟨hop.not_reset, fun request snapshot h => hsame.2.trans (hop.same_snapshot _ _ h), hop.no_retrieval⟩
    exact ⟨hmove.1.trans hsame.1, hmove.2.trans hsame.2⟩
  have hsame : Same (finish (sessionStep digest) s ops) :=
    holds_at_finish hstep ⟨rfl, rfl⟩ (admissible_of_mem hops s)
  exact hsame.1

/-! ### The step that locks -/

/-- The evidence that an acceptance locks: the fetched candidates of the snapshot, and the supplemental
evidence. -/
def heldEvidence (s : ExtensionState) (workflow : ActiveWorkflowContext) : LockedDeepEvidence :=
  ⟨(Extension.fetchedCandidates s.session workflow.snapshot).map Extension.candidateEvidence,
    s.session.deepSupplementalEvidence.values⟩

/-- A retrieval completion was accepted. -/
def AcceptsRetrieval (st : ExtensionStepRecord) : Prop :=
  st.input.event.completesRetrieval?.isSome = true ∧ st.output.status? = some .accepted

instance (st : ExtensionStepRecord) : Decidable (AcceptsRetrieval st) :=
  inferInstanceAs (Decidable (st.input.event.completesRetrieval?.isSome = true ∧ _))

namespace Extension

/-- What a completion of the retrieval leaves of the lock. -/
def LocksIfAccepted (s : ExtensionState) (reply : Reply) (t : ExtensionState) : Prop :=
  if reply.result?.bind (·.details.status) = some .accepted then
    ∃ workflow, s.activeWorkflow = some workflow ∧
      t.session.lockedDeepEvidence = some (heldEvidence s workflow)
  else t.session.lockedDeepEvidence = s.session.lockedDeepEvidence

/-- Until it calls the session, a completion leaves the session and the workflow as they are. -/
def SameHolding (s t : ExtensionState) : Prop :=
  t.session = s.session ∧ t.activeWorkflow = s.activeWorkflow

theorem locksIfAccepted_refused {s t : ExtensionState} {result : ToolResult}
    (hstatus : result.details.status ≠ some .accepted) (h : SameHolding s t) :
    LocksIfAccepted s (.tool result) t := by
  rw [LocksIfAccepted, if_neg (by simpa [Reply.result?] using hstatus), h.1]

theorem locksIfAccepted_accepted {s t : ExtensionState} {result : ToolResult}
    {workflow : ActiveWorkflowContext} (hstatus : result.details.status = some .accepted)
    (hworkflow : s.activeWorkflow = some workflow)
    (h : t.session.lockedDeepEvidence = some (heldEvidence s workflow)) :
    LocksIfAccepted s (.tool result) t := by
  rw [LocksIfAccepted, if_pos (by simpa [Reply.result?] using hstatus)]
  exact ⟨workflow, hworkflow, h⟩

theorem callRetrieval_locks {s : ExtensionState} {identity : DeepAttemptIdentity}
    {workflow : ActiveWorkflowContext} :
    Turn.Leads (SameHolding s) (sessionState.completeDeepRetrieval
        ((fetchedCandidates s.session workflow.snapshot).map candidateEvidence) identity)
      (fun result t => match result with
        | .accepted _ _ => t.session.lockedDeepEvidence = some (heldEvidence s workflow)
        | _ => SameHolding s t)
      fun t => t.session.lockedDeepEvidence = s.session.lockedDeepEvidence := by
  let inherited := (fetchedCandidates s.session workflow.snapshot).map candidateEvidence
  intro t ht
  let op : SessionOp := .completeDeepRetrieval inherited none identity
  let run := Session.completeDeepRetrieval inherited none identity
  have hcall : call op run t =
      ((run s.session).1, { t with session := (run s.session).2, calls := t.calls ++ [op] }) := by
    simp only [call, ht.1]
  change (∀ result u, call op run t = (.ok result, u) → _) ∧ ∀ error u, call op run t = (.error error, u) → _
  rw [hcall]
  rcases Session.completeDeepRetrieval_cases inherited none identity s.session with ⟨r, hrun, hnot⟩ | ⟨ui, hrun⟩
  · rw [show run s.session = _ from hrun]
    refine ⟨fun result u hout => ?_, fun error u hout => ?_⟩
    · cases hout
      cases result with
      | accepted ui accepted => exact absurd rfl (hnot ui accepted)
      | stale expected received => exact ⟨rfl, ht.2⟩
      | invalid ui errors => exact ⟨rfl, ht.2⟩
    · cases hout
      rfl
  · rw [show run s.session = _ from hrun]
    refine ⟨fun result u hout => ?_, fun error u hout => ?_⟩
    · cases hout
      rfl
    · cases hout

theorem completeRetrieval_locks {s : ExtensionState} {identity : DeepAttemptIdentity}
    {workflow : ActiveWorkflowContext} (hworkflow : s.activeWorkflow = some workflow) :
    Turn.Leads (SameHolding s) (completeRetrieval host identity workflow) (LocksIfAccepted s)
      fun t => t.session.lockedDeepEvidence = s.session.lockedDeepEvidence := by
  refine leads_get_bind fun t ht => ?_
  rw [ht.1]
  refine leads_bind callRetrieval_locks fun result => ?_
  cases result with
  | stale expected received =>
      exact leads_pure fun t ht => locksIfAccepted_refused (by simp [staleRetrievalCompletion]) ht
  | invalid ui errors =>
      exact leads_pure fun t ht => locksIfAccepted_refused (by simp [invalidRetrievalCompletion]) ht
  | accepted ui accepted =>
      refine leads_of_ok fun t ht => ⟨_, _, rfl, ?_⟩
      exact locksIfAccepted_accepted rfl hworkflow ht

theorem forgeDeepRetrievalComplete_locks {s : ExtensionState} {toolCallId attemptId sourceRoundId : String}
    (ctx : CommandContext) :
    Turn.Leads (· = s) (forgeDeepRetrievalComplete host toolCallId attemptId sourceRoundId .completed ctx)
      (LocksIfAccepted s) fun t => t.session.lockedDeepEvidence = s.session.lockedDeepEvidence := by
  have hrefuse : ∀ result : ToolResult, result.details.status ≠ some .accepted →
      Turn.Leads (SameHolding s) (pure (Reply.tool result) : Ext Reply) (LocksIfAccepted s)
        fun t => t.session.lockedDeepEvidence = s.session.lockedDeepEvidence :=
    fun result hstatus => leads_pure fun t ht => locksIfAccepted_refused hstatus ht
  refine leads_mono (P := SameHolding s) ?_ (fun t ht => ht ▸ ⟨rfl, rfl⟩) fun _ _ h => h
  refine leads_get_bind fun t ht => leads_ite (fun _ => hrefuse _ (by simp [mixedBatchRejected])) fun _ => ?_
  refine leads_ite (fun _ => hrefuse _ (by simp [staleRetrievalCompletion])) fun _ => ?_
  rw [ht.2]
  cases hworkflow : s.activeWorkflow with
  | none =>
      refine leads_pure fun t ht => ?_
      rw [LocksIfAccepted, if_neg (by simp [Reply.result?]), ht.1]
  | some workflow =>
      refine leads_bind (Q := fun _ => SameHolding s) ?_ fun enforceable => ?_
      · refine leads_of_ok fun t ht => ?_
        unfold requireDeepToolBoundary requireBoundary
        cases canEnforceToolBoundary host && host.sendUserMessage with
        | true => exact ⟨_, _, rfl, ht⟩
        | false => exact ⟨_, _, rfl, ht⟩
      · refine leads_ite (fun _ => hrefuse _ (by simp [deepBoundaryRefused])) fun _ => ?_
        exact completeRetrieval_locks hworkflow

end Extension

/-- The call that completes a retrieval. -/
theorem exists_deepRetrievalComplete (he : e.completesRetrieval?.isSome = true) :
    ∃ toolCallId attemptId sourceRoundId ctx,
      e = .deepRetrievalComplete toolCallId attemptId sourceRoundId .completed ctx := by
  cases e with
  | deepRetrievalComplete toolCallId attemptId sourceRoundId outcome ctx =>
      cases outcome with
      | completed => exact ⟨toolCallId, attemptId, sourceRoundId, ctx, rfl⟩
      | needsDecision decision => cases he
      | needsDiscovery summary => cases he
  | _ => cases he

/-- **The step that locks.** -/
theorem completesRetrieval_step (host : Host) {o : Occurrence} (s : ExtensionState)
    (he : o.event.completesRetrieval?.isSome = true) :
    if (extensionStep host o s).1.status? = some .accepted then
      ∃ workflow, s.activeWorkflow = some workflow ∧
        (extensionStep host o s).2.session.lockedDeepEvidence = some (heldEvidence s workflow)
    else (extensionStep host o s).2.session.lockedDeepEvidence = s.session.lockedDeepEvidence := by
  obtain ⟨toolCallId, attemptId, sourceRoundId, ctx, he⟩ := exists_deepRetrievalComplete he
  have hlocks : Turn.Leads (· = s.cleared) (Extension.handler host o.files o.event)
      (Extension.LocksIfAccepted s.cleared)
      fun t => t.session.lockedDeepEvidence = s.session.lockedDeepEvidence := by
    rw [he]
    exact Extension.forgeDeepRetrievalComplete_locks ctx
  rcases hrun : Extension.handler host o.files o.event s.cleared with ⟨error | reply, t⟩
  · rw [extensionStep_eq hrun]
    exact (hlocks s.cleared rfl).2 error t hrun
  · rw [extensionStep_eq hrun]
    exact (hlocks s.cleared rfl).1 reply t hrun

/-! ### The other steps -/

/-- A session operation of a question or a request for discovery ends no retrieval. -/
theorem submitsDeepResult_retrieval {identity : DeepAttemptIdentity} {result : DeepResult}
    (h : SubmitsDeepResult s₀ e result) :
    (SessionOp.handleDeepResult identity result).retrievalIdentity? = none := by
  cases h <;> rfl

/-- Only a completion of the retrieval ends it. -/
theorem callOf_retrieval {op : SessionOp} (h : CallOf host s₀ e op) (he : e.completesRetrieval? = none) :
    op.retrievalIdentity? = none := by
  cases h with
  | site hsite =>
      cases hsite with
      | completeRetrieval hcompletes => exact absurd (he.symm.trans hcompletes) (by simp)
      | deepResult hlive hresult => exact submitsDeepResult_retrieval hresult
      | _ => rfl
  | _ => rfl

/-- The operation takes a new snapshot or resets the session. -/
def SessionOp.renewsEvidence (s : SessionState) : SessionOp → Bool
  | .reset => true
  | .startGrillRound _ snapshot => decide (s.snapshotRef? ≠ some snapshot.ref)
  | _ => false

/-- A step takes a new snapshot or resets the session. -/
def RenewsEvidence (st : ExtensionStepRecord) : Prop :=
  st.output.calls.any (·.renewsEvidence st.before.session) = true

instance (st : ExtensionStepRecord) : Decidable (RenewsEvidence st) := instDecidableEqBool _ _

/-- **The other steps leave the lock alone.** -/
theorem step_keeps_lock {st : ExtensionStepRecord} (hst : st = extensionStepAt host st.before st.input)
    (haccepts : ¬ AcceptsRetrieval st) (hrenews : ¬ RenewsEvidence st) :
    st.after.session.lockedDeepEvidence = st.before.session.lockedDeepEvidence := by
  obtain ⟨s, o, output, after⟩ := st
  obtain ⟨rfl, rfl⟩ : output = (extensionStep host o s).1 ∧ after = (extensionStep host o s).2 := by
    simpa [stepAt] using hst
  dsimp only
  by_cases he : o.event.completesRetrieval?.isSome = true
  · have hlocks := completesRetrieval_step host s he
    rw [if_neg fun hstatus => haccepts ⟨he, hstatus⟩] at hlocks
    exact hlocks
  · have hnone : o.event.completesRetrieval? = none := by simpa using he
    rw [extensionStep_session]
    refine finish_keeps_lock fun op hop => ⟨?_, ?_, callOf_retrieval (extensionStep_callOf hop) hnone⟩
    · rintro rfl
      exact hrenews (List.any_eq_true.mpr ⟨_, hop, rfl⟩)
    · rintro request snapshot rfl
      exact not_not.mp fun hne =>
        hrenews (List.any_eq_true.mpr ⟨_, hop, decide_eq_true hne⟩)

/-! ### Packages -/

/-- The evidence of a package that comes from one source. -/
def EvidencePackage.evidenceFrom (package : EvidencePackage) (origin : EvidenceOrigin) :
    List EvidenceInput :=
  (package.evidence.filter fun item => decide (item.origin = origin)).map (·.toEvidenceInput)

theorem filter_origin (items : List EvidenceInput) (origin other : EvidenceOrigin) :
    ((items.map fun item => (⟨item, origin⟩ : Evidence)).filter fun item => decide (item.origin = other)) =
      if origin = other then items.map fun item => ⟨item, origin⟩ else [] := by
  split
  case isTrue h => simp [h]
  case isFalse h => simp [h]

theorem evidenceFrom_createEvidencePackage (input : EvidencePackageInput) :
    (createEvidencePackage input).evidenceFrom .grill = input.inherited ∧
      (createEvidencePackage input).evidenceFrom .deepRetrieval = input.supplemental ∧
      (createEvidencePackage input).evidenceFrom .humanPremise = input.humanPremise := by
  simp [EvidencePackage.evidenceFrom, createEvidencePackage, List.filter_append, filter_origin,
    Function.comp_def]

theorem eq_of_guarded {c : Prop} [Decidable c] {error : String} {a b : EvidencePackage}
    (h : (if ¬ c then .error error else .ok a : Except String EvidencePackage) = .ok b) : a = b := by
  split at h
  · cases h
  · exact Except.ok.inj h

/-- A package is made of the evidence of the package, and of the premises. -/
theorem handedPackage_evidence {package : EvidencePackage} (h : handedPackage? s₀ e = some package) :
    package.evidenceFrom .grill = (Extension.packageEvidence s₀).1 ∧
      package.evidenceFrom .deepRetrieval = (Extension.packageEvidence s₀).2 ∧
      package.evidenceFrom .humanPremise = Extension.packagePremises s₀ := by
  unfold handedPackage? at h
  split at h
  · obtain ⟨round, -, hbuilt⟩ := Option.bind_eq_some_iff.mp h
    rename_i result _
    cases hresult : Extension.understandingPackage s₀ round result with
    | error error => simp [hresult, Except.toOption] at hbuilt
    | ok built =>
        obtain rfl : built = package := by simpa [hresult, Except.toOption] using hbuilt
        obtain rfl := eq_of_guarded hresult
        exact evidenceFrom_createEvidencePackage _
  · cases h

/-- **The evidence lock.**  After an accepted completion of the retrieval, and until the next one, a new
snapshot or a reset, every package that `forge_deep_complete` builds has from Grill exactly the candidates
that had been fetched, and from Deep Retrieval exactly the supplemental evidence, as they were held when the
completion was accepted. -/
theorem evidence_lock (host : Host) (tools : List String) (os : List Occurrence)
    {pre mid post : List ExtensionStepRecord} {accepting use : ExtensionStepRecord}
    (hrun : extensionRun host tools os = pre ++ accepting :: (mid ++ use :: post))
    (haccepts : AcceptsRetrieval accepting)
    (hkept : ∀ st ∈ mid, ¬ AcceptsRetrieval st ∧ ¬ RenewsEvidence st) {package : EvidencePackage}
    (hpackage : handedPackage? use.before use.input.event = some package) :
    ∃ workflow, accepting.before.activeWorkflow = some workflow ∧
      package.evidenceFrom .grill =
        (Extension.fetchedCandidates accepting.before.session workflow.snapshot).map
          Extension.candidateEvidence ∧
      package.evidenceFrom .deepRetrieval = accepting.before.session.deepSupplementalEvidence.values := by
  have haccepting := (trace_split hrun).1
  have hlocked := completesRetrieval_step host accepting.before haccepts.1
  rw [haccepting] at haccepts
  have hstatus : (extensionStep host accepting.input accepting.before).1.status? = some .accepted := haccepts.2
  rw [if_pos hstatus] at hlocked
  obtain ⟨workflow, hworkflow, hlock⟩ := hlocked
  have huse : use.before.session.lockedDeepEvidence = some (heldEvidence accepting.before workflow) := by
    refine holds_until (J := fun s => s.session.lockedDeepEvidence = some (heldEvidence accepting.before workflow))
      hrun ?_ fun st hst hstep hbefore => ?_
    · rw [haccepting]
      exact hlock
    · rw [← hbefore]
      exact step_keeps_lock hstep (hkept st hst).1 (hkept st hst).2
  have hevidence := handedPackage_evidence hpackage
  rw [Extension.packageEvidence, huse] at hevidence
  exact ⟨workflow, hworkflow, hevidence.1, hevidence.2.1⟩

/-- A late search, and a Deep step that is cancelled and taken up again. -/
def cancelAndContinue : List Event :=
  [.deepSearch ⟨"deep-1", "grill-1", "a", .wiki, none⟩, .command "cancel" sampleCtx,
    .command "continue" sampleCtx]

def completeSecondAttempt : Event :=
  .deepComplete "call-2" "deep-2" "grill-1" (.completed (sampleUnderstanding [sampleCandidateId])) sampleCtx

theorem evidence_lock_over_cancel :
    ∃ package, handedPackage? (sampleAfter (runToRetrieval ++ acceptRetrieval :: cancelAndContinue))
        completeSecondAttempt = some package ∧
      (package.evidenceFrom .grill).map (·.evidenceId) = [sampleCandidateId] ∧
      (package.evidenceFrom .deepRetrieval).map (·.source) = ["b.md"] := by
  obtain ⟨package, hpackage⟩ : ∃ package, handedPackage? (sampleAfter (runToRetrieval ++
      acceptRetrieval :: cancelAndContinue)) completeSecondAttempt = some package :=
    Option.isSome_iff_exists.mp (by decide +kernel)
  obtain ⟨workflow, hworkflow, hgrill, hdeep⟩ := evidence_lock sampleHost sampleTools _
    (sampleRun_split_two runToRetrieval cancelAndContinue [] acceptRetrieval completeSecondAttempt)
    ⟨rfl, by decide +kernel⟩ (by decide +kernel) (by rwa [sampleStep_before, sampleStep_event])
  rw [sampleStep_before] at hworkflow hgrill hdeep
  have hids : ((sampleAfter runToRetrieval).activeWorkflow.map fun workflow =>
      ((Extension.fetchedCandidates (sampleAfter runToRetrieval).session workflow.snapshot).map
        Extension.candidateEvidence).map (·.evidenceId)) = some [sampleCandidateId] := by
    decide +kernel
  rw [hworkflow] at hids
  refine ⟨package, hpackage, ?_, ?_⟩
  · rw [hgrill]
    exact Option.some.inj hids
  · rw [hdeep]
    decide +kernel

end ForgeRuntime
