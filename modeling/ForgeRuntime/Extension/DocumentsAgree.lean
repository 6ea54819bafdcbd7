import ForgeRuntime.Artifacts.CompareAndSwap
import ForgeRuntime.Extension.ToolList

/-!
# The documents and the session agree

`forge_adr_complete` takes the last candidate, commits the documents, and ends the workflow.  The tool and the commit
can both stop half-way: the candidate may be refused, a question may be asked, an input may be missing, the base may be
another one, and calls to the file system may fail.  However it goes, the session comes to `TO_SPEC` in exactly the
calls that write the documents, and these are the ones that it renders from what it holds.

* `CommitsOn` — the commit of a step is run on the disk;
* `forgeAdrComplete_outcome` — the commit that the tool asks for, and when the session ends the workflow;
* `documents_and_session_agree` — **all documents are written and the workflow ends, or neither**.
-/

namespace ForgeRuntime

open EventDriven EventDriven.Machine EventDriven.Program EventDriven.Text EventDriven.Turn

/-! ### The commit of a step -/

/-- The commit that an effect asks for. -/
def Effect.commitRequest? : Effect → Option CommitDocumentsRequest
  | .commitDocuments rootDir baseHash documents => some ⟨rootDir, baseHash, documents⟩
  | _ => none

/-- The commit that a step asks for. -/
def commitRequest? (effects : List Effect) : Option CommitDocumentsRequest := effects.findSome? Effect.commitRequest?

theorem commitRequest_append {effects : List Effect} (h : commitRequest? effects = none) (effect : Effect) :
    commitRequest? (effects ++ [effect]) = effect.commitRequest? := by
  rw [commitRequest?, List.findSome?_append, show effects.findSome? Effect.commitRequest? = none from h]
  simp

theorem commitRequest_quiet (effects : List Effect) {effect : Effect} (h : effect.commitRequest? = none) :
    commitRequest? (effects ++ [effect]) = commitRequest? effects := by
  rw [commitRequest?, List.findSome?_append]
  simp [h, commitRequest?]

/-- **The commit of a step is the program**, run on the disk where the calls that `mayFail` allows may fail; a step
without a commit leaves the disk. -/
structure CommitsOn (sha256 : List UInt8 → String) (token : String) (mayFail : FileCall → Prop) (files : Files)
    (effects : List Effect) (disk disk' : Disk) : Prop where
  runs : ∀ request, commitRequest? effects = some request →
    Runs (FileSystem mayFail) (commitDocumentsBundle sha256 token request) disk
      (files.commitBundle request.rootDir request.expectedBaseHash request.documents) disk'
  stays : commitRequest? effects = none → disk' = disk

namespace Extension

variable {host : Host} {files : Files} {s₀ : ExtensionState}

/-! ### Code that does not commit -/

/-- No commit has been asked for, and the workflow has not come to its end. -/
def NoCommit (s₀ s : ExtensionState) : Prop :=
  commitRequest? s.effects = none ∧ (s.session.orchestrator = some .toSpec → s₀.session.orchestrator = some .toSpec)

theorem noCommit_modify {g : ExtensionState → ExtensionState} (hsession : ∀ s, (g s).session = s.session)
    (heffects : ∀ s, (g s).effects = s.effects) : Keeps (NoCommit s₀) (modify g : Ext PUnit) := by
  intro s hs
  unfold NoCommit at hs ⊢
  rw [modify_apply, hsession, heffects]
  exact hs

theorem noCommit_emit {effect : Effect} (h : effect.commitRequest? = none) : Keeps (NoCommit s₀) (emit effect) := by
  intro s hs
  exact ⟨(commitRequest_append hs.1 effect).trans h, hs.2⟩

theorem noCommit_restoreActiveTools : Keeps (NoCommit s₀) (restoreActiveTools host) := by
  intro s hs
  rw [restoreActiveTools_apply]
  unfold NoCommit at hs ⊢
  rw [restored_session]
  have heffects : (restored host s).effects = s.effects := by
    unfold restored
    cases s.savedActiveTools <;> rfl
  rw [heffects]
  exact hs

/-- A call of the session that does not finalize. -/
theorem noCommit_call {op : SessionOp} {α : Type} {run : Session α} (wrap : α → SessionResult)
    (hop : Session.runOp host.digest op = wrap <$> run) (hfinal : ∀ identity commit, op ≠ .finalizeAdrBuild identity commit) :
    Keeps (NoCommit s₀) (call op run) := by
  intro s hs
  have hsession : (call op run s).2.session = (sessionStep host.digest op s.session).2 :=
    congrArg Core.session (core_call wrap hop s)
  refine ⟨hs.1, fun hend => ?_⟩
  rw [hsession] at hend
  rcases toSpec_of_step hend with hbefore | ⟨identity, commit, ui, accepted, hfinalized, -⟩
  · exact hs.2 hbefore
  · exact absurd hfinalized (hfinal identity commit)

theorem noCommit_releaseUiLease (key : DecisionKey) : Keeps (NoCommit s₀) (releaseUiLease key) :=
  noCommit_modify (fun _ => rfl) fun _ => rfl

theorem noCommit_handleWaitUserState (ctx : CommandContext) (state : ForgeUiState) (key : DecisionKey)
    (reply : Option ToolResult) (catches : Bool) :
    Keeps (NoCommit s₀) (handleWaitUserState ctx state key reply catches) := by
  refine keeps_bind (noCommit_emit rfl) fun _ => ?_
  split
  · refine keeps_ite (keeps_bind ?_ fun _ => keeps_pure _) (keeps_bind (noCommit_releaseUiLease _) fun _ => keeps_pure _)
    exact keeps_bind (noCommit_emit rfl) fun _ => noCommit_modify (fun _ => rfl) fun _ => rfl
  · exact keeps_bind (noCommit_releaseUiLease _) fun _ => keeps_pure _

theorem noCommit_publishWaitUser (host : Host) (ctx : CommandContext) (payload : WaitUserPayload)
    (reply : Option ToolResult) (catches : Bool) : Keeps (NoCommit s₀) (publishWaitUser ctx payload reply catches) := by
  have hlease : ∀ lease, Keeps (NoCommit s₀) (modify fun s => { s with activeWaitUserUiLeaseKey := lease } : Ext PUnit) :=
    fun _ => noCommit_modify (fun _ => rfl) fun _ => rfl
  refine keeps_bind keeps_get fun s => ?_
  split
  · refine keeps_ite (keeps_pure _) (keeps_ite (keeps_pure _) ?_)
    exact keeps_bind (hlease _) fun _ => noCommit_handleWaitUserState _ _ _ _ _
  · refine keeps_bind (hlease _) fun _ => keeps_bind (keeps_tryCatch ?_ fun error => ?_) fun state => ?_
    · have hop : Session.runOp host.digest (.requireWaitUser payload) = .ui <$> Session.requireWaitUser payload := rfl
      exact noCommit_call .ui hop (by simp)
    · exact keeps_bind (noCommit_releaseUiLease _) fun _ => keeps_throw _
    · exact noCommit_handleWaitUserState _ _ _ _ _

/-- A question of ADR Build commits nothing. -/
theorem noCommit_askBuildQuestion (ctx : CommandContext) (state : ForgeUiState) (result : ToolResult) :
    Keeps (NoCommit s₀) (askBuildQuestion host ctx state result) := by
  refine keeps_bind noCommit_restoreActiveTools fun _ => ?_
  split
  · exact keeps_bind (noCommit_publishWaitUser host _ _ _ _) fun _ => keeps_pure _
  · exact keeps_bind (noCommit_emit rfl) fun _ => keeps_pure _

/-! ### The commit of the tool -/

/-- A candidate that is taken is kept; nothing else of the session changes. -/
theorem prepareAdrBuild_accepts {identity accepted : AdrBuildIdentity} {candidate : AdrBuildCandidate} {ui : ForgeUiState}
    {s t : SessionState} (h : Session.prepareAdrBuild identity candidate s = (.ok (.accepted ui accepted), t)) :
    s.adrBuildAttempt = some identity ∧ s.orchestrator = some .adrBuild ∧
      t = { s with adrBuildCandidate := some candidate } := by
  by_cases hlive : s.adrBuildAttempt = some identity
  case neg =>
    simp only [Session.prepareAdrBuild, get_bind_apply, ite_apply_state, pure_apply, ne_eq, hlive, not_false_eq_true,
      if_true] at h
    cases h
  by_cases horch : s.orchestrator = some .adrBuild
  case neg =>
    simp only [Session.prepareAdrBuild, get_bind_apply, ite_apply_state, pure_apply, ne_eq, hlive, horch,
      not_true_eq_false, not_false_eq_true, if_true, if_false] at h
    cases h
  refine ⟨hlive, horch, ?_⟩
  cases hpackage : s.knowledgeUnderstandingPackage with
  | none =>
      simp only [Session.prepareAdrBuild, get_bind_apply, ite_apply_state, pure_apply, ne_eq, hlive, horch, hpackage,
        not_true_eq_false, if_false] at h
      cases h
  | some package =>
      simp only [Session.prepareAdrBuild, get_bind_apply, ite_apply_state, pure_apply, ne_eq, hlive, horch, hpackage,
        not_true_eq_false, if_false, modify_bind_apply] at h
      split at h
      · cases h
      · obtain ⟨-, rfl⟩ := Prod.mk.inj h
        rw [← hlive, ← horch, ← hpackage]
        rfl

/-- The texts that the session renders from what it holds. -/
def deliverables? (session : SessionState) (candidate : AdrBuildCandidate) : Option DocumentsContent :=
  match session.knowledgeUnderstandingPackage, session.contextCandidate with
  | some package, some context =>
      some (renderDeliverableDocuments package context candidate (getUnpackagedHumanDecisions session package))
  | _, _ => none

/-- What the end of a commit comes to: the documents that it asks for, and the end of the workflow exactly if they were
committed. -/
structure Committed (files : Files) (s₀ : ExtensionState) (candidate : AdrBuildCandidate) (t : ExtensionState) : Prop where
  started : s₀.session.orchestrator = some .adrBuild
  asked : ∃ request, commitRequest? t.effects = some request ∧
    deliverables? s₀.session candidate = some request.documents ∧
    (t.session.orchestrator = some .toSpec ↔ ∃ base, Session.isBaseHash base = true ∧
      files.commitBundle request.rootDir request.expectedBaseHash request.documents = .ok (.committed base))

/-- Where the candidate has been taken. -/
def Prepared (s₀ : ExtensionState) (identity : AdrBuildIdentity) (candidate : AdrBuildCandidate) (s : ExtensionState) :
    Prop :=
  commitRequest? s.effects = none ∧ s₀.session.adrBuildAttempt = some identity ∧
    s₀.session.orchestrator = some .adrBuild ∧
    s.session = { s₀.session with adrBuildCandidate := some candidate }

theorem restored_effects (s : ExtensionState) : (restored host s).effects = s.effects := by
  unfold restored
  cases s.savedActiveTools <;> rfl

/-- The session ends the workflow for a commit with a hash to show for it. -/
theorem finalizeDocuments_outcome (host : Host) {s : ExtensionState} {identity : AdrBuildIdentity} (base : String)
    (hlive : s.session.adrBuildAttempt = some identity) (horch : s.session.orchestrator = some .adrBuild)
    (hcandidate : s.session.adrBuildCandidate ≠ none) :
    ((finalizeDocuments host identity (.committed base) s).2.session.orchestrator = some .toSpec ↔
        Session.isBaseHash base = true) ∧
      commitRequest? (finalizeDocuments host identity (.committed base) s).2.effects = commitRequest? s.effects := by
  let op : SessionOp := .finalizeAdrBuild identity (.committed base)
  cases hbase : Session.isBaseHash base with
  | false =>
      have hrun : Session.finalizeAdrBuild identity (.committed base) s.session =
          (.ok (.invalid s.session.uiState ["ADR Build 尚未完成 Documents bundle commit"]), s.session) := by
        simp only [Session.finalizeAdrBuild, get_bind_apply, ite_apply_state, pure_apply]
        rw [if_neg (not_not.mpr hlive), if_pos (by simp [Session.isCommitted, hbase])]
      have hcall : sessionState.finalizeAdrBuild identity (.committed base) s =
          (.ok (.invalid s.session.uiState ["ADR Build 尚未完成 Documents bundle commit"]),
            { s with calls := s.calls ++ [op] }) := by
        rw [sessionState.finalizeAdrBuild, call, hrun]
      unfold finalizeDocuments
      rw [bind_eq_ok hcall]
      refine ⟨⟨fun hend => ?_, fun hfalse => by cases hfalse⟩, rfl⟩
      exact absurd (horch.symm.trans hend) (by decide)
  | true =>
      have hrun : ∃ ui t, Session.finalizeAdrBuild identity (.committed base) s.session =
          (.ok (.accepted ui identity), t) ∧ t.orchestrator = some .toSpec := by
        simp only [Session.finalizeAdrBuild, get_bind_apply, ite_apply_state, pure_apply,
          Session.transitionTo_bind_apply, Session.setUi_bind_apply, modify_bind_apply]
        rw [if_neg (not_not.mpr hlive), if_neg (by simp [horch, hcandidate, Session.isCommitted, hbase])]
        exact ⟨_, _, rfl, rfl⟩
      obtain ⟨ui, t, hrun, hend⟩ := hrun
      have hcall : sessionState.finalizeAdrBuild identity (.committed base) s =
          (.ok (.accepted ui identity), { s with session := t, calls := s.calls ++ [op] }) := by
        rw [sessionState.finalizeAdrBuild, call, hrun]
      unfold finalizeDocuments
      rw [bind_eq_ok hcall]
      dsimp only
      rw [modify_bind_apply, restoreActiveTools_bind_apply]
      constructor
      · refine ⟨fun _ => rfl, fun _ => ?_⟩
        show (restored host _).session.orchestrator = _
        rw [restored_session]
        exact hend
      · show commitRequest? ((restored host _).effects ++ _) = _
        rw [commitRequest_quiet _ rfl, restored_effects]

/-- What a commit of the tool comes to. -/
abbrev Outcome (files : Files) (s₀ : ExtensionState) (candidate : AdrBuildCandidate) (t : ExtensionState) : Prop :=
  NoCommit s₀ t ∨ Committed files s₀ candidate t

/-- **The commit of a candidate that was taken**: nothing is asked for, or the documents of the session are, and the
workflow ends exactly if they are committed. -/
theorem commitDocuments_outcome (host : Host) (files : Files) {identity : AdrBuildIdentity} {candidate : AdrBuildCandidate} :
    Turn.Leads (Prepared s₀ identity candidate) (commitDocuments host files identity)
      (fun _ => Outcome files s₀ candidate) (Outcome files s₀ candidate) := by
  have hquiet : ∀ s, Prepared s₀ identity candidate s → NoCommit s₀ s := by
    rintro s ⟨hnone, -, -, hsession⟩
    refine ⟨hnone, fun hend => ?_⟩
    rw [hsession] at hend
    exact hend
  unfold commitDocuments
  refine leads_get_bind_eq fun s hprepared => ?_
  split
  case h_2 => exact leads_pure fun t ht => .inl (ht ▸ hquiet s hprepared)
  case h_1 workflow package context candidate' base hworkflow hpackage hcontext hcandidate hbase =>
    obtain ⟨hnone, hlive, horch, hsession⟩ := hprepared
    rw [hsession] at hpackage hcontext hcandidate
    cases hcandidate
    let request : CommitDocumentsRequest := ⟨workflow.rootDir, base,
      renderDeliverableDocuments package context candidate (getUnpackagedHumanDecisions s.session package)⟩
    have hasked : deliverables? s₀.session candidate = some request.documents := by
      rw [deliverables?, hpackage, hcontext]
      simp only [request, hsession]
      rfl
    -- the effect of the commit is noted before its answer is looked at
    let t : ExtensionState := { s with effects := s.effects ++ [.commitDocuments request.rootDir base request.documents] }
    have ht : commitRequest? t.effects = some request := commitRequest_append hnone _
    have hsame : t.session.orchestrator = some .adrBuild := by
      show s.session.orchestrator = _
      rw [hsession]
      exact horch
    have hkept : ∀ u : ExtensionState, u.session = t.session → u.effects = t.effects →
        (∀ committed, Session.isBaseHash committed = true → files.commitBundle request.rootDir base request.documents ≠
          .ok (.committed committed)) → Committed files s₀ candidate u := by
      intro u husession hueffects hnot
      refine ⟨horch, request, hueffects ▸ ht, hasked, fun hend => ?_, fun ⟨committed, hhash, hcommitted⟩ => ?_⟩
      · rw [husession, hsame] at hend
        cases hend
      · exact absurd hcommitted (hnot committed hhash)
    have hrefused : ∀ answer, files.commitBundle request.rootDir base request.documents = answer →
        (∀ committed, answer ≠ .ok (.committed committed)) → ∀ u, u = t → Outcome files s₀ candidate u := by
      rintro answer hanswer hnot u rfl
      exact .inr (hkept t rfl rfl fun committed _ => hanswer ▸ hnot committed)
    refine leads_modify_bind (M := fun u => u = t) (fun u hu => by subst hu; rfl) ?_
    split
    · next error hanswer => exact leads_throw (hrefused _ hanswer (by simp))
    · next error hanswer => exact leads_pure (hrefused _ hanswer (by simp))
    · next errors hanswer => exact leads_pure (hrefused _ hanswer (by simp))
    · next errors hanswer => exact leads_pure (hrefused _ hanswer (by simp))
    · next committed hanswer =>
        have hlive' : t.session.adrBuildAttempt = some identity := by
          show s.session.adrBuildAttempt = _
          rw [hsession]
          exact hlive
        have hcandidate' : t.session.adrBuildCandidate ≠ none := by
          show s.session.adrBuildCandidate ≠ _
          rw [hsession]
          exact Option.some_ne_none _
        obtain ⟨hends, heffects⟩ := finalizeDocuments_outcome host committed hlive' hsame hcandidate'
        have houtcome : Outcome files s₀ candidate (finalizeDocuments host identity (.committed committed) t).2 := by
          refine .inr ⟨horch, request, heffects.trans ht, hasked, ?_⟩
          rw [hends]
          constructor
          · exact fun hhash => ⟨committed, hhash, hanswer⟩
          · rintro ⟨committed', hhash, hanswer'⟩
            cases hanswer.symm.trans hanswer'
            exact hhash
        rintro u rfl
        exact ⟨fun a v hrun => by rwa [hrun] at houtcome, fun e v hrun => by rwa [hrun] at houtcome⟩

/-- Before the session is called. -/
def NotYetAsked (s₀ s : ExtensionState) : Prop := commitRequest? s.effects = none ∧ s.session = s₀.session

theorem NotYetAsked.noCommit {s : ExtensionState} (h : NotYetAsked s₀ s) : NoCommit s₀ s :=
  ⟨h.1, fun hend => h.2 ▸ hend⟩

/-- What the tool may come to. -/
def ToolOutcome (files : Files) (s₀ : ExtensionState) (outcome : AdrOutcome) (t : ExtensionState) : Prop :=
  NoCommit s₀ t ∨ ∃ candidate, outcome = .completed candidate ∧ Committed files s₀ candidate t

/-- **The whole tool**: it commits nothing and ends nothing, or it commits the documents of the session for the
candidate that it was given, and ends the workflow exactly if they are committed. -/
theorem forgeAdrComplete_outcome (host : Host) (files : Files) (s₀ : ExtensionState) (attemptId sourceRoundId : String) (outcome : AdrOutcome) (ctx : CommandContext) :
    Turn.Leads (NotYetAsked s₀) (forgeAdrComplete host files attemptId sourceRoundId outcome ctx)
      (fun _ => ToolOutcome files s₀ outcome) (ToolOutcome files s₀ outcome) := by
  have hboundary : Keeps (NotYetAsked s₀) (requireBuildToolBoundary host) := by
    refine keeps_ite (keeps_pure _) (keeps_bind (fun s hs => ?_) fun _ => keeps_pure _)
    exact ⟨(commitRequest_quiet _ rfl).trans hs.1, hs.2⟩
  have hends : ∀ {m : Ext Reply}, Keeps (NoCommit s₀) m →
      Turn.Leads (NoCommit s₀) m (fun _ => ToolOutcome files s₀ outcome) (ToolOutcome files s₀ outcome) := by
    intro m hm s hs
    have hkept := hm s hs
    exact ⟨fun a t hrun => .inl (by rwa [hrun] at hkept), fun e t hrun => .inl (by rwa [hrun] at hkept)⟩
  have hpure : ∀ (reply : Reply) {P : ExtensionState → Prop}, (∀ s, P s → NoCommit s₀ s) →
      Turn.Leads P (pure reply : Ext Reply) (fun _ => ToolOutcome files s₀ outcome) (ToolOutcome files s₀ outcome) :=
    fun reply P hP => leads_pure fun s hs => .inl (hP s hs)
  refine leads_bind (Q := fun _ => NotYetAsked s₀) (fun s hs => ?_) fun enforceable => ?_
  · have hkept := hboundary s hs
    exact ⟨fun a t hrun => by rwa [hrun] at hkept,
      fun e t hrun => .inl (NotYetAsked.noCommit (by rwa [hrun] at hkept))⟩
  refine leads_ite (fun _ => hpure _ fun s hs => hs.noCommit) fun _ => ?_
  refine leads_modify_bind (M := NotYetAsked s₀) (fun s hs => hs) ?_
  -- what a call of the session leaves, before its answer is looked at
  have hcall : ∀ {op : SessionOp} {run : Session AdrBuildCallResult}, Session.runOp host.digest op = .adr <$> run →
      (∀ identity commit, op ≠ .finalizeAdrBuild identity commit) →
      Turn.Leads (NotYetAsked s₀) (call op run)
        (fun result s => NoCommit s₀ s ∧ commitRequest? s.effects = none ∧ run s₀.session = (.ok result, s.session))
        (ToolOutcome files s₀ outcome) := by
    intro op run hop hfinal s hs
    have hkept : NoCommit s₀ (call op run s).2 := noCommit_call .adr hop hfinal s hs.noCommit
    refine ⟨fun result t hrun => ?_, fun e t hrun => .inl (by rwa [hrun] at hkept)⟩
    rw [hrun] at hkept
    exact ⟨hkept, hkept.1, hs.2 ▸ call_run hrun⟩
  cases outcome with
  | ambiguous ambiguity =>
      refine leads_bind (hcall rfl (by simp)) fun result => ?_
      cases result with
      | stale expected received => exact hpure _ fun s hs => hs.1
      | invalid state errors => exact hpure _ fun s hs => hs.1
      | ambiguous state accepted =>
          exact leads_mono (hends (noCommit_askBuildQuestion ctx state _)) (fun s hs => hs.1) fun _ _ h => h
      | accepted state accepted =>
          exact fun s hs => absurd hs.2.2 Session.requireAdrDecision_ne_accepted
  | completed candidate =>
      refine leads_bind (hcall rfl (by simp)) fun result => ?_
      cases result with
      | stale expected received => exact hpure _ fun s hs => hs.1
      | invalid state errors => exact hpure _ fun s hs => hs.1
      | ambiguous state accepted =>
          exact leads_mono (hends (noCommit_askBuildQuestion ctx state _)) (fun s hs => hs.1) fun _ _ h => h
      | accepted state accepted =>
          have hprepared : ∀ s, (NoCommit s₀ s ∧ commitRequest? s.effects = none ∧
              Session.prepareAdrBuild ⟨attemptId, sourceRoundId⟩ candidate s₀.session =
                (.ok (.accepted state accepted), s.session)) → Prepared s₀ ⟨attemptId, sourceRoundId⟩ candidate s := by
            rintro s ⟨-, hnone, hrun⟩
            obtain ⟨hlive, horch, hsession⟩ := prepareAdrBuild_accepts hrun
            exact ⟨hnone, hlive, horch, hsession⟩
          intro s hs
          have hcommit := commitDocuments_outcome host files s (hprepared s hs)
          have hwiden : ∀ t, Outcome files s₀ candidate t → ToolOutcome files s₀ (.completed candidate) t :=
            fun t ht => ht.imp_right fun hcommitted => ⟨candidate, rfl, hcommitted⟩
          exact ⟨fun a t hrun => hwiden t (hcommit.1 a t hrun), fun e t hrun => hwiden t (hcommit.2 e t hrun)⟩

end Extension

/-! ### The tool and the disk -/

section Agree

variable {host : Host} {files : Files} {mayFail : FileCall → Prop} {sha256 : List UInt8 → String} {token : String}
  {disk disk' : Disk}

/-- **The documents and the session agree.**  However many calls of the `try` body of a commit fail: a call of
`forge_adr_complete` that brings the session from `ADR_BUILD` to `TO_SPEC` has written the three documents, rendered
from the candidate that it was given and from what the session holds; and one that does not leaves the documents as
they were. -/
theorem documents_and_session_agree (hhash : ∀ bytes, Session.isBaseHash (sha256 bytes) = true)
    (hfails : ∀ c, mayFail c → c.phase = .committing) (hfresh : FreshToken token disk) (s : ExtensionState)
    (attemptId sourceRoundId : String) (outcome : AdrOutcome) (ctx : CommandContext)
    (hcommits : CommitsOn sha256 token mayFail files
      (extensionStepAt host s ⟨files, .adrComplete attemptId sourceRoundId outcome ctx⟩).output.effects disk disk') :
    let after := (extensionStepAt host s ⟨files, .adrComplete attemptId sourceRoundId outcome ctx⟩).after
    (s.session.orchestrator = some .adrBuild ∧ after.session.orchestrator = some .toSpec ∧
        ∃ candidate documents, outcome = .completed candidate ∧
          Extension.deliverables? s.session candidate = some documents ∧
          ∀ document, Written documents disk disk' document) ∨
      (after.session.orchestrator = some .toSpec → s.session.orchestrator = some .toSpec) ∧
        ∀ document, disk' (.target document) = disk (.target document) := by
  intro after
  have hrun := Extension.forgeAdrComplete_outcome host files s attemptId sourceRoundId outcome ctx s.cleared ⟨rfl, rfl⟩
  have houtcome : Extension.ToolOutcome files s outcome after := by
    have hstep : Extension.forgeAdrComplete host files attemptId sourceRoundId outcome ctx s.cleared =
      ((extensionStepAt host s ⟨files, .adrComplete attemptId sourceRoundId outcome ctx⟩).output.reply, after) := rfl
    generalize (extensionStepAt host s ⟨files, .adrComplete attemptId sourceRoundId outcome ctx⟩).output.reply = reply
      at hstep
    cases reply with
    | ok reply => exact hrun.1 reply after hstep
    | error error => exact hrun.2 error after hstep
  rcases houtcome with ⟨hnone, hends⟩ | ⟨candidate, rfl, hstarted, request, hasked, hdocuments, hends⟩
  · refine .inr ⟨hends, fun document => ?_⟩
    rw [hcommits.stays hnone]
  · have hcommit := hcommits.runs request hasked
    obtain ⟨result, hresult, hcase, -⟩ := commit_leaves hfails hfresh.backups hcommit
    rcases hcase with ⟨⟨base, rfl⟩, hwritten⟩ | ⟨hnot, hsame⟩
    · refine .inl ⟨hstarted, hends.mpr ⟨base, ?_, hresult⟩, candidate, request.documents, rfl, hdocuments, hwritten⟩
      rw [hresult] at hcommit
      obtain ⟨bytes, rfl⟩ := committed_hash hcommit
      exact hhash bytes
    · refine .inr ⟨fun hend => ?_, hsame⟩
      obtain ⟨base, -, hcommitted⟩ := hends.mp hend
      rw [hresult] at hcommitted
      exact absurd (Except.ok.inj hcommitted) (hnot base)

end Agree

/-! ### A workflow that ends -/

def hexDigit (k : Nat) : Char := "0123456789abcdef".toList.getD (k % 16) '0'

/-- A hash of 64 hexadecimal digits. -/
def hexHash (bytes : List UInt8) : String :=
  let number := bytes.foldl (fun n b => n * 257 + b.toNat + 1) 0
  String.ofList ((List.range 64).map fun i => hexDigit (number / 16 ^ i))

theorem hexDigit_isLowerHex (k : Nat) : Session.isLowerHex (hexDigit k) = true := by
  have hdigit : ∀ m < 16, Session.isLowerHex ("0123456789abcdef".toList.getD m '0') = true := by decide
  exact hdigit (k % 16) (Nat.mod_lt k (by decide))

theorem hexHash_isBaseHash (bytes : List UInt8) : Session.isBaseHash (hexHash bytes) = true := by
  rw [Session.isBaseHash, hexHash, String.toList_ofList, Bool.and_eq_true]
  constructor
  · simp
  · rw [List.all_map, List.all_eq_true]
    exact fun i _ => hexDigit_isLowerHex _

/-- The files of a project with the documents of `latinDisk`. -/
def latinFiles : Files :=
  { sampleFiles with
    documentsBase := fun rootDir => (runOn latinDisk (captureDocumentsBase hexHash .checking rootDir)).1
    commitBundle := fun rootDir base documents =>
      (runOn latinDisk (commitDocumentsBundle hexHash "t" ⟨rootDir, base, documents⟩)).1 }

/-- Before the last candidate is handed in. -/
@[irreducible] def latinSession : ExtensionState :=
  finish (extensionStep sampleHost) (loadedExtension sampleTools) (withFiles latinFiles buildAtOnce)

/-- The disk after a step. -/
def diskAfter (effects : List Effect) : Disk :=
  match commitRequest? effects with
  | some request => (runOn latinDisk (commitDocumentsBundle hexHash "t" request)).2
  | none => latinDisk

theorem latinFiles_commitBundle (rootDir base : String) (documents : DocumentsContent) :
    latinFiles.commitBundle rootDir base documents =
      (runOn latinDisk (commitDocumentsBundle hexHash "t" ⟨rootDir, base, documents⟩)).1 := by
  simp only [latinFiles]

theorem commitsOn_latin (effects : List Effect) :
    CommitsOn hexHash "t" (fun _ => False) latinFiles effects latinDisk (diskAfter effects) where
  runs request hrequest := by
    obtain ⟨rootDir, base, documents⟩ := request
    have hruns := runOn_runs (fun _ => False) latinDisk (commitDocumentsBundle hexHash "t" ⟨rootDir, base, documents⟩)
    simp only [diskAfter, hrequest, latinFiles_commitBundle]
    exact hruns
  stays hnone := by simp only [diskAfter, hnone]

theorem documents_and_session_agree_latin :
    let call := ⟨latinFiles, .adrComplete "adr-1" "grill-1" (.completed (recordsCiting [sampleCandidateId])) sampleCtx⟩
    let step := extensionStepAt sampleHost latinSession call
    (latinSession.session.orchestrator = some .adrBuild ∧ step.after.session.orchestrator = some .toSpec ∧
        ∃ candidate documents, AdrOutcome.completed (recordsCiting [sampleCandidateId]) = .completed candidate ∧
          Extension.deliverables? latinSession.session candidate = some documents ∧
          ∀ document, Written documents latinDisk (diskAfter step.output.effects) document) ∨
      (step.after.session.orchestrator = some .toSpec → latinSession.session.orchestrator = some .toSpec) ∧
        ∀ document, diskAfter step.output.effects (.target document) = latinDisk (.target document) := by
  intro call step
  exact documents_and_session_agree hexHash_isBaseHash (fun _ hfalse => hfalse.elim) (latin_fresh "t") latinSession
    "adr-1" "grill-1" (.completed (recordsCiting [sampleCandidateId])) sampleCtx (commitsOn_latin step.output.effects)

end ForgeRuntime
