import ForgeRuntime.Extension.Runs

/-!
# The tools of the user

A workflow saves the active tools of the user when it first restricts them, and brings them back.  The tools
of the understanding phase are set without saving, so that the tools of the user are lost when that happens
while nothing is saved.

* `HoldsTools` — the tools of the user are active, or they are saved;
* `move_holdsTools` — every move keeps this, apart from the one that restricts without saving;
* `tools_come_back` — in every run that makes no such move they come back at the end of the workflow;
* `tools_lost` — a run after which they do not.
-/

namespace ForgeRuntime

open EventDriven EventDriven.Machine EventDriven.Text Extension

variable {host : Host} {files : Files} {s₀ : ExtensionState} {e : Event}

/-! ### Saved or active -/

/-- The tools of the user are active, or they are saved. -/
def HoldsTools (tools active : List String) (saved : Option (List String)) : Prop :=
  (saved = none → active = tools) ∧ ∀ kept, saved = some kept → kept = tools

theorem holdsTools_saved {tools active : List String} {saved : Option (List String)}
    (h : HoldsTools tools active saved) :
    (saved <|> some active) = some tools := by
  cases hsaved : saved with
  | none => exact congrArg some (h.1 hsaved)
  | some kept => exact congrArg some (h.2 kept hsaved)

/-- The tools that a workflow restricts the user to. -/
def forgeToolLists : List (List String) :=
  [grillToolNames, deepRetrievalToolNames, deepUnderstandingToolNames, contextBuildToolNames,
    adrBuildToolNames]

/-- The host reads and sets the active tools. -/
structure SetsTools (host : Host) : Prop where
  gets : host.getActiveTools = true
  sets : host.setActiveTools = true

theorem saveTools_holds {tools : List String} {c : Core} (hhost : SetsTools host)
    (h : HoldsTools tools c.activeTools c.savedActiveTools) (active : List String) :
    HoldsTools tools active (c.saveTools host).savedActiveTools := by
  have hsaved : (c.saveTools host).savedActiveTools = some tools := by
    rw [← holdsTools_saved h]
    simp [Core.saveTools, hhost.gets]
  rw [hsaved]
  exact ⟨nofun, fun kept hkept => (Option.some.inj hkept).symm⟩

theorem saveTools_none {c : Core} (h : (c.saveTools host).savedActiveTools = none) :
    c.savedActiveTools = none := by
  cases hsaved : c.savedActiveTools with
  | none => rfl
  | some kept => simp [Core.saveTools, hsaved] at h

theorem restoreTools_holds {tools : List String} {c : Core} (hhost : SetsTools host)
    (h : HoldsTools tools c.activeTools c.savedActiveTools) :
    HoldsTools tools (c.restoreTools host).activeTools (c.restoreTools host).savedActiveTools := by
  unfold Core.restoreTools
  cases hsaved : c.savedActiveTools with
  | none =>
      rw [hsaved] at h
      simpa only [hsaved] using h
  | some kept =>
      refine ⟨fun _ => ?_, nofun⟩
      simpa [Core.setTools, hhost.sets] using h.2 kept hsaved

theorem restoreTools_saved (host : Host) (c : Core) : (c.restoreTools host).savedActiveTools = none := by
  unfold Core.restoreTools
  cases hsaved : c.savedActiveTools with
  | none => exact hsaved
  | some kept => rfl

/-- **A move keeps the tools of the user**, unless it restricts them while they are not saved. -/
theorem move_holdsTools {tools : List String} {c c' : Core} (hhost : SetsTools host)
    (hmove : Move host files s₀ e c c') (h : HoldsTools tools c.activeTools c.savedActiveTools)
    (hsaved : EntersUnderstanding host s₀ e c.calls → c.savedActiveTools ≠ none) :
    HoldsTools tools c'.activeTools c'.savedActiveTools := by
  cases hmove with
  | activated hgoes htools => exact saveTools_holds hhost h _
  | understanding henters hphase => exact ⟨fun hnone => absurd hnone (hsaved henters), h.2⟩
  | restored hrestores => exact restoreTools_holds hhost h
  | left hcalls hop => exact restoreTools_holds hhost h
  | grillEntered hgoes hstage horch => exact saveTools_holds hhost h _
  | finalized hcalls => exact restoreTools_holds hhost h
  | _ => exact h

/-! ### Where nothing is saved -/

/-- By these calls the step has given the tools back. -/
def GivesBack (s₀ : ExtensionState) (e : Event) (calls : List SessionOp) : Prop :=
  (∃ early, early <+: calls ∧ RestoresTools s₀ e early) ∨ ¬ GoesOn calls

theorem givesBack_append {calls more : List SessionOp} (h : GivesBack s₀ e calls) :
    GivesBack s₀ e (calls ++ more) := by
  refine h.imp ?_ ?_
  · rintro ⟨early, hprefix, hrestores⟩
    exact ⟨early, hprefix.trans (List.prefix_append calls more), hrestores⟩
  · intro hleft hgoes
    rw [GoesOn, List.all_append, Bool.and_eq_true] at hgoes
    exact hleft hgoes.1

/-- After a woken notice, no tools of the understanding phase are set. -/
theorem entersUnderstanding_ne_notice {calls : List SessionOp} (h : EntersUnderstanding host s₀ e calls)
    {index : Nat} {settlement : Settlement} (hwaits : s₀.suspended[index]? = some .omissionNotice) :
    e ≠ .resume index settlement := by
  rintro rfl
  have hnone : submittedAnswer? host s₀ (.resume index settlement) = none := by
    cases settlement with
    | selection choice => cases choice <;> simp [submittedAnswer?, hwaits]
    | _ => rfl
  cases h with
  | retrieved he | continued he | resumed he | replayed he => cases he
  | fallback h | decided h =>
      rw [hnone] at h
      cases h

/-- The calls before the tools of the understanding phase are set give nothing back. -/
theorem not_givesBack {calls : List SessionOp} (h : EntersUnderstanding host s₀ e calls) :
    ¬ GivesBack s₀ e calls := by
  rintro (⟨early, hprefix, hrestores⟩ | hleft)
  · cases hrestores with
    | omissionNoticed he hwaits => exact entersUnderstanding_ne_notice h hwaits he
    | relevanceAnswer hgrill =>
        cases h with
        | fallback _ hasks | decided _ hasks =>
            rw [hgrill] at hasks
            cases hasks
        | _ => simp at hprefix
    | _ => cases h <;> simp at hprefix
  · exact hleft (by cases h <;> rfl)

/-- Where a step has nothing saved, it began so or it has given the tools back. -/
theorem path_unsaved {c : Core} (h : Path host files s₀ e c) (hnone : c.savedActiveTools = none) :
    s₀.savedActiveTools = none ∨ GivesBack s₀ e c.calls := by
  induction h with
  | start hstart => exact .inl hnone
  | @move c c' hpath hmove ih =>
      cases hmove with
      | activated hgoes htools => exact ih (saveTools_none hnone)
      | restored hrestores =>
          rw [restoreTools_calls]
          exact .inr (.inl ⟨_, List.prefix_rfl, hrestores⟩)
      | left hcalls hop =>
          refine .inr (.inr fun hgoes => ?_)
          simp only [Core.leave, call_calls, GoesOn, List.all_append, Bool.and_eq_true] at hgoes
          rcases hop with rfl | ⟨rfl, -⟩ <;> exact absurd hgoes.2 (by decide)
      | grillEntered hgoes hstage horch =>
          exact (ih (saveTools_none (c := c) hnone)).imp id fun hback =>
            givesBack_append (givesBack_append hback)
      | finalized hcalls =>
          rw [restoreTools_calls, call_calls]
          refine .inr (.inr fun hgoes => ?_)
          rw [GoesOn, List.all_append, Bool.and_eq_true] at hgoes
          exact absurd hgoes.2 Bool.false_ne_true
      | called hsite | started | fetched | supplemented | supplementRefused | fallbackEntered =>
          exact (ih hnone).imp id givesBack_append
      | _ => exact ih hnone

/-! ### The end of a workflow -/

theorem not_goesOn_append {calls more : List SessionOp} (h : ¬ GoesOn calls) : ¬ GoesOn (calls ++ more) := by
  intro hgoes
  rw [GoesOn, List.all_append, Bool.and_eq_true] at hgoes
  exact h hgoes.1

theorem not_goesOn_snoc {calls : List SessionOp} {op : SessionOp} (h : op.leaves = true) :
    ¬ GoesOn (calls ++ [op]) := by
  intro hgoes
  rw [GoesOn, List.all_append, Bool.and_eq_true, List.all_cons, h] at hgoes
  exact Bool.false_ne_true hgoes.2

/-- Where an ADR attempt with a prepared candidate is finalized, the result is accepted. -/
theorem finalizeAdrBuild_accepts {s : SessionState} {identity : AdrBuildIdentity}
    {commit : CommitDocumentsResult} (hlive : s.adrBuildAttempt = some identity)
    (horch : s.orchestrator = some .adrBuild) (hcandidate : s.adrBuildCandidate ≠ none)
    (hcommit : Session.isCommitted commit = true) :
    ∃ ui, (Session.finalizeAdrBuild identity commit s).1 = .ok (.accepted ui identity) := by
  simp only [Session.finalizeAdrBuild, Turn.get_bind_apply, Turn.ite_apply_state, Turn.pure_apply,
    Session.transitionTo_bind_apply, Session.setUi_bind_apply, Turn.modify_bind_apply]
  rw [if_neg (not_not.mpr hlive), if_neg (by simp [horch, hcandidate, hcommit])]
  exact ⟨_, rfl⟩

/-- Only an accepted finalization brings the session to the end of a workflow. -/
theorem toSpec_of_step {digest : String → String} {s : SessionState} {op : SessionOp}
    (h : (sessionStep digest op s).2.orchestrator = some .toSpec) :
    s.orchestrator = some .toSpec ∨
      ∃ identity commit ui accepted, op = .finalizeAdrBuild identity commit ∧
        (sessionStep digest op s).1 = .ok (.adr (.accepted ui accepted)) := by
  have hmove := step_move digest s op
  generalize hr : (sessionStep digest op s).1 = r at hmove
  generalize (sessionStep digest op s).2 = t at hmove h
  cases hmove with
  | @adrFinalized _ identity commit hlive horch hcandidate hcommit =>
      obtain ⟨ui, haccepted⟩ := finalizeAdrBuild_accepts hlive horch hcandidate hcommit
      refine .inr ⟨identity, commit, ui, identity, rfl, ?_⟩
      rw [← hr, sessionStep, Session.runOp, Turn.map_apply]
      exact congrArg (Except.map SessionResult.adr) haccepted
  | discoveryCounted =>
      cases horch : s.orchestrator with
      | none => simp [horch] at h
      | some stage => simpa [horch] using h
  | entered hr hop hfrom =>
      cases op <;> cases hop <;> cases h
  | deepIssued hr hop hround hfrom summary =>
      rename_i phase
      cases phase <;> cases h
  | deepCancelled hr =>
      exact absurd (Option.some.inj h) (by cases Session.cancelledPhase s <;> simp [DeepAttemptPhase.stage])
  | answered hr horch hpending hkind hguard hcontinues => cases hcontinues <;> cases h
  | rejected hr =>
      simp only at h
      split at h
      · cases h
      · exact .inl h
  | roundStarted hr first hfirst =>
      cases first with
      | true => exact .inl h
      | false => exact .inl h
  | _ => first | exact .inl h | cases h

/-- **The end of a workflow**: the session is reset, or it has come to the end of its stages. -/
def EndsWorkflow (st : ExtensionStepRecord) : Prop :=
  .reset ∈ st.output.calls ∨
    (st.after.session.orchestrator = some .toSpec ∧ st.before.session.orchestrator ≠ some .toSpec)

/-- At this point of a step the workflow has ended. -/
def Ended (s₀ : ExtensionState) (c : Core) : Prop :=
  .reset ∈ c.calls ∨ (c.session.orchestrator = some .toSpec ∧ s₀.session.orchestrator ≠ some .toSpec)

/-- Before a call that neither resets nor is accepted as the last one. -/
theorem ended_of_call {c : Core} {op : SessionOp} (h : Ended s₀ (c.call host op)) (hop : op ≠ .reset)
    (hrefused : ∀ identity commit, op = .finalizeAdrBuild identity commit → ∀ ui accepted,
      (sessionStep host.digest op c.session).1 ≠ .ok (.adr (.accepted ui accepted))) : Ended s₀ c := by
  rcases h with hreset | ⟨hend, hstart⟩
  · exact .inl ((List.mem_append.mp hreset).resolve_right fun hlast => hop (List.mem_singleton.mp hlast).symm)
  · rcases toSpec_of_step hend with hbefore | ⟨identity, commit, ui, accepted, hfinal, haccepted⟩
    · exact .inr ⟨hbefore, hstart⟩
    · exact absurd haccepted (hrefused identity commit hfinal ui accepted)

/-- **Where a workflow has ended, nothing is saved**, and no tools are set any more. -/
theorem path_ended {c : Core} (h : Path host files s₀ e c) (hended : Ended s₀ c) :
    c.savedActiveTools = none ∧ ¬ GoesOn c.calls := by
  induction h with
  | start hstart =>
      rcases hended with hreset | ⟨hend, hne⟩
      · rw [show s₀.core.calls = [] from hstart] at hreset
        exact absurd hreset List.not_mem_nil
      · exact absurd hend hne
  | @move c c' hpath hmove ih =>
      have hcall : ∀ op, Ended s₀ (c.call host op) → op ≠ .reset →
          (∀ identity commit, op ≠ .finalizeAdrBuild identity commit) →
          c.savedActiveTools = none ∧ ¬ GoesOn (c.calls ++ [op]) := by
        intro op hended hreset hfinal
        have hbefore := ih (ended_of_call hended hreset fun _ _ hop => absurd hop (hfinal _ _))
        exact ⟨hbefore.1, not_goesOn_append hbefore.2⟩
      cases hmove with
      | called hsite =>
          have hbefore := ih (ended_of_call hended ?_ ?_)
          · exact ⟨hbefore.1, not_goesOn_append hbefore.2⟩
          · rintro rfl
            generalize c.calls = calls at hsite
            cases hsite
          · rintro identity commit rfl
            generalize hmade : c.calls = calls at hsite
            cases hsite with
            | finalizeRefused hrefused =>
                rw [path_session hpath, hmade]
                exact hrefused
      | activated hgoes htools => exact absurd hgoes (ih hended).2
      | restored hrestores =>
          rw [Ended, restoreTools_calls, restoreTools_session] at hended
          rw [restoreTools_calls]
          exact ⟨restoreTools_saved host c, (ih hended).2⟩
      | started hcalls => exact hcall _ hended nofun nofun
      | left hcalls hop =>
          refine ⟨restoreTools_saved host _, not_goesOn_snoc ?_⟩
          rcases hop with rfl | ⟨rfl, -⟩ <;> rfl
      | grillEntered hgoes hstage horch =>
          have hround : Ended s₀ (c.call host (.startGrillRound _ _)) := ended_of_call hended nofun nofun
          have hbefore : Ended s₀ c := ended_of_call hround nofun nofun
          exact absurd hgoes (ih hbefore).2
      | fetched => exact hcall _ hended nofun nofun
      | supplemented => exact hcall _ hended nofun nofun
      | supplementRefused => exact hcall _ hended nofun nofun
      | fallbackEntered => exact hcall _ hended nofun nofun
      | finalized hcalls =>
          rw [restoreTools_calls]
          exact ⟨restoreTools_saved host _, not_goesOn_snoc rfl⟩
      | _ => exact ih hended

/-! ### Whole runs -/

/-- The understanding phase runs, or it is the phase that starts again. -/
def UnderstandingAhead (s : SessionState) : Prop :=
  s.retryPhase? = some .knowledgeUnderstanding ∨ s.deepAttempt.map (·.phase) = some .knowledgeUnderstanding

instance (s : SessionState) : Decidable (UnderstandingAhead s) := inferInstanceAs (Decidable (_ ∨ _))

/-- The text of an input. -/
def Event.inputText? : Event → Option String
  | .input rawText _ => some (trim rawText)
  | _ => none

/-- **An event that may set the tools of the understanding phase**: the end of the retrieval, an answer to a
Deep question that is not refused, `continue`, or the text of a step that is replayed. -/
def MayEnterUnderstanding (host : Host) (s : ExtensionState) (e : Event) : Prop :=
  (∃ identity ∈ e.completesRetrieval?, s.session.deepAttempt = some identity) ∨
    (∃ answer ∈ submittedAnswer? host s e, ∃ waitUser ∈ pendingDeepQuestion? s,
      ¬ Session.refusesAnswer s.session waitUser (trim answer) ∧
        (waitUser.kind = .deepDiscoveryFallback ∨ UnderstandingAhead s.session)) ∨
    (e.command? = some "continue" ∧ AtDeepStep s ∧ UnderstandingAhead s.session) ∨
    ∃ text ∈ e.inputText?, s.pendingReplayInvocation = some text ∧ UnderstandingAhead s.session

instance (host : Host) (s : ExtensionState) (e : Event) : Decidable (MayEnterUnderstanding host s e) :=
  inferInstanceAs (Decidable (_ ∨ _))

theorem mayEnterUnderstanding {s : ExtensionState} {calls : List SessionOp} (hwaiting : PendingIffWaiting s.session)
    (h : EntersUnderstanding host s.cleared e calls) : MayEnterUnderstanding host s e := by
  have haccepts : ∀ {answer : String} {waitUser : WaitUserState}, pendingDeepQuestion? s = some waitUser →
      (sessionAt host s [.recordAnswer answer]).uiState.stage ≠ .workflow .waitUser →
      ¬ Session.refusesAnswer s.session waitUser (trim answer) :=
    fun hasks haccepted hrefuses => haccepted (answer_refused_shown hwaiting hasks hrefuses)
  cases h with
  | retrieved he hlive => exact .inl ⟨_, he, hlive⟩
  | fallback h hasks hkind haccepted =>
      exact .inr (.inl ⟨_, h, _, hasks, haccepts hasks haccepted, .inl hkind⟩)
  | decided h hasks hkind haccepted hphase =>
      exact .inr (.inl ⟨_, h, _, hasks, haccepts hasks haccepted, .inr hphase⟩)
  | @continued attempt he hat hlive hphase =>
      have hrunning : s.session.deepAttempt.map (·.phase) = some .knowledgeUnderstanding := by
        rw [show s.session.deepAttempt = some attempt from hlive, Option.map_some, hphase]
      exact .inr (.inr (.inl ⟨he, hat, .inr hrunning⟩))
  | resumed he hat hphase => exact .inr (.inr (.inl ⟨he, hat, .inl hphase⟩))
  | @replayed rawText ctx attempt he hreplay hlive hphase =>
      have hrunning : s.session.deepAttempt.map (·.phase) = some .knowledgeUnderstanding := by
        rw [show s.session.deepAttempt = some attempt from hlive, Option.map_some, hphase]
      exact .inr (.inr (.inr ⟨trim rawText, by rw [he]; rfl, hreplay, .inr hrunning⟩))

/-- No tools of the understanding phase are set while those of the user are not saved. -/
def SavesFirst (host : Host) (s : ExtensionState) (o : Occurrence) : Prop :=
  s.savedActiveTools = none → ¬ MayEnterUnderstanding host s o.event

instance (host : Host) (s : ExtensionState) (o : Occurrence) : Decidable (SavesFirst host s o) :=
  inferInstanceAs (Decidable (_ → _))

theorem path_holdsTools {tools : List String} {s : ExtensionState} {c : Core} (hhost : SetsTools host)
    (h : Path host files s.cleared e c) (hs : HoldsTools tools s.activeTools s.savedActiveTools)
    (hwaiting : PendingIffWaiting s.session) (hsaves : s.savedActiveTools = none → ¬ MayEnterUnderstanding host s e) :
    HoldsTools tools c.activeTools c.savedActiveTools := by
  induction h with
  | start hstart => exact hs
  | move hpath hmove ih =>
      refine move_holdsTools hhost hmove ih fun henters hnone => ?_
      rcases path_unsaved hpath hnone with hstart | hback
      · exact hsaves hstart (mayEnterUnderstanding hwaiting henters)
      · exact not_givesBack henters hback

/-- One step. -/
theorem step_holdsTools {tools : List String} {s : ExtensionState} {o : Occurrence} (hhost : SetsTools host)
    (hs : HoldsTools tools s.activeTools s.savedActiveTools) (hwaiting : PendingIffWaiting s.session)
    (hsaves : SavesFirst host s o) :
    HoldsTools tools (extensionStep host o s).2.activeTools (extensionStep host o s).2.savedActiveTools :=
  path_holdsTools hhost (extensionStep_path host o s) hs hwaiting hsaves

/-- **The tools of the user come back.**  In every run in which the tools of the understanding phase are set
only while the tools of the user are saved, what is saved are the tools of the user and no list of Forge's
own, and when the workflow ends the tools of the user are active. -/
theorem tools_come_back (host : Host) (hhost : SetsTools host) (tools : List String) (os : List Occurrence)
    (hsaves : Admissible (extensionStep host) (SavesFirst host) (loadedExtension tools) os)
    {st : ExtensionStepRecord} (ht : st ∈ extensionRun host tools os) :
    (∀ saved, st.after.savedActiveTools = some saved →
        saved = tools ∧ (tools ∉ forgeToolLists → saved ∉ forgeToolLists)) ∧
      (EndsWorkflow st → st.after.activeTools = tools) := by
  have hstart : HoldsTools tools (loadedExtension tools).activeTools (loadedExtension tools).savedActiveTools :=
    ⟨fun _ => rfl, nofun⟩
  obtain ⟨⟨hbefore, hwaiting⟩, hok, hst⟩ := holds_throughout
    (I := fun s => HoldsTools tools s.activeTools s.savedActiveTools ∧ PendingIffWaiting s.session)
    (fun s o hs hok => ⟨step_holdsTools hhost hs.1 hs.2 hok, step_waiting host s o hs.2⟩)
    ⟨hstart, init_pendingIffWaiting⟩ hsaves ht
  have hafter : HoldsTools tools st.after.activeTools st.after.savedActiveTools := by
    rw [hst]
    exact step_holdsTools hhost hbefore hwaiting hok
  refine ⟨fun saved hsaved => ?_, fun hends => hafter.1 ?_⟩
  · obtain rfl := hafter.2 saved hsaved
    exact ⟨rfl, id⟩
  · rw [hst] at hends ⊢
    exact (path_ended (extensionStep_path host st.input st.before) hends).1

/-- The understanding phase directly follows the retrieval. -/
def buildAtOnce : List Event :=
  runToRetrieval ++ acceptRetrieval :: buildCandidates "deep-1" [sampleCandidateId]

theorem tools_come_back_atOnce :
    (sampleStep buildAtOnce (completeAdr [sampleCandidateId])).after.activeTools = sampleTools :=
  (tools_come_back sampleHost ⟨rfl, rfl⟩ sampleTools _ (by decide +kernel)
    (sampleStep_mem buildAtOnce (completeAdr [sampleCandidateId]))).2 (.inr (by decide +kernel))

/-- The understanding phase asks for a decision, and the user decides. -/
def decideInUnderstanding : List Event :=
  [.deepComplete "call-2" "deep-1" "grill-1"
      (.needsDecision ⟨"d", "which?", ["A", "B"], "A", [sampleCandidateId], none⟩) sampleCtx,
    .input "A" sampleCtx]

def buildAfterDecision : List Event :=
  runToRetrieval ++ acceptRetrieval :: (decideInUnderstanding ++ buildCandidates "deep-2" [sampleCandidateId])

/-- After a decision of the understanding phase, a list of Forge's own is saved, and at the end of the
workflow it is what the user is left with. -/
theorem tools_lost :
    (sampleAfter buildAfterDecision).savedActiveTools = some Extension.deepUnderstandingToolNames ∧
      EndsWorkflow (sampleStep buildAfterDecision (completeAdr [sampleCandidateId])) ∧
      (sampleStep buildAfterDecision (completeAdr [sampleCandidateId])).after.activeTools =
        Extension.deepUnderstandingToolNames ∧
      Extension.deepUnderstandingToolNames ≠ sampleTools :=
  ⟨by decide +kernel, .inr (by decide +kernel), by decide +kernel, by decide⟩

end ForgeRuntime
