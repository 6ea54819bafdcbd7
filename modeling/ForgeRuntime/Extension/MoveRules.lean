import ForgeRuntime.Extension.Moves

/-!
# Rules for the moves of a step

A handler is followed from point to point: `At calls` says that the step has come along a path and has made
these calls.  `Leads` is the rule of a piece of code, from such a point on, and the actions that the handlers
share have their rules here.

* `At.session`, `At.fresh` — what the calls say of the state;
* `call_rule` — a call of the session at one of its sites;
* the rules of the tools, and of the actions that write no part of the core.
-/

namespace ForgeRuntime

open EventDriven EventDriven.Text EventDriven.Turn EventDriven.Machine

namespace Extension

/-- The step has come along a path and has made these calls. -/
structure At (host : Host) (files : Files) (s₀ : ExtensionState) (e : Event) (calls : List SessionOp)
    (c : Core) : Prop where
  path : Path host files s₀ e c
  calls : c.calls = calls

/-- From a point of the step, `m` leads along a path, to `Q` when it returns. -/
abbrev Leads (host : Host) (files : Files) (s₀ : ExtensionState) (e : Event) {α : Type}
    (calls : List SessionOp) (m : Ext α) (Q : α → ExtensionState → Prop) : Prop :=
  Turn.Leads (fun s => At host files s₀ e calls s.core) m Q fun s => Path host files s₀ e s.core

/-- `m` makes no call of the session. -/
abbrev Stays (host : Host) (files : Files) (s₀ : ExtensionState) (e : Event) {α : Type}
    (calls : List SessionOp) (m : Ext α) : Prop :=
  Leads host files s₀ e calls m fun _ s => At host files s₀ e calls s.core

/-- `m` leads along a path. -/
abbrev Ends (host : Host) (files : Files) (s₀ : ExtensionState) (e : Event) {α : Type}
    (calls : List SessionOp) (m : Ext α) : Prop :=
  Leads host files s₀ e calls m fun _ s => Path host files s₀ e s.core

/-- What comes at the end of a step makes no move. -/
abbrev Closes (host : Host) (files : Files) (s₀ : ExtensionState) (e : Event) {α : Type} (m : Ext α) :
    Prop :=
  Turn.Leads (fun s => Path host files s₀ e s.core) m (fun _ s => Path host files s₀ e s.core)
    fun s => Path host files s₀ e s.core

variable {host : Host} {files : Files} {s₀ : ExtensionState} {e : Event} {calls : List SessionOp}

theorem ends_of_stays {α : Type} {m : Ext α} (h : Stays host files s₀ e calls m) :
    Ends host files s₀ e calls m :=
  leads_mono h (fun _ hat => hat) fun _ _ hat => hat.path

theorem ends_of_closes {α : Type} {m : Ext α} (h : Closes host files s₀ e m) :
    Ends host files s₀ e calls m :=
  leads_mono h (fun _ hat => hat.path) fun _ _ hpath => hpath

/-- Code that writes no part of the core. -/
def Quiet {α : Type} (m : Ext α) : Prop :=
  ∀ s, (m s).2.core = s.core

theorem quiet_modify {g : ExtensionState → ExtensionState} (h : ∀ s, (g s).core = s.core) :
    Quiet (modify g) := h

theorem quiet_pure {α : Type} (a : α) : Quiet (pure a) := fun _ => rfl

theorem quiet_bind {α β : Type} {m : Ext α} {f : α → Ext β} (hm : Quiet m) (hf : ∀ a, Quiet (f a)) :
    Quiet (m >>= f) := by
  intro s
  have hsame := hm s
  rcases hrun : m s with ⟨error | a, t⟩
  · rw [bind_eq_error hrun]
    rwa [hrun] at hsame
  · rw [bind_eq_ok hrun, hf a t]
    rwa [hrun] at hsame

theorem quiet_get_bind {α : Type} {f : ExtensionState → Ext α} (hf : ∀ s, Quiet (f s)) :
    Quiet (get >>= f) := fun s => hf s s

theorem quiet_ite {α : Type} {c : Prop} [Decidable c] {m n : Ext α} (hm : Quiet m) (hn : Quiet n) :
    Quiet (if c then m else n) := by
  split
  · exact hm
  · exact hn

theorem quiet_attempt {α : Type} {m : Ext α} (hm : Quiet m) : Quiet (Turn.attempt m) := hm

theorem Quiet.stays {α : Type} {m : Ext α} (h : Quiet m) : Stays host files s₀ e calls m := by
  intro s hat
  have hsame : At host files s₀ e calls (m s).2.core := by rwa [h s]
  refine ⟨fun a t hrun => ?_, fun error t hrun => ?_⟩
  · rwa [hrun] at hsame
  · rw [hrun] at hsame
    exact hsame.path

theorem Quiet.closes {α : Type} {m : Ext α} (h : Quiet m) : Closes host files s₀ e m := by
  intro s hpath
  have hsame : Path host files s₀ e (m s).2.core := by rwa [h s]
  refine ⟨fun a t hrun => ?_, fun error t hrun => ?_⟩
  · rwa [hrun] at hsame
  · rwa [hrun] at hsame

theorem leads_quiet_bind {α β : Type} {m : Ext α} {f : α → Ext β} {Q : β → ExtensionState → Prop}
    (h : Quiet m) (hf : ∀ a, Leads host files s₀ e calls (f a) Q) :
    Leads host files s₀ e calls (m >>= f) Q :=
  leads_bind h.stays hf

theorem leads_stays_bind {α β : Type} {m : Ext α} {f : α → Ext β} {Q : β → ExtensionState → Prop}
    (h : Stays host files s₀ e calls m) (hf : ∀ a, Leads host files s₀ e calls (f a) Q) :
    Leads host files s₀ e calls (m >>= f) Q :=
  leads_bind h hf

theorem ends_bind {α β : Type} {m : Ext α} {f : α → Ext β} (h : Ends host files s₀ e calls m)
    (hf : ∀ a, Closes host files s₀ e (f a)) : Ends host files s₀ e calls (m >>= f) :=
  leads_bind h hf

theorem ends_pure {α : Type} (a : α) : Ends host files s₀ e calls (pure a) :=
  leads_pure fun _ hat => hat.path

theorem closes_pure {α : Type} (a : α) : Closes host files s₀ e (pure a) := leads_pure fun _ h => h

theorem ends_throw {α : Type} (error : String) : Ends host files s₀ e calls (throw error : Ext α) :=
  leads_throw fun _ hat => hat.path

/-! ### What a path leaves -/

/-- Bringing the tools back changes nothing but the tools. -/
theorem restoreTools_frame (host : Host) (c : Core) : ∃ active saved,
    c.restoreTools host = { c with activeTools := active, savedActiveTools := saved } := by
  unfold Core.restoreTools
  split
  · exact ⟨_, _, rfl⟩
  · exact ⟨_, _, rfl⟩

@[simp] theorem restoreTools_session (host : Host) (c : Core) :
    (c.restoreTools host).session = c.session := by
  obtain ⟨active, saved, h⟩ := restoreTools_frame host c
  rw [h]

@[simp] theorem restoreTools_calls (host : Host) (c : Core) :
    (c.restoreTools host).calls = c.calls := by
  obtain ⟨active, saved, h⟩ := restoreTools_frame host c
  rw [h]

@[simp] theorem call_calls (host : Host) (c : Core) (op : SessionOp) :
    (c.call host op).calls = c.calls ++ [op] := rfl

/-- One more call. -/
theorem sessionAt_snoc (calls : List SessionOp) (op : SessionOp) :
    sessionAt host s₀ (calls ++ [op]) = (sessionStep host.digest op (sessionAt host s₀ calls)).2 := by
  simp [sessionAt, finish_append, finish]

/-- The session is where the calls have led. -/
theorem path_session {c : Core} (h : Path host files s₀ e c) : c.session = sessionAt host s₀ c.calls := by
  induction h with
  | start hstart =>
      rw [show s₀.core.calls = [] from hstart]
      rfl
  | @move c c' _ hmove ih =>
      have hcall : ∀ d : Core, d.session = sessionAt host s₀ d.calls → ∀ op,
          (d.call host op).session = sessionAt host s₀ (d.call host op).calls := by
        intro d hd op
        change (sessionStep host.digest op d.session).2 = sessionAt host s₀ (d.calls ++ [op])
        rw [sessionAt_snoc, hd]
      cases hmove with
      | called hsite => exact hcall _ ih _
      | restored hrestores => simpa using ih
      | started hcalls => exact hcall c.clearEvidence ih _
      | left hcalls hop =>
          refine hcall _ ?_ _
          rw [restoreTools_session, restoreTools_calls]
          exact ih
      | grillEntered hgoes hstage horch => exact hcall _ (hcall _ ih _) _
      | fetched he hcalls hactive hworkflow hcandidate hround => exact hcall _ ih _
      | supplemented hfinds hlive hfree => exact hcall _ ih _
      | supplementRefused hex hcontent => exact hcall _ ih _
      | fallbackEntered hmade hasks hkind hnoted => exact hcall _ ih _
      | finalized hcalls =>
          rw [restoreTools_session, restoreTools_calls]
          exact hcall _ ih _
      | _ => exact ih

theorem At.session {s : ExtensionState} (h : At host files s₀ e calls s.core) :
    s.session = sessionAt host s₀ calls := by
  rw [← h.calls]
  exact path_session h.path

/-- What stands as it was, as long as the session is not called. -/
def kept (c : Core) : SessionState × Option ActiveWorkflowContext × OrderedMap String EvidenceInput ×
    OrderedMap String EvidenceInput × Option String × Option EvidenceInput :=
  (c.session, c.activeWorkflow, c.fetchedGrillEvidence, c.fetchedDeepSupplementalEvidence,
    c.fallbackHumanDecisionId, c.fallbackHumanPremise)

theorem path_kept {c : Core} (h : Path host files s₀ e c) (hcalls : c.calls = []) :
    kept c = kept s₀.core := by
  induction h with
  | start hstart => rfl
  | @move c c' hpath hmove ih =>
      cases hmove with
      | activated | understanding | consentGiven | consentWithdrawn | convergenceEnded => exact ih hcalls
      | restored =>
          obtain ⟨active, saved, h⟩ := restoreTools_frame host c
          rw [h] at hcalls ⊢
          exact ih hcalls
      | convergenceStarted hround hanswer hmade hkind =>
          obtain ⟨request, snapshot, hmade⟩ := hmade
          exact absurd (hmade.symm.trans hcalls) (by simp)
      | discoveryNoted hlive hmade => exact absurd (hmade.symm.trans hcalls) (by simp)
      | fallbackConfirmed hmade => exact absurd (hmade.symm.trans hcalls) (by simp)
      | _ => exact absurd hcalls (by simp [Core.leave])

/-- As long as the session is not called, a convergence round can only have ended. -/
theorem path_convergence {c : Core} (h : Path host files s₀ e c) (hcalls : c.calls = []) :
    c.pendingConvergenceRoundId = none ∨ c.pendingConvergenceRoundId = s₀.pendingConvergenceRoundId := by
  induction h with
  | start hstart => exact .inr rfl
  | @move c c' hpath hmove ih =>
      cases hmove with
      | activated | understanding | consentGiven | consentWithdrawn => exact ih hcalls
      | convergenceEnded => exact .inl rfl
      | restored =>
          obtain ⟨active, saved, h⟩ := restoreTools_frame host c
          rw [h] at hcalls ⊢
          exact ih hcalls
      | convergenceStarted hround hanswer hmade hkind =>
          obtain ⟨request, snapshot, hmade⟩ := hmade
          exact absurd (hmade.symm.trans hcalls) (by simp)
      | discoveryNoted hlive hmade => exact absurd (hmade.symm.trans hcalls) (by simp)
      | fallbackConfirmed hmade => exact absurd (hmade.symm.trans hcalls) (by simp)
      | _ => exact absurd hcalls (by simp [Core.leave])

/-- Before the first call, the session and the workflow are those of the start. -/
theorem At.fresh {s : ExtensionState} (h : At host files s₀ e [] s.core) :
    s.session = s₀.session ∧ s.activeWorkflow = s₀.activeWorkflow := by
  have hkept := path_kept h.path h.calls
  simp only [kept, ExtensionState.core, Prod.mk.injEq] at hkept
  exact ⟨hkept.1, hkept.2.1⟩

/-- Before the first call, so is the evidence. -/
theorem At.fresh_evidence {s : ExtensionState} (h : At host files s₀ e [] s.core) :
    s.fetchedGrillEvidence = s₀.fetchedGrillEvidence ∧
      s.fetchedDeepSupplementalEvidence = s₀.fetchedDeepSupplementalEvidence ∧
      s.fallbackHumanDecisionId = s₀.fallbackHumanDecisionId ∧
      s.fallbackHumanPremise = s₀.fallbackHumanPremise := by
  have hkept := path_kept h.path h.calls
  simp only [kept, ExtensionState.core, Prod.mk.injEq] at hkept
  exact hkept.2.2

/-! ### Calls of the session -/

theorem core_call {op : SessionOp} {α : Type} {run : Session α} (wrap : α → SessionResult)
    (hop : Session.runOp host.digest op = wrap <$> run) (s : ExtensionState) :
    (call op run s).2.core = s.core.call host op := by
  simp [call, Core.call, ExtensionState.core, sessionStep, hop, map_apply]

/-- The run of the session behind a call. -/
theorem call_run {α : Type} {op : SessionOp} {run : Session α} {s t : ExtensionState} {r : Except String α}
    (h : call op run s = (r, t)) : run s.session = (r, t.session) := by
  obtain ⟨rfl, rfl⟩ := Prod.mk.inj h
  rfl

/-- A call writes nothing but the session. -/
theorem call_frame {α : Type} {op : SessionOp} {run : Session α} {s t : ExtensionState} {r : Except String α}
    (h : call op run s = (r, t)) : t = { s with session := t.session, calls := s.calls ++ [op] } := by
  obtain ⟨rfl, rfl⟩ := Prod.mk.inj h
  rfl

/-- A call at one of its sites. -/
theorem call_rule {α : Type} {op : SessionOp} {run : Session α} (wrap : α → SessionResult)
    (hop : Session.runOp host.digest op = wrap <$> run) (hsite : CallSite host s₀ e calls op) :
    Leads host files s₀ e calls (call op run) fun a s => At host files s₀ e (calls ++ [op]) s.core ∧
      run (sessionAt host s₀ calls) = (.ok a, sessionAt host s₀ (calls ++ [op])) := by
  intro s hat
  have hnext : At host files s₀ e (calls ++ [op]) (call op run s).2.core := by
    rw [core_call wrap hop]
    exact ⟨.move hat.path (.called (by rwa [hat.calls])), by rw [call_calls, hat.calls]⟩
  have hrun : run (sessionAt host s₀ calls) =
      ((call op run s).1, sessionAt host s₀ (calls ++ [op])) := by
    rw [← hnext.session, ← hat.session]
    rfl
  refine ⟨fun a t hout => ?_, fun error t hout => ?_⟩
  · rw [hout] at hnext hrun
    exact ⟨hnext, hrun⟩
  · rw [hout] at hnext
    exact hnext.path

/-- After a rule that also gives a fact, the fact is at hand. -/
theorem leads_fact_bind {α β : Type} {m : Ext α} {f : α → Ext β} {l : List SessionOp}
    {R : α → Prop} {Q : β → ExtensionState → Prop}
    (hm : Leads host files s₀ e calls m fun a s => At host files s₀ e l s.core ∧ R a)
    (hf : ∀ a, R a → Leads host files s₀ e l (f a) Q) : Leads host files s₀ e calls (m >>= f) Q :=
  leads_bind hm fun a s hs => hf a hs.2 s hs.1

/-- A call, and what follows from its result. -/
theorem leads_call_bind {α β : Type} {op : SessionOp} {run : Session α} {f : α → Ext β}
    {Q : β → ExtensionState → Prop} (wrap : α → SessionResult) (hop : Session.runOp host.digest op = wrap <$> run)
    (hsite : CallSite host s₀ e calls op)
    (hf : ∀ a, run (sessionAt host s₀ calls) = (.ok a, sessionAt host s₀ (calls ++ [op])) →
      Leads host files s₀ e (calls ++ [op]) (f a) Q) :
    Leads host files s₀ e calls (call op run >>= f) Q :=
  leads_fact_bind (call_rule wrap hop hsite) hf

/-- A call that answers with the state of the session. -/
theorem ui_call_rule {op : SessionOp} {run : Session ForgeUiState}
    (hop : Session.runOp host.digest op = .ui <$> run) (hshows : Session.ShowsUi run)
    (hsite : CallSite host s₀ e calls op) :
    Leads host files s₀ e calls (call op run) fun ui s => At host files s₀ e (calls ++ [op]) s.core ∧
      ui = (sessionAt host s₀ (calls ++ [op])).uiState := by
  exact leads_mono (call_rule .ui hop hsite) (fun _ hat => hat)
    fun ui s h => ⟨h.1, hshows _ _ _ h.2⟩

/-! ### Tools -/

/-- The tools of a stage are activated, after those of the user have been saved. -/
theorem activateTools_rule {tools : List String} (hgoes : GoesOn calls)
    (htools : tools ∈ [grillToolNames, deepRetrievalToolNames, contextBuildToolNames, adrBuildToolNames]) :
    Stays host files s₀ e calls (do saveActiveTools host; setActiveTools host tools) :=
  leads_of_ok fun s hat => ⟨_, _, rfl, .move hat.path (.activated (by rwa [hat.calls]) htools), hat.calls⟩

theorem activateGrillTools_rule (hgoes : GoesOn calls) :
    Stays host files s₀ e calls (activateGrillTools host) :=
  activateTools_rule hgoes (by simp)

theorem activateDeepRetrievalTools_rule (hgoes : GoesOn calls) :
    Stays host files s₀ e calls (activateDeepRetrievalTools host) :=
  leads_of_ok fun s hat => ⟨_, _, rfl, .move hat.path (.activated (by rwa [hat.calls]) (by simp)), hat.calls⟩

theorem activateContextBuildTools_rule (hgoes : GoesOn calls) :
    Stays host files s₀ e calls (activateContextBuildTools host) :=
  activateTools_rule hgoes (by simp)

theorem activateAdrBuildTools_rule (hgoes : GoesOn calls) :
    Stays host files s₀ e calls (activateAdrBuildTools host) :=
  activateTools_rule hgoes (by simp)

theorem activateDeepUnderstandingTools_rule (henters : EntersUnderstanding host s₀ e calls)
    (h : (sessionAt host s₀ calls).deepAttempt.map (·.phase) = some .knowledgeUnderstanding) :
    Stays host files s₀ e calls (activateDeepUnderstandingTools host) := by
  refine leads_of_ok fun _ hat => ⟨_, _, rfl, .move hat.path (.understanding (by rwa [hat.calls]) ?_), hat.calls⟩
  rw [← h, ← hat.session]
  rfl

/-- The state after `restoreActiveTools`. -/
def restored (host : Host) (s : ExtensionState) : ExtensionState :=
  match s.savedActiveTools with
  | some saved =>
      { s with
        activeTools := if host.setActiveTools then saved else s.activeTools
        savedActiveTools := none }
  | none => s

theorem restoreActiveTools_apply (host : Host) (s : ExtensionState) :
    restoreActiveTools host s = (.ok (), restored host s) := by
  unfold restored
  cases hsaved : s.savedActiveTools with
  | none => simp [restoreActiveTools, hsaved]
  | some saved => simp [restoreActiveTools, hsaved, setActiveTools]

@[simp] theorem restoreActiveTools_bind_apply {β : Type} (host : Host) (f : Unit → Ext β)
    (s : ExtensionState) : (restoreActiveTools host >>= f) s = f () (restored host s) :=
  bind_eq_ok (restoreActiveTools_apply host s)

theorem restored_core (host : Host) (s : ExtensionState) :
    (restored host s).core = s.core.restoreTools host := by
  unfold restored Core.restoreTools
  change _ = match s.savedActiveTools with | some saved => _ | none => _
  cases s.savedActiveTools <;> rfl

@[simp] theorem restored_session (host : Host) (s : ExtensionState) :
    (restored host s).session = s.session := by
  unfold restored
  split <;> rfl

theorem restoreActiveTools_rule (h : RestoresTools s₀ e calls) :
    Stays host files s₀ e calls (restoreActiveTools host) := by
  refine leads_of_ok fun s hat => ⟨_, _, restoreActiveTools_apply host s, ?_⟩
  have hat' : At host files s₀ e calls (s.core.restoreTools host) :=
    ⟨.move hat.path (.restored (by rwa [hat.calls])), by rw [restoreTools_calls, hat.calls]⟩
  rwa [← restored_core] at hat'

/-! ### Quiet actions -/

theorem quiet_emit (effect : Effect) : Quiet (emit effect) := fun _ => rfl

theorem quiet_notify (message : String) : Quiet (notify message) := fun _ => rfl

theorem quiet_publishState (state : ForgeUiState) : Quiet (publishState state) := fun _ => rfl

theorem quiet_sendUserMessage (content : String) : Quiet (sendUserMessage content) := fun _ => rfl

theorem quiet_releaseUiLease (key : DecisionKey) : Quiet (releaseUiLease key) := fun _ => rfl

theorem quiet_requireBoundary (enforceable : Bool) (notice : String) :
    Quiet (requireBoundary enforceable notice) := by
  cases enforceable with
  | false => exact fun _ => rfl
  | true => exact fun _ => rfl

/-! ### The start of a step -/

/-- A handler leads from the start of the step along a path. -/
abbrev Starts (host : Host) (files : Files) (s₀ : ExtensionState) (e : Event) {α : Type} (m : Ext α) :
    Prop :=
  Turn.Leads (· = s₀) m (fun _ s => Path host files s₀ e s.core) fun s => Path host files s₀ e s.core

theorem at_start (hstart : s₀.calls = []) : At host files s₀ e [] s₀.core := ⟨.start hstart, hstart⟩

theorem starts_of_ends {α : Type} {m : Ext α} (hstart : s₀.calls = []) (h : Ends host files s₀ e [] m) :
    Starts host files s₀ e m :=
  leads_mono h (fun _ hs => by rw [hs]; exact at_start hstart) fun _ _ hpath => hpath

/-- What a handler reads first is the state of the start. -/
theorem starts_get_bind {α : Type} {f : ExtensionState → Ext α} (hstart : s₀.calls = [])
    (h : Ends host files s₀ e [] (f s₀)) : Starts host files s₀ e (get >>= f) := by
  intro s hs
  rw [hs]
  exact h s₀ (at_start hstart)

/-! ### The current round -/

theorem continueGrillRound_apply (s : ExtensionState) : sessionState.continueGrillRound s =
    (match s.session.currentGrillRound with
      | some round => .ok round
      | none => .error "No active Grill round to continue", s) := by
  cases hround : s.session.currentGrillRound with
  | none => simp [sessionState.continueGrillRound, hround]
  | some round => simp [sessionState.continueGrillRound, hround]

theorem continueGrillRound_rule : Leads host files s₀ e calls sessionState.continueGrillRound
    fun round s => At host files s₀ e calls s.core ∧
      (sessionAt host s₀ calls).currentGrillRound = some round := by
  refine leads_get_bind fun s hat => ?_
  cases hround : s.session.currentGrillRound with
  | none => exact leads_throw fun _ hat => hat.path
  | some round =>
      rw [hat.session] at hround
      exact leads_pure fun _ hat => ⟨hat, hround⟩

end Extension

end ForgeRuntime
