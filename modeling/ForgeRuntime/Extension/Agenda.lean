import ForgeRuntime.Extension.Invocations
import ForgeRuntime.Extension.MoveRules

/-!
# What is pending

Besides the core there is what the extension still has to do: the invocations that wait to be sent, the batch of
searches that is running, the question that is leased to a UI, and the code that is suspended.  `Agenda` is this
part of the state, with the session beside it, and with the texts that the running step has sent.

A fact about the agenda is carried through a handler by rules of the form "this function keeps `I`", where `I`
need only survive the writes that the function makes:

* `Steady` — `I` survives the calls of the session, the note whether Grill runs, and what is done with the texts of
  the Grill rounds and of the Deep steps;
* `Clears`, `Builds`, `Asks`, `Sends` — it survives `clearPendingState`, the writes of the build invocations, the
  opening and the end of a UI, and the sending of any text;
* `Holds` — a function keeps `I`; the functions are listed in the order of their files;
* `Brings` — a function leads from one fact to another.
-/

namespace ForgeRuntime

open EventDriven EventDriven.Text EventDriven.Turn EventDriven.Machine

/-- What the extension still has to do, with the session. -/
structure Agenda where
  session : SessionState
  pendingGrillRun : Bool
  pendingSettledBuildInvocation : Option PendingSettledBuildInvocation
  pendingSettledBuildInvocationTimer : Option PendingSettledBuildInvocation
  lastSentContextBuildInvocation : Option PendingSettledBuildInvocation
  replayedContextBuildIdentity : Option BuildIdentity
  activeWaitUserUiLeaseKey : Option DecisionKey
  deepRetrievalBatch : Option DeepRetrievalBatch
  suspended : List Suspension
  keptTexts : List String
  sentTexts : List String

def ExtensionState.agenda (s : ExtensionState) : Agenda :=
  { session := s.session
    pendingGrillRun := s.pendingGrillRun
    pendingSettledBuildInvocation := s.pendingSettledBuildInvocation
    pendingSettledBuildInvocationTimer := s.pendingSettledBuildInvocationTimer
    lastSentContextBuildInvocation := s.lastSentContextBuildInvocation
    replayedContextBuildIdentity := s.replayedContextBuildIdentity
    activeWaitUserUiLeaseKey := s.activeWaitUserUiLeaseKey
    deepRetrievalBatch := s.deepRetrievalBatch
    suspended := s.suspended
    keptTexts := s.keptTexts
    sentTexts := s.sentTexts }

namespace Agenda

/-- A call of the session. -/
def call (host : Host) (op : SessionOp) (a : Agenda) : Agenda :=
  { a with session := (sessionStep host.digest op a.session).2 }

/-- What `clearPendingState` leaves. -/
def cleared (a : Agenda) : Agenda :=
  { a with
    pendingGrillRun := false
    pendingSettledBuildInvocation := none
    pendingSettledBuildInvocationTimer := none
    lastSentContextBuildInvocation := none
    replayedContextBuildIdentity := none
    activeWaitUserUiLeaseKey := none
    keptTexts := [] }

end Agenda

/-- `I` survives the calls of the session, of which those that issue a Deep attempt are made only in a host that
can send a message, the note whether Grill runs, and that the texts of the Grill rounds and of the Deep steps are kept
and sent: one that is kept or sent was kept before, or is made. -/
structure Steady (host : Host) (I : Agenda → Prop) : Prop where
  call : ∀ a op, (op.issuesDeep = true → host.sendUserMessage = true) → I a → I (a.call host op)
  grillRun : ∀ a running, I a → I { a with pendingGrillRun := running }
  texts : ∀ a kept sent, (∀ text ∈ kept ++ sent, text ∈ a.keptTexts ∨ Extension.Invocation host text) → I a →
    I { a with
      keptTexts := kept
      sentTexts := a.sentTexts ++ sent }

/-- `I` survives `clearPendingState`. -/
def Clears (I : Agenda → Prop) : Prop := ∀ a, I a → I a.cleared

/-- `I` survives every write of the invocations of the build stages. -/
def Builds (I : Agenda → Prop) : Prop := ∀ a pending timer lastSent replayed, I a →
  I { a with
    pendingSettledBuildInvocation := pending
    pendingSettledBuildInvocationTimer := timer
    lastSentContextBuildInvocation := lastSent
    replayedContextBuildIdentity := replayed }

/-- `I` survives what is done with a UI and with suspended code. -/
def Asks (I : Agenda → Prop) : Prop := ∀ a lease suspended, I a →
  I { a with
    activeWaitUserUiLeaseKey := lease
    suspended := suspended }

/-- `I` survives that any text is sent. -/
def Sends (I : Agenda → Prop) : Prop := ∀ a sent, I a → I { a with sentTexts := sent }

theorem Steady.and {host : Host} {I J : Agenda → Prop} (hI : Steady host I) (hJ : Steady host J) :
    Steady host fun a => I a ∧ J a where
  call a op hop ha := ⟨hI.call a op hop ha.1, hJ.call a op hop ha.2⟩
  grillRun a running ha := ⟨hI.grillRun a running ha.1, hJ.grillRun a running ha.2⟩
  texts a kept sent hnew ha := ⟨hI.texts a kept sent hnew ha.1, hJ.texts a kept sent hnew ha.2⟩

namespace Extension

/-- `m` keeps `I` of the agenda, on return and on throw. -/
abbrev Holds (I : Agenda → Prop) {α : Type} (m : Ext α) : Prop :=
  Turn.Keeps (fun s : ExtensionState => I s.agenda) m

/-- `m` writes no part of the agenda. -/
def Untouched {α : Type} (m : Ext α) : Prop := ∀ s, (m s).2.agenda = s.agenda

variable {host : Host} {files : Files} {I : Agenda → Prop}

/-! ### Rules -/

theorem Untouched.holds {α : Type} {m : Ext α} (h : Untouched m) : Holds I m := by
  intro s hs
  rwa [h s]

theorem untouched_bind {α β : Type} {m : Ext α} {f : α → Ext β} (hm : Untouched m) (hf : ∀ a, Untouched (f a)) :
    Untouched (m >>= f) := by
  intro s
  have hsame := hm s
  rcases hrun : m s with ⟨error | a, t⟩
  · rw [bind_eq_error hrun]
    rwa [hrun] at hsame
  · rw [bind_eq_ok hrun, hf a t]
    rwa [hrun] at hsame

theorem untouched_get_bind {α : Type} {f : ExtensionState → Ext α} (hf : ∀ s, Untouched (f s)) :
    Untouched (get >>= f) := fun s => hf s s

theorem untouched_ite {α : Type} {c : Prop} [Decidable c] {m n : Ext α} (hm : Untouched m) (hn : Untouched n) :
    Untouched (if c then m else n) := by
  split
  · exact hm
  · exact hn

theorem holds_get_bind {α : Type} {f : ExtensionState → Ext α} (hf : ∀ s, Holds I (f s)) :
    Holds I (get >>= f) := fun s hs => hf s s hs

theorem holds_untouched_bind {α β : Type} {m : Ext α} {f : α → Ext β} (hm : Untouched m)
    (hf : ∀ a, Holds I (f a)) : Holds I (m >>= f) :=
  keeps_bind hm.holds hf

/-- A write of variables that are not on the agenda. -/
theorem holds_modify_bind {α : Type} {g : ExtensionState → ExtensionState} {f : Unit → Ext α}
    (hg : ∀ s, (g s).agenda = s.agenda) (hf : Holds I (f ())) : Holds I (modify g >>= f) :=
  holds_untouched_bind (m := modify g) hg fun _ => hf

/-- From `J` of the agenda, `m` leads to `I` of it, on return and on throw. -/
def Brings (J I : Agenda → Prop) {α : Type} (m : Ext α) : Prop := ∀ s, J s.agenda → I (m s).2.agenda

theorem Untouched.brings {J : Agenda → Prop} {α : Type} {m : Ext α} (h : Untouched m) (hJ : ∀ a, J a → I a) :
    Brings J I m := by
  intro s hs
  rw [h s]
  exact hJ _ hs

/-- What `m` returns may be known. -/
theorem brings_untouched_bind {J : Agenda → Prop} {α β : Type} {m : Ext α} {f : α → Ext β} {F : α → Prop}
    (hm : Untouched m) (hF : ∀ s a t, m s = (.ok a, t) → F a) (hJ : ∀ a, J a → I a)
    (hf : ∀ a, F a → Brings J I (f a)) : Brings J I (m >>= f) := by
  intro s hs
  have hsame := hm s
  rcases hrun : m s with ⟨error | a, t⟩
  · rw [bind_eq_error hrun]
    rw [hrun] at hsame
    rw [hsame]
    exact hJ _ hs
  · rw [bind_eq_ok hrun]
    rw [hrun] at hsame
    exact hf a (hF s a t hrun) t (hsame ▸ hs)

theorem brings_skip {J : Agenda → Prop} {α β : Type} {m : Ext α} {f : α → Ext β} (hm : Untouched m)
    (hJ : ∀ a, J a → I a) (hf : ∀ a, Brings J I (f a)) : Brings J I (m >>= f) :=
  brings_untouched_bind (F := fun _ => True) hm (fun _ _ _ _ => trivial) hJ fun a _ => hf a

theorem brings_get_bind {J : Agenda → Prop} {α : Type} {f : ExtensionState → Ext α}
    (hf : ∀ s, J s.agenda → Brings (· = s.agenda) I (f s)) : Brings J I (get >>= f) := fun s hs => hf s hs s rfl

/-- An effect that is no message to the model. -/
theorem untouched_emit {effect : Effect} (h : effect.sentText? = none) : Untouched (emit effect) := by
  intro s
  simp [emit, ExtensionState.agenda, ExtensionState.keptTexts, ExtensionState.sentTexts, h]

theorem untouched_pure {α : Type} (a : α) : Untouched (pure a : Ext α) := fun _ => rfl

theorem untouched_notify (message : String) : Untouched (notify message) := untouched_emit rfl

theorem untouched_publishState (state : ForgeUiState) : Untouched (publishState state) := untouched_emit rfl

theorem untouched_requireBoundary (enforceable : Bool) (notice : String) :
    Untouched (requireBoundary enforceable notice) := by
  cases enforceable with
  | false => exact untouched_bind (untouched_notify notice) fun _ => untouched_pure false
  | true => exact untouched_pure true

/-- A message to the model. -/
theorem sendUserMessage_agenda (content : String) (s : ExtensionState) :
    (sendUserMessage content s).2.agenda =
      { s.agenda with sentTexts := s.agenda.sentTexts ++ [content] } := by
  simp [sendUserMessage, emit, ExtensionState.agenda, ExtensionState.keptTexts, ExtensionState.sentTexts,
    Effect.sentText?]

theorem holds_sendUserMessage (hI : Steady host I) {content : String} (h : Invocation host content) :
    Holds I (sendUserMessage content) := by
  intro s hs
  rw [sendUserMessage_agenda]
  refine hI.texts s.agenda s.agenda.keptTexts [content] (fun text htext => ?_) hs
  rcases List.mem_append.mp htext with hkept | hsent
  · exact .inl hkept
  · exact .inr (List.mem_singleton.mp hsent ▸ h)

/-- A text of a Grill round or of a Deep step is kept. -/
theorem holds_modify_kept (hI : Steady host I) {g : ExtensionState → ExtensionState}
    (hg : ∀ s, (g s).agenda = { s.agenda with keptTexts := (g s).keptTexts })
    (htexts : ∀ s, ∀ text ∈ (g s).keptTexts, text ∈ s.keptTexts ∨ Invocation host text) : Holds I (modify g) := by
  intro s hs
  have hkept := hI.texts s.agenda (g s).keptTexts []
    (fun text htext => htexts s text (List.append_nil (g s).keptTexts ▸ htext)) hs
  rw [List.append_nil] at hkept
  show I (g s).agenda
  rwa [hg s]

theorem holds_keepDeep (hI : Steady host I) {pending : PendingSettledDeepInvocation}
    (h : Invocation host pending.invocation) :
    Holds I (modify fun s => { s with pendingSettledDeepInvocation := some pending }) := by
  refine holds_modify_kept hI (fun _ => rfl) fun s text htext => ?_
  rcases ExtensionState.mem_keptTexts.mp htext with ⟨new, hnew, hsame⟩ | hold
  · obtain rfl := Option.some.inj hnew
    exact .inr (hsame ▸ h)
  · exact .inl (ExtensionState.mem_keptTexts.mpr (.inr hold))

/-- A text that was kept is sent, and is kept no longer. -/
theorem holds_sendKept (hI : Steady host I) {s t : ExtensionState} {content : String}
    (ht : t.agenda = { s.agenda with keptTexts := t.keptTexts }) (hfewer : ∀ text ∈ t.keptTexts, text ∈ s.keptTexts)
    (hcontent : content ∈ s.keptTexts) (hs : I s.agenda) : I (sendUserMessage content t).2.agenda := by
  rw [sendUserMessage_agenda, ht]
  refine hI.texts s.agenda t.keptTexts [content] (fun text htext => .inl ?_) hs
  rcases List.mem_append.mp htext with hkept | hsent
  · exact hfewer text hkept
  · exact List.mem_singleton.mp hsent ▸ hcontent

theorem holds_sendAny (hsends : Sends I) (content : String) : Holds I (sendUserMessage content) := by
  intro s hs
  rw [sendUserMessage_agenda]
  exact hsends s.agenda _ hs

/-- A call of the session. -/
theorem holds_call {α : Type} {op : SessionOp} {run : Session α} (hI : Steady host I) (wrap : α → SessionResult)
    (hop : Session.runOp host.digest op = wrap <$> run)
    (hsend : op.issuesDeep = true → host.sendUserMessage = true) : Holds I (call op run) := by
  intro s hs
  have hcall : (call op run s).2.agenda = s.agenda.call host op := by
    simp [call, Agenda.call, ExtensionState.agenda, ExtensionState.keptTexts, ExtensionState.sentTexts, sessionStep, hop,
      map_apply]
  rw [hcall]
  exact hI.call _ op hsend hs

/-- A call with what it did: the rest starts from the state that the call has left. -/
theorem brings_call_bind {J : Agenda → Prop} {α β : Type} {op : SessionOp} {run : Session α} {f : α → Ext β}
    (wrap : α → SessionResult) (hop : Session.runOp host.digest op = wrap <$> run)
    (hthrow : ∀ a, J a → I (a.call host op))
    (hf : ∀ s a t, J s.agenda → call op run s = (.ok a, t) → t.agenda = s.agenda.call host op →
      SessionMove host.digest s.session op (.ok (wrap a)) t.session → I (f a t).2.agenda) :
    Brings J I (call op run >>= f) := by
  intro s hs
  have hcall : (call op run s).2.agenda = s.agenda.call host op := by
    simp [call, Agenda.call, ExtensionState.agenda, ExtensionState.keptTexts, ExtensionState.sentTexts, sessionStep, hop,
      map_apply]
  have hmove := step_move host.digest s.session op
  have hstep : sessionStep host.digest op s.session = ((run s.session).1.map wrap, (run s.session).2) := by
    simp only [sessionStep, hop, map_apply]
  rw [hstep] at hmove
  rcases hrun : call op run s with ⟨error | a, t⟩
  · rw [bind_eq_error hrun]
    rw [hrun] at hcall
    rw [hcall]
    exact hthrow _ hs
  · rw [bind_eq_ok hrun]
    rw [hrun] at hcall
    rw [call_run hrun] at hmove
    exact hf s a t hs hrun hcall hmove

/-! ### Tools -/

theorem untouched_activateTools (tools : List String) :
    Untouched (do saveActiveTools host; setActiveTools host tools) := fun _ => rfl

theorem untouched_activateGrillTools : Untouched (activateGrillTools host) := untouched_activateTools _

theorem untouched_activateContextBuildTools : Untouched (activateContextBuildTools host) :=
  untouched_activateTools _

theorem untouched_activateAdrBuildTools : Untouched (activateAdrBuildTools host) := untouched_activateTools _

theorem untouched_activateDeepUnderstandingTools : Untouched (activateDeepUnderstandingTools host) :=
  fun _ => rfl

theorem holds_activateDeepRetrievalTools (hI : Steady host I) : Holds I (activateDeepRetrievalTools host) :=
  fun s hs => hI.grillRun s.agenda false hs

theorem untouched_restoreActiveTools : Untouched (restoreActiveTools host) := by
  intro s
  rw [restoreActiveTools_apply]
  unfold restored
  split
  · rfl
  · rfl

theorem holds_releaseGrillBoundary (hI : Steady host I) : Holds I (releaseGrillBoundary host) :=
  keeps_bind (fun s hs => hI.grillRun s.agenda false hs) fun _ => untouched_restoreActiveTools.holds

theorem holds_clearPendingState (hclear : Clears I) : Holds I clearPendingState :=
  fun s hs => hclear s.agenda hs

theorem untouched_clearFallbackWorkflowState : Untouched clearFallbackWorkflowState := fun _ => rfl

/-! ### Asking the user -/

theorem holds_releaseUiLease (hask : Asks I) (key : DecisionKey) : Holds I (releaseUiLease key) :=
  fun s hs => hask s.agenda _ _ hs

theorem holds_openSelector (hask : Asks I) (ui : OpenUi) : Holds I (openSelector ui) :=
  holds_untouched_bind (untouched_emit rfl) fun _ s hs => hask s.agenda _ _ hs

theorem holds_handleWaitUserState (hask : Asks I) (ctx : CommandContext) (state : ForgeUiState) (key : DecisionKey)
    (reply : Option ToolResult) (catches : Bool) : Holds I (handleWaitUserState ctx state key reply catches) := by
  refine holds_untouched_bind (untouched_publishState _) fun _ => ?_
  cases state.waitUser with
  | none => exact keeps_bind (holds_releaseUiLease hask _) fun _ => keeps_pure _
  | some decision =>
      refine keeps_ite ?_ ?_
      · exact keeps_bind (holds_openSelector hask _) fun _ => keeps_pure _
      · exact keeps_bind (holds_releaseUiLease hask _) fun _ => keeps_pure _

theorem holds_publishWaitUser (hI : Steady host I) (hask : Asks I) (ctx : CommandContext)
    (payload : WaitUserPayload) (reply : Option ToolResult) (catches : Bool) :
    Holds I (publishWaitUser ctx payload reply catches) := by
  have hlease : ∀ lease, Holds I (modify fun s => { s with activeWaitUserUiLeaseKey := lease }) :=
    fun lease s hs => hask s.agenda _ _ hs
  refine holds_get_bind fun s => ?_
  split
  · refine keeps_ite (keeps_pure _) (keeps_ite (keeps_pure _) ?_)
    exact keeps_bind (hlease _) fun _ => holds_handleWaitUserState hask _ _ _ _ _
  · refine keeps_bind (hlease _) fun _ => ?_
    refine keeps_bind (keeps_tryCatch (holds_call hI .ui rfl nofun) fun error => ?_) fun state => ?_
    · exact keeps_bind (holds_releaseUiLease hask _) fun _ => keeps_throw _
    · exact holds_handleWaitUserState hask _ _ _ _ _

/-! ### Leaving a workflow -/

theorem holds_cancelWorkflow (hI : Steady host I) (hclear : Clears I) : Holds I (cancelWorkflow host) := by
  have hleave : ∀ {op : SessionOp} {run : Session ForgeUiState} {g : ExtensionState → ExtensionState},
      Session.runOp host.digest op = .ui <$> run → op.issuesDeep = false →
      Holds I (modify g) → Holds I (do modify g; publishState (← call op run)) := by
    intro op run g hop hdeep hg
    refine keeps_bind hg fun _ => keeps_bind (holds_call hI .ui hop fun h => ?_) fun _ =>
      (untouched_publishState _).holds
    rw [hdeep] at h
    cases h
  refine holds_modify_bind (fun _ => rfl) (holds_get_bind fun s => ?_)
  refine holds_modify_bind (fun _ => rfl) (keeps_bind (holds_clearPendingState hclear) fun _ => ?_)
  refine holds_untouched_bind untouched_clearFallbackWorkflowState fun _ => ?_
  refine holds_untouched_bind untouched_restoreActiveTools fun _ => ?_
  refine keeps_ite ?_ (keeps_ite ?_ ?_)
  · exact hleave rfl rfl fun s hs => hI.grillRun s.agenda false hs
  · exact hleave rfl rfl fun s hs => hI.grillRun s.agenda false hs
  · exact hleave rfl rfl fun s hs => hs

theorem holds_leaveWorkflow (hI : Steady host I) (hclear : Clears I) : Holds I (leaveWorkflow host) := by
  refine holds_modify_bind (fun _ => rfl) ?_
  refine holds_untouched_bind untouched_clearFallbackWorkflowState fun _ => ?_
  refine holds_modify_bind (fun _ => rfl) (keeps_bind (holds_clearPendingState hclear) fun _ => ?_)
  refine holds_untouched_bind untouched_restoreActiveTools fun _ => ?_
  exact keeps_bind (holds_call hI .ui rfl nofun) fun _ => keeps_pure _

/-! ### Entering the stages -/

theorem untouched_grillingInvocation (request roundId : String) (manifest : List GrillEvidenceManifestEntry) :
    Untouched (grillingInvocation host files request roundId manifest) := by
  intro s
  unfold grillingInvocation
  cases files.grillingSkill <;> rfl

theorem untouched_buildInvocation (request : BuildSkillInvocationRequest) :
    Untouched (buildInvocation host files request) := by
  unfold buildInvocation
  cases files.contextBuildSkill with
  | error error => exact fun _ => rfl
  | ok file => exact untouched_bind (untouched_emit rfl) fun _ => untouched_pure _

theorem untouched_continueGrillRound : Untouched sessionState.continueGrillRound := by
  intro s
  rw [continueGrillRound_apply]

/-- A call whose result is shown. -/
theorem holds_show_bind {α : Type} {op : SessionOp} {run : Session ForgeUiState} {f : ForgeUiState → Ext α}
    (hI : Steady host I) (hop : Session.runOp host.digest op = .ui <$> run)
    (hsend : op.issuesDeep = true → host.sendUserMessage = true) (hf : ∀ state, Holds I (f state)) :
    Holds I (call op run >>= f) :=
  keeps_bind (holds_call hI .ui hop hsend) hf

theorem holds_continueDeepKnowledge (hI : Steady host I) {ctx : CommandContext} {summary : Option String}
    {onProceed : Ext Unit} {mode : DeliveryMode} {bypass : Bool} {reply : Option ToolResult}
    (hpublish : bypass = false → ∀ payload, Holds I (publishWaitUser ctx payload reply false))
    (hproceed : Holds I onProceed) :
    Holds I (continueDeepKnowledge host ctx summary onProceed mode bypass reply) := by
  refine holds_get_bind fun s => ?_
  dsimp only
  split
  case isTrue hrelevance =>
    refine holds_untouched_bind untouched_continueGrillRound fun round => ?_
    exact keeps_bind (hpublish hrelevance.2.1 _) fun _ => keeps_pure _
  case isFalse =>
    -- the boundary that is demanded here includes that the host can send
    cases hboundary : canEnforceToolBoundary host && host.sendUserMessage with
    | false =>
        unfold requireDeepToolBoundary
        rw [hboundary]
        exact (untouched_notify _).holds
    | true =>
        have hsend : host.sendUserMessage = true := (Bool.and_eq_true_iff.mp hboundary).2
        unfold requireDeepToolBoundary
        rw [hboundary]
        refine holds_untouched_bind (untouched_requireBoundary _ _) fun enforceable => keeps_ite (keeps_pure _) ?_
        refine holds_show_bind hI rfl (fun _ => hsend) fun state => ?_
        refine holds_untouched_bind (untouched_publishState _) fun _ => holds_get_bind fun s => ?_
        cases s.session.deepAttempt with
        | none => exact keeps_throw _
        | some attempt =>
            refine keeps_bind hproceed fun _ => ?_
            cases mode with
            | settled => exact keeps_pure _
            | followUp =>
                refine holds_modify_bind (fun _ => rfl) ?_
                exact keeps_bind (holds_sendUserMessage hI (.deepStarted _ _)) fun _ => keeps_pure _

theorem holds_discoverAndGrill (hI : Steady host I) (goal rootDir : String) :
    Holds I (discoverAndGrill host files goal rootDir) := by
  refine holds_get_bind fun s => keeps_bind (holds_call hI .round rfl nofun) fun round => ?_
  exact holds_modify_bind (fun _ => rfl) (keeps_pure _)

theorem holds_grillRun_bind {α : Type} {f : Unit → Ext α} {running : Bool} (hI : Steady host I)
    (hf : Holds I (f ())) : Holds I ((modify fun s => { s with pendingGrillRun := running }) >>= f) :=
  keeps_bind (fun s hs => hI.grillRun s.agenda running hs) fun _ => hf

theorem holds_restartLightDiscoveryAndGrill (hI : Steady host I) (workflow : ActiveWorkflowContext) :
    Holds I (restartLightDiscoveryAndGrill host files workflow) := by
  refine holds_show_bind hI rfl nofun fun _ => holds_untouched_bind (untouched_publishState _) fun _ => ?_
  refine keeps_bind (holds_discoverAndGrill hI _ _) fun found => holds_grillRun_bind hI ?_
  refine holds_untouched_bind untouched_activateGrillTools fun _ => ?_
  refine holds_show_bind hI rfl nofun fun _ => holds_untouched_bind (untouched_publishState _) fun _ => ?_
  exact (untouched_grillingInvocation _ _ _).holds

theorem holds_startWorkflow (hI : Steady host I) (request rootDir : String) :
    Holds I (startWorkflow host files request rootDir) := by
  refine holds_untouched_bind untouched_clearFallbackWorkflowState fun _ => ?_
  refine holds_show_bind hI rfl nofun fun _ => holds_untouched_bind (untouched_publishState _) fun _ => ?_
  refine holds_show_bind hI rfl nofun fun _ => holds_untouched_bind (untouched_publishState _) fun _ => ?_
  refine holds_grillRun_bind hI (keeps_bind (holds_discoverAndGrill hI _ _) fun found => ?_)
  refine holds_untouched_bind untouched_activateGrillTools fun _ => ?_
  refine holds_show_bind hI rfl nofun fun _ => holds_untouched_bind (untouched_publishState _) fun _ => ?_
  exact (untouched_grillingInvocation _ _ _).holds

/-! ### Answers to Grill questions -/

theorem holds_recordAnswer_bind {α : Type} {answer : String} {f : ForgeUiState → Ext α} (hI : Steady host I)
    (hf : ∀ state, Holds I (f state)) : Holds I (sessionState.recordAnswer host answer >>= f) :=
  holds_show_bind hI rfl nofun hf

/-- Deep Knowledge is entered after an answer, without a question about the relevance. -/
theorem holds_enterDeepAfterAnswer (hI : Steady host I) {ctx : CommandContext} {summary : Option String} :
    Holds I (do
      let enteredDeep ← continueDeepKnowledge host ctx summary (activateDeepRetrievalTools host) .settled true none
      publishState (← get).session.uiState
      return enteredDeep.invocation?) := by
  refine keeps_bind (holds_continueDeepKnowledge hI nofun (holds_activateDeepRetrievalTools hI)) fun entered => ?_
  exact holds_get_bind fun s => holds_untouched_bind (untouched_publishState _) fun _ => keeps_pure _

theorem holds_answerExploratoryConsent (hI : Steady host I) (answer : String) (ctx : CommandContext) :
    Holds I (answerExploratoryConsent host answer ctx) := by
  refine keeps_ite ?_ ?_
  · refine holds_grillRun_bind hI (holds_untouched_bind untouched_activateGrillTools fun _ => ?_)
    refine holds_get_bind fun s => holds_untouched_bind (untouched_publishState _) fun _ => ?_
    exact holds_untouched_bind (untouched_notify _) fun _ => keeps_pure _
  · exact holds_recordAnswer_bind hI fun state => holds_modify_bind (fun _ => rfl) (holds_enterDeepAfterAnswer hI)

theorem holds_answerConvergence (hI : Steady host I) (answer : String) (ctx : CommandContext) :
    Holds I (answerConvergence host answer ctx) := by
  refine holds_recordAnswer_bind hI fun state => keeps_ite ?_ ?_
  · exact holds_untouched_bind (untouched_publishState _) fun _ => keeps_pure _
  · exact holds_modify_bind (fun _ => rfl) (holds_enterDeepAfterAnswer hI)

theorem holds_answerRelevance (hI : Steady host I) (hask : Asks I) (answer : String) (round : GrillRound)
    (state : ForgeUiState) : Holds I (answerRelevance host files answer round state) := by
  have hlease : Holds I (modify fun s => { s with activeWaitUserUiLeaseKey := none }) :=
    fun s hs => hask s.agenda _ _ hs
  refine keeps_bind hlease fun _ => holds_get_bind fun s => ?_
  cases s.activeWorkflow with
  | none => exact holds_untouched_bind (untouched_publishState _) fun _ => keeps_pure _
  | some workflow =>
      have hstop : Holds I (modify fun s => { s with
          pendingConvergenceRoundId := none
          pendingGrillRun := false }) := fun s hs => hI.grillRun s.agenda false hs
      refine keeps_bind hstop fun _ => holds_untouched_bind untouched_restoreActiveTools fun _ => ?_
      refine holds_show_bind hI rfl nofun fun _ => holds_untouched_bind (untouched_publishState _) fun _ => ?_
      refine keeps_bind (holds_discoverAndGrill hI _ _) fun found => holds_grillRun_bind hI ?_
      refine holds_untouched_bind untouched_activateGrillTools fun _ => ?_
      refine holds_show_bind hI rfl nofun fun _ => holds_untouched_bind (untouched_publishState _) fun _ => ?_
      exact holds_untouched_bind (untouched_grillingInvocation _ _ _) fun _ => keeps_pure _

theorem holds_nextGrillRound (hI : Steady host I) (round : GrillRound) (state : ForgeUiState)
    (converges : Bool) : Holds I (nextGrillRound host files round state converges) := by
  refine keeps_bind (holds_call hI .round rfl nofun) fun nextRound => ?_
  have hgrill : Holds I (do
      modify fun s => { s with pendingGrillRun := true }
      activateGrillTools host
      publishState state
      let request := join "\n\n" ([round.request, state.decisionSummary.getD ""].filter (· ≠ ""))
      let instruction := if converges then convergenceInstruction else ""
      return some (← grillingInvocation host files (request ++ instruction) nextRound.roundId
        nextRound.snapshot.manifest)) := by
    refine holds_grillRun_bind hI (holds_untouched_bind untouched_activateGrillTools fun _ => ?_)
    refine holds_untouched_bind (untouched_publishState _) fun _ => ?_
    exact holds_untouched_bind (untouched_grillingInvocation _ _ _) fun _ => keeps_pure _
  cases converges with
  | false => exact hgrill
  | true => exact holds_modify_bind (fun _ => rfl) hgrill

theorem holds_resumeGrillWithAnswer (hI : Steady host I) (hask : Asks I) (hclear : Clears I) (answer : String)
    (ctx : CommandContext) : Holds I (resumeGrillWithAnswer host files answer ctx) := by
  refine holds_untouched_bind untouched_continueGrillRound fun round => holds_get_bind fun s => ?_
  refine keeps_ite (holds_answerExploratoryConsent hI _ _) ?_
  refine keeps_ite (keeps_bind (holds_cancelWorkflow hI hclear) fun _ => keeps_pure _) ?_
  refine keeps_ite (holds_answerConvergence hI _ _) ?_
  refine holds_recordAnswer_bind hI fun state => keeps_ite ?_ (keeps_ite ?_ ?_)
  · exact holds_answerRelevance hI hask _ _ _
  · exact holds_untouched_bind (untouched_publishState _) fun _ => keeps_pure _
  · exact holds_nextGrillRound hI _ _ _

/-! ### Answers to Deep questions -/

theorem holds_beginAfterFallback (hI : Steady host I) (hsend : host.sendUserMessage = true) (answer : String)
    (state : ForgeUiState) : Holds I (beginAfterFallback host answer state) := by
  refine holds_show_bind hI rfl (fun _ => hsend) fun next => holds_get_bind fun s => ?_
  cases s.session.deepAttempt with
  | none => exact keeps_pure _
  | some attempt => exact holds_untouched_bind untouched_activateDeepUnderstandingTools fun _ => keeps_pure _

/-- The tools of the phase that goes on. -/
theorem holds_activatePhaseTools_bind {α : Type} {f : Unit → Ext α} (hI : Steady host I)
    (hf : ∀ a, Holds I (f a)) (phase : DeepAttemptPhase) :
    Holds I (match phase with
      | .deepKnowledgeRetrieval => activateDeepRetrievalTools host >>= f
      | .knowledgeUnderstanding => activateDeepUnderstandingTools host >>= f) := by
  cases phase with
  | deepKnowledgeRetrieval => exact keeps_bind (holds_activateDeepRetrievalTools hI) hf
  | knowledgeUnderstanding => exact holds_untouched_bind untouched_activateDeepUnderstandingTools hf

theorem holds_retryAfterDecision (hI : Steady host I) (hsend : host.sendUserMessage = true) (answer : String)
    (state : ForgeUiState) : Holds I (retryAfterDecision host answer state) := by
  refine holds_show_bind hI rfl (fun _ => hsend) fun next => holds_get_bind fun s => ?_
  cases s.session.deepAttempt with
  | none => exact keeps_pure _
  | some attempt => exact holds_activatePhaseTools_bind hI (fun _ => keeps_pure _) attempt.phase

theorem holds_prepareDeepKnowledgeAnswer (hI : Steady host I) (answer : String) :
    Holds I (prepareDeepKnowledgeAnswer host answer) := by
  refine holds_get_bind fun s => ?_
  cases pendingDeepQuestion? s with
  | none => exact keeps_pure _
  | some waitUser =>
      have hgo : ∀ {state} {m : Ext DeepAnswer}, (host.sendUserMessage = true → Holds I m) →
          Holds I (if host.sendUserMessage = false then pure (.handled state none) else m) := by
        intro state m hm
        cases hsend : host.sendUserMessage with
        | false => exact keeps_pure _
        | true => exact hm hsend
      refine holds_recordAnswer_bind hI fun state => keeps_ite (keeps_pure _) ?_
      dsimp only
      split
      case isTrue hfallback =>
        refine holds_get_bind fun s => ?_
        cases s.activeWorkflow with
        | none => exact keeps_pure _
        | some workflow =>
            exact holds_modify_bind (fun _ => rfl) (hgo fun hsend => holds_beginAfterFallback hI hsend _ _)
      case isFalse => exact hgo fun hsend => holds_retryAfterDecision hI hsend _ _

/-! ### Answers to build questions -/

theorem untouched_reenterBuildStage (stage : BuildStage) (identity : BuildIdentity) (package : EvidencePackage) :
    Untouched (reenterBuildStage host files stage identity package) := by
  refine untouched_get_bind fun s => ?_
  cases stage with
  | contextBuild =>
      refine untouched_bind (untouched_buildInvocation _) fun _ => ?_
      exact untouched_bind untouched_activateContextBuildTools fun _ _ => rfl
  | adrBuild =>
      dsimp only
      cases s.session.contextCandidate with
      | none => exact untouched_bind (untouched_notify _) fun _ => untouched_pure none
      | some contextCandidate =>
          refine untouched_bind (untouched_buildInvocation _) fun _ => ?_
          exact untouched_bind untouched_activateAdrBuildTools fun _ _ => rfl

theorem untouched_tryCatch {α : Type} {m : Ext α} {handle : String → Ext α} (hm : Untouched m)
    (hh : ∀ error, Untouched (handle error)) : Untouched (tryCatch m handle) := by
  intro s
  have hsame := hm s
  rw [tryCatch_apply]
  rcases hrun : m s with ⟨error | a, t⟩
  · rw [hrun] at hsame
    exact (hh error t).trans hsame
  · rwa [hrun] at hsame

theorem holds_resumeBuildAnswer (hI : Steady host I) (hbuild : Builds I) (answer : String) :
    Holds I (resumeBuildAnswer host files answer) := by
  refine holds_get_bind fun s => ?_
  cases pendingBuildStage? s with
  | none => exact keeps_pure _
  | some stage =>
      refine holds_untouched_bind (untouched_requireBoundary _ _) fun enforceable => keeps_ite (keeps_pure _) ?_
      have hforget : Holds I (modify fun s => { s with
          pendingSettledBuildInvocation := none
          pendingSettledBuildInvocationTimer := none
          pendingReplayInvocation := none }) := fun s hs => hbuild s.agenda _ _ _ _ hs
      refine keeps_bind hforget fun _ => holds_recordAnswer_bind hI fun state => ?_
      refine holds_untouched_bind (untouched_publishState _) fun _ => keeps_ite (keeps_pure _) ?_
      refine holds_get_bind fun s => ?_
      split
      · refine holds_untouched_bind (untouched_tryCatch (untouched_reenterBuildStage _ _ _) fun error =>
          untouched_bind (untouched_notify _) fun _ => untouched_pure none) fun invocation => ?_
        cases invocation with
        | none => exact keeps_pure _
        | some invocation =>
            exact keeps_bind (fun s hs => hbuild s.agenda _ _ _ _ hs) fun _ => keeps_pure _
      · exact holds_untouched_bind (untouched_notify _) fun _ => keeps_pure _

/-! ### Answers -/

theorem holds_settleDeepAnswer (hI : Steady host I) (state : ForgeUiState) {invocation : Option String}
    (h : InvocationIfAny host invocation) : Holds I (settleDeepAnswer state invocation) := by
  refine holds_untouched_bind (untouched_publishState _) fun _ => ?_
  cases htext : truthy invocation with
  | none => exact keeps_pure _
  | some text =>
      refine holds_get_bind fun s => ?_
      split
      · exact holds_keepDeep hI (h.truthy text htext)
      · exact keeps_pure _

theorem holds_resumeWaitUserAnswer (hI : Steady host I) (hask : Asks I) (hclear : Clears I)
    (hbuild : ∀ answer, Holds I (resumeBuildAnswer host files answer)) (answer : String) (ctx : CommandContext) :
    Holds I (resumeWaitUserAnswer host files answer ctx) := by
  refine holds_get_bind fun s => keeps_bind (hbuild _) fun handled => keeps_ite (keeps_pure _) ?_
  refine keeps_ite (keeps_bind (holds_cancelWorkflow hI hclear) fun _ => keeps_pure _) ?_
  dsimp only
  split
  case' isTrue =>
    refine holds_untouched_bind (untouched_requireBoundary _ _) fun enforceable => keeps_ite (keeps_pure _) ?_
  -- with or without the boundary of Deep, the answer goes on alike
  all_goals
    refine keeps_bind_returns (holds_prepareDeepKnowledgeAnswer hI _) (returns_prepareDeepKnowledgeAnswer _)
      fun prepared hprepared => ?_
    cases prepared with
    | handled state invocation => exact keeps_bind (holds_settleDeepAnswer hI _ hprepared) fun _ => keeps_pure _
    | notDeep =>
        refine keeps_ite (keeps_pure _) (keeps_bind_returns (holds_resumeGrillWithAnswer hI hask hclear _ _)
          (returns_resumeGrillWithAnswer _ _) fun text htext => ?_)
        cases hsent : truthy text with
        | none => exact keeps_pure _
        | some invocation =>
            refine holds_modify_bind (fun _ => rfl) ?_
            exact keeps_bind (holds_sendUserMessage hI (htext.truthy invocation hsent)) fun _ => keeps_pure _

end Extension

end ForgeRuntime
