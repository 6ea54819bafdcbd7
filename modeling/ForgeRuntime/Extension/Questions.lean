import ForgeRuntime.Extension.Runs

/-!
# How a question is put

When the session takes a question that is handed to it, and what `publishWaitUser` does with one: outside a
pending decision the session is asked, inside one only the pending question may be shown again.

* `requireWaitUser_asks`, `requireWaitUser_ignores` — when the session takes a question;
* `publishWaitUser_outside` — outside a pending decision a publication asks the session;
* `publishWaitUserCaught_returns` — a publication whose errors are reported always returns.
-/

namespace ForgeRuntime

open EventDriven EventDriven.Machine EventDriven.Text EventDriven.Turn

/-! ### When the session takes a question -/

/-- The session can take a question: it and its round are named, its ID is not used up, and the stage allows it. -/
structure CanAsk (s : SessionState) (payload : WaitUserPayload) : Prop where
  decisionNamed : ¬ Blank payload.decisionId
  roundNamed : ¬ Blank payload.roundId
  unanswered : waitUserDecisionKey payload.toWaitUserState ∉ s.answeredDecisionKeys
  undecided : payload.decisionId ∉ s.humanDecisions
  stage : (Session.stageFrom .grill s.orchestrator).CanTransitionTo .waitUser

instance (s : SessionState) (payload : WaitUserPayload) : Decidable (CanAsk s payload) :=
  decidable_of_iff (¬ Blank payload.decisionId ∧ ¬ Blank payload.roundId ∧
      waitUserDecisionKey payload.toWaitUserState ∉ s.answeredDecisionKeys ∧
      payload.decisionId ∉ s.humanDecisions ∧
      (Session.stageFrom .grill s.orchestrator).CanTransitionTo .waitUser)
    ⟨fun h => ⟨h.1, h.2.1, h.2.2.1, h.2.2.2.1, h.2.2.2.2⟩,
      fun h => ⟨h.decisionNamed, h.roundNamed, h.unanswered, h.undecided, h.stage⟩⟩

namespace Session

/-- **A question of the current round is taken.** -/
theorem requireWaitUser_asks {s : SessionState} {payload : WaitUserPayload} (h : CanAsk s payload)
    (hround : s.currentGrillRound.map (·.roundId) = some payload.roundId) :
    (requireWaitUser payload s).2.uiState.stage = .workflow .waitUser ∧
      (requireWaitUser payload s).2.uiState.waitUser = some payload.toWaitUserState := by
  have hused : ¬ (waitUserDecisionKey payload.toWaitUserState ∈ s.answeredDecisionKeys ∨
      payload.decisionId ∈ s.humanDecisions) := fun hused => hused.elim h.unanswered h.undecided
  simp only [requireWaitUser, ite_apply_state, get_bind_apply, orchestratorFrom_bind_apply,
    transitionTo_bind_apply, setUi_apply, if_neg h.decisionNamed, if_neg h.roundNamed, if_neg hused,
    if_pos h.stage]
  rw [if_neg (not_not.mpr hround)]
  exact ⟨rfl, rfl⟩

/-- A question that cannot be taken changes nothing that is shown. -/
theorem requireWaitUser_ignores {s : SessionState} {payload : WaitUserPayload} (h : ¬ CanAsk s payload) :
    (requireWaitUser payload s).2.uiState = s.uiState := by
  simp only [requireWaitUser, ite_apply_state, get_bind_apply, orchestratorFrom_bind_apply,
    transitionTo_bind_apply, setUi_apply, pure_apply]
  split
  · rfl
  · rename_i hdecision
    split
    · rfl
    · rename_i hround
      split
      · rfl
      · rename_i hused
        split
        · rfl
        · split
          · rename_i hstage
            exact absurd ⟨hdecision, hround, fun hin => hused (.inl hin), fun hin => hused (.inr hin), hstage⟩ h
          · rfl

/-- No question touches the Deep attempt. -/
theorem requireWaitUser_deepAttempt (s : SessionState) (payload : WaitUserPayload) :
    (requireWaitUser payload s).2.deepAttempt = s.deepAttempt := by
  simp only [requireWaitUser, ite_apply_state, get_bind_apply, orchestratorFrom_bind_apply,
    transitionTo_bind_apply, setUi_apply, pure_apply]
  repeat' split
  all_goals rfl

end Session

namespace Extension

/-! ### Publications -/

/-- A selector writes nothing of the session and queues nothing. -/
theorem handleWaitUserState_returns (ctx : CommandContext) (state : ForgeUiState) (key : DecisionKey)
    (reply : Option ToolResult) (catches : Bool) (s : ExtensionState) :
    ∃ opened t, handleWaitUserState ctx state key reply catches s = (.ok opened, t) ∧ t.session = s.session ∧
      t.pendingSettledDeepInvocation = s.pendingSettledDeepInvocation := by
  unfold handleWaitUserState
  cases state.waitUser with
  | none => exact ⟨_, _, rfl, rfl, rfl⟩
  | some decision =>
      cases ctx.select with
      | true => exact ⟨_, _, rfl, rfl, rfl⟩
      | false => exact ⟨_, _, rfl, rfl, rfl⟩

/-- The session takes the question, or the lease is given back and the error goes on. -/
def askSession (ctx : CommandContext) (payload : WaitUserPayload) (reply : Option ToolResult) (catches : Bool) :
    Ext Bool := do
  let state ← tryCatch (sessionState.requireWaitUser payload) fun error => do
    releaseUiLease (waitUserDecisionKey payload.toWaitUserState)
    throw error
  handleWaitUserState ctx state (waitUserDecisionKey payload.toWaitUserState) reply catches

/-- **While no decision is pending**, the lease is taken and the session is asked. -/
theorem publishWaitUser_outside {ctx : CommandContext} {payload : WaitUserPayload} {reply : Option ToolResult}
    {catches : Bool} {s : ExtensionState} (h : shownDecision? s.session.uiState = none) :
    publishWaitUser ctx payload reply catches s = askSession ctx payload reply catches
      { s with activeWaitUserUiLeaseKey := some (waitUserDecisionKey payload.toWaitUserState) } := by
  unfold publishWaitUser
  rw [get_bind_apply]
  let key := waitUserDecisionKey payload.toWaitUserState
  rw [← modify_bind_apply (fun t => { t with activeWaitUserUiLeaseKey := some key }) fun _ =>
    askSession ctx payload reply catches]
  refine congrFun ?_ s
  split
  · rename_i waitUser hstage hwaitUser
    rw [shownDecision?, if_pos hstage, hwaitUser] at h
    cases h
  · rfl

/-- **Outside `WAIT_USER`, a caught publication returns**, and the session is where `requireWaitUser` leaves it. -/
theorem publishWaitUserCaught_returns (ctx : CommandContext) (payload : WaitUserPayload)
    (reply : Option ToolResult) {s : ExtensionState} (h : shownDecision? s.session.uiState = none) :
    ∃ opened t, publishWaitUserCaught ctx payload reply s = (.ok opened, t) ∧
      t.session = (Session.requireWaitUser payload s.session).2 ∧
      t.pendingSettledDeepInvocation = s.pendingSettledDeepInvocation := by
  let key := waitUserDecisionKey payload.toWaitUserState
  rw [publishWaitUserCaught, tryCatch_apply, publishWaitUser_outside h, askSession, bind_apply, tryCatch_apply]
  rcases hrun : sessionState.requireWaitUser payload { s with activeWaitUserUiLeaseKey := some key } with ⟨result, t⟩
  have hsession : t.session = (Session.requireWaitUser payload s.session).2 :=
    congrArg Prod.snd (call_run hrun).symm
  have hqueued : t.pendingSettledDeepInvocation = s.pendingSettledDeepInvocation := by
    rw [call_frame hrun]
  cases result with
  | error error => exact ⟨false, _, rfl, hsession, hqueued⟩
  | ok state =>
      obtain ⟨opened, t', hshows, hsame, hkeeps⟩ := handleWaitUserState_returns ctx state key reply true t
      refine ⟨opened, t', ?_, hsame.trans hsession, hkeeps.trans hqueued⟩
      dsimp only
      rw [hshows]

end Extension

end ForgeRuntime
