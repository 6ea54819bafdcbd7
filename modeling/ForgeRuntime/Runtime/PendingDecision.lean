import ForgeRuntime.Runtime.SessionMoves

/-!
# The pending decision

At most one question is before the user at a time, and the stage says so.

* `PendingIffWaiting` — a decision is pending exactly at `WAIT_USER`, in every state that the operations
  reach;
* `first_pending_wins` — no operation replaces a pending decision by another one: it stays, it goes, or an
  accepted Grill answer makes way for the checkpoint of the same round.
-/

namespace ForgeRuntime

open EventDriven EventDriven.Text EventDriven.Machine

variable {digest : String → String}

/-- A decision is pending exactly while the orchestrator waits for the user. -/
def PendingIffWaiting (s : SessionState) : Prop :=
  s.uiState.waitUser.isSome = true ↔ s.orchestrator = some .waitUser

theorem PendingIffWaiting.none_of_ne {s : SessionState} (h : PendingIffWaiting s)
    (hne : s.orchestrator ≠ some .waitUser) : s.uiState.waitUser = none := by
  cases hp : s.uiState.waitUser with
  | none => rfl
  | some pending => exact absurd (h.mp (by simp [hp])) hne

theorem PendingIffWaiting.waiting {s : SessionState} (h : PendingIffWaiting s) {D : WaitUserState}
    (hD : s.uiState.waitUser = some D) : s.orchestrator = some .waitUser :=
  h.mp (by simp [hD])

/-- The stages that a `begin…` operation enters are not `WAIT_USER`. -/
theorem entry_ne {op : SessionOp} {target : WorkflowStage} (hop : op.entry? = some target) :
    target ≠ .waitUser ∧ target ≠ .userConfirmed := by
  cases op <;> simp [SessionOp.entry?] at hop <;> subst hop <;> decide

@[simp] theorem phase_stage_ne_waitUser (phase : DeepAttemptPhase) : phase.stage ≠ .waitUser := by
  cases phase <;> decide

@[simp] theorem phase_stage_ne_build (phase : DeepAttemptPhase) :
    phase.stage ≠ .contextBuild ∧ phase.stage ≠ .adrBuild ∧ phase.stage ≠ .toSpec := by
  cases phase <;> decide

/-- What a new snapshot discards does not include the pending decision or the stage. -/
@[simp] theorem forgetSnapshot_uiState (s : SessionState) :
    (Session.forgetSnapshot s).uiState = s.uiState := rfl

@[simp] theorem forgetSnapshot_orchestrator (s : SessionState) :
    (Session.forgetSnapshot s).orchestrator = s.orchestrator := rfl

theorem continues_pendingIffWaiting {s t : SessionState} {pending : WaitUserState} {answer : String}
    (h : AnswerContinues digest s pending answer t) : PendingIffWaiting t := by
  cases h <;> simp [PendingIffWaiting, answeredUi]

theorem move_pendingIffWaiting {s t : SessionState} {op : SessionOp} {r : SessionOutcome}
    (h : SessionMove digest s op r t) (hs : PendingIffWaiting s) : PendingIffWaiting t := by
  cases h with
  | orchestratorCreated hnone =>
      have := hs.none_of_ne (by simp [hnone])
      simp [PendingIffWaiting, this]
  | discoveryCounted =>
      cases horch : s.orchestrator with
      | none =>
          have := hs.none_of_ne (by simp [horch])
          simp [PendingIffWaiting, this]
      | some stage => simpa [PendingIffWaiting, horch] using hs
  | entered hr hop henter summary =>
      have htarget := entry_ne hop
      have := hs.none_of_ne (henter.not_waitUser htarget.1 htarget.2)
      simp [PendingIffWaiting, this, htarget.1]
  | answered hr horch hpending hkind hguard hcontinues =>
      exact continues_pendingIffWaiting hcontinues
  | rejected hr =>
      unfold PendingIffWaiting
      split <;> simp_all
  | roundStarted hr first hfirst =>
      cases first
      · exact hs
      · exact hs
  | _ =>
      first
      | exact hs
      | simp [PendingIffWaiting, createForgeSessionState, createForgeUiState]

theorem step_pendingIffWaiting (s : SessionState) (op : SessionOp) (hs : PendingIffWaiting s)
    (_ : True) : PendingIffWaiting (sessionStep digest op s).2 :=
  move_pendingIffWaiting (step_move digest s op) hs

theorem init_pendingIffWaiting : PendingIffWaiting createForgeSessionState := by
  simp [PendingIffWaiting, createForgeSessionState, createForgeUiState]

/-- The state that a run of operations ends in. -/
def sessionAfter (digest : String → String) (ops : List SessionOp) : SessionState :=
  finish (sessionStep digest) createForgeSessionState ops

theorem pendingIffWaiting_sessionAfter (ops : List SessionOp) :
    PendingIffWaiting (sessionAfter digest ops) :=
  holds_at_finish step_pendingIffWaiting init_pendingIffWaiting (admissible_of_forall (fun _ _ => trivial) _ ops)

/-! ### First pending wins -/

/-- `op` accepts an answer to the Grill question `D`, and the checkpoint of the round is asked instead. -/
def MakesWayForCheckpoint (s t : SessionState) (op : SessionOp) (D : WaitUserState) : Prop :=
  ∃ answer round checkpoint, op = .recordAnswer answer ∧ D.kind = .grillConfirmation ∧
    ¬ Session.refusesAnswer s D (trim answer) ∧ waitUserDecisionKey D ∈ t.answeredDecisionKeys ∧
    t.uiState.waitUser = some checkpoint ∧ checkpoint.kind = .grillCheckpoint ∧
    t.currentGrillRound = some round ∧ checkpoint.roundId = round.roundId

/-- What may have become of the pending decision `D`. -/
def FirstPendingWins (s t : SessionState) (op : SessionOp) (D : WaitUserState) : Prop :=
  t.uiState.waitUser = some D ∨ t.uiState.waitUser = none ∨ MakesWayForCheckpoint s t op D

theorem move_first_pending_wins {s t : SessionState} {op : SessionOp} {r : SessionOutcome}
    {D : WaitUserState} (h : SessionMove digest s op r t) (hs : PendingIffWaiting s)
    (hD : s.uiState.waitUser = some D) : FirstPendingWins s t op D := by
  have hwait := hs.waiting hD
  cases h with
  | entered hr hop henter summary =>
      have htarget := entry_ne hop
      exact absurd hwait (henter.not_waitUser htarget.1 htarget.2)
  -- a question is asked only from a stage that may hand over to the user, and `WAIT_USER` may not
  | deepDecisionAsked _ horch _ => simp [hwait] at horch
  | fallbackAsked _ horch _ _ => simp [hwait] at horch
  | contextAmbiguityAsked _ horch _ _ => simp [hwait] at horch
  | adrAmbiguityAsked _ horch _ _ => simp [hwait] at horch
  | asked _ _ _ _ _ _ _ horch => simp [hwait, Session.stageFrom] at horch
  | answered hr horch hpending hkind hguard hcontinues =>
      obtain rfl : _ = D := Option.some.inj (hpending.symm.trans hD)
      cases hcontinues with
      | atCheckpoint hgrill hround hid hdue =>
          refine Or.inr (Or.inr ⟨_, _, _, rfl, hgrill, hguard, ?_, rfl, rfl, hround, rfl⟩)
          simp [afterAnswer]
      | _ => exact Or.inr (Or.inl rfl)
  | roundStarted hr first hfirst =>
      cases first
      · exact Or.inl hD
      · exact Or.inl hD
  | _ =>
      first
      | exact Or.inl hD
      | exact Or.inr (Or.inl rfl)

/-- **First pending wins.**  In every state that operations reach, and for every further operation: a
pending decision stays, or goes, or an accepted answer to a Grill question makes way for the checkpoint of
the current round. -/
theorem first_pending_wins (digest : String → String) (ops : List SessionOp) (op : SessionOp)
    (D : WaitUserState) (hD : (sessionAfter digest ops).uiState.waitUser = some D) :
    FirstPendingWins (sessionAfter digest ops) (sessionStep digest op (sessionAfter digest ops)).2
      op D :=
  move_first_pending_wins (step_move digest _ op) (pendingIffWaiting_sessionAfter ops) hD

/-- A snapshot without evidence. -/
def emptySnapshot (ref : Nat) : GrillEvidenceSnapshot := ⟨ref, .empty, []⟩

/-- A question of the first Grill round. -/
def firstRoundQuestion (decisionId : String) : WaitUserPayload :=
  { kind := .grillConfirmation
    roundId := "grill-1"
    decisionId := decisionId
    evidenceIds := []
    options := ["yes", "no"]
    question := "q"
    recommendation := "yes"
    decisionSummary := none }

/-- The run that opens a round and asks its first question. -/
def askFirstQuestion : List SessionOp :=
  [.startGrillRound "request" (emptySnapshot 0), .requireWaitUser (firstRoundQuestion "d")]

theorem first_pending_wins_askFirstQuestion :
    FirstPendingWins (sessionAfter id askFirstQuestion)
      (sessionStep id (.requireWaitUser (firstRoundQuestion "e")) (sessionAfter id askFirstQuestion)).2
      (.requireWaitUser (firstRoundQuestion "e")) (firstRoundQuestion "d").toWaitUserState :=
  first_pending_wins id askFirstQuestion _ _ (by decide)

end ForgeRuntime
