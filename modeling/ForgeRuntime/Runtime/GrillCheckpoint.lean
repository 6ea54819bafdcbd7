import ForgeRuntime.Runtime.DiscoveryBound

/-!
# The checkpoint of Grill

The answers to Grill questions are counted within a snapshot.  From the eighth one on, each accepted answer leaves
a checkpoint, and the next question can be answered only after `continue_one`.

* `CheckpointInv` — how the count, the permission to go on and the pending decision hang together;
* `step_checkpointInv` — every step of a Grill run keeps it, an accepted answer being counted;
* `accepted_leaves_checkpoint` — what the eighth answer and every later one leave;
* `grill_checkpoint_law` — the law, over every run within one snapshot.
-/

namespace ForgeRuntime

open EventDriven EventDriven.Machine EventDriven.Text EventDriven.Turn

variable {digest : String → String} {ref : Nat}

/-! ### Runs within one snapshot -/

/-- A checkpoint is pending. -/
def AtCheckpoint (s : SessionState) : Prop := s.uiState.waitUser.map (·.kind) = some .grillCheckpoint

instance (s : SessionState) : Decidable (AtCheckpoint s) := inferInstanceAs (Decidable (_ = _))

/-- The answer is taken by the pending checkpoint. -/
def AnswersCheckpoint (s : SessionState) (answer : String) : Prop :=
  ∃ D ∈ s.uiState.waitUser, D.kind = .grillCheckpoint ∧ ¬ Session.refusesAnswer s D (trim answer)

instance (s : SessionState) (answer : String) : Decidable (AnswersCheckpoint s answer) :=
  inferInstanceAs (Decidable (∃ _ ∈ s.uiState.waitUser, _))

/-- The operations of Grill over one snapshot, without a choice to converge. -/
def KeepsGrilling (ref : Nat) (s : SessionState) : SessionOp → Prop
  | .startGrillRound _ snapshot => snapshot.ref = ref
  | .beginGrill _ => True
  | .requireWaitUser payload => payload.kind = .grillConfirmation
  | .requireGrillResult payload => payload.kind = .grillConfirmation
  | .recordAnswer answer => ¬ (AnswersCheckpoint s answer ∧ trim answer = "converge")
  | .recordCompletionOmission => True
  | .retryGrillRound => True
  | _ => False

/-- The step accepts an answer to a Grill question: its key was unused, and is used now. -/
def acceptsConfirmation (st : SessionStepRecord) : Bool :=
  match st.input, st.before.uiState.waitUser with
  | .recordAnswer _, some D => decide (D.kind = .grillConfirmation ∧
      waitUserDecisionKey D ∉ st.before.answeredDecisionKeys ∧ waitUserDecisionKey D ∈ st.after.answeredDecisionKeys)
  | _, _ => false

/-- The step leaves a checkpoint where there was none. -/
def raisesCheckpoint (st : SessionStepRecord) : Bool := decide (AtCheckpoint st.after ∧ ¬ AtCheckpoint st.before)

/-- The step takes `continue_one` at a checkpoint. -/
def TakesOneMore (st : SessionStepRecord) : Prop :=
  ∃ answer, st.input = .recordAnswer answer ∧ AnswersCheckpoint st.before answer ∧ trim answer = "continue_one"

/-- The answers that never count: there is no text, the question is of another round or answered already, or it is a
checkpoint. -/
def NeverCounts (s : SessionState) : SessionOp → Prop
  | .recordCompletionOmission => True
  | .retryGrillRound => True
  | .recordAnswer answer => ∀ D ∈ s.uiState.waitUser, trim answer = "" ∨
      s.currentGrillRound.map (·.roundId) ≠ some D.roundId ∨
      waitUserDecisionKey D ∈ s.answeredDecisionKeys ∨ D.kind = .grillCheckpoint
  | _ => False

/-- What the answer to a Grill question leaves from the eighth one on: it is recorded, and a checkpoint of the
current round is pending. -/
structure LeavesCheckpoint (digest : String → String) (s t : SessionState) (answer : String) (D : WaitUserState) :
    Prop where
  round : ∃ round, t.currentGrillRound = some round ∧
    t.uiState.waitUser = some (Session.checkpointDecision round D.evidenceIds) ∧
    t.humanPremises.get? (waitUserDecisionKey D) = some (Session.humanPremise digest round D (trim answer))
  waits : t.orchestrator = some .waitUser
  shown : t.uiState.stage = .workflow .waitUser
  answered : waitUserDecisionKey D ∈ t.answeredDecisionKeys
  decided : t.humanDecisions.get? D.decisionId = some (Session.humanDecision D answer)

/-! ### The invariant -/

/-- After `n` accepted answers: they are counted, and the next question after the eighth one takes a permission. -/
structure CheckpointInv (ref : Nat) (s : SessionState) (n : Nat) : Prop where
  waiting : PendingIffWaiting s
  counted : s.grillAcceptedAnswerCount = n
  rounds : ∀ round ∈ s.currentGrillRound, round.snapshot.ref = ref
  fresh : s.currentGrillRound = none → n = 0 ∧ s.uiState.waitUser = none
  pending : ∀ D ∈ s.uiState.waitUser, D.kind = .grillConfirmation ∨ D.kind = .grillCheckpoint
  unanswered : ∀ D ∈ s.uiState.waitUser, D.kind = .grillConfirmation →
    waitUserDecisionKey D ∉ s.answeredDecisionKeys ∧ D.decisionId ∉ s.humanDecisions
  early : n < 8 → ¬ AtCheckpoint s ∧ s.continueGrillCheckpointPending = false
  late : 8 ≤ n → (AtCheckpoint s ↔ s.continueGrillCheckpointPending = false)

theorem init_checkpointInv (ref : Nat) : CheckpointInv ref createForgeSessionState 0 where
  waiting := init_pendingIffWaiting
  counted := rfl
  rounds := by simp [createForgeSessionState]
  fresh _ := ⟨rfl, rfl⟩
  pending := by simp [createForgeSessionState, createForgeUiState]
  unanswered := by simp [createForgeSessionState, createForgeUiState]
  early _ := ⟨by decide, rfl⟩
  late := by omega

namespace CheckpointInv

variable {s t : SessionState} {n : Nat}

/-- Nothing that the invariant speaks of has changed. -/
theorem frame (h : CheckpointInv ref s n) (hwaiting : PendingIffWaiting t) (hcount : t.grillAcceptedAnswerCount = s.grillAcceptedAnswerCount)
    (hround : t.currentGrillRound = s.currentGrillRound) (hpending : t.uiState.waitUser = s.uiState.waitUser)
    (hkeys : t.answeredDecisionKeys = s.answeredDecisionKeys) (hdecisions : t.humanDecisions = s.humanDecisions)
    (hallowed : t.continueGrillCheckpointPending = s.continueGrillCheckpointPending) : CheckpointInv ref t n where
  waiting := hwaiting
  counted := hcount.trans h.counted
  rounds := hround ▸ h.rounds
  fresh := by
    rw [hround, hpending]
    exact h.fresh
  pending := hpending ▸ h.pending
  unanswered := by
    rw [hpending, hkeys, hdecisions]
    exact h.unanswered
  early := by
    rw [AtCheckpoint, hpending, hallowed]
    exact h.early
  late := by
    rw [AtCheckpoint, hpending, hallowed]
    exact h.late

/-- A pending question is no checkpoint. -/
theorem not_atCheckpoint {D : WaitUserState} (hD : s.uiState.waitUser = some D) (hkind : D.kind ≠ .grillCheckpoint) :
    ¬ AtCheckpoint s := by
  simp [AtCheckpoint, hD, hkind]

/-- While a question of Grill is pending, the next answer is due for a checkpoint exactly from the eighth on. -/
theorem due_iff (h : CheckpointInv ref s n) {D : WaitUserState} (hD : s.uiState.waitUser = some D)
    (hkind : D.kind = .grillConfirmation) (answer : String) :
    Session.checkpointDue (afterAnswer digest s D answer) ↔ 8 ≤ n + 1 := by
  have hnot : ¬ AtCheckpoint s := not_atCheckpoint hD (by simp [hkind])
  have hdue : Session.checkpointDue (afterAnswer digest s D answer) ↔
      n + 1 = 8 ∨ s.continueGrillCheckpointPending = true := by
    simp [Session.checkpointDue, afterAnswer, hkind, h.counted, grillAnswerCheckpoint]
  rw [hdue]
  constructor
  · rintro (heighth | hallowed)
    · omega
    · by_contra hfew
      have hforbidden := (h.early (by omega)).2
      rw [hallowed] at hforbidden
      cases hforbidden
  · intro hmany
    by_cases heighth : n + 1 = 8
    · exact .inl heighth
    · have hallowed := mt (h.late (by omega)).mpr hnot
      exact .inr (by simpa using hallowed)

end CheckpointInv

/-! ### Steps -/

/-- Where no key is used up, no answer is accepted. -/
theorem not_accepts {s t : SessionState} {op : SessionOp} {r : SessionOutcome}
    (hkeys : t.answeredDecisionKeys = s.answeredDecisionKeys) : acceptsConfirmation ⟨s, op, r, t⟩ = false := by
  unfold acceptsConfirmation
  split
  · simp_all
  · rfl

/-- A step that accepts no answer. -/
theorem CheckpointInv.uncounted {s t : SessionState} {n : Nat} {op : SessionOp} {r : SessionOutcome}
    (h : CheckpointInv ref t n) (hkeys : t.answeredDecisionKeys = s.answeredDecisionKeys) :
    CheckpointInv ref t (n + (acceptsConfirmation ⟨s, op, r, t⟩).toNat) := by
  rw [not_accepts hkeys]
  exact h

/-- A kept answer to a Grill question is accepted. -/
theorem accepts_answered {s t : SessionState} {n : Nat} {D : WaitUserState} {answer : String} {r : SessionOutcome}
    (h : CheckpointInv ref s n) (hD : s.uiState.waitUser = some D) (hkind : D.kind = .grillConfirmation)
    (hcontinues : AnswerContinues digest s D answer t) : acceptsConfirmation ⟨s, .recordAnswer answer, r, t⟩ = true := by
  have hunused := (h.unanswered D hD hkind).1
  have hused : waitUserDecisionKey D ∈ t.answeredDecisionKeys := by
    cases hcontinues <;> simp [afterAnswer]
  simp [acceptsConfirmation, hD, hkind, hunused, hused]

/-- **Each accepted answer is counted**, and nothing else is. -/
theorem move_checkpointInv {s t : SessionState} {n : Nat} {op : SessionOp} {r : SessionOutcome}
    (h : SessionMove digest s op r t) (hs : CheckpointInv ref s n) (hop : KeepsGrilling ref s op) :
    CheckpointInv ref t (n + (acceptsConfirmation ⟨s, op, r, t⟩).toNat) := by
  have hwaiting : PendingIffWaiting t := move_pendingIffWaiting h hs.waiting
  cases h with
  | refused => exact hs.uncounted rfl
  | orchestratorCreated =>
      refine CheckpointInv.uncounted ?_ rfl
      exact hs.frame hwaiting rfl rfl rfl rfl rfl rfl
  | answerRefused =>
      refine CheckpointInv.uncounted ?_ rfl
      exact hs.frame hwaiting rfl rfl rfl rfl rfl rfl
  | grillRetried =>
      refine CheckpointInv.uncounted ?_ rfl
      exact hs.frame hwaiting rfl rfl rfl rfl rfl rfl
  | omissionRecorded =>
      refine CheckpointInv.uncounted ?_ rfl
      exact hs.frame hwaiting rfl rfl rfl rfl rfl rfl
  | entered =>
      refine CheckpointInv.uncounted ?_ rfl
      exact hs.frame hwaiting rfl rfl rfl rfl rfl rfl
  | asked hr hquestion hdecisionId hkey hdecision hround hroundId horch =>
      rename_i payload round
      have hkind : payload.kind = .grillConfirmation := by
        cases op <;> first | (cases hquestion; exact hop) | cases hquestion
      have hnone : s.uiState.waitUser = none := by
        refine hs.waiting.none_of_ne fun hwait => ?_
        simp [hwait, Session.stageFrom] at horch
      have hnot : ¬ AtCheckpoint s := by simp [AtCheckpoint, hnone]
      have hnot' : ¬ some payload.kind = some WaitUserKind.grillCheckpoint := by simp [hkind]
      refine CheckpointInv.uncounted ?_ rfl
      exact
        { waiting := hwaiting
          counted := hs.counted
          rounds := hs.rounds
          fresh := fun hfresh => absurd (hround.symm.trans hfresh) (Option.some_ne_none _)
          pending := by
            rintro D ⟨⟩
            exact .inl hkind
          unanswered := by
            rintro D ⟨⟩ -
            exact ⟨hkey, hdecision⟩
          early := fun hfew => ⟨hnot', (hs.early hfew).2⟩
          late := fun hmany => (iff_of_false hnot' hnot).trans (hs.late hmany) }
  | checkpointAnswered hr horch hpending hkind hguard =>
      rename_i answer D
      have hat : AtCheckpoint s := by simp [AtCheckpoint, hpending, hkind]
      have hmany : 8 ≤ n := by
        by_contra hfew
        exact (hs.early (by omega)).1 hat
      have hgoesOn : trim answer = "continue_one" := by
        by_contra hother
        have hconverge : trim answer ≠ "converge" := fun hconverge => hop ⟨⟨D, hpending, hkind, hguard⟩, hconverge⟩
        exact hguard (.inr (.inr (.inr (.inl ⟨hkind, hother, hconverge⟩))))
      refine CheckpointInv.uncounted ?_ rfl
      exact
        { waiting := hwaiting
          counted := hs.counted
          rounds := hs.rounds
          fresh := fun hfresh => ⟨(hs.fresh hfresh).1, rfl⟩
          pending := by simp
          unanswered := by simp
          early := fun hfew => absurd hmany (by omega)
          late := fun _ => by simp [AtCheckpoint, hgoesOn] }
  | answered hr horch hpending hkind hguard hcontinues =>
      rename_i answer D
      have hgrill : D.kind = .grillConfirmation := (hs.pending D hpending).resolve_right hkind
      rw [accepts_answered hs hpending hgrill hcontinues]
      show CheckpointInv ref t (n + 1)
      have hdue : Session.checkpointDue (afterAnswer digest s D answer) ↔ 8 ≤ n + 1 :=
        hs.due_iff hpending hgrill answer
      have hcounted : (afterAnswer digest s D answer).grillAcceptedAnswerCount = n + 1 := by
        simp [afterAnswer, hgrill, hs.counted]
      cases hcontinues with
      | atCheckpoint _ hround hid hmany =>
          exact
            { waiting := hwaiting
              counted := hcounted
              rounds := hs.rounds
              fresh := fun hfresh => absurd (hround.symm.trans hfresh) (Option.some_ne_none _)
              pending := by
                rintro E ⟨⟩
                exact .inr rfl
              unanswered := by
                rintro E ⟨⟩ hconfirmation
                cases hconfirmation
              early := fun hfew => absurd (hdue.mp hmany) (by omega)
              late := fun _ => iff_of_true rfl rfl }
      | inGrill _ hfew =>
          have hfew := mt hdue.mpr (hfew hgrill)
          exact
            { waiting := hwaiting
              counted := hcounted
              rounds := hs.rounds
              fresh := fun hfresh => absurd (hpending.symm.trans (hs.fresh hfresh).2) (Option.some_ne_none _)
              pending := by simp [answeredUi]
              unanswered := by simp [answeredUi]
              early := fun _ => ⟨by simp [AtCheckpoint, answeredUi], (hs.early (by omega)).2⟩
              late := fun hmany => absurd hmany hfew }
      | confirmed hother => simp [hgrill] at hother
      | inContextBuild hother => simp [hgrill] at hother
      | inAdrBuild hother => simp [hgrill] at hother
  | roundStarted hr first hfirst =>
      rename_i request snapshot
      have hsnapshot : snapshot.ref = ref := hop
      have hfresh : first = true → s.currentGrillRound = none := by
        intro hnew
        by_contra hsome
        obtain ⟨round, hround⟩ := Option.ne_none_iff_exists'.mp hsome
        rw [hnew, hround, Option.map_some, hs.rounds round hround, hsnapshot] at hfirst
        simp at hfirst
      cases first with
      | false =>
          refine CheckpointInv.uncounted ?_ rfl
          exact
            { waiting := hwaiting
              counted := hs.counted
              rounds := by
                rintro round ⟨⟩
                exact hsnapshot
              fresh := fun hfresh => by cases hfresh
              pending := hs.pending
              unanswered := hs.unanswered
              early := hs.early
              late := hs.late }
      | true =>
          obtain ⟨rfl, hnone⟩ := hs.fresh (hfresh rfl)
          refine CheckpointInv.uncounted ?_ rfl
          exact
            { waiting := hwaiting
              counted := rfl
              rounds := by
                rintro round ⟨⟩
                exact hsnapshot
              fresh := fun hfresh => by cases hfresh
              pending := by simp [hnone]
              unanswered := by simp [hnone]
              early := fun _ => ⟨by simp [AtCheckpoint, hnone], rfl⟩
              late := by omega }
  | deepIssued hr hissues => cases op <;> first | exact hop.elim | cases hissues
  | bookkept hbookkeeping => cases op <;> first | exact hop.elim | cases hbookkeeping
  | retrievalEnded hretrieval => cases op <;> first | exact hop.elim | cases hretrieval
  | _ => exact hop.elim

/-! ### What a step accepts and raises -/

/-- An accepted answer to a Grill question is kept. -/
theorem accepted_continues {s t : SessionState} {op : SessionOp} {r : SessionOutcome} (h : SessionMove digest s op r t)
    (haccepts : acceptsConfirmation ⟨s, op, r, t⟩ = true) :
    ∃ answer D, op = .recordAnswer answer ∧ s.uiState.waitUser = some D ∧ D.kind = .grillConfirmation ∧
      ¬ Session.refusesAnswer s D (trim answer) ∧ AnswerContinues digest s D answer t := by
  have hchanged : t.answeredDecisionKeys ≠ s.answeredDecisionKeys := by
    intro hkeys
    rw [not_accepts hkeys] at haccepts
    cases haccepts
  unfold acceptsConfirmation at haccepts
  split at haccepts
  · rename_i answer D hinput hD
    obtain rfl : op = .recordAnswer answer := hinput
    have hkind := (of_decide_eq_true haccepts).1
    refine ⟨answer, D, rfl, hD, hkind, ?_⟩
    cases h with
    | answered hr horch hpending _ hguard hcontinues =>
        obtain rfl := Option.some.inj (hD.symm.trans hpending)
        exact ⟨hguard, hcontinues⟩
    | entered hr hop => cases hop
    | deepIssued hr hop => cases hop
    | retrievalEnded hop => cases hop
    | bookkept hop => cases hop
    | asked hr hop => cases hop
    | _ => exact absurd rfl hchanged
  · cases haccepts

/-- **From the eighth answer on**, an accepted answer is recorded and leaves a checkpoint of the current round. -/
theorem accepted_leaves_checkpoint {s t : SessionState} {n : Nat} {op : SessionOp} {r : SessionOutcome}
    (h : SessionMove digest s op r t) (hs : CheckpointInv ref s n)
    (haccepts : acceptsConfirmation ⟨s, op, r, t⟩ = true) (hmany : 8 ≤ n + 1) :
    ∃ answer D, op = .recordAnswer answer ∧ s.uiState.waitUser = some D ∧ LeavesCheckpoint digest s t answer D := by
  obtain ⟨answer, D, rfl, hD, hkind, -, hcontinues⟩ := accepted_continues h haccepts
  have hundecided := (hs.unanswered D hD hkind).2
  refine ⟨answer, D, rfl, hD, ?_⟩
  cases hcontinues with
  | atCheckpoint hgrill hround hid hdue =>
      rename_i round
      exact
        { round := ⟨round, hround, rfl, by simp [afterAnswer, hkind, hround, OrderedMap.get?_insert]⟩
          waits := rfl
          shown := rfl
          answered := by simp [afterAnswer]
          decided := by simp [afterAnswer, hundecided, OrderedMap.get?_insert] }
  | inGrill _ hfew => exact absurd ((hs.due_iff hD hkind answer).mpr hmany) (hfew hkind)
  | confirmed hother => simp [hkind] at hother
  | inContextBuild hother => simp [hkind] at hother
  | inAdrBuild hother => simp [hkind] at hother

theorem LeavesCheckpoint.atCheckpoint {s t : SessionState} {answer : String} {D : WaitUserState}
    (h : LeavesCheckpoint digest s t answer D) : AtCheckpoint t := by
  obtain ⟨round, -, hpending, -⟩ := h.round
  simp [AtCheckpoint, hpending, Session.checkpointDecision]

/-- Without an accepted answer no checkpoint comes up. -/
theorem unaccepted_raises_none {s t : SessionState} {n : Nat} {op : SessionOp} {r : SessionOutcome}
    (h : SessionMove digest s op r t) (hs : CheckpointInv ref s n) (hop : KeepsGrilling ref s op)
    (hnot : acceptsConfirmation ⟨s, op, r, t⟩ = false) (hat : AtCheckpoint t) : AtCheckpoint s := by
  cases h with
  | asked hr hquestion hdecisionId hkey hdecision hround hroundId horch =>
      rename_i payload round
      have hkind : payload.kind = .grillConfirmation := by
        cases op <;> first | (cases hquestion; exact hop) | cases hquestion
      have hcheckpoint : some payload.kind = some WaitUserKind.grillCheckpoint := hat
      simp [hkind] at hcheckpoint
  | answered hr horch hpending hkind hguard hcontinues =>
      have hgrill := (hs.pending _ hpending).resolve_right hkind
      rw [accepts_answered hs hpending hgrill hcontinues] at hnot
      cases hnot
  | checkpointAnswered => cases hat
  | roundStarted hr first hfirst =>
      cases first with
      | true => exact hat
      | false => exact hat
  | deepIssued => cases hat
  | retrievalEnded => cases hat
  | bookkept => exact hat
  | entered => exact hat
  | refused => exact hat
  | orchestratorCreated => exact hat
  | answerRefused => exact hat
  | grillRetried => exact hat
  | omissionRecorded => exact hat
  | _ => exact hop.elim

/-- A checkpoint comes up with the eighth accepted answer and with every later one, and otherwise never. -/
theorem raises_iff {s t : SessionState} {n : Nat} {op : SessionOp} {r : SessionOutcome}
    (h : SessionMove digest s op r t) (hs : CheckpointInv ref s n) (hop : KeepsGrilling ref s op) :
    raisesCheckpoint ⟨s, op, r, t⟩ = true ↔ acceptsConfirmation ⟨s, op, r, t⟩ = true ∧ 8 ≤ n + 1 := by
  have hafter := move_checkpointInv h hs hop
  constructor
  · intro hraises
    obtain ⟨hat, hnew⟩ := of_decide_eq_true hraises
    have haccepts : acceptsConfirmation ⟨s, op, r, t⟩ = true := by
      by_contra hnot
      exact hnew (unaccepted_raises_none h hs hop (Bool.eq_false_iff.mpr hnot) hat)
    refine ⟨haccepts, ?_⟩
    rw [haccepts] at hafter
    by_contra hfew
    exact (hafter.early (not_le.mp hfew)).1 hat
  · rintro ⟨haccepts, hmany⟩
    obtain ⟨answer, D, -, -, hleaves⟩ := accepted_leaves_checkpoint h hs haccepts hmany
    obtain ⟨-, E, -, hE, hkind, -⟩ := accepted_continues h haccepts
    exact decide_eq_true ⟨hleaves.atCheckpoint, CheckpointInv.not_atCheckpoint hE (by simp [hkind])⟩

/-- A checkpoint stays until it is answered. -/
theorem checkpoint_stays {s t : SessionState} {n : Nat} {op : SessionOp} {r : SessionOutcome}
    (h : SessionMove digest s op r t) (hs : CheckpointInv ref s n) (hop : KeepsGrilling ref s op)
    (hunanswered : ∀ answer, op = .recordAnswer answer → ¬ AnswersCheckpoint s answer) (hat : AtCheckpoint s) :
    AtCheckpoint t := by
  cases h with
  | asked hr hquestion hdecisionId hkey hdecision hround hroundId horch =>
      obtain ⟨D, hD, -⟩ := Option.map_eq_some_iff.mp hat
      simp [hs.waiting.waiting hD, Session.stageFrom] at horch
  | answered hr horch hpending hkind hguard hcontinues =>
      exact absurd hat (CheckpointInv.not_atCheckpoint hpending hkind)
  | checkpointAnswered hr horch hpending hkind hguard => exact absurd ⟨_, hpending, hkind, hguard⟩ (hunanswered _ rfl)
  | roundStarted hr first hfirst =>
      cases first with
      | true => exact hat
      | false => exact hat
  | deepIssued hr hissues => cases op <;> first | exact hop.elim | cases hissues
  | retrievalEnded hretrieval => cases op <;> first | exact hop.elim | cases hretrieval
  | bookkept => exact hat
  | entered => exact hat
  | refused => exact hat
  | orchestratorCreated => exact hat
  | answerRefused => exact hat
  | grillRetried => exact hat
  | omissionRecorded => exact hat
  | _ => exact hop.elim

/-! ### Runs -/

/-- The law of the checkpoint in a run. -/
structure CheckpointLaw (digest : String → String) (ops : List SessionOp) : Prop where
  /-- The session counts the accepted answers. -/
  counted : ∀ pre, pre <+: ops → (sessionAfter digest pre).grillAcceptedAnswerCount =
    (trace (sessionStep digest) createForgeSessionState pre).countP acceptsConfirmation
  /-- No checkpoint before the eighth accepted answer. -/
  early : ∀ pre, pre <+: ops →
    (trace (sessionStep digest) createForgeSessionState pre).countP acceptsConfirmation < 8 →
    ¬ AtCheckpoint (sessionAfter digest pre)
  /-- The eighth accepted answer and every later one leave a checkpoint. -/
  late : ∀ pre st post, trace (sessionStep digest) createForgeSessionState ops = pre ++ st :: post →
    acceptsConfirmation st = true → 7 ≤ pre.countP acceptsConfirmation →
    ∃ answer D, st.input = .recordAnswer answer ∧ st.before.uiState.waitUser = some D ∧
      LeavesCheckpoint digest st.before st.after answer D
  /-- From one checkpoint to the next one answer is accepted, after `continue_one`. -/
  between : ∀ pre first mid last post,
    trace (sessionStep digest) createForgeSessionState ops = pre ++ first :: (mid ++ last :: post) →
    raisesCheckpoint first = true → (∀ st ∈ mid, raisesCheckpoint st = false) → raisesCheckpoint last = true →
    (mid ++ [last]).filter acceptsConfirmation = [last] ∧ ∃ st ∈ mid, TakesOneMore st
  /-- What is no accepted answer does not count. -/
  neverCounted : ∀ st ∈ trace (sessionStep digest) createForgeSessionState ops, NeverCounts st.before st.input →
    acceptsConfirmation st = false ∧ st.after.grillAcceptedAnswerCount = st.before.grillAcceptedAnswerCount

/-- An omission, a retry and a refused answer are not accepted. -/
theorem neverCounts_not_accepted {s t : SessionState} {op : SessionOp} {r : SessionOutcome}
    (h : SessionMove digest s op r t) (hnever : NeverCounts s op) : acceptsConfirmation ⟨s, op, r, t⟩ = false := by
  by_contra haccepts
  obtain ⟨answer, D, rfl, hD, hkind, hguard, hcontinues⟩ := accepted_continues h (by simpa using haccepts)
  refine hguard ?_
  rcases hnever D hD with hblank | hround | hused | hcheckpoint
  · exact .inl hblank
  · exact .inr (.inl ⟨.inl hkind, hround⟩)
  · exact .inr (.inr (.inr (.inr ⟨by simp [hkind], hused⟩)))
  · simp [hkind] at hcheckpoint

theorem step_checkpointInv (s : SessionState) (op : SessionOp) (steps : List SessionStepRecord)
    (hs : CheckpointInv ref s (steps.countP acceptsConfirmation)) (hop : KeepsGrilling ref s op) :
    CheckpointInv ref (sessionStep digest op s).2
      ((steps ++ [stepAt (sessionStep digest) s op]).countP acceptsConfirmation) := by
  have hone : ∀ accepted : Bool, (if accepted = true then 1 else 0) = accepted.toNat := by decide
  rw [List.countP_append, List.countP_singleton, hone]
  exact move_checkpointInv (step_move digest s op) hs hop

/-- The invariant before each step of a Grill run, with the answers accepted so far. -/
theorem checkpointInv_before {ops : List SessionOp}
    (hops : Admissible (sessionStep digest) (KeepsGrilling ref) createForgeSessionState ops)
    {pre post : List SessionStepRecord} {st : SessionStepRecord}
    (ht : trace (sessionStep digest) createForgeSessionState ops = pre ++ st :: post) :
    CheckpointInv ref st.before (pre.countP acceptsConfirmation) ∧ KeepsGrilling ref st.before st.input ∧
      SessionMove digest st.before st.input st.output st.after := by
  have hmem : st ∈ trace (sessionStep digest) createForgeSessionState ops := by
    rw [ht]
    simp
  have hbefore := steps_before (I := fun s steps => CheckpointInv ref s (steps.countP acceptsConfirmation))
    step_checkpointInv (init_checkpointInv ref) hops ht
  exact ⟨hbefore, (holds_throughout (I := fun _ => True) (fun _ _ _ _ => trivial) trivial hops hmem).2.1,
    move_of_mem hmem⟩

/-- The invariant at the end of a Grill run. -/
theorem checkpointInv_after {ops : List SessionOp}
    (hops : Admissible (sessionStep digest) (KeepsGrilling ref) createForgeSessionState ops) :
    CheckpointInv ref (sessionAfter digest ops)
      ((trace (sessionStep digest) createForgeSessionState ops).countP acceptsConfirmation) :=
  steps_at_finish (I := fun s steps => CheckpointInv ref s (steps.countP acceptsConfirmation))
    step_checkpointInv (init_checkpointInv ref) hops

/-- Between two checkpoints, and not earlier, a checkpoint is answered. -/
theorem checkpoint_answered {ops : List SessionOp}
    (hops : Admissible (sessionStep digest) (KeepsGrilling ref) createForgeSessionState ops)
    {pre mid post : List SessionStepRecord} {first last : SessionStepRecord}
    (ht : trace (sessionStep digest) createForgeSessionState ops = pre ++ first :: (mid ++ last :: post))
    (hfirst : AtCheckpoint first.after) (hlast : ¬ AtCheckpoint last.before) : ∃ st ∈ mid, TakesOneMore st := by
  by_contra hnone
  refine hlast (holds_until ht hfirst fun st hst _ hat => ?_)
  obtain ⟨early, late, rfl⟩ := List.append_of_mem hst
  obtain ⟨hinv, hop, hmove⟩ := checkpointInv_before hops
    (show _ = (pre ++ first :: early) ++ st :: (late ++ last :: post) by rw [ht]; simp)
  refine checkpoint_stays hmove hinv hop (fun answer hinput hanswers => hnone ⟨st, hst, answer, hinput, hanswers, ?_⟩) hat
  obtain ⟨D, hD, hkind, hguard⟩ := hanswers
  by_contra hother
  rw [hinput] at hop
  have hconverge : trim answer ≠ "converge" := fun hconverge => hop ⟨⟨D, hD, hkind, hguard⟩, hconverge⟩
  exact hguard (.inr (.inr (.inr (.inl ⟨hkind, hother, hconverge⟩))))

/-- **The law of the checkpoint**, in every run of Grill over one snapshot in which nobody chooses to converge. -/
theorem grill_checkpoint_law (digest : String → String) (ref : Nat) (ops : List SessionOp)
    (hops : Admissible (sessionStep digest) (KeepsGrilling ref) createForgeSessionState ops) :
    CheckpointLaw digest ops where
  counted := by
    rintro pre ⟨rest, rfl⟩
    exact (checkpointInv_after (admissible_left hops)).counted
  early := by
    rintro pre ⟨rest, rfl⟩ hfew
    exact ((checkpointInv_after (admissible_left hops)).early hfew).1
  late := by
    intro pre st post ht haccepts hmany
    obtain ⟨hinv, -, hmove⟩ := checkpointInv_before hops ht
    exact accepted_leaves_checkpoint hmove hinv haccepts (by omega)
  between := by
    intro pre first mid last post ht hfirst hmid hlast
    obtain ⟨hat, -⟩ := of_decide_eq_true hfirst
    obtain ⟨-, hnew⟩ := of_decide_eq_true hlast
    have hearlier : 8 ≤ (pre ++ [first]).countP acceptsConfirmation := by
      obtain ⟨hinv, hop, hmove⟩ := checkpointInv_before hops ht
      obtain ⟨haccepts, hmany⟩ := (raises_iff hmove hinv hop).mp hfirst
      rw [List.countP_append, List.countP_singleton, if_pos haccepts]
      exact hmany
    have hnoneMid : ∀ st ∈ mid, acceptsConfirmation st = false := by
      intro st hst
      obtain ⟨early, late, rfl⟩ := List.append_of_mem hst
      obtain ⟨hinv, hop, hmove⟩ := checkpointInv_before hops
        (show _ = (pre ++ first :: early) ++ st :: (late ++ last :: post) by rw [ht]; simp)
      by_contra haccepts
      have hmany : 8 ≤ (pre ++ first :: early).countP acceptsConfirmation + 1 := by
        rw [show pre ++ first :: early = (pre ++ [first]) ++ early by simp, List.countP_append]
        omega
      have hraises := (raises_iff hmove hinv hop).mpr ⟨by simpa using haccepts, hmany⟩
      rw [hmid st hst] at hraises
      cases hraises
    have haccepts : acceptsConfirmation last = true := by
      obtain ⟨hinv, hop, hmove⟩ := checkpointInv_before hops
        (show _ = (pre ++ first :: mid) ++ last :: post by rw [ht]; simp)
      exact ((raises_iff hmove hinv hop).mp hlast).1
    refine ⟨?_, checkpoint_answered hops ht hat hnew⟩
    rw [List.filter_append, List.filter_eq_nil_iff.mpr fun st hst => by simp [hnoneMid st hst]]
    simp [haccepts]
  neverCounted := by
    intro st hst hnever
    obtain ⟨early, late, ht⟩ := List.append_of_mem hst
    obtain ⟨hinv, hop, hmove⟩ := checkpointInv_before hops ht
    have hnot := neverCounts_not_accepted hmove hnever
    have hafter := move_checkpointInv hmove hinv hop
    rw [hnot] at hafter
    exact ⟨hnot, hafter.counted.trans hinv.counted.symm⟩

/-- Nine questions of one round, answered, with the checkpoint after the eighth. -/
def nineAnswers : List SessionOp :=
  let ask (decisionId : String) : List SessionOp :=
    [.requireWaitUser (firstRoundQuestion decisionId), .recordAnswer "yes"]
  .startGrillRound "request" (emptySnapshot 0) :: (["a", "b", "c", "d", "e", "f", "g", "h"].flatMap ask ++
    [.recordAnswer "continue_one"] ++ ask "i")

theorem grill_checkpoint_law_nineAnswers : CheckpointLaw id nineAnswers := by
  have hyes : trim "yes" ≠ "converge" := by decide
  have hcontinue : trim "continue_one" ≠ "converge" := by decide
  refine grill_checkpoint_law id 0 nineAnswers ?_
  simp [nineAnswers, Admissible, KeepsGrilling, emptySnapshot, firstRoundQuestion, hyes, hcontinue]

example : ((trace (sessionStep id) createForgeSessionState nineAnswers).countP acceptsConfirmation,
    (trace (sessionStep id) createForgeSessionState nineAnswers).countP raisesCheckpoint) = (9, 2) := by
  decide +kernel

end ForgeRuntime
