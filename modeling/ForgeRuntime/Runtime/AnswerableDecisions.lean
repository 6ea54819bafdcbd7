import ForgeRuntime.Runtime.Attempts

/-!
# Every pending decision can be answered

`recordAnswer` refuses a question whose key was answered before, so a question that is asked again under
an answered key could never be left.  `requireWaitUser` checks the answered keys before it asks; the deep
steps ask under a key that carries the ID of an attempt, which is used up by asking.  The two ambiguities
check nothing.

* `AnswerInv` — the invariant that relates the answered keys, the current round and the pending decision;
* `answerable_of_fresh` — in a run in which no ambiguity is asked again under an answered key, every
  pending decision has an answer that is accepted;
* `asked_again_is_stuck` — a run in which one is, and which no answer leaves.
-/

namespace ForgeRuntime

open EventDriven EventDriven.Text EventDriven.Machine Session

variable {digest : String → String}

/-! ### The callers -/

/-- The kinds of questions that the extension puts through `requireWaitUser`. -/
def GrillKind (kind : WaitUserKind) : Prop :=
  kind = .grillConfirmation ∨ kind = .relevanceClarification

instance (kind : WaitUserKind) : Decidable (GrillKind kind) := inferInstanceAs (Decidable (_ ∨ _))

/-- Only Grill questions go through `requireWaitUser`. -/
def AsksGrillKinds : SessionOp → Prop
  | .requireWaitUser payload => GrillKind payload.kind
  | .requireGrillResult payload => GrillKind payload.kind
  | _ => True

instance : ∀ op, Decidable (AsksGrillKinds op)
  | .requireWaitUser payload => inferInstanceAs (Decidable (GrillKind payload.kind))
  | .requireGrillResult payload => inferInstanceAs (Decidable (GrillKind payload.kind))
  | .beginGrill _ | .beginIntent _ | .beginLightDiscovery _ | .beginDeepKnowledge _ _
  | .cancelDeepKnowledge | .completeDeepKnowledge _ _ _ | .retryDeepKnowledge _
  | .completeDeepRetrieval _ _ _ | .completeContextBuild _ _ | .confirm | .continueGrillRound
  | .retryGrillRound | .handleDeepResult _ _ | .recordCompletionOmission
  | .recordDeepSupplementalEvidence _ _ _ | .consumeDeepSearchBudget _ | .reserveDeepSearchBudget _
  | .commitDeepSearchBudget _ | .releaseDeepSearchBudget _ | .recordEvidenceFetch _ | .recordAnswer _
  | .prepareAdrBuild _ _ | .requireAdrDecision _ _ | .finalizeAdrBuild _ _ | .reset | .reject _
  | .startGrillRound _ _ => inferInstanceAs (Decidable True)

theorem question_kind {op : SessionOp} {payload : WaitUserPayload} (h : AsksGrillKinds op)
    (hop : op.question? = some payload) : GrillKind payload.kind := by
  cases op <;> simp [SessionOp.question?] at hop <;> subst hop <;> exact h

/-- No round is started while a decision is pending. -/
def StartsRoundFree (s : SessionState) : SessionOp → Prop
  | .startGrillRound _ _ => s.uiState.waitUser = none
  | _ => True

/-- The calls that the extension makes. -/
def CalledByExtension (s : SessionState) (op : SessionOp) : Prop :=
  AsksGrillKinds op ∧ StartsRoundFree s op

/-- `op` would put an ambiguity before the user under a key that was answered before. -/
def AsksAgain (s : SessionState) : SessionOp → Prop
  | .completeContextBuild identity (.ambiguous ambiguity) =>
      s.contextBuildAttempt = some identity ∧ s.orchestrator = some .contextBuild ∧
        (∃ package ∈ s.knowledgeUnderstandingPackage,
          validateContextAmbiguity ambiguity package.evidenceIds = []) ∧
        ⟨identity.sourceRoundId, .contextAmbiguity, ambiguity.decisionId⟩ ∈ s.answeredDecisionKeys
  | .requireAdrDecision identity ambiguity =>
      s.adrBuildAttempt = some identity ∧ s.orchestrator = some .adrBuild ∧
        (∃ package ∈ s.knowledgeUnderstandingPackage,
          validateContextAmbiguity ambiguity package.evidenceIds = []) ∧
        ⟨identity.sourceRoundId, .adrAmbiguity, ambiguity.decisionId⟩ ∈ s.answeredDecisionKeys
  | _ => False

/-! ### The invariant -/

def fallbackSuffix : String := "-deep-discovery-fallback"

/-- A key of a question that a deep step asked names an attempt that is used up. -/
def KeySpent (s : SessionState) (key : DecisionKey) : Prop :=
  match key.kind with
  | .deepDecision => Issuer.Spent deepAttemptId (deepIssuer s) key.roundId
  | .deepDiscoveryFallback => ∃ attemptId, Issuer.Spent deepAttemptId (deepIssuer s) attemptId ∧
      key.decisionId = attemptId ++ fallbackSuffix
  | _ => True

theorem KeySpent.later {s t : SessionState} {key : DecisionKey} (h : KeySpent s key)
    (hlater : DeepLater s t) : KeySpent t key := by
  unfold KeySpent at h ⊢
  split
  · rename_i hkind
    simp only [hkind] at h
    exact h.later deepAttemptId_injective hlater
  · rename_i hkind
    simp only [hkind] at h
    obtain ⟨attemptId, hspent, hid⟩ := h
    exact ⟨attemptId, hspent.later deepAttemptId_injective hlater, hid⟩
  · trivial

/-- **The invariant.**  What makes a pending decision answerable: its key is unused, its round is the
current one where the answer must match it, and the keys of the deep questions name used-up attempts. -/
structure AnswerInv (s : SessionState) : Prop where
  pendingIff : PendingIffWaiting s
  liveIssued : DeepIssued s
  unanswered : ∀ D, s.uiState.waitUser = some D → waitUserDecisionKey D ∉ s.answeredDecisionKeys
  pendingSpent : ∀ D, s.uiState.waitUser = some D → KeySpent s (waitUserDecisionKey D)
  answeredSpent : ∀ key ∈ s.answeredDecisionKeys, KeySpent s key
  noCheckpoint : ∀ key ∈ s.answeredDecisionKeys, key.kind ≠ .grillCheckpoint
  round : ∀ D, s.uiState.waitUser = some D → D.kind = .grillConfirmation ∨ D.kind = .grillCheckpoint →
    ∃ round, s.currentGrillRound = some round ∧ round.roundId = D.roundId

theorem init_answerInv : AnswerInv createForgeSessionState where
  pendingIff := init_pendingIffWaiting
  liveIssued := init_deepIssued
  unanswered := by simp [createForgeSessionState]
  pendingSpent := by simp [createForgeSessionState, createForgeUiState]
  answeredSpent := by simp [createForgeSessionState]
  noCheckpoint := by simp [createForgeSessionState]
  round := by simp [createForgeSessionState, createForgeUiState]

/-- A move that answers nothing, and leaves no pending decision or the one that was there. -/
theorem AnswerInv.frame {s t : SessionState} (hs : AnswerInv s) (hpending : PendingIffWaiting t)
    (hissued : DeepIssued t) (hlater : DeepLater s t)
    (hkeys : t.answeredDecisionKeys = s.answeredDecisionKeys)
    (hdecision : t.uiState.waitUser = none ∨
      (t.uiState.waitUser = s.uiState.waitUser ∧ t.currentGrillRound = s.currentGrillRound)) :
    AnswerInv t where
  pendingIff := hpending
  liveIssued := hissued
  unanswered D hD := by
    rcases hdecision with hnone | ⟨hsame, -⟩
    · simp [hnone] at hD
    · exact hkeys ▸ hs.unanswered D (hsame ▸ hD)
  pendingSpent D hD := by
    rcases hdecision with hnone | ⟨hsame, -⟩
    · simp [hnone] at hD
    · exact (hs.pendingSpent D (hsame ▸ hD)).later hlater
  answeredSpent key hkey := (hs.answeredSpent key (hkeys ▸ hkey)).later hlater
  noCheckpoint key hkey := hs.noCheckpoint key (hkeys ▸ hkey)
  round D hD hkind := by
    rcases hdecision with hnone | ⟨hsame, hround⟩
    · simp [hnone] at hD
    · exact hround ▸ hs.round D (hsame ▸ hD) hkind

/-- A move that asks a new question `D` and answers nothing. -/
theorem AnswerInv.ask {s t : SessionState} (hs : AnswerInv s) (hpending : PendingIffWaiting t)
    (hissued : DeepIssued t) (hlater : DeepLater s t)
    (hkeys : t.answeredDecisionKeys = s.answeredDecisionKeys) {D : WaitUserState}
    (hD : t.uiState.waitUser = some D) (hnew : waitUserDecisionKey D ∉ s.answeredDecisionKeys)
    (hspent : KeySpent t (waitUserDecisionKey D))
    (hround : D.kind = .grillConfirmation ∨ D.kind = .grillCheckpoint →
      ∃ round, t.currentGrillRound = some round ∧ round.roundId = D.roundId) : AnswerInv t where
  pendingIff := hpending
  liveIssued := hissued
  unanswered E hE := by
    obtain rfl := Option.some.inj (hE.symm.trans hD)
    exact hkeys ▸ hnew
  pendingSpent E hE := by
    obtain rfl := Option.some.inj (hE.symm.trans hD)
    exact hspent
  answeredSpent key hkey := (hs.answeredSpent key (hkeys ▸ hkey)).later hlater
  noCheckpoint key hkey := hs.noCheckpoint key (hkeys ▸ hkey)
  round E hE := by
    obtain rfl := Option.some.inj (hE.symm.trans hD)
    exact hround

/-- The live attempt is not used up, so no answered key names it. -/
theorem AnswerInv.live_deepDecision {s : SessionState} (hs : AnswerInv s)
    {identity : DeepAttemptIdentity} (hlive : s.deepAttempt = some identity)
    (decision : DeepNeedsDecisionResult) :
    waitUserDecisionKey (deepDecision identity decision) ∉ s.answeredDecisionKeys := by
  intro hkey
  have hspent : Issuer.Spent deepAttemptId (deepIssuer s) identity.attemptId :=
    hs.answeredSpent _ hkey
  exact hspent.2 (deepIssuer_live hlive)

theorem AnswerInv.live_fallback {s : SessionState} (hs : AnswerInv s) {identity : DeepAttemptIdentity}
    (hlive : s.deepAttempt = some identity) (evidenceIds : List String) :
    waitUserDecisionKey (fallbackDecision identity evidenceIds) ∉ s.answeredDecisionKeys := by
  intro hkey
  have hspent : ∃ attemptId, Issuer.Spent deepAttemptId (deepIssuer s) attemptId ∧
      identity.attemptId ++ fallbackSuffix = attemptId ++ fallbackSuffix := hs.answeredSpent _ hkey
  obtain ⟨attemptId, hspent, hid⟩ := hspent
  obtain rfl := append_injective_left _ hid
  exact hspent.2 (deepIssuer_live hlive)

/-- Once the live attempt has asked and is gone, it is used up. -/
theorem spent_of_dropped {s t : SessionState} (hs : DeepIssued s) {identity : DeepAttemptIdentity}
    (hlive : s.deepAttempt = some identity) (hlater : DeepLater s t) (hnone : t.deepAttempt = none) :
    Issuer.Spent deepAttemptId (deepIssuer t) identity.attemptId :=
  Issuer.spent_of_gone hs (deepIssuer_live hlive) hlater (by simp [deepIssuer, hnone])

theorem continues_keys {s t : SessionState} {pending : WaitUserState} {answer : String}
    (h : AnswerContinues digest s pending answer t) :
    t.answeredDecisionKeys = s.answeredDecisionKeys.add (waitUserDecisionKey pending) := by
  cases h <;> rfl

/-- After a kept answer nothing is pending, or the checkpoint of the current round is. -/
theorem continues_pending {s t : SessionState} {pending : WaitUserState} {answer : String}
    (h : AnswerContinues digest s pending answer t) :
    t.uiState.waitUser = none ∨ ∃ round, t.currentGrillRound = some round ∧
      t.uiState.waitUser = some (checkpointDecision round pending.evidenceIds) := by
  cases h with
  | atCheckpoint hkind hround hid hdue => exact Or.inr ⟨_, hround, rfl⟩
  | _ => exact Or.inl rfl

theorem move_answerInv {s t : SessionState} {op : SessionOp} {r : SessionOutcome}
    (h : SessionMove digest s op r t) (hs : AnswerInv s) (hcall : CalledByExtension s op)
    (hfresh : ¬ AsksAgain s op) : AnswerInv t := by
  have hpending := move_pendingIffWaiting h hs.pendingIff
  have hissued := hs.liveIssued.later (move_deepLater h)
  have hlater := move_deepLater h
  cases h with
  | deepDecisionAsked hlive horch summary =>
      exact hs.ask hpending hissued hlater rfl rfl (hs.live_deepDecision hlive _)
        (spent_of_dropped hs.liveIssued hlive hlater rfl) (by simp [deepDecision])
  | fallbackAsked hlive horch hcount shown =>
      exact hs.ask hpending hissued hlater rfl rfl (hs.live_fallback hlive _)
        ⟨_, spent_of_dropped hs.liveIssued hlive hlater rfl, rfl⟩ (by simp [fallbackDecision])
  | contextAmbiguityAsked hlive horch hpackage hvalid =>
      refine hs.ask hpending hissued hlater rfl rfl (fun hkey => ?_) trivial (by simp [ambiguityDecision])
      exact hfresh ⟨hlive, horch, ⟨_, hpackage, hvalid⟩, hkey⟩
  | adrAmbiguityAsked hlive horch hpackage hvalid =>
      refine hs.ask hpending hissued hlater rfl rfl (fun hkey => ?_) trivial (by simp [ambiguityDecision])
      exact hfresh ⟨hlive, horch, ⟨_, hpackage, hvalid⟩, hkey⟩
  | asked hr hop hdecisionId hkey hdecision hround hroundId horch =>
      refine hs.ask hpending hissued hlater rfl rfl hkey ?_ fun _ => ⟨_, hround, hroundId.symm⟩
      rcases question_kind hcall.1 hop with hkind | hkind <;>
        simp [KeySpent, waitUserDecisionKey, hkind]
  | answered hr horch hD hkind hguard hcontinues =>
      have hkeys := continues_keys hcontinues
      have hafter := continues_pending hcontinues
      have hcheckpoint : ∀ key ∈ t.answeredDecisionKeys, key.kind ≠ .grillCheckpoint := by
        intro key hkey
        rw [hkeys, OrderedSet.mem_add] at hkey
        rcases hkey with rfl | hkey
        · exact hkind
        · exact hs.noCheckpoint key hkey
      refine ⟨hpending, hissued, ?_, ?_, ?_, hcheckpoint, ?_⟩
      · intro E hE hmem
        rcases hafter with hnone | ⟨round, -, hsome⟩
        · simp [hnone] at hE
        · obtain rfl := Option.some.inj (hE.symm.trans hsome)
          exact hcheckpoint _ hmem rfl
      · intro E hE
        rcases hafter with hnone | ⟨round, -, hsome⟩
        · simp [hnone] at hE
        · obtain rfl := Option.some.inj (hE.symm.trans hsome)
          trivial
      · intro key hkey
        rw [hkeys, OrderedSet.mem_add] at hkey
        rcases hkey with rfl | hkey
        · exact (hs.pendingSpent _ hD).later hlater
        · exact (hs.answeredSpent key hkey).later hlater
      · intro E hE hgrill
        rcases hafter with hnone | ⟨round, hround, hsome⟩
        · simp [hnone] at hE
        · obtain rfl := Option.some.inj (hE.symm.trans hsome)
          exact ⟨round, hround, rfl⟩
  | wasReset hr =>
      exact ⟨hpending, hissued, by simp [createForgeSessionState], by
        simp [createForgeSessionState, createForgeUiState], by simp [createForgeSessionState], by
        simp [createForgeSessionState], by simp [createForgeSessionState, createForgeUiState]⟩
  | roundStarted hr first hfirst =>
      have hnone : s.uiState.waitUser = none := hcall.2
      cases first
      · exact hs.frame hpending hissued hlater rfl (Or.inl hnone)
      · exact hs.frame hpending hissued hlater rfl (Or.inl hnone)
  | _ =>
      first
      | exact hs.frame hpending hissued hlater rfl (Or.inl rfl)
      | exact hs.frame hpending hissued hlater rfl (Or.inr ⟨rfl, rfl⟩)

/-! ### Answerability -/

/-- `answer` is accepted for the pending decision `D`: the call returns, `D` is not pending afterwards,
and its key counts as answered (a checkpoint leaves no key). -/
def AcceptsAnswer (digest : String → String) (s : SessionState) (D : WaitUserState) (answer : String) :
    Prop :=
  (∃ ui, (sessionStep digest (.recordAnswer answer) s).1 = .ok (.ui ui)) ∧
    (sessionStep digest (.recordAnswer answer) s).2.uiState.waitUser ≠ some D ∧
    (D.kind = .grillCheckpoint ∨ waitUserDecisionKey D ∈
      (sessionStep digest (.recordAnswer answer) s).2.answeredDecisionKeys)

/-- The user is not stuck: at `WAIT_USER` a decision is pending and some answer to it is accepted, and no
decision is pending whose key was answered before. -/
structure NotStuck (digest : String → String) (s : SessionState) : Prop where
  answerable : s.orchestrator = some .waitUser →
    ∃ D answer, s.uiState.waitUser = some D ∧ AcceptsAnswer digest s D answer
  unanswered : ∀ D, s.uiState.waitUser = some D → waitUserDecisionKey D ∉ s.answeredDecisionKeys

/-- An answer that passes the guards is accepted. -/
theorem acceptsAnswer_of_guard {s : SessionState} {D : WaitUserState} {answer : String}
    (horch : s.orchestrator = some .waitUser) (hD : s.uiState.waitUser = some D)
    (hguard : ¬ refusesAnswer s D (trim answer)) : AcceptsAnswer digest s D answer := by
  have hrun : recordAnswer digest answer s = acceptAnswer digest D answer s := by
    simp only [recordAnswer, Turn.get_bind_apply, Turn.ite_apply_state, horch, hD, hguard, ne_eq,
      not_true_eq_false, if_false]
  have hstep : sessionStep digest (.recordAnswer answer) s =
      ((acceptAnswer digest D answer s).1.map .ui, (acceptAnswer digest D answer s).2) := by
    change (SessionResult.ui <$> recordAnswer digest answer) s = _
    rw [Turn.map_apply, hrun]
  unfold AcceptsAnswer
  rw [hstep]
  by_cases hkind : D.kind = .grillCheckpoint
  · simp only [acceptAnswer, if_pos hkind, answerCheckpoint_apply]
    exact ⟨⟨_, rfl⟩, by simp, Or.inl hkind⟩
  · obtain ⟨ui, t, haccept, hcontinues⟩ := acceptAnswer_continues s digest answer hkind hguard
    rw [haccept]
    refine ⟨⟨ui, rfl⟩, ?_, Or.inr ?_⟩
    · intro hsame
      rcases continues_pending hcontinues with hnone | ⟨round, -, hsome⟩
      · simp [hnone] at hsame
      · have hcheckpoint := Option.some.inj (hsome.symm.trans hsame)
        exact hkind (hcheckpoint ▸ rfl)
    · simp [continues_keys hcontinues]

/-- An answer that every question of its kind takes. -/
def sampleAnswer (kind : WaitUserKind) : String :=
  if kind = .grillCheckpoint then "converge" else "確認"

theorem not_refuses_sampleAnswer {s : SessionState} (hs : AnswerInv s) {D : WaitUserState}
    (hD : s.uiState.waitUser = some D) : ¬ refusesAnswer s D (trim (sampleAnswer D.kind)) := by
  have hround : D.kind = .grillConfirmation ∨ D.kind = .grillCheckpoint →
      s.currentGrillRound.map (·.roundId) = some D.roundId := by
    intro hkind
    obtain ⟨round, hround, hid⟩ := hs.round D hD hkind
    simp [hround, hid]
  have hunanswered := hs.unanswered D hD
  have hcheckpoint : trim "converge" = "converge" := by decide
  have hother : trim "確認" = "確認" := by decide
  unfold refusesAnswer sampleAnswer
  by_cases hkind : D.kind = .grillCheckpoint
  · simp [hkind, hcheckpoint, hround (Or.inr hkind)]
  · simp only [hkind, if_false, hother, hunanswered]
    simpa using fun h => hround (Or.inl h)

theorem AnswerInv.notStuck {s : SessionState} (hs : AnswerInv s) : NotStuck digest s where
  answerable hwait := by
    obtain ⟨D, hD⟩ := Option.isSome_iff_exists.mp (hs.pendingIff.mpr hwait)
    exact ⟨D, sampleAnswer D.kind, hD, acceptsAnswer_of_guard hwait hD (not_refuses_sampleAnswer hs hD)⟩
  unanswered := hs.unanswered

/-- A call of the extension that does not ask an answered ambiguity again. -/
def AsksFresh (s : SessionState) (op : SessionOp) : Prop := CalledByExtension s op ∧ ¬ AsksAgain s op

/-- **No stuck `WAIT_USER`.**  In every run of the calls of the extension in which no ambiguity is asked
again under an answered key, the user is never stuck. -/
theorem answerable_of_fresh (digest : String → String) (ops : List SessionOp)
    (hops : Admissible (sessionStep digest) AsksFresh createForgeSessionState ops) :
    NotStuck digest (sessionAfter digest ops) := by
  have hinv : AnswerInv (sessionAfter digest ops) :=
    holds_at_finish (fun s op hs hop => move_answerInv (step_move digest s op) hs hop.1 hop.2)
      init_answerInv hops
  exact hinv.notStuck

/-! ### A question that is asked again -/

/-- A package with one piece of evidence. -/
def samplePackage : EvidencePackage :=
  { knowledgeSummary := "s"
    evidence := [⟨⟨"e", "wiki", "source", "title", "content", []⟩, .grill⟩]
    evidenceIds := ["e"]
    decisions := []
    findings := []
    limitations := []
    verificationLevel := none
    specGap := none
    formalSpecReference := none }

/-- The identity of the first deep attempt, in the understanding phase. -/
def firstDeepAttempt : DeepAttemptIdentity := ⟨"deep-1", "grill-1", .knowledgeUnderstanding⟩

/-- An ambiguity about the one piece of evidence. -/
def sampleAmbiguity (decisionId : String) : ContextAmbiguity :=
  { decisionId := decisionId
    question := "q"
    options := ["a", "b"]
    recommendation := "a"
    evidenceIds := ["e"] }

/-- The run into Context Build, where an ambiguity is asked and answered. -/
def answerAmbiguity : List SessionOp :=
  [.startGrillRound "request" (emptySnapshot 0), .beginDeepKnowledge none .knowledgeUnderstanding,
    .handleDeepResult firstDeepAttempt (.understandingCompleted samplePackage),
    .completeContextBuild ⟨"context-1", "grill-1"⟩ (.ambiguous (sampleAmbiguity "d")),
    .recordAnswer "a"]

/-- The same ambiguity, asked again by the next attempt. -/
def askAgain : List SessionOp :=
  answerAmbiguity ++
    [.completeContextBuild ⟨"context-2", "grill-1"⟩ (.ambiguous (sampleAmbiguity "d"))]

theorem answerable_of_fresh_answerAmbiguity : NotStuck id (sessionAfter id answerAmbiguity) := by
  refine answerable_of_fresh id answerAmbiguity
    ⟨⟨⟨trivial, rfl⟩, id⟩, ⟨⟨trivial, trivial⟩, id⟩, ⟨⟨trivial, trivial⟩, id⟩,
      ⟨⟨trivial, trivial⟩, ?_⟩, ⟨⟨trivial, trivial⟩, id⟩, trivial⟩
  rintro ⟨-, -, -, hkey⟩
  exact absurd hkey (by decide)

/-- No answer is accepted under a key that was answered before: each leaves the state as it is. -/
theorem answered_never_accepts {s : SessionState} {D : WaitUserState}
    (horch : s.orchestrator = some .waitUser) (hD : s.uiState.waitUser = some D)
    (hkind : D.kind ≠ .grillCheckpoint) (hkey : waitUserDecisionKey D ∈ s.answeredDecisionKeys)
    (answer : String) : ¬ AcceptsAnswer digest s D answer := by
  have hrefuses : refusesAnswer s D (trim answer) := Or.inr (Or.inr (Or.inr (Or.inr ⟨hkind, hkey⟩)))
  have hrun : recordAnswer digest answer s = (.ok s.uiState, s) := by
    simp only [recordAnswer, Turn.get_bind_apply, Turn.ite_apply_state, horch, hD, hrefuses, ne_eq,
      not_true_eq_false, if_false, if_true, Turn.pure_apply]
  have hsame : (sessionStep digest (.recordAnswer answer) s).2 = s := by
    change ((SessionResult.ui <$> recordAnswer digest answer) s).2 = s
    rw [Turn.map_apply, hrun]
  rintro ⟨-, hgone, -⟩
  rw [hsame] at hgone
  exact hgone hD

/-- **A decision asked again is stuck.**  The calls are calls of the extension, and no answer leaves the
decision that they end with. -/
theorem asked_again_is_stuck :
    ¬ ∀ ops, Admissible (sessionStep id) CalledByExtension createForgeSessionState ops →
      NotStuck id (sessionAfter id ops) := by
  intro hclaim
  have hcalls : Admissible (sessionStep id) CalledByExtension createForgeSessionState askAgain :=
    ⟨⟨trivial, rfl⟩, ⟨trivial, trivial⟩, ⟨trivial, trivial⟩, ⟨trivial, trivial⟩, ⟨trivial, trivial⟩,
      ⟨trivial, trivial⟩, trivial⟩
  have hwait : (sessionAfter id askAgain).orchestrator = some .waitUser := by decide
  have hpending : (sessionAfter id askAgain).uiState.waitUser =
      some (ambiguityDecision .contextAmbiguity "grill-1" (sampleAmbiguity "d")) := by decide
  obtain ⟨D, answer, hD, haccepts⟩ := (hclaim askAgain hcalls).answerable hwait
  obtain rfl := Option.some.inj (hpending.symm.trans hD)
  exact answered_never_accepts hwait hpending (by decide) (by decide) answer haccepts

end ForgeRuntime
