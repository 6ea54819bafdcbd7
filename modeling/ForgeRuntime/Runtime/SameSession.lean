import ForgeRuntime.Lib.PrefixCode
import ForgeRuntime.Runtime.Renaming
import ForgeRuntime.Runtime.SearchBudget

/-!
# Two sessions that cannot be told apart

`SameSession` relates two states that agree up to a renaming: everything that carries an ID is renamed, the
counters differ by the offsets of the renaming, and what no operation looks at may differ.  Each operation,
called in the one state and, renamed, in the other, gives the same up to the renaming and leaves such states
again; so the sessions show the same for ever.

* `SameSession` — the relation, one field for each variable of the session;
* `runOp_agree` — **every operation respects it**, and `observed_same` — so does every run;
* `observed_eq` — with nothing renamed, all that is seen is equal.
-/

namespace ForgeRuntime

open EventDriven EventDriven.Text EventDriven.Machine EventDriven.Turn

namespace Renaming

/-! ### The relation -/

/-- The key of a reservation and that of the renamed attempt. -/
def SameReservation (o : Offsets) (key key' : String) : Prop :=
  ∃ (n m : Nat) (phase : DeepAttemptPhase),
    key = Session.reservationKey ⟨Session.deepAttemptId n, Session.roundId m, phase⟩ ∧
    key' = Session.reservationKey
      ⟨Session.deepAttemptId (n + o.deepAttempts), Session.roundId (m + o.rounds), phase⟩

/-- **States that cannot be told apart** up to the renaming.  A session without an orchestrator behaves like one whose
orchestrator stands at the start, and of the count of requests for discovery only matters whether there was one. -/
structure SameSession (ρ : Renaming) (o : Offsets) (digest : String → String) (s t : SessionState) : Prop where
  answered : OrderedSet.Alike (fun k k' => k' = ρ.key k) s.answeredDecisionKeys t.answeredDecisionKeys
  decisions : OrderedMap.Alike (fun d d' => d' = ρ.decision d) (fun d d' => d' = ρ.humanDecision d)
    s.humanDecisions t.humanDecisions
  premises : OrderedMap.Alike (fun k k' => k' = ρ.key k) (ρ.SamePremise digest) s.humanPremises t.humanPremises
  supplementalIds : t.deepSupplementalEvidenceIds = s.deepSupplementalEvidenceIds
  supplemental : t.deepSupplementalEvidence = s.deepSupplementalEvidence
  fetched : t.fetchedEvidenceIds = s.fetchedEvidenceIds
  round : t.currentGrillRound = s.currentGrillRound.map ρ.round
  roundIssued : ∀ round ∈ s.currentGrillRound, ∃ n, round.roundId = Session.roundId n
  count : t.grillAcceptedAnswerCount = s.grillAcceptedAnswerCount
  continuePending : t.continueGrillCheckpointPending = s.continueGrillCheckpointPending
  orchestrator : t.orchestrator.getD .receive = s.orchestrator.getD .receive
  nextRound : t.nextRoundId = s.nextRoundId + o.rounds
  nextDeep : t.nextDeepAttemptId = s.nextDeepAttemptId + o.deepAttempts
  nextContext : t.nextContextBuildAttemptId = s.nextContextBuildAttemptId + o.contextBuildAttempts
  nextAdr : t.nextAdrBuildAttemptId = s.nextAdrBuildAttemptId + o.adrBuildAttempts
  deep : t.deepAttempt = s.deepAttempt.map ρ.deep
  deepIssued : ∀ identity ∈ s.deepAttempt, ∃ n m,
    identity.attemptId = Session.deepAttemptId n ∧ identity.sourceRoundId = Session.roundId m
  context : t.contextBuildAttempt = s.contextBuildAttempt.map ρ.context
  adr : t.adrBuildAttempt = s.adrBuildAttempt.map ρ.adr
  adrCandidate : t.adrBuildCandidate = s.adrBuildCandidate
  contextCandidate : t.contextCandidate = s.contextCandidate
  discoveries : s.needsDiscoveryCount = 0 ↔ t.needsDiscoveryCount = 0
  budgetRound : t.deepSearchBudgetRoundId = s.deepSearchBudgetRoundId.map ρ.id
  searches : t.deepSearchCount = s.deepSearchCount
  reservations : OrderedMap.Alike (SameReservation o) Eq s.deepSearchReservations t.deepSearchReservations
  retryPhase : t.deepRetryPhase = s.deepRetryPhase
  resumable : t.resumableDeepPhase = s.resumableDeepPhase
  locked : t.lockedDeepEvidence = s.lockedDeepEvidence
  package : t.knowledgeUnderstandingPackage = s.knowledgeUnderstandingPackage
  omission : t.completionOmissionRecorded = s.completionOmissionRecorded
  ui : ρ.SameUi s.uiState t.uiState

/-! ### What injectivity gives -/

variable {ρ : Renaming} {o : Offsets} {digest : String → String}

theorem SameText.same (x : String) : ρ.SameText x x := .inl rfl

theorem SameUi.create (stage : WorkflowStage) : ρ.SameUi (createForgeUiState stage) (createForgeUiState stage) :=
  ⟨.none, rfl, rfl, rfl, rfl⟩

namespace Shifts

variable (hρ : ρ.Shifts o)

include hρ

theorem deep_injective : Function.Injective ρ.deep := by
  rintro ⟨a, r, p⟩ ⟨a', r', p'⟩ h
  obtain ⟨ha, hr, hp⟩ := DeepAttemptIdentity.mk.inj h
  obtain rfl := hρ.id_injective ha
  obtain rfl := hρ.id_injective hr
  obtain rfl := hp
  rfl

theorem context_injective : Function.Injective ρ.context := by
  rintro ⟨a, r⟩ ⟨a', r'⟩ h
  obtain ⟨ha, hr⟩ := ContextBuildIdentity.mk.inj h
  obtain rfl := hρ.id_injective ha
  obtain rfl := hρ.id_injective hr
  rfl

theorem adr_injective : Function.Injective ρ.adr := by
  rintro ⟨a, r⟩ ⟨a', r'⟩ h
  obtain ⟨ha, hr⟩ := AdrBuildIdentity.mk.inj h
  obtain rfl := hρ.id_injective ha
  obtain rfl := hρ.id_injective hr
  rfl

theorem key_injective : Function.Injective ρ.key := by
  rintro ⟨r, k, d⟩ ⟨r', k', d'⟩ h
  obtain ⟨hr, hk, hd⟩ := DecisionKey.mk.inj h
  obtain rfl := hρ.id_injective hr
  obtain rfl := hk
  obtain rfl := hρ.decision_injective hd
  rfl

end Shifts

/-- An attempt is live in the one session when the renamed one is in the other. -/
theorem map_eq_some_iff {α β : Type} {f : α → β} (hf : Function.Injective f) {x : Option α} {a : α} :
    x.map f = some (f a) ↔ x = some a := by
  cases x with
  | none => exact iff_of_false nofun nofun
  | some b => rw [Option.map_some, Option.some.injEq, Option.some.injEq, hf.eq_iff]

/-! ### Reservation keys -/

theorem reservationKey_toList (n m : Nat) (phase : DeepAttemptPhase) :
    (Session.reservationKey ⟨Session.deepAttemptId n, Session.roundId m, phase⟩).toList =
      "deep-".toList ++ ((toString n).toList ++ ':' :: ("grill-".toList ++
        ((toString m).toList ++ ':' :: phase.text.toList))) := by
  simp only [Session.reservationKey, Session.deepAttemptId, Session.roundId, String.toList_append, List.append_assoc]
  rfl

theorem colon_notMem (n : Nat) : ':' ∉ (toString n).toList := by
  intro hmem
  rw [Nat.toString_eq_ofList_toDigits, String.toList_ofList] at hmem
  exact absurd (Nat.isDigit_of_mem_toDigits (by decide) (by decide) hmem) (by decide)

/-- A reservation key tells its attempt, its round and its phase. -/
theorem reservationKey_inj {n m n' m' : Nat} {phase phase' : DeepAttemptPhase}
    (h : Session.reservationKey ⟨Session.deepAttemptId n, Session.roundId m, phase⟩ =
      Session.reservationKey ⟨Session.deepAttemptId n', Session.roundId m', phase'⟩) :
    n = n' ∧ m = m' ∧ phase = phase' := by
  have hlist := congrArg String.toList h
  rw [reservationKey_toList, reservationKey_toList] at hlist
  obtain ⟨hn, hrest⟩ := append_stop_inj (colon_notMem n) (colon_notMem n') (List.append_cancel_left hlist)
  obtain ⟨hm, hphase⟩ := append_stop_inj (colon_notMem m) (colon_notMem m') (List.append_cancel_left hrest)
  refine ⟨toString_injective (String.toList_inj.mp hn), toString_injective (String.toList_inj.mp hm), ?_⟩
  have htext := String.toList_inj.mp hphase
  revert htext
  cases phase <;> cases phase' <;> decide

theorem pairs_sameReservation (o : Offsets) : Pairs (SameReservation o) := by
  rintro _ _ _ _ ⟨n, m, phase, rfl, rfl⟩ ⟨n', m', phase', rfl, rfl⟩
  constructor
  · intro h
    obtain ⟨rfl, rfl, rfl⟩ := reservationKey_inj h
    rfl
  · intro h
    obtain ⟨hn, hm, rfl⟩ := reservationKey_inj h
    rw [Nat.add_right_cancel hn, Nat.add_right_cancel hm]

namespace SameSession

variable {s t : SessionState}

theorem deep_iff (hρ : ρ.Shifts o) (h : ρ.SameSession o digest s t) (identity : DeepAttemptIdentity) :
    t.deepAttempt = some (ρ.deep identity) ↔ s.deepAttempt = some identity := by
  rw [h.deep, map_eq_some_iff hρ.deep_injective]

theorem context_iff (hρ : ρ.Shifts o) (h : ρ.SameSession o digest s t) (identity : ContextBuildIdentity) :
    t.contextBuildAttempt = some (ρ.context identity) ↔ s.contextBuildAttempt = some identity := by
  rw [h.context, map_eq_some_iff hρ.context_injective]

theorem adr_iff (hρ : ρ.Shifts o) (h : ρ.SameSession o digest s t) (identity : AdrBuildIdentity) :
    t.adrBuildAttempt = some (ρ.adr identity) ↔ s.adrBuildAttempt = some identity := by
  rw [h.adr, map_eq_some_iff hρ.adr_injective]

/-- The round is current in the one session when the renamed one is in the other. -/
theorem roundId_iff (hρ : ρ.Shifts o) (h : ρ.SameSession o digest s t) (roundId : String) :
    t.currentGrillRound.map (·.roundId) = some (ρ.id roundId) ↔
      s.currentGrillRound.map (·.roundId) = some roundId := by
  rw [h.round, Option.map_map]
  show Option.map (fun round : GrillRound => ρ.id round.roundId) s.currentGrillRound = _ ↔ _
  cases s.currentGrillRound with
  | none => exact iff_of_false nofun nofun
  | some round => rw [Option.map_some, Option.map_some, Option.some.injEq, Option.some.injEq, hρ.id_injective.eq_iff]

/-- At a stage other than the first, both orchestrators stand or neither. -/
theorem orchestrator_iff (h : ρ.SameSession o digest s t) {stage : WorkflowStage} (hstage : stage ≠ .receive) :
    t.orchestrator = some stage ↔ s.orchestrator = some stage := by
  have hstands : ∀ x : Option WorkflowStage, x = some stage ↔ x.getD .receive = stage := by
    intro x
    cases x with
    | none => exact iff_of_false nofun fun hreceive => hstage hreceive.symm
    | some y => rw [Option.some.injEq, Option.getD_some]
  rw [hstands, hstands, h.orchestrator]

theorem stageFrom_eq (h : ρ.SameSession o digest s t) (initialStage : WorkflowStage) :
    Session.stageFrom initialStage t.orchestrator = Session.stageFrom initialStage s.orchestrator := by
  have hfrom : ∀ x : Option WorkflowStage, Session.stageFrom initialStage x =
      if x.getD .receive = .receive then initialStage else x.getD .receive := by
    intro x
    unfold Session.stageFrom
    cases x with
    | none => rfl
    | some y => simp
  rw [hfrom, hfrom, h.orchestrator]

end SameSession

/-! ### The helpers -/

section Operations

variable (hρ : ρ.Shifts o)

/-- Two codes agree on states that cannot be told apart. -/
abbrev Agrees (ρ : Renaming) (o : Offsets) (digest : String → String) {α β : Type} (m : Session α) (n : Session β)
    (Q : α → β → Prop) : Prop := Agree (ρ.SameSession o digest) m n Q

theorem agree_transitionTo (current next : WorkflowStage) :
    Agrees ρ o digest (Session.transitionTo current next) (Session.transitionTo current next) Eq := by
  unfold Session.transitionTo
  refine agree_ite Iff.rfl (fun _ => ?_) fun _ => agree_throw _
  exact agree_modify_bind (fun s t h => { h with orchestrator := rfl }) (agree_pure rfl)

variable {α β : Type} {Q : α → β → Prop} {f : WorkflowStage → Session α} {g : WorkflowStage → Session β}

theorem agree_transitionTo_bind (current next : WorkflowStage) (h : Agrees ρ o digest (f next) (g next) Q) :
    Agrees ρ o digest (Session.transitionTo current next >>= f) (Session.transitionTo current next >>= g) Q := by
  intro s t hst
  rw [Session.transitionTo_bind_apply, Session.transitionTo_bind_apply]
  by_cases hlegal : current.CanTransitionTo next
  · rw [if_pos hlegal, if_pos hlegal]
    exact h _ _ { hst with orchestrator := rfl }
  · rw [if_neg hlegal, if_neg hlegal]
    exact ⟨.error _, hst⟩

theorem agree_enterStage_bind (current next : WorkflowStage) (h : Agrees ρ o digest (f next) (g next) Q) :
    Agrees ρ o digest (Session.enterStage current next >>= f) (Session.enterStage current next >>= g) Q := by
  unfold Session.enterStage
  by_cases heq : current = next
  · rw [if_pos heq]
    exact h
  · rw [if_neg heq]
    exact agree_transitionTo_bind current next h

theorem agree_ensureOrchestrator_bind (h : ∀ stage, Agrees ρ o digest (f stage) (g stage) Q) :
    Agrees ρ o digest (Session.ensureOrchestrator >>= f) (Session.ensureOrchestrator >>= g) Q := by
  intro s t hst
  rw [Session.ensureOrchestrator_bind_apply, Session.ensureOrchestrator_bind_apply, hst.orchestrator]
  exact h _ _ _ { hst with orchestrator := rfl }

theorem agree_orchestratorFrom_bind (initialStage : WorkflowStage)
    (h : ∀ stage, Agrees ρ o digest (f stage) (g stage) Q) :
    Agrees ρ o digest (Session.orchestratorFrom initialStage >>= f) (Session.orchestratorFrom initialStage >>= g) Q := by
  intro s t hst
  rw [Session.orchestratorFrom_bind_apply, Session.orchestratorFrom_bind_apply, hst.stageFrom_eq]
  exact h _ _ _ { hst with orchestrator := rfl }

theorem agree_setUi {update update' : ForgeUiState → ForgeUiState}
    (h : ∀ u v, ρ.SameUi u v → ρ.SameUi (update u) (update' v)) :
    Agrees ρ o digest (Session.setUi update) (Session.setUi update') ρ.SameUi :=
  fun _ _ hst => ⟨.ok (h _ _ hst.ui), { hst with ui := h _ _ hst.ui }⟩

/-- The summary that is given, or else the one that is shown. -/
theorem rel_orElse {summary : Option String} {u v : ForgeUiState} (h : ρ.SameUi u v) :
    Option.Rel ρ.SameText (summary <|> u.decisionSummary) (summary <|> v.decisionSummary) := by
  cases summary with
  | none => exact h.decisionSummary
  | some text => exact .some (.inl rfl)

/-- The display, at another stage. -/
theorem SameUi.enter {u v : ForgeUiState} (h : ρ.SameUi u v) (summary : Option String) (stage : UiStage) :
    ρ.SameUi { u with decisionSummary := summary <|> u.decisionSummary, stage := stage }
      { v with decisionSummary := summary <|> v.decisionSummary, stage := stage } :=
  { h with
    decisionSummary := rel_orElse h
    stage := rfl }

/-- The display of a stage, without a question. -/
theorem SameUi.leave {u v : ForgeUiState} (h : ρ.SameUi u v) (summary : Option String) (stage : UiStage) :
    ρ.SameUi { u with decisionSummary := summary <|> u.decisionSummary, stage := stage, waitUser := none }
      { v with decisionSummary := summary <|> v.decisionSummary, stage := stage, waitUser := none } :=
  { h with
    decisionSummary := rel_orElse h
    stage := rfl
    waitUser := rfl }

/-! ### Entering the stages -/

theorem agree_beginGrill (summary : Option String) :
    Agrees ρ o digest (Session.beginGrill summary) (Session.beginGrill summary) ρ.SameUi :=
  agree_orchestratorFrom_bind _ fun stage => agree_enterStage_bind stage _ <|
    agree_setUi fun _ _ hui => hui.enter summary _

theorem agree_beginStage (target : WorkflowStage) (summary : Option String) :
    Agrees ρ o digest (Session.beginStage target summary) (Session.beginStage target summary) ρ.SameUi :=
  agree_ensureOrchestrator_bind fun stage => agree_enterStage_bind stage _ <|
    agree_setUi fun _ _ hui => hui.enter summary _

include hρ

/-- The next attempt is issued for the renamed round. -/
theorem agree_issueDeepAttempt {round : GrillRound} (hround : ∃ n, round.roundId = Session.roundId n)
    (phase : DeepAttemptPhase) :
    Agrees ρ o digest (Session.issueDeepAttempt round phase) (Session.issueDeepAttempt (ρ.round round) phase) Eq := by
  intro s t h
  have hnext : t.nextDeepAttemptId + 1 = s.nextDeepAttemptId + 1 + o.deepAttempts := by
    rw [h.nextDeep, Nat.add_right_comm]
  have hdeep : (⟨Session.deepAttemptId t.nextDeepAttemptId, ρ.id round.roundId, phase⟩ : DeepAttemptIdentity) =
      ρ.deep ⟨Session.deepAttemptId s.nextDeepAttemptId, round.roundId, phase⟩ := by
    rw [deep, hρ.deepAttemptId, h.nextDeep]
  obtain ⟨n, hn⟩ := hround
  refine ⟨.ok rfl, { h with
    deep := congrArg some hdeep
    deepIssued := fun identity hidentity => ?_
    nextDeep := hnext
    reservations := OrderedMap.alike_empty
    retryPhase := rfl
    resumable := rfl }⟩
  obtain rfl := Option.some.inj hidentity
  exact ⟨_, n, rfl, hn⟩

theorem agree_beginDeepKnowledge (summary : Option String) (phase : DeepAttemptPhase) :
    Agrees ρ o digest (Session.beginDeepKnowledge summary phase) (Session.beginDeepKnowledge summary phase)
      ρ.SameUi := by
  refine agree_get_bind fun s t h => ?_
  rw [h.round]
  cases hround : s.currentGrillRound with
  | none => exact agree_throw _
  | some round =>
      have hissued := h.roundIssued round hround
      exact agree_orchestratorFrom_bind _ fun stage => agree_enterStage_bind stage _ <|
        agree_bind (agree_setUi fun _ _ hui => hui.leave summary _) fun _ _ hui =>
          agree_bind (agree_issueDeepAttempt hρ hissued phase) fun _ _ _ => agree_pure hui

omit hρ in
theorem agree_cancelDeepKnowledge :
    Agrees ρ o digest Session.cancelDeepKnowledge Session.cancelDeepKnowledge ρ.SameUi := by
  refine agree_get_bind fun s t h => ?_
  have hphase : Session.cancelledPhase t = Session.cancelledPhase s := by
    unfold Session.cancelledPhase
    rw [h.deep, Option.map_map, h.retryPhase, h.ui.stage]
    rfl
  rw [hphase]
  refine agree_modify_bind (fun s t h => ?_) (agree_setUi fun u v hui => hui.leave none _)
  exact { h with
    deep := rfl
    deepIssued := nofun
    retryPhase := rfl
    discoveries := Iff.rfl
    package := rfl
    resumable := rfl
    orchestrator := rfl }

theorem agree_retryDeepKnowledge (summary : Option String) :
    Agrees ρ o digest (Session.retryDeepKnowledge summary) (Session.retryDeepKnowledge summary) ρ.SameUi := by
  refine agree_get_bind fun s t h => ?_
  rw [h.round, h.retryPhase, h.resumable]
  cases hround : s.currentGrillRound with
  | none => exact agree_pure h.ui
  | some round =>
      have hissued := h.roundIssued round hround
      cases s.deepRetryPhase <|> s.resumableDeepPhase with
      | none => exact agree_pure h.ui
      | some phase =>
          exact agree_modify_bind (fun s t h => { h with orchestrator := rfl }) <|
            agree_bind (agree_setUi fun _ _ hui => hui.leave summary _) fun _ _ hui =>
              agree_bind (agree_issueDeepAttempt hρ hissued phase) fun _ _ _ => agree_pure hui

/-! ### Results of the deep steps -/

/-- The answer to a call under another identity is the same. -/
theorem agree_unless_stale {identity : DeepAttemptIdentity} {s t : SessionState}
    (h : ρ.SameSession o digest s t) {m n : Session DeepCallResult}
    (hlive : s.deepAttempt = some identity → Agrees ρ o digest m n ρ.SameDeep) :
    Agrees ρ o digest (if s.deepAttempt ≠ some identity then pure (.stale s.deepAttempt identity) else m)
      (if t.deepAttempt ≠ some (ρ.deep identity) then pure (.stale t.deepAttempt (ρ.deep identity)) else n)
      ρ.SameDeep := by
  refine agree_ite (not_congr (h.deep_iff hρ identity)).symm (fun _ => ?_) fun hsome => hlive (not_not.mp hsome)
  rw [h.deep]
  exact agree_pure .stale

theorem agree_completeDeepKnowledge (evidenceIds : List String) (summary : Option String)
    (identity : DeepAttemptIdentity) :
    Agrees ρ o digest (Session.completeDeepKnowledge evidenceIds summary identity)
      (Session.completeDeepKnowledge evidenceIds summary (ρ.deep identity)) ρ.SameDeep := by
  refine agree_get_bind fun s t h => agree_unless_stale hρ h fun hlive => ?_
  have hissued := h.deepIssued identity hlive
  refine agree_orchestratorFrom_bind _ fun stage => agree_enterStage_bind stage _ <|
    agree_bind (Q := ρ.SameUi) (agree_setUi fun _ _ hui => { hui.leave summary _ with lastEvidenceIds := rfl })
      fun _ _ hui => agree_modify_bind (fun s t h => ?_) (agree_pure (.accepted hui))
  refine { h with
    deep := rfl
    deepIssued := fun identity' hidentity => ?_ }
  obtain rfl := Option.some.inj hidentity
  exact hissued

theorem agree_completeDeepRetrieval (inherited : List EvidenceInput) (summary : Option String)
    (identity : DeepAttemptIdentity) :
    Agrees ρ o digest (Session.completeDeepRetrieval inherited summary identity)
      (Session.completeDeepRetrieval inherited summary (ρ.deep identity)) ρ.SameDeep := by
  refine agree_get_bind fun s t h => ?_
  rw [h.supplemental]
  refine agree_bind (agree_completeDeepKnowledge hρ _ summary identity) fun x y hxy => ?_
  cases hxy with
  | accepted hui => exact agree_modify_bind (fun s t h => { h with locked := rfl }) (agree_pure (.accepted hui))
  | stale => exact agree_pure .stale
  | invalid hui => exact agree_pure (.invalid hui)

theorem agree_handleNeedsDecision (identity : DeepAttemptIdentity) (decision : DeepNeedsDecisionResult) :
    Agrees ρ o digest (Session.handleNeedsDecision identity decision)
      (Session.handleNeedsDecision (ρ.deep identity) (ρ.deepQuestion decision)) ρ.SameDeep := by
  refine agree_get_bind fun s t h => agree_unless_stale hρ h fun _ => ?_
  refine agree_ensureOrchestrator_bind fun stage => agree_transitionTo_bind stage _ <|
    agree_bind (Q := ρ.SameUi) (agree_setUi fun _ _ hui => ?_) fun _ _ hui =>
      agree_modify_bind (fun s t h => ?_) (agree_pure (.accepted hui))
  · exact { hui with
      decisionSummary := rel_orElse hui
      lastEvidenceIds := rfl
      stage := rfl
      waitUser := rfl }
  · exact { h with
      deep := rfl
      deepIssued := nofun
      retryPhase := rfl }

/-- Only whether discovery was requested before matters. -/
theorem agree_handleNeedsDiscovery (identity : DeepAttemptIdentity) (summary : Option String) :
    Agrees ρ o digest (Session.handleNeedsDiscovery identity summary)
      (Session.handleNeedsDiscovery (ρ.deep identity) summary) ρ.SameDeep := by
  refine agree_get_bind fun s t h => agree_unless_stale hρ h fun hlive => ?_
  obtain ⟨n, m, hattempt, -⟩ := h.deepIssued identity hlive
  refine agree_ensureOrchestrator_bind fun stage s t h => ?_
  have hcounted : ρ.SameSession o digest { s with needsDiscoveryCount := s.needsDiscoveryCount + 1 }
      { t with needsDiscoveryCount := t.needsDiscoveryCount + 1 } :=
    { h with discoveries := iff_of_false (Nat.succ_ne_zero _) (Nat.succ_ne_zero _) }
  have hsecond : s.needsDiscoveryCount + 1 ≥ 2 ↔ t.needsDiscoveryCount + 1 ≥ 2 := by
    have hfirst := h.discoveries
    omega
  refine agree_ite (R := ρ.SameSession o digest) (Q := ρ.SameDeep) hsecond (fun _ => ?_) (fun _ => ?_) _ _ hcounted
  · refine agree_transitionTo_bind stage _ <|
      agree_bind (Q := ρ.SameUi) (agree_setUi fun _ _ hui => ?_) fun _ _ hui =>
        agree_modify_bind (fun s t h => { h with deep := rfl, deepIssued := nofun }) (agree_pure (.accepted hui))
    have hquestion : Session.fallbackDecision (ρ.deep identity) t.fetchedEvidenceIds.elems =
        ρ.waitUser (Session.fallbackDecision identity s.fetchedEvidenceIds.elems) := by
      unfold Session.fallbackDecision waitUser
      rw [h.fetched, hattempt, hρ.fallback, ← hρ.deepAttemptId, ← hattempt]
      rfl
    exact { hui with
      decisionSummary := rel_orElse hui
      stage := rfl
      waitUser := congrArg some hquestion }
  · exact agree_transitionTo_bind stage _ <| agree_bind (agree_setUi fun _ _ hui => hui.leave summary _)
      fun _ _ hui => agree_modify_bind (fun s t h => { h with deep := rfl, deepIssued := nofun })
        (agree_pure (.accepted hui))

/-- The next Context Build attempt is issued for the renamed round. -/
theorem agree_issueContextBuildAttempt (sourceRoundId : String) :
    Agrees ρ o digest (Session.issueContextBuildAttempt sourceRoundId)
      (Session.issueContextBuildAttempt (ρ.id sourceRoundId)) Eq := by
  intro s t h
  have hnext : t.nextContextBuildAttemptId + 1 = s.nextContextBuildAttemptId + 1 + o.contextBuildAttempts := by
    rw [h.nextContext, Nat.add_right_comm]
  have hattempt : (⟨Session.contextBuildAttemptId t.nextContextBuildAttemptId, ρ.id sourceRoundId⟩ :
      ContextBuildIdentity) =
        ρ.context ⟨Session.contextBuildAttemptId s.nextContextBuildAttemptId, sourceRoundId⟩ := by
    rw [context, hρ.contextBuildAttemptId, h.nextContext]
  exact ⟨.ok rfl, { h with
    context := congrArg some hattempt
    nextContext := hnext }⟩

/-- The next ADR Build attempt is issued for the renamed round. -/
theorem agree_issueAdrBuildAttempt (sourceRoundId : String) :
    Agrees ρ o digest (Session.issueAdrBuildAttempt sourceRoundId)
      (Session.issueAdrBuildAttempt (ρ.id sourceRoundId)) Eq := by
  intro s t h
  have hnext : t.nextAdrBuildAttemptId + 1 = s.nextAdrBuildAttemptId + 1 + o.adrBuildAttempts := by
    rw [h.nextAdr, Nat.add_right_comm]
  have hattempt : (⟨Session.adrBuildAttemptId t.nextAdrBuildAttemptId, ρ.id sourceRoundId⟩ : AdrBuildIdentity) =
      ρ.adr ⟨Session.adrBuildAttemptId s.nextAdrBuildAttemptId, sourceRoundId⟩ := by
    rw [adr, hρ.adrBuildAttemptId, h.nextAdr]
  exact ⟨.ok rfl, { h with
    adr := congrArg some hattempt
    nextAdr := hnext }⟩

theorem agree_acceptPackage (identity : DeepAttemptIdentity) (package : EvidencePackage) :
    Agrees ρ o digest (Session.acceptPackage identity package) (Session.acceptPackage (ρ.deep identity) package)
      ρ.SameDeep := by
  refine agree_ensureOrchestrator_bind fun stage => agree_get_bind fun s t h => ?_
  rw [h.package]
  refine agree_modify_bind (fun s t h => { h with package := rfl }) ?_
  refine agree_bind (agree_tryCatch (agree_transitionTo stage _) fun error => ?_) fun _ _ heq => ?_
  · exact agree_modify_bind (fun s t h => { h with package := rfl }) (agree_throw error)
  · obtain rfl := heq
    refine agree_bind (agree_issueContextBuildAttempt hρ identity.sourceRoundId) fun _ _ _ =>
      agree_bind (Q := ρ.SameUi) (agree_setUi fun _ _ hui => ?_) fun _ _ hui =>
        agree_modify_bind (fun s t h => { h with deep := rfl, deepIssued := nofun }) (agree_pure (.accepted hui))
    exact { hui.leave none _ with lastEvidenceIds := rfl }

theorem agree_handleUnderstandingResult (identity : DeepAttemptIdentity) (package : Option EvidencePackage) :
    Agrees ρ o digest (Session.handleUnderstandingResult identity package)
      (Session.handleUnderstandingResult (ρ.deep identity) package) ρ.SameDeep := by
  refine agree_get_bind fun s t h => agree_unless_stale hρ h fun _ => ?_
  cases package with
  | none => exact agree_pure (.invalid h.ui)
  | some package =>
      dsimp only
      cases validateEvidencePackage package with
      | error errors => exact agree_pure (.invalid h.ui)
      | ok => exact agree_acceptPackage hρ identity package

theorem agree_handleDeepResult (identity : DeepAttemptIdentity) (result : DeepResult) :
    Agrees ρ o digest (Session.handleDeepResult identity result)
      (Session.handleDeepResult (ρ.deep identity) (ρ.deepResult result)) ρ.SameDeep := by
  obtain ⟨attemptId, sourceRoundId, phase⟩ := identity
  cases result with
  | needsDecision decision => exact agree_handleNeedsDecision hρ _ decision
  | needsDiscovery summary => exact agree_handleNeedsDiscovery hρ _ summary
  | retrievalCompleted evidenceIds summary =>
      cases phase with
      | deepKnowledgeRetrieval => exact agree_completeDeepKnowledge hρ evidenceIds summary _
      | knowledgeUnderstanding => exact agree_handleUnderstandingResult hρ _ none
  | understandingCompleted package =>
      cases phase with
      | deepKnowledgeRetrieval => exact agree_get_bind fun s t h => agree_pure (.invalid h.ui)
      | knowledgeUnderstanding => exact agree_handleUnderstandingResult hρ _ (some package)

/-! ### Context Build and ADR Build -/

omit hρ in
theorem agree_askAmbiguity (kind : WaitUserKind) (stage : WorkflowStage) (sourceRoundId : String)
    (ambiguity : ContextAmbiguity) :
    Agrees ρ o digest (Session.askAmbiguity kind stage sourceRoundId ambiguity)
      (Session.askAmbiguity kind stage (ρ.id sourceRoundId) (ρ.ambiguity ambiguity)) ρ.SameUi :=
  agree_transitionTo_bind stage _ <| agree_setUi fun _ _ hui =>
    { hui with
      lastEvidenceIds := rfl
      stage := rfl
      waitUser := rfl }

theorem validateContextAmbiguity_rename (ambiguity : ContextAmbiguity) (evidenceIds : List String) :
    validateContextAmbiguity (ρ.ambiguity ambiguity) evidenceIds = validateContextAmbiguity ambiguity evidenceIds := by
  unfold validateContextAmbiguity Renaming.ambiguity errorIf
  simp only [hρ.blank_decision]

omit hρ in
theorem agree_acceptContextCandidate (hρ : ρ.Shifts o) (identity : ContextBuildIdentity)
    (candidate : ContextCandidate) :
    Agrees ρ o digest (Session.acceptContextCandidate identity candidate)
      (Session.acceptContextCandidate (ρ.context identity) candidate) ρ.SameContext := by
  refine agree_get_bind fun s t h => ?_
  rw [h.contextCandidate]
  refine agree_modify_bind (fun s t h => { h with contextCandidate := rfl }) ?_
  refine agree_bind (agree_tryCatch (agree_transitionTo _ _) fun error => ?_) fun _ _ heq => ?_
  · exact agree_modify_bind (fun s t h => { h with contextCandidate := rfl }) (agree_throw error)
  · obtain rfl := heq
    refine agree_bind (Q := ρ.SameUi) (agree_setUi fun _ _ hui => hui.leave none _) fun _ _ hui => ?_
    refine agree_modify_bind (fun s t h => { h with context := rfl }) ?_
    refine agree_bind (agree_issueAdrBuildAttempt hρ identity.sourceRoundId) fun _ _ _ => ?_
    exact agree_modify_bind (fun s t h => { h with adrCandidate := rfl }) (agree_pure (.accepted hui))

theorem agree_completeContextBuild (identity : ContextBuildIdentity) (completion : ContextBuildCompletion) :
    Agrees ρ o digest (Session.completeContextBuild identity completion)
      (Session.completeContextBuild (ρ.context identity) (ρ.completion completion)) ρ.SameContext := by
  refine agree_get_bind fun s t h => ?_
  refine agree_ite (not_congr (h.context_iff hρ identity)).symm (fun _ => ?_) fun _ => ?_
  · rw [h.context]
    exact agree_pure .stale
  refine agree_ite (not_congr (h.orchestrator_iff (by decide))).symm (fun _ => agree_pure (.invalid h.ui)) fun _ => ?_
  rw [h.package]
  cases s.knowledgeUnderstandingPackage with
  | none => exact agree_pure (.invalid h.ui)
  | some package =>
      cases completion with
      | ambiguous ambiguity =>
          dsimp only [Renaming.completion]
          rw [validateContextAmbiguity_rename hρ]
          refine agree_ite Iff.rfl (fun _ => agree_pure (.invalid h.ui)) fun _ => ?_
          exact agree_bind (agree_askAmbiguity _ _ _ _) fun _ _ hui =>
            agree_modify_bind (fun s t h => { h with context := rfl }) (agree_pure (.ambiguous hui))
      | completed candidate =>
          exact agree_ite Iff.rfl (fun _ => agree_pure (.invalid h.ui))
            fun _ => agree_acceptContextCandidate hρ identity candidate

/-- The answer to a call under another identity is the same. -/
theorem agree_unless_stale_adr {identity : AdrBuildIdentity} {s t : SessionState}
    (h : ρ.SameSession o digest s t) {m n : Session AdrBuildCallResult} (hlive : Agrees ρ o digest m n ρ.SameAdr) :
    Agrees ρ o digest (if s.adrBuildAttempt ≠ some identity then pure (.stale s.adrBuildAttempt identity) else m)
      (if t.adrBuildAttempt ≠ some (ρ.adr identity) then pure (.stale t.adrBuildAttempt (ρ.adr identity)) else n)
      ρ.SameAdr := by
  refine agree_ite (not_congr (h.adr_iff hρ identity)).symm (fun _ => ?_) fun _ => hlive
  rw [h.adr]
  exact agree_pure .stale

theorem agree_prepareAdrBuild (identity : AdrBuildIdentity) (candidate : AdrBuildCandidate) :
    Agrees ρ o digest (Session.prepareAdrBuild identity candidate)
      (Session.prepareAdrBuild (ρ.adr identity) candidate) ρ.SameAdr := by
  refine agree_get_bind fun s t h => agree_unless_stale_adr hρ h ?_
  refine agree_ite (not_congr (h.orchestrator_iff (by decide))).symm (fun _ => agree_pure (.invalid h.ui)) fun _ => ?_
  rw [h.package]
  cases s.knowledgeUnderstandingPackage with
  | none => exact agree_pure (.invalid h.ui)
  | some package =>
      exact agree_ite Iff.rfl (fun _ => agree_pure (.invalid h.ui)) fun _ =>
        agree_modify_bind (fun s t h => { h with adrCandidate := rfl }) (agree_pure (.accepted h.ui))

theorem agree_requireAdrDecision (identity : AdrBuildIdentity) (ambiguity : ContextAmbiguity) :
    Agrees ρ o digest (Session.requireAdrDecision identity ambiguity)
      (Session.requireAdrDecision (ρ.adr identity) (ρ.ambiguity ambiguity)) ρ.SameAdr := by
  refine agree_get_bind fun s t h => agree_unless_stale_adr hρ h ?_
  refine agree_ite (not_congr (h.orchestrator_iff (by decide))).symm (fun _ => agree_pure (.invalid h.ui)) fun _ => ?_
  rw [h.package]
  cases s.knowledgeUnderstandingPackage with
  | none => exact agree_pure (.invalid h.ui)
  | some package =>
      dsimp only
      rw [validateContextAmbiguity_rename hρ]
      refine agree_ite Iff.rfl (fun _ => agree_pure (.invalid h.ui)) fun _ => ?_
      exact agree_bind (agree_askAmbiguity _ _ _ _) fun _ _ hui =>
        agree_modify_bind (fun s t h => { h with adr := rfl, adrCandidate := rfl }) (agree_pure (.ambiguous hui))

theorem agree_finalizeAdrBuild (identity : AdrBuildIdentity) (commit : CommitDocumentsResult) :
    Agrees ρ o digest (Session.finalizeAdrBuild identity commit)
      (Session.finalizeAdrBuild (ρ.adr identity) commit) ρ.SameAdr := by
  refine agree_get_bind fun s t h => agree_unless_stale_adr hρ h ?_
  have hready : (s.orchestrator ≠ some .adrBuild ∨ s.adrBuildCandidate = none ∨ Session.isCommitted commit = false) ↔
      (t.orchestrator ≠ some .adrBuild ∨ t.adrBuildCandidate = none ∨ Session.isCommitted commit = false) := by
    rw [h.adrCandidate, ne_eq, ne_eq, h.orchestrator_iff (by decide)]
  refine agree_ite hready (fun _ => agree_pure (.invalid h.ui)) fun _ => ?_
  exact agree_transitionTo_bind _ _ <| agree_bind (agree_setUi fun _ _ hui => hui.leave none _) fun _ _ hui =>
    agree_modify_bind (fun s t h => { h with adr := rfl }) (agree_pure (.accepted hui))

/-! ### Evidence and the search budget -/

theorem agree_recordDeepSupplementalEvidence (identity : DeepAttemptIdentity) (evidenceId : String)
    (evidence : Option EvidenceInput) :
    Agrees ρ o digest (Session.recordDeepSupplementalEvidence identity evidenceId evidence)
      (Session.recordDeepSupplementalEvidence (ρ.deep identity) evidenceId evidence) ρ.SameDeep := by
  refine agree_get_bind fun s t h => agree_unless_stale hρ h fun _ => ?_
  rw [h.supplemental]
  cases s.deepSupplementalEvidence.get? evidenceId with
  | some existing => exact agree_ite Iff.rfl (fun _ => agree_pure (.accepted h.ui)) fun _ => agree_throw _
  | none =>
      refine agree_modify_bind (fun s t h => ?_) (agree_pure (.accepted h.ui))
      rw [h.supplementalIds, h.supplemental]
      exact { h with
        supplementalIds := rfl
        supplemental := rfl }

theorem budgetIsStale_iff {s t : SessionState} (h : ρ.SameSession o digest s t) (identity : DeepAttemptIdentity) :
    Session.budgetIsStale s identity ↔ Session.budgetIsStale t (ρ.deep identity) := by
  have hdeep := h.deep_iff hρ identity
  have hround := h.roundId_iff hρ identity.sourceRoundId
  exact or_congr (not_congr hdeep.symm) (not_congr hround.symm)

/-- The reservation key of the live attempt. -/
theorem sameReservation_live {s t : SessionState} (h : ρ.SameSession o digest s t) {identity : DeepAttemptIdentity}
    (hlive : ¬ Session.budgetIsStale s identity) :
    SameReservation o (Session.reservationKey identity) (Session.reservationKey (ρ.deep identity)) := by
  have hdeep : s.deepAttempt = some identity := by
    by_contra hother
    exact hlive (.inl hother)
  obtain ⟨n, m, hattempt, hsource⟩ := h.deepIssued identity hdeep
  obtain ⟨attemptId, sourceRoundId, phase⟩ := identity
  obtain rfl : attemptId = Session.deepAttemptId n := hattempt
  obtain rfl : sourceRoundId = Session.roundId m := hsource
  refine ⟨n, m, phase, rfl, ?_⟩
  rw [deep, hρ.deepAttemptId, hρ.roundId]

omit hρ in
theorem placesTaken_eq {s t : SessionState} (h : ρ.SameSession o digest s t) : t.placesTaken = s.placesTaken := by
  rw [SessionState.placesTaken, SessionState.placesTaken, h.searches, h.reservations.values_eq]

theorem servesRound_same {s t : SessionState} (h : ρ.SameSession o digest s t) (identity : DeepAttemptIdentity) :
    ρ.SameSession o digest (Session.servesRound identity s) (Session.servesRound (ρ.deep identity) t) := by
  have hround : t.deepSearchBudgetRoundId = some (ρ.deep identity).sourceRoundId ↔
      s.deepSearchBudgetRoundId = some identity.sourceRoundId := by
    rw [h.budgetRound]
    exact map_eq_some_iff hρ.id_injective
  unfold Session.servesRound
  by_cases hserves : s.deepSearchBudgetRoundId = some identity.sourceRoundId
  · rw [if_pos hserves, if_pos (hround.mpr hserves)]
    exact h
  · rw [if_neg hserves, if_neg fun h => hserves (hround.mp h)]
    exact { h with
      budgetRound := rfl
      searches := rfl
      reservations := OrderedMap.alike_empty }

theorem agree_reserveDeepSearchBudget (identity : DeepAttemptIdentity) :
    Agrees ρ o digest (Session.reserveDeepSearchBudget identity)
      (Session.reserveDeepSearchBudget (ρ.deep identity)) Eq := by
  intro s t h
  rw [Session.reserveDeepSearchBudget_apply, Session.reserveDeepSearchBudget_apply]
  have hstale := budgetIsStale_iff hρ h identity
  by_cases hlive : Session.budgetIsStale s identity
  · rw [if_pos hlive, if_pos (hstale.mp hlive)]
    exact ⟨.ok rfl, h⟩
  · rw [if_neg hlive, if_neg fun h => hlive (hstale.mpr h)]
    have hserves := servesRound_same hρ h identity
    have hkey := sameReservation_live hρ h hlive
    have hpairs := pairs_sameReservation o
    have hheld := hserves.reservations.mem_iff hpairs hkey
    have hlimit := and_congr (not_congr hheld)
      (iff_of_eq (congrArg (· ≥ deepSearchMaxPerSourceRound) (placesTaken_eq hserves).symm))
    by_cases hfull : Session.reservationKey identity ∉ (Session.servesRound identity s).deepSearchReservations ∧
        (Session.servesRound identity s).placesTaken ≥ deepSearchMaxPerSourceRound
    · rw [if_pos hfull, if_pos (hlimit.mp hfull)]
      exact ⟨.ok rfl, hserves⟩
    · rw [if_neg hfull, if_neg fun h => hfull (hlimit.mpr h)]
      refine ⟨.ok rfl, { hserves with reservations := hserves.reservations.insert hpairs hkey ?_ }⟩
      rw [SessionState.outstanding, SessionState.outstanding, hserves.reservations.get?_eq hpairs hkey]

omit hρ in
theorem dropReservation_same {m m' : OrderedMap String Nat} (h : OrderedMap.Alike (SameReservation o) Eq m m')
    {key key' : String} (hkey : SameReservation o key key') :
    OrderedMap.Alike (SameReservation o) Eq (Session.dropReservation m key) (Session.dropReservation m' key') := by
  have hpairs := pairs_sameReservation o
  unfold Session.dropReservation
  rw [h.get?_eq hpairs hkey]
  match (m.get? key).getD 0 with
  | 0 => exact h
  | 1 => exact h.erase hpairs hkey
  | n + 2 => exact h.insert hpairs hkey rfl

theorem agree_commitDeepSearchBudget (identity : DeepAttemptIdentity) :
    Agrees ρ o digest (Session.commitDeepSearchBudget identity)
      (Session.commitDeepSearchBudget (ρ.deep identity)) Eq := by
  intro s t h
  rw [Session.commitDeepSearchBudget_apply, Session.commitDeepSearchBudget_apply]
  have hstale := budgetIsStale_iff hρ h identity
  by_cases hlive : Session.budgetIsStale s identity
  · rw [if_pos hlive, if_pos (hstale.mp hlive)]
    exact ⟨.ok rfl, h⟩
  · rw [if_neg hlive, if_neg fun h => hlive (hstale.mpr h)]
    have hkey := sameReservation_live hρ h hlive
    have hheld : t.outstanding (ρ.deep identity) = s.outstanding identity := by
      rw [SessionState.outstanding, SessionState.outstanding,
        h.reservations.get?_eq (pairs_sameReservation o) hkey]
    rw [hheld]
    by_cases hsome : s.outstanding identity > 0
    · rw [if_pos hsome, if_pos hsome]
      exact ⟨.ok rfl, { h with
        reservations := dropReservation_same h.reservations hkey
        searches := congrArg (· + 1) h.searches }⟩
    · rw [if_neg hsome, if_neg hsome]
      exact ⟨.ok rfl, h⟩

theorem agree_releaseDeepSearchBudget (identity : DeepAttemptIdentity) :
    Agrees ρ o digest (Session.releaseDeepSearchBudget identity)
      (Session.releaseDeepSearchBudget (ρ.deep identity)) Eq := by
  intro s t h
  rw [Session.releaseDeepSearchBudget_apply, Session.releaseDeepSearchBudget_apply]
  have hstale := budgetIsStale_iff hρ h identity
  by_cases hlive : Session.budgetIsStale s identity
  · rw [if_pos hlive, if_pos (hstale.mp hlive)]
    exact ⟨.ok rfl, h⟩
  · rw [if_neg hlive, if_neg fun h => hlive (hstale.mpr h)]
    exact ⟨.ok rfl, { h with
      reservations := dropReservation_same h.reservations (sameReservation_live hρ h hlive) }⟩

theorem agree_consumeDeepSearchBudget (identity : DeepAttemptIdentity) :
    Agrees ρ o digest (Session.consumeDeepSearchBudget identity)
      (Session.consumeDeepSearchBudget (ρ.deep identity)) Eq := by
  refine agree_bind (agree_reserveDeepSearchBudget hρ identity) fun answer _ heq => ?_
  obtain rfl := heq
  cases answer with
  | stale => exact agree_pure rfl
  | limit => exact agree_pure rfl
  | accepted => exact agree_commitDeepSearchBudget hρ identity
  | reserved => exact agree_commitDeepSearchBudget hρ identity
  | released => exact agree_commitDeepSearchBudget hρ identity

omit hρ in
theorem agree_recordEvidenceFetch (candidateId : String) :
    Agrees ρ o digest (Session.recordEvidenceFetch candidateId) (Session.recordEvidenceFetch candidateId) Eq := by
  refine agree_get_bind fun s t h => ?_
  have hnone : s.currentGrillRound = none ↔ t.currentGrillRound = none := by
    rw [h.round, Option.map_eq_none_iff]
  refine agree_ite hnone (fun _ => agree_throw _) fun _ s t h => ?_
  exact ⟨.ok rfl, { h with fetched := congrArg (·.add candidateId) h.fetched }⟩

/-! ### Answers -/

omit hρ in
theorem agree_confirm : Agrees ρ o digest Session.confirm Session.confirm ρ.SameUi := by
  refine agree_get_bind fun s t h => ?_
  refine agree_ite (not_congr (h.orchestrator_iff (by decide))).symm (fun _ => ?_) fun _ => ?_
  · refine agree_setUi fun _ _ hui => ?_
    exact { hui with stage := rfl }
  · exact agree_transitionTo_bind _ _ (agree_setUi fun _ _ hui => hui.leave none _)

omit hρ in
theorem agree_continueGrillRound :
    Agrees ρ o digest Session.continueGrillRound Session.continueGrillRound (fun x y => y = ρ.round x) := by
  refine agree_get_bind fun s t h => ?_
  rw [h.round]
  cases s.currentGrillRound with
  | none => exact agree_throw _
  | some round => exact agree_pure rfl

omit hρ in
theorem agree_retryGrillRound :
    Agrees ρ o digest Session.retryGrillRound Session.retryGrillRound (fun x y => y = x.map ρ.round) := by
  refine agree_get_bind fun s t h => ?_
  rw [h.round, h.ui.validationRepair]
  cases s.currentGrillRound with
  | none => exact agree_pure rfl
  | some round =>
      refine agree_ite Iff.rfl (fun _ => agree_pure rfl) fun _ => ?_
      refine agree_modify_bind (fun s t h => ?_) (agree_pure rfl)
      exact { h with
        omission := rfl
        ui := { h.ui with stage := rfl, validationRepair := rfl } }

omit hρ in
theorem agree_recordCompletionOmission :
    Agrees ρ o digest Session.recordCompletionOmission Session.recordCompletionOmission Eq := by
  refine agree_get_bind fun s t h => ?_
  rw [h.omission]
  refine agree_ite Iff.rfl (fun _ => agree_pure rfl) fun _ => ?_
  refine agree_modify_bind (fun s t h => ?_) (agree_pure rfl)
  exact { h with
    omission := rfl
    ui := { h.ui with stage := rfl, validationRepair := rfl } }

theorem answered_iff {s t : SessionState} (h : ρ.SameSession o digest s t) (pending : WaitUserState) :
    waitUserDecisionKey pending ∈ s.answeredDecisionKeys ↔
      waitUserDecisionKey (ρ.waitUser pending) ∈ t.answeredDecisionKeys :=
  h.answered.mem_iff (pairs_of_injective hρ.key_injective) rfl

theorem decided_iff {s t : SessionState} (h : ρ.SameSession o digest s t) (decisionId : String) :
    decisionId ∈ s.humanDecisions ↔ ρ.decision decisionId ∈ t.humanDecisions :=
  h.decisions.mem_iff (pairs_of_injective hρ.decision_injective) rfl

theorem refusesAnswer_iff {s t : SessionState} (h : ρ.SameSession o digest s t) (pending : WaitUserState)
    (answer : String) :
    Session.refusesAnswer s pending answer ↔ Session.refusesAnswer t (ρ.waitUser pending) answer := by
  have hround := not_congr (h.roundId_iff hρ pending.roundId)
  have hkey := answered_iff hρ h pending
  exact or_congr Iff.rfl (or_congr (and_congr Iff.rfl hround.symm)
    (or_congr Iff.rfl (or_congr Iff.rfl (and_congr Iff.rfl hkey))))

omit hρ in
theorem agree_answerCheckpoint (answer : String) :
    Agrees ρ o digest (Session.answerCheckpoint answer) (Session.answerCheckpoint answer) ρ.SameUi := by
  refine agree_transitionTo_bind _ _ (agree_modify_bind (fun s t h => ?_) (agree_beginGrill none))
  exact { h with
    continuePending := rfl
    ui := { h.ui with waitUser := rfl } }

/-- The decision is kept in both sessions, or known in both. -/
theorem kept_alike {s t : SessionState} (h : ρ.SameSession o digest s t) (pending : WaitUserState) (answer : String) :
    OrderedMap.Alike (fun d d' => d' = ρ.decision d) (fun d d' => d' = ρ.humanDecision d)
      (if pending.decisionId ∈ s.humanDecisions then s.humanDecisions
        else s.humanDecisions.insert pending.decisionId (Session.humanDecision pending answer))
      (if ρ.decision pending.decisionId ∈ t.humanDecisions then t.humanDecisions
        else t.humanDecisions.insert (ρ.decision pending.decisionId)
          (Session.humanDecision (ρ.waitUser pending) answer)) := by
  have hdecided := decided_iff hρ h pending.decisionId
  by_cases hknown : pending.decisionId ∈ s.humanDecisions
  · rw [if_pos hknown, if_pos (hdecided.mp hknown)]
    exact h.decisions
  · rw [if_neg hknown, if_neg fun h => hknown (hdecided.mpr h)]
    exact h.decisions.insert (pairs_of_injective hρ.decision_injective) rfl rfl

theorem agree_keepAnswer (pending : WaitUserState) (answer : String) :
    Agrees ρ o digest (Session.keepAnswer pending answer) (Session.keepAnswer (ρ.waitUser pending) answer) Eq :=
  agree_transitionTo_bind _ _ fun _ _ h => ⟨.ok rfl, { h with
    answered := h.answered.add (pairs_of_injective hρ.key_injective) rfl
    decisions := kept_alike hρ h pending answer }⟩

/-- The premise of the answer, in the current round. -/
theorem premises_alike {s t : SessionState} (h : ρ.SameSession o digest s t) (pending : WaitUserState)
    (answer : String) :
    OrderedMap.Alike (fun k k' => k' = ρ.key k) (ρ.SamePremise digest)
      (match s.currentGrillRound with
        | some round => s.humanPremises.insert (waitUserDecisionKey pending)
            (Session.humanPremise digest round pending answer)
        | none => s.humanPremises)
      (match t.currentGrillRound with
        | some round => t.humanPremises.insert (waitUserDecisionKey (ρ.waitUser pending))
            (Session.humanPremise digest round (ρ.waitUser pending) answer)
        | none => t.humanPremises) := by
  rw [h.round]
  cases s.currentGrillRound with
  | none => exact h.premises
  | some round =>
      exact h.premises.insert (pairs_of_injective hρ.key_injective) rfl ⟨round, pending, answer, rfl, rfl⟩

theorem agree_keepPremise (pending : WaitUserState) (answer : String) :
    Agrees ρ o digest (Session.keepPremise digest pending answer)
      (Session.keepPremise digest (ρ.waitUser pending) answer) Eq :=
  fun _ _ h => ⟨.ok rfl, { h with
    premises := premises_alike hρ h pending answer
    count := congrArg (· + 1) h.count }⟩

theorem checkpointDecision_rename {round : GrillRound} (hround : ∃ n, round.roundId = Session.roundId n)
    (evidenceIds : List String) :
    Session.checkpointDecision (ρ.round round) evidenceIds = ρ.waitUser (Session.checkpointDecision round evidenceIds) := by
  obtain ⟨n, hn⟩ := hround
  unfold Session.checkpointDecision waitUser Renaming.round
  rw [hn, hρ.checkpoint, hρ.roundId]

theorem agree_askCheckpoint (pending : WaitUserState) :
    Agrees ρ o digest (Session.askCheckpoint pending) (Session.askCheckpoint (ρ.waitUser pending)) ρ.SameUi := by
  refine agree_get_bind fun s t h => ?_
  rw [h.round]
  cases hround : s.currentGrillRound with
  | none => exact agree_throw _
  | some round =>
      have hquestion := checkpointDecision_rename hρ (h.roundIssued round hround) pending.evidenceIds
      refine agree_modify_bind (fun s t h => { h with orchestrator := rfl }) <| agree_transitionTo_bind _ _ <|
        agree_bind (Q := ρ.SameUi) (agree_setUi fun _ _ hui => ?_) fun _ _ hui =>
          agree_modify_bind (fun s t h => { h with continuePending := rfl }) (agree_pure hui)
      exact { hui with
        stage := rfl
        waitUser := congrArg some hquestion }

omit hρ in
theorem agree_showAnswered (pending : WaitUserState) (answer : String) (stage : WorkflowStage) :
    Agrees ρ o digest (Session.showAnswered pending answer stage)
      (Session.showAnswered (ρ.waitUser pending) answer stage) ρ.SameUi :=
  agree_setUi fun _ _ hui =>
    { hui with
      decisionSummary := .some (.inr ⟨pending, answer, rfl, rfl⟩)
      stage := rfl
      waitUser := rfl }

theorem agree_continueAfterAnswer (pending : WaitUserState) (answer : String) :
    Agrees ρ o digest (Session.continueAfterAnswer pending answer)
      (Session.continueAfterAnswer (ρ.waitUser pending) answer) ρ.SameUi := by
  obtain ⟨kind, roundId, decisionId, evidenceIds, options, question, recommendation⟩ := pending
  cases kind with
  | contextAmbiguity =>
      exact agree_bind (agree_issueContextBuildAttempt hρ roundId) fun _ _ _ =>
        agree_transitionTo_bind _ _ (agree_showAnswered _ answer _)
  | adrAmbiguity =>
      exact agree_bind (agree_issueAdrBuildAttempt hρ roundId) fun _ _ _ =>
        agree_transitionTo_bind _ _ (agree_showAnswered _ answer _)
  | deepDiscoveryFallback => exact agree_showAnswered _ answer _
  | relevanceClarification => exact agree_showAnswered _ answer _
  | deepDecision => exact agree_transitionTo_bind _ _ (agree_showAnswered _ answer _)
  | grillConfirmation => exact agree_transitionTo_bind _ _ (agree_showAnswered _ answer _)
  | grillCheckpoint => exact agree_transitionTo_bind _ _ (agree_showAnswered _ answer _)

omit hρ in
theorem checkpointDue_iff {s t : SessionState} (h : ρ.SameSession o digest s t) :
    Session.checkpointDue s ↔ Session.checkpointDue t := by
  unfold Session.checkpointDue
  rw [h.count, h.continuePending]

theorem agree_acceptAnswer (pending : WaitUserState) (answer : String) :
    Agrees ρ o digest (Session.acceptAnswer digest pending answer)
      (Session.acceptAnswer digest (ρ.waitUser pending) answer) ρ.SameUi := by
  refine agree_ite Iff.rfl (fun _ => agree_answerCheckpoint _) fun _ => ?_
  refine agree_bind (agree_keepAnswer hρ pending answer) fun _ _ _ => ?_
  refine agree_ite Iff.rfl (fun _ => ?_) fun _ => agree_continueAfterAnswer hρ pending answer
  refine agree_bind (agree_keepPremise hρ pending _) fun _ _ _ => agree_get_bind fun s t h => ?_
  exact agree_ite (checkpointDue_iff h) (fun _ => agree_askCheckpoint hρ pending)
    fun _ => agree_continueAfterAnswer hρ pending answer

theorem agree_recordAnswer (answer : String) :
    Agrees ρ o digest (Session.recordAnswer digest answer) (Session.recordAnswer digest answer) ρ.SameUi := by
  refine agree_get_bind fun s t h => ?_
  refine agree_ite (not_congr (h.orchestrator_iff (by decide))).symm (fun _ => ?_) fun _ => ?_
  · refine agree_setUi fun _ _ hui => ?_
    exact { hui with stage := rfl }
  · rw [h.ui.waitUser]
    cases s.uiState.waitUser with
    | none => exact agree_throw _
    | some pending =>
        exact agree_ite (refusesAnswer_iff hρ h pending _) (fun _ => agree_pure h.ui)
          fun _ => agree_acceptAnswer hρ pending answer

/-! ### Questions and rounds -/

omit hρ in
theorem agree_reject (selection : Option String) :
    Agrees ρ o digest (Session.reject selection) (Session.reject selection) ρ.SameUi := by
  refine agree_get_bind fun s t h => ?_
  have hrecommended : t.uiState.waitUser.map (·.recommendation) = s.uiState.waitUser.map (·.recommendation) := by
    rw [h.ui.waitUser, Option.map_map]
    rfl
  have hshown : Agrees ρ o digest
      (Session.setUi fun ui => { ui with
        decisionSummary := some (Session.rejectionSummary (s.uiState.waitUser.map (·.recommendation)) selection)
        stage := .workflow .grill
        validationRepair := some Session.userRejected
        waitUser := none })
      (Session.setUi fun ui => { ui with
        decisionSummary := some (Session.rejectionSummary (s.uiState.waitUser.map (·.recommendation)) selection)
        stage := .workflow .grill
        validationRepair := some Session.userRejected
        waitUser := none }) ρ.SameUi :=
    agree_setUi fun _ _ hui => { hui with
      decisionSummary := .some (.inl rfl)
      stage := rfl
      validationRepair := rfl
      waitUser := rfl }
  dsimp only
  rw [hrecommended]
  refine agree_ite (h.orchestrator_iff (by decide)).symm (fun _ => ?_) fun _ => hshown
  exact agree_transitionTo_bind _ _ (agree_transitionTo_bind _ _ hshown)

theorem agree_requireWaitUser (payload : WaitUserPayload) :
    Agrees ρ o digest (Session.requireWaitUser payload) (Session.requireWaitUser (ρ.payload payload)) ρ.SameUi := by
  refine agree_ite (hρ.blank_decision _).symm (fun _ => agree_throw _) fun _ => ?_
  refine agree_ite (hρ.blank_id _).symm (fun _ => agree_throw _) fun _ => agree_get_bind fun s t h => ?_
  have hknown := or_congr (answered_iff hρ h payload.toWaitUserState) (decided_iff hρ h payload.decisionId)
  refine agree_ite hknown (fun _ => agree_pure h.ui) fun _ => ?_
  refine agree_ite (not_congr (h.roundId_iff hρ payload.roundId)).symm (fun _ => agree_throw _) fun _ => ?_
  refine agree_orchestratorFrom_bind _ fun stage => agree_transitionTo_bind stage _ <| agree_setUi fun _ _ hui => ?_
  refine ⟨?_, rfl, rfl, rfl, rfl⟩
  show Option.Rel ρ.SameText payload.decisionSummary payload.decisionSummary
  cases payload.decisionSummary with
  | none => exact .none
  | some text => exact .some (.inl rfl)

omit hρ in
theorem forgetSnapshot_same {s t : SessionState} (h : ρ.SameSession o digest s t) :
    ρ.SameSession o digest (Session.forgetSnapshot s) (Session.forgetSnapshot t) :=
  { h with
    count := rfl
    continuePending := rfl
    decisions := OrderedMap.alike_empty
    premises := OrderedMap.alike_empty
    supplementalIds := rfl
    supplemental := rfl
    fetched := rfl
    locked := rfl
    package := rfl
    context := rfl
    contextCandidate := rfl
    adr := rfl
    adrCandidate := rfl }

theorem agree_startGrillRound (request : String) (snapshot : GrillEvidenceSnapshot) :
    Agrees ρ o digest (Session.startGrillRound request snapshot) (Session.startGrillRound request snapshot)
      (fun x y => y = ρ.round x) := by
  refine agree_get_bind fun s t h => ?_
  have hfirst : t.currentGrillRound.map (·.snapshot.ref) = s.currentGrillRound.map (·.snapshot.ref) := by
    rw [h.round, Option.map_map]
    rfl
  rw [hfirst, h.nextRound, ← hρ.roundId]
  generalize decide (s.currentGrillRound.map (·.snapshot.ref) ≠ some snapshot.ref) = first
  generalize s.nextRoundId = n
  refine agree_modify_bind (fun s t h => ?_) (agree_pure rfl)
  have hkept : ρ.SameSession o digest (if first then Session.forgetSnapshot s else s)
      (if first then Session.forgetSnapshot t else t) := by
    cases first with
    | true => exact forgetSnapshot_same h
    | false => exact h
  have hnext : t.nextRoundId + 1 = s.nextRoundId + 1 + o.rounds := by
    rw [h.nextRound, Nat.add_right_comm]
  refine { hkept with
    omission := rfl
    budgetRound := rfl
    searches := rfl
    deep := rfl
    deepIssued := nofun
    round := rfl
    roundIssued := fun round hround => ?_
    nextRound := hnext }
  obtain rfl := Option.some.inj hround
  exact ⟨n, rfl⟩

omit hρ in
/-- **A session that was reset** keeps nothing but its counters. -/
theorem sameSession_reset {s t : SessionState} (hrounds : t.nextRoundId = s.nextRoundId + o.rounds)
    (hdeep : t.nextDeepAttemptId = s.nextDeepAttemptId + o.deepAttempts)
    (hcontext : t.nextContextBuildAttemptId = s.nextContextBuildAttemptId + o.contextBuildAttempts)
    (hadr : t.nextAdrBuildAttemptId = s.nextAdrBuildAttemptId + o.adrBuildAttempts) :
    ρ.SameSession o digest (Session.reset s).2 (Session.reset t).2 where
  answered := OrderedSet.alike_empty
  decisions := OrderedMap.alike_empty
  premises := OrderedMap.alike_empty
  supplementalIds := rfl
  supplemental := rfl
  fetched := rfl
  round := rfl
  roundIssued := nofun
  count := rfl
  continuePending := rfl
  orchestrator := rfl
  nextRound := hrounds
  nextDeep := hdeep
  nextContext := hcontext
  nextAdr := hadr
  deep := rfl
  deepIssued := nofun
  context := rfl
  adr := rfl
  adrCandidate := rfl
  contextCandidate := rfl
  discoveries := Iff.rfl
  budgetRound := rfl
  searches := rfl
  reservations := OrderedMap.alike_empty
  retryPhase := rfl
  resumable := rfl
  locked := rfl
  package := rfl
  omission := rfl
  ui := SameUi.create .receive

omit hρ in
theorem agree_reset : Agrees ρ o digest Session.reset Session.reset ρ.SameUi :=
  fun _ _ h => ⟨.ok (SameUi.create .receive), sameSession_reset h.nextRound h.nextDeep h.nextContext h.nextAdr⟩

/-! ### Every operation and every run -/

/-- **Each operation**, and the renamed one, give the same and leave states that cannot be told apart. -/
theorem runOp_agree (op : SessionOp) :
    Agrees ρ o digest (Session.runOp digest op) (Session.runOp digest (ρ.op op)) ρ.SameValue := by
  have hui : ∀ {m n : Session ForgeUiState}, Agrees ρ o digest m n ρ.SameUi →
      Agrees ρ o digest (.ui <$> m : Session SessionResult) (.ui <$> n) ρ.SameValue :=
    fun h => agree_map h fun _ _ h => .ui h
  have hdeep : ∀ {m n : Session DeepCallResult}, Agrees ρ o digest m n ρ.SameDeep →
      Agrees ρ o digest (.deep <$> m : Session SessionResult) (.deep <$> n) ρ.SameValue :=
    fun h => agree_map h fun _ _ h => .deep h
  have hcontext : ∀ {m n : Session ContextBuildCallResult}, Agrees ρ o digest m n ρ.SameContext →
      Agrees ρ o digest (.context <$> m : Session SessionResult) (.context <$> n) ρ.SameValue :=
    fun h => agree_map h fun _ _ h => .context h
  have hadr : ∀ {m n : Session AdrBuildCallResult}, Agrees ρ o digest m n ρ.SameAdr →
      Agrees ρ o digest (.adr <$> m : Session SessionResult) (.adr <$> n) ρ.SameValue :=
    fun h => agree_map h fun _ _ h => .adr h
  have hbudget : ∀ {m n : Session BudgetAnswer}, Agrees ρ o digest m n Eq →
      Agrees ρ o digest (.budget <$> m : Session SessionResult) (.budget <$> n) ρ.SameValue :=
    fun h => agree_map h fun _ _ h => h ▸ .budget
  cases op with
  | beginGrill summary => exact hui (agree_beginGrill summary)
  | beginIntent summary => exact hui (agree_beginStage _ summary)
  | beginLightDiscovery summary => exact hui (agree_beginStage _ summary)
  | beginDeepKnowledge summary phase => exact hui (agree_beginDeepKnowledge hρ summary phase)
  | cancelDeepKnowledge => exact hui agree_cancelDeepKnowledge
  | completeDeepKnowledge evidenceIds summary identity =>
      exact hdeep (agree_completeDeepKnowledge hρ evidenceIds summary identity)
  | retryDeepKnowledge summary => exact hui (agree_retryDeepKnowledge hρ summary)
  | completeDeepRetrieval inherited summary identity =>
      exact hdeep (agree_completeDeepRetrieval hρ inherited summary identity)
  | completeContextBuild identity completion => exact hcontext (agree_completeContextBuild hρ identity completion)
  | confirm => exact hui agree_confirm
  | continueGrillRound => exact agree_map agree_continueGrillRound fun _ _ h => h ▸ .round
  | retryGrillRound => exact agree_map agree_retryGrillRound fun _ _ h => h ▸ .roundIfAny
  | handleDeepResult identity result => exact hdeep (agree_handleDeepResult hρ identity result)
  | recordCompletionOmission => exact agree_map agree_recordCompletionOmission fun _ _ h => h ▸ .flag
  | recordDeepSupplementalEvidence identity evidenceId evidence =>
      exact hdeep (agree_recordDeepSupplementalEvidence hρ identity evidenceId evidence)
  | consumeDeepSearchBudget identity => exact hbudget (agree_consumeDeepSearchBudget hρ identity)
  | reserveDeepSearchBudget identity => exact hbudget (agree_reserveDeepSearchBudget hρ identity)
  | commitDeepSearchBudget identity => exact hbudget (agree_commitDeepSearchBudget hρ identity)
  | releaseDeepSearchBudget identity => exact hbudget (agree_releaseDeepSearchBudget hρ identity)
  | recordEvidenceFetch candidateId => exact agree_map (agree_recordEvidenceFetch candidateId) fun _ _ _ => .done
  | recordAnswer answer => exact hui (agree_recordAnswer hρ answer)
  | prepareAdrBuild identity candidate => exact hadr (agree_prepareAdrBuild hρ identity candidate)
  | requireAdrDecision identity ambiguity => exact hadr (agree_requireAdrDecision hρ identity ambiguity)
  | finalizeAdrBuild identity commit => exact hadr (agree_finalizeAdrBuild hρ identity commit)
  | reset => exact hui agree_reset
  | requireGrillResult payload => exact hui (agree_requireWaitUser hρ payload)
  | reject selection => exact hui (agree_reject selection)
  | requireWaitUser payload => exact hui (agree_requireWaitUser hρ payload)
  | startGrillRound request snapshot =>
      exact agree_map (agree_startGrillRound hρ request snapshot) fun _ _ h => h ▸ .round

omit hρ in
/-- The same is read in such states. -/
theorem reading_same {s t : SessionState} (h : ρ.SameSession o digest s t) :
    ρ.SameReading digest s.reading t.reading where
  current := h.ui
  contextBuildAttempt := h.context
  adrBuildAttempt := h.adr
  deepAttempt := h.deep
  supplementalIds := h.supplementalIds
  supplemental := congrArg OrderedMap.values h.supplemental
  fetched := h.fetched
  locked := h.locked
  decisions := by
    have hvalues : List.Forall₂ Eq (s.humanDecisions.values.map ρ.humanDecision) t.humanDecisions.values := by
      rw [List.forall₂_map_left_iff]
      exact h.decisions.values.imp fun _ _ hdecision => hdecision.symm
    rw [List.forall₂_eq_eq_eq] at hvalues
    exact hvalues.symm
  premises := h.premises.values
  contextCandidate := h.contextCandidate
  adrCandidate := h.adrCandidate
  package := h.package
  isFirst := by
    show (t.currentGrillRound.map _).getD false = (s.currentGrillRound.map _).getD false
    rw [h.round, Option.map_map]
    rfl

/-- **Sessions that cannot be told apart show the same**, whatever is called on them. -/
theorem observed_same {s t : SessionState} (h : ρ.SameSession o digest s t) (ops : List SessionOp) :
    ρ.SameObserved digest (observed digest s ops) (observed digest t (ops.map ρ.op)) where
  first := reading_same h
  steps := by
    have hruns := @traces_alike _ _ _ _ _ _ (sessionStep digest) (sessionStep digest) _ _ ρ.op
      (fun op s t h => runOp_agree hρ op s t h) s t h ops
    show List.Forall₂ _ (List.map _ _) (List.map _ _)
    rw [List.forall₂_map_left_iff, List.forall₂_map_right_iff]
    exact hruns.imp fun _ _ hstep => ⟨hstep.1, reading_same hstep.2⟩

end Operations

/-! ### With nothing renamed -/

/-- The renaming that renames nothing. -/
def nothing : Renaming := ⟨fun x => x, fun x => x⟩

theorem nothing_shifts : nothing.Shifts ⟨0, 0, 0, 0⟩ := by
  have hshifts := (Offsets.mk 0 0 0 0).shifts
  rw [Offsets.shift_none] at hshifts
  exact hshifts

theorem nothing_op (op : SessionOp) : nothing.op op = op := by
  cases op with
  | completeContextBuild identity completion => cases completion <;> rfl
  | handleDeepResult identity result => cases result <;> rfl
  | _ => rfl

theorem map_eq_self {α : Type} {f : α → α} (hf : ∀ a, f a = a) (x : Option α) : x.map f = x := by
  cases x with
  | none => rfl
  | some a => rw [Option.map_some, hf]

theorem SameText.eq {x y : String} (h : nothing.SameText x y) : x = y := by
  rcases h with h | ⟨pending, answer, rfl, rfl⟩
  · exact h
  · rfl

theorem SameUi.eq {u v : ForgeUiState} (h : nothing.SameUi u v) : u = v := by
  obtain ⟨summary, ids, stage, repair, waitUser⟩ := u
  obtain ⟨summary', ids', stage', repair', waitUser'⟩ := v
  have hwait : waitUser' = waitUser := h.waitUser.trans (map_eq_self (fun _ => rfl) waitUser)
  have hsummary : summary = summary' := by
    have hrel := h.decisionSummary
    cases hrel with
    | none => rfl
    | some htext => rw [htext.eq]
  obtain rfl := hwait
  obtain rfl := hsummary
  obtain rfl : ids' = ids := h.lastEvidenceIds
  obtain rfl : stage' = stage := h.stage
  obtain rfl : repair' = repair := h.validationRepair
  rfl

theorem SameValue.eq {x y : SessionResult} (h : nothing.SameValue x y) : x = y := by
  cases h with
  | ui h => rw [h.eq]
  | deep h =>
      cases h with
      | accepted h => rw [h.eq]; rfl
      | @stale expected received => cases expected <;> rfl
      | invalid h => rw [h.eq]
  | context h =>
      cases h with
      | accepted h => rw [h.eq]; rfl
      | ambiguous h => rw [h.eq]; rfl
      | @stale expected received => cases expected <;> rfl
      | invalid h => rw [h.eq]
  | adr h =>
      cases h with
      | accepted h => rw [h.eq]; rfl
      | ambiguous h => rw [h.eq]; rfl
      | @stale expected received => cases expected <;> rfl
      | invalid h => rw [h.eq]
  | round => rfl
  | @roundIfAny round => cases round <;> rfl
  | flag => rfl
  | budget => rfl
  | done => rfl

theorem SamePremise.eq {x y : EvidenceInput} (h : nothing.SamePremise digest x y) : x = y := by
  obtain ⟨round, pending, answer, rfl, rfl⟩ := h
  rfl

theorem SameReading.eq {x y : SessionReading} (h : nothing.SameReading digest x y) : x = y := by
  have hpremises : x.getHumanPremises = y.getHumanPremises := by
    have hall := h.premises.imp fun _ _ hpremise => hpremise.eq
    rwa [List.forall₂_eq_eq_eq] at hall
  have hdecisions : y.getHumanDecisions = x.getHumanDecisions := h.decisions.trans (List.map_id _)
  have hdeep : y.currentDeepAttempt = x.currentDeepAttempt := h.deepAttempt.trans (map_eq_self (fun _ => rfl) _)
  have hcontext : y.currentContextBuildAttempt = x.currentContextBuildAttempt :=
    h.contextBuildAttempt.trans (map_eq_self (fun _ => rfl) _)
  have hadr : y.currentAdrBuildAttempt = x.currentAdrBuildAttempt := h.adrBuildAttempt.trans (map_eq_self (fun _ => rfl) _)
  cases x
  cases y
  simp only [SessionReading.mk.injEq]
  exact ⟨h.current.eq, hcontext.symm, hadr.symm, hdeep.symm, h.supplementalIds.symm, h.supplemental.symm,
    h.fetched.symm, h.locked.symm, hdecisions.symm, hpremises, h.contextCandidate.symm, h.adrCandidate.symm,
    h.package.symm, h.isFirst.symm⟩

/-- **With nothing renamed**, all that is seen of the two sessions is equal. -/
theorem observed_eq {s t : SessionState} (h : nothing.SameSession ⟨0, 0, 0, 0⟩ digest s t) (ops : List SessionOp) :
    observed digest s ops = observed digest t ops := by
  have hsame := observed_same nothing_shifts h ops
  rw [List.map_congr_left (fun op _ => nothing_op op), List.map_id'] at hsame
  have hsteps : (observed digest s ops).steps = (observed digest t ops).steps := by
    have hall := hsame.steps.imp fun a b hab => Prod.ext (hab.1.eq fun _ _ hvalue => hvalue.eq) hab.2.eq
    rwa [List.forall₂_eq_eq_eq] at hall
  have hfirst := hsame.first.eq
  exact congrArg₂ Observed.mk hfirst hsteps

/-- A state that is reached cannot be told apart from itself. -/
theorem sameSession_reached (digest : String → String) (ops : List SessionOp) :
    nothing.SameSession ⟨0, 0, 0, 0⟩ digest (finish (sessionStep digest) createForgeSessionState ops)
      (finish (sessionStep digest) createForgeSessionState ops) := by
  have hfresh : nothing.SameSession ⟨0, 0, 0, 0⟩ digest createForgeSessionState createForgeSessionState :=
    sameSession_reset (s := createForgeSessionState) (t := createForgeSessionState) rfl rfl rfl rfl
  have hrun := @finish_alike _ _ _ _ _ _ (sessionStep digest) (sessionStep digest) _ nothing.op
    (fun op s t h => (runOp_agree nothing_shifts op s t h).2) _ _ hfresh ops
  rwa [List.map_congr_left (fun op _ => nothing_op op), List.map_id'] at hrun

end Renaming

end ForgeRuntime
