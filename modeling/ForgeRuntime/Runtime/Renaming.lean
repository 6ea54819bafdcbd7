import ForgeRuntime.Lib.Numbered
import ForgeRuntime.Lib.TwoRuns
import ForgeRuntime.Runtime.Identities

/-!
# Sessions up to a renaming of the IDs

The IDs of rounds and attempts come from counters, so two sessions that do the same may give other IDs.  A
`Renaming` says which ID of the one session stands for which of the other; it acts on everything that
carries an ID, on the operations as well as on what they give back.  Two kinds of strings are built from IDs in
a way that is not undone: the premise hash and the summary of an answer.  They are compared by how they were
built.

`Offsets` is the renaming that adds a constant to the number of each kind of ID.
-/

namespace ForgeRuntime

open EventDriven EventDriven.Text

/-- What the reading functions of the session give. -/
structure SessionReading where
  current : ForgeUiState
  currentContextBuildAttempt : Option ContextBuildIdentity
  currentAdrBuildAttempt : Option AdrBuildIdentity
  currentDeepAttempt : Option DeepAttemptIdentity
  getDeepSupplementalEvidenceIds : OrderedSet String
  getDeepSupplementalEvidence : List EvidenceInput
  getFetchedEvidenceIds : OrderedSet String
  getLockedDeepEvidence : Option LockedDeepEvidence
  getHumanDecisions : List EvidenceDecision
  getHumanPremises : List EvidenceInput
  getContextCandidate : Option ContextCandidate
  getAdrBuildCandidate : Option AdrBuildCandidate
  getKnowledgeUnderstandingPackage : Option EvidencePackage
  isFirstGrillRoundOfSnapshot : Bool
deriving DecidableEq

def SessionState.reading (s : SessionState) : SessionReading :=
  { current := s.uiState
    currentContextBuildAttempt := s.contextBuildAttempt
    currentAdrBuildAttempt := s.adrBuildAttempt
    currentDeepAttempt := s.deepAttempt
    getDeepSupplementalEvidenceIds := s.deepSupplementalEvidenceIds
    getDeepSupplementalEvidence := s.deepSupplementalEvidence.values
    getFetchedEvidenceIds := s.fetchedEvidenceIds
    getLockedDeepEvidence := s.lockedDeepEvidence
    getHumanDecisions := s.humanDecisions.values
    getHumanPremises := s.humanPremises.values
    getContextCandidate := s.contextCandidate
    getAdrBuildCandidate := s.adrBuildCandidate
    getKnowledgeUnderstandingPackage := s.knowledgeUnderstandingPackage
    isFirstGrillRoundOfSnapshot := (s.currentGrillRound.map (·.isFirstRoundOfSnapshot)).getD false }

/-! ### Renamings -/

/-- A renaming of the round and attempt IDs and one of the decision IDs. -/
structure Renaming where
  id : String → String
  decision : String → String

namespace Renaming

variable (ρ : Renaming)

def round (round : GrillRound) : GrillRound := { round with roundId := ρ.id round.roundId }

def deep (identity : DeepAttemptIdentity) : DeepAttemptIdentity :=
  { identity with
    attemptId := ρ.id identity.attemptId
    sourceRoundId := ρ.id identity.sourceRoundId }

def context (identity : ContextBuildIdentity) : ContextBuildIdentity :=
  { identity with
    attemptId := ρ.id identity.attemptId
    sourceRoundId := ρ.id identity.sourceRoundId }

def adr (identity : AdrBuildIdentity) : AdrBuildIdentity :=
  { identity with
    attemptId := ρ.id identity.attemptId
    sourceRoundId := ρ.id identity.sourceRoundId }

def waitUser (waitUser : WaitUserState) : WaitUserState :=
  { waitUser with
    roundId := ρ.id waitUser.roundId
    decisionId := ρ.decision waitUser.decisionId }

def payload (payload : WaitUserPayload) : WaitUserPayload :=
  { payload with
    roundId := ρ.id payload.roundId
    decisionId := ρ.decision payload.decisionId }

def key (key : DecisionKey) : DecisionKey :=
  { key with
    roundId := ρ.id key.roundId
    decisionId := ρ.decision key.decisionId }

def humanDecision (decision : EvidenceDecision) : EvidenceDecision :=
  { decision with decisionId := ρ.decision decision.decisionId }

def ambiguity (ambiguity : ContextAmbiguity) : ContextAmbiguity :=
  { ambiguity with decisionId := ρ.decision ambiguity.decisionId }

def completion : ContextBuildCompletion → ContextBuildCompletion
  | .completed candidate => .completed candidate
  | .ambiguous ambiguity => .ambiguous (ρ.ambiguity ambiguity)

def deepQuestion (decision : DeepNeedsDecisionResult) : DeepNeedsDecisionResult :=
  { decision with decisionId := ρ.decision decision.decisionId }

def deepResult : DeepResult → DeepResult
  | .needsDecision decision => .needsDecision (ρ.deepQuestion decision)
  | result => result

/-- The same operation, in the session with the renamed IDs. -/
def op : SessionOp → SessionOp
  | .completeDeepKnowledge evidenceIds summary identity => .completeDeepKnowledge evidenceIds summary (ρ.deep identity)
  | .completeDeepRetrieval inherited summary identity => .completeDeepRetrieval inherited summary (ρ.deep identity)
  | .completeContextBuild identity completion => .completeContextBuild (ρ.context identity) (ρ.completion completion)
  | .handleDeepResult identity result => .handleDeepResult (ρ.deep identity) (ρ.deepResult result)
  | .recordDeepSupplementalEvidence identity evidenceId evidence =>
      .recordDeepSupplementalEvidence (ρ.deep identity) evidenceId evidence
  | .consumeDeepSearchBudget identity => .consumeDeepSearchBudget (ρ.deep identity)
  | .reserveDeepSearchBudget identity => .reserveDeepSearchBudget (ρ.deep identity)
  | .commitDeepSearchBudget identity => .commitDeepSearchBudget (ρ.deep identity)
  | .releaseDeepSearchBudget identity => .releaseDeepSearchBudget (ρ.deep identity)
  | .prepareAdrBuild identity candidate => .prepareAdrBuild (ρ.adr identity) candidate
  | .requireAdrDecision identity ambiguity => .requireAdrDecision (ρ.adr identity) (ρ.ambiguity ambiguity)
  | .finalizeAdrBuild identity commit => .finalizeAdrBuild (ρ.adr identity) commit
  | .requireGrillResult payload => .requireGrillResult (ρ.payload payload)
  | .requireWaitUser payload => .requireWaitUser (ρ.payload payload)
  | other => other

/-! ### What is the same up to a renaming -/

/-- The same text, or the summaries of the same answer to a question and to the renamed question. -/
def SameText (x y : String) : Prop :=
  x = y ∨ ∃ pending answer, x = Session.answerSummary pending answer ∧
    y = Session.answerSummary (ρ.waitUser pending) answer

/-- The premise of the same answer, given to a question and to the renamed question in the renamed round. -/
def SamePremise (digest : String → String) (x y : EvidenceInput) : Prop :=
  ∃ round pending answer, x = Session.humanPremise digest round pending answer ∧
    y = Session.humanPremise digest (ρ.round round) (ρ.waitUser pending) answer

structure SameUi (u v : ForgeUiState) : Prop where
  decisionSummary : Option.Rel ρ.SameText u.decisionSummary v.decisionSummary
  lastEvidenceIds : v.lastEvidenceIds = u.lastEvidenceIds
  stage : v.stage = u.stage
  validationRepair : v.validationRepair = u.validationRepair
  waitUser : v.waitUser = u.waitUser.map ρ.waitUser

inductive SameDeep : DeepCallResult → DeepCallResult → Prop
  | accepted {u v : ForgeUiState} {identity : DeepAttemptIdentity} (h : ρ.SameUi u v) :
      SameDeep (.accepted u identity) (.accepted v (ρ.deep identity))
  | stale {expected : Option DeepAttemptIdentity} {received : DeepAttemptIdentity} :
      SameDeep (.stale expected received) (.stale (expected.map ρ.deep) (ρ.deep received))
  | invalid {u v : ForgeUiState} {errors : List String} (h : ρ.SameUi u v) :
      SameDeep (.invalid u errors) (.invalid v errors)

inductive SameContext : ContextBuildCallResult → ContextBuildCallResult → Prop
  | accepted {u v : ForgeUiState} {identity : ContextBuildIdentity} (h : ρ.SameUi u v) :
      SameContext (.accepted u identity) (.accepted v (ρ.context identity))
  | ambiguous {u v : ForgeUiState} {identity : ContextBuildIdentity} (h : ρ.SameUi u v) :
      SameContext (.ambiguous u identity) (.ambiguous v (ρ.context identity))
  | stale {expected : Option ContextBuildIdentity} {received : ContextBuildIdentity} :
      SameContext (.stale expected received) (.stale (expected.map ρ.context) (ρ.context received))
  | invalid {u v : ForgeUiState} {errors : List String} (h : ρ.SameUi u v) :
      SameContext (.invalid u errors) (.invalid v errors)

inductive SameAdr : AdrBuildCallResult → AdrBuildCallResult → Prop
  | accepted {u v : ForgeUiState} {identity : AdrBuildIdentity} (h : ρ.SameUi u v) :
      SameAdr (.accepted u identity) (.accepted v (ρ.adr identity))
  | ambiguous {u v : ForgeUiState} {identity : AdrBuildIdentity} (h : ρ.SameUi u v) :
      SameAdr (.ambiguous u identity) (.ambiguous v (ρ.adr identity))
  | stale {expected : Option AdrBuildIdentity} {received : AdrBuildIdentity} :
      SameAdr (.stale expected received) (.stale (expected.map ρ.adr) (ρ.adr received))
  | invalid {u v : ForgeUiState} {errors : List String} (h : ρ.SameUi u v) :
      SameAdr (.invalid u errors) (.invalid v errors)

inductive SameValue : SessionResult → SessionResult → Prop
  | ui {u v : ForgeUiState} (h : ρ.SameUi u v) : SameValue (.ui u) (.ui v)
  | deep {x y : DeepCallResult} (h : ρ.SameDeep x y) : SameValue (.deep x) (.deep y)
  | context {x y : ContextBuildCallResult} (h : ρ.SameContext x y) : SameValue (.context x) (.context y)
  | adr {x y : AdrBuildCallResult} (h : ρ.SameAdr x y) : SameValue (.adr x) (.adr y)
  | round {round : GrillRound} : SameValue (.round round) (.round (ρ.round round))
  | roundIfAny {round : Option GrillRound} : SameValue (.roundIfAny round) (.roundIfAny (round.map ρ.round))
  | flag {value : Bool} : SameValue (.flag value) (.flag value)
  | budget {answer : BudgetAnswer} : SameValue (.budget answer) (.budget answer)
  | done : SameValue .done .done

/-- The same error, or the same result up to the renaming. -/
def SameOutcome : SessionOutcome → SessionOutcome → Prop := AlikeResult ρ.SameValue

structure SameReading (digest : String → String) (x y : SessionReading) : Prop where
  current : ρ.SameUi x.current y.current
  contextBuildAttempt : y.currentContextBuildAttempt = x.currentContextBuildAttempt.map ρ.context
  adrBuildAttempt : y.currentAdrBuildAttempt = x.currentAdrBuildAttempt.map ρ.adr
  deepAttempt : y.currentDeepAttempt = x.currentDeepAttempt.map ρ.deep
  supplementalIds : y.getDeepSupplementalEvidenceIds = x.getDeepSupplementalEvidenceIds
  supplemental : y.getDeepSupplementalEvidence = x.getDeepSupplementalEvidence
  fetched : y.getFetchedEvidenceIds = x.getFetchedEvidenceIds
  locked : y.getLockedDeepEvidence = x.getLockedDeepEvidence
  decisions : y.getHumanDecisions = x.getHumanDecisions.map ρ.humanDecision
  premises : List.Forall₂ (ρ.SamePremise digest) x.getHumanPremises y.getHumanPremises
  contextCandidate : y.getContextCandidate = x.getContextCandidate
  adrCandidate : y.getAdrBuildCandidate = x.getAdrBuildCandidate
  package : y.getKnowledgeUnderstandingPackage = x.getKnowledgeUnderstandingPackage
  isFirst : y.isFirstGrillRoundOfSnapshot = x.isFirstGrillRoundOfSnapshot

end Renaming

/-! ### What a session shows -/

/-- What is read at first, and after each operation what it gave and what is read then. -/
structure Observed where
  first : SessionReading
  steps : List (SessionOutcome × SessionReading)

/-- **All that a client sees of a session** that is in the state `s` and on which `ops` are called. -/
def observed (digest : String → String) (s : SessionState) (ops : List SessionOp) : Observed :=
  ⟨s.reading, (Machine.trace (sessionStep digest) s ops).map fun st => (st.output, st.after.reading)⟩

/-- Two sessions show the same, up to a renaming. -/
structure Renaming.SameObserved (ρ : Renaming) (digest : String → String) (x y : Observed) : Prop where
  first : ρ.SameReading digest x.first y.first
  steps : List.Forall₂ (fun a b => ρ.SameOutcome a.1 b.1 ∧ ρ.SameReading digest a.2 b.2) x.steps y.steps

/-! ### The renaming that shifts the numbers -/

/-- How far the counters of one session are ahead of those of another. -/
structure Offsets where
  rounds : Nat
  deepAttempts : Nat
  contextBuildAttempts : Nat
  adrBuildAttempts : Nat
deriving DecidableEq, Repr

namespace Offsets

/-- The round and attempt IDs, shifted. -/
def shiftId (o : Offsets) (id : String) : String :=
  shiftNumber "grill-" "" o.rounds (shiftNumber "deep-" "" o.deepAttempts
    (shiftNumber "context-" "" o.contextBuildAttempts (shiftNumber "adr-" "" o.adrBuildAttempts id)))

/-- The decision IDs that the session builds from an ID, shifted; the others as they are. -/
def shiftDecisionId (o : Offsets) (decisionId : String) : String :=
  shiftNumber "deep-" "-deep-discovery-fallback" o.deepAttempts
    (shiftNumber "grill-checkpoint-grill-" "" o.rounds decisionId)

/-- The renaming of everything that carries a number. -/
def shift (o : Offsets) : Renaming := ⟨o.shiftId, o.shiftDecisionId⟩

/-- The renaming of the round and attempt IDs alone. -/
def identities (o : Offsets) : Renaming := ⟨o.shiftId, id⟩

end Offsets

/-- What the comparison of two sessions asks of a renaming: it tells different IDs apart, keeps blank apart
from the rest, and takes each ID that the session builds to the one built from the shifted number. -/
structure Renaming.Shifts (ρ : Renaming) (o : Offsets) : Prop where
  id_injective : Function.Injective ρ.id
  decision_injective : Function.Injective ρ.decision
  blank_id : ∀ id, Blank (ρ.id id) ↔ Blank id
  blank_decision : ∀ id, Blank (ρ.decision id) ↔ Blank id
  roundId : ∀ n, ρ.id (Session.roundId n) = Session.roundId (n + o.rounds)
  deepAttemptId : ∀ n, ρ.id (Session.deepAttemptId n) = Session.deepAttemptId (n + o.deepAttempts)
  contextBuildAttemptId : ∀ n,
    ρ.id (Session.contextBuildAttemptId n) = Session.contextBuildAttemptId (n + o.contextBuildAttempts)
  adrBuildAttemptId : ∀ n, ρ.id (Session.adrBuildAttemptId n) = Session.adrBuildAttemptId (n + o.adrBuildAttempts)
  fallback : ∀ n, ρ.decision (Session.deepAttemptId n ++ "-deep-discovery-fallback") =
    Session.deepAttemptId (n + o.deepAttempts) ++ "-deep-discovery-fallback"
  checkpoint : ∀ n, ρ.decision ("grill-checkpoint-" ++ Session.roundId n) =
    "grill-checkpoint-" ++ Session.roundId (n + o.rounds)

namespace Offsets

/-- A text that begins with another letter carries no number behind `before`. -/
theorem shiftNumber_of_head (before after : String) (k : Nat) {s : String} (h : s.toList.head? ≠ before.toList.head?)
    (hbefore : before ≠ "") : shiftNumber before after k s = s := by
  refine shiftNumber_other fun n hs => h ?_
  rw [hs, String.toList_append, String.toList_append, List.append_assoc]
  cases hlist : before.toList with
  | nil => exact absurd (String.toList_inj.mp hlist) hbefore
  | cons c cs => rfl

theorem shifts (o : Offsets) : o.shift.Shifts o where
  id_injective := (shiftNumber_injective _ _ _).comp ((shiftNumber_injective _ _ _).comp
    ((shiftNumber_injective _ _ _).comp (shiftNumber_injective _ _ _)))
  decision_injective := (shiftNumber_injective _ _ _).comp (shiftNumber_injective _ _ _)
  blank_id id := by
    show Blank (o.shiftId id) ↔ _
    rw [shiftId, blank_shiftNumber (by decide), blank_shiftNumber (by decide), blank_shiftNumber (by decide),
      blank_shiftNumber (by decide)]
  blank_decision id := by
    show Blank (o.shiftDecisionId id) ↔ _
    rw [shiftDecisionId, blank_shiftNumber (by decide), blank_shiftNumber (by decide)]
  roundId n := by
    show o.shiftId _ = _
    rw [shiftId,
      shiftNumber_of_head "adr-" "" _ (by simp [Session.roundId]) (by decide),
      shiftNumber_of_head "context-" "" _ (by simp [Session.roundId]) (by decide),
      shiftNumber_of_head "deep-" "" _ (by simp [Session.roundId]) (by decide),
      show Session.roundId n = "grill-" ++ toString n from rfl, shiftNumber_plain]
    rfl
  deepAttemptId n := by
    show o.shiftId _ = _
    rw [shiftId,
      shiftNumber_of_head "adr-" "" _ (by simp [Session.deepAttemptId]) (by decide),
      shiftNumber_of_head "context-" "" _ (by simp [Session.deepAttemptId]) (by decide),
      show Session.deepAttemptId n = "deep-" ++ toString n from rfl, shiftNumber_plain,
      shiftNumber_of_head "grill-" "" _ (by simp) (by decide)]
    rfl
  contextBuildAttemptId n := by
    show o.shiftId _ = _
    rw [shiftId,
      shiftNumber_of_head "adr-" "" _ (by simp [Session.contextBuildAttemptId]) (by decide),
      show Session.contextBuildAttemptId n = "context-" ++ toString n from rfl, shiftNumber_plain,
      shiftNumber_of_head "deep-" "" _ (by simp) (by decide),
      shiftNumber_of_head "grill-" "" _ (by simp) (by decide)]
    rfl
  adrBuildAttemptId n := by
    show o.shiftId _ = _
    rw [shiftId,
      show Session.adrBuildAttemptId n = "adr-" ++ toString n from rfl, shiftNumber_plain,
      shiftNumber_of_head "context-" "" _ (by simp) (by decide),
      shiftNumber_of_head "deep-" "" _ (by simp) (by decide),
      shiftNumber_of_head "grill-" "" _ (by simp) (by decide)]
    rfl
  fallback n := by
    show o.shiftDecisionId _ = _
    rw [shiftDecisionId, shiftNumber_of_head "grill-checkpoint-grill-" "" _ (by simp [Session.deepAttemptId]) (by decide)]
    exact shiftNumber_numbered
  checkpoint n := by
    have hbuilt : ∀ m, "grill-checkpoint-" ++ Session.roundId m = "grill-checkpoint-grill-" ++ toString m :=
      fun m => (@String.append_assoc "grill-checkpoint-" "grill-" (toString m)).symm
    show o.shiftDecisionId _ = _
    rw [shiftDecisionId, hbuilt, shiftNumber_plain, shiftNumber_of_head "deep-" _ _ (by simp) (by decide), hbuilt]

/-- Equal counters rename nothing. -/
theorem shift_none : (Offsets.mk 0 0 0 0).shift = ⟨id, id⟩ := by
  have hid : (Offsets.mk 0 0 0 0).shiftId = id := by
    funext s
    rw [shiftId, shiftNumber_zero, shiftNumber_zero, shiftNumber_zero, shiftNumber_zero]
    rfl
  have hdecision : (Offsets.mk 0 0 0 0).shiftDecisionId = id := by
    funext s
    rw [shiftDecisionId, shiftNumber_zero, shiftNumber_zero]
    rfl
  rw [shift, hid, hdecision]

end Offsets

end ForgeRuntime
