import ForgeRuntime.Runtime.Attempts
import ForgeRuntime.Runtime.AnswerableDecisions
import ForgeRuntime.Runtime.ShownState

/-!
# Identities are used once

Over whole runs, with any number of resets: no ID is issued twice; a deep result, a context result and an
ADR result are taken at most once under one identity; an attempt that was superseded is never taken
again; and a Context or ADR attempt carries the source round of the attempt whose package was accepted.

* `issuedIds_sublist` — what a step issues is what its counter has counted;
* `issuedIds`, `takenDeepResult`, `takenContextBuild`, `takenAdrBuild`, `supersedes` — what a step issues, uses or ends;
* `IdentitiesSingleUse` and `identities_single_use` — the five facts together.
-/

namespace ForgeRuntime

open EventDriven EventDriven.Text EventDriven.Machine Session

variable {digest : String → String}

/-! ### What a step issues and uses -/

/-- The round that `startGrillRound` gives back. -/
def newRound (st : SessionStepRecord) : Option GrillRound :=
  match st.input, st.output with
  | .startGrillRound _ _, .ok (.round round) => some round
  | _, _ => none

/-- Calls that fill a slot whenever they succeed, with whatever identity. -/
def fillsDeep (st : SessionStepRecord) : Bool :=
  match st.input, st.output with
  | .beginDeepKnowledge _ _, .ok _ => true
  | .retryDeepKnowledge _, _ => st.before.currentGrillRound.isSome && st.before.retryPhase?.isSome
  | _, _ => false

def fillsContextBuild (st : SessionStepRecord) : Bool :=
  match st.input with
  | .handleDeepResult _ (.understandingCompleted _) => st.output.taken
  | _ => false

def fillsAdrBuild (st : SessionStepRecord) : Bool :=
  match st.input with
  | .completeContextBuild _ (.completed _) => st.output.taken
  | _ => false

/-- The Deep attempt that a step issues: its call has filled the slot, or the slot has changed its ID. -/
def newDeepAttempt (st : SessionStepRecord) : Option DeepAttemptIdentity :=
  if fillsDeep st = true ∨ st.after.deepAttempt.map (·.attemptId) ≠ st.before.deepAttempt.map (·.attemptId) then
    st.after.deepAttempt
  else none

def newContextBuild (st : SessionStepRecord) : Option ContextBuildIdentity :=
  if fillsContextBuild st = true ∨ st.after.contextBuildAttempt ≠ st.before.contextBuildAttempt then
    st.after.contextBuildAttempt
  else none

def newAdrBuild (st : SessionStepRecord) : Option AdrBuildIdentity :=
  if fillsAdrBuild st = true ∨ st.after.adrBuildAttempt ≠ st.before.adrBuildAttempt then st.after.adrBuildAttempt
  else none

/-- **The IDs that a step issues**: of the round that it gives back, and of the attempts that are new in their
slots. -/
def issuedIds (st : SessionStepRecord) : List String :=
  (newRound st).toList.map (·.roundId) ++ (newDeepAttempt st).toList.map (·.attemptId) ++
    (newContextBuild st).toList.map (·.attemptId) ++ (newAdrBuild st).toList.map (·.attemptId)

/-- The ID that a step issues; a step issues at most one. -/
def issuedId (st : SessionStepRecord) : Option String := (issuedIds st).head?

/-- The deep identity that an operation is called with. -/
def SessionOp.deepIdentity? : SessionOp → Option DeepAttemptIdentity
  | .completeDeepKnowledge _ _ identity => some identity
  | .completeDeepRetrieval _ _ identity => some identity
  | .handleDeepResult identity _ => some identity
  | op => op.bookkeepingIdentity?

/-- The deep attempt under which an operation took what it was given. -/
def takenDeepAttempt (st : SessionStepRecord) : Option String :=
  if st.output.taken then st.input.deepIdentity?.map (·.attemptId) else none

def takenDeepResult (st : SessionStepRecord) : Option DeepAttemptIdentity :=
  match st.input with
  | .handleDeepResult identity _ => if st.output.taken then some identity else none
  | _ => none

def takenContextBuild (st : SessionStepRecord) : Option ContextBuildIdentity :=
  match st.input with
  | .completeContextBuild identity _ => if st.output.taken then some identity else none
  | _ => none

/-- The identity under which an ADR step asked or finished. -/
def takenAdrBuild (st : SessionStepRecord) : Option AdrBuildIdentity :=
  match st.input with
  | .requireAdrDecision identity _ => if st.output.taken then some identity else none
  | .finalizeAdrBuild identity _ => if st.output.taken then some identity else none
  | _ => none

/-- A step that supersedes the live deep attempt, whichever it is: it empties the slot, or fills it again. -/
def supersedes (st : SessionStepRecord) : Bool :=
  match st.input with
  | .cancelDeepKnowledge | .startGrillRound _ _ | .reset => true
  | _ => fillsDeep st

/-- The source rounds of the Context and ADR attempts that a step issues. -/
def issuedSources (st : SessionStepRecord) : List String :=
  (newContextBuild st).toList.map (·.sourceRoundId) ++ (newAdrBuild st).toList.map (·.sourceRoundId)

/-- The deep attempt whose package was accepted last, after one more step. -/
def lastPackage (last : Option DeepAttemptIdentity) (st : SessionStepRecord) :
    Option DeepAttemptIdentity :=
  match st.input with
  | .handleDeepResult identity (.understandingCompleted _) =>
      if st.output.taken then some identity else last
  | _ => last

/-! ### IDs -/

/-- The ID was issued to a round or to an attempt. -/
def IssuedAny (s : SessionState) (id : String) : Prop :=
  Issuer.Issued roundId (roundIssuer s) id ∨ Issuer.Issued deepAttemptId (deepIssuer s) id ∨
    Issuer.Issued contextBuildAttemptId (contextIssuer s) id ∨
    Issuer.Issued adrBuildAttemptId (adrIssuer s) id

/-- The first letter tells the four kinds of IDs apart. -/
theorem issued_head {name : Nat → String} {c : Char} (hname : ∀ n, (name n).toList.head? = some c)
    {a : Issuer} {id : String} (h : Issuer.Issued name a id) : id.toList.head? = some c := by
  obtain ⟨n, -, rfl⟩ := h
  exact hname n

theorem roundId_head (n : Nat) : (roundId n).toList.head? = some 'g' := by simp [roundId]

theorem deepAttemptId_head (n : Nat) : (deepAttemptId n).toList.head? = some 'd' := by
  simp [deepAttemptId]

theorem contextBuildAttemptId_head (n : Nat) : (contextBuildAttemptId n).toList.head? = some 'c' := by
  simp [contextBuildAttemptId]

theorem adrBuildAttemptId_head (n : Nat) : (adrBuildAttemptId n).toList.head? = some 'a' := by
  simp [adrBuildAttemptId]

theorem IssuedAny.later {s t : SessionState} {op : SessionOp} {r : SessionOutcome} {id : String}
    (h : IssuedAny s id) (hmove : SessionMove digest s op r t) : IssuedAny t id := by
  rcases h with h | h | h | h
  · exact Or.inl (h.later (move_roundLater hmove))
  · exact Or.inr (Or.inl (h.later (move_deepLater hmove)))
  · exact Or.inr (Or.inr (Or.inl (h.later (move_contextLater hmove))))
  · exact Or.inr (Or.inr (Or.inr (h.later (move_adrLater hmove))))

/-- An ID that begins with its own letter and carries the next number of its kind was not issued. -/
theorem not_issuedAny {s : SessionState} {id : String}
    (h : id = roundId s.nextRoundId ∨ id = deepAttemptId s.nextDeepAttemptId ∨
      id = contextBuildAttemptId s.nextContextBuildAttemptId ∨
      id = adrBuildAttemptId s.nextAdrBuildAttemptId) : ¬ IssuedAny s id := by
  rintro (hi | hi | hi | hi)
  · have hhead := issued_head roundId_head hi
    rcases h with rfl | rfl | rfl | rfl
    · exact Issuer.not_issued_next roundId_injective (roundIssuer s) hi
    · simp [deepAttemptId_head] at hhead
    · simp [contextBuildAttemptId_head] at hhead
    · simp [adrBuildAttemptId_head] at hhead
  · have hhead := issued_head deepAttemptId_head hi
    rcases h with rfl | rfl | rfl | rfl
    · simp [roundId_head] at hhead
    · exact Issuer.not_issued_next deepAttemptId_injective (deepIssuer s) hi
    · simp [contextBuildAttemptId_head] at hhead
    · simp [adrBuildAttemptId_head] at hhead
  · have hhead := issued_head contextBuildAttemptId_head hi
    rcases h with rfl | rfl | rfl | rfl
    · simp [roundId_head] at hhead
    · simp [deepAttemptId_head] at hhead
    · exact Issuer.not_issued_next contextBuildAttemptId_injective (contextIssuer s) hi
    · simp [adrBuildAttemptId_head] at hhead
  · have hhead := issued_head adrBuildAttemptId_head hi
    rcases h with rfl | rfl | rfl | rfl
    · simp [roundId_head] at hhead
    · simp [deepAttemptId_head] at hhead
    · simp [contextBuildAttemptId_head] at hhead
    · exact Issuer.not_issued_next adrBuildAttemptId_injective (adrIssuer s) hi

/-- A counter that moves has issued the next ID of its kind. -/
theorem issued_of_later {name : Nat → String} {a b : Issuer} {id : String}
    (hlater : Issuer.Later name a b) (hnext : b.next ≠ a.next) (hlive : b.live = some id) :
    id = name a.next ∧ Issuer.Issued name b id := by
  have hid : id = name a.next := (Option.some.inj ((hlater.fresh hnext).symm.trans hlive)).symm
  refine ⟨hid, a.next, ?_, hid⟩
  cases hlater with
  | kept => exact absurd rfl hnext
  | dropped => exact absurd rfl hnext
  | issued => exact Nat.lt_succ_self _

/-- A new live identity comes with a moved counter. -/
theorem moved_of_later {name : Nat → String} {a b : Issuer} {id : String} (hlater : Issuer.Later name a b)
    (hlive : b.live = some id) (hnew : a.live ≠ some id) : b.next ≠ a.next := by
  cases hlater with
  | kept => exact absurd hlive hnew
  | dropped => cases hlive
  | issued => exact Nat.succ_ne_self _

/-- The identities that stand in the slots whose counters have moved. -/
def countedIds (st : SessionStepRecord) : List String :=
  (if st.after.nextRoundId ≠ st.before.nextRoundId then
    st.after.currentGrillRound.toList.map (·.roundId) else []) ++
  (if st.after.nextDeepAttemptId ≠ st.before.nextDeepAttemptId then
    st.after.deepAttempt.toList.map (·.attemptId) else []) ++
  (if st.after.nextContextBuildAttemptId ≠ st.before.nextContextBuildAttemptId then
    st.after.contextBuildAttempt.toList.map (·.attemptId) else []) ++
  (if st.after.nextAdrBuildAttemptId ≠ st.before.nextAdrBuildAttemptId then
    st.after.adrBuildAttempt.toList.map (·.attemptId) else [])

theorem mem_countedIds {s t : SessionState} {op : SessionOp} {r : SessionOutcome} {id : String}
    (h : id ∈ countedIds ⟨s, op, r, t⟩) :
    (t.nextRoundId ≠ s.nextRoundId ∧ (roundIssuer t).live = some id) ∨
      (t.nextDeepAttemptId ≠ s.nextDeepAttemptId ∧ (deepIssuer t).live = some id) ∨
      (t.nextContextBuildAttemptId ≠ s.nextContextBuildAttemptId ∧ (contextIssuer t).live = some id) ∨
      (t.nextAdrBuildAttemptId ≠ s.nextAdrBuildAttemptId ∧ (adrIssuer t).live = some id) := by
  simpa [countedIds, roundIssuer, deepIssuer, contextIssuer, adrIssuer, or_assoc, ite_not] using h

/-- No step moves two counters. -/
theorem countedIds_length {s t : SessionState} {op : SessionOp} {r : SessionOutcome}
    (h : SessionMove digest s op r t) : (countedIds ⟨s, op, r, t⟩).length ≤ 1 := by
  cases h with
  | answered hr horch hD hkind hguard hcontinues => cases hcontinues <;> simp [countedIds, afterAnswer]
  | roundStarted hr first hfirst => cases first <;> simp [countedIds, forgetSnapshot]
  | _ => simp [countedIds]

theorem startGrillRound_gives (request : String) (snapshot : GrillEvidenceSnapshot) (s : SessionState) :
    ∃ round, (sessionStep digest (.startGrillRound request snapshot) s).1 = .ok (.round round) ∧
      (sessionStep digest (.startGrillRound request snapshot) s).2.currentGrillRound = some round ∧
      (sessionStep digest (.startGrillRound request snapshot) s).2.nextRoundId = s.nextRoundId + 1 :=
  ⟨_, rfl, rfl, rfl⟩

/-- A `beginDeepKnowledge` that returns has issued an attempt. -/
theorem beginDeepKnowledge_fills {summary : Option String} {phase : DeepAttemptPhase} {s : SessionState}
    {result : SessionResult} (h : (sessionStep digest (.beginDeepKnowledge summary phase) s).1 = .ok result) :
    ∃ roundId, (sessionStep digest (.beginDeepKnowledge summary phase) s).2.deepAttempt =
        some ⟨deepAttemptId s.nextDeepAttemptId, roundId, phase⟩ ∧
      (sessionStep digest (.beginDeepKnowledge summary phase) s).2.nextDeepAttemptId = s.nextDeepAttemptId + 1 := by
  change ((SessionResult.ui <$> beginDeepKnowledge summary phase) s).1 = _ at h
  change ∃ roundId, ((SessionResult.ui <$> beginDeepKnowledge summary phase) s).2.deepAttempt = _ ∧
    ((SessionResult.ui <$> beginDeepKnowledge summary phase) s).2.nextDeepAttemptId = _
  cases hround : s.currentGrillRound with
  | none =>
      simp only [beginDeepKnowledge, Turn.map_apply, Turn.get_bind_apply, hround, Turn.throw_apply] at h
      cases h
  | some round =>
      refine ⟨round.roundId, ?_⟩
      simp only [beginDeepKnowledge, Turn.map_apply, Turn.get_bind_apply, hround, orchestratorFrom_bind_apply,
        enterStage_bind_apply, setUi_bind_apply, issueDeepAttempt_bind_apply, Turn.pure_apply] at h ⊢
      split at h
      · next hstage => simp only [hstage, if_true, and_self]
      · next hstage =>
          split at h
          · next hcan => simp only [hstage, hcan, if_true, if_false, and_self]
          · cases h

/-- A retry with a round and a phase to start again has issued an attempt. -/
theorem retryDeepKnowledge_fills {s : SessionState} {round : GrillRound} {phase : DeepAttemptPhase}
    (hround : s.currentGrillRound = some round) (hphase : s.retryPhase? = some phase) (summary : Option String) :
    (sessionStep digest (.retryDeepKnowledge summary) s).2.deepAttempt =
        some ⟨deepAttemptId s.nextDeepAttemptId, round.roundId, phase⟩ ∧
      (sessionStep digest (.retryDeepKnowledge summary) s).2.nextDeepAttemptId = s.nextDeepAttemptId + 1 := by
  change ((SessionResult.ui <$> retryDeepKnowledge summary) s).2.deepAttempt = _ ∧
    ((SessionResult.ui <$> retryDeepKnowledge summary) s).2.nextDeepAttemptId = _
  rw [SessionState.retryPhase?] at hphase
  simp only [retryDeepKnowledge, Turn.map_apply, Turn.get_bind_apply, hround, hphase, Turn.modify_bind_apply,
    setUi_bind_apply, issueDeepAttempt_bind_apply, Turn.pure_apply, and_self]

/-- What a step fills the slot with is the next number. -/
theorem fillsDeep_next {s : SessionState} {op : SessionOp} (h : fillsDeep (stepAt (sessionStep digest) s op) = true) :
    (sessionStep digest op s).2.deepAttempt.map (·.attemptId) = some (deepAttemptId s.nextDeepAttemptId) ∧
      (sessionStep digest op s).2.nextDeepAttemptId = s.nextDeepAttemptId + 1 := by
  unfold fillsDeep at h
  split at h
  · next summary phase result hinput houtput =>
      obtain rfl : op = .beginDeepKnowledge summary phase := hinput
      obtain ⟨roundId, hslot, hnext⟩ := beginDeepKnowledge_fills houtput
      rw [hslot]
      exact ⟨rfl, hnext⟩
  · next summary hinput =>
      obtain rfl : op = .retryDeepKnowledge summary := hinput
      obtain ⟨hsome, hphase⟩ := (Bool.and_eq_true _ _).mp h
      obtain ⟨round, hround⟩ := Option.isSome_iff_exists.mp hsome
      obtain ⟨phase, hretry⟩ := Option.isSome_iff_exists.mp hphase
      obtain ⟨hslot, hnext⟩ := @retryDeepKnowledge_fills digest s round phase hround hretry summary
      rw [hslot]
      exact ⟨rfl, hnext⟩
  · cases h

/-- The issued round stands in its slot, and its counter has moved. -/
theorem newRound_counted {s : SessionState} {op : SessionOp} {round : GrillRound}
    (h : newRound (stepAt (sessionStep digest) s op) = some round) :
    (sessionStep digest op s).2.nextRoundId ≠ s.nextRoundId ∧
      (sessionStep digest op s).2.currentGrillRound = some round := by
  unfold newRound at h
  split at h
  · next request snapshot given hinput houtput =>
      obtain rfl := Option.some.inj h
      obtain rfl : op = .startGrillRound request snapshot := hinput
      obtain ⟨stored, hgives, hcurrent, hnext⟩ := @startGrillRound_gives digest request snapshot s
      have hsame : given = stored := by
        injection hgives.symm.trans houtput with hround
        injection hround with heq
        exact heq.symm
      rw [hsame, hcurrent, hnext]
      exact ⟨Nat.succ_ne_self _, rfl⟩
  · cases h

theorem newDeepAttempt_counted {s : SessionState} {op : SessionOp} {identity : DeepAttemptIdentity}
    (h : newDeepAttempt (stepAt (sessionStep digest) s op) = some identity) :
    (sessionStep digest op s).2.nextDeepAttemptId ≠ s.nextDeepAttemptId ∧
      (sessionStep digest op s).2.deepAttempt = some identity := by
  unfold newDeepAttempt at h
  split at h
  case isFalse => cases h
  case isTrue hnew =>
    have hslot : (sessionStep digest op s).2.deepAttempt = some identity := h
    refine ⟨?_, hslot⟩
    rcases hnew with hfills | hchanged
    · rw [(fillsDeep_next hfills).2]
      exact Nat.succ_ne_self _
    · refine moved_of_later (move_deepLater (step_move digest s op)) (deepIssuer_live hslot) fun hsame => hchanged ?_
      show ((sessionStep digest op s).2.deepAttempt).map (·.attemptId) = s.deepAttempt.map (·.attemptId)
      rw [hslot]
      exact hsame.symm

/-- The slot of a Context attempt is left, emptied, or filled under a new number. -/
theorem contextSlot_of_move {s t : SessionState} {op : SessionOp} {r : SessionOutcome}
    (h : SessionMove digest s op r t) :
    t.contextBuildAttempt = s.contextBuildAttempt ∨ t.contextBuildAttempt = none ∨
      t.nextContextBuildAttemptId ≠ s.nextContextBuildAttemptId := by
  cases h with
  | packageAccepted => exact Or.inr (Or.inr (Nat.succ_ne_self _))
  | answered hr horch hpending hkind hguard hcontinues =>
      cases hcontinues with
      | inContextBuild => exact Or.inr (Or.inr (Nat.succ_ne_self _))
      | _ => exact Or.inl rfl
  | roundStarted hr first hfirst =>
      cases first
      · exact Or.inl rfl
      · exact Or.inr (Or.inl rfl)
  | _ =>
      first
      | exact Or.inl rfl
      | exact Or.inr (Or.inl rfl)

theorem adrSlot_of_move {s t : SessionState} {op : SessionOp} {r : SessionOutcome}
    (h : SessionMove digest s op r t) :
    t.adrBuildAttempt = s.adrBuildAttempt ∨ t.adrBuildAttempt = none ∨
      t.nextAdrBuildAttemptId ≠ s.nextAdrBuildAttemptId := by
  cases h with
  | contextAccepted => exact Or.inr (Or.inr (Nat.succ_ne_self _))
  | answered hr horch hpending hkind hguard hcontinues =>
      cases hcontinues with
      | inAdrBuild => exact Or.inr (Or.inr (Nat.succ_ne_self _))
      | _ => exact Or.inl rfl
  | roundStarted hr first hfirst =>
      cases first
      · exact Or.inl rfl
      · exact Or.inr (Or.inl rfl)
  | _ =>
      first
      | exact Or.inl rfl
      | exact Or.inr (Or.inl rfl)

/-- An accepted package has issued a Context attempt. -/
theorem package_fills {s t : SessionState} {identity : DeepAttemptIdentity} {package : EvidencePackage}
    {r : SessionOutcome} (h : SessionMove digest s (.handleDeepResult identity (.understandingCompleted package)) r t)
    (hr : r.taken = true) : t.nextContextBuildAttemptId ≠ s.nextContextBuildAttemptId := by
  cases h with
  | packageAccepted => exact Nat.succ_ne_self _
  | orchestratorCreated => cases hr
  | bookkept hop => cases hop
  | retrievalEnded hop => cases hop
  | asked hr' hop => cases hop
  | entered hr' hop => cases hop
  | deepIssued hr' hop => cases hop
  | refused hr' => exact absurd (hr'.symm.trans hr) (by simp)

/-- An accepted glossary has issued an ADR attempt. -/
theorem glossary_fills {s t : SessionState} {identity : ContextBuildIdentity} {candidate : ContextCandidate}
    {r : SessionOutcome} (h : SessionMove digest s (.completeContextBuild identity (.completed candidate)) r t)
    (hr : r.taken = true) : t.nextAdrBuildAttemptId ≠ s.nextAdrBuildAttemptId := by
  cases h with
  | contextAccepted => exact Nat.succ_ne_self _
  | orchestratorCreated => cases hr
  | bookkept hop => cases hop
  | retrievalEnded hop => cases hop
  | asked hr' hop => cases hop
  | entered hr' hop => cases hop
  | deepIssued hr' hop => cases hop
  | refused hr' => exact absurd (hr'.symm.trans hr) (by simp)

theorem newContextBuild_counted {s t : SessionState} {op : SessionOp} {r : SessionOutcome}
    {identity : ContextBuildIdentity} (hmove : SessionMove digest s op r t)
    (h : newContextBuild ⟨s, op, r, t⟩ = some identity) :
    t.nextContextBuildAttemptId ≠ s.nextContextBuildAttemptId ∧ t.contextBuildAttempt = some identity := by
  unfold newContextBuild at h
  split at h
  case isFalse => cases h
  case isTrue hnew =>
    have hslot : t.contextBuildAttempt = some identity := h
    refine ⟨?_, hslot⟩
    rcases hnew with hfills | hchanged
    · unfold fillsContextBuild at hfills
      split at hfills
      · next deep package hinput =>
          obtain rfl : op = .handleDeepResult deep (.understandingCompleted package) := hinput
          exact package_fills hmove hfills
      · cases hfills
    · rcases contextSlot_of_move hmove with hsame | hnone | hnext
      · exact absurd hsame hchanged
      · exact absurd (hslot.symm.trans hnone) (by simp)
      · exact hnext

theorem newAdrBuild_counted {s t : SessionState} {op : SessionOp} {r : SessionOutcome}
    {identity : AdrBuildIdentity} (hmove : SessionMove digest s op r t)
    (h : newAdrBuild ⟨s, op, r, t⟩ = some identity) :
    t.nextAdrBuildAttemptId ≠ s.nextAdrBuildAttemptId ∧ t.adrBuildAttempt = some identity := by
  unfold newAdrBuild at h
  split at h
  case isFalse => cases h
  case isTrue hnew =>
    have hslot : t.adrBuildAttempt = some identity := h
    refine ⟨?_, hslot⟩
    rcases hnew with hfills | hchanged
    · unfold fillsAdrBuild at hfills
      split at hfills
      · next context candidate hinput =>
          obtain rfl : op = .completeContextBuild context (.completed candidate) := hinput
          exact glossary_fills hmove hfills
      · cases hfills
    · rcases adrSlot_of_move hmove with hsame | hnone | hnext
      · exact absurd hsame hchanged
      · exact absurd (hslot.symm.trans hnone) (by simp)
      · exact hnext

/-- **What is issued is counted.** -/
theorem issuedIds_sublist (s : SessionState) (op : SessionOp) :
    List.Sublist (issuedIds (stepAt (sessionStep digest) s op)) (countedIds (stepAt (sessionStep digest) s op)) := by
  have hmove := step_move digest s op
  have hpart : ∀ {α : Type} {new : Option α} {slot : Option α} {moved : Prop} [Decidable moved] (name : α → String),
      (∀ a, new = some a → moved ∧ slot = some a) →
      List.Sublist (new.toList.map name) (if moved then slot.toList.map name else []) := by
    intro α new slot moved _ name hnew
    cases new with
    | none => exact List.nil_sublist _
    | some a =>
        obtain ⟨hmoved, hslot⟩ := hnew a rfl
        rw [if_pos hmoved, hslot]
  unfold issuedIds countedIds
  refine List.Sublist.append (List.Sublist.append (List.Sublist.append ?_ ?_) ?_) ?_
  · exact hpart _ fun round h => newRound_counted h
  · exact hpart _ fun identity h => newDeepAttempt_counted h
  · exact hpart _ fun identity h => newContextBuild_counted hmove h
  · exact hpart _ fun identity h => newAdrBuild_counted hmove h

theorem issuedIds_spec {s : SessionState} {op : SessionOp} {id : String}
    (hid : id ∈ issuedIds (stepAt (sessionStep digest) s op)) :
    ¬ IssuedAny s id ∧ IssuedAny (sessionStep digest op s).2 id := by
  have h := step_move digest s op
  rcases mem_countedIds ((issuedIds_sublist s op).subset hid) with
    ⟨hnext, hlive⟩ | ⟨hnext, hlive⟩ | ⟨hnext, hlive⟩ | ⟨hnext, hlive⟩
  · obtain ⟨heq, hissued⟩ := issued_of_later (move_roundLater h) hnext hlive
    exact ⟨not_issuedAny (Or.inl heq), Or.inl hissued⟩
  · obtain ⟨heq, hissued⟩ := issued_of_later (move_deepLater h) hnext hlive
    exact ⟨not_issuedAny (Or.inr (Or.inl heq)), Or.inr (Or.inl hissued)⟩
  · obtain ⟨heq, hissued⟩ := issued_of_later (move_contextLater h) hnext hlive
    exact ⟨not_issuedAny (Or.inr (Or.inr (Or.inl heq))), Or.inr (Or.inr (Or.inl hissued))⟩
  · obtain ⟨heq, hissued⟩ := issued_of_later (move_adrLater h) hnext hlive
    exact ⟨not_issuedAny (Or.inr (Or.inr (Or.inr heq))), Or.inr (Or.inr (Or.inr hissued))⟩

/-- No step issues two IDs. -/
theorem issuedIds_eq (s : SessionState) (op : SessionOp) :
    issuedIds (stepAt (sessionStep digest) s op) = (issuedId (stepAt (sessionStep digest) s op)).toList := by
  have hlength : (issuedIds (stepAt (sessionStep digest) s op)).length ≤ 1 :=
    le_trans (issuedIds_sublist s op).length_le (countedIds_length (step_move digest s op))
  unfold issuedId
  cases hids : issuedIds (stepAt (sessionStep digest) s op) with
  | nil => rfl
  | cons id rest =>
      cases rest with
      | nil => rfl
      | cons other rest =>
          rw [hids] at hlength
          simp at hlength

/-! ### What is taken under an identity -/

/-- Only the live attempt is taken. -/
theorem takenDeepAttempt_live {s t : SessionState} {op : SessionOp} {r : SessionOutcome}
    {identity : DeepAttemptIdentity} (h : SessionMove digest s op r t)
    (hop : op.deepIdentity? = some identity) (hr : r.taken = true) : s.deepAttempt = some identity := by
  cases h with
  | refused hrefused => simp [hrefused] at hr
  | bookkept hbook hlive =>
      cases op <;> simp [SessionOp.bookkeepingIdentity?] at hbook <;>
        simp [SessionOp.deepIdentity?, SessionOp.bookkeepingIdentity?] at hop <;>
        exact hop ▸ hbook ▸ hlive
  | retrievalEnded hret hlive =>
      cases op <;> simp [SessionOp.retrievalIdentity?] at hret
      · simp [SessionOp.deepIdentity?] at hop
        exact hop ▸ hret ▸ hlive
      · simp [SessionOp.deepIdentity?] at hop
        exact hop ▸ hret ▸ hlive
      · rename_i i result
        cases result <;> simp at hret
        simp [SessionOp.deepIdentity?] at hop
        exact hop ▸ hret.2 ▸ hlive
  | deepIssued hrefused => simp [hrefused] at hr
  | entered hrefused => simp [hrefused] at hr
  | asked hrefused => simp [hrefused] at hr
  | orchestratorCreated hnone => cases hr
  | discoveryCounted => cases hr
  | deepDecisionAsked hlive => exact Option.some.inj hop ▸ hlive
  | fallbackAsked hlive => exact Option.some.inj hop ▸ hlive
  | rediscovered hlive => exact Option.some.inj hop ▸ hlive
  | packageAccepted _ hlive => exact Option.some.inj hop ▸ hlive
  | _ => cases hop

/-- A live attempt was live before, or has just moved on to the understanding phase, or is new. -/
theorem move_live {s t : SessionState} {op : SessionOp} {r : SessionOutcome}
    {live : DeepAttemptIdentity} (h : SessionMove digest s op r t) (hlive : t.deepAttempt = some live) :
    s.deepAttempt = some live ∨ live.phase = .knowledgeUnderstanding ∨
      live.attemptId = deepAttemptId s.nextDeepAttemptId := by
  cases h with
  | deepIssued hr hop hround h summary =>
      obtain rfl := Option.some.inj hlive
      exact Or.inr (Or.inr rfl)
  | retrievalEnded hop hbefore henter summary ids locked =>
      obtain rfl := Option.some.inj hlive
      exact Or.inr (Or.inl rfl)
  | answered hr horch hpending hkind hguard hcontinues =>
      cases hcontinues <;> exact Or.inl hlive
  | roundStarted hr first hfirst => cases first <;> cases hlive
  | _ =>
      first
      | exact Or.inl hlive
      | cases hlive

/-- After a step that supersedes, an ID that was issued before is not live. -/
theorem supersedes_drops {s : SessionState} {op : SessionOp} {id : String}
    (hissued : Issuer.Issued deepAttemptId (deepIssuer s) id)
    (h : supersedes (stepAt (sessionStep digest) s op) = true) :
    (deepIssuer (sessionStep digest op s).2).live ≠ some id := by
  intro hsame
  have hlive : (sessionStep digest op s).2.deepAttempt.map (·.attemptId) = some id := hsame
  unfold supersedes at h
  split at h
  · next hinput =>
      obtain rfl : op = .cancelDeepKnowledge := hinput
      cases hlive
  · next request snapshot hinput =>
      obtain rfl : op = .startGrillRound request snapshot := hinput
      cases hlive
  · next hinput =>
      obtain rfl : op = .reset := hinput
      cases hlive
  · rw [(fillsDeep_next h).1] at hlive
    rw [← Option.some.inj hlive] at hissued
    exact Issuer.not_issued_next deepAttemptId_injective (deepIssuer s) hissued

/-- The identity was issued, and if its attempt is still live it has left the retrieval phase that the
identity names. -/
def ResultSpent (s : SessionState) (identity : DeepAttemptIdentity) : Prop :=
  Issuer.Issued deepAttemptId (deepIssuer s) identity.attemptId ∧
    ∀ live, s.deepAttempt = some live → live.attemptId = identity.attemptId →
      identity.phase = .deepKnowledgeRetrieval ∧ live.phase = .knowledgeUnderstanding

theorem ResultSpent.later {s t : SessionState} {op : SessionOp} {r : SessionOutcome}
    {identity : DeepAttemptIdentity} (hs : ResultSpent s identity) (h : SessionMove digest s op r t) :
    ResultSpent t identity := by
  refine ⟨hs.1.later (move_deepLater h), fun live hlive hid => ?_⟩
  have hbefore : ∃ before, s.deepAttempt = some before ∧ before.attemptId = live.attemptId := by
    rcases Classical.em (∃ before, s.deepAttempt = some before ∧ before.attemptId = live.attemptId) with
      hyes | hno
    · exact hyes
    · have hspent : Issuer.Spent deepAttemptId (deepIssuer s) identity.attemptId :=
        ⟨hs.1, fun hsame => hno (by
          obtain ⟨before, hb, hi⟩ := Option.map_eq_some_iff.mp hsame
          exact ⟨before, hb, hi.trans hid.symm⟩)⟩
      have hgone := (hspent.later deepAttemptId_injective (move_deepLater h)).2
      exact absurd (hid ▸ deepIssuer_live hlive) hgone
  obtain ⟨before, hb, hi⟩ := hbefore
  have hphase := hs.2 before hb (hi.trans hid)
  refine ⟨hphase.1, ?_⟩
  rcases move_live h hlive with hsame | hku | hnew
  · obtain rfl := Option.some.inj (hb.symm.trans hsame)
    exact hphase.2
  · exact hku
  · have hissued := hs.1
    rw [← hid, hnew] at hissued
    exact absurd hissued (Issuer.not_issued_next deepAttemptId_injective (deepIssuer s))

/-- A deep result that is taken ends the attempt or moves it out of the retrieval phase. -/
theorem deepResult_taken {s t : SessionState} {identity : DeepAttemptIdentity} {result : DeepResult}
    {r : SessionOutcome} (h : SessionMove digest s (.handleDeepResult identity result) r t)
    (hr : r.taken = true) :
    t.deepAttempt = none ∨ (identity.phase = .deepKnowledgeRetrieval ∧
      t.deepAttempt = some { identity with phase := .knowledgeUnderstanding }) := by
  cases h with
  | refused hrefused => simp [hrefused] at hr
  | orchestratorCreated hnone => cases hr
  | discoveryCounted => cases hr
  | bookkept hbook hlive => cases hbook
  | entered hrefused => simp [hrefused] at hr
  | deepIssued hrefused => simp [hrefused] at hr
  | asked hrefused => simp [hrefused] at hr
  | retrievalEnded hret hlive henter summary ids locked =>
      cases result <;> simp [SessionOp.retrievalIdentity?] at hret
      exact Or.inr ⟨hret.1, by simp [hret.2]⟩
  | _ => exact Or.inl rfl

theorem contextBuild_taken {s t : SessionState} {identity : ContextBuildIdentity}
    {completion : ContextBuildCompletion} {r : SessionOutcome}
    (h : SessionMove digest s (.completeContextBuild identity completion) r t) (hr : r.taken = true) :
    s.contextBuildAttempt = some identity ∧ t.contextBuildAttempt = none := by
  cases h with
  | refused hrefused => simp [hrefused] at hr
  | orchestratorCreated hnone => cases hr
  | bookkept hbook hlive => cases hbook
  | entered hrefused => simp [hrefused] at hr
  | deepIssued hrefused => simp [hrefused] at hr
  | asked hrefused => simp [hrefused] at hr
  | retrievalEnded hret => cases hret
  | contextAmbiguityAsked hlive => exact ⟨hlive, rfl⟩
  | contextAccepted hlive => exact ⟨hlive, rfl⟩

/-- The operations that end an ADR attempt. -/
def SessionOp.adrIdentity? : SessionOp → Option AdrBuildIdentity
  | .requireAdrDecision identity _ => some identity
  | .finalizeAdrBuild identity _ => some identity
  | _ => none

theorem adrBuild_taken {s t : SessionState} {op : SessionOp} {identity : AdrBuildIdentity}
    {r : SessionOutcome} (h : SessionMove digest s op r t) (hop : op.adrIdentity? = some identity)
    (hr : r.taken = true) : s.adrBuildAttempt = some identity ∧ t.adrBuildAttempt = none := by
  cases h with
  | refused hrefused => simp [hrefused] at hr
  | orchestratorCreated hnone => cases hr
  | bookkept hbook hlive =>
      cases op <;> simp [SessionOp.bookkeepingIdentity?] at hbook <;> cases hop
  | entered hrefused => simp [hrefused] at hr
  | deepIssued hrefused => simp [hrefused] at hr
  | asked hrefused => simp [hrefused] at hr
  | retrievalEnded hret =>
      cases op <;> simp [SessionOp.retrievalIdentity?] at hret <;> cases hop
  | adrAmbiguityAsked hlive => exact ⟨Option.some.inj hop ▸ hlive, rfl⟩
  | adrFinalized hlive => exact ⟨Option.some.inj hop ▸ hlive, rfl⟩
  | _ => cases hop

/-! ### Runs -/

/-- What was issued is live or spent, in each slot. -/
structure IdentityInv (s : SessionState) : Prop where
  deep : DeepIssued s
  context : Issuer.LiveIssued contextBuildAttemptId (contextIssuer s)
  adr : Issuer.LiveIssued adrBuildAttemptId (adrIssuer s)

theorem init_identityInv : IdentityInv createForgeSessionState :=
  ⟨init_deepIssued, init_contextIssued, init_adrIssued⟩

theorem step_identityInv (s : SessionState) (op : SessionOp) (hs : IdentityInv s) (_ : True) :
    IdentityInv (sessionStep digest op s).2 := by
  have hmove := step_move digest s op
  exact ⟨hs.deep.later (move_deepLater hmove), hs.context.later (move_contextLater hmove),
    hs.adr.later (move_adrLater hmove)⟩

variable (digest) in
/-- The steps of a run of operations. -/
def sessionTrace (ops : List SessionOp) : List SessionStepRecord :=
  trace (sessionStep digest) createForgeSessionState ops

theorem unrestricted (ops : List SessionOp) :
    Admissible (sessionStep digest) (fun _ _ => True) createForgeSessionState ops :=
  admissible_of_forall (fun _ _ => trivial) _ ops

theorem mem_sessionTrace {ops : List SessionOp} {st : SessionStepRecord}
    (h : st ∈ sessionTrace digest ops) :
    IdentityInv st.before ∧ SessionMove digest st.before st.input st.output st.after := by
  obtain ⟨hinv, -, hst⟩ := holds_throughout step_identityInv init_identityInv (unrestricted ops) h
  rw [hst]
  exact ⟨hinv, step_move digest st.before st.input⟩

theorem issuedIds_nodup (ops : List SessionOp) : ((sessionTrace digest ops).flatMap issuedIds).Nodup := by
  have hone : (sessionTrace digest ops).flatMap issuedIds = (sessionTrace digest ops).filterMap issuedId := by
    rw [List.filterMap_eq_flatMap_toList]
    refine List.flatMap_congr fun st hst => ?_
    rw [(holds_throughout step_identityInv init_identityInv (unrestricted ops) hst).2.2]
    exact issuedIds_eq st.before st.input
  rw [hone]
  refine keys_nodup IssuedAny step_identityInv ?_ ?_ ?_ init_identityInv
    (unrestricted ops)
  · intro s op id _ _ hid
    exact (issuedIds_spec (List.mem_of_head? hid)).1
  · intro s op id _ _ hid
    exact (issuedIds_spec (List.mem_of_head? hid)).2
  · intro s op id _ _ hissued
    exact hissued.later (step_move digest s op)

theorem takenDeepResults_nodup (ops : List SessionOp) :
    ((sessionTrace digest ops).filterMap takenDeepResult).Nodup := by
  have hkey : ∀ {s : SessionState} {op : SessionOp} {identity : DeepAttemptIdentity},
      takenDeepResult (stepAt (sessionStep digest) s op) = some identity →
        ∃ result, op = .handleDeepResult identity result ∧ (sessionStep digest op s).1.taken = true := by
    intro s op identity h
    cases op with
    | handleDeepResult i result =>
        obtain ⟨htaken, hi⟩ := Option.ite_none_right_eq_some.mp h
        obtain rfl := Option.some.inj hi
        exact ⟨result, rfl, htaken⟩
    | _ => cases h
  refine keys_nodup ResultSpent step_identityInv ?_ ?_ ?_ init_identityInv
    (unrestricted ops)
  · intro s op identity _ _ h hspent
    obtain ⟨result, rfl, htaken⟩ := hkey h
    have hlive := takenDeepAttempt_live (step_move digest s _) rfl htaken
    have hphase := hspent.2 identity hlive rfl
    rw [hphase.1] at hphase
    exact absurd hphase.2 (by decide)
  · intro s op identity hs _ h
    obtain ⟨result, rfl, htaken⟩ := hkey h
    have hmove := step_move digest s (.handleDeepResult identity result)
    have hlive := takenDeepAttempt_live hmove rfl htaken
    refine ⟨(hs.deep _ (deepIssuer_live hlive)).later (move_deepLater hmove), fun live hafter hid => ?_⟩
    rcases deepResult_taken hmove htaken with hnone | ⟨hphase, hsome⟩
    · simp [hnone] at hafter
    · obtain rfl := Option.some.inj (hsome.symm.trans hafter)
      exact ⟨hphase, rfl⟩
  · intro s op identity _ _ hspent
    exact hspent.later (step_move digest s op)

theorem takenContextBuilds_nodup (ops : List SessionOp) :
    ((sessionTrace digest ops).filterMap takenContextBuild).Nodup := by
  have hkey : ∀ {s : SessionState} {op : SessionOp} {identity : ContextBuildIdentity},
      takenContextBuild (stepAt (sessionStep digest) s op) = some identity →
        s.contextBuildAttempt = some identity ∧
          (sessionStep digest op s).2.contextBuildAttempt = none := by
    intro s op identity h
    cases op with
    | completeContextBuild i completion =>
        obtain ⟨htaken, hi⟩ := Option.ite_none_right_eq_some.mp h
        obtain rfl := Option.some.inj hi
        exact contextBuild_taken (step_move digest s _) htaken
    | _ => cases h
  refine keys_nodup
    (fun s identity => Issuer.Spent contextBuildAttemptId (contextIssuer s) identity.attemptId)
    step_identityInv ?_ ?_ ?_ init_identityInv (unrestricted ops)
  · intro s op identity _ _ h hspent
    exact hspent.2 (by simp [contextIssuer, (hkey h).1])
  · intro s op identity hs _ h
    exact Issuer.spent_of_gone hs.context (by simp [contextIssuer, (hkey h).1])
      (move_contextLater (step_move digest s op)) (by simp [contextIssuer, (hkey h).2])
  · intro s op identity _ _ hspent
    exact hspent.later contextBuildAttemptId_injective (move_contextLater (step_move digest s op))

theorem takenAdrBuilds_nodup (ops : List SessionOp) :
    ((sessionTrace digest ops).filterMap takenAdrBuild).Nodup := by
  have hkey : ∀ {s : SessionState} {op : SessionOp} {identity : AdrBuildIdentity},
      takenAdrBuild (stepAt (sessionStep digest) s op) = some identity →
        s.adrBuildAttempt = some identity ∧ (sessionStep digest op s).2.adrBuildAttempt = none := by
    intro s op identity h
    cases op with
    | requireAdrDecision i ambiguity =>
        obtain ⟨htaken, hi⟩ := Option.ite_none_right_eq_some.mp h
        exact adrBuild_taken (step_move digest s _) hi htaken
    | finalizeAdrBuild i commit =>
        obtain ⟨htaken, hi⟩ := Option.ite_none_right_eq_some.mp h
        exact adrBuild_taken (step_move digest s _) hi htaken
    | _ => cases h
  refine keys_nodup
    (fun s identity => Issuer.Spent adrBuildAttemptId (adrIssuer s) identity.attemptId)
    step_identityInv ?_ ?_ ?_ init_identityInv (unrestricted ops)
  · intro s op identity _ _ h hspent
    exact hspent.2 (by simp [adrIssuer, (hkey h).1])
  · intro s op identity hs _ h
    exact Issuer.spent_of_gone hs.adr (by simp [adrIssuer, (hkey h).1])
      (move_adrLater (step_move digest s op)) (by simp [adrIssuer, (hkey h).2])
  · intro s op identity _ _ hspent
    exact hspent.later adrBuildAttemptId_injective (move_adrLater (step_move digest s op))

/-- **Superseded for ever.**  After a step that supersedes the live attempt, no call of any operation
with its ID is taken. -/
theorem superseded_never_taken (ops : List SessionOp) {pre post : List SessionStepRecord}
    {st : SessionStepRecord} (hsplit : sessionTrace digest ops = pre ++ st :: post)
    {identity : DeepAttemptIdentity} (hlive : st.before.deepAttempt = some identity)
    (hsupersedes : supersedes st = true) : identity.attemptId ∉ post.filterMap takenDeepAttempt := by
  have hkey : ∀ {s : SessionState} {op : SessionOp} {id : String},
      takenDeepAttempt (stepAt (sessionStep digest) s op) = some id →
        (deepIssuer s).live = some id := by
    intro s op id h
    obtain ⟨htaken, hid⟩ := Option.ite_none_right_eq_some.mp h
    obtain ⟨i, hi, rfl⟩ := Option.map_eq_some_iff.mp hid
    exact deepIssuer_live (takenDeepAttempt_live (step_move digest s op) hi htaken)
  have hmem : st ∈ sessionTrace digest ops := by
    rw [hsplit]
    exact List.mem_append_cons_self
  obtain ⟨hinv, hmove⟩ := mem_sessionTrace hmem
  have hdropped : (deepIssuer st.after).live ≠ some identity.attemptId := by
    have hst := eq_stepAt_of_mem hmem
    rw [hst] at hsupersedes ⊢
    exact supersedes_drops (hinv.deep _ (deepIssuer_live hlive)) hsupersedes
  exact never_again
    (fun s id => Issuer.Spent deepAttemptId (deepIssuer s) id) step_identityInv
    (fun s op id _ _ h hspent => hspent.2 (hkey h))
    (fun s op id _ _ hspent =>
      hspent.later deepAttemptId_injective (move_deepLater (step_move digest s op)))
    init_identityInv (unrestricted ops) hsplit
    (Issuer.spent_of_gone hinv.deep (deepIssuer_live hlive) (move_deepLater hmove) hdropped)

/-! ### The source of what is built -/

/-- **The invariant of sources.**  `last` is the attempt whose package was accepted last. -/
structure SourceInv (s : SessionState) (last : Option DeepAttemptIdentity) : Prop where
  context : ∀ attempt ∈ s.contextBuildAttempt,
    last.map (·.sourceRoundId) = some attempt.sourceRoundId
  adr : s.orchestrator = some .adrBuild → ∀ attempt ∈ s.adrBuildAttempt,
    last.map (·.sourceRoundId) = some attempt.sourceRoundId
  pending : ∀ D ∈ s.uiState.waitUser, D.kind = .contextAmbiguity ∨ D.kind = .adrAmbiguity →
    last.map (·.sourceRoundId) = some D.roundId

theorem init_sourceInv : SourceInv createForgeSessionState none := by
  constructor <;> simp [createForgeSessionState, createForgeUiState]

theorem SourceInv.frame {s t : SessionState} {last : Option DeepAttemptIdentity} (hs : SourceInv s last)
    (hcontext : ∀ attempt ∈ t.contextBuildAttempt, attempt ∈ s.contextBuildAttempt)
    (hadr : t.orchestrator = some .adrBuild →
      s.orchestrator = some .adrBuild ∧ ∀ attempt ∈ t.adrBuildAttempt, attempt ∈ s.adrBuildAttempt)
    (hpending : ∀ D ∈ t.uiState.waitUser, D.kind = .contextAmbiguity ∨ D.kind = .adrAmbiguity →
      D ∈ s.uiState.waitUser) : SourceInv t last where
  context attempt hattempt := hs.context attempt (hcontext attempt hattempt)
  adr hstage attempt hattempt := hs.adr (hadr hstage).1 attempt ((hadr hstage).2 attempt hattempt)
  pending D hD hkind := hs.pending D (hpending D hD hkind) hkind

/-- Only a package that is taken moves the source. -/
theorem lastPackage_eq {s t : SessionState} {op : SessionOp} {r : SessionOutcome}
    {last : Option DeepAttemptIdentity}
    (h : ∀ identity package, op = .handleDeepResult identity (.understandingCompleted package) →
      r.taken = false) : lastPackage last ⟨s, op, r, t⟩ = last := by
  unfold lastPackage
  simp only
  split
  · rename_i identity package
    exact if_neg (by simp [h identity package rfl])
  · rfl

theorem lastPackage_of_not_taken {s t : SessionState} {op : SessionOp} {r : SessionOutcome}
    {last : Option DeepAttemptIdentity} (hr : r.taken = false) :
    lastPackage last ⟨s, op, r, t⟩ = last :=
  lastPackage_eq fun _ _ _ => hr

theorem continues_sourceInv {s t : SessionState} {pending : WaitUserState} {answer : String}
    {last : Option DeepAttemptIdentity} (h : AnswerContinues digest s pending answer t)
    (hs : SourceInv s last) (hD : s.uiState.waitUser = some pending) : SourceInv t last := by
  cases h with
  | atCheckpoint hkind hround hid hdue =>
      refine hs.frame (fun _ h => h) (by simp) ?_
      simp [checkpointDecision]
  | inGrill hkind hdue => exact hs.frame (fun _ h => h) (by simp) (by simp [answeredUi])
  | confirmed hkind => exact hs.frame (fun _ h => h) (by simp) (by simp [answeredUi])
  | inContextBuild hkind =>
      refine ⟨?_, by simp, by simp [answeredUi]⟩
      rintro attempt ⟨⟩
      exact hs.pending pending hD (Or.inl hkind)
  | inAdrBuild hkind =>
      refine ⟨hs.context, ?_, by simp [answeredUi]⟩
      rintro - attempt ⟨⟩
      exact hs.pending pending hD (Or.inr hkind)

theorem move_sourceInv {s t : SessionState} {op : SessionOp} {r : SessionOutcome}
    {last : Option DeepAttemptIdentity} (h : SessionMove digest s op r t) (hs : SourceInv s last)
    (hcall : AsksGrillKinds op) : SourceInv t (lastPackage last ⟨s, op, r, t⟩) := by
  cases h with
  | refused hr => exact lastPackage_of_not_taken hr ▸ hs
  | packageAccepted hr hlive hphase hvalid horch =>
      simp only [lastPackage, hr, if_true]
      refine ⟨?_, by simp, by simp⟩
      rintro attempt ⟨⟩
      rfl
  | entered hr hop henter summary =>
      rw [lastPackage_of_not_taken hr]
      refine hs.frame (fun _ h => h) ?_ (fun _ h _ => h)
      intro hstage
      cases op <;> simp [SessionOp.entry?] at hop <;> subst hop <;> cases hstage
  | deepIssued hr hop hround h summary =>
      rw [lastPackage_of_not_taken hr]
      exact hs.frame (fun _ h => h) (by simp) (by simp)
  | asked hr hop hdecisionId hkey hdecision hround hroundId horch =>
      rw [lastPackage_of_not_taken hr]
      refine hs.frame (fun _ h => h) (by simp) ?_
      rcases question_kind hcall hop with hkind | hkind
      · simp [hkind]
      · simp [hkind]
  | retrievalEnded hop hlive henter summary ids locked =>
      rw [lastPackage_eq (by rintro identity package rfl; cases hop)]
      exact hs.frame (fun _ h => h) (by simp) (by simp)
  | bookkept hop hlive =>
      rw [lastPackage_eq (by rintro identity package rfl; cases hop)]
      exact hs.frame (fun _ h => h) (fun h => ⟨h, fun _ h => h⟩) (fun _ h _ => h)
  | orchestratorCreated hnone =>
      rw [lastPackage_of_not_taken rfl]
      exact hs.frame (fun _ h => h) (by simp) (fun _ h _ => h)
  | discoveryCounted =>
      refine hs.frame (fun _ h => h) ?_ (fun _ h _ => h)
      cases horch : s.orchestrator with
      | none => simp
      | some stage => simp
  | contextAmbiguityAsked hlive horch hpackage hvalid =>
      refine ⟨by simp, by simp, ?_⟩
      rintro D ⟨⟩ -
      exact hs.context _ hlive
  | contextAccepted hlive horch hpackage hvalid =>
      refine ⟨by simp, ?_, by simp⟩
      rintro - attempt ⟨⟩
      exact hs.context _ hlive
  | adrAmbiguityAsked hlive horch hpackage hvalid =>
      refine ⟨hs.context, by simp, ?_⟩
      rintro D ⟨⟩ -
      exact hs.adr horch _ hlive
  | answered hr horch hD hkind hguard hcontinues => exact continues_sourceInv hcontinues hs hD
  | wasReset hr =>
      refine ⟨?_, ?_, ?_⟩ <;> simp [createForgeSessionState, createForgeUiState]
  | rejected hr =>
      refine hs.frame (fun _ h => h) ?_ (by simp)
      by_cases horch : s.orchestrator = some .waitUser
      · simp [if_pos horch]
      · simp [if_neg horch]
  | roundStarted hr first hfirst =>
      cases first
      · exact hs.frame (fun _ h => h) (fun h => ⟨h, fun _ h => h⟩) (fun _ h _ => h)
      · exact hs.frame (by simp [forgetSnapshot]) (by simp [forgetSnapshot]) (fun _ h _ => h)
  | confirmed => exact hs.frame (fun _ h => h) (by simp) (by simp)
  | deepDecisionAsked => exact hs.frame (fun _ h => h) (by simp) (by simp [deepDecision])
  | fallbackAsked => exact hs.frame (fun _ h => h) (by simp) (by simp [fallbackDecision])
  | rediscovered => exact hs.frame (fun _ h => h) (by simp) (by simp)
  | adrFinalized => exact hs.frame (fun _ h => h) (by simp) (by simp)
  | checkpointAnswered => exact hs.frame (fun _ h => h) (by simp) (by simp)
  | deepCancelled => exact hs.frame (fun _ h => h) (by simp) (by simp)
  | _ => exact hs.frame (fun _ h => h) (fun h => ⟨h, fun _ h => h⟩) (fun _ h _ => h)

theorem adr_issued_stage {s t : SessionState} {op : SessionOp} {r : SessionOutcome}
    (h : SessionMove digest s op r t) (hnext : t.nextAdrBuildAttemptId ≠ s.nextAdrBuildAttemptId) :
    t.orchestrator = some .adrBuild := by
  cases h with
  | contextAccepted => rfl
  | answered hr horch hD hkind hguard hcontinues =>
      cases hcontinues with
      | inAdrBuild => rfl
      | _ => exact absurd rfl hnext
  | roundStarted hr first hfirst => cases first <;> exact absurd rfl hnext
  | _ => exact absurd rfl hnext

theorem issuedSources_spec {s t : SessionState} {op : SessionOp} {r : SessionOutcome}
    {last : Option DeepAttemptIdentity} {source : String} (h : SessionMove digest s op r t)
    (hs : SourceInv s last) (hcall : AsksGrillKinds op) (hsource : source ∈ issuedSources ⟨s, op, r, t⟩) :
    (lastPackage last ⟨s, op, r, t⟩).map (·.sourceRoundId) = some source := by
  have hafter := move_sourceInv h hs hcall
  rcases List.mem_append.mp hsource with hcontext | hadr
  · obtain ⟨attempt, hattempt, rfl⟩ := List.mem_map.mp hcontext
    exact hafter.context attempt (newContextBuild_counted h (Option.mem_toList.mp hattempt)).2
  · obtain ⟨attempt, hattempt, rfl⟩ := List.mem_map.mp hadr
    obtain ⟨hnext, hslot⟩ := newAdrBuild_counted h (Option.mem_toList.mp hattempt)
    exact hafter.adr (adr_issued_stage h hnext) attempt hslot

/-- The five facts about the identities of a run. -/
structure IdentitiesSingleUse (digest : String → String) (ops : List SessionOp) : Prop where
  issued : ((sessionTrace digest ops).flatMap issuedIds).Nodup
  deepResults : ((sessionTrace digest ops).filterMap takenDeepResult).Nodup
  contextBuilds : ((sessionTrace digest ops).filterMap takenContextBuild).Nodup
  adrBuilds : ((sessionTrace digest ops).filterMap takenAdrBuild).Nodup
  superseded : ∀ pre post st identity, sessionTrace digest ops = pre ++ st :: post →
    st.before.deepAttempt = some identity → supersedes st = true →
    identity.attemptId ∉ post.filterMap takenDeepAttempt
  sources : (∀ op ∈ ops, AsksGrillKinds op) → ∀ pre post st, sessionTrace digest ops = pre ++ st :: post →
    ∀ source ∈ issuedSources st, (lastPackage (pre.foldl lastPackage none) st).map (·.sourceRoundId) = some source

/-- **Identities are single-use.**  For every run of operations, with any arguments. -/
theorem identities_single_use (digest : String → String) (ops : List SessionOp) :
    IdentitiesSingleUse digest ops where
  issued := issuedIds_nodup ops
  deepResults := takenDeepResults_nodup ops
  contextBuilds := takenContextBuilds_nodup ops
  adrBuilds := takenAdrBuilds_nodup ops
  superseded _ _ _ _ hsplit hlive hsupersedes := superseded_never_taken ops hsplit hlive hsupersedes
  sources hcalls pre post st hsplit source hsource := by
    have hadmissible : Admissible (sessionStep digest) (fun _ op => AsksGrillKinds op)
        createForgeSessionState ops := admissible_of_mem hcalls createForgeSessionState
    obtain ⟨hinv, hcall, hst⟩ := history_holds lastPackage
      (fun s op _ hs hop => move_sourceInv (step_move digest s op) hs hop) init_sourceInv hadmissible
      hsplit
    have hmove : SessionMove digest st.before st.input st.output st.after := by
      rw [hst]
      exact step_move digest st.before st.input
    exact issuedSources_spec hmove hinv hcall hsource

/-- A package, an ambiguity and a glossary are accepted; after a reset the old result comes again. -/
def lateAfterReset : List SessionOp :=
  answerAmbiguity ++
    [.completeContextBuild ⟨"context-2", "grill-1"⟩ (.completed ⟨[⟨"term", "definition", ["e"]⟩]⟩), .reset,
      .startGrillRound "request" (emptySnapshot 0), .beginDeepKnowledge none .knowledgeUnderstanding,
      .handleDeepResult firstDeepAttempt (.understandingCompleted samplePackage)]

theorem identities_single_use_lateAfterReset :
    (sessionTrace id lateAfterReset).flatMap issuedIds =
        ["grill-1", "deep-1", "context-1", "context-2", "adr-1", "grill-2", "deep-2"] ∧
      (sessionTrace id lateAfterReset).filterMap takenDeepResult = [firstDeepAttempt] ∧
      (sessionTrace id lateAfterReset).flatMap issuedSources = ["grill-1", "grill-1", "grill-1"] ∧
      IdentitiesSingleUse id lateAfterReset :=
  ⟨by decide, by decide, by decide, identities_single_use id lateAfterReset⟩

end ForgeRuntime
