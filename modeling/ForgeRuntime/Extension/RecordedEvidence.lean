import ForgeRuntime.Extension.EvidenceSize
import ForgeRuntime.Extension.SearchedFiles
import ForgeRuntime.Runtime.SearchBudget

/-!
# The recording of evidence

An ID is made of the content with its line endings brought to one form, and a conflict is judged on the content
as it was read.  So a file that is read again after its line endings have changed has its ID and is refused, when
the call has already noted the fetch, or counted the search.

* `forgeGrillEvidence_admitted` — what a fetch that passes its checks comes to;
* `recordSearchEvidence_run` — what the loop over the items of a search comes to;
* `evidence_recorded_whole_iff` — when a call records all of its evidence or leaves everything as it was;
* `fetch_conflicts_with_itself` — a run in which a fetch is refused for its line endings.
-/

namespace ForgeRuntime

open EventDriven EventDriven.Machine EventDriven.Text EventDriven.Turn

variable {host : Host} {files : Files}

/-! ### What a call records -/

/-- The searches that are counted for the current round. -/
def SessionState.committedSearches (s : SessionState) : Nat :=
  if s.deepSearchBudgetRoundId = s.currentGrillRound.map (·.roundId) then s.deepSearchCount else 0

/-- The IDs that are fetched, the supplemental evidence, the two stores and the counted searches. -/
structure EvidenceRecords where
  fetchedEvidenceIds : OrderedSet String
  deepSupplementalEvidenceIds : OrderedSet String
  deepSupplementalEvidence : OrderedMap String EvidenceInput
  fetchedGrillEvidence : OrderedMap String EvidenceInput
  fetchedDeepSupplementalEvidence : OrderedMap String EvidenceInput
  committedSearches : Nat
deriving DecidableEq

def ExtensionState.evidenceRecords (s : ExtensionState) : EvidenceRecords :=
  { fetchedEvidenceIds := s.session.fetchedEvidenceIds
    deepSupplementalEvidenceIds := s.session.deepSupplementalEvidenceIds
    deepSupplementalEvidence := s.session.deepSupplementalEvidence
    fetchedGrillEvidence := s.fetchedGrillEvidence
    fetchedDeepSupplementalEvidence := s.fetchedDeepSupplementalEvidence
    committedSearches := s.session.committedSearches }

def evidenceIdConflict : String := "evidence_id_content_conflict"

/-- The run meets no conflict, and when it throws it leaves the records as they were. -/
def RecordsWhole {α : Type} (s : ExtensionState) (run : Except String α × ExtensionState) : Prop :=
  run.1 ≠ .error evidenceIdConflict ∧
    ∀ error, run.1 = .error error → run.2.evidenceRecords = s.evidenceRecords

theorem recordsWhole_ok {α : Type} {s : ExtensionState} {run : Except String α × ExtensionState} {a : α}
    (h : run.1 = .ok a) : RecordsWhole s run := by
  constructor
  · rw [h]
    nofun
  · intro error herror
    rw [h] at herror
    cases herror

theorem recordsWhole_error {α : Type} {s : ExtensionState} {run : Except String α × ExtensionState} {error : String}
    (h : run.1 = .error error) (herror : error ≠ evidenceIdConflict)
    (hrecords : run.2.evidenceRecords = s.evidenceRecords) : RecordsWhole s run := by
  constructor
  · rw [h]
    exact fun hsame => herror (Except.error.inj hsame)
  · exact fun _ _ => hrecords

/-- The store has no other content under the ID of the item. -/
def AgreesWith (store : OrderedMap String EvidenceInput) (item : EvidenceInput) : Prop :=
  ∀ kept ∈ store.get? item.evidenceId, kept.content = item.content

instance (store : OrderedMap String EvidenceInput) (item : EvidenceInput) : Decidable (AgreesWith store item) :=
  inferInstanceAs (Decidable (∀ kept ∈ store.get? item.evidenceId, _))

/-- The store with the item, unless its ID is held. -/
def storedIn (store : OrderedMap String EvidenceInput) (item : EvidenceInput) : OrderedMap String EvidenceInput :=
  if item.evidenceId ∈ store then store else store.insert item.evidenceId item

theorem rememberedIn_agrees {store : OrderedMap String EvidenceInput} {item : EvidenceInput}
    (h : AgreesWith store item) : Extension.rememberedIn store item = .ok (storedIn store item) := by
  unfold Extension.rememberedIn storedIn
  cases hget : store.get? item.evidenceId with
  | none => rw [if_neg (OrderedMap.get?_eq_none_iff.mp hget)]
  | some kept =>
      have hin : item.evidenceId ∈ store := by
        by_contra hout
        rw [OrderedMap.get?_eq_none_iff.mpr hout] at hget
        cases hget
      simp only [h kept hget, ne_eq, not_true_eq_false, if_false, if_pos hin]

theorem rememberedIn_conflict {store : OrderedMap String EvidenceInput} {item : EvidenceInput}
    (h : ¬ AgreesWith store item) : Extension.rememberedIn store item = .error evidenceIdConflict := by
  unfold Extension.rememberedIn
  cases hget : store.get? item.evidenceId with
  | none => exact absurd (fun kept hkept => by rw [hget] at hkept; cases hkept) h
  | some kept =>
      have hcontent : kept.content ≠ item.content := by
        intro hsame
        refine h fun other hother => ?_
        rw [hget] at hother
        rw [← Option.some.inj hother]
        exact hsame
      simp only [hcontent, ne_eq, not_false_eq_true, if_true]
      rfl

/-- After an item that the store agrees with, it agrees with those that agree with this one. -/
theorem agreesWith_stored {store : OrderedMap String EvidenceInput} {item other : EvidenceInput}
    (h : AgreesWith store item) : AgreesWith (storedIn store item) other ↔
      AgreesWith store other ∧ (item.evidenceId = other.evidenceId → item.content = other.content) := by
  unfold storedIn
  split
  case isTrue hin =>
    refine (and_iff_left_of_imp fun hother hsame => ?_).symm
    obtain ⟨kept, hkept⟩ : ∃ kept, store.get? item.evidenceId = some kept := by
      refine Option.ne_none_iff_exists'.mp fun hnone => ?_
      exact OrderedMap.get?_eq_none_iff.mp hnone hin
    rw [← h kept hkept]
    exact hother kept (hsame ▸ hkept)
  case isFalse hout =>
    unfold AgreesWith
    rw [OrderedMap.get?_insert]
    by_cases hsame : other.evidenceId = item.evidenceId
    · have hnone : store.get? other.evidenceId = none := OrderedMap.get?_eq_none_iff.mpr (hsame ▸ hout)
      rw [if_pos hsame, hnone]
      simp [hsame.symm]
    · rw [if_neg hsame]
      exact (and_iff_left fun hsame' => absurd hsame'.symm hsame).symm

/-! ### A fetch -/

namespace Session

/-- A question of a Deep step that cannot be asked is an illegal transition, and nothing else is written. -/
theorem handleNeedsDecision_throws {identity : DeepAttemptIdentity} {decision : DeepNeedsDecisionResult}
    {s t : SessionState} {error : String}
    (hrun : handleDeepResult identity (.needsDecision decision) s = (.error error, t)) :
    (∃ stage, error = WorkflowStage.invalidTransition stage .waitUser) ∧
      t = { s with orchestrator := some (s.orchestrator.getD .receive) } := by
  have hquestion : handleDeepResult identity (.needsDecision decision) = handleNeedsDecision identity decision := rfl
  rw [hquestion] at hrun
  simp only [handleNeedsDecision, Turn.get_bind_apply, Turn.ite_apply_state, Turn.pure_apply,
    ensureOrchestrator_bind_apply, transitionTo_bind_apply, setUi_bind_apply,
    Turn.modify_bind_apply] at hrun
  by_cases hlive : s.deepAttempt = some identity
  · rw [if_neg (not_not.mpr hlive)] at hrun
    by_cases hmove : (s.orchestrator.getD .receive).CanTransitionTo .waitUser
    · rw [if_pos hmove] at hrun
      have herror := congrArg Prod.fst hrun
      cases herror
    · rw [if_neg hmove] at hrun
      have herror := congrArg Prod.fst hrun
      have hstate := congrArg Prod.snd hrun
      exact ⟨⟨_, (Except.error.inj herror).symm⟩, hstate.symm⟩
  · rw [if_pos hlive] at hrun
    have herror := congrArg Prod.fst hrun
    cases herror

end Session

namespace Extension

/-- A fetch that passes its checks returns unless the store has other content under the ID. -/
theorem forgeGrillEvidence_admitted {s : ExtensionState} {candidateId : String} {candidate : GrillEvidenceCandidate}
    (hround : s.session.currentGrillRound ≠ none) (h : admittedCandidate? s candidateId = some candidate) :
    ∃ reply, (forgeGrillEvidence candidateId s).1 =
      (rememberedIn s.fetchedGrillEvidence (candidateEvidence candidate)).map fun _ => reply := by
  unfold admittedCandidate? at h
  split at h
  case isFalse => cases h
  case isTrue hactive =>
    obtain ⟨workflow, hworkflow, hcandidate⟩ := Option.bind_eq_some_iff.mp h
    obtain ⟨hget, hchecks⟩ := Option.filter_eq_some_iff.mp hcandidate
    simp only [Bool.and_eq_true, decide_eq_true_eq, Option.isNone_iff_eq_none] at hchecks
    obtain ⟨⟨hrejection, hsize⟩, hbytes⟩ := hchecks
    have hrun : sessionState.recordEvidenceFetch candidate.candidateId s =
        (.ok (), { s with
          session := { s.session with fetchedEvidenceIds := s.session.fetchedEvidenceIds.add candidate.candidateId }
          calls := s.calls ++ [.recordEvidenceFetch candidate.candidateId] }) := by
      simp [sessionState.recordEvidenceFetch, call, Session.recordEvidenceFetch, hround]
    simp only [forgeGrillEvidence, get_bind_apply, if_neg (not_not.mpr hactive), hworkflow, hget, hrejection,
      ite_apply_state, if_neg (Nat.not_lt.mpr hsize), if_neg (Nat.not_lt.mpr hbytes), bind_eq_ok hrun]
    cases rememberedIn s.fetchedGrillEvidence (candidateEvidence candidate) with
    | error error => exact ⟨.block, rfl⟩
    | ok store => exact ⟨_, rfl⟩

/-- Any other fetch records nothing. -/
theorem forgeGrillEvidence_refused {s : ExtensionState} {candidateId : String}
    (h : admittedCandidate? s candidateId = none) : RecordsWhole s (forgeGrillEvidence candidateId s) := by
  have hunknown : ("GRILL_EVIDENCE_CANDIDATE_NOT_FOUND" : String) ≠ evidenceIdConflict := by decide
  unfold admittedCandidate? at h
  by_cases hactive : HasActiveGrillAttempt s
  · rw [if_pos hactive] at h
    cases hworkflow : s.activeWorkflow with
    | none =>
        simp only [forgeGrillEvidence, get_bind_apply, if_neg (not_not.mpr hactive), hworkflow]
        exact recordsWhole_error rfl hunknown rfl
    | some workflow =>
        rw [hworkflow, Option.bind_some] at h
        cases hget : workflow.snapshot.candidates.get? candidateId with
        | none =>
            simp only [forgeGrillEvidence, get_bind_apply, if_neg (not_not.mpr hactive), hworkflow, hget]
            exact recordsWhole_error rfl hunknown rfl
        | some candidate =>
            have hchecks := Option.filter_eq_none_iff.mp (hget ▸ h) candidate rfl
            simp only [forgeGrillEvidence, get_bind_apply, if_neg (not_not.mpr hactive), hworkflow, hget]
            cases hrejection : evidenceTooLargeRejection? candidate.metadata with
            | some rejection => exact recordsWhole_ok rfl
            | none =>
                by_cases hsize : candidate.content.utf8ByteSize > deepEvidenceMaxBytes
                · simp only [ite_apply_state, if_pos hsize]
                  exact recordsWhole_ok rfl
                · by_cases hbytes : getDeepEvidenceContentBytes
                      ((fetchedCandidates s.session workflow.snapshot ++ [candidate]).map candidateEvidence) >
                        deepEvidenceRoundMaxBytes
                  · simp only [ite_apply_state, if_neg hsize, if_pos hbytes]
                    exact recordsWhole_ok rfl
                  · refine absurd ?_ hchecks
                    rw [hrejection]
                    simp only [Option.isNone_none, Bool.true_and, Bool.and_eq_true, decide_eq_true_eq]
                    exact ⟨Nat.le_of_not_gt hsize, Nat.le_of_not_gt hbytes⟩
  · simp only [forgeGrillEvidence, get_bind_apply, if_pos hactive]
    exact recordsWhole_ok rfl

/-- **A fetch** records the candidate or leaves everything as it was, exactly when the store has no other content
under its ID. -/
theorem forgeGrillEvidence_whole_iff {s : ExtensionState} (hround : s.activeWorkflow ≠ none →
    s.session.currentGrillRound ≠ none) (candidateId : String) :
    RecordsWhole s (forgeGrillEvidence candidateId s) ↔
      ∀ candidate ∈ admittedCandidate? s candidateId,
        AgreesWith s.fetchedGrillEvidence (candidateEvidence candidate) := by
  cases hadmitted : admittedCandidate? s candidateId with
  | none => exact iff_of_true (forgeGrillEvidence_refused hadmitted) nofun
  | some candidate =>
      obtain ⟨workflow, hworkflow, -⟩ := admittedCandidate?_eq_some hadmitted
      have hlive : s.session.currentGrillRound ≠ none := hround (by rw [hworkflow]; nofun)
      obtain ⟨reply, hreply⟩ := forgeGrillEvidence_admitted hlive hadmitted
      have hone : (∀ other ∈ some candidate, AgreesWith s.fetchedGrillEvidence (candidateEvidence other)) ↔
          AgreesWith s.fetchedGrillEvidence (candidateEvidence candidate) := by simp
      rw [hone]
      constructor
      · intro hwhole
        by_contra hconflict
        rw [rememberedIn_conflict hconflict] at hreply
        exact hwhole.1 hreply
      · intro hagrees
        rw [rememberedIn_agrees hagrees] at hreply
        exact recordsWhole_ok hreply

/-! ### The loop over the items of a search -/

/-- The two stores of the searches agree with the items, and these with one another. -/
def StoresAgree (s : ExtensionState) (items : List EvidenceInput) : Prop :=
  (∀ item ∈ items, AgreesWith s.session.deepSupplementalEvidence item ∧
      AgreesWith s.fetchedDeepSupplementalEvidence item) ∧
    items.Pairwise fun a b => a.evidenceId = b.evidenceId → a.content = b.content

instance (s : ExtensionState) (items : List EvidenceInput) : Decidable (StoresAgree s items) :=
  inferInstanceAs (Decidable (_ ∧ _))

/-- The state in which the loop goes on after an item. -/
def afterItem (s : ExtensionState) (identity : DeepAttemptIdentity) (item : EvidenceInput) : ExtensionState :=
  { s with
    session := (Session.recordDeepSupplementalEvidence identity item.evidenceId (some item) s.session).2
    calls := s.calls ++ [.recordDeepSupplementalEvidence identity item.evidenceId (some item)]
    fetchedDeepSupplementalEvidence := storedIn s.fetchedDeepSupplementalEvidence item }

theorem recordDeepSupplementalEvidence_agrees {identity : DeepAttemptIdentity} {s : SessionState}
    {item : EvidenceInput} (hlive : s.deepAttempt = some identity)
    (h : AgreesWith s.deepSupplementalEvidence item) :
    (Session.recordDeepSupplementalEvidence identity item.evidenceId (some item) s).1 = .ok (.accepted s.uiState identity) ∧
      (Session.recordDeepSupplementalEvidence identity item.evidenceId (some item) s).2.deepAttempt = some identity ∧
      (Session.recordDeepSupplementalEvidence identity item.evidenceId (some item) s).2.deepSupplementalEvidence =
        storedIn s.deepSupplementalEvidence item := by
  unfold storedIn
  cases hheld : s.deepSupplementalEvidence.get? item.evidenceId with
  | none =>
      rw [if_neg (OrderedMap.get?_eq_none_iff.mp hheld)]
      simp [Session.recordDeepSupplementalEvidence, hlive, hheld]
  | some existing =>
      have hin : item.evidenceId ∈ s.deepSupplementalEvidence := by
        by_contra hout
        rw [OrderedMap.get?_eq_none_iff.mpr hout] at hheld
        cases hheld
      rw [if_pos hin]
      simp [Session.recordDeepSupplementalEvidence, hlive, hheld, h existing hheld]

/-- The loop goes on after an item that both stores agree with. -/
theorem recordSearchEvidence_cons {identity : DeepAttemptIdentity} {s : ExtensionState} {item : EvidenceInput}
    (rest : List EvidenceInput) (hlive : s.session.deepAttempt = some identity)
    (hsession : AgreesWith s.session.deepSupplementalEvidence item)
    (hstore : AgreesWith s.fetchedDeepSupplementalEvidence item) :
    recordSearchEvidence identity (item :: rest) s = recordSearchEvidence identity rest (afterItem s identity item) := by
  have haccepts := (recordDeepSupplementalEvidence_agrees hlive hsession).1
  have hrun : sessionState.recordDeepSupplementalEvidence identity item s =
      (.ok (.accepted s.session.uiState identity), { s with
        session := (Session.recordDeepSupplementalEvidence identity item.evidenceId (some item) s.session).2
        calls := s.calls ++ [.recordDeepSupplementalEvidence identity item.evidenceId (some item)] }) := by
    show call _ _ s = _
    rw [call, haccepts]
  rw [recordSearchEvidence, bind_eq_ok hrun]
  simp only [get_bind_apply, rememberedIn_agrees hstore, modify_bind_apply]
  rfl

/-- The loop stops at an item that one of the stores does not agree with. -/
theorem recordSearchEvidence_stops {identity : DeepAttemptIdentity} {s : ExtensionState} {item : EvidenceInput}
    (rest : List EvidenceInput) (hlive : s.session.deepAttempt = some identity)
    (h : ¬ (AgreesWith s.session.deepSupplementalEvidence item ∧
      AgreesWith s.fetchedDeepSupplementalEvidence item)) :
    (recordSearchEvidence identity (item :: rest) s).1 = .error evidenceIdConflict := by
  rw [recordSearchEvidence]
  by_cases hsession : AgreesWith s.session.deepSupplementalEvidence item
  · have haccepts := (recordDeepSupplementalEvidence_agrees hlive hsession).1
    have hrun : sessionState.recordDeepSupplementalEvidence identity item s =
        (.ok (.accepted s.session.uiState identity), { s with
          session := (Session.recordDeepSupplementalEvidence identity item.evidenceId (some item) s.session).2
          calls := s.calls ++ [.recordDeepSupplementalEvidence identity item.evidenceId (some item)] }) := by
      show call _ _ s = _
      rw [call, haccepts]
    have hconflict := rememberedIn_conflict fun hstore => h ⟨hsession, hstore⟩
    rw [bind_eq_ok hrun]
    simp only [get_bind_apply, hconflict]
    rfl
  · have hthrows : (Session.recordDeepSupplementalEvidence identity item.evidenceId (some item) s.session).1 =
        .error evidenceIdConflict := by
      cases hheld : s.session.deepSupplementalEvidence.get? item.evidenceId with
      | none => exact absurd (fun kept hkept => by rw [hheld] at hkept; cases hkept) hsession
      | some existing =>
          have hcontent : item.content ≠ existing.content := by
            intro hsame
            refine hsession fun kept hkept => ?_
            rw [hheld] at hkept
            rw [← Option.some.inj hkept]
            exact hsame.symm
          simp [Session.recordDeepSupplementalEvidence, hlive, hheld, hcontent, evidenceIdConflict]
    have hrun : (sessionState.recordDeepSupplementalEvidence identity item s).1 = .error evidenceIdConflict := hthrows
    rcases hout : sessionState.recordDeepSupplementalEvidence identity item s with ⟨error | result, t⟩
    · rw [hout] at hrun
      rw [bind_eq_error hout, Except.error.inj hrun]
    · rw [hout] at hrun
      cases hrun

/-- **The loop** goes through, exactly when the stores agree with the items. -/
theorem recordSearchEvidence_run {identity : DeepAttemptIdentity} (items : List EvidenceInput) {s : ExtensionState}
    (hlive : s.session.deepAttempt = some identity) :
    (StoresAgree s items ∧ (recordSearchEvidence identity items s).1 = .ok ()) ∨
      (¬ StoresAgree s items ∧ (recordSearchEvidence identity items s).1 = .error evidenceIdConflict) := by
  induction items generalizing s with
  | nil => exact .inl ⟨⟨nofun, .nil⟩, rfl⟩
  | cons item rest ih =>
      by_cases hagrees : AgreesWith s.session.deepSupplementalEvidence item ∧
          AgreesWith s.fetchedDeepSupplementalEvidence item
      · obtain ⟨-, hlive', hstored⟩ := recordDeepSupplementalEvidence_agrees hlive hagrees.1
        have hafter : StoresAgree (afterItem s identity item) rest ↔ StoresAgree s (item :: rest) := by
          unfold StoresAgree
          rw [List.pairwise_cons, List.forall_mem_cons]
          show (∀ other ∈ rest, AgreesWith (Session.recordDeepSupplementalEvidence identity item.evidenceId (some item)
              s.session).2.deepSupplementalEvidence other ∧
              AgreesWith (storedIn s.fetchedDeepSupplementalEvidence item) other) ∧ _ ↔ _
          rw [hstored]
          simp only [agreesWith_stored hagrees.1, agreesWith_stored hagrees.2]
          constructor
          · rintro ⟨hrest, hpairs⟩
            exact ⟨⟨hagrees, fun other hother => ⟨(hrest other hother).1.1, (hrest other hother).2.1⟩⟩,
              fun other hother => (hrest other hother).1.2, hpairs⟩
          · rintro ⟨⟨-, hrest⟩, hfirst, hpairs⟩
            exact ⟨fun other hother => ⟨⟨(hrest other hother).1, hfirst other hother⟩, (hrest other hother).2,
              hfirst other hother⟩, hpairs⟩
        rw [recordSearchEvidence_cons rest hlive hagrees.1 hagrees.2, ← hafter]
        exact ih hlive'
      · refine .inr ⟨fun hall => hagrees (hall.1 item List.mem_cons_self), ?_⟩
        exact recordSearchEvidence_stops rest hlive hagrees

/-! ### The budget of a search -/

theorem call_of_run {α : Type} {op : SessionOp} {run : Session α} {s : ExtensionState} {r : Except String α}
    {session : SessionState} (h : run s.session = (r, session)) :
    call op run s = (r, { s with session := session, calls := s.calls ++ [op] }) := by
  rw [call, h]

/-- Giving back a reservation leaves the records. -/
theorem release_run (identity : DeepAttemptIdentity) (t : ExtensionState) :
    ∃ answer u, sessionState.releaseDeepSearchBudget identity t = (.ok answer, u) ∧
      u.evidenceRecords = t.evidenceRecords := by
  have hrun := Session.releaseDeepSearchBudget_apply identity t.session
  by_cases hstale : Session.budgetIsStale t.session identity
  · rw [if_pos hstale] at hrun
    exact ⟨_, _, call_of_run hrun, rfl⟩
  · rw [if_neg hstale] at hrun
    exact ⟨_, _, call_of_run hrun, rfl⟩

/-- A commit for the live attempt leaves the attempt and the stores of the searches. -/
theorem commit_run {identity : DeepAttemptIdentity} {t : ExtensionState}
    (h : ¬ Session.budgetIsStale t.session identity) :
    ∃ u, sessionState.commitDeepSearchBudget identity t = (.ok .accepted, u) ∧
      u.session.deepAttempt = t.session.deepAttempt ∧
      u.session.deepSupplementalEvidence = t.session.deepSupplementalEvidence ∧
      u.fetchedDeepSupplementalEvidence = t.fetchedDeepSupplementalEvidence := by
  have hrun := Session.commitDeepSearchBudget_apply identity t.session
  rw [if_neg h] at hrun
  by_cases hheld : t.session.outstanding identity > 0
  · rw [if_pos hheld] at hrun
    exact ⟨_, call_of_run hrun, rfl, rfl, rfl⟩
  · rw [if_neg hheld] at hrun
    exact ⟨_, call_of_run hrun, rfl, rfl, rfl⟩

/-- The searches that are counted for the round stay, whether the budget has served it before or not. -/
theorem servesRound_committedSearches {identity : DeepAttemptIdentity} {s : SessionState}
    (h : ¬ Session.budgetIsStale s identity) :
    (Session.servesRound identity s).committedSearches = s.committedSearches := by
  have hround : s.currentGrillRound.map (·.roundId) = some identity.sourceRoundId := by
    by_contra hother
    exact h (.inr hother)
  unfold Session.servesRound
  split
  case isTrue => rfl
  case isFalse hother =>
    simp only [SessionState.committedSearches, hround, if_true, if_neg hother]

/-- A reservation is refused, or it leaves the records and the budget serves the round. -/
theorem reserve_run (identity : DeepAttemptIdentity) (t : ExtensionState) :
    ∃ answer u, sessionState.reserveDeepSearchBudget identity t = (.ok answer, u) ∧
      (Session.reserveDeepSearchBudget identity t.session).1 = .ok answer ∧
      (answer = .stale ∨ answer = .limit ∨ answer = .reserved ∧ u.evidenceRecords = t.evidenceRecords ∧
        ¬ Session.budgetIsStale u.session identity) := by
  have hrun := Session.reserveDeepSearchBudget_apply identity t.session
  by_cases hstale : Session.budgetIsStale t.session identity
  · rw [if_pos hstale] at hrun
    exact ⟨_, _, call_of_run hrun, by rw [hrun], .inl rfl⟩
  rw [if_neg hstale] at hrun
  split at hrun
  case isTrue => exact ⟨_, _, call_of_run hrun, by rw [hrun], .inr (.inl rfl)⟩
  case isFalse =>
    refine ⟨_, _, call_of_run hrun, by rw [hrun], .inr (.inr ⟨rfl, ?_, ?_⟩)⟩
    · have hcount : (Session.reserved identity (Session.servesRound identity t.session)).committedSearches =
          t.session.committedSearches := servesRound_committedSearches hstale
      have honly := Session.reserveDeepSearchBudget_only identity t.session
      rw [hrun] at honly
      obtain ⟨budgetRound, count, reservations, hsession⟩ := honly
      unfold ExtensionState.evidenceRecords
      rw [hcount]
      rw [show Session.reserved identity (Session.servesRound identity t.session) = _ from hsession]
    · intro hstale'
      refine hstale ?_
      unfold Session.budgetIsStale Session.reserved Session.servesRound at hstale'
      split at hstale'
      · exact hstale'
      · exact hstale'

/-! ### A search -/

/-- The search, with a place in the budget, records its items or leaves everything as it was. -/
theorem searchWithBudget_whole_iff {s t : ExtensionState} {identity : DeepAttemptIdentity}
    {workflow : ActiveWorkflowContext} {found : Except String (List EvidenceInput)}
    (hrecords : t.evidenceRecords = s.evidenceRecords) (hbudget : ¬ Session.budgetIsStale t.session identity)
    (hfound : found ≠ .error evidenceIdConflict) :
    RecordsWhole s (searchWithBudget identity found (fetchedCandidates s.session workflow.snapshot) t) ↔
      ∀ evidence, found = .ok evidence →
        ItemsFit s workflow (evidence.filter fun item =>
          (reusedCandidate? (fetchedCandidates s.session workflow.snapshot) item).isNone) →
        StoresAgree s (evidence.filter fun item =>
          (reusedCandidate? (fetchedCandidates s.session workflow.snapshot) item).isNone) := by
  obtain ⟨answer, released, hrelease, hreleased⟩ := release_run identity t
  unfold searchWithBudget
  cases found with
  | error error =>
      refine iff_of_true ?_ nofun
      dsimp only
      rw [bind_eq_ok hrelease]
      exact recordsWhole_error rfl (fun hsame => hfound (congrArg Except.error hsame)) (hreleased.trans hrecords)
  | ok evidence =>
      generalize hitems : (evidence.filter fun item =>
        (reusedCandidate? (fetchedCandidates s.session workflow.snapshot) item).isNone) = items
      have hone : (∀ other, (Except.ok evidence : Except String _) = .ok other →
          ItemsFit s workflow (other.filter fun item =>
            (reusedCandidate? (fetchedCandidates s.session workflow.snapshot) item).isNone) →
          StoresAgree s (other.filter fun item =>
            (reusedCandidate? (fetchedCandidates s.session workflow.snapshot) item).isNone)) ↔
          (ItemsFit s workflow items → StoresAgree s items) := by
        rw [← hitems]
        exact ⟨fun h => h evidence rfl, fun h other hother => Except.ok.inj hother ▸ h⟩
      rw [hone]
      dsimp only
      rw [hitems]
      have hsupplemental : t.session.deepSupplementalEvidence = s.session.deepSupplementalEvidence :=
        congrArg EvidenceRecords.deepSupplementalEvidence hrecords
      have hstore : t.fetchedDeepSupplementalEvidence = s.fetchedDeepSupplementalEvidence :=
        congrArg EvidenceRecords.fetchedDeepSupplementalEvidence hrecords
      cases hsizes : items.find? isOversized with
      | some item =>
          refine iff_of_true (recordsWhole_ok (a := .tool (searchOversized item)) ?_) fun hfit => ?_
          · dsimp only
            rw [bind_eq_ok hrelease]
            rfl
          · have hlarge := hfit.1 item (List.mem_of_find?_eq_some hsizes)
            rw [List.find?_some hsizes] at hlarge
            cases hlarge
      | none =>
          have hsmall : ∀ item ∈ items, isOversized item = false := fun item hmem =>
            Bool.eq_false_iff.mpr (List.find?_eq_none.mp hsizes item hmem)
          simp only [get_bind_apply, ite_apply_state, hsupplemental]
          by_cases hbytes : getDeepEvidenceContentBytes ((fetchedCandidates s.session workflow.snapshot).map
              candidateEvidence ++ s.session.deepSupplementalEvidence.values ++ items) > deepEvidenceRoundMaxBytes
          · rw [if_pos hbytes, bind_eq_ok hrelease]
            exact iff_of_true (recordsWhole_ok rfl) fun hfit => absurd hbytes (Nat.not_lt.mpr hfit.2)
          · obtain ⟨u, hcommit, hlive, hsession, hdeep⟩ := commit_run hbudget
            have hattempt : u.session.deepAttempt = some identity := by
              rw [hlive]
              by_contra hdead
              exact hbudget (.inl hdead)
            have hagree : StoresAgree u items ↔ StoresAgree s items := by
              rw [StoresAgree, StoresAgree, hsession, hdeep, hsupplemental, hstore]
            rw [if_neg hbytes, bind_eq_ok hcommit, forall_prop_of_true ⟨hsmall, Nat.le_of_not_gt hbytes⟩, ← hagree]
            simp only [reduceCtorEq, if_false]
            rcases hrun : recordSearchEvidence identity items u with ⟨error | ⟨⟩, v⟩
            · rcases recordSearchEvidence_run items hattempt with ⟨-, hok⟩ | ⟨hconflict, herror⟩
              · rw [hrun] at hok
                cases hok
              · refine iff_of_false (fun hwhole => ?_) hconflict
                rw [bind_eq_error hrun] at hwhole
                rw [hrun] at herror
                exact hwhole.1 (congrArg Except.error (Except.error.inj herror))
            · rcases recordSearchEvidence_run items hattempt with ⟨hstores, -⟩ | ⟨-, herror⟩
              · rw [bind_eq_ok hrun]
                exact iff_of_true (recordsWhole_ok rfl) hstores
              · rw [hrun] at herror
                cases herror

/-- No error of reading the files has the text of a conflict. -/
def ReadsWithoutConflict (files : Files) : Prop :=
  ∀ rootDir, files.wikiSources rootDir ≠ .error evidenceIdConflict ∧
    ∀ query, files.codeBaseSources rootDir query ≠ .error evidenceIdConflict

theorem searchFiles_error {params : DeepSearchParams} {workflow : ActiveWorkflowContext}
    {selected : Option GrillEvidenceCandidate} {query : String} (hfiles : ReadsWithoutConflict files) :
    searchFiles host files params workflow selected query ≠ .error evidenceIdConflict := by
  intro herror
  unfold searchFiles at herror
  cases hsource : params.source with
  | wiki =>
      rw [hsource] at herror
      cases hread : files.wikiSources workflow.rootDir with
      | error error =>
          rw [hread] at herror
          exact (hfiles workflow.rootDir).1 (hread.trans (congrArg Except.error (Except.error.inj herror)))
      | ok documents =>
          rw [hread] at herror
          cases herror
  | codeBase =>
      rw [hsource] at herror
      cases hread : files.codeBaseSources workflow.rootDir params.query with
      | error error =>
          rw [hread] at herror
          exact (hfiles workflow.rootDir).2 params.query (hread.trans (congrArg Except.error (Except.error.inj herror)))
      | ok sources =>
          rw [hread] at herror
          cases herror
  | target =>
      rw [hsource] at herror
      cases herror

theorem searchSource_whole_iff {s : ExtensionState} {params : DeepSearchParams} {workflow : ActiveWorkflowContext}
    {selected : Option GrillEvidenceCandidate} (hfiles : ReadsWithoutConflict files)
    (hworkflow : s.activeWorkflow = some workflow) (hselected : selectedTarget? host params workflow = selected) :
    RecordsWhole s (searchSource host files (searchIdentity params) params workflow (queryOf host params) selected s) ↔
      (GetsPlace host s params workflow → ItemsFit s workflow (newlyFound host files s params) →
        StoresAgree s (newlyFound host files s params)) := by
  have hlooks : LooksAtFiles host s params workflow ↔
      (fetchedCandidates s.session workflow.snapshot).filter (fun candidate =>
        decide (candidate.kind = params.source.kind) &&
          matchesQuery host (queryOf host params) candidate.source candidate.content) = [] ∧
      s.session.deepSupplementalEvidence.values.filter (fun item =>
        decide (item.kind = params.source.kind.text) &&
          matchesQuery host (queryOf host params) item.source item.content) = [] := by
    rw [List.filter_eq_nil_iff, List.filter_eq_nil_iff]
    simp [LooksAtFiles]
  unfold searchSource
  simp only [get_bind_apply, ite_apply_state]
  by_cases hreused : (fetchedCandidates s.session workflow.snapshot).filter (fun candidate =>
      decide (candidate.kind = params.source.kind) &&
        matchesQuery host (queryOf host params) candidate.source candidate.content) = []
  case neg =>
    rw [if_pos hreused]
    exact iff_of_true (recordsWhole_ok rfl) fun hplace => absurd (hlooks.mp hplace.1).1 hreused
  rw [if_neg (not_not.mpr hreused)]
  by_cases hheld : s.session.deepSupplementalEvidence.values.filter (fun item =>
      decide (item.kind = params.source.kind.text) &&
        matchesQuery host (queryOf host params) item.source item.content) = []
  case neg =>
    rw [if_pos hheld]
    exact iff_of_true (recordsWhole_ok rfl) fun hplace => absurd (hlooks.mp hplace.1).2 hheld
  rw [if_neg (not_not.mpr hheld)]
  obtain ⟨answer, u, hrun, hanswer, hcases⟩ := reserve_run (searchIdentity params) s
  rw [bind_eq_ok hrun]
  have hplace : GetsPlace host s params workflow ↔ answer = .reserved := by
    rw [GetsPlace, hanswer, and_iff_right (hlooks.mpr ⟨hreused, hheld⟩)]
    exact Option.some_inj
  rcases hcases with rfl | rfl | ⟨rfl, hrecords, hbudget⟩
  · exact iff_of_true (recordsWhole_ok rfl) fun h => by cases hplace.mp h
  · exact iff_of_true (recordsWhole_ok rfl) fun h => by cases hplace.mp h
  · rw [forall_prop_of_true (hplace.mpr rfl)]
    have hfound : searchFiles host files params workflow selected (queryOf host params) ≠
        .error evidenceIdConflict :=
      searchFiles_error hfiles
    have hsearch := @searchWithBudget_whole_iff s _ _ workflow _ hrecords hbudget hfound
    refine hsearch.trans ?_
    rw [newlyFound, hworkflow]
    simp only [hselected]
    rw [show host.toLowerCase (trim params.query) = queryOf host params from rfl]
    cases hread : searchFiles host files params workflow selected (queryOf host params) with
    | error error =>
        exact iff_of_true (fun _ hother => by cases hother) fun _ => ⟨fun _ hmem => absurd hmem List.not_mem_nil, .nil⟩
    | ok evidence => exact ⟨fun h => h evidence rfl, fun h other hother => Except.ok.inj hother ▸ h⟩

/-- A question about the target leaves the records. -/
theorem askTarget_whole (s : ExtensionState) (identity : DeepAttemptIdentity) (decision : DeepNeedsDecisionResult) :
    RecordsWhole s (askTarget host identity decision s) := by
  unfold askTarget
  rcases hout : sessionState.handleDeepResult identity (.needsDecision decision) s with ⟨error | result, t⟩
  · rw [bind_eq_error hout]
    obtain ⟨⟨stage, herror⟩, hsession⟩ := Session.handleNeedsDecision_throws (call_run hout)
    refine recordsWhole_error rfl ?_ ?_
    · rw [herror]
      cases stage <;> decide
    · have hframe := call_frame hout
      rw [hsession] at hframe
      rw [hframe]
      rfl
  · rw [bind_eq_ok hout]
    cases result with
    | stale expected received => exact recordsWhole_ok rfl
    | accepted state _ | invalid state _ =>
        dsimp only
        rw [restoreActiveTools_bind_apply]
        exact recordsWhole_ok rfl

/-- One matching target is selected. -/
theorem selectedTarget_eq_some {params : DeepSearchParams} {workflow : ActiveWorkflowContext}
    {selected : GrillEvidenceCandidate} (htarget : params.source = .target)
    (h : matchingTargets (targetCandidates host workflow (queryOf host params)) (params.targetSource.getD "") =
      [selected]) : selectedTarget? host params workflow = some selected := by
  rw [selectedTarget?, if_pos htarget]
  rw [queryOf] at h
  simp only [h]

/-- None, and more than one, are not. -/
theorem selectedTarget_eq_none {params : DeepSearchParams} {workflow : ActiveWorkflowContext}
    {found : List GrillEvidenceCandidate} (htarget : params.source = .target)
    (h : matchingTargets (targetCandidates host workflow (queryOf host params)) (params.targetSource.getD "") = found)
    (hfound : found.length ≠ 1) : selectedTarget? host params workflow = none := by
  rw [selectedTarget?, if_pos htarget]
  rw [queryOf] at h
  rcases found with _ | ⟨selected, _ | ⟨other, rest⟩⟩
  · simp only [h]
  · exact absurd rfl hfound
  · simp only [h]

/-- A target search comes to a search exactly when its call names one file of the target. -/
theorem searchTarget_whole_iff {s : ExtensionState} {params : DeepSearchParams} {workflow : ActiveWorkflowContext}
    (hfiles : ReadsWithoutConflict files) (hworkflow : s.activeWorkflow = some workflow)
    (htarget : params.source = .target)
    (hcall : s.session.deepAttempt = some (searchIdentity params) ∧ trim params.query ≠ "" ∧
      codePoints (trim params.query) ≤ deepSearchMaxQueryCodePoints) :
    RecordsWhole s (searchTarget host files (searchIdentity params) params workflow (queryOf host params) s) ↔
      (SearchIsValid host s params workflow → GetsPlace host s params workflow →
        ItemsFit s workflow (newlyFound host files s params) → StoresAgree s (newlyFound host files s params)) := by
  obtain ⟨hlive, hempty, hlong⟩ := hcall
  simp only [searchTarget, ite_apply_state]
  by_cases hblank : Blank (params.targetSource.getD "")
  case pos =>
    rw [if_pos hblank]
    exact iff_of_true (recordsWhole_ok rfl) fun hvalid => absurd hblank (hvalid.2.2.2 htarget).1
  rw [if_neg hblank]
  have hmatched : ∀ candidate ∈ matchingTargets (targetCandidates host workflow (queryOf host params))
      (params.targetSource.getD ""), candidate ∈ workflow.snapshot.candidates.values ∧ candidate.kind = .target := by
    intro candidate hmem
    have hfound := List.mem_filter.mp (List.mem_filter.mp hmem).1
    rw [Bool.and_eq_true, decide_eq_true_eq] at hfound
    exact ⟨hfound.1, hfound.2.1⟩
  by_cases hnone : ∀ candidate ∈ workflow.snapshot.candidates.values, candidate.kind ≠ .target
  · rw [if_pos hnone]
    refine iff_of_true (recordsWhole_ok rfl) fun hvalid => ?_
    have hsome := (hvalid.2.2.2 htarget).2
    cases hmatching : matchingTargets (targetCandidates host workflow (queryOf host params))
        (params.targetSource.getD "") with
    | nil =>
        rw [selectedTarget_eq_none htarget hmatching (by simp)] at hsome
        cases hsome
    | cons first rest =>
        obtain ⟨hmem, hkind⟩ := hmatched first (hmatching ▸ List.mem_cons_self)
        exact absurd hkind (hnone first hmem)
  · rw [if_neg hnone]
    have hask : ∀ decision, selectedTarget? host params workflow = none →
        (RecordsWhole s (askTarget host (searchIdentity params) decision s) ↔
          (SearchIsValid host s params workflow → GetsPlace host s params workflow →
            ItemsFit s workflow (newlyFound host files s params) →
            StoresAgree s (newlyFound host files s params))) := by
      intro decision hnot
      refine iff_of_true (askTarget_whole s _ _) fun hvalid => ?_
      have hsome := (hvalid.2.2.2 htarget).2
      rw [hnot] at hsome
      cases hsome
    rcases hmatching : matchingTargets (targetCandidates host workflow (queryOf host params))
        (params.targetSource.getD "") with _ | ⟨selected, _ | ⟨other, rest⟩⟩
    · exact hask _ (selectedTarget_eq_none htarget hmatching (by simp))
    · have hselected := selectedTarget_eq_some htarget hmatching
      have hvalid : SearchIsValid host s params workflow :=
        ⟨hlive, hempty, hlong, fun _ => ⟨hblank, by rw [hselected]; rfl⟩⟩
      rw [forall_prop_of_true hvalid]
      exact searchSource_whole_iff hfiles hworkflow hselected
    · exact hask _ (selectedTarget_eq_none htarget hmatching (by simp))

theorem storesAgree_nil (s : ExtensionState) : StoresAgree s [] := ⟨nofun, .nil⟩

/-- **A search** records all of its items or leaves everything as it was, exactly when the stores agree with them. -/
theorem forgeDeepSearch_whole_iff {s : ExtensionState} {params : DeepSearchParams} (hfiles : ReadsWithoutConflict files) :
    RecordsWhole s (forgeDeepSearch host files params s) ↔ StoresAgree s (itemsToRecord host files s params) := by
  cases hworkflow : s.activeWorkflow with
  | none =>
      rw [itemsToRecord, hworkflow]
      refine iff_of_true ?_ (storesAgree_nil s)
      simp only [forgeDeepSearch, get_bind_apply, ite_apply_state, hworkflow]
      split
      · exact recordsWhole_ok rfl
      · exact recordsWhole_ok rfl
  | some workflow =>
      have hitems : StoresAgree s (itemsToRecord host files s params) ↔
          (SearchIsValid host s params workflow → GetsPlace host s params workflow →
            ItemsFit s workflow (newlyFound host files s params) →
            StoresAgree s (newlyFound host files s params)) := by
        rw [itemsToRecord, hworkflow]
        dsimp only
        split
        case isTrue h => exact ⟨fun hagree _ _ _ => hagree, fun hagree => hagree h.1 h.2.1 h.2.2⟩
        case isFalse h => exact iff_of_true (storesAgree_nil s) fun hvalid hplace hfit => absurd ⟨hvalid, hplace, hfit⟩ h
      rw [hitems]
      simp only [forgeDeepSearch, get_bind_apply, ite_apply_state, hworkflow]
      by_cases hlive : s.session.deepAttempt = some ⟨params.attemptId, params.sourceRoundId, .deepKnowledgeRetrieval⟩
      case neg =>
        rw [if_pos hlive]
        exact iff_of_true (recordsWhole_ok rfl) fun hvalid => absurd hvalid.1 hlive
      rw [if_neg (not_not.mpr hlive)]
      by_cases hempty : trim params.query = ""
      case pos =>
        rw [if_pos hempty]
        exact iff_of_true (recordsWhole_ok rfl) fun hvalid => absurd hempty hvalid.2.1
      rw [if_neg hempty]
      by_cases hlong : codePoints (trim params.query) > deepSearchMaxQueryCodePoints
      case pos =>
        rw [if_pos hlong]
        exact iff_of_true (recordsWhole_ok rfl) fun hvalid => absurd hlong (Nat.not_lt.mpr hvalid.2.2.1)
      rw [if_neg hlong]
      by_cases htarget : params.source = .target
      case neg =>
        rw [if_neg htarget]
        have hvalid : SearchIsValid host s params workflow :=
          ⟨hlive, hempty, Nat.le_of_not_gt hlong, fun h => absurd h htarget⟩
        rw [forall_prop_of_true hvalid]
        exact searchSource_whole_iff hfiles hworkflow (by rw [selectedTarget?, if_neg htarget])
      rw [if_pos htarget]
      exact searchTarget_whole_iff hfiles hworkflow htarget ⟨hlive, hempty, Nat.le_of_not_gt hlong⟩

end Extension

/-! ### The calls of a run -/

/-- The calls that record evidence. -/
def Event.recordsEvidence : Event → Bool
  | .grillEvidence _ => true
  | .deepSearch _ => true
  | _ => false

/-- The stores have no other content under the IDs of what the call records. -/
def AgreesWithStores (host : Host) (files : Files) (s : ExtensionState) : Event → Prop
  | .grillEvidence candidateId => ∀ candidate ∈ Extension.admittedCandidate? s candidateId,
      AgreesWith s.fetchedGrillEvidence (Extension.candidateEvidence candidate)
  | .deepSearch params => Extension.StoresAgree s (Extension.itemsToRecord host files s params)
  | _ => True

instance (host : Host) (files : Files) (s : ExtensionState) (e : Event) : Decidable (AgreesWithStores host files s e) :=
  match e with
  | .grillEvidence candidateId => inferInstanceAs (Decidable (∀ candidate ∈ Extension.admittedCandidate? s candidateId,
      AgreesWith s.fetchedGrillEvidence (Extension.candidateEvidence candidate)))
  | .deepSearch params =>
      inferInstanceAs (Decidable (Extension.StoresAgree s (Extension.itemsToRecord host files s params)))
  | .grillComplete _ _ | .deepRetrievalComplete _ _ _ _ _ | .deepComplete _ _ _ _ _ | .contextComplete _ _ _ _
  | .adrComplete _ _ _ _ | .toolCall _ | .toolResult _ _ _ | .messageStart _ | .messageEnd _ | .agentSettled
  | .discoveryTimer | .buildTimer | .deepTimer | .input _ _ | .command _ _ | .resume _ _ => .isTrue trivial

/-- The answer of a step, and the state after it. -/
def answered (host : Host) (o : Occurrence) (s : ExtensionState) : Except String Reply × ExtensionState :=
  ((extensionStep host o s).1.reply, (extensionStep host o s).2)

/-- The error that a step has thrown. -/
def thrown? (reply : Except String Reply) : Option String :=
  match reply with
  | .error error => some error
  | .ok _ => none

/-- One file of the code base, with this content. -/
def fileWith (content : String) : Files :=
  { sampleFiles with
    readEvidenceSource := fun path => if path.length = 3 then .ok ⟨content, none⟩ else .error "ENOENT" }

/-- The ID of the file, with either line ending. -/
def lineId : String := Extension.createEvidenceId sampleHost "code_base" "code_base/do.ts" "do\r\n"

/-- Grill has fetched the file with one line ending, and a second discovery has found it with the other. -/
def rediscovered : List Occurrence :=
  withFiles (fileWith "do\r\n") [startRequest, .grillEvidence lineId,
      .grillComplete (readyForDeep "grill-1" [lineId]) sampleCtx, .agentSettled, .deepTimer, .messageStart ["x"]] ++
    withFiles (fileWith "do\n") [.deepRetrievalComplete "call-1" "deep-1" "grill-1" (.needsDiscovery none) sampleCtx,
      .toolResult "call-1" "forge_deep_retrieval_complete" (some false), .agentSettled, .discoveryTimer]

/-- **A call records all of its evidence or leaves everything as it was**, in every state that a run reaches, if
and only if the stores have no other content under the IDs of what it records. -/
theorem evidence_recorded_whole_iff (host : Host) (tools : List String) (os : List Occurrence) {files : Files}
    {e : Event} (he : e.recordsEvidence = true) (hfiles : Extension.ReadsWithoutConflict files) :
    RecordsWhole (finish (extensionStep host) (loadedExtension tools) os)
        (answered host ⟨files, e⟩ (finish (extensionStep host) (loadedExtension tools) os)) ↔
      AgreesWithStores host files (finish (extensionStep host) (loadedExtension tools) os) e := by
  have hlinked := run_linked host tools os
  generalize finish (extensionStep host) (loadedExtension tools) os = s at hlinked ⊢
  cases e with
  | grillEvidence candidateId =>
      have hround : s.activeWorkflow ≠ none → s.session.currentGrillRound ≠ none := by
        intro hworkflow hnone
        obtain ⟨workflow, hactive⟩ := Option.ne_none_iff_exists'.mp hworkflow
        obtain ⟨round, hround, -⟩ := hlinked.workflow workflow hactive
        rw [show s.session.currentGrillRound = some round from hround] at hnone
        cases hnone
      exact Extension.forgeGrillEvidence_whole_iff (s := s.cleared) hround candidateId
  | deepSearch params => exact Extension.forgeDeepSearch_whole_iff (s := s.cleared) hfiles
  | _ => cases he

/-- A fetch that records its file. -/
theorem fetch_recorded_whole :
    RecordsWhole (finish (extensionStep sampleHost) (loadedExtension sampleTools) (withFiles sampleFiles [startRequest]))
      (answered sampleHost ⟨sampleFiles, .grillEvidence sampleCandidateId⟩
        (finish (extensionStep sampleHost) (loadedExtension sampleTools) (withFiles sampleFiles [startRequest]))) := by
  have hreads : Extension.ReadsWithoutConflict sampleFiles := by
    intro rootDir
    constructor
    · intro herror
      cases herror
    · intro query herror
      cases herror
  exact (evidence_recorded_whole_iff sampleHost sampleTools (withFiles sampleFiles [startRequest]) rfl hreads).mpr
    (by decide +kernel)

/-- **A fetch conflicts with an earlier one of the same file**: both contents have one ID, the call throws, and its
fetch is noted. -/
theorem fetch_conflicts_with_itself :
    Extension.createEvidenceId sampleHost "code_base" "code_base/do.ts" "do\r\n" =
        Extension.createEvidenceId sampleHost "code_base" "code_base/do.ts" "do\n" ∧
      thrown? (answered sampleHost ⟨fileWith "do\n", .grillEvidence lineId⟩
          (finish (extensionStep sampleHost) (loadedExtension sampleTools) rediscovered)).1 = some evidenceIdConflict ∧
      (finish (extensionStep sampleHost) (loadedExtension sampleTools) rediscovered).session.fetchedEvidenceIds.elems =
        [] ∧
      (answered sampleHost ⟨fileWith "do\n", .grillEvidence lineId⟩
          (finish (extensionStep sampleHost) (loadedExtension sampleTools)
            rediscovered)).2.session.fetchedEvidenceIds.elems = [lineId] := by
  decide +kernel

end ForgeRuntime
