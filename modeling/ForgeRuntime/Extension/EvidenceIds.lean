import ForgeRuntime.Extension.FallbackEvidence
import ForgeRuntime.Runtime.SearchBudget

/-!
# The evidence IDs of a package

The package is put together from stores of which each holds an ID once.  An ID comes twice only when one
document gets into two stores: a candidate of the snapshot that a search has found already, or an item of a
search that Grill has fetched already.

* `Apart` — no ID is on the side of Grill and on the side of the searches;
* `step_apart` — every step keeps it that brings no ID to the other side;
* `package_ids_nodup` — in such runs no package has an ID twice;
* `target_fetched_twice` — a run in which a package has.
-/

namespace ForgeRuntime

open EventDriven EventDriven.Machine EventDriven.Text EventDriven.Turn

variable {host : Host} {files : Files} {s₀ : ExtensionState} {e : Event}

/-! ### The forms of the IDs -/

/-- The form of the IDs that files get. -/
def IsFileId (id : String) : Prop := "ev-".toList <+: id.toList

/-- The form of the IDs that premises get. -/
def IsPremiseId (id : String) : Prop := "human-premise-".toList <+: id.toList

theorem isFileId_createEvidenceId (kind source content : String) :
    IsFileId (Extension.createEvidenceId host kind source content) := by
  rw [IsFileId, Extension.createEvidenceId, String.toList_append]
  exact List.prefix_append _ _

theorem isPremiseId_humanPremise (round : GrillRound) (pending : WaitUserState) (answer : String) :
    IsPremiseId (Session.humanPremise host.digest round pending answer).evidenceId := by
  rw [IsPremiseId, Session.humanPremise, String.toList_append]
  exact List.prefix_append _ _

theorem isPremiseId_fallbackPremise (goal question answer : String) (rounds : List String) :
    IsPremiseId (Extension.fallbackPremise host goal question answer rounds).evidenceId := by
  rw [IsPremiseId, Extension.fallbackPremise, String.toList_append]
  exact List.prefix_append _ _

/-- No ID has both forms. -/
theorem not_isPremiseId_of_isFileId {id : String} (hfile : IsFileId id) : ¬ IsPremiseId id := by
  intro hpremise
  obtain ⟨rest, hrest⟩ := hfile
  obtain ⟨rest', hrest'⟩ := hpremise
  have hsame : "ev-".toList ++ rest = "human-premise-".toList ++ rest' := hrest.trans hrest'.symm
  have hfirst := congrArg List.head? hsame
  exact absurd hfirst (by simp)

/-! ### The IDs of a snapshot -/

/-- The candidates stand under their own IDs, which are those of files. -/
def SnapshotIds (snapshot : GrillEvidenceSnapshot) : Prop :=
  snapshot.candidates.KeyedBy (·.candidateId) ∧ ∀ id ∈ snapshot.candidates, IsFileId id

namespace Extension

theorem candidatesById_ids {evidence : List GrillEvidenceCandidate}
    (h : ∀ candidate ∈ evidence, IsFileId candidate.candidateId) :
    (candidatesById evidence).KeyedBy (·.candidateId) ∧ ∀ id ∈ candidatesById evidence, IsFileId id := by
  unfold candidatesById
  have hempty : (OrderedMap.empty : OrderedMap String GrillEvidenceCandidate).KeyedBy (·.candidateId) ∧
      ∀ id ∈ (OrderedMap.empty : OrderedMap String GrillEvidenceCandidate), IsFileId id :=
    ⟨OrderedMap.keyedBy_empty _, fun id hid => absurd hid (OrderedMap.notMem_empty id)⟩
  generalize (OrderedMap.empty : OrderedMap String GrillEvidenceCandidate) = byId at hempty
  induction evidence generalizing byId with
  | nil => exact hempty
  | cons candidate rest ih =>
      refine ih (fun other hother => h other (List.mem_cons_of_mem _ hother)) _
        ⟨OrderedMap.KeyedBy.insert hempty.1 rfl, fun id hid => ?_⟩
      rcases OrderedMap.mem_insert.mp hid with rfl | hid
      · exact h candidate List.mem_cons_self
      · exact hempty.2 id hid

theorem candidatesOfMatch_ids {rootDir : String} {seeds : List String} {found : LightDiscoveryMatch} :
    ∀ candidate ∈ (candidatesOfMatch host files rootDir seeds found).1, IsFileId candidate.candidateId := by
  intro candidate hmem
  have hcandidate : ∀ (kind : GrillEvidenceKind) (read : EvidenceReadResult),
      IsFileId (evidenceCandidate host kind found read).candidateId :=
    fun kind read => isFileId_createEvidenceId _ _ _
  unfold candidatesOfMatch at hmem
  split at hmem
  · cases hmem
  · dsimp only at hmem
    split at hmem
    · rw [List.mem_singleton.mp hmem]
      exact hcandidate _ _
    · rcases List.mem_cons.mp hmem with rfl | hmem
      · exact hcandidate _ _
      · rw [Option.mem_toList, targetCandidate?] at hmem
        split at hmem
        · rw [← Option.some.inj hmem]
          exact hcandidate _ _
        · cases hmem

theorem discovery_ids {rootDir goal : String} {discovery : LightDiscoveryResult} {ref : Nat} :
    SnapshotIds ⟨ref, (buildGrillCompatibleDiscovery host files rootDir discovery goal).candidates,
      (buildGrillCompatibleDiscovery host files rootDir discovery goal).manifest⟩ := by
  refine candidatesById_ids fun candidate hmem => ?_
  obtain ⟨evidence, hevidence, hmem⟩ := List.mem_flatMap.mp hmem
  obtain ⟨found, -, rfl⟩ := List.mem_map.mp hevidence
  exact candidatesOfMatch_ids candidate hmem

theorem selectedTarget?_mem {params : DeepSearchParams} {workflow : ActiveWorkflowContext}
    {selected : GrillEvidenceCandidate} (h : selectedTarget? host params workflow = some selected) :
    selected ∈ workflow.snapshot.candidates.values := by
  unfold selectedTarget? at h
  split at h
  · split at h
    · rename_i named hnamed
      obtain rfl := Option.some.inj h
      have hmem : named ∈ matchingTargets (targetCandidates host workflow (host.toLowerCase (trim params.query)))
          (params.targetSource.getD "") := by
        rw [hnamed]
        exact List.mem_singleton.mpr rfl
      exact List.mem_of_mem_filter (List.mem_of_mem_filter hmem)
    · cases h
  · cases h

/-- What a search finds has the ID of a file. -/
theorem newlyFound_ids {s : ExtensionState} {params : DeepSearchParams}
    (hids : ∀ workflow ∈ s.activeWorkflow, SnapshotIds workflow.snapshot) {item : EvidenceInput}
    (h : item ∈ newlyFound host files s params) : IsFileId item.evidenceId := by
  unfold newlyFound at h
  split at h
  · cases h
  rename_i workflow hworkflow
  split at h
  · cases h
  rename_i evidence hfound
  have hmem := List.mem_of_mem_filter h
  cases hsource : params.source with
  | wiki =>
      simp only [searchFiles, hsource] at hfound
      cases hread : files.wikiSources workflow.rootDir with
      | error error =>
          rw [hread] at hfound
          cases hfound
      | ok documents =>
          rw [hread] at hfound
          rw [← Except.ok.inj hfound] at hmem
          obtain ⟨document, -, rfl⟩ := List.mem_map.mp hmem
          exact isFileId_createEvidenceId _ _ _
  | codeBase =>
      simp only [searchFiles, hsource] at hfound
      cases hread : files.codeBaseSources workflow.rootDir params.query with
      | error error =>
          rw [hread] at hfound
          cases hfound
      | ok sources =>
          rw [hread] at hfound
          rw [← Except.ok.inj hfound] at hmem
          obtain ⟨source, -, rfl⟩ := List.mem_map.mp hmem
          exact isFileId_createEvidenceId _ _ _
  | target =>
      simp only [searchFiles, hsource] at hfound
      rw [← Except.ok.inj hfound, Option.mem_toList] at hmem
      obtain ⟨selected, hselected, rfl⟩ := Option.map_eq_some_iff.mp hmem
      obtain ⟨⟨id, candidate⟩, hentry, rfl⟩ := List.mem_map.mp (selectedTarget?_mem hselected)
      have hsnapshot := hids workflow hworkflow
      rw [show (candidateEvidence candidate).evidenceId = id from hsnapshot.1 id candidate hentry]
      exact hsnapshot.2 id (OrderedMap.mem_of_entry hentry)

end Extension

/-! ### What the session does to its evidence -/

/-- Evidence is only dropped. -/
structure Forgets (s t : SessionState) : Prop where
  fetched : ∀ id ∈ t.fetchedEvidenceIds, id ∈ s.fetchedEvidenceIds
  supplemental : t.deepSupplementalEvidence = s.deepSupplementalEvidence ∨ t.deepSupplementalEvidence = .empty
  handed : (t.lockedDeepEvidence = s.lockedDeepEvidence ∨ t.lockedDeepEvidence = none) ∧
    (t.humanPremises = s.humanPremises ∨ t.humanPremises = .empty)

/-- The operations that add evidence. -/
def SessionOp.addsEvidence : SessionOp → Bool
  | .recordAnswer _ => true
  | .recordDeepSupplementalEvidence _ _ _ => true
  | .recordEvidenceFetch _ => true
  | op => op.retrievalIdentity?.isSome

/-- The operation that adds a fetched ID. -/
def SessionOp.fetches : SessionOp → Bool
  | .recordEvidenceFetch _ => true
  | _ => false

/-- The operation that adds an item of a search. -/
def SessionOp.supplements : SessionOp → Bool
  | .recordDeepSupplementalEvidence _ _ _ => true
  | _ => false

/-- Only a fetch adds to the fetched IDs. -/
theorem step_fetched (digest : String → String) {op : SessionOp} (hop : op.fetches = false) (s : SessionState) :
    ∀ id ∈ (sessionStep digest op s).2.fetchedEvidenceIds, id ∈ s.fetchedEvidenceIds := by
  have hmove := step_move digest s op
  generalize (sessionStep digest op s).1 = r at hmove
  generalize (sessionStep digest op s).2 = t at hmove ⊢
  intro id hid
  cases hmove with
  | fetchRecorded => cases hop
  | answered hr horch hpending hkind hguard hcontinues => cases hcontinues <;> exact hid
  | wasReset => exact absurd hid (OrderedSet.notMem_empty id)
  | roundStarted hr first hfirst =>
      cases first with
      | true => exact absurd hid (OrderedSet.notMem_empty id)
      | false => exact hid
  | _ => exact hid

/-- Only an item of a search adds to the supplemental evidence. -/
theorem step_supplemental (digest : String → String) {op : SessionOp} (hop : op.supplements = false)
    (s : SessionState) :
    (sessionStep digest op s).2.deepSupplementalEvidence = s.deepSupplementalEvidence ∨
      (sessionStep digest op s).2.deepSupplementalEvidence = .empty := by
  by_cases hbudget : op.usesBudget = true
  · obtain ⟨round, count, rs, h⟩ := budget_only digest hbudget s
    rw [h]
    exact .inl rfl
  have hmove := step_move digest s op
  generalize (sessionStep digest op s).1 = r at hmove
  generalize (sessionStep digest op s).2 = t at hmove ⊢
  cases hmove with
  | bookkept hbookkeeping =>
      cases op with
      | recordDeepSupplementalEvidence => cases hop
      | consumeDeepSearchBudget | reserveDeepSearchBudget | commitDeepSearchBudget | releaseDeepSearchBudget =>
          exact absurd rfl hbudget
      | _ => cases hbookkeeping
  | answered hr horch hpending hkind hguard hcontinues => cases hcontinues <;> exact .inl rfl
  | wasReset => exact .inr rfl
  | roundStarted hr first hfirst =>
      cases first with
      | true => exact .inr rfl
      | false => exact .inl rfl
  | _ => exact .inl rfl

/-- **Most operations add no evidence.** -/
theorem step_forgets (digest : String → String) {op : SessionOp} (hop : op.addsEvidence = false)
    (s : SessionState) : Forgets s (sessionStep digest op s).2 := by
  have hfetch : op.fetches = false := by
    cases op with
    | recordEvidenceFetch => cases hop
    | _ => rfl
  have hsupplement : op.supplements = false := by
    cases op with
    | recordDeepSupplementalEvidence => cases hop
    | _ => rfl
  refine ⟨step_fetched digest hfetch s, step_supplemental digest hsupplement s, ?_⟩
  have hmove := step_move digest s op
  generalize (sessionStep digest op s).1 = r at hmove
  generalize (sessionStep digest op s).2 = t at hmove ⊢
  cases hmove with
  | retrievalEnded hended =>
      cases op with
      | completeDeepKnowledge | completeDeepRetrieval => cases hop
      | handleDeepResult identity result => simp [SessionOp.addsEvidence, hended] at hop
      | _ => cases hended
  | answered | checkpointAnswered | answerRefused => cases hop
  | wasReset => exact ⟨.inr rfl, .inr rfl⟩
  | roundStarted hr first hfirst =>
      cases first with
      | true => exact ⟨.inr rfl, .inr rfl⟩
      | false => exact ⟨.inl rfl, .inl rfl⟩
  | _ => exact ⟨.inl rfl, .inl rfl⟩

/-- The premise that an answer leaves in the session: it is accepted, and answers a question of Grill. -/
def newPremise? (digest : String → String) (s : SessionState) (answer : String) : Option EvidenceInput :=
  match s.uiState.waitUser, s.currentGrillRound with
  | some pending, some round =>
      if pending.kind = .grillConfirmation ∧ ¬ Session.refusesAnswer s pending (trim answer) then
        some (Session.humanPremise digest round pending (trim answer))
      else none
  | _, _ => none

/-- An answer leaves at most a premise. -/
theorem recordAnswer_evidence (digest : String → String) (answer : String) (s : SessionState) :
    Forgets s { (sessionStep digest (.recordAnswer answer) s).2 with humanPremises := s.humanPremises } ∧
      ((sessionStep digest (.recordAnswer answer) s).2.humanPremises = s.humanPremises ∨
        ∃ premise key, newPremise? digest s answer = some premise ∧
          (sessionStep digest (.recordAnswer answer) s).2.humanPremises = s.humanPremises.insert key premise) := by
  have hmove := step_move digest s (.recordAnswer answer)
  generalize (sessionStep digest (.recordAnswer answer) s).1 = r at hmove
  generalize (sessionStep digest (.recordAnswer answer) s).2 = t at hmove ⊢
  cases hmove with
  | answered hr horch hpending hkind hguard hcontinues =>
      rename_i pending
      have hpremises : t.humanPremises = (afterAnswer digest s pending answer).humanPremises := by
        cases hcontinues <;> rfl
      refine ⟨by cases hcontinues <;> exact ⟨fun _ hid => hid, .inl rfl, .inl rfl, .inl rfl⟩, ?_⟩
      rw [hpremises]
      unfold afterAnswer
      dsimp only
      split
      · rename_i round hconfirmation hround
        exact .inr ⟨_, _, by simp [newPremise?, hpending, hround, hconfirmation, hguard], rfl⟩
      · exact .inl rfl
  | bookkept hop | retrievalEnded hop => cases hop
  | entered hr hop | deepIssued hr hop | asked hr hop => cases hop
  | _ => exact ⟨⟨fun _ hid => hid, .inl rfl, .inl rfl, .inl rfl⟩, .inl rfl⟩

/-! ### The stores of a package -/

/-- Items of files, each under its own ID. -/
def FileStore (store : OrderedMap String EvidenceInput) : Prop :=
  KeyedById store ∧ ∀ id ∈ store, IsFileId id

theorem fileStore_empty : FileStore .empty := ⟨keyedById_empty, fun id hid => absurd hid (OrderedMap.notMem_empty id)⟩

/-- The IDs of the items are the keys. -/
theorem FileStore.ids {store : OrderedMap String EvidenceInput} (h : FileStore store) :
    store.values.map (·.evidenceId) = store.keys := OrderedMap.KeyedBy.map_values h.1

theorem FileStore.value_id {store : OrderedMap String EvidenceInput} (h : FileStore store) {item : EvidenceInput}
    (hitem : item ∈ store.values) : IsFileId item.evidenceId := by
  refine h.2 _ ?_
  rw [OrderedMap.mem_iff, ← h.ids]
  exact List.mem_map_of_mem hitem

theorem FileStore.insert {store : OrderedMap String EvidenceInput} (h : FileStore store) {item : EvidenceInput}
    (hitem : IsFileId item.evidenceId) : FileStore (store.insert item.evidenceId item) := by
  refine ⟨OrderedMap.KeyedBy.insert h.1 rfl, fun id hid => ?_⟩
  rcases OrderedMap.mem_insert.mp hid with rfl | hid
  · exact hitem
  · exact h.2 id hid

theorem FileStore.remember {store : OrderedMap String EvidenceInput} (h : FileStore store) {item : EvidenceInput}
    (hitem : IsFileId item.evidenceId) : FileStore (Core.remember store item) := by
  rcases remember_cases store item with hsame | ⟨-, hadded⟩
  · rwa [hsame]
  · rw [hadded]
    exact h.insert hitem

theorem mem_remember {store : OrderedMap String EvidenceInput} {item : EvidenceInput} {id : String}
    (h : id ∈ Core.remember store item) : id = item.evidenceId ∨ id ∈ store := by
  rcases remember_cases store item with hsame | ⟨-, hadded⟩
  · exact .inr (hsame ▸ h)
  · rw [hadded] at h
    exact OrderedMap.mem_insert.mp h

/-- The IDs that are held on the side of Grill: of this workflow, and of this snapshot. -/
def OnGrillSide (c : Core) (id : String) : Prop := id ∈ c.fetchedGrillEvidence ∨ id ∈ c.session.fetchedEvidenceIds

/-- The IDs that are held on the side of the searches. -/
def OnDeepSide (c : Core) (id : String) : Prop :=
  id ∈ c.fetchedDeepSupplementalEvidence ∨ id ∈ c.session.deepSupplementalEvidence

instance (c : Core) (id : String) : Decidable (OnGrillSide c id) := inferInstanceAs (Decidable (_ ∨ _))

instance (c : Core) (id : String) : Decidable (OnDeepSide c id) := inferInstanceAs (Decidable (_ ∨ _))

/-- The IDs of some evidence: no ID twice, and all are of files. -/
def FileIds (items : List EvidenceInput) : Prop :=
  (items.map (·.evidenceId)).Nodup ∧ ∀ item ∈ items, IsFileId item.evidenceId

/-- The premises that a package gets. -/
def Core.premises (c : Core) : List EvidenceInput := c.session.humanPremises.values ++ c.fallbackHumanPremise.toList

/-- **No ID is on both sides**, and each store holds its IDs once. -/
structure Apart (c : Core) : Prop where
  candidates : ∀ workflow ∈ c.activeWorkflow, SnapshotIds workflow.snapshot
  grill : FileStore c.fetchedGrillEvidence
  deep : FileStore c.fetchedDeepSupplementalEvidence
  supplemental : FileStore c.session.deepSupplementalEvidence
  sides : ∀ id, OnGrillSide c id → ¬ OnDeepSide c id
  locked : ∀ locked ∈ c.session.lockedDeepEvidence, FileIds (locked.inherited ++ locked.supplemental)
  premises : (c.premises.map (·.evidenceId)).Nodup ∧ ∀ premise ∈ c.premises, IsPremiseId premise.evidenceId

/-- Dropping evidence keeps the sides apart. -/
theorem Apart.forgets {c : Core} (h : Apart c) {t : SessionState} (ht : Forgets c.session t)
    {calls : List SessionOp} : Apart { c with session := t, calls := calls } := by
  have hmem : ∀ id ∈ t.deepSupplementalEvidence, id ∈ c.session.deepSupplementalEvidence := by
    intro id hid
    rcases ht.supplemental with hsame | hnone
    · exact hsame ▸ hid
    · exact absurd (hnone ▸ hid) (OrderedMap.notMem_empty id)
  refine ⟨h.candidates, h.grill, h.deep, ?_, ?_, ?_, ?_⟩
  · show FileStore t.deepSupplementalEvidence
    rcases ht.supplemental with hsame | hnone
    · rw [hsame]
      exact h.supplemental
    · rw [hnone]
      exact fileStore_empty
  · intro id hgrill hdeep
    exact h.sides id (hgrill.imp_right (ht.fetched id)) (hdeep.imp_right (hmem id))
  · show ∀ locked ∈ t.lockedDeepEvidence, _
    rcases ht.handed.1 with hsame | hnone
    · rw [hsame]
      exact h.locked
    · rw [hnone]
      simp
  · have hpremises := h.premises
    show ((t.humanPremises.values ++ c.fallbackHumanPremise.toList).map (·.evidenceId)).Nodup ∧
      ∀ premise ∈ t.humanPremises.values ++ c.fallbackHumanPremise.toList, IsPremiseId premise.evidenceId
    rw [Core.premises] at hpremises
    rcases ht.handed.2 with hsame | hnone
    · rwa [hsame]
    · rw [hnone, OrderedMap.values_empty, List.nil_append]
      refine ⟨?_, fun premise hmem => hpremises.2 premise (List.mem_append_right _ hmem)⟩
      exact hpremises.1.sublist ((List.sublist_append_right _ _).map _)

/-- The IDs of the fetched candidates are fetched IDs, in their order. -/
theorem fetchedIds_sublist (session : SessionState) {snapshot : GrillEvidenceSnapshot} (h : SnapshotIds snapshot) :
    List.Sublist (((Extension.fetchedCandidates session snapshot).map Extension.candidateEvidence).map
      (·.evidenceId)) session.fetchedEvidenceIds.elems := by
  rw [Extension.fetchedCandidates]
  induction session.fetchedEvidenceIds.elems with
  | nil => exact List.Sublist.refl _
  | cons id rest ih =>
      cases hget : snapshot.candidates.get? id with
      | none =>
          rw [List.filterMap_cons_none hget]
          exact ih.cons _
      | some candidate =>
          rw [List.filterMap_cons_some hget, List.map_cons, List.map_cons]
          rw [show (Extension.candidateEvidence candidate).evidenceId = id from
            h.1 id candidate (OrderedMap.get?_eq_some_iff.mp hget)]
          exact ih.cons_cons _

/-- What a completed retrieval locks has no ID twice. -/
theorem Apart.locks {s : ExtensionState} (h : Apart s.core) {workflow : ActiveWorkflowContext}
    (hworkflow : s.activeWorkflow = some workflow) :
    FileIds ((heldEvidence s workflow).inherited ++ (heldEvidence s workflow).supplemental) := by
  have hsnapshot : SnapshotIds workflow.snapshot := h.candidates workflow hworkflow
  have hsublist := fetchedIds_sublist s.session hsnapshot
  have hkeys : s.session.deepSupplementalEvidence.values.map (·.evidenceId) =
      s.session.deepSupplementalEvidence.keys := h.supplemental.ids
  refine ⟨?_, fun item hitem => ?_⟩
  · rw [heldEvidence, List.map_append, hkeys]
    refine List.nodup_append.mpr ⟨s.session.fetchedEvidenceIds.nodup.sublist hsublist,
      s.session.deepSupplementalEvidence.nodup, ?_⟩
    rintro id hgrill _ hdeep rfl
    exact h.sides id (.inr (hsublist.subset hgrill)) (.inr hdeep)
  · rcases List.mem_append.mp hitem with hitem | hitem
    · obtain ⟨candidate, hcandidate, rfl⟩ := List.mem_map.mp hitem
      obtain ⟨id, -, hget⟩ := List.mem_filterMap.mp hcandidate
      rw [show (Extension.candidateEvidence candidate).evidenceId = id from
        hsnapshot.1 id candidate (OrderedMap.get?_eq_some_iff.mp hget)]
      exact hsnapshot.2 id (OrderedMap.mem_of_entry (OrderedMap.get?_eq_some_iff.mp hget))
    · exact h.supplemental.value_id hitem

/-- **A package gets no ID twice** while the sides are apart. -/
theorem Apart.package {s : ExtensionState} (h : Apart s.core) :
    (((Extension.packageEvidence s).1 ++ (Extension.packageEvidence s).2 ++ Extension.packagePremises s).map
      (·.evidenceId)).Nodup := by
  have hfiles : FileIds ((Extension.packageEvidence s).1 ++ (Extension.packageEvidence s).2) := by
    cases hlocked : s.session.lockedDeepEvidence with
    | some locked =>
        rw [Extension.packageEvidence, hlocked]
        exact h.locked locked hlocked
    | none =>
        rw [Extension.packageEvidence, hlocked]
        have hgrill : s.fetchedGrillEvidence.values.map (·.evidenceId) = s.fetchedGrillEvidence.keys := h.grill.ids
        have hdeep : s.fetchedDeepSupplementalEvidence.values.map (·.evidenceId) =
            s.fetchedDeepSupplementalEvidence.keys := h.deep.ids
        refine ⟨?_, fun item hitem => ?_⟩
        · rw [List.map_append, hgrill, hdeep]
          refine List.nodup_append.mpr ⟨s.fetchedGrillEvidence.nodup, s.fetchedDeepSupplementalEvidence.nodup, ?_⟩
          rintro id hid _ hid' rfl
          exact h.sides id (.inl hid) (.inl hid')
        · rcases List.mem_append.mp hitem with hitem | hitem
          · exact h.grill.value_id hitem
          · exact h.deep.value_id hitem
  rw [List.map_append]
  refine List.nodup_append.mpr ⟨hfiles.1, h.premises.1, ?_⟩
  rintro id hfile _ hpremise rfl
  obtain ⟨item, hitem, rfl⟩ := List.mem_map.mp hfile
  obtain ⟨premise, hpremise, hsame⟩ := List.mem_map.mp hpremise
  exact not_isPremiseId_of_isFileId (hfiles.2 item hitem) (hsame ▸ h.premises.2 premise hpremise)

/-- An answer keeps the sides apart when the premise it leaves is a new one. -/
theorem Apart.answer {c : Core} (h : Apart c) {answer : String}
    (hnew : ∀ premise ∈ newPremise? host.digest c.session answer,
      premise.evidenceId ∉ c.premises.map (·.evidenceId)) : Apart (c.call host (.recordAnswer answer)) := by
  obtain ⟨hforgets, hleaves⟩ := recordAnswer_evidence host.digest answer c.session
  have hrest := @Apart.forgets c h _ hforgets (c.calls ++ [.recordAnswer answer])
  refine ⟨hrest.candidates, hrest.grill, hrest.deep, hrest.supplemental, hrest.sides, hrest.locked, ?_⟩
  show (((sessionStep host.digest (.recordAnswer answer) c.session).2.humanPremises.values ++
      c.fallbackHumanPremise.toList).map (·.evidenceId)).Nodup ∧
    ∀ premise ∈ (sessionStep host.digest (.recordAnswer answer) c.session).2.humanPremises.values ++
      c.fallbackHumanPremise.toList, IsPremiseId premise.evidenceId
  have hpremises := h.premises
  rw [Core.premises] at hpremises
  rcases hleaves with hsame | ⟨premise, key, hleft, hinsert⟩
  · rwa [hsame]
  · have hfresh := hnew premise hleft
    rw [Core.premises, List.map_append, List.mem_append, not_or] at hfresh
    rw [List.map_append] at hpremises
    obtain ⟨⟨hsession, hfallback, hdisjoint⟩, hids⟩ := And.imp_left List.nodup_append.mp hpremises
    rw [hinsert, List.map_append]
    refine ⟨List.nodup_append.mpr ⟨OrderedMap.nodup_values_insert hsession hfresh.1, hfallback, ?_⟩, ?_⟩
    · rintro id hid other hother rfl
      obtain ⟨item, hitem, rfl⟩ := List.mem_map.mp hid
      rcases OrderedMap.mem_values_insert hitem with rfl | hitem
      · exact hfresh.2 hother
      · exact hdisjoint _ (List.mem_map_of_mem hitem) _ hother rfl
    · intro item hitem
      rcases List.mem_append.mp hitem with hitem | hitem
      · rcases OrderedMap.mem_values_insert hitem with rfl | hitem
        · obtain ⟨round, pending, rfl⟩ : ∃ round pending,
              item = Session.humanPremise host.digest round pending (trim answer) := by
            unfold newPremise? at hleft
            split at hleft
            · rename_i pending round _ _
              split at hleft
              · exact ⟨round, pending, (Option.some.inj hleft).symm⟩
              · cases hleft
            · cases hleft
          exact isPremiseId_humanPremise _ _ _
        · exact hids item (List.mem_append_left _ hitem)
      · exact hids item (List.mem_append_right _ hitem)

/-- A fetch keeps the sides apart when no search has recorded the candidate. -/
theorem Apart.fetch {c : Core} (h : Apart c) (item : EvidenceInput) (hitem : IsFileId item.evidenceId)
    (hother : ¬ OnDeepSide c item.evidenceId) :
    Apart { c.call host (.recordEvidenceFetch item.evidenceId) with
      fetchedGrillEvidence := Core.remember c.fetchedGrillEvidence item } := by
  obtain ⟨ids, hids, hsession⟩ : ∃ ids : OrderedSet String, (∀ id ∈ ids, id = item.evidenceId ∨ id ∈ c.session.fetchedEvidenceIds) ∧
      (sessionStep host.digest (.recordEvidenceFetch item.evidenceId) c.session).2 =
        { c.session with fetchedEvidenceIds := ids } := by
    simp only [sessionStep, Session.runOp, map_apply, Session.recordEvidenceFetch, get_bind_apply, ite_apply_state,
      modify_apply]
    split
    · exact ⟨c.session.fetchedEvidenceIds, fun id hid => .inr hid, rfl⟩
    · exact ⟨c.session.fetchedEvidenceIds.add item.evidenceId, fun id hid => OrderedSet.mem_add.mp hid, rfl⟩
  show Apart { c with
    session := (sessionStep host.digest (.recordEvidenceFetch item.evidenceId) c.session).2
    calls := c.calls ++ [.recordEvidenceFetch item.evidenceId]
    fetchedGrillEvidence := Core.remember c.fetchedGrillEvidence item }
  rw [hsession]
  refine ⟨h.candidates, h.grill.remember hitem, h.deep, h.supplemental, ?_, h.locked, h.premises⟩
  intro id hgrill hdeep
  have hcases : id = item.evidenceId ∨ OnGrillSide c id := by
    rcases hgrill with hgrill | hgrill
    · exact (mem_remember hgrill).imp_right .inl
    · exact (hids id hgrill).imp_right .inr
  rcases hcases with rfl | hgrill
  · exact hother hdeep
  · exact h.sides id hgrill hdeep

/-- The session takes an item of a search, or it stays as it is. -/
theorem recordDeepSupplementalEvidence_writes (digest : String → String) (identity : DeepAttemptIdentity)
    (item : EvidenceInput) (s : SessionState) : ∃ ids,
    (sessionStep digest (.recordDeepSupplementalEvidence identity item.evidenceId (some item)) s).2 = s ∨
    (sessionStep digest (.recordDeepSupplementalEvidence identity item.evidenceId (some item)) s).2 =
      { s with
        deepSupplementalEvidenceIds := ids
        deepSupplementalEvidence := s.deepSupplementalEvidence.insert item.evidenceId item } := by
  refine ⟨s.deepSupplementalEvidenceIds.add item.evidenceId, ?_⟩
  simp only [sessionStep, Session.runOp, map_apply, Session.recordDeepSupplementalEvidence, get_bind_apply,
    ite_apply_state, pure_apply]
  split
  · exact .inl rfl
  · cases s.deepSupplementalEvidence.get? item.evidenceId with
    | none => exact .inr rfl
    | some existing =>
        simp only [ite_apply_state, pure_apply, throw_apply]
        split
        · exact .inl rfl
        · exact .inl rfl

/-- An item of a search keeps the sides apart when Grill has not fetched it. -/
theorem Apart.supplement {c : Core} (h : Apart c) {identity : DeepAttemptIdentity} {item : EvidenceInput}
    (hitem : IsFileId item.evidenceId) (hother : ¬ OnGrillSide c item.evidenceId) :
    Apart { c.call host (.recordDeepSupplementalEvidence identity item.evidenceId (some item)) with
      fetchedDeepSupplementalEvidence := Core.remember c.fetchedDeepSupplementalEvidence item } := by
  have hdeep : FileStore (Core.remember c.fetchedDeepSupplementalEvidence item) := h.deep.remember hitem
  obtain ⟨ids, hsession⟩ := recordDeepSupplementalEvidence_writes host.digest identity item c.session
  show Apart { c with
    session := (sessionStep host.digest (.recordDeepSupplementalEvidence identity item.evidenceId (some item)) c.session).2
    calls := c.calls ++ [.recordDeepSupplementalEvidence identity item.evidenceId (some item)]
    fetchedDeepSupplementalEvidence := Core.remember c.fetchedDeepSupplementalEvidence item }
  rcases hsession with hsession | hsession
  · rw [hsession]
    refine ⟨h.candidates, h.grill, hdeep, h.supplemental, ?_, h.locked, h.premises⟩
    intro id hgrill hid
    rcases hid with hid | hid
    · rcases mem_remember hid with rfl | hid
      · exact hother hgrill
      · exact h.sides id hgrill (.inl hid)
    · exact h.sides id hgrill (.inr hid)
  · rw [hsession]
    refine ⟨h.candidates, h.grill, hdeep, h.supplemental.insert hitem, ?_, h.locked, h.premises⟩
    intro id hgrill hid
    rcases hid with hid | hid
    · rcases mem_remember hid with rfl | hid
      · exact hother hgrill
      · exact h.sides id hgrill (.inl hid)
    · rcases OrderedMap.mem_insert.mp hid with rfl | hid
      · exact hother hgrill
      · exact h.sides id hgrill (.inr hid)

/-- A completed retrieval keeps the sides apart. -/
theorem Apart.lock {c : Core} (h : Apart c) {inherited : List EvidenceInput} {identity : DeepAttemptIdentity}
    (hids : FileIds (inherited ++ c.session.deepSupplementalEvidence.values)) :
    Apart (c.call host (.completeDeepRetrieval inherited none identity)) := by
  show Apart { c with
    session := (sessionStep host.digest (.completeDeepRetrieval inherited none identity) c.session).2
    calls := c.calls ++ [.completeDeepRetrieval inherited none identity] }
  rw [sessionStep, Session.runOp, map_apply]
  rcases Session.completeDeepRetrieval_cases inherited none identity c.session with ⟨r, hrun, -⟩ | ⟨ui, hrun⟩
  · rw [hrun]
    exact ⟨h.candidates, h.grill, h.deep, h.supplemental, h.sides, h.locked, h.premises⟩
  · rw [hrun]
    refine ⟨h.candidates, h.grill, h.deep, h.supplemental, h.sides, ?_, h.premises⟩
    intro locked hlocked
    rw [← Option.some.inj hlocked]
    exact hids

/-! ### A step -/

/-- The premise that an answer to a fallback leaves: it is accepted, that is, it confirms the fallback. -/
def newFallbackPremise? (host : Host) (s : ExtensionState) (answer : String) : Option EvidenceInput :=
  match Extension.pendingDeepQuestion? s, s.activeWorkflow with
  | some waitUser, some workflow =>
      if waitUser.kind = .deepDiscoveryFallback ∧ ¬ Session.refusesAnswer s.session waitUser (trim answer) then
        some (Extension.fallbackPremise host workflow.goal waitUser.question answer
          s.acceptedNeedsDiscoverySourceRoundIds)
      else none
  | _, _ => none

/-- **The event brings no ID to the other side**: a candidate that is read is none that a search has recorded, an
item that a search records is none that Grill has read, and an accepted answer leaves no premise under the ID of
another one. -/
def KeepsApart (host : Host) (files : Files) (s : ExtensionState) : Event → Prop
  | .grillEvidence candidateId => ∀ candidate ∈ Extension.admittedCandidate? s candidateId,
      ¬ OnDeepSide s.core candidate.candidateId
  | .deepSearch params => ∀ item ∈ Extension.itemsToRecord host files s params, ¬ OnGrillSide s.core item.evidenceId
  | e => ∀ answer ∈ submittedAnswer? host s e,
      (∀ premise ∈ newPremise? host.digest s.session answer,
        premise.evidenceId ∉ s.core.premises.map (·.evidenceId)) ∧
      ∀ premise ∈ newFallbackPremise? host s answer,
        premise.evidenceId ∉ s.session.humanPremises.values.map (·.evidenceId)

instance (host : Host) (files : Files) (s : ExtensionState) (e : Event) : Decidable (KeepsApart host files s e) := by
  unfold KeepsApart
  split <;> infer_instance

/-- While a step has only given answers, what a premise is made of is as before. -/
theorem path_answering {c : Core} (h : Path host files s₀ e c)
    (hcalls : ∀ op ∈ c.calls, ∃ answer, op = .recordAnswer answer) :
    c.activeWorkflow = s₀.activeWorkflow ∧
      c.acceptedNeedsDiscoverySourceRoundIds = s₀.acceptedNeedsDiscoverySourceRoundIds ∧
      (c.calls = [] → c.fallbackHumanPremise = s₀.fallbackHumanPremise) := by
  have hlast : ∀ {calls : List SessionOp} {op : SessionOp},
      (∀ made ∈ calls ++ [op], ∃ answer, made = .recordAnswer answer) → ∃ answer, op = .recordAnswer answer :=
    fun hall => hall _ (List.mem_append_right _ (List.mem_singleton.mpr rfl))
  induction h with
  | start hstart => exact ⟨rfl, rfl, fun _ => rfl⟩
  | @move c c' hpath hmove ih =>
      cases hmove with
      | called hsite =>
          obtain ⟨hworkflow, hrounds, -⟩ := ih fun op hop => hcalls op (List.mem_append_left _ hop)
          exact ⟨hworkflow, hrounds, fun hnone => absurd hnone (by simp [Core.call])⟩
      | started | fetched | supplemented | supplementRefused | fallbackEntered | grillEntered =>
          obtain ⟨answer, hanswer⟩ := hlast hcalls
          cases hanswer
      | left hmade hop =>
          obtain ⟨answer, hanswer⟩ := hlast hcalls
          rcases hop with rfl | ⟨rfl, -⟩ <;> cases hanswer
      | restored hrestores =>
          obtain ⟨active, saved, hframe⟩ := Extension.restoreTools_frame host c
          rw [hframe] at hcalls ⊢
          exact ih hcalls
      | finalized hmade =>
          rw [Extension.restoreTools_calls] at hcalls
          obtain ⟨answer, hanswer⟩ := hlast hcalls
          cases hanswer
      | discoveryNoted hlive hmade =>
          obtain ⟨answer, hanswer⟩ := hcalls _ (hmade ▸ List.mem_singleton.mpr rfl)
          cases hanswer
      | fallbackConfirmed hmade =>
          obtain ⟨hworkflow, hrounds, -⟩ := ih hcalls
          exact ⟨hworkflow, hrounds, fun hnone => absurd (hmade.symm.trans hnone) (by simp)⟩
      | _ => exact ih hcalls

/-- While a step has called nothing, the session is as before. -/
theorem path_session_nil {c : Core} (h : Path host files s₀ e c) (hcalls : c.calls = []) : c.session = s₀.session := by
  rw [Extension.path_session h, hcalls]
  rfl

/-- Without a round a fetch is refused. -/
theorem recordEvidenceFetch_withoutRound (digest : String → String) {s : SessionState}
    (hround : s.currentGrillRound = none) (id : String) : (sessionStep digest (.recordEvidenceFetch id) s).2 = s := by
  simp [sessionStep, Session.runOp, map_apply, Session.recordEvidenceFetch, hround]

theorem leave_session (c : Core) (op : SessionOp) :
    (c.leave host op).session = (sessionStep host.digest op c.session).2 := by
  simp only [Core.leave, Core.call, Extension.restoreTools_session]
  rfl

theorem leave_evidence (c : Core) (op : SessionOp) :
    (c.leave host op).fetchedGrillEvidence = .empty ∧ (c.leave host op).fetchedDeepSupplementalEvidence = .empty ∧
      (c.leave host op).fallbackHumanPremise = none := by
  obtain ⟨active, saved, hframe⟩ := Extension.restoreTools_frame host
    ({ c with explorationConsentGranted := false, pendingConvergenceRoundId := none } : Core).clearEvidence
  simp only [Core.leave, Core.call, hframe]
  exact ⟨rfl, rfl, rfl⟩

/-- Only a fetch brings IDs to the side of Grill. -/
theorem path_grillSide {c : Core} (h : Path host files s₀ e c) (he : ∀ id, e ≠ .grillEvidence id) :
    ∀ id, OnGrillSide c id → OnGrillSide s₀.core id := by
  have hcall : ∀ op : SessionOp, op.fetches = false → ∀ {s : SessionState} {id : String},
      id ∈ (sessionStep host.digest op s).2.fetchedEvidenceIds → id ∈ s.fetchedEvidenceIds :=
    fun _ hop s id hid => step_fetched host.digest hop s id hid
  induction h with
  | start hstart => exact fun id hid => hid
  | @move c c' hpath hmove ih =>
      intro id hid
      cases hmove with
      | called hsite =>
          refine ih id (hid.imp_right fun hid => ?_)
          generalize hmade : c.calls = calls at hsite
          cases hsite with
          | @fetchWithoutRound candidateId hround =>
              rw [← path_session_nil hpath hmade] at hround
              exact recordEvidenceFetch_withoutRound host.digest hround candidateId ▸ hid
          | _ => exact hcall _ rfl hid
      | started =>
          refine ih id (.inr ?_)
          exact hid.elim (fun hid => absurd hid (OrderedMap.notMem_empty id)) fun hid => hcall _ rfl hid
      | supplemented | supplementRefused | fallbackEntered => exact ih id (hid.imp_right fun hid => hcall _ rfl hid)
      | left hmade hop =>
          rw [OnGrillSide, (leave_evidence c _).1, leave_session] at hid
          refine ih id (.inr (hid.elim (fun hid => absurd hid (OrderedMap.notMem_empty id)) fun hid => ?_))
          rcases hop with rfl | ⟨rfl, -⟩
          · exact hcall _ rfl hid
          · exact hcall _ rfl hid
      | restored hrestores =>
          obtain ⟨active, saved, hframe⟩ := Extension.restoreTools_frame host c
          rw [hframe] at hid
          exact ih id hid
      | finalized hmade =>
          obtain ⟨active, saved, hframe⟩ := Extension.restoreTools_frame host (c.call host (.finalizeAdrBuild _ _))
          rw [hframe] at hid
          exact ih id (hid.imp_right fun hid => hcall _ rfl hid)
      | grillEntered =>
          refine ih id (hid.imp_right fun hid => ?_)
          exact hcall (.startGrillRound _ _) rfl (hcall (.beginGrill _) rfl hid)
      | fetched hevent => exact absurd hevent (he _)
      | _ => exact ih id hid

/-- An item for an attempt that is not live is refused. -/
theorem recordDeepSupplementalEvidence_stale (digest : String → String) {identity : DeepAttemptIdentity}
    {s : SessionState} (hlive : s.deepAttempt ≠ some identity) (item : EvidenceInput) :
    (sessionStep digest (.recordDeepSupplementalEvidence identity item.evidenceId (some item)) s).2 = s := by
  simp [sessionStep, Session.runOp, map_apply, Session.recordDeepSupplementalEvidence, hlive]

/-- An item whose ID stands for another content is refused. -/
theorem recordDeepSupplementalEvidence_conflict (digest : String → String) {s : SessionState}
    {item existing : EvidenceInput} (h : s.deepSupplementalEvidence.get? item.evidenceId = some existing)
    (hcontent : existing.content ≠ item.content) (identity : DeepAttemptIdentity) :
    (sessionStep digest (.recordDeepSupplementalEvidence identity item.evidenceId (some item)) s).2 = s := by
  by_cases hlive : s.deepAttempt = some identity
  · simp [sessionStep, Session.runOp, map_apply, Session.recordDeepSupplementalEvidence, hlive, h, Ne.symm hcontent]
  · exact recordDeepSupplementalEvidence_stale digest hlive item

/-- Only a search brings IDs to the side of the searches. -/
theorem path_deepSide {c : Core} (h : Path host files s₀ e c) (he : ∀ params, e ≠ .deepSearch params) :
    ∀ id, OnDeepSide c id → OnDeepSide s₀.core id := by
  have hcall : ∀ op : SessionOp, op.supplements = false → ∀ {s : SessionState} {id : String},
      id ∈ (sessionStep host.digest op s).2.deepSupplementalEvidence → id ∈ s.deepSupplementalEvidence := by
    intro op hop s id hid
    rcases step_supplemental host.digest hop s with hsame | hnone
    · exact hsame ▸ hid
    · exact absurd (hnone ▸ hid) (OrderedMap.notMem_empty id)
  induction h with
  | start hstart => exact fun id hid => hid
  | @move c c' hpath hmove ih =>
      intro id hid
      cases hmove with
      | called hsite =>
          refine ih id (hid.imp_right fun hid => ?_)
          generalize hmade : c.calls = calls at hsite
          cases hsite with
          | @supplementStale _ identity item hstale =>
              rw [← hmade, ← Extension.path_session hpath] at hstale
              exact recordDeepSupplementalEvidence_stale host.digest hstale item ▸ hid
          | _ => exact hcall _ rfl hid
      | @supplementRefused identity item existing hheld hcontent =>
          have hsame := recordDeepSupplementalEvidence_conflict host.digest hheld hcontent
          exact ih id (hid.imp_right fun hid => hsame identity ▸ hid)
      | started =>
          refine ih id (.inr ?_)
          exact hid.elim (fun hid => absurd hid (OrderedMap.notMem_empty id)) fun hid => hcall _ rfl hid
      | fetched | fallbackEntered => exact ih id (hid.imp_right fun hid => hcall _ rfl hid)
      | left hmade hop =>
          rw [OnDeepSide, (leave_evidence c _).2.1, leave_session] at hid
          refine ih id (.inr (hid.elim (fun hid => absurd hid (OrderedMap.notMem_empty id)) fun hid => ?_))
          rcases hop with rfl | ⟨rfl, -⟩
          · exact hcall _ rfl hid
          · exact hcall _ rfl hid
      | restored hrestores =>
          obtain ⟨active, saved, hframe⟩ := Extension.restoreTools_frame host c
          rw [hframe] at hid
          exact ih id hid
      | finalized hmade =>
          obtain ⟨active, saved, hframe⟩ := Extension.restoreTools_frame host (c.call host (.finalizeAdrBuild _ _))
          rw [hframe] at hid
          exact ih id (hid.imp_right fun hid => hcall _ rfl hid)
      | grillEntered =>
          refine ih id (hid.imp_right fun hid => ?_)
          exact hcall (.startGrillRound _ _) rfl (hcall (.beginGrill _) rfl hid)
      | supplemented hfinds =>
          obtain ⟨params, rfl⟩ : ∃ params, e = .deepSearch params := by
            cases e with
            | deepSearch params => exact ⟨params, rfl⟩
            | _ => exact hfinds.elim
          exact absurd rfl (he params)
      | _ => exact ih id hid

/-- Forgetting what is kept across the rounds keeps the sides apart. -/
theorem Apart.clear {c : Core} (h : Apart c) : Apart c.clearEvidence := by
  refine ⟨h.candidates, fileStore_empty, fileStore_empty, h.supplemental, ?_, h.locked, ?_⟩
  · intro id hgrill hdeep
    have hgrill := hgrill.resolve_left (OrderedMap.notMem_empty id)
    have hdeep := hdeep.resolve_left (OrderedMap.notMem_empty id)
    exact h.sides id (.inr hgrill) (.inr hdeep)
  · have hpremises := h.premises
    rw [Core.premises] at hpremises
    show ((c.session.humanPremises.values ++ ([] : List EvidenceInput)).map (·.evidenceId)).Nodup ∧
      ∀ premise ∈ c.session.humanPremises.values ++ [], IsPremiseId premise.evidenceId
    rw [List.append_nil]
    exact ⟨hpremises.1.sublist ((List.sublist_append_left _ _).map _),
      fun premise hmem => hpremises.2 premise (List.mem_append_left _ hmem)⟩

/-- Leaving the workflow keeps the sides apart. -/
theorem Apart.leave {c : Core} (h : Apart c) {op : SessionOp} (hop : op.addsEvidence = false) :
    Apart (c.leave host op) := by
  have hcalled : Apart (c.clearEvidence.call host op) := h.clear.forgets (step_forgets host.digest hop c.session)
  obtain ⟨active, saved, hframe⟩ := Extension.restoreTools_frame host
    ({ c with explorationConsentGranted := false, pendingConvergenceRoundId := none } : Core).clearEvidence
  simp only [Core.leave, hframe]
  refine ⟨?_, hcalled.grill, hcalled.deep, hcalled.supplemental, hcalled.sides, hcalled.locked, hcalled.premises⟩
  intro workflow hworkflow
  dsimp only at hworkflow
  split at hworkflow
  · exact h.candidates workflow hworkflow
  · cases hworkflow

/-- A discovery keeps the sides apart. -/
theorem Apart.discover {c : Core} (h : Apart c) (goal rootDir : String) :
    Apart (c.discover host files goal rootDir) := by
  let discovery := Extension.buildGrillCompatibleDiscovery host files rootDir (files.runLightDiscovery rootDir goal) goal
  let snapshot : GrillEvidenceSnapshot := ⟨c.nextRef, discovery.candidates, discovery.manifest⟩
  have hcalled : Apart (c.call host (.startGrillRound goal snapshot)) :=
    h.forgets (step_forgets host.digest rfl c.session)
  refine ⟨?_, hcalled.grill, hcalled.deep, hcalled.supplemental, hcalled.sides, hcalled.locked, hcalled.premises⟩
  intro workflow hworkflow
  rw [← Option.some.inj hworkflow]
  exact Extension.discovery_ids

/-- Each call of the session keeps the sides apart. -/
theorem Apart.called {c : Core} (h : Apart c) (hpath : Path host files s₀ e c) (hs : Apart s₀.core)
    (hkeeps : KeepsApart host files s₀ e) {op : SessionOp} (hsite : CallSite host s₀ e c.calls op) :
    Apart (c.call host op) := by
  have hforgets : op.addsEvidence = false → Apart (c.call host op) :=
    fun hop => h.forgets (step_forgets host.digest hop c.session)
  generalize hmade : c.calls = calls at hsite
  cases hsite with
  | @answer answer hsubmitted =>
      refine h.answer fun premise hpremise => ?_
      have hnew : ∀ premise ∈ newPremise? host.digest s₀.session answer,
          premise.evidenceId ∉ s₀.core.premises.map (·.evidenceId) := by
        cases e with
        | grillEvidence | deepSearch => cases hsubmitted
        | _ => exact (hkeeps answer hsubmitted).1
      have hsession := path_session_nil hpath hmade
      have hfallback := (path_answering hpath (by simp [hmade])).2.2 hmade
      rw [Core.premises, hsession, hfallback]
      exact hnew premise (hsession ▸ hpremise)
  | @completeRetrieval identity workflow hcompletes hlive hworkflow =>
      refine h.lock ?_
      rw [path_session_nil hpath hmade]
      exact hs.locks hworkflow
  | @deepResult identity result hlive hresult =>
      refine hforgets ?_
      show (SessionOp.handleDeepResult identity result).retrievalIdentity?.isSome = false
      rw [submitsDeepResult_retrieval hresult]
      rfl
  | @supplementStale _ identity item hstale =>
      rw [← hmade, ← Extension.path_session hpath] at hstale
      have hsame := recordDeepSupplementalEvidence_stale host.digest hstale item
      refine h.forgets (t := (sessionStep host.digest _ c.session).2) ?_
      rw [hsame]
      exact ⟨fun _ hid => hid, .inl rfl, .inl rfl, .inl rfl⟩
  | @fetchWithoutRound candidateId hround =>
      rw [← path_session_nil hpath hmade] at hround
      have hsame := recordEvidenceFetch_withoutRound host.digest hround candidateId
      refine h.forgets (t := (sessionStep host.digest _ c.session).2) ?_
      rw [hsame]
      exact ⟨fun _ hid => hid, .inl rfl, .inl rfl, .inl rfl⟩
  | _ => exact hforgets rfl

/-- A confirmed fallback keeps the sides apart when its premise is a new one. -/
theorem Apart.fallback {c : Core} (h : Apart c) {decisionId : Option String} {premise : EvidenceInput}
    (hid : IsPremiseId premise.evidenceId)
    (hnew : premise.evidenceId ∉ c.session.humanPremises.values.map (·.evidenceId)) :
    Apart { c with fallbackHumanDecisionId := decisionId, fallbackHumanPremise := some premise } := by
  refine ⟨h.candidates, h.grill, h.deep, h.supplemental, h.sides, h.locked, ?_⟩
  have hpremises := h.premises
  rw [Core.premises, List.map_append] at hpremises
  obtain ⟨⟨hsession, -, -⟩, hids⟩ := And.imp_left List.nodup_append.mp hpremises
  show ((c.session.humanPremises.values ++ [premise]).map (·.evidenceId)).Nodup ∧
    ∀ item ∈ c.session.humanPremises.values ++ [premise], IsPremiseId item.evidenceId
  rw [List.map_append]
  refine ⟨List.nodup_append.mpr ⟨hsession, List.nodup_singleton _, ?_⟩, fun item hitem => ?_⟩
  · rintro id hid _ hlast rfl
    rw [List.mem_singleton.mp hlast] at hid
    exact hnew hid
  · rcases List.mem_append.mp hitem with hitem | hitem
    · exact hids item (List.mem_append_left _ hitem)
    · rwa [List.mem_singleton.mp hitem]

/-- An answer that is not one to a Grill question leaves the premises of the session. -/
theorem recordAnswer_keepsPremises (digest : String → String) {s : SessionState} {answer : String}
    (h : newPremise? digest s answer = none) :
    (sessionStep digest (.recordAnswer answer) s).2.humanPremises = s.humanPremises := by
  rcases (recordAnswer_evidence digest answer s).2 with hsame | ⟨premise, key, hleft, -⟩
  · exact hsame
  · rw [h] at hleft
    cases hleft

/-- The answers that a step gives were submitted with its event. -/
theorem path_answer_submitted {c : Core} (h : Path host files s₀ e c) (answer : String)
    (hmem : .recordAnswer answer ∈ c.calls) : submittedAnswer? host s₀ e = some answer := by
  have hcall := path_calls h _ hmem
  cases hcall with
  | site hsite =>
      cases hsite with
      | answer hsubmitted => exact hsubmitted

/-- The answer to a fallback leaves the premises of the Grill answers as they are. -/
theorem fallback_keepsPremises {c : Core} {answer : String} {waitUser : WaitUserState} (h : Path host files s₀ e c)
    (hmade : c.calls = [.recordAnswer answer]) (hasks : Extension.pendingDeepQuestion? s₀ = some waitUser)
    (hkind : waitUser.kind = .deepDiscoveryFallback) : c.session.humanPremises = s₀.session.humanPremises := by
  have hnone : newPremise? host.digest s₀.session answer = none := by
    have hshown := pendingDeepQuestion?_shown hasks
    unfold newPremise?
    rw [hshown]
    cases s₀.session.currentGrillRound with
    | none => rfl
    | some round => exact if_neg fun h => absurd (hkind.symm.trans h.1) (by simp)
  rw [Extension.path_session h, hmade]
  exact recordAnswer_keepsPremises host.digest hnone

/-- The premise of a confirmed fallback is the one that the event was to leave. -/
theorem fallback_premise_apart {c : Core} {answer : String} {workflow : ActiveWorkflowContext}
    {waitUser : WaitUserState} (h : Path host files s₀ e c) (hwaiting : PendingIffWaiting s₀.session)
    (hkeeps : KeepsApart host files s₀ e) (hmade : c.calls = [.recordAnswer answer])
    (hworkflow : c.activeWorkflow = some workflow) (hasks : Extension.pendingDeepQuestion? s₀ = some waitUser)
    (hkind : waitUser.kind = .deepDiscoveryFallback) (hanswered : c.session.uiState.stage ≠ .workflow .waitUser) :
    (Extension.fallbackPremise host workflow.goal waitUser.question answer
      c.acceptedNeedsDiscoverySourceRoundIds).evidenceId ∉ s₀.session.humanPremises.values.map (·.evidenceId) := by
  have hsubmitted := path_answer_submitted h answer (by simp [hmade])
  obtain ⟨hsame, hrounds, -⟩ := path_answering h (by simp [hmade])
  have hleft : newFallbackPremise? host s₀ answer = some (Extension.fallbackPremise host workflow.goal
      waitUser.question answer c.acceptedNeedsDiscoverySourceRoundIds) := by
    rw [newFallbackPremise?, hasks, ← hsame, hworkflow, hrounds]
    refine if_pos ⟨hkind, fun hrefuses => hanswered ?_⟩
    rw [Extension.path_session h, hmade]
    exact answer_refused_shown hwaiting hasks hrefuses
  cases e with
  | grillEvidence | deepSearch => cases hsubmitted
  | _ => exact (hkeeps answer hsubmitted).2 _ hleft

/-- **The moves of a step keep the sides apart**, when its event brings no ID to the other side. -/
theorem path_apart {c : Core} (h : Path host files s₀ e c) (hs : Apart s₀.core)
    (hwaiting : PendingIffWaiting s₀.session) (hkeeps : KeepsApart host files s₀ e) : Apart c := by
  induction h with
  | start hstart => exact hs
  | @move c c' hpath hmove ih =>
      cases hmove with
      | called hsite => exact ih.called hpath hs hkeeps hsite
      | started => exact ih.clear.forgets (step_forgets host.digest rfl c.session)
      | left hmade hop =>
          rcases hop with rfl | ⟨rfl, -⟩
          · exact ih.leave rfl
          · exact ih.leave rfl
      | restored hrestores =>
          obtain ⟨active, saved, hframe⟩ := Extension.restoreTools_frame host c
          rw [hframe]
          exact ⟨ih.candidates, ih.grill, ih.deep, ih.supplemental, ih.sides, ih.locked, ih.premises⟩
      | @finalized identity candidate commit hmade =>
          have hcalled : Apart (c.call host (.finalizeAdrBuild identity commit)) :=
            ih.forgets (step_forgets host.digest rfl c.session)
          obtain ⟨active, saved, hframe⟩ :=
            Extension.restoreTools_frame host (c.call host (.finalizeAdrBuild identity commit))
          rw [hframe]
          exact ⟨hcalled.candidates, hcalled.grill, hcalled.deep, hcalled.supplemental, hcalled.sides,
            hcalled.locked, hcalled.premises⟩
      | fallbackEntered => exact ih.forgets (step_forgets host.digest rfl c.session)
      | @grillEntered goal rootDir summary =>
          have hdiscovered : Apart (c.discover host files goal rootDir) := ih.discover goal rootDir
          have hbegins : (SessionOp.beginGrill summary).addsEvidence = false := rfl
          have hbegun : Apart ((c.discover host files goal rootDir).call host (.beginGrill summary)) :=
            hdiscovered.forgets (step_forgets host.digest hbegins _)
          exact ⟨hbegun.candidates, hbegun.grill, hbegun.deep, hbegun.supplemental, hbegun.sides, hbegun.locked,
            hbegun.premises⟩
      | @fetched candidateId workflow candidate hevent hmade hactive hworkflow hcandidate hround hadmitted =>
          subst hevent
          have hsnapshot : SnapshotIds workflow.snapshot := hs.candidates workflow hworkflow
          have hid : candidate.candidateId = candidateId :=
            hsnapshot.1 candidateId candidate (OrderedMap.get?_eq_some_iff.mp hcandidate)
          refine ih.fetch (Extension.candidateEvidence candidate) ?_ ?_
          · show IsFileId candidate.candidateId
            rw [hid]
            exact hsnapshot.2 _ (OrderedMap.mem_of_entry (OrderedMap.get?_eq_some_iff.mp hcandidate))
          · exact fun hdeep => hkeeps candidate hadmitted (path_deepSide hpath nofun _ hdeep)
      | @supplemented identity item hfinds =>
          obtain ⟨params, rfl⟩ : ∃ params, e = .deepSearch params := by
            cases e with
            | deepSearch params => exact ⟨params, rfl⟩
            | _ => exact hfinds.elim
          refine ih.supplement (Extension.newlyFound_ids hs.candidates (Extension.itemsToRecord_new hfinds.2)) ?_
          exact fun hgrill => hkeeps item hfinds.2 (path_grillSide hpath nofun _ hgrill)
      | @supplementRefused identity item existing hheld hcontent =>
          have hsame := recordDeepSupplementalEvidence_conflict host.digest hheld hcontent identity
          refine ih.forgets (t := (sessionStep host.digest _ c.session).2) ?_
          rw [hsame]
          exact ⟨fun _ hid => hid, .inl rfl, .inl rfl, .inl rfl⟩
      | fallbackConfirmed hmade hworkflow hasks hkind hanswered =>
          refine ih.fallback (isPremiseId_fallbackPremise _ _ _ _) ?_
          rw [fallback_keepsPremises hpath hmade hasks hkind]
          exact fallback_premise_apart hpath hwaiting hkeeps hmade hworkflow hasks hkind hanswered
      | _ => exact ⟨ih.candidates, ih.grill, ih.deep, ih.supplemental, ih.sides, ih.locked, ih.premises⟩

/-! ### Runs -/

theorem apart_loaded (tools : List String) : Apart (loadedExtension tools).core := by
  refine ⟨nofun, fileStore_empty, fileStore_empty, fileStore_empty, ?_, nofun, List.nodup_nil, nofun⟩
  intro id hgrill
  rcases hgrill with hgrill | hgrill
  · exact absurd hgrill (OrderedMap.notMem_empty id)
  · exact absurd hgrill (OrderedSet.notMem_empty id)

theorem step_apart (host : Host) (s : ExtensionState) (o : Occurrence) (hs : Apart s.core)
    (hwaiting : PendingIffWaiting s.session) (hkeeps : KeepsApart host o.files s o.event) :
    Apart (extensionStep host o s).2.core :=
  path_apart (extensionStep_path host o s)
    ⟨hs.candidates, hs.grill, hs.deep, hs.supplemental, hs.sides, hs.locked, hs.premises⟩ hwaiting hkeeps

/-- **The evidence handed to the package has no ID twice**, in every state of a run whose events bring no ID
from one side to the other, whether an attempt is live in it or not. -/
theorem package_ids_nodup (host : Host) (tools : List String) (os : List Occurrence)
    (h : Admissible (extensionStep host) (fun s o => KeepsApart host o.files s o.event) (loadedExtension tools) os) :
    (((Extension.packageEvidence (finish (extensionStep host) (loadedExtension tools) os)).1 ++
        (Extension.packageEvidence (finish (extensionStep host) (loadedExtension tools) os)).2 ++
        Extension.packagePremises (finish (extensionStep host) (loadedExtension tools) os)).map
      (·.evidenceId)).Nodup := by
  have hapart : Apart (finish (extensionStep host) (loadedExtension tools) os).core ∧
      PendingIffWaiting (finish (extensionStep host) (loadedExtension tools) os).session :=
    holds_at_finish (I := fun s => Apart s.core ∧ PendingIffWaiting s.session)
      (fun s o hs hkeeps => ⟨step_apart host s o hs.1 hs.2 hkeeps, step_waiting host s o hs.2⟩)
      ⟨apart_loaded tools, init_pendingIffWaiting⟩ h
  exact hapart.1.package

/-- A run to the understanding phase, with a candidate of Grill and a page of the wiki. -/
theorem package_ids_nodup_retrieved :
    (((Extension.packageEvidence (sampleAfter (runToRetrieval ++ [acceptRetrieval]))).1 ++
        (Extension.packageEvidence (sampleAfter (runToRetrieval ++ [acceptRetrieval]))).2 ++
        Extension.packagePremises (sampleAfter (runToRetrieval ++ [acceptRetrieval]))).map
      (·.evidenceId)).Nodup ∧
      ((Extension.packageEvidence (sampleAfter (runToRetrieval ++ [acceptRetrieval]))).1 ++
        (Extension.packageEvidence (sampleAfter (runToRetrieval ++ [acceptRetrieval]))).2).length = 2 :=
  ⟨package_ids_nodup sampleHost sampleTools (withFiles sampleFiles (runToRetrieval ++ [acceptRetrieval]))
    (by decide +kernel), by decide +kernel⟩

/-- The file of the code base has a file of the same path under the root. -/
def targetFiles : Files := { sampleFiles with readEvidenceSource := fun _ => .ok ⟨"do", none⟩ }

/-- The ID of the target file. -/
def targetCandidateId : String := Extension.createEvidenceId sampleHost "target" "target/do.ts" "do"

/-- A search finds the target in the first round, Grill reads it in the second, and a fallback is confirmed. -/
def targetInBothRounds : List Event :=
  [startRequest, .grillEvidence sampleCandidateId,
    .grillComplete (readyForDeep "grill-1" [sampleCandidateId]) sampleCtx, .agentSettled, .deepTimer,
    .messageStart ["x"], .deepSearch ⟨"deep-1", "grill-1", "do", .target, some "do.ts"⟩,
    .deepRetrievalComplete "call-1" "deep-1" "grill-1" (.needsDiscovery none) sampleCtx,
    .toolResult "call-1" "forge_deep_retrieval_complete" (some false), .agentSettled, .discoveryTimer,
    .grillEvidence targetCandidateId, .grillComplete (readyForDeep "grill-2" [targetCandidateId]) sampleCtx,
    .agentSettled, .deepTimer,
    .deepRetrievalComplete "call-2" "deep-2" "grill-2" (.needsDiscovery none) sampleCtx, confirmFallback]

/-- The understanding phase is live, and the ID of the target comes twice. -/
theorem target_fetched_twice :
    (finish (extensionStep sampleHost) (loadedExtension sampleTools)
      (withFiles targetFiles targetInBothRounds)).session.deepAttempt.map (·.phase) = some .knowledgeUnderstanding ∧
    ¬ (((Extension.packageEvidence (finish (extensionStep sampleHost) (loadedExtension sampleTools)
          (withFiles targetFiles targetInBothRounds))).1 ++
        (Extension.packageEvidence (finish (extensionStep sampleHost) (loadedExtension sampleTools)
          (withFiles targetFiles targetInBothRounds))).2 ++
        Extension.packagePremises (finish (extensionStep sampleHost) (loadedExtension sampleTools)
          (withFiles targetFiles targetInBothRounds))).map (·.evidenceId)).Nodup := by
  decide +kernel

end ForgeRuntime
