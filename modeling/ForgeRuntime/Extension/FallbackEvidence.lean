import ForgeRuntime.Extension.EvidenceLock

/-!
# The evidence of both rounds

What the tools record of the evidence is kept across rounds, until the workflow is left.  After a confirmed
fallback the package is made of it, unless a completed retrieval has locked the evidence of its own snapshot.

* `recorded_held` — what an accepted call hands to the model is kept;
* `step_keeps_evidence` — it stays until the workflow is left;
* `fallback_keeps_both_rounds` — it is in every package of the fallback attempt, with the premise;
* `lock_hides_first_round` — a run in which the lock leaves the first round out.
-/

namespace ForgeRuntime

open EventDriven EventDriven.Machine EventDriven.Text EventDriven.Turn

variable {host : Host} {files : Files} {s₀ : ExtensionState} {e : Event}

/-! ### Evidence that is held -/

/-- The store holds this content under the ID of the item. -/
def HeldIn (store : OrderedMap String EvidenceInput) (item : EvidenceInput) : Prop :=
  ∃ kept, store.get? item.evidenceId = some kept ∧ kept.content = item.content

theorem heldIn_of_remembered {store store' : OrderedMap String EvidenceInput} {item : EvidenceInput}
    (h : Extension.rememberedIn store item = .ok store') : HeldIn store' item := by
  unfold Extension.rememberedIn at h
  cases hget : store.get? item.evidenceId with
  | none =>
      simp only [hget, Except.ok.injEq] at h
      rw [← h]
      exact ⟨item, OrderedMap.get?_insert_self (OrderedMap.get?_eq_none_iff.mp hget) item, rfl⟩
  | some existing =>
      simp only [hget] at h
      split at h
      case isTrue => cases h
      case isFalse hsame =>
        obtain rfl := Except.ok.inj h
        exact ⟨existing, hget, not_not.mp hsame⟩

/-- Another item leaves what is held. -/
theorem heldIn_remembered {store store' : OrderedMap String EvidenceInput} {item other : EvidenceInput}
    (hother : Extension.rememberedIn store other = .ok store') (h : HeldIn store item) :
    HeldIn store' item := by
  unfold Extension.rememberedIn at hother
  obtain ⟨kept, hkept, hcontent⟩ := h
  cases hget : store.get? other.evidenceId with
  | none =>
      simp only [hget, Except.ok.injEq] at hother
      rw [← hother]
      exact ⟨kept, OrderedMap.get?_insert_of_notMem (OrderedMap.get?_eq_none_iff.mp hget) hkept, hcontent⟩
  | some existing =>
      simp only [hget] at hother
      split at hother
      case isTrue => cases hother
      case isFalse =>
        obtain rfl := Except.ok.inj hother
        exact ⟨kept, hkept, hcontent⟩

theorem heldIn_remember {store : OrderedMap String EvidenceInput} {item other : EvidenceInput}
    (h : HeldIn store item) : HeldIn (Core.remember store other) item := by
  unfold Core.remember
  cases hother : Extension.rememberedIn store other with
  | error error => exact h
  | ok store' => exact heldIn_remembered hother h

/-- One of the two stores holds the item. -/
def Held (grill deep : OrderedMap String EvidenceInput) (item : EvidenceInput) : Prop :=
  HeldIn grill item ∨ HeldIn deep item

/-! ### What an accepted call records -/

/-- The evidence that a call has handed to the model as new: the fetched candidate, or what a search found. -/
def recordedBy (e : Event) (reply : Reply) : List EvidenceInput :=
  match e, reply with
  | .grillEvidence _, .tool result =>
      (result.details.candidate.map fun candidate => { candidate with content := result.text }).toList
  | .deepSearch _, .tool result => result.details.evidence.getD []
  | _, _ => []

namespace Extension

/-- When `m` returns, what its reply hands to the model is kept in the store. -/
abbrev Records (e : Event) (store : ExtensionState → OrderedMap String EvidenceInput) (m : Ext Reply) : Prop :=
  Turn.Leads (fun _ => True) m (fun reply t => ∀ item ∈ recordedBy e reply, HeldIn (store t) item) fun _ => True

theorem records_nothing {store : ExtensionState → OrderedMap String EvidenceInput} {reply : Reply}
    (h : recordedBy e reply = []) : Records e store (pure reply) := by
  refine leads_pure fun t _ item hitem => ?_
  rw [h] at hitem
  exact absurd hitem List.not_mem_nil

theorem records_throw {store : ExtensionState → OrderedMap String EvidenceInput} (error : String) :
    Records e store (throw error) := leads_throw fun _ _ => trivial

/-- What comes first records nothing itself. -/
theorem records_bind {α : Type} {store : ExtensionState → OrderedMap String EvidenceInput} {m : Ext α}
    {f : α → Ext Reply} (hf : ∀ a, Records e store (f a)) : Records e store (m >>= f) :=
  leads_bind leads_anywhere hf

theorem forgeGrillEvidence_records (candidateId : String) :
    Records (.grillEvidence candidateId) (·.fetchedGrillEvidence) (forgeGrillEvidence candidateId) := by
  refine leads_get_bind fun s _ => leads_ite (fun _ => records_nothing rfl) fun _ => ?_
  cases s.activeWorkflow with
  | none => exact records_throw _
  | some workflow =>
      cases hcandidate : workflow.snapshot.candidates.get? candidateId with
      | none =>
          simp only [hcandidate]
          exact records_throw _
      | some candidate =>
          simp only [hcandidate]
          cases evidenceTooLargeRejection? candidate.metadata with
          | some rejection => exact records_nothing rfl
          | none =>
              refine leads_ite (fun _ => records_nothing rfl) fun _ =>
                leads_ite (fun _ => records_nothing rfl) fun _ => ?_
              refine records_bind fun _ => leads_get_bind fun s _ => ?_
              cases hstore : rememberedIn s.fetchedGrillEvidence (candidateEvidence candidate) with
              | error error => exact records_throw _
              | ok store =>
                  refine leads_modify_bind (M := fun t => t.fetchedGrillEvidence = store) (fun _ _ => rfl) ?_
                  refine leads_pure fun t ht item hitem => ?_
                  obtain rfl : item = candidateEvidence candidate := by
                    simpa [recordedBy, candidateEvidence] using hitem
                  rw [ht]
                  exact heldIn_of_remembered hstore

/-- The attempt is live, and these items are kept. -/
def Keeping (identity : DeepAttemptIdentity) (items : List EvidenceInput) (t : ExtensionState) : Prop :=
  t.session.deepAttempt = some identity ∧ ∀ item ∈ items, HeldIn t.fetchedDeepSupplementalEvidence item

/-- The session takes an item for the live attempt, or it throws. -/
theorem recordDeepSupplementalEvidence_takes {identity : DeepAttemptIdentity} {items : List EvidenceInput}
    (item : EvidenceInput) :
    Turn.Leads (Keeping identity items) (sessionState.recordDeepSupplementalEvidence identity item)
      (fun result t => Keeping identity items t ∧ ∃ ui accepted, result = .accepted ui accepted)
      fun _ => True := by
  intro s hs
  refine ⟨fun result t hrun => ?_, fun _ _ _ => trivial⟩
  have hsession := call_run hrun
  have hframe : t.fetchedDeepSupplementalEvidence = s.fetchedDeepSupplementalEvidence := by
    rw [call_frame hrun]
  have hlive : t.session.deepAttempt = s.session.deepAttempt := by
    let record : SessionOp := .recordDeepSupplementalEvidence identity item.evidenceId (some item)
    have hkeeps : (sessionStep id record s.session).2.deepAttempt = s.session.deepAttempt :=
      bookkeeping_deepAttempt id rfl s.session
    rw [← hkeeps, sessionStep, Session.runOp, map_apply, hsession]
  refine ⟨⟨hlive.trans hs.1, hframe ▸ hs.2⟩, ?_⟩
  rcases Session.recordDeepSupplementalEvidence_cases identity item s.session with
    ⟨hdead, -⟩ | ⟨existing, error, -, -, hthrows⟩ | ⟨-, -, ui, t', haccepts⟩
  · exact absurd hs.1 hdead
  · rw [hthrows] at hsession
    cases hsession
  · rw [haccepts] at hsession
    cases hsession
    exact ⟨ui, identity, rfl⟩

theorem keeping_remembered {identity : DeepAttemptIdentity} {items : List EvidenceInput} {item : EvidenceInput}
    {s : ExtensionState} {store : OrderedMap String EvidenceInput} (hs : Keeping identity items s)
    (hstore : rememberedIn s.fetchedDeepSupplementalEvidence item = .ok store) :
    Keeping identity (items ++ [item]) { s with fetchedDeepSupplementalEvidence := store } := by
  refine ⟨hs.1, fun other hother => ?_⟩
  rcases List.mem_append.mp hother with hother | hother
  · exact heldIn_remembered hstore (hs.2 other hother)
  · rw [List.mem_singleton.mp hother]
    exact heldIn_of_remembered hstore

/-- **The loop over the found items keeps them all**, or it throws. -/
theorem recordSearchEvidence_keeps {identity : DeepAttemptIdentity} (items kept : List EvidenceInput) :
    Turn.Leads (Keeping identity kept) (recordSearchEvidence identity items)
      (fun _ t => Keeping identity (kept ++ items) t) fun _ => True := by
  induction items generalizing kept with
  | nil => exact leads_pure fun t ht => by rwa [List.append_nil]
  | cons item rest ih =>
      refine leads_bind (recordDeepSupplementalEvidence_takes item) fun result => ?_
      refine leads_pre (fun _ hs => hs) fun haccepted => ?_
      obtain ⟨ui, accepted, rfl⟩ := haccepted
      refine leads_get_bind_eq fun s hs => ?_
      dsimp only
      cases hstore : rememberedIn s.fetchedDeepSupplementalEvidence item with
      | error error => exact leads_throw fun _ _ => trivial
      | ok store =>
          refine leads_modify_bind (M := Keeping identity (kept ++ [item])) (fun t ht => ?_) ?_
          · rw [ht]
            exact keeping_remembered hs hstore
          · rw [show kept ++ item :: rest = kept ++ [item] ++ rest by simp]
            exact ih (kept ++ [item])

/-- The budget is committed for the live attempt only. -/
theorem commitDeepSearchBudget_live (identity : DeepAttemptIdentity) :
    Turn.Leads (fun _ => True) (sessionState.commitDeepSearchBudget identity)
      (fun answer t => answer ≠ .stale → t.session.deepAttempt = some identity) fun _ => True := by
  intro s _
  refine ⟨fun answer t hrun hanswer => ?_, fun _ _ _ => trivial⟩
  have hsession := call_run hrun
  rcases Session.commitDeepSearchBudget_cases s.session identity with hstale | ⟨hlive, committed, count, rs, hcommits⟩
  · rw [hstale] at hsession
    exact absurd (Except.ok.inj (congrArg Prod.fst hsession)).symm hanswer
  · rw [hcommits] at hsession
    obtain ⟨-, hstate⟩ := Prod.mk.inj hsession
    rw [← hstate]
    exact hlive

theorem searchWithBudget_records {params : DeepSearchParams} {identity : DeepAttemptIdentity}
    (found : Except String (List EvidenceInput)) (fetched : List GrillEvidenceCandidate) :
    Records (.deepSearch params) (·.fetchedDeepSupplementalEvidence) (searchWithBudget identity found fetched) := by
  unfold searchWithBudget
  cases found with
  | error error => exact records_bind fun _ => records_throw _
  | ok evidence =>
      dsimp only
      split
      · exact records_bind fun _ => records_nothing rfl
      · refine leads_get_bind fun s _ => leads_ite (fun _ => records_bind fun _ => records_nothing rfl) fun _ => ?_
        refine leads_bind (commitDeepSearchBudget_live identity) fun answer => leads_ite (fun _ => ?_) fun hlive => ?_
        · exact leads_mono (records_nothing rfl) (fun _ _ => trivial) fun _ _ h => h
        · refine leads_bind (Q := fun _ t => Keeping identity (evidence.filter
            fun item => (reusedCandidate? fetched item).isNone) t) ?_ fun _ => ?_
          · exact leads_mono (recordSearchEvidence_keeps _ []) (fun t ht => ⟨ht hlive, by simp⟩) fun _ _ h => h
          · exact leads_pure fun t ht item hitem => ht.2 item (by simpa [recordedBy] using hitem)

theorem searchSource_records {files : Files} {params : DeepSearchParams} {identity : DeepAttemptIdentity}
    {workflow : ActiveWorkflowContext} {query : String} {selected : Option GrillEvidenceCandidate} :
    Records (.deepSearch params) (·.fetchedDeepSupplementalEvidence)
      (searchSource host files identity params workflow query selected) := by
  refine leads_get_bind fun s _ => leads_ite (fun _ => records_nothing rfl) fun _ =>
    leads_ite (fun _ => records_nothing rfl) fun _ => records_bind fun answer => ?_
  cases answer with
  | stale | limit => exact records_nothing rfl
  | accepted | reserved | released => exact searchWithBudget_records _ _

theorem forgeDeepSearch_records (params : DeepSearchParams) :
    Records (.deepSearch params) (·.fetchedDeepSupplementalEvidence) (forgeDeepSearch host files params) := by
  refine leads_get_bind fun s _ => leads_ite (fun _ => records_nothing rfl) fun _ => ?_
  cases s.activeWorkflow with
  | none => exact records_nothing rfl
  | some workflow =>
      refine leads_ite (fun _ => records_nothing rfl) fun _ => leads_ite (fun _ => records_nothing rfl) fun _ => ?_
      refine leads_ite (fun _ => ?_) fun _ => searchSource_records
      refine leads_ite (fun _ => records_nothing rfl) fun _ => leads_ite (fun _ => records_nothing rfl) fun _ => ?_
      dsimp only
      split
      · exact searchSource_records
      · refine leads_get_bind fun s _ => records_bind fun result => ?_
        cases result with
        | stale expected received => exact records_nothing rfl
        | accepted state _ | invalid state _ =>
            exact records_bind fun _ => records_bind fun _ => records_nothing rfl

end Extension

/-- The evidence that a step has recorded. -/
def recordedAt (st : ExtensionStepRecord) : List EvidenceInput :=
  match st.output.reply with
  | .ok reply => recordedBy st.input.event reply
  | .error _ => []

/-- **What an accepted call records is held** in the store of its tool. -/
theorem recorded_held (host : Host) (o : Occurrence) (s : ExtensionState) {item : EvidenceInput}
    (hitem : item ∈ recordedAt (extensionStepAt host s o)) :
    Held (extensionStep host o s).2.fetchedGrillEvidence
      (extensionStep host o s).2.fetchedDeepSupplementalEvidence item := by
  have hrecorded : recordedAt (extensionStepAt host s o) = match (extensionStep host o s).1.reply with
      | .ok reply => recordedBy o.event reply
      | .error _ => [] := rfl
  rw [hrecorded] at hitem
  rcases hrun : Extension.handler host o.files o.event s.cleared with ⟨error | reply, t⟩
  · rw [extensionStep_eq hrun] at hitem
    exact absurd hitem List.not_mem_nil
  rw [extensionStep_eq hrun] at hitem ⊢
  dsimp only at hitem ⊢
  cases he : o.event with
  | grillEvidence candidateId =>
      rw [he] at hrun hitem
      exact .inl ((Extension.forgeGrillEvidence_records candidateId s.cleared trivial).1 reply t hrun item hitem)
  | deepSearch params =>
      rw [he] at hrun hitem
      exact .inr ((Extension.forgeDeepSearch_records params s.cleared trivial).1 reply t hrun item hitem)
  | _ =>
      rw [he] at hitem
      cases hitem

/-! ### Until the workflow is left -/

/-- The operations before which the evidence is forgotten. -/
def SessionOp.startsAfresh : SessionOp → Bool
  | .beginIntent _ => true
  | .reset => true
  | .cancelDeepKnowledge => true
  | _ => false

/-- The workflow goes on. -/
def SameWorkflow (calls : List SessionOp) : Prop := ∀ op ∈ calls, op.startsAfresh = false

instance (calls : List SessionOp) : Decidable (SameWorkflow calls) :=
  inferInstanceAs (Decidable (∀ op ∈ calls, _))

theorem path_keeps_evidence {c : Core} (h : Path host files s₀ e c) (hstays : SameWorkflow c.calls)
    {item : EvidenceInput} (hs : Held s₀.fetchedGrillEvidence s₀.fetchedDeepSupplementalEvidence item) :
    Held c.fetchedGrillEvidence c.fetchedDeepSupplementalEvidence item := by
  induction h with
  | start hstart => exact hs
  | @move c c' hpath hmove ih =>
      have hearlier : ∀ {more : List SessionOp}, SameWorkflow (c.calls ++ more) → SameWorkflow c.calls :=
        fun hall op hop => hall op (List.mem_append_left _ hop)
      cases hmove with
      | called | fallbackEntered | supplementRefused => exact ih (hearlier hstays)
      | restored hrestores =>
          obtain ⟨active, saved, hframe⟩ := Extension.restoreTools_frame host c
          rw [hframe] at hstays ⊢
          exact ih hstays
      | started hcalls =>
          exact absurd (hstays _ (List.mem_append_right _ List.mem_cons_self)) (by simp [SessionOp.startsAfresh])
      | left hcalls hop =>
          refine absurd (hstays _ (List.mem_append_right _ List.mem_cons_self)) ?_
          rcases hop with rfl | ⟨rfl, -⟩ <;> simp [SessionOp.startsAfresh]
      | grillEntered =>
          exact ih fun op hop => hstays op (List.mem_append_left _ (List.mem_append_left _ hop))
      | fetched => exact (ih (hearlier hstays)).imp heldIn_remember id
      | supplemented => exact (ih (hearlier hstays)).imp id heldIn_remember
      | finalized hcalls =>
          obtain ⟨active, saved, hframe⟩ := Extension.restoreTools_frame host (c.call host (.finalizeAdrBuild _ _))
          rw [hframe] at hstays ⊢
          exact ih (hearlier hstays)
      | _ => exact ih hstays

theorem step_keeps_evidence {o : Occurrence} {s : ExtensionState}
    (hstays : SameWorkflow (extensionStep host o s).1.calls) {item : EvidenceInput}
    (hs : Held s.fetchedGrillEvidence s.fetchedDeepSupplementalEvidence item) :
    Held (extensionStep host o s).2.fetchedGrillEvidence
      (extensionStep host o s).2.fetchedDeepSupplementalEvidence item :=
  path_keeps_evidence (extensionStep_path host o s) hstays hs

/-! ### The stores hold their items under their IDs -/

/-- Each item stands under its own ID. -/
def KeyedById (store : OrderedMap String EvidenceInput) : Prop := store.KeyedBy (·.evidenceId)

theorem keyedById_empty : KeyedById .empty := OrderedMap.keyedBy_empty _

/-- An item is added under its ID, or the store stays as it is. -/
theorem remember_cases (store : OrderedMap String EvidenceInput) (item : EvidenceInput) :
    Core.remember store item = store ∨
      (item.evidenceId ∉ store ∧ Core.remember store item = store.insert item.evidenceId item) := by
  cases hget : store.get? item.evidenceId with
  | none =>
      refine .inr ⟨OrderedMap.get?_eq_none_iff.mp hget, ?_⟩
      simp only [Core.remember, Extension.rememberedIn, hget]
  | some existing =>
      refine .inl ?_
      by_cases hcontent : existing.content = item.content
      · simp [Core.remember, Extension.rememberedIn, hget, hcontent]
      · simp [Core.remember, Extension.rememberedIn, hget, hcontent]

theorem keyedById_remember {store : OrderedMap String EvidenceInput} {item : EvidenceInput}
    (h : KeyedById store) : KeyedById (Core.remember store item) := by
  rcases remember_cases store item with hsame | ⟨-, hadded⟩
  · rwa [hsame]
  · rw [hadded]
    exact OrderedMap.KeyedBy.insert h rfl

theorem path_keyed {c : Core} (h : Path host files s₀ e c)
    (hs : KeyedById s₀.fetchedGrillEvidence ∧ KeyedById s₀.fetchedDeepSupplementalEvidence) :
    KeyedById c.fetchedGrillEvidence ∧ KeyedById c.fetchedDeepSupplementalEvidence := by
  induction h with
  | start hstart => exact hs
  | @move c c' hpath hmove ih =>
      cases hmove with
      | started => exact ⟨keyedById_empty, keyedById_empty⟩
      | left hcalls hop =>
          simp only [Core.leave, Core.call]
          obtain ⟨active, saved, hframe⟩ := Extension.restoreTools_frame host
            ({ c with explorationConsentGranted := false, pendingConvergenceRoundId := none } : Core).clearEvidence
          rw [hframe]
          exact ⟨keyedById_empty, keyedById_empty⟩
      | restored hrestores =>
          obtain ⟨active, saved, hframe⟩ := Extension.restoreTools_frame host c
          rw [hframe]
          exact ih
      | fetched => exact ⟨keyedById_remember ih.1, ih.2⟩
      | supplemented => exact ⟨ih.1, keyedById_remember ih.2⟩
      | finalized hcalls =>
          obtain ⟨active, saved, hframe⟩ := Extension.restoreTools_frame host (c.call host (.finalizeAdrBuild _ _))
          rw [hframe]
          exact ih
      | _ => exact ih

theorem run_keyed {tools : List String} {os : List Occurrence} {st : ExtensionStepRecord}
    (ht : st ∈ extensionRun host tools os) :
    KeyedById st.before.fetchedGrillEvidence ∧ KeyedById st.before.fetchedDeepSupplementalEvidence := by
  refine holds_always
    (I := fun s => KeyedById s.fetchedGrillEvidence ∧ KeyedById s.fetchedDeepSupplementalEvidence) ?_
    ⟨keyedById_empty, keyedById_empty⟩ ht
  exact fun s o hs => path_keyed (extensionStep_path host o s) hs

/-- What is held is among the values, under its ID. -/
theorem heldIn_value {store : OrderedMap String EvidenceInput} {item : EvidenceInput} (hkeyed : KeyedById store)
    (h : HeldIn store item) :
    ∃ kept ∈ store.values, kept.evidenceId = item.evidenceId ∧ kept.content = item.content := by
  obtain ⟨kept, hget, hcontent⟩ := h
  exact ⟨kept, OrderedMap.value_mem hget, hkeyed _ _ (OrderedMap.get?_eq_some_iff.mp hget), hcontent⟩

/-! ### The premise of a fallback -/

/-- The user confirms that the work goes on with the evidence there is. -/
structure ConfirmsFallback (host : Host) (st : ExtensionStepRecord) (waitUser : WaitUserState)
    (answer : String) : Prop where
  asks : Extension.pendingDeepQuestion? st.before = some waitUser
  kind : waitUser.kind = .deepDiscoveryFallback
  answered : st.output.calls.head? = some (.recordAnswer answer)
  accepted : (sessionAt host st.before [.recordAnswer answer]).uiState.stage ≠ .workflow .waitUser

/-- The fallback attempt is issued. -/
def StartsFallbackAttempt (st : ExtensionStepRecord) (answer : String) : Prop :=
  ∃ summary, st.output.calls = [.recordAnswer answer, .beginDeepKnowledge summary .knowledgeUnderstanding]

/-- Where the fallback attempt has been issued, the premise is kept. -/
theorem path_notes_fallback {c : Core} (h : Path host files s₀ e c) {waitUser : WaitUserState}
    (hasks : Extension.pendingDeepQuestion? s₀ = some waitUser) {answer : String} {summary : Option String}
    (hcalls : c.calls = [.recordAnswer answer, .beginDeepKnowledge summary .knowledgeUnderstanding]) :
    FallbackNoted host waitUser answer c := by
  induction h with
  | start hstart => exact absurd (hstart.symm.trans hcalls) (by simp)
  | @move c c' hpath hmove ih =>
      have hsnoc : ∀ {calls : List SessionOp} {op : SessionOp},
          calls ++ [op] = [.recordAnswer answer, .beginDeepKnowledge summary .knowledgeUnderstanding] →
            calls = [.recordAnswer answer] ∧ op = .beginDeepKnowledge summary .knowledgeUnderstanding := by
        intro calls op h
        have hsplit : calls ++ [op] = [.recordAnswer answer] ++
            [.beginDeepKnowledge summary .knowledgeUnderstanding] := h
        obtain ⟨hbefore, hlast⟩ := List.append_inj' hsplit rfl
        exact ⟨hbefore, List.head_eq_of_cons_eq hlast⟩
      cases hmove with
      | called hsite =>
          obtain ⟨hbefore, rfl⟩ := hsnoc hcalls
          rw [hbefore] at hsite
          cases hsite
      | fallbackEntered hmade hasked hkind hnoted =>
          obtain ⟨hbefore, -⟩ := hsnoc hcalls
          obtain rfl := Option.some.inj (hasks.symm.trans hasked)
          obtain rfl : answer = _ := by simpa using hbefore.symm.trans hmade
          exact hnoted
      | restored hrestores =>
          obtain ⟨active, saved, hframe⟩ := Extension.restoreTools_frame host c
          rw [hframe] at hcalls ⊢
          exact ih hcalls
      | started | fetched | supplemented | supplementRefused => exact absurd (hsnoc hcalls).2 (by simp)
      | left hmade hop =>
          have hlast := (hsnoc hcalls).2
          rcases hop with rfl | ⟨rfl, -⟩ <;> cases hlast
      | grillEntered => exact absurd (hsnoc hcalls).2 (by simp)
      | finalized hmade =>
          rw [Extension.restoreTools_calls] at hcalls
          exact absurd (hsnoc hcalls).2 (by simp)
      | discoveryNoted hlive hmade => exact absurd (hmade.symm.trans hcalls) (by simp)
      | fallbackConfirmed hmade => exact absurd (hmade.symm.trans hcalls) (by simp)
      | _ => exact ih hcalls

/-- By these calls an answer has confirmed a fallback. -/
def FallbackConfirmed (host : Host) (s₀ : ExtensionState) (calls : List SessionOp) : Prop :=
  ∃ waitUser answer, Extension.pendingDeepQuestion? s₀ = some waitUser ∧ waitUser.kind = .deepDiscoveryFallback ∧
    calls.head? = some (.recordAnswer answer) ∧
    (sessionAt host s₀ [.recordAnswer answer]).uiState.stage ≠ .workflow .waitUser

theorem fallbackConfirmed_append {calls more : List SessionOp} (h : FallbackConfirmed host s₀ calls) :
    FallbackConfirmed host s₀ (calls ++ more) := by
  obtain ⟨waitUser, answer, hasks, hkind, hhead, haccepted⟩ := h
  refine ⟨waitUser, answer, hasks, hkind, ?_, haccepted⟩
  rw [List.head?_append, hhead]
  rfl

/-- The premise stays, unless another fallback is confirmed. -/
theorem path_keeps_premise {c : Core} (h : Path host files s₀ e c) (hstays : SameWorkflow c.calls) :
    c.fallbackHumanPremise = s₀.fallbackHumanPremise ∨ FallbackConfirmed host s₀ c.calls := by
  induction h with
  | start hstart => exact .inl rfl
  | @move c c' hpath hmove ih =>
      have hearlier : ∀ {more : List SessionOp}, SameWorkflow (c.calls ++ more) → SameWorkflow c.calls :=
        fun hall op hop => hall op (List.mem_append_left _ hop)
      cases hmove with
      | called | fallbackEntered | supplementRefused | fetched | supplemented =>
          exact (ih (hearlier hstays)).imp id fallbackConfirmed_append
      | restored hrestores =>
          obtain ⟨active, saved, hframe⟩ := Extension.restoreTools_frame host c
          rw [hframe] at hstays ⊢
          exact ih hstays
      | started hcalls =>
          exact absurd (hstays _ (List.mem_append_right _ List.mem_cons_self)) (by simp [SessionOp.startsAfresh])
      | left hcalls hop =>
          refine absurd (hstays _ (List.mem_append_right _ List.mem_cons_self)) ?_
          rcases hop with rfl | ⟨rfl, -⟩ <;> simp [SessionOp.startsAfresh]
      | grillEntered =>
          exact (ih fun op hop => hstays op (List.mem_append_left _ (List.mem_append_left _ hop))).imp id
            fun hconfirmed => fallbackConfirmed_append (fallbackConfirmed_append hconfirmed)
      | finalized hcalls =>
          obtain ⟨active, saved, hframe⟩ := Extension.restoreTools_frame host (c.call host (.finalizeAdrBuild _ _))
          rw [hframe] at hstays ⊢
          exact (ih (hearlier hstays)).imp id fallbackConfirmed_append
      | fallbackConfirmed hmade hworkflow hasks hkind hanswered =>
          refine .inr ⟨_, _, hasks, hkind, by rw [hmade]; rfl, ?_⟩
          rwa [Extension.path_session hpath, hmade] at hanswered
      | _ => exact ih hstays

/-! ### The packages of the fallback attempt -/

/-- No lock stands, or the lock holds everything that is kept across the rounds. -/
def LockCovers (s : ExtensionState) : Prop :=
  ∀ locked ∈ s.session.lockedDeepEvidence,
    ∀ item ∈ s.fetchedGrillEvidence.values ++ s.fetchedDeepSupplementalEvidence.values,
      ∃ kept ∈ locked.inherited ++ locked.supplemental,
        kept.evidenceId = item.evidenceId ∧ kept.content = item.content

theorem mem_evidence {package : EvidencePackage} {origin : EvidenceOrigin} {item : EvidenceInput}
    (h : item ∈ package.evidenceFrom origin) : ∃ evidence ∈ package.evidence, evidence.toEvidenceInput = item := by
  obtain ⟨evidence, hmem, rfl⟩ := List.mem_map.mp h
  exact ⟨evidence, (List.mem_filter.mp hmem).1, rfl⟩

/-- What is held is in the package. -/
theorem held_in_package {s : ExtensionState} {package : EvidencePackage} {item : EvidenceInput}
    (hpackage : handedPackage? s e = some package) (hlock : LockCovers s)
    (hkeyed : KeyedById s.fetchedGrillEvidence ∧ KeyedById s.fetchedDeepSupplementalEvidence)
    (h : Held s.fetchedGrillEvidence s.fetchedDeepSupplementalEvidence item) :
    ∃ kept ∈ package.evidence, kept.evidenceId = item.evidenceId ∧ kept.content = item.content := by
  have hvalue : ∃ kept ∈ s.fetchedGrillEvidence.values ++ s.fetchedDeepSupplementalEvidence.values,
      kept.evidenceId = item.evidenceId ∧ kept.content = item.content := by
    rcases h with hgrill | hdeep
    · obtain ⟨kept, hmem, hsame⟩ := heldIn_value hkeyed.1 hgrill
      exact ⟨kept, List.mem_append_left _ hmem, hsame⟩
    · obtain ⟨kept, hmem, hsame⟩ := heldIn_value hkeyed.2 hdeep
      exact ⟨kept, List.mem_append_right _ hmem, hsame⟩
  obtain ⟨hgrill, hdeep, -⟩ := handedPackage_evidence hpackage
  have hevidence : ∃ kept ∈ (Extension.packageEvidence s).1 ++ (Extension.packageEvidence s).2,
      kept.evidenceId = item.evidenceId ∧ kept.content = item.content := by
    obtain ⟨kept, hmem, hid, hcontent⟩ := hvalue
    cases hlocked : s.session.lockedDeepEvidence with
    | none =>
        rw [Extension.packageEvidence, hlocked]
        exact ⟨kept, hmem, hid, hcontent⟩
    | some locked =>
        obtain ⟨inLock, hin, hid', hcontent'⟩ := hlock locked hlocked kept hmem
        rw [Extension.packageEvidence, hlocked]
        exact ⟨inLock, hin, hid'.trans hid, hcontent'.trans hcontent⟩
  obtain ⟨kept, hmem, hid, hcontent⟩ := hevidence
  rw [← hgrill, ← hdeep] at hmem
  rcases List.mem_append.mp hmem with hmem | hmem
  · obtain ⟨evidence, hevidence, rfl⟩ := mem_evidence hmem
    exact ⟨evidence, hevidence, hid, hcontent⟩
  · obtain ⟨evidence, hevidence, rfl⟩ := mem_evidence hmem
    exact ⟨evidence, hevidence, hid, hcontent⟩

/-- **A fallback keeps the evidence of both rounds.**  After a confirmed fallback, and as long as the workflow
is not left and no other fallback confirmed, every package for which no lock stands (or the lock holds all
that is kept) has every evidence that an accepted call recorded in the workflow, and the premise of the
fallback. -/
theorem fallback_keeps_both_rounds (host : Host) (tools : List String) (os : List Occurrence)
    {pre early late post : List ExtensionStepRecord} {confirm use : ExtensionStepRecord}
    (hrun : extensionRun host tools os = pre ++ (early ++ confirm :: (late ++ use :: post)))
    (hstays : ∀ st ∈ early ++ confirm :: late, SameWorkflow st.output.calls)
    {waitUser : WaitUserState} {answer : String} (hconfirms : ConfirmsFallback host confirm waitUser answer)
    (hstarts : StartsFallbackAttempt confirm answer)
    (hlast : ∀ st ∈ late, ∀ waitUser answer, ¬ ConfirmsFallback host st waitUser answer)
    (hlock : LockCovers use.before) {package : EvidencePackage}
    (hpackage : handedPackage? use.before use.input.event = some package) :
    (∀ st ∈ early ++ confirm :: late, ∀ item ∈ recordedAt st,
      ∃ kept ∈ package.evidence, kept.evidenceId = item.evidenceId ∧ kept.content = item.content) ∧
    ∃ workflow, confirm.after.activeWorkflow = some workflow ∧
      Extension.fallbackPremise host workflow.goal waitUser.question answer
        confirm.after.acceptedNeedsDiscoverySourceRoundIds ∈ package.evidenceFrom .humanPremise := by
  have huse : use ∈ extensionRun host tools os := by simp [hrun]
  have hkeyed := run_keyed huse
  refine ⟨fun st hst item hitem => held_in_package hpackage hlock hkeyed ?_, ?_⟩
  · obtain ⟨before, between, hsplit⟩ := List.append_of_mem hst
    have hrun' : extensionRun host tools os = (pre ++ before) ++ st :: (between ++ use :: post) := by
      rw [hrun, show early ++ confirm :: (late ++ use :: post) =
        (early ++ confirm :: late) ++ use :: post by simp, hsplit]
      simp
    have hst' := (trace_split hrun').1
    refine holds_until (J := fun s => Held s.fetchedGrillEvidence s.fetchedDeepSupplementalEvidence item)
      hrun' ?_ fun st' hmem hstep hheld => ?_
    · rw [hst'] at hitem ⊢
      exact recorded_held host st.input st.before hitem
    · have hsame := hstays st' (by rw [hsplit]; simp [hmem])
      rw [hstep] at hsame ⊢
      exact step_keeps_evidence hsame hheld
  · have hrun' : extensionRun host tools os = (pre ++ early) ++ confirm :: (late ++ use :: post) := by
      rw [hrun, List.append_assoc]
    have hconfirm := (trace_split hrun').1
    obtain ⟨summary, hcalls⟩ := hstarts
    have hnoted : FallbackNoted host waitUser answer confirm.after.core := by
      rw [hconfirm] at hcalls ⊢
      exact path_notes_fallback (extensionStep_path host confirm.input confirm.before) hconfirms.asks hcalls
    obtain ⟨workflow, hworkflow, -, hpremise⟩ := hnoted
    refine ⟨workflow, hworkflow, ?_⟩
    have hkept : use.before.fallbackHumanPremise = confirm.after.fallbackHumanPremise := by
      refine holds_until (J := fun s => s.fallbackHumanPremise = confirm.after.fallbackHumanPremise)
        hrun' rfl fun st' hmem hstep hbefore => ?_
      have hsame := hstays st' (by simp [hmem])
      have hnone := hlast st' hmem
      rw [hstep] at hsame ⊢
      rcases path_keeps_premise (extensionStep_path host st'.input st'.before) hsame with hkeeps | hconfirmed
      · exact hkeeps.trans hbefore
      · obtain ⟨other, reply, hasks, hkind, hhead, haccepted⟩ := hconfirmed
        rw [hstep] at hnone
        exact absurd ⟨hasks, hkind, hhead, haccepted⟩ (hnone other reply)
    rw [(handedPackage_evidence hpackage).2.2, Extension.packagePremises, hkept,
      show confirm.after.fallbackHumanPremise = _ from hpremise]
    exact List.mem_append_right _ (List.mem_singleton.mpr rfl)

/-- The retrieval asks for another discovery, and the second round fetches the same candidate. -/
def discoverOnce : List Event :=
  [.deepRetrievalComplete "call-1" "deep-1" "grill-1" (.needsDiscovery none) sampleCtx,
    .toolResult "call-1" "forge_deep_retrieval_complete" (some false), .agentSettled, .discoveryTimer,
    .grillEvidence sampleCandidateId, .grillComplete (readyForDeep "grill-2" [sampleCandidateId]) sampleCtx,
    .agentSettled, .deepTimer]

/-- What follows the start of the workflow, up to the second request for discovery, which is `second`. -/
def toSecondDiscovery (second : List Event) : List Event := runToRetrieval.tail ++ (discoverOnce ++ second)

/-- The second request comes from the retrieval. -/
def fromRetrieval : List Event :=
  [.deepRetrievalComplete "call-2" "deep-2" "grill-2" (.needsDiscovery none) sampleCtx]

/-- The second request comes from the understanding phase. -/
def fromUnderstanding : List Event :=
  [.deepRetrievalComplete "call-2" "deep-2" "grill-2" .completed sampleCtx,
    .deepComplete "call-3" "deep-2" "grill-2" (.needsDiscovery none) sampleCtx]

def startRequest : Event := .input "/grill-run do it" sampleCtx

def confirmFallback : Event := .input "確認" sampleCtx

def completeFallback : Event :=
  .deepComplete "call-4" "deep-3" "grill-2" (.completed (sampleUnderstanding [sampleCandidateId])) sampleCtx

/-- The events up to the confirmation. -/
def confirmedFallback (second : List Event) : List Event :=
  (startRequest :: toSecondDiscovery second) ++ [confirmFallback]

/-- The steps of the workflow before the confirmation. -/
def fallbackSteps (second : List Event) : List ExtensionStepRecord :=
  sampleSteps (sampleAfter [startRequest]) (toSecondDiscovery second)

theorem fallbackRun_split (second : List Event) :
    extensionRun sampleHost sampleTools (withFiles sampleFiles
        ((startRequest :: toSecondDiscovery second) ++ confirmFallback :: ([] ++ completeFallback :: []))) =
      sampleSteps (loadedExtension sampleTools) [startRequest] ++ (fallbackSteps second ++
        sampleStep (startRequest :: toSecondDiscovery second) confirmFallback ::
          ([] ++ sampleStep (confirmedFallback second) completeFallback :: [])) :=
  sampleRun_split_two _ [] [] confirmFallback completeFallback

/-- The pending question of the fallback. -/
def sampleFallback (phase : DeepAttemptPhase) : WaitUserState :=
  Session.fallbackDecision ⟨"deep-2", "grill-2", phase⟩ [sampleCandidateId]

theorem fallback_keeps_both_rounds_retrieval :
    ∃ package, handedPackage? (sampleAfter (confirmedFallback fromRetrieval)) completeFallback = some package ∧
      (∃ kept ∈ package.evidence, kept.content = "b") ∧ package.evidenceFrom .humanPremise ≠ [] := by
  obtain ⟨package, hpackage⟩ : ∃ package, handedPackage? (sampleAfter (confirmedFallback fromRetrieval))
      completeFallback = some package := Option.isSome_iff_exists.mp (by decide +kernel)
  have hlock : (sampleAfter (confirmedFallback fromRetrieval)).session.lockedDeepEvidence = none := by
    decide +kernel
  have hconfirms : ConfirmsFallback sampleHost (sampleStep (startRequest :: toSecondDiscovery fromRetrieval)
      confirmFallback) (sampleFallback .deepKnowledgeRetrieval) "確認" :=
    ⟨by decide +kernel, rfl, by decide +kernel, by decide +kernel⟩
  obtain ⟨hrecorded, workflow, -, hpremise⟩ := fallback_keeps_both_rounds sampleHost sampleTools _
    (fallbackRun_split fromRetrieval) (by decide +kernel)
    hconfirms
    ⟨some (Session.answerSummary (sampleFallback .deepKnowledgeRetrieval) "確認"), by decide +kernel⟩ (by simp)
    (by
      intro locked hlocked
      rw [sampleStep_before, Option.mem_def, hlock] at hlocked
      cases hlocked)
    (by
      rw [sampleStep_before, sampleStep_event]
      exact hpackage)
  have hfound : ∃ st ∈ fallbackSteps fromRetrieval, ∃ item ∈ recordedAt st, item.content = "b" := by
    decide +kernel
  obtain ⟨st, hst, item, hitem, hcontent⟩ := hfound
  obtain ⟨kept, hkept, -, hsame⟩ := hrecorded st (List.mem_append_left _ hst) item hitem
  exact ⟨package, hpackage, ⟨kept, hkept, hsame.trans hcontent⟩, List.ne_nil_of_mem hpremise⟩

/-- The second request comes from the understanding phase: the page of the first round is not in the package,
although a search has recorded it and the workflow was never left. -/
theorem lock_hides_first_round :
    (∃ st ∈ fallbackSteps fromUnderstanding, ∃ item ∈ recordedAt st, item.content = "b") ∧
      (∀ st ∈ fallbackSteps fromUnderstanding ++ [sampleStep (startRequest :: toSecondDiscovery fromUnderstanding)
        confirmFallback], SameWorkflow st.output.calls) ∧
      ConfirmsFallback sampleHost (sampleStep (startRequest :: toSecondDiscovery fromUnderstanding) confirmFallback)
        (sampleFallback .knowledgeUnderstanding) "確認" ∧
      ∃ package, handedPackage? (sampleAfter (confirmedFallback fromUnderstanding)) completeFallback =
          some package ∧
        ∀ kept ∈ package.evidence, kept.content ≠ "b" := by
  refine ⟨by decide +kernel, by decide +kernel,
    ⟨by decide +kernel, rfl, by decide +kernel, by decide +kernel⟩, ?_⟩
  have hpackage : (handedPackage? (sampleAfter (confirmedFallback fromUnderstanding)) completeFallback).any
      (fun package => package.evidence.all fun kept => decide (kept.content ≠ "b")) = true := by decide +kernel
  obtain ⟨package, hhanded, hall⟩ := (Option.any_eq_true _ _).mp hpackage
  exact ⟨package, hhanded, fun kept hkept => of_decide_eq_true (List.all_eq_true.mp hall kept hkept)⟩

end ForgeRuntime
