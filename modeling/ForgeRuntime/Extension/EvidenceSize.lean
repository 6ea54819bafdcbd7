import ForgeRuntime.Extension.EvidenceIds
import ForgeRuntime.Lib.FirstOccurrences

/-!
# The size of the evidence

A search counts what Grill has fetched and what the searches have found together; a fetch counts what Grill
has fetched only.  So the two stores stay within the limit of a round until Grill is taken up again after a
search and fetches more than the searches have left room for.

* `WithinSize` — the limit on both stores together, and on each item;
* `search_within` — a search keeps it;
* `evidence_within_size` — a run keeps it if and only if every fetch fits beside the searches;
* `grill_after_search` — a run in which a fetch does not.
-/

namespace ForgeRuntime

open EventDriven EventDriven.Machine EventDriven.Text EventDriven.Turn

variable {host : Host} {files : Files} {s₀ : ExtensionState} {e : Event}

/-! ### The evidence that is held -/

/-- The fetched candidates of the current snapshot, as evidence. -/
def SessionState.fetchedEvidence (s : SessionState) : List EvidenceInput :=
  match s.currentGrillRound with
  | some round => (Extension.fetchedCandidates s round.snapshot).map Extension.candidateEvidence
  | none => []

/-- What Grill has fetched, and what the searches have found. -/
def SessionState.evidenceHeld (s : SessionState) : List EvidenceInput :=
  s.fetchedEvidence ++ s.deepSupplementalEvidence.values

/-- **The evidence is within its limits**: all of it together, and each item. -/
structure WithinSize (s : SessionState) : Prop where
  total : Extension.getDeepEvidenceContentBytes s.evidenceHeld ≤ Extension.deepEvidenceRoundMaxBytes
  each : ∀ item ∈ s.evidenceHeld, item.content.utf8ByteSize ≤ Extension.deepEvidenceMaxBytes

/-- The pair by which the bytes are counted once. -/
def evidenceKey (item : EvidenceInput) : String × String := (item.evidenceId, item.source)

theorem getDeepEvidenceContentBytes_eq (evidence : List EvidenceInput) :
    Extension.getDeepEvidenceContentBytes evidence =
      FirstOccurrences.weigh evidenceKey (·.content.utf8ByteSize) [] evidence := by
  have hloop := FirstOccurrences.weigh_foldl evidenceKey (·.content.utf8ByteSize) [] 0 evidence
  rw [Nat.zero_add] at hloop
  rw [← hloop, Extension.getDeepEvidenceContentBytes]
  congr!

/-- A longer list has no fewer bytes. -/
theorem bytes_append_le (as bs : List EvidenceInput) :
    Extension.getDeepEvidenceContentBytes as ≤ Extension.getDeepEvidenceContentBytes (as ++ bs) := by
  rw [getDeepEvidenceContentBytes_eq, getDeepEvidenceContentBytes_eq, FirstOccurrences.weigh_append]
  exact Nat.le_add_right _ _

/-- The part of the session in which the evidence is held. -/
def SessionState.holding (s : SessionState) :
    Option GrillRound × OrderedSet String × OrderedMap String EvidenceInput :=
  (s.currentGrillRound, s.fetchedEvidenceIds, s.deepSupplementalEvidence)

theorem evidenceHeld_congr {s t : SessionState} (h : t.holding = s.holding) : t.evidenceHeld = s.evidenceHeld := by
  obtain ⟨hround, hrest⟩ := Prod.mk.inj h
  obtain ⟨hfetched, hsupplemental⟩ := Prod.mk.inj hrest
  simp only [SessionState.evidenceHeld, SessionState.fetchedEvidence, Extension.fetchedCandidates, hround, hfetched,
    hsupplemental]

theorem WithinSize.congr {s t : SessionState} (hs : WithinSize s) (h : t.evidenceHeld = s.evidenceHeld) :
    WithinSize t := by
  constructor
  · rw [h]
    exact hs.total
  · rw [h]
    exact hs.each

/-- Nothing is held. -/
theorem withinSize_of_nil {s : SessionState} (h : s.evidenceHeld = []) : WithinSize s := by
  constructor
  · rw [h]
    exact Nat.zero_le _
  · rw [h]
    exact nofun

/-! ### What the session does to it -/

/-- The operations that change what is held. -/
def SessionOp.changesHolding : SessionOp → Bool
  | .recordEvidenceFetch _ => true
  | .recordDeepSupplementalEvidence _ _ _ => true
  | .reset => true
  | .startGrillRound _ _ => true
  | _ => false

/-- **Most operations leave what is held.** -/
theorem step_holding (digest : String → String) {op : SessionOp} (hop : op.changesHolding = false)
    (s : SessionState) : (sessionStep digest op s).2.holding = s.holding := by
  by_cases hbudget : op.usesBudget = true
  · obtain ⟨round, count, rs, h⟩ := budget_only digest hbudget s
    rw [h]
    rfl
  have hmove := step_move digest s op
  generalize (sessionStep digest op s).1 = r at hmove
  generalize (sessionStep digest op s).2 = t at hmove ⊢
  cases hmove with
  | fetchRecorded | wasReset | roundStarted => cases hop
  | bookkept hbookkeeping =>
      cases op with
      | recordDeepSupplementalEvidence => cases hop
      | consumeDeepSearchBudget | reserveDeepSearchBudget | commitDeepSearchBudget | releaseDeepSearchBudget =>
          exact absurd rfl hbudget
      | _ => cases hbookkeeping
  | answered hr horch hpending hkind hguard hcontinues => cases hcontinues <;> rfl
  | _ => rfl

/-- The round that is started is on its snapshot. -/
theorem startGrillRound_round (digest : String → String) (request : String) (snapshot : GrillEvidenceSnapshot)
    (s : SessionState) : ∃ round, round.snapshot = snapshot ∧
      (sessionStep digest (.startGrillRound request snapshot) s).2.currentGrillRound = some round :=
  ⟨_, rfl, rfl⟩

/-- A round on a new snapshot starts with nothing. -/
theorem startGrillRound_new (digest : String → String) (request : String) {snapshot : GrillEvidenceSnapshot}
    {s : SessionState} (h : s.currentGrillRound.map (·.snapshot.ref) ≠ some snapshot.ref) :
    (sessionStep digest (.startGrillRound request snapshot) s).2.evidenceHeld = [] := by
  have hfirst : decide (s.currentGrillRound.map (·.snapshot.ref) ≠ some snapshot.ref) = true := decide_eq_true h
  simp only [sessionStep, Session.runOp, map_apply, Session.startGrillRound, get_bind_apply, modify_bind_apply,
    pure_apply, hfirst, if_true, Session.forgetSnapshot]
  rfl

/-- The next round on the same snapshot holds what the one before it held. -/
theorem startGrillRound_again (digest : String → String) (request : String) {round : GrillRound} {s : SessionState}
    (h : s.currentGrillRound = some round) :
    (sessionStep digest (.startGrillRound request round.snapshot) s).2.evidenceHeld = s.evidenceHeld := by
  have hfirst : decide (s.currentGrillRound.map (·.snapshot.ref) ≠ some round.snapshot.ref) = false := by simp [h]
  simp only [sessionStep, Session.runOp, map_apply, Session.startGrillRound, get_bind_apply, modify_bind_apply,
    pure_apply, hfirst]
  simp only [SessionState.evidenceHeld, SessionState.fetchedEvidence, h]
  rfl

/-! ### The workflow and its round -/

/-- **The workflow is on the snapshot of the round**, whose candidates stand under their own IDs; a later snapshot
has another reference. -/
structure Linked (c : Core) : Prop where
  workflow : ∀ workflow ∈ c.activeWorkflow, ∃ round ∈ c.session.currentGrillRound, workflow.snapshot = round.snapshot
  snapshot : ∀ round ∈ c.session.currentGrillRound, SnapshotIds round.snapshot ∧ round.snapshot.ref < c.nextRef

/-- A step that leaves the round leaves the link. -/
theorem Linked.frame {c d : Core} (h : Linked c) (hround : d.session.currentGrillRound = c.session.currentGrillRound)
    (hworkflow : d.activeWorkflow = c.activeWorkflow ∨ d.activeWorkflow = none) (href : d.nextRef = c.nextRef) :
    Linked d := by
  constructor
  · intro workflow hmem
    rw [hround]
    rcases hworkflow with hsame | hnone
    · exact h.workflow workflow (hsame ▸ hmem)
    · rw [hnone] at hmem
      cases hmem
  · rw [hround, href]
    exact h.snapshot

/-- The operations that set the round. -/
def SessionOp.setsRound : SessionOp → Bool
  | .reset => true
  | .startGrillRound _ _ => true
  | _ => false

/-- Most calls of the session leave the round. -/
theorem step_round (digest : String → String) {op : SessionOp} (hop : op.setsRound = false) (s : SessionState) :
    (sessionStep digest op s).2.currentGrillRound = s.currentGrillRound := by
  have hmove := step_move digest s op
  generalize (sessionStep digest op s).1 = r at hmove
  generalize (sessionStep digest op s).2 = t at hmove ⊢
  cases hmove with
  | wasReset | roundStarted => cases hop
  | answered hr horch hpending hkind hguard hcontinues => cases hcontinues <;> rfl
  | _ => rfl

theorem Linked.called {c : Core} (h : Linked c) {op : SessionOp} (hop : op.setsRound = false) :
    Linked (c.call host op) :=
  h.frame (step_round host.digest hop c.session) (.inl rfl) rfl

theorem Linked.nextRound {c : Core} (h : Linked c) {round : GrillRound} (hround : c.session.currentGrillRound = some round)
    (request : String) : Linked (c.call host (.startGrillRound request round.snapshot)) := by
  obtain ⟨next, hnext, hstarted⟩ := startGrillRound_round host.digest request round.snapshot c.session
  have hcalled : (c.call host (.startGrillRound request round.snapshot)).session.currentGrillRound = some next := hstarted
  constructor
  · intro workflow hmem
    obtain ⟨held, hheld, hsame⟩ := h.workflow workflow hmem
    obtain rfl := Option.some.inj (hround.symm.trans hheld)
    exact ⟨next, hcalled, hsame.trans hnext.symm⟩
  · intro current hcurrent
    obtain rfl := Option.some.inj (hcalled.symm.trans hcurrent)
    rw [hnext]
    exact h.snapshot round hround

theorem Linked.discover {c : Core} (goal rootDir : String) : Linked (c.discover host files goal rootDir) := by
  let discovery := Extension.buildGrillCompatibleDiscovery host files rootDir (files.runLightDiscovery rootDir goal) goal
  let snapshot : GrillEvidenceSnapshot := ⟨c.nextRef, discovery.candidates, discovery.manifest⟩
  obtain ⟨round, hsnapshot, hstarted⟩ := startGrillRound_round host.digest goal snapshot c.session
  have hround : (c.discover host files goal rootDir).session.currentGrillRound = some round := hstarted
  constructor
  · intro workflow hworkflow
    refine ⟨round, hround, ?_⟩
    rw [← Option.some.inj hworkflow, hsnapshot]
  · intro current hcurrent
    obtain rfl := Option.some.inj (hround.symm.trans hcurrent)
    rw [hsnapshot]
    exact ⟨Extension.discovery_ids, Nat.lt_succ_self c.nextRef⟩

theorem leave_ref (c : Core) (op : SessionOp) : (c.leave host op).nextRef = c.nextRef := by
  obtain ⟨active, saved, hframe⟩ := Extension.restoreTools_frame host
    ({ c with explorationConsentGranted := false, pendingConvergenceRoundId := none } : Core).clearEvidence
  simp only [Core.leave, Core.call, hframe]
  rfl

/-- **The moves of a step keep the workflow on the snapshot of its round.** -/
theorem path_linked {c : Core} (h : Path host files s₀ e c) (hs : Linked s₀.core) : Linked c := by
  induction h with
  | start => exact hs
  | @move c c' hpath hmove ih =>
      cases hmove with
      | called hsite =>
          generalize hmade : c.calls = calls at hsite
          cases hsite with
          | @nextRound answer round hround hanswered =>
              refine ih.nextRound ?_ _
              rw [Extension.path_session hpath, hmade]
              exact (step_round host.digest rfl s₀.session).trans hround
          | _ => exact ih.called rfl
      | started => exact ih.frame (step_round host.digest rfl c.session) (.inl rfl) rfl
      | left hmade hop =>
          rcases hop with rfl | ⟨rfl, -⟩
          · constructor
            · exact nofun
            · rw [leave_session]
              exact nofun
          · refine ih.frame ?_ (.inl rfl) ?_
            · rw [leave_session]
              exact step_round host.digest rfl c.session
            · rw [leave_ref]
      | restored =>
          obtain ⟨active, saved, hframe⟩ := Extension.restoreTools_frame host c
          rw [hframe]
          exact ⟨ih.workflow, ih.snapshot⟩
      | @finalized identity candidate commit hmade =>
          obtain ⟨active, saved, hframe⟩ :=
            Extension.restoreTools_frame host (c.call host (.finalizeAdrBuild identity commit))
          rw [hframe]
          exact ih.frame (step_round host.digest rfl c.session) (.inl rfl) rfl
      | @grillEntered goal rootDir summary =>
          have hdiscovered : Linked (c.discover host files goal rootDir) := .discover goal rootDir
          exact hdiscovered.frame (step_round host.digest rfl _) (.inl rfl) rfl
      | fetched | supplemented | supplementRefused | fallbackEntered =>
          exact ih.frame (step_round host.digest rfl c.session) (.inl rfl) rfl
      | _ => exact ⟨ih.workflow, ih.snapshot⟩

/-! ### The steps that neither fetch nor search -/

/-- What a state holds is what an earlier one held, or nothing. -/
def HoldsNoMore (s t : SessionState) : Prop := t.evidenceHeld = s.evidenceHeld ∨ t.evidenceHeld = []

theorem HoldsNoMore.called {c : Core} (h : HoldsNoMore s₀.session c.session) {op : SessionOp}
    (hop : op.changesHolding = false) : HoldsNoMore s₀.session (sessionStep host.digest op c.session).2 := by
  rw [HoldsNoMore, evidenceHeld_congr (step_holding host.digest hop c.session)]
  exact h

theorem HoldsNoMore.within {s t : SessionState} (h : HoldsNoMore s t) (hs : WithinSize s) : WithinSize t := by
  rcases h with hsame | hnone
  · exact hs.congr hsame
  · exact withinSize_of_nil hnone

/-- The events that may add to the evidence. -/
def Event.addsEvidence : Event → Bool
  | .grillEvidence _ => true
  | .deepSearch _ => true
  | _ => false

/-- **The other events add nothing.** -/
theorem path_holdsNoMore {c : Core} (h : Path host files s₀ e c) (hs : Linked s₀.core)
    (he : e.addsEvidence = false) : HoldsNoMore s₀.session c.session := by
  induction h with
  | start => exact .inl rfl
  | @move c c' hpath hmove ih =>
      cases hmove with
      | called hsite =>
          generalize hmade : c.calls = calls at hsite
          show HoldsNoMore s₀.session (sessionStep host.digest _ c.session).2
          cases hsite with
          | @supplementStale _ identity item hstale =>
              rw [← hmade, ← Extension.path_session hpath] at hstale
              rw [recordDeepSupplementalEvidence_stale host.digest hstale]
              exact ih
          | @fetchWithoutRound candidateId hround =>
              rw [← path_session_nil hpath hmade] at hround
              rw [recordEvidenceFetch_withoutRound host.digest hround]
              exact ih
          | @nextRound answer round hround hanswered =>
              have hcurrent : c.session.currentGrillRound = some round := by
                rw [Extension.path_session hpath, hmade]
                exact (step_round host.digest rfl s₀.session).trans hround
              rw [HoldsNoMore, startGrillRound_again host.digest _ hcurrent]
              exact ih
          | _ => exact ih.called rfl
      | started => exact HoldsNoMore.called (c := c) ih rfl
      | left hmade hop =>
          rw [leave_session]
          rcases hop with rfl | ⟨rfl, -⟩
          · exact .inr rfl
          · exact ih.called rfl
      | restored =>
          rw [Extension.restoreTools_session]
          exact ih
      | finalized hmade =>
          rw [Extension.restoreTools_session]
          exact ih.called rfl
      | @grillEntered goal rootDir summary =>
          refine .inr ?_
          have hnew : (c.discover host files goal rootDir).session.evidenceHeld = [] := by
            refine startGrillRound_new host.digest goal ?_
            intro hsame
            obtain ⟨round, hround, href⟩ := Option.map_eq_some_iff.mp hsame
            have hlater := ((path_linked hpath hs).snapshot round hround).2
            exact absurd href (Nat.ne_of_lt hlater)
          rw [← hnew]
          exact evidenceHeld_congr (step_holding host.digest rfl _)
      | fallbackEntered => exact ih.called rfl
      | fetched hevent =>
          rw [hevent] at he
          cases he
      | supplemented hfinds =>
          cases e with
          | deepSearch => cases he
          | _ => exact hfinds.elim
      | @supplementRefused identity item existing hheld hcontent =>
          show HoldsNoMore s₀.session (sessionStep host.digest _ c.session).2
          rw [recordDeepSupplementalEvidence_conflict host.digest hheld hcontent]
          exact ih
      | _ => exact ih

/-! ### A search -/

/-- **There is room for these items**: what is held stays within the limits when those that are not held yet are
added for the live attempt. -/
structure RoomFor (identity : DeepAttemptIdentity) (items : List EvidenceInput) (s : SessionState) : Prop where
  within : WithinSize s
  room : s.deepAttempt = some identity → Extension.getDeepEvidenceContentBytes (s.evidenceHeld ++
    items.filter fun item => decide (item.evidenceId ∉ s.deepSupplementalEvidence)) ≤
      Extension.deepEvidenceRoundMaxBytes

/-- Leaving IDs out makes evidence no larger. -/
theorem bytes_append_filter_le (p : String → Bool) (as bs : List EvidenceInput) :
    Extension.getDeepEvidenceContentBytes (as ++ bs.filter fun item => p item.evidenceId) ≤
      Extension.getDeepEvidenceContentBytes (as ++ bs) := by
  rw [getDeepEvidenceContentBytes_eq, getDeepEvidenceContentBytes_eq]
  exact FirstOccurrences.weigh_append_filter_le evidenceKey (·.content.utf8ByteSize) (fun key => p key.1) as bs

/-- A new item is kept behind the others. -/
theorem RoomFor.insert {identity : DeepAttemptIdentity} {item : EvidenceInput} {rest : List EvidenceInput}
    {s : SessionState} (h : RoomFor identity (item :: rest) s)
    (hsmall : item.content.utf8ByteSize ≤ Extension.deepEvidenceMaxBytes) (hlive : s.deepAttempt = some identity)
    (hnew : item.evidenceId ∉ s.deepSupplementalEvidence) (ids : OrderedSet String) :
    RoomFor identity rest { s with
      deepSupplementalEvidenceIds := ids
      deepSupplementalEvidence := s.deepSupplementalEvidence.insert item.evidenceId item } := by
  let kept : SessionState := { s with
    deepSupplementalEvidenceIds := ids
    deepSupplementalEvidence := s.deepSupplementalEvidence.insert item.evidenceId item }
  have hvalues : kept.deepSupplementalEvidence.values = s.deepSupplementalEvidence.values ++ [item] :=
    OrderedMap.values_insert_of_notMem hnew item
  have hheld : kept.evidenceHeld = s.evidenceHeld ++ [item] := by
    rw [SessionState.evidenceHeld, hvalues, SessionState.evidenceHeld, List.append_assoc]
    rfl
  have hrest : (rest.filter fun other => decide (other.evidenceId ∉ kept.deepSupplementalEvidence)) =
      (rest.filter fun other => decide (other.evidenceId ∉ s.deepSupplementalEvidence)).filter
        fun other => decide (other.evidenceId ≠ item.evidenceId) := by
    rw [List.filter_filter]
    refine List.filter_congr fun other _ => ?_
    show decide (¬ other.evidenceId ∈ s.deepSupplementalEvidence.insert item.evidenceId item) = _
    simp [OrderedMap.mem_insert]
  have hroom := h.room hlive
  rw [List.filter_cons_of_pos (by simp [hnew]), List.append_cons] at hroom
  have hless := bytes_append_filter_le (fun id => decide (id ≠ item.evidenceId)) (s.evidenceHeld ++ [item])
    (rest.filter fun other => decide (other.evidenceId ∉ s.deepSupplementalEvidence))
  refine ⟨⟨?_, ?_⟩, fun _ => ?_⟩
  · show Extension.getDeepEvidenceContentBytes kept.evidenceHeld ≤ _
    rw [hheld]
    exact Nat.le_trans (bytes_append_le _ _) hroom
  · show ∀ other ∈ kept.evidenceHeld, _
    rw [hheld]
    intro other hother
    rcases List.mem_append.mp hother with hother | hother
    · exact h.within.each other hother
    · rw [List.mem_singleton.mp hother]
      exact hsmall
  · show Extension.getDeepEvidenceContentBytes (kept.evidenceHeld ++
      rest.filter fun other => decide (other.evidenceId ∉ kept.deepSupplementalEvidence)) ≤ _
    rw [hheld, hrest]
    exact Nat.le_trans hless hroom

/-- Keeping an item for which there is room leaves room for the rest. -/
theorem recordDeepSupplementalEvidence_room {identity : DeepAttemptIdentity} {item : EvidenceInput}
    {rest : List EvidenceInput} {s : SessionState} (h : RoomFor identity (item :: rest) s)
    (hsmall : item.content.utf8ByteSize ≤ Extension.deepEvidenceMaxBytes) :
    RoomFor identity rest (Session.recordDeepSupplementalEvidence identity item.evidenceId (some item) s).2 := by
  simp only [Session.recordDeepSupplementalEvidence, get_bind_apply, ite_apply_state, pure_apply]
  by_cases hlive : s.deepAttempt = some identity
  · rw [if_neg (not_not.mpr hlive)]
    cases hheld : s.deepSupplementalEvidence.get? item.evidenceId with
    | some existing =>
        have hmem : item.evidenceId ∈ s.deepSupplementalEvidence :=
          OrderedMap.mem_of_entry (OrderedMap.get?_eq_some_iff.mp hheld)
        have hroom := h.room hlive
        rw [List.filter_cons_of_neg (by simp [hmem])] at hroom
        simp only [ite_apply_state, pure_apply, throw_apply]
        split
        · exact ⟨h.within, fun _ => hroom⟩
        · exact ⟨h.within, fun _ => hroom⟩
    | none =>
        have hnew : item.evidenceId ∉ s.deepSupplementalEvidence := OrderedMap.get?_eq_none_iff.mp hheld
        exact h.insert hsmall hlive hnew _
  · rw [if_pos hlive]
    exact ⟨h.within, fun hother => absurd hother hlive⟩

/-- Spending a reservation leaves the room. -/
theorem commit_room {identity : DeepAttemptIdentity} {items : List EvidenceInput} {s : SessionState}
    (h : RoomFor identity items s) : RoomFor identity items (Session.commitDeepSearchBudget identity s).2 := by
  obtain ⟨round, count, reservations, honly⟩ := Session.commitDeepSearchBudget_only identity s
  rw [honly]
  exact ⟨⟨h.within.total, h.within.each⟩, h.room⟩

namespace Extension

/-- From where the evidence is held as at the start of the step, `m` leads to where it is within its limits. -/
abbrev KeepsSize (s₀ : ExtensionState) {α : Type} (m : Ext α) : Prop :=
  Turn.Leads (fun s => s.session.holding = s₀.session.holding) m (fun _ s => WithinSize s.session)
    fun s => WithinSize s.session

theorem withinSize_of_holding {s t : SessionState} (hs : WithinSize s) (h : t.holding = s.holding) : WithinSize t :=
  hs.congr (evidenceHeld_congr h)

theorem keepsSize_pure {α : Type} (hs : WithinSize s₀.session) (a : α) : KeepsSize s₀ (pure a : Ext α) :=
  leads_pure fun _ h => withinSize_of_holding hs h

theorem keepsSize_throw {α : Type} (hs : WithinSize s₀.session) (error : String) :
    KeepsSize s₀ (throw error : Ext α) :=
  leads_throw fun _ h => withinSize_of_holding hs h

/-- A call that leaves what is held. -/
theorem keepsSize_call_bind (host : Host) {α β : Type} {op : SessionOp} {run : Session α} {f : α → Ext β}
    (wrap : α → SessionResult) (hop : Session.runOp host.digest op = wrap <$> run)
    (hholds : op.changesHolding = false) (hs : WithinSize s₀.session) (hf : ∀ a, KeepsSize s₀ (f a)) :
    KeepsSize s₀ (call op run >>= f) := by
  refine leads_bind (Q := fun _ s => s.session.holding = s₀.session.holding) (fun s h => ?_) hf
  have hcore := core_call wrap hop s
  have hsession : (call op run s).2.session.holding = s.session.holding := by
    rw [show (call op run s).2.session = (sessionStep host.digest op s.session).2 from congrArg Core.session hcore]
    exact step_holding host.digest hholds s.session
  constructor
  · intro a t hrun
    rw [hrun] at hsession
    exact hsession.trans h
  · intro error t hrun
    rw [hrun] at hsession
    exact withinSize_of_holding hs (hsession.trans h)

/-- The items of a search are kept as long as there is room for them. -/
theorem recordSearchEvidence_within {identity : DeepAttemptIdentity} {items : List EvidenceInput}
    (hsmall : ∀ item ∈ items, item.content.utf8ByteSize ≤ deepEvidenceMaxBytes) :
    Turn.Leads (fun s => RoomFor identity items s.session) (recordSearchEvidence identity items)
      (fun _ s => WithinSize s.session) fun s => WithinSize s.session := by
  induction items with
  | nil => exact leads_pure fun _ h => h.within
  | cons item rest ih =>
      have hrest := ih fun other hother => hsmall other (List.mem_cons_of_mem item hother)
      refine leads_bind (Q := fun _ s => RoomFor identity rest s.session) (fun s h => ?_) fun result => ?_
      · have hkept := recordDeepSupplementalEvidence_room h (hsmall item List.mem_cons_self)
        constructor
        · intro result t hrun
          rwa [call_run hrun] at hkept
        · intro error t hrun
          rw [call_run hrun] at hkept
          exact hkept.within
      · cases result with
        | stale | invalid => exact hrest
        | accepted ui accepted =>
            refine leads_get_bind fun s _ => ?_
            cases rememberedIn s.fetchedDeepSupplementalEvidence item with
            | error error => exact leads_throw fun _ h => h.within
            | ok store => exact leads_modify_bind (fun _ h => h) hrest

/-- A search counts both stores before it keeps anything. -/
theorem searchWithBudget_within (host : Host) {identity : DeepAttemptIdentity} {found : Except String (List EvidenceInput)}
    {fetched : List GrillEvidenceCandidate} (hs : WithinSize s₀.session)
    (hfetched : fetched.map candidateEvidence = s₀.session.fetchedEvidence) :
    KeepsSize s₀ (searchWithBudget identity found fetched) := by
  unfold searchWithBudget
  cases found with
  | error error => exact keepsSize_call_bind host .budget rfl rfl hs fun _ => keepsSize_throw hs _
  | ok evidence =>
      dsimp only
      split
      · exact keepsSize_call_bind host .budget rfl rfl hs fun _ => keepsSize_pure hs _
      rename_i hsizes
      have hsmall : ∀ item ∈ evidence.filter fun item => (reusedCandidate? fetched item).isNone,
          item.content.utf8ByteSize ≤ deepEvidenceMaxBytes := by
        intro item hitem
        have hfits := List.find?_eq_none.mp hsizes item hitem
        simp only [isOversized, Bool.or_eq_true, decide_eq_true_eq, not_or] at hfits
        exact Nat.le_of_not_gt hfits.2
      refine leads_get_bind_eq fun s hsame => ?_
      have hheld : fetched.map candidateEvidence ++ s.session.deepSupplementalEvidence.values =
          s.session.evidenceHeld := by
        rw [hfetched, evidenceHeld_congr hsame]
        exact congrArg (s₀.session.fetchedEvidence ++ OrderedMap.values ·) (Prod.mk.inj (Prod.mk.inj hsame).2).2
      refine leads_ite (fun _ => ?_) fun hroom => ?_
      · exact leads_mono (keepsSize_call_bind host .budget rfl rfl hs fun _ => keepsSize_pure hs _)
          (fun t ht => by rw [ht]; exact hsame) fun _ _ h => h
      · rw [hheld] at hroom
        have hcommit : Turn.Leads (· = s) (sessionState.commitDeepSearchBudget identity)
            (fun _ t => RoomFor identity (evidence.filter fun item => (reusedCandidate? fetched item).isNone) t.session)
            fun t => WithinSize t.session := by
          rintro s rfl
          have hbefore : RoomFor identity (evidence.filter fun item => (reusedCandidate? fetched item).isNone)
              s.session := by
            refine ⟨withinSize_of_holding hs hsame, fun _ => ?_⟩
            exact Nat.le_trans (bytes_append_filter_le (fun id => decide (id ∉ s.session.deepSupplementalEvidence))
              s.session.evidenceHeld _) (Nat.le_of_not_gt hroom)
          have hafter := commit_room hbefore
          constructor
          · intro answer t hrun
            rwa [call_run hrun] at hafter
          · intro error t hrun
            rw [call_run hrun] at hafter
            exact hafter.within
        refine leads_bind hcommit fun answer => leads_ite (fun _ => leads_pure fun _ h => h.within) fun _ => ?_
        exact leads_bind (recordSearchEvidence_within hsmall) fun _ => leads_pure fun _ h => h

/-- A search behind the checks of its parameters. -/
theorem searchSource_within {identity : DeepAttemptIdentity} {params : DeepSearchParams}
    {workflow : ActiveWorkflowContext} {query : String} {selected : Option GrillEvidenceCandidate}
    (hs : WithinSize s₀.session)
    (hfetched : (fetchedCandidates s₀.session workflow.snapshot).map candidateEvidence = s₀.session.fetchedEvidence) :
    KeepsSize s₀ (searchSource host files identity params workflow query selected) := by
  unfold searchSource
  refine leads_get_bind fun s hsame => leads_ite (fun _ => keepsSize_pure hs _) fun _ =>
    leads_ite (fun _ => keepsSize_pure hs _) fun _ => ?_
  have hcandidates : fetchedCandidates s.session workflow.snapshot = fetchedCandidates s₀.session workflow.snapshot := by
    rw [fetchedCandidates, fetchedCandidates]
    rw [show s.session.fetchedEvidenceIds = s₀.session.fetchedEvidenceIds from (Prod.mk.inj (Prod.mk.inj hsame).2).1]
  refine keepsSize_call_bind host .budget rfl rfl hs fun answer => ?_
  rw [hcandidates]
  cases answer with
  | stale | limit => exact keepsSize_pure hs _
  | accepted | reserved | released => exact searchWithBudget_within host hs hfetched

theorem keepsSize_of_session {α : Type} {m : Ext α} (hs : WithinSize s₀.session)
    (h : ∀ s, (m s).2.session = s.session) : KeepsSize s₀ m := by
  intro s hsame
  have hsession := h s
  constructor
  · intro a t hrun
    rw [hrun] at hsession
    exact withinSize_of_holding hs (hsession ▸ hsame)
  · intro error t hrun
    rw [hrun] at hsession
    exact withinSize_of_holding hs (hsession ▸ hsame)

theorem askTarget_within {identity : DeepAttemptIdentity} {decision : DeepNeedsDecisionResult}
    (hs : WithinSize s₀.session) : KeepsSize s₀ (askTarget host identity decision) := by
  unfold askTarget
  refine keepsSize_call_bind host .deep rfl rfl hs fun result => ?_
  cases result with
  | stale => exact keepsSize_pure hs _
  | accepted state | invalid state =>
      refine keepsSize_of_session hs fun s => ?_
      dsimp only
      rw [restoreActiveTools_bind_apply]
      exact restored_session host s

theorem searchTarget_within {identity : DeepAttemptIdentity} {params : DeepSearchParams}
    {workflow : ActiveWorkflowContext} {query : String} (hs : WithinSize s₀.session)
    (hfetched : (fetchedCandidates s₀.session workflow.snapshot).map candidateEvidence = s₀.session.fetchedEvidence) :
    KeepsSize s₀ (searchTarget host files identity params workflow query) := by
  unfold searchTarget
  refine leads_ite (fun _ => keepsSize_pure hs _) fun _ => leads_ite (fun _ => keepsSize_pure hs _) fun _ => ?_
  dsimp only
  split
  · exact searchSource_within hs hfetched
  · exact leads_get_bind fun s _ => askTarget_within hs

/-- **A search keeps the evidence within its limits.** -/
theorem search_within {params : DeepSearchParams} (hs : WithinSize s₀.session) (hlinked : Linked s₀.core) :
    WithinSize (forgeDeepSearch host files params s₀).2.session := by
  have hkeeps : Turn.Leads (· = s₀) (forgeDeepSearch host files params) (fun _ s => WithinSize s.session)
      fun s => WithinSize s.session := by
    refine leads_get_bind_eq fun s hsame => ?_
    subst hsame
    have hhere : ∀ t : ExtensionState, t = s → t.session.holding = s.session.holding := fun t ht => by rw [ht]
    have hstop : ∀ reply : Reply, Turn.Leads (· = s) (pure reply : Ext Reply) (fun _ t => WithinSize t.session)
        fun t => WithinSize t.session := fun reply => leads_pure fun t ht => ht ▸ hs
    refine leads_ite (fun _ => hstop _) fun _ => ?_
    cases hworkflow : s.activeWorkflow with
    | none => exact hstop _
    | some workflow =>
        obtain ⟨round, hround, hsnapshot⟩ := hlinked.workflow workflow hworkflow
        have hfetched : (fetchedCandidates s.session workflow.snapshot).map candidateEvidence =
            s.session.fetchedEvidence := by
          rw [SessionState.fetchedEvidence, show s.session.currentGrillRound = some round from hround, hsnapshot]
        refine leads_ite (fun _ => hstop _) fun _ => leads_ite (fun _ => hstop _) fun _ => leads_ite (fun _ => ?_) fun _ => ?_
        · exact leads_mono (searchTarget_within hs hfetched) hhere fun _ _ h => h
        · exact leads_mono (searchSource_within hs hfetched) hhere fun _ _ h => h
  have hout := hkeeps s₀ rfl
  rcases hrun : forgeDeepSearch host files params s₀ with ⟨error | reply, t⟩
  · exact hout.2 error t hrun
  · exact hout.1 reply t hrun

end Extension

/-! ### A fetch -/

namespace Extension

/-- The end of a fetch: the session notes the candidate, whether it can be kept across rounds or not. -/
theorem keepCandidate_session {s : ExtensionState} (hround : s.session.currentGrillRound ≠ none)
    (candidate : GrillEvidenceCandidate) :
    ((do
      sessionState.recordEvidenceFetch candidate.candidateId
      match rememberedIn (← get).fetchedGrillEvidence (candidateEvidence candidate) with
      | .error error => throw error
      | .ok store =>
          modify fun s => { s with fetchedGrillEvidence := store }
          return Reply.tool
            { text := candidate.content
              details := { candidate := some { candidateEvidence candidate with content := "" } } } : Ext Reply) s).2.session =
      { s.session with fetchedEvidenceIds := s.session.fetchedEvidenceIds.add candidate.candidateId } := by
  let noted : SessionState :=
    { s.session with fetchedEvidenceIds := s.session.fetchedEvidenceIds.add candidate.candidateId }
  have hrun : sessionState.recordEvidenceFetch candidate.candidateId s =
      (.ok (), { s with session := noted, calls := s.calls ++ [.recordEvidenceFetch candidate.candidateId] }) := by
    simp [sessionState.recordEvidenceFetch, call, Session.recordEvidenceFetch, hround, noted]
  rw [bind_eq_ok hrun, get_bind_apply]
  dsimp only
  cases rememberedIn s.fetchedGrillEvidence (candidateEvidence candidate) with
  | error error => rfl
  | ok store => rfl

/-- **A fetch records the candidate that passes its checks**, and nothing else. -/
theorem forgeGrillEvidence_session {s : ExtensionState} (hlinked : Linked s.core) (candidateId : String) :
    (forgeGrillEvidence candidateId s).2.session = match admittedCandidate? s candidateId with
      | some candidate => { s.session with
          fetchedEvidenceIds := s.session.fetchedEvidenceIds.add candidate.candidateId }
      | none => s.session := by
  simp only [forgeGrillEvidence, get_bind_apply, admittedCandidate?]
  by_cases hactive : HasActiveGrillAttempt s
  · rw [if_neg (not_not.mpr hactive), if_pos hactive]
    cases hworkflow : s.activeWorkflow with
    | none => rfl
    | some workflow =>
        simp only [Option.bind_some]
        cases hcandidate : workflow.snapshot.candidates.get? candidateId with
        | none => rfl
        | some candidate =>
            have hround : s.session.currentGrillRound ≠ none := by
              obtain ⟨round, hround, -⟩ := hlinked.workflow workflow hworkflow
              rw [show s.session.currentGrillRound = some round from hround]
              exact Option.some_ne_none _
            have hkept := keepCandidate_session hround candidate
            simp only [Option.filter]
            obtain ⟨tooLarge, hrejection⟩ : ∃ r, evidenceTooLargeRejection? candidate.metadata = r := ⟨_, rfl⟩
            cases tooLarge with
            | some rejection =>
                simp only [hrejection, Option.isNone_some, Bool.false_and]
                rfl
            | none =>
                simp only [hrejection]
                by_cases hsize : candidate.content.utf8ByteSize ≤ deepEvidenceMaxBytes
                · rw [if_neg (Nat.not_lt.mpr hsize)]
                  by_cases htotal : getDeepEvidenceContentBytes
                      ((fetchedCandidates s.session workflow.snapshot ++ [candidate]).map candidateEvidence) ≤
                        deepEvidenceRoundMaxBytes
                  · rw [if_neg (Nat.not_lt.mpr htotal)]
                    simp only [hsize, htotal, Option.isNone_none, decide_true, Bool.and_self, if_true]
                    exact hkept
                  · rw [if_pos (Nat.lt_of_not_ge htotal)]
                    simp only [htotal, decide_false, Bool.and_false]
                    rfl
                · rw [if_pos (Nat.lt_of_not_ge hsize)]
                  simp only [hsize, decide_false, Bool.and_false, Bool.false_and]
                  rfl
  · rw [if_pos hactive, if_neg hactive]
    rfl

end Extension

/-- The evidence as it is held once a candidate is fetched. -/
def SessionState.heldWith (s : SessionState) (candidate : GrillEvidenceCandidate) : List EvidenceInput :=
  s.fetchedEvidence ++ Extension.candidateEvidence candidate :: s.deepSupplementalEvidence.values

/-- **The fetch fits beside the searches**: the candidate that it records, if it records one, leaves all the evidence
within the limit. -/
def FetchFits (s : ExtensionState) : Event → Prop
  | .grillEvidence candidateId => ∀ candidate ∈ Extension.admittedCandidate? s candidateId,
      Extension.getDeepEvidenceContentBytes (s.session.heldWith candidate) ≤ Extension.deepEvidenceRoundMaxBytes
  | _ => True

instance (s : ExtensionState) : (e : Event) → Decidable (FetchFits s e)
  | .grillEvidence candidateId => inferInstanceAs (Decidable (∀ candidate ∈ Extension.admittedCandidate? s candidateId,
      Extension.getDeepEvidenceContentBytes (s.session.heldWith candidate) ≤ Extension.deepEvidenceRoundMaxBytes))
  | .grillComplete .. | .deepSearch .. | .deepRetrievalComplete .. | .deepComplete .. | .contextComplete ..
  | .adrComplete .. | .toolCall .. | .toolResult .. | .messageStart .. | .messageEnd .. | .agentSettled
  | .discoveryTimer | .buildTimer | .deepTimer | .input .. | .command .. | .resume .. => .isTrue trivial

/-- A fetch of a candidate of the snapshot: the bytes, and the items, that are held then. -/
theorem fetch_held {s : SessionState} {round : GrillRound} {candidate : GrillEvidenceCandidate}
    (hround : s.currentGrillRound = some round)
    (hcandidate : round.snapshot.candidates.get? candidate.candidateId = some candidate) :
    let fetched : SessionState := { s with fetchedEvidenceIds := s.fetchedEvidenceIds.add candidate.candidateId }
    Extension.getDeepEvidenceContentBytes fetched.evidenceHeld =
        Extension.getDeepEvidenceContentBytes (s.heldWith candidate) ∧
      ∀ item ∈ fetched.evidenceHeld, item ∈ s.evidenceHeld ∨ item = Extension.candidateEvidence candidate := by
  intro fetched
  have hheld : ∀ t : SessionState, t.currentGrillRound = some round →
      t.fetchedEvidence = (t.fetchedEvidenceIds.elems.filterMap round.snapshot.candidates.get?).map
        Extension.candidateEvidence := by
    intro t ht
    rw [SessionState.fetchedEvidence, ht]
    rfl
  by_cases hmem : candidate.candidateId ∈ s.fetchedEvidenceIds
  · have hsame : fetched = s := by
      simp only [fetched, OrderedSet.add, hmem, dif_pos]
    rw [hsame]
    refine ⟨?_, fun item hitem => .inl hitem⟩
    have hin : Extension.candidateEvidence candidate ∈ s.fetchedEvidence := by
      rw [hheld s hround]
      exact List.mem_map_of_mem (List.mem_filterMap.mpr ⟨_, hmem, hcandidate⟩)
    rw [getDeepEvidenceContentBytes_eq, getDeepEvidenceContentBytes_eq, SessionState.heldWith,
      FirstOccurrences.weigh_append_cons_seen evidenceKey _ (List.mem_map_of_mem hin)]
    rfl
  · have helems : fetched.fetchedEvidenceIds.elems = s.fetchedEvidenceIds.elems ++ [candidate.candidateId] := by
      simp only [fetched, OrderedSet.add, hmem, dif_neg, not_false_iff]
    have hfetched : fetched.fetchedEvidence = s.fetchedEvidence ++ [Extension.candidateEvidence candidate] := by
      rw [hheld fetched hround, hheld s hround, helems, List.filterMap_append, List.map_append]
      simp [hcandidate]
    have hall : fetched.evidenceHeld = s.heldWith candidate := by
      rw [SessionState.evidenceHeld, hfetched, SessionState.heldWith, List.append_assoc]
      rfl
    rw [hall]
    refine ⟨rfl, fun item hitem => ?_⟩
    rcases List.mem_append.mp hitem with hitem | hitem
    · exact .inl (List.mem_append_left _ hitem)
    · rcases List.mem_cons.mp hitem with rfl | hitem
      · exact .inr rfl
      · exact .inl (List.mem_append_right _ hitem)

/-! ### Runs -/

theorem linked_loaded (tools : List String) : Linked (loadedExtension tools).core := by
  constructor
  · exact nofun
  · exact nofun

theorem step_linked (host : Host) (s : ExtensionState) (o : Occurrence) (hs : Linked s.core) :
    Linked (extensionStep host o s).2.core :=
  path_linked (extensionStep_path host o s) ⟨hs.workflow, hs.snapshot⟩

/-- **One step keeps the limits exactly when its fetch fits.** -/
theorem step_withinSize (host : Host) (s : ExtensionState) (o : Occurrence) (hlinked : Linked s.core)
    (hs : WithinSize s.session) :
    WithinSize (extensionStep host o s).2.session ↔ FetchFits s o.event := by
  obtain ⟨files, event⟩ := o
  by_cases hadds : event.addsEvidence = true
  · cases event with
    | grillEvidence candidateId =>
        have hsession := Extension.forgeGrillEvidence_session (s := s.cleared) ⟨hlinked.workflow, hlinked.snapshot⟩
          candidateId
        change (extensionStep host ⟨files, .grillEvidence candidateId⟩ s).2.session = _ at hsession
        rw [hsession]
        show _ ↔ ∀ candidate ∈ Extension.admittedCandidate? s.cleared candidateId, _
        cases hadmitted : Extension.admittedCandidate? s.cleared candidateId with
        | none =>
            constructor
            · exact fun _ => nofun
            · exact fun _ => hs
        | some candidate =>
            obtain ⟨workflow, hworkflow, hcandidate, hsmall⟩ := Extension.admittedCandidate?_eq_some hadmitted
            obtain ⟨round, hround, hsnapshot⟩ := hlinked.workflow workflow hworkflow
            have hid : candidate.candidateId = candidateId :=
              (hlinked.snapshot round hround).1.1 candidateId candidate
                (OrderedMap.get?_eq_some_iff.mp (hsnapshot ▸ hcandidate))
            obtain ⟨hbytes, hitems⟩ := fetch_held hround (by rw [hid, ← hsnapshot]; exact hcandidate)
            constructor
            · rintro hafter _ ⟨⟩
              exact hbytes ▸ hafter.total
            · intro hfits
              refine ⟨?_, fun item hitem => ?_⟩
              · exact Nat.le_trans (Nat.le_of_eq hbytes) (hfits candidate rfl)
              · rcases hitems item hitem with hitem | rfl
                · exact hs.each item hitem
                · exact hsmall
    | deepSearch params =>
        constructor
        · exact fun _ => trivial
        · have hcore : Linked s.cleared.core := ⟨hlinked.workflow, hlinked.snapshot⟩
          exact fun _ => Extension.search_within hs hcore
    | _ => cases hadds
  · have hnone : event.addsEvidence = false := Bool.eq_false_iff.mpr hadds
    have hless := path_holdsNoMore (extensionStep_path host ⟨files, event⟩ s) ⟨hlinked.workflow, hlinked.snapshot⟩ hnone
    constructor
    · intro _
      cases event with
      | grillEvidence => exact absurd rfl hadds
      | _ => trivial
    · exact fun _ => HoldsNoMore.within hless hs

theorem run_linked (host : Host) (tools : List String) (os : List Occurrence) :
    Linked (finish (extensionStep host) (loadedExtension tools) os).core :=
  holds_at_finish (I := fun s => Linked s.core) (fun s o hs _ => step_linked host s o hs) (linked_loaded tools)
    (admissible_of_forall (fun _ _ => trivial) _ os)

/-- **The evidence stays within its limits exactly in the runs whose fetches fit beside the searches.** -/
theorem evidence_within_size (host : Host) (tools : List String) (os : List Occurrence) :
    (∀ pre, pre <+: os → WithinSize (finish (extensionStep host) (loadedExtension tools) pre).session) ↔
      Admissible (extensionStep host) (fun s o => FetchFits s o.event) (loadedExtension tools) os := by
  rw [← holds_in_prefixes_iff (I := fun s => Linked s.core ∧ WithinSize s.session)
    (fun s o hs => ?_) ⟨linked_loaded tools, withinSize_of_nil rfl⟩ os]
  · exact forall₂_congr fun pre _ => ⟨fun h => ⟨run_linked host tools pre, h⟩, And.right⟩
  · rw [← step_withinSize host s o hs.1 hs.2]
    exact ⟨And.right, fun h => ⟨step_linked host s o hs.1, h⟩⟩

/-! ### A run that goes beyond the limit -/

/-- A host whose digest is the beginning of the text: enough to tell the files of the run apart. -/
def prefixHost : Host := { sampleHost with digest := fun text => String.ofList (text.toList.take 55) }

/-- The matches of the discovery: three files of each tree, whose names have a word of the request `do it` in them. -/
def codeMatch (name : String) : LightDiscoveryMatch := ⟨.codeBase, name, name⟩

def wikiMatch (name : String) : LightDiscoveryMatch := ⟨.wiki, name, name⟩

/-- The files of the run that are large: the files of the code base but the first, the files under the root that
belong to all three, and the pages of the wiki. -/
def largeFiles : List (GrillEvidenceKind × LightDiscoveryMatch) :=
  [(.target, codeMatch "do-one.ts"), (.codeBase, codeMatch "do-six.ts"), (.target, codeMatch "do-six.ts"),
    (.codeBase, codeMatch "do-two.ts"), (.target, codeMatch "do-two.ts"), (.wiki, wikiMatch "how-to-do-one.md"),
    (.wiki, wikiMatch "how-to-do-six.md"), (.wiki, wikiMatch "how-to-do-two.md")]

/-- A small file of the code base, and the others with this content; a search finds one page more. -/
def filesOf (content : String) : Files :=
  { sampleFiles with
    runLightDiscovery := fun _ _ =>
      ⟨[codeMatch "do-one.ts", codeMatch "do-six.ts", codeMatch "do-two.ts", wikiMatch "how-to-do-one.md",
        wikiMatch "how-to-do-six.md", wikiMatch "how-to-do-two.md"], []⟩
    readEvidenceSource := fun path =>
      if path.drop 1 = ["code_base", "do-one.ts"] then .ok ⟨"do", none⟩ else .ok ⟨content, none⟩
    wikiSources := fun _ => .ok [⟨"b.md", "bbbbbbbb", []⟩] }

/-- A file as a candidate; its ID does not depend on its content. -/
def large (content : String) (file : GrillEvidenceKind × LightDiscoveryMatch) : GrillEvidenceCandidate :=
  { Extension.evidenceCandidate prefixHost file.1 file.2 ⟨"", none⟩ with content := content }

/-- The text from which the ID of a file is made begins with its kind and its path. -/
def idHead (file : GrillEvidenceKind × LightDiscoveryMatch) : String :=
  "[" ++ quote "forge-grill-evidence-v1" ++ "," ++ quote file.1.text ++ "," ++
    quote (file.1.text ++ "/" ++ file.2.relativePath) ++ ","

theorem idHead_length : ∀ file ∈ largeFiles, 55 ≤ (idHead file).toList.length := by decide

theorem large_id {file : GrillEvidenceKind × LightDiscoveryMatch} (h : file ∈ largeFiles) (content : String) :
    Extension.createEvidenceId prefixHost file.1.text (file.1.text ++ "/" ++ file.2.relativePath) content =
      "ev-" ++ String.ofList ((idHead file).toList.take 55) := by
  let text := String.ofList (Extension.normalizeNewlines content.toList)
  have hlist : (Json.compact (.texts ["forge-grill-evidence-v1", file.1.text,
      file.1.text ++ "/" ++ file.2.relativePath, text])).toList =
        (idHead file).toList ++ (quote text ++ "]").toList := by
    simp [Json.compact, Json.texts, Json.compactItems, join, idHead]
  show "ev-" ++ String.ofList (List.take 55 (Json.compact _).toList) = _
  rw [hlist, List.take_append_of_le_length (idHead_length file h)]

theorem large_evidenceCandidate {file : GrillEvidenceKind × LightDiscoveryMatch} (h : file ∈ largeFiles)
    (content : String) :
    Extension.evidenceCandidate prefixHost file.1 file.2 ⟨content, none⟩ = large content file := by
  unfold large Extension.evidenceCandidate
  simp only [large_id h]

/-- The small file of the code base as a candidate. -/
def codeFile : GrillEvidenceCandidate :=
  Extension.evidenceCandidate prefixHost .codeBase (codeMatch "do-one.ts") ⟨"do", none⟩

/-- What the discovery of the run finds.  Only the small file has a word of the request in it. -/
def filesFound (content : String) : GrillCompatibleDiscovery :=
  let evidence := codeFile :: largeFiles.map (large content)
  { codeBaseCandidates := [⟨["path", "content"], some ["do"], "do-one.ts"⟩]
    candidates := Extension.candidatesById evidence
    manifest := evidence.map (·.toGrillEvidenceManifestEntry)
    summary := join "\n" ["- code_base/do-one.ts", "- code_base/do-six.ts", "- code_base/do-two.ts",
      "- wiki/how-to-do-one.md", "- wiki/how-to-do-six.md", "- wiki/how-to-do-two.md"] }

/-- No word of the request is in the text. -/
def Plain (content : String) : Prop :=
  Extension.scoreDiscoverySeeds prefixHost content ["do", "it"] = 0

theorem targetCandidate?_large {content rootDir name : String} (h : (.target, codeMatch name) ∈ largeFiles) :
    Extension.targetCandidate? prefixHost (filesOf content) rootDir (codeMatch name) =
      some (large content (.target, codeMatch name)) := by
  have hread : (filesOf content).readEvidenceSource [rootDir, name] = .ok ⟨content, none⟩ := by
    simp [filesOf]
  rw [← large_evidenceCandidate h]
  unfold Extension.targetCandidate?
  rw [show (codeMatch name).relativePath = name from rfl, hread]

/-- A large file of the code base brings its target with it, and is no candidate for the relevance gate. -/
theorem candidatesOfMatch_code {content rootDir name : String} (hcontent : Plain content)
    (hfile : (.codeBase, codeMatch name) ∈ largeFiles) (htarget : (.target, codeMatch name) ∈ largeFiles)
    (hname : name ≠ "do-one.ts") :
    Extension.candidatesOfMatch prefixHost (filesOf content) rootDir ["do", "it"] (codeMatch name) =
      ([large content (.codeBase, codeMatch name), large content (.target, codeMatch name)], []) := by
  have hread : (filesOf content).readEvidenceSource [rootDir, "code_base", name] = .ok ⟨content, none⟩ := by
    simp [filesOf, hname]
  have hgate : Extension.codeBaseCandidate? prefixHost ["do", "it"] name content = none :=
    if_neg fun hscore => absurd hscore.2 (by rw [hcontent]; exact Nat.lt_irrefl 0)
  rw [← large_evidenceCandidate hfile]
  unfold Extension.candidatesOfMatch
  rw [show (codeMatch name).source.kind.text = "code_base" from rfl,
    show (codeMatch name).relativePath = name from rfl, hread]
  simp only [targetCandidate?_large htarget, hgate]
  rfl

theorem candidatesOfMatch_wiki {content rootDir name : String} (hfile : (.wiki, wikiMatch name) ∈ largeFiles) :
    Extension.candidatesOfMatch prefixHost (filesOf content) rootDir ["do", "it"] (wikiMatch name) =
      ([large content (.wiki, wikiMatch name)], []) := by
  have hread : (filesOf content).readEvidenceSource [rootDir, "wiki", name] = .ok ⟨content, none⟩ := by
    simp [filesOf]
  rw [← large_evidenceCandidate hfile]
  unfold Extension.candidatesOfMatch
  rw [show (wikiMatch name).source.kind.text = "wiki" from rfl,
    show (wikiMatch name).relativePath = name from rfl, hread]
  rfl

theorem files_discovery {content : String} (hcontent : Plain content) (goal rootDir : String) :
    Extension.buildGrillCompatibleDiscovery prefixHost (filesOf content) rootDir
      ((filesOf content).runLightDiscovery rootDir goal) goal = filesFound content := by
  have hsmall : Extension.candidatesOfMatch prefixHost (filesOf content) rootDir ["do", "it"] (codeMatch "do-one.ts") =
      ([codeFile, large content (.target, codeMatch "do-one.ts")],
        [⟨["path", "content"], some ["do"], "do-one.ts"⟩]) := by
    have hcandidate : Extension.codeBaseCandidate? prefixHost ["do", "it"] "do-one.ts" "do" =
        some ⟨["path", "content"], some ["do"], "do-one.ts"⟩ := by decide
    have hread : (filesOf content).readEvidenceSource [rootDir, "code_base", "do-one.ts"] = .ok ⟨"do", none⟩ := by
      simp [filesOf]
    unfold Extension.candidatesOfMatch
    rw [show (codeMatch "do-one.ts").source.kind.text = "code_base" from rfl,
      show (codeMatch "do-one.ts").relativePath = "do-one.ts" from rfl, hread]
    simp only [@targetCandidate?_large content rootDir "do-one.ts" (by decide), hcandidate]
    rfl
  have hmatches : ((filesOf content).runLightDiscovery rootDir goal).matches_ =
      [codeMatch "do-one.ts", codeMatch "do-six.ts", codeMatch "do-two.ts", wikiMatch "how-to-do-one.md",
        wikiMatch "how-to-do-six.md", wikiMatch "how-to-do-two.md"] := rfl
  have hseeds : prefixHost.extractDeepDiscoverySeeds goal = ["do", "it"] := rfl
  have hsix := @candidatesOfMatch_code content rootDir "do-six.ts" hcontent (by decide) (by decide) (by decide)
  have htwo := @candidatesOfMatch_code content rootDir "do-two.ts" hcontent (by decide) (by decide) (by decide)
  have hwiki := @candidatesOfMatch_wiki content rootDir
  simp only [Extension.buildGrillCompatibleDiscovery, hmatches, hseeds, List.map_cons, List.map_nil, hsmall, hsix, htwo,
    @hwiki "how-to-do-one.md" (by decide), @hwiki "how-to-do-six.md" (by decide),
    @hwiki "how-to-do-two.md" (by decide)]
  rfl

/-- The state in which the first round stands, on what its discovery found. -/
def enteredWith (found : GrillCompatibleDiscovery) : ExtensionState :=
  let snapshot : GrillEvidenceSnapshot := ⟨0, found.candidates, found.manifest⟩
  { loadedExtension Extension.grillToolNames with
    session := { createForgeSessionState with
      orchestrator := some .grill
      currentGrillRound := some ⟨true, "grill-1", "do it", snapshot⟩
      nextRoundId := 2
      uiState := { createForgeUiState .grill with decisionSummary := some "do it" } }
    pendingGrillRun := true
    activeWorkflow := some ⟨0, "do it", found.codeBaseCandidates, "/project", snapshot⟩
    savedActiveTools := some sampleTools
    nextRef := 1 }

/-- The first request, by what its discovery finds. -/
theorem files_entered {content : String} (hcontent : Plain content) :
    (extensionStep prefixHost ⟨filesOf content, startRequest⟩ (loadedExtension sampleTools)).2.cleared =
      enteredWith (filesFound content) := by
  have htrim : trim "/grill-run do it" = "/grill-run do it" := by decide
  have hrun : Extension.isGrillRun "/grill-run do it" = true := by decide
  have hgoal : Extension.textAfter Extension.grillRunCommand "/grill-run do it" = "do it" := by decide
  have hroot : Extension.projectRoot sampleCtx = some "/project" := by decide
  have hmissing : (filesOf content).missingAssets = fun _ => [] := rfl
  have hskill : (filesOf content).grillingSkill = .ok "skill" := rfl
  simp only [extensionStep, startRequest, Extension.handler, Extension.input, Extension.requestInput, get_bind_apply,
    htrim, hrun, hgoal, hroot, Extension.startFromInput, hmissing, Extension.startWorkflow,
    Extension.discoverAndGrill, files_discovery hcontent, Extension.grillingInvocation, hskill]
  generalize filesFound content = found
  rfl

/-- The ID of a candidate of the run. -/
def largeId (file : GrillEvidenceKind × LightDiscoveryMatch) : String := (large "" file).candidateId

/-- A text of one letter that makes up no seed holds no seed. -/
theorem plain_replicate (n : Nat) : Plain (String.ofList (List.replicate n 'b')) := by
  generalize htext : String.ofList (List.replicate n 'b') = text
  have hletters : ∀ c ∈ text.toList, c = 'b' := by
    intro c hc
    rw [← htext, String.toList_ofList] at hc
    exact (List.mem_replicate.mp hc).2
  have hmisses : ∀ seed ∈ ["do", "it"], Extension.seedMatches prefixHost text seed = false := by
    intro seed hseed
    have hother : ∃ c ∈ (Extension.normalizedSeed prefixHost seed).toList, c ≠ 'b' := by
      rcases List.mem_pair.mp hseed with rfl | rfl
      · exact ⟨'d', by decide, by decide⟩
      · exact ⟨'i', by decide, by decide⟩
    obtain ⟨c, hc, hne⟩ := hother
    have hincludes : Extension.includes text (Extension.normalizedSeed prefixHost seed) = false :=
      decide_eq_false fun hpart => hne (hletters c (hpart.subset hc))
    rw [Extension.seedMatches, hincludes, Bool.and_false]
  have hlower : prefixHost.toLowerCase text = text := rfl
  rw [Plain, Extension.scoreDiscoverySeeds, hlower, List.foldl_cons, List.foldl_cons,
    hmisses "do" List.mem_cons_self, hmisses "it" (List.mem_cons_of_mem _ List.mem_cons_self)]
  rfl

/-- A text that is large, but not too large. -/
def largeText : String := String.ofList (List.replicate 262143 'b')

theorem largeText_plain : Plain largeText := plain_replicate 262143

/-- Grill fetches the small file, a search finds a page, and Grill is taken up again. -/
def backToGrill : List Event :=
  [.grillEvidence codeFile.candidateId, .grillComplete (readyForDeep "grill-1" [codeFile.candidateId]) sampleCtx,
    .agentSettled, .deepTimer, .messageStart ["x"], .deepSearch ⟨"deep-1", "grill-1", "b", .wiki, none⟩,
    .command "reject" sampleCtx, .command "continue" sampleCtx]

/-- The state in which Grill is taken up again. -/
def backInGrill : ExtensionState :=
  finish (extensionStep prefixHost) (enteredWith (filesFound largeText)) (withFiles (filesOf largeText) backToGrill)

/-- The page that a search finds, by what is counted of it. -/
def foundPage : (String × String) × String :=
  (("ev-[\"forge-grill-evidence-v1\",\"wiki\",\"b.md\",\"bbbbbbbb\"]", "b.md"), "bbbbbbbb")

theorem backInGrill_reads : Extension.HasActiveGrillAttempt backInGrill ∧ backInGrill.activeWorkflow.isSome = true ∧
    backInGrill.session.fetchedEvidenceIds.elems = [codeFile.candidateId] ∧
    (backInGrill.session.deepSupplementalEvidence.values.map fun item => (evidenceKey item, item.content)) =
      [foundPage] := by
  decide +kernel

/-- In the run the workflow is on these files. -/
theorem backInGrill_snapshot : ∀ workflow ∈ backInGrill.activeWorkflow,
    workflow.snapshot.candidates = (filesFound largeText).candidates := by
  have hstep : ∀ (s : ExtensionState) (o : Occurrence),
      (∀ workflow ∈ s.activeWorkflow, workflow.snapshot.candidates = (filesFound largeText).candidates) →
      o.files = filesOf largeText →
      ∀ workflow ∈ (extensionStep prefixHost o s).2.activeWorkflow,
        workflow.snapshot.candidates = (filesFound largeText).candidates := by
    intro s o hs hfiles
    refine path_snapshot (P := fun snapshot => snapshot.candidates = (filesFound largeText).candidates) ?_
      (extensionStep_path prefixHost o s) hs
    intro goal rootDir ref
    rw [hfiles, files_discovery largeText_plain]
  have hentered : ∀ workflow ∈ (enteredWith (filesFound largeText)).activeWorkflow,
      workflow.snapshot.candidates = (filesFound largeText).candidates := by
    generalize filesFound largeText = found
    intro workflow hworkflow
    rw [← Option.some.inj hworkflow]
  have hfiles : Admissible (extensionStep prefixHost) (fun _ o => o.files = filesOf largeText)
      (enteredWith (filesFound largeText)) (withFiles (filesOf largeText) backToGrill) := by
    refine admissible_of_mem (fun o ho => ?_) _
    obtain ⟨event, -, hsame⟩ := List.mem_map.mp ho
    rw [← hsame]
  have hfinish := holds_at_finish (I := fun s : ExtensionState => ∀ workflow ∈ s.activeWorkflow,
    workflow.snapshot.candidates = (filesFound largeText).candidates) hstep hentered hfiles
  rw [backInGrill]
  exact hfinish

/-- A fetch leaves the workflow and the run of Grill. -/
theorem forgeGrillEvidence_frame (s : ExtensionState) (candidateId : String) :
    (Extension.forgeGrillEvidence candidateId s).2.activeWorkflow = s.activeWorkflow ∧
      (Extension.forgeGrillEvidence candidateId s).2.pendingGrillRun = s.pendingGrillRun := by
  suffices hkeeps : Keeps (fun t : ExtensionState => t.activeWorkflow = s.activeWorkflow ∧
      t.pendingGrillRun = s.pendingGrillRun) (Extension.forgeGrillEvidence candidateId) from hkeeps s ⟨rfl, rfl⟩
  refine keeps_bind keeps_get fun before => keeps_ite (keeps_pure _) ?_
  split
  · split
    · split
      · exact keeps_pure _
      · refine keeps_ite (keeps_pure _) (keeps_ite (keeps_pure _) (keeps_bind (fun _ h => h) fun _ => ?_))
        refine keeps_bind keeps_get fun after => ?_
        split
        · exact keeps_throw _
        · exact keeps_bind (keeps_modify fun _ h => h) fun _ => keeps_pure _
    · exact keeps_throw _
  · exact keeps_throw _

theorem utf8ByteSize_replicate (n : Nat) : (String.ofList (List.replicate n 'b')).utf8ByteSize = n := by
  rw [← String.size_toByteArray, String.toByteArray_ofList]
  induction n with
  | zero => rfl
  | succ n ih =>
      rw [List.replicate_succ, List.utf8Encode_cons, ByteArray.size_append, ih, Nat.add_comm]
      rfl

theorem largeText_size : largeText.utf8ByteSize = 262143 := utf8ByteSize_replicate _

/-- Candidates with an ID each are all in the snapshot. -/
theorem candidatesById_get {evidence : List GrillEvidenceCandidate} (h : (evidence.map (·.candidateId)).Nodup) :
    ∀ candidate ∈ evidence, (Extension.candidatesById evidence).get? candidate.candidateId = some candidate := by
  suffices hentries : ∀ (byId : OrderedMap String GrillEvidenceCandidate), (∀ c ∈ evidence, c.candidateId ∉ byId) →
      (evidence.foldl (fun byId candidate => byId.insert candidate.candidateId candidate) byId).entries =
        byId.entries ++ evidence.map fun c => (c.candidateId, c) by
    intro candidate hmem
    refine OrderedMap.get?_eq_some_iff.mpr ?_
    rw [Extension.candidatesById, hentries _ fun c _ => OrderedMap.notMem_empty c.candidateId]
    exact List.mem_append_right _ (List.mem_map_of_mem hmem)
  induction evidence with
  | nil => exact fun byId _ => (List.append_nil _).symm
  | cons first rest ih =>
      rw [List.map_cons, List.nodup_cons] at h
      intro byId hfree
      have hfirst : first.candidateId ∉ byId := hfree first List.mem_cons_self
      rw [List.foldl_cons, ih h.2 _ fun c hc hin => ?_, OrderedMap.entries_insert_of_notMem hfirst, List.map_cons,
        List.append_assoc]
      · rfl
      · rcases OrderedMap.mem_insert.mp hin with hsame | hin
        · exact h.1 (hsame ▸ List.mem_map_of_mem hc)
        · exact hfree c (List.mem_cons_of_mem first hc) hin

section LargeFiles

variable (content : String)

/-- The small file and the first of the large ones. -/
def readUpTo (n : Nat) : List GrillEvidenceCandidate := codeFile :: (largeFiles.take n).map (large content)

theorem readUpTo_ids (n : Nat) :
    (readUpTo content n).map (·.candidateId) = codeFile.candidateId :: (largeFiles.take n).map largeId := by
  rw [readUpTo, List.map_cons, List.map_map]
  rfl

theorem largeIds_nodup : (codeFile.candidateId :: largeFiles.map largeId).Nodup := by decide

theorem readUpTo_nodup (n : Nat) : ((readUpTo content n).map (·.candidateId)).Nodup := by
  rw [readUpTo_ids, List.map_take]
  exact largeIds_nodup.sublist ((List.take_sublist _ _).cons_cons _)

theorem readUpTo_get (n : Nat) : ∀ candidate ∈ readUpTo content n,
    (filesFound content).candidates.get? candidate.candidateId = some candidate := by
  have hcandidates : (filesFound content).candidates =
      Extension.candidatesById (codeFile :: largeFiles.map (large content)) := by
    rw [filesFound]
  have hids : ((codeFile :: largeFiles.map (large content)).map (·.candidateId)).Nodup := by
    have hlarge : (largeFiles.map (large content)).map (·.candidateId) = largeFiles.map largeId := by
      rw [List.map_map]
      rfl
    rw [List.map_cons, hlarge]
    exact largeIds_nodup
  intro candidate hmem
  rw [hcandidates, candidatesById_get hids candidate]
  rcases List.mem_cons.mp hmem with hfile | hmem
  · rw [hfile]
    exact List.mem_cons_self
  · obtain ⟨file, hlarge, hsame⟩ := List.mem_map.mp hmem
    rw [← hsame]
    exact List.mem_cons_of_mem _ (List.mem_map_of_mem (List.mem_of_mem_take hlarge))

theorem readUpTo_fetched (n : Nat) :
    ((readUpTo content n).map (·.candidateId)).filterMap (filesFound content).candidates.get? =
      readUpTo content n := by
  have hget := readUpTo_get content n
  generalize (filesFound content).candidates = candidates at hget ⊢
  generalize readUpTo content n = fetched at hget ⊢
  induction fetched with
  | nil => rfl
  | cons first rest ih =>
      rw [List.map_cons, List.filterMap_cons_some (hget first List.mem_cons_self),
        ih fun c hc => hget c (List.mem_cons_of_mem first hc)]

/-- What is counted of the small file, of the first large ones, and of the page that the search has found. -/
def countedUpTo (n : Nat) : List (String × String) :=
  evidenceKey (Extension.candidateEvidence codeFile) ::
    (largeFiles.take n).map (fun file => (largeId file, file.1.text ++ "/" ++ file.2.relativePath)) ++ [foundPage.1]

theorem countedUpTo_nodup (n : Nat) : (countedUpTo n).Nodup := by
  have hall : (evidenceKey (Extension.candidateEvidence codeFile) ::
      largeFiles.map (fun file => (largeId file, file.1.text ++ "/" ++ file.2.relativePath)) ++ [foundPage.1]).Nodup := by decide
  refine hall.sublist ?_
  rw [countedUpTo, List.map_take]
  exact ((List.take_sublist _ _).cons_cons _).append_right _

theorem readUpTo_keys (n : Nat) :
    ((readUpTo content n).map Extension.candidateEvidence).map evidenceKey ++ [foundPage.1] = countedUpTo n := by
  rw [readUpTo, List.map_cons, List.map_cons, List.map_map, List.map_map, countedUpTo]
  rfl

theorem readUpTo_size {size : Nat} (hsize : content.utf8ByteSize = size) (n : Nat) (hn : n ≤ 8) :
    (((readUpTo content n).map Extension.candidateEvidence).map (·.content.utf8ByteSize)).sum = 2 + n * size := by
  have hlength : (largeFiles.take n).length = n := List.length_take_of_le hn
  have hlarge : (((largeFiles.take n).map (large content)).map Extension.candidateEvidence).map
      (·.content.utf8ByteSize) = List.replicate n size := by
    rw [List.map_map, List.map_map, List.eq_replicate_iff]
    refine ⟨(List.length_map _).trans hlength, fun other hother => ?_⟩
    obtain ⟨file, -, rfl⟩ := List.mem_map.mp hother
    exact hsize
  have hfile : (Extension.candidateEvidence codeFile).content.utf8ByteSize = 2 := by decide
  rw [readUpTo, List.map_cons, List.map_cons, hlarge, List.sum_cons, hfile, List.sum_replicate_nat]

/-- Grill has read the first of the large files. -/
structure Reading (n : Nat) (s : ExtensionState) : Prop where
  linked : Linked s.core
  active : Extension.HasActiveGrillAttempt s
  workflow : ∃ workflow ∈ s.activeWorkflow, workflow.snapshot.candidates = (filesFound content).candidates
  fetched : s.session.fetchedEvidenceIds.elems = (readUpTo content n).map (·.candidateId)
  supplemental : (s.session.deepSupplementalEvidence.values.map fun item => (evidenceKey item, item.content)) =
    [foundPage]

variable {content}

theorem Reading.fetchedCandidates {n : Nat} {s : ExtensionState} (h : Reading content n s)
    {workflow : ActiveWorkflowContext} (hworkflow : s.activeWorkflow = some workflow) :
    Extension.fetchedCandidates s.session workflow.snapshot = readUpTo content n := by
  obtain ⟨other, hother, hcandidates⟩ := h.workflow
  obtain rfl := Option.some.inj (hworkflow.symm.trans hother)
  rw [Extension.fetchedCandidates, hcandidates, h.fetched, readUpTo_fetched]

theorem Reading.evidenceHeld {n : Nat} {s : ExtensionState} (h : Reading content n s) :
    s.session.evidenceHeld = (readUpTo content n).map Extension.candidateEvidence ++
      s.session.deepSupplementalEvidence.values := by
  obtain ⟨workflow, hworkflow, -⟩ := h.workflow
  obtain ⟨round, hround, hsnapshot⟩ := h.linked.workflow workflow hworkflow
  rw [SessionState.evidenceHeld, SessionState.fetchedEvidence]
  rw [show s.session.currentGrillRound = some round from hround]
  simp only [← hsnapshot, h.fetchedCandidates hworkflow]

/-- All that is held then, in bytes. -/
theorem Reading.bytes {n : Nat} {s : ExtensionState} (h : Reading content n s) (hn : n ≤ 8) {size : Nat}
    (hsize : content.utf8ByteSize = size) :
    Extension.getDeepEvidenceContentBytes s.session.evidenceHeld = 2 + n * size + 8 := by
  have hkeys : s.session.deepSupplementalEvidence.values.map evidenceKey = [foundPage.1] := by
    have hfirst := congrArg (List.map Prod.fst) h.supplemental
    rwa [List.map_map] at hfirst
  have hsizes : s.session.deepSupplementalEvidence.values.map (·.content.utf8ByteSize) = [8] := by
    have hsecond := congrArg (List.map fun counted => counted.2.utf8ByteSize) h.supplemental
    rw [List.map_map] at hsecond
    exact hsecond.trans (by decide)
  rw [getDeepEvidenceContentBytes_eq, h.evidenceHeld, FirstOccurrences.weigh_of_nodup evidenceKey _ ?_ fun _ _ => List.not_mem_nil,
    List.map_append, List.sum_append, readUpTo_size content hsize n hn, hsizes]
  · rfl
  · rw [List.map_append, hkeys, readUpTo_keys]
    exact countedUpTo_nodup n

theorem readUpTo_succ {n : Nat} (hn : n < largeFiles.length) :
    readUpTo content (n + 1) = readUpTo content n ++ [large content (largeFiles.get ⟨n, hn⟩)] := by
  rw [readUpTo, readUpTo, List.take_succ_eq_append_getElem hn, List.map_append]
  rfl

theorem readUpTo_bytes {size : Nat} (hsize : content.utf8ByteSize = size) {n : Nat} (hn : n ≤ 8) :
    Extension.getDeepEvidenceContentBytes ((readUpTo content n).map Extension.candidateEvidence) = 2 + n * size := by
  have hnodup := countedUpTo_nodup n
  rw [← readUpTo_keys content] at hnodup
  rw [getDeepEvidenceContentBytes_eq, FirstOccurrences.weigh_of_nodup evidenceKey _
    (List.nodup_append.mp hnodup).1 fun _ _ => List.not_mem_nil]
  exact readUpTo_size content hsize n hn

theorem large_metadata (file : GrillEvidenceKind × LightDiscoveryMatch) :
    Extension.evidenceTooLargeRejection? (large content file).metadata = none := by
  simp [large, Extension.evidenceCandidate, Extension.candidateMetadata, Extension.evidenceTooLargeRejection?,
    List.lookup_cons]

/-- The next file passes the checks of the call. -/
theorem Reading.admits {n : Nat} {s : ExtensionState} (h : Reading content n s) (hn : n < largeFiles.length)
    (hsize : content.utf8ByteSize = 262143) :
    Extension.admittedCandidate? s (largeId (largeFiles.get ⟨n, hn⟩)) = some (large content (largeFiles.get ⟨n, hn⟩)) := by
  obtain ⟨workflow, hworkflow, hcandidates⟩ := h.workflow
  have hnext : readUpTo content n ++ [large content (largeFiles.get ⟨n, hn⟩)] = readUpTo content (n + 1) :=
    (readUpTo_succ hn).symm
  have hbytes : Extension.getDeepEvidenceContentBytes ((readUpTo content (n + 1)).map Extension.candidateEvidence) ≤
      Extension.deepEvidenceRoundMaxBytes := by
    rw [readUpTo_bytes hsize hn, Extension.deepEvidenceRoundMaxBytes]
    have hlength : n < 8 := hn
    omega
  have hget : (filesFound content).candidates.get? (largeId (largeFiles.get ⟨n, hn⟩)) =
      some (large content (largeFiles.get ⟨n, hn⟩)) := by
    have hmem : large content (largeFiles.get ⟨n, hn⟩) ∈ readUpTo content (n + 1) := by
      rw [← hnext]
      exact List.mem_append_right _ (List.mem_singleton.mpr rfl)
    exact readUpTo_get content (n + 1) (large content (largeFiles.get ⟨n, hn⟩)) hmem
  have hsmall : (large content (largeFiles.get ⟨n, hn⟩)).content.utf8ByteSize ≤ Extension.deepEvidenceMaxBytes :=
    Nat.le_trans (Nat.le_of_eq hsize) (by decide)
  have hfetched := h.fetchedCandidates hworkflow
  rw [Extension.admittedCandidate?, if_pos h.active, show s.activeWorkflow = some workflow from hworkflow,
    Option.bind_some, hcandidates, hget]
  simp only [Option.filter, large_metadata, hsmall, hfetched, hnext, hbytes, Option.isNone_none, decide_true,
    Bool.and_self, if_true]

/-- The next file is fetched, as long as the files are large but not too large. -/
theorem Reading.next {n : Nat} {s : ExtensionState} (h : Reading content n s) (hn : n < largeFiles.length)
    (hsize : content.utf8ByteSize = 262143) (files : Files) :
    Reading content (n + 1) (extensionStep prefixHost ⟨files, .grillEvidence (largeId (largeFiles.get ⟨n, hn⟩))⟩ s).2 := by
  have hcleared : Reading content n s.cleared := ⟨⟨h.linked.workflow, h.linked.snapshot⟩, h.active, h.workflow, h.fetched,
    h.supplemental⟩
  have hsession := Extension.forgeGrillEvidence_session hcleared.linked (largeId (largeFiles.get ⟨n, hn⟩))
  rw [hcleared.admits hn hsize] at hsession
  obtain ⟨hworkflow, hrun⟩ := forgeGrillEvidence_frame s.cleared (largeId (largeFiles.get ⟨n, hn⟩))
  have hnew : (large content (largeFiles.get ⟨n, hn⟩)).candidateId ∉ s.session.fetchedEvidenceIds := by
    have hnodup := readUpTo_nodup content (n + 1)
    rw [readUpTo_succ hn, List.map_append, ← h.fetched] at hnodup
    intro hin
    exact (List.nodup_append.mp hnodup).2.2 _ hin _ (List.mem_singleton.mpr rfl) rfl
  change (extensionStep prefixHost ⟨files, .grillEvidence (largeId (largeFiles.get ⟨n, hn⟩))⟩ s).2.session = _ at hsession
  change (extensionStep prefixHost ⟨files, .grillEvidence (largeId (largeFiles.get ⟨n, hn⟩))⟩ s).2.activeWorkflow = _
    at hworkflow
  change (extensionStep prefixHost ⟨files, .grillEvidence (largeId (largeFiles.get ⟨n, hn⟩))⟩ s).2.pendingGrillRun = _
    at hrun
  constructor
  · exact step_linked prefixHost s _ h.linked
  · rw [Extension.HasActiveGrillAttempt, Extension.AtStage, hrun, hsession]
    exact h.active
  · rw [hworkflow]
    exact h.workflow
  · rw [hsession, readUpTo_succ hn, List.map_append, ← h.fetched]
    show (s.session.fetchedEvidenceIds.add _).elems = _
    rw [OrderedSet.add, dif_neg hnew]
    rfl
  · rw [hsession]
    exact h.supplemental

/-- All of them are fetched, one after the other. -/
theorem Reading.all {n : Nat} {s : ExtensionState} (h : Reading content n s) (hn : n ≤ largeFiles.length)
    (hsize : content.utf8ByteSize = 262143) (files : Files) :
    Reading content 8 (finish (extensionStep prefixHost) s
      (withFiles files ((largeFiles.drop n).map fun file => .grillEvidence (largeId file)))) := by
  induction hleft : largeFiles.length - n generalizing n s with
  | zero =>
      have hall : n = 8 := Nat.le_antisymm hn (Nat.le_of_sub_eq_zero hleft)
      subst hall
      exact h
  | succ left ih =>
      have hlt : n < largeFiles.length := by omega
      have hdrop : largeFiles.drop n = largeFiles.get ⟨n, hlt⟩ :: largeFiles.drop (n + 1) :=
        List.drop_eq_getElem_cons hlt
      rw [hdrop]
      exact ih (h.next hlt hsize files) hlt (by omega)

end LargeFiles

/-- A step forgets the calls and the effects of the one before it. -/
theorem finish_cleared (host : Host) (s : ExtensionState) (files : Files) (first second : Event) (rest : List Event) :
    finish (extensionStep host) (extensionStep host ⟨files, first⟩ s).2.cleared (withFiles files (second :: rest)) =
      finish (extensionStep host) s (withFiles files (first :: second :: rest)) := rfl

theorem backInGrill_run : backInGrill = finish (extensionStep prefixHost) (loadedExtension sampleTools)
    (withFiles (filesOf largeText) (startRequest :: backToGrill)) := by
  rw [backInGrill, ← files_entered largeText_plain, backToGrill]
  exact finish_cleared prefixHost _ _ _ _ _

/-- Grill fetches the small file, a search finds a page, and Grill is taken up again and fetches all the large files. -/
def grillAfterSearch : List Event :=
  startRequest :: (backToGrill ++ largeFiles.map fun file => .grillEvidence (largeId file))

/-- **A fetch after a search goes beyond the limit.** -/
theorem grill_after_search : ¬ WithinSize (finish (extensionStep prefixHost) (loadedExtension sampleTools)
    (withFiles (filesOf largeText) grillAfterSearch)).session := by
  have hback : Reading largeText 0 backInGrill := by
    obtain ⟨hactive, hworkflow, hfetched, hsupplemental⟩ := backInGrill_reads
    obtain ⟨workflow, hsome⟩ := Option.isSome_iff_exists.mp hworkflow
    refine ⟨?_, hactive, ⟨workflow, hsome, backInGrill_snapshot workflow hsome⟩, hfetched, hsupplemental⟩
    rw [backInGrill_run]
    exact run_linked prefixHost sampleTools _
  have hend := hback.all (Nat.zero_le _) largeText_size (filesOf largeText)
  have hrun : finish (extensionStep prefixHost) (loadedExtension sampleTools)
      (withFiles (filesOf largeText) grillAfterSearch) = finish (extensionStep prefixHost) backInGrill
        (withFiles (filesOf largeText) ((largeFiles.drop 0).map fun file => .grillEvidence (largeId file))) := by
    have hsplit : withFiles (filesOf largeText) grillAfterSearch =
        withFiles (filesOf largeText) (startRequest :: backToGrill) ++
          withFiles (filesOf largeText) ((largeFiles.drop 0).map fun file => .grillEvidence (largeId file)) := by
      rw [withFiles, withFiles, withFiles, ← List.map_append]
      rfl
    rw [hsplit, finish_append, ← backInGrill_run]
  intro hwithin
  have htotal := hwithin.total
  rw [hrun, hend.bytes (Nat.le_refl 8) largeText_size, Extension.deepEvidenceRoundMaxBytes] at htotal
  omega

end ForgeRuntime
