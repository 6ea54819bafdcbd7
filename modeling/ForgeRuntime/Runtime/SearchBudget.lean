import ForgeRuntime.Runtime.PendingDecision
import ForgeRuntime.Runtime.ShownState

/-!
# The search budget

A search reserves a place in the budget of its round, and commits or releases it.  A place is reserved under
the key of the attempt; a key that holds one already is not checked against the limit again.

* `reserved_placesTaken`, `commit_placesTaken`, `release_placesTaken` — what each operation does to the places that
  are taken;
* `step_searches` — the session counts the searches that a run commits in the present source round;
* `search_budget` — the limit holds in exactly the runs in which no full budget is asked under a key that
  holds a place;
* `ninth_reservation` — a run in which the limit is passed.
-/

namespace ForgeRuntime

open EventDriven EventDriven.Machine EventDriven.Text EventDriven.Turn

/-- The places of the budget that are taken: the committed searches and the outstanding reservations. -/
def SessionState.placesTaken (s : SessionState) : Nat := s.deepSearchCount + s.deepSearchReservations.values.sum

/-- The outstanding reservations of an attempt. -/
def SessionState.outstanding (s : SessionState) (identity : DeepAttemptIdentity) : Nat :=
  (s.deepSearchReservations.get? (Session.reservationKey identity)).getD 0

/-! ### Who writes the budget -/

/-- The operations on the search budget. -/
def SessionOp.usesBudget : SessionOp → Bool
  | .consumeDeepSearchBudget _ => true
  | .reserveDeepSearchBudget _ => true
  | .commitDeepSearchBudget _ => true
  | .releaseDeepSearchBudget _ => true
  | _ => false

/-- Only the budget is written. -/
def OnlyBudget (s t : SessionState) : Prop := ∃ budgetRound count reservations, t = { s with
  deepSearchBudgetRoundId := budgetRound
  deepSearchCount := count
  deepSearchReservations := reservations }

namespace Session

theorem reserveDeepSearchBudget_only (identity : DeepAttemptIdentity) (s : SessionState) :
    OnlyBudget s (reserveDeepSearchBudget identity s).2 := by
  rcases reserveDeepSearchBudget_cases s identity with h | ⟨-, answer, round, count, rs, h⟩
  · rw [h]
    exact ⟨_, _, _, rfl⟩
  · rw [h]
    exact ⟨_, _, _, rfl⟩

theorem commitDeepSearchBudget_only (identity : DeepAttemptIdentity) (s : SessionState) :
    OnlyBudget s (commitDeepSearchBudget identity s).2 := by
  rcases commitDeepSearchBudget_cases s identity with h | ⟨-, answer, count, rs, h⟩
  · rw [h]
    exact ⟨_, _, _, rfl⟩
  · rw [h]
    exact ⟨_, _, _, rfl⟩

theorem releaseDeepSearchBudget_only (identity : DeepAttemptIdentity) (s : SessionState) :
    OnlyBudget s (releaseDeepSearchBudget identity s).2 := by
  simp only [releaseDeepSearchBudget, get_bind_apply, ite_apply_state, pure_apply, modify_bind_apply]
  split
  · exact ⟨_, _, _, rfl⟩
  · exact ⟨_, _, _, rfl⟩

theorem consumeDeepSearchBudget_only (identity : DeepAttemptIdentity) (s : SessionState) :
    OnlyBudget s (consumeDeepSearchBudget identity s).2 := by
  have hreserves := reserveDeepSearchBudget_only identity s
  unfold consumeDeepSearchBudget
  rw [bind_apply]
  rcases hrun : reserveDeepSearchBudget identity s with ⟨error | answer, t⟩
  · rw [hrun] at hreserves
    exact hreserves
  · rw [hrun] at hreserves
    obtain ⟨round, count, rs, rfl⟩ := hreserves
    have hcommits := commitDeepSearchBudget_only identity { s with
      deepSearchBudgetRoundId := round
      deepSearchCount := count
      deepSearchReservations := rs }
    obtain ⟨round', count', rs', hcommits⟩ := hcommits
    cases answer with
    | stale | limit => exact ⟨_, _, _, rfl⟩
    | accepted | reserved | released => exact ⟨_, _, _, hcommits⟩

end Session

theorem budget_only (digest : String → String) {op : SessionOp} (hop : op.usesBudget = true)
    (s : SessionState) : OnlyBudget s (sessionStep digest op s).2 := by
  cases op with
  | consumeDeepSearchBudget identity =>
      rw [sessionStep, Session.runOp, map_apply]
      exact Session.consumeDeepSearchBudget_only identity s
  | reserveDeepSearchBudget identity =>
      rw [sessionStep, Session.runOp, map_apply]
      exact Session.reserveDeepSearchBudget_only identity s
  | commitDeepSearchBudget identity =>
      rw [sessionStep, Session.runOp, map_apply]
      exact Session.commitDeepSearchBudget_only identity s
  | releaseDeepSearchBudget identity =>
      rw [sessionStep, Session.runOp, map_apply]
      exact Session.releaseDeepSearchBudget_only identity s
  | _ => cases hop

/-- Evidence is recorded beside the budget. -/
theorem recordDeepSupplementalEvidence_budget (digest : String → String) (identity : DeepAttemptIdentity)
    (evidenceId : String) (evidence : Option EvidenceInput) (s : SessionState) :
    (sessionStep digest (.recordDeepSupplementalEvidence identity evidenceId evidence) s).2.placesTaken =
      s.placesTaken := by
  rw [sessionStep, Session.runOp, map_apply]
  simp only [Session.recordDeepSupplementalEvidence, get_bind_apply, ite_apply_state, pure_apply]
  split
  · rfl
  · cases s.deepSupplementalEvidence.get? evidenceId with
    | none => rfl
    | some existing =>
        simp only [ite_apply_state, pure_apply, throw_apply]
        split
        · rfl
        · rfl

/-- The other operations take no place. -/
theorem step_placesTaken (digest : String → String) {op : SessionOp} (hop : op.usesBudget = false)
    (s : SessionState) : (sessionStep digest op s).2.placesTaken ≤ s.placesTaken := by
  by_cases hrecord : op.bookkeepingIdentity? = none
  · have hmove := step_move digest s op
    generalize (sessionStep digest op s).1 = r at hmove
    generalize (sessionStep digest op s).2 = t at hmove ⊢
    cases hmove with
    | bookkept hbookkeeping => exact absurd (hrecord.symm.trans hbookkeeping) (by simp)
    | answered hr horch hpending hkind hguard hcontinues => cases hcontinues <;> exact Nat.le_refl _
    | deepIssued => simp [SessionState.placesTaken]
    | wasReset => simp [SessionState.placesTaken, createForgeSessionState]
    | roundStarted hr first hfirst =>
        cases first with
        | true => simp [SessionState.placesTaken, Session.forgetSnapshot]
        | false => simp [SessionState.placesTaken]
    | _ => exact Nat.le_refl _
  · cases op with
    | recordDeepSupplementalEvidence identity evidenceId evidence =>
        exact Nat.le_of_eq (recordDeepSupplementalEvidence_budget digest identity evidenceId evidence s)
    | consumeDeepSearchBudget | reserveDeepSearchBudget | commitDeepSearchBudget | releaseDeepSearchBudget => cases hop
    | _ => exact absurd rfl hrecord

/-! ### What each operation takes -/

namespace Session

/-- One reservation of a key less, if there is one. -/
theorem dropReservation_sum (reservations : OrderedMap String Nat) (key : String) :
    (dropReservation reservations key).values.sum + min 1 ((reservations.get? key).getD 0) =
      reservations.values.sum := by
  unfold dropReservation
  have hinsert := OrderedMap.sum_insert reservations key
  have herase := OrderedMap.sum_erase reservations key
  generalize (reservations.get? key).getD 0 = n at hinsert herase ⊢
  match n with
  | 0 => simp
  | 1 => simpa using herase
  | n + 2 =>
      have hsum := hinsert (n + 1)
      show (reservations.insert key (n + 1)).values.sum + min 1 (n + 2) = _
      omega

/-- The other keys keep theirs. -/
theorem dropReservation_other (reservations : OrderedMap String Nat) {key other : String} (h : other ≠ key) :
    (dropReservation reservations key).get? other = reservations.get? other := by
  unfold dropReservation
  split
  · rfl
  · exact OrderedMap.get?_erase_of_ne _ h
  · rw [OrderedMap.get?_insert, if_neg h]

/-- The key loses one. -/
theorem dropReservation_own (reservations : OrderedMap String Nat) (key : String) :
    ((dropReservation reservations key).get? key).getD 0 + min 1 ((reservations.get? key).getD 0) =
      (reservations.get? key).getD 0 := by
  unfold dropReservation
  have herase := OrderedMap.get?_erase_self reservations key
  generalize hn : (reservations.get? key).getD 0 = n
  match n with
  | 0 => simp [hn]
  | 1 => simp [herase]
  | n + 2 =>
      simp only [OrderedMap.get?_insert, if_true, Option.getD_some]
      omega

/-- A place that is reserved, on a budget that serves the round. -/
def reserved (identity : DeepAttemptIdentity) (s : SessionState) : SessionState :=
  { s with
    deepSearchReservations := s.deepSearchReservations.insert (reservationKey identity) (s.outstanding identity + 1) }

theorem reserved_placesTaken (identity : DeepAttemptIdentity) (s : SessionState) :
    (reserved identity s).placesTaken = s.placesTaken + 1 := by
  have hsum := OrderedMap.sum_insert s.deepSearchReservations (reservationKey identity) (s.outstanding identity + 1)
  show s.deepSearchCount + (s.deepSearchReservations.insert _ _).values.sum = _
  rw [SessionState.placesTaken]
  rw [SessionState.outstanding] at hsum ⊢
  omega

/-- The budget as it serves the round. -/
def servesRound (identity : DeepAttemptIdentity) (s : SessionState) : SessionState :=
  if s.deepSearchBudgetRoundId = some identity.sourceRoundId then s
  else
    { s with
      deepSearchBudgetRoundId := some identity.sourceRoundId
      deepSearchCount := 0
      deepSearchReservations := .empty }

/-- **A reservation** is stale, it meets the limit under a key without a place, or it takes a place. -/
theorem reserveDeepSearchBudget_apply (identity : DeepAttemptIdentity) (s : SessionState) :
    reserveDeepSearchBudget identity s =
      if budgetIsStale s identity then (.ok .stale, s)
      else if reservationKey identity ∉ (servesRound identity s).deepSearchReservations ∧
          (servesRound identity s).placesTaken ≥ deepSearchMaxPerSourceRound then
        (.ok .limit, servesRound identity s)
      else (.ok .reserved, reserved identity (servesRound identity s)) := by
  simp only [reserveDeepSearchBudget, get_bind_apply, ite_apply_state, pure_apply, modify_bind_apply]
  by_cases hstale : budgetIsStale s identity
  · rw [if_pos hstale, if_pos hstale]
  · rw [if_neg hstale, if_neg hstale]
    by_cases hround : s.deepSearchBudgetRoundId = some identity.sourceRoundId
    · have hserves : servesRound identity s = s := if_pos hround
      rw [hserves, if_neg (not_not.mpr hround)]
      rfl
    · rw [if_pos hround, servesRound, if_neg hround]
      rfl

/-- A commit spends the reservation that it counts. -/
theorem commitDeepSearchBudget_apply (identity : DeepAttemptIdentity) (s : SessionState) :
    commitDeepSearchBudget identity s =
      if budgetIsStale s identity then (.ok .stale, s)
      else if s.outstanding identity > 0 then
        (.ok .accepted, { s with
          deepSearchReservations := dropReservation s.deepSearchReservations (reservationKey identity)
          deepSearchCount := s.deepSearchCount + 1 })
      else (.ok .accepted, s) := by
  simp only [commitDeepSearchBudget, get_bind_apply, ite_apply_state, pure_apply, modify_bind_apply]
  rfl

theorem releaseDeepSearchBudget_apply (identity : DeepAttemptIdentity) (s : SessionState) :
    releaseDeepSearchBudget identity s =
      if budgetIsStale s identity then (.ok .stale, s)
      else (.ok .released, { s with
        deepSearchReservations := dropReservation s.deepSearchReservations (reservationKey identity) }) := by
  simp only [releaseDeepSearchBudget, get_bind_apply, ite_apply_state, pure_apply, modify_bind_apply]

/-- A commit takes no place: it turns a reservation into a search. -/
theorem commit_placesTaken (identity : DeepAttemptIdentity) (s : SessionState) :
    (commitDeepSearchBudget identity s).2.placesTaken = s.placesTaken := by
  have hdrop := dropReservation_sum s.deepSearchReservations (reservationKey identity)
  rw [commitDeepSearchBudget_apply]
  split
  · rfl
  · split
    · rename_i hheld
      rw [SessionState.outstanding] at hheld
      show s.deepSearchCount + 1 + (dropReservation s.deepSearchReservations (reservationKey identity)).values.sum = _
      rw [SessionState.placesTaken]
      omega
    · rfl

theorem release_placesTaken (identity : DeepAttemptIdentity) (s : SessionState) :
    (releaseDeepSearchBudget identity s).2.placesTaken ≤ s.placesTaken := by
  have hdrop := dropReservation_sum s.deepSearchReservations (reservationKey identity)
  rw [releaseDeepSearchBudget_apply]
  split
  · exact Nat.le_refl _
  · show s.deepSearchCount + (dropReservation s.deepSearchReservations (reservationKey identity)).values.sum ≤ _
    rw [SessionState.placesTaken]
    omega

theorem reserved_outstanding (identity : DeepAttemptIdentity) (s : SessionState) :
    (reserved identity s).outstanding identity = s.outstanding identity + 1 := by
  show ((s.deepSearchReservations.insert (reservationKey identity) (s.outstanding identity + 1)).get?
    (reservationKey identity)).getD 0 = _
  rw [OrderedMap.get?_insert, if_pos rfl, Option.getD_some]

/-- **A search that is consumed** is reserved and committed at once. -/
theorem consumeDeepSearchBudget_apply (identity : DeepAttemptIdentity) (s : SessionState) :
    consumeDeepSearchBudget identity s =
      if budgetIsStale s identity then (.ok .stale, s)
      else if reservationKey identity ∉ (servesRound identity s).deepSearchReservations ∧
          (servesRound identity s).placesTaken ≥ deepSearchMaxPerSourceRound then
        (.ok .limit, servesRound identity s)
      else commitDeepSearchBudget identity (reserved identity (servesRound identity s)) := by
  have hreserve := reserveDeepSearchBudget_apply identity s
  unfold consumeDeepSearchBudget
  rw [bind_apply]
  by_cases hstale : budgetIsStale s identity
  · rw [if_pos hstale] at hreserve ⊢
    rw [hreserve]
    rfl
  rw [if_neg hstale] at hreserve ⊢
  by_cases hlimit : reservationKey identity ∉ (servesRound identity s).deepSearchReservations ∧
      (servesRound identity s).placesTaken ≥ deepSearchMaxPerSourceRound
  · rw [if_pos hlimit] at hreserve ⊢
    rw [hreserve]
    rfl
  · rw [if_neg hlimit] at hreserve ⊢
    rw [hreserve]

/-- `consumeDeepSearchBudget` takes the place that the reservation in it takes. -/
theorem consume_placesTaken (identity : DeepAttemptIdentity) (s : SessionState) :
    (consumeDeepSearchBudget identity s).2.placesTaken = (reserveDeepSearchBudget identity s).2.placesTaken := by
  unfold consumeDeepSearchBudget
  rw [bind_apply]
  rcases reserveDeepSearchBudget identity s with ⟨error | answer, t⟩
  · rfl
  · cases answer with
    | stale | limit => rfl
    | accepted | reserved | released => exact commit_placesTaken identity t

end Session

/-! ### The limit -/

/-- The budget of the round is full, and the key of the live attempt holds a place in it. -/
structure FullUnderKey (s : SessionState) (identity : DeepAttemptIdentity) : Prop where
  live : ¬ Session.budgetIsStale s identity
  round : s.deepSearchBudgetRoundId = some identity.sourceRoundId
  holds : Session.reservationKey identity ∈ s.deepSearchReservations
  full : s.placesTaken ≥ deepSearchMaxPerSourceRound

instance (s : SessionState) (identity : DeepAttemptIdentity) : Decidable (FullUnderKey s identity) :=
  decidable_of_iff (¬ Session.budgetIsStale s identity ∧
      s.deepSearchBudgetRoundId = some identity.sourceRoundId ∧
      Session.reservationKey identity ∈ s.deepSearchReservations ∧ s.placesTaken ≥ deepSearchMaxPerSourceRound)
    ⟨fun h => ⟨h.1, h.2.1, h.2.2.1, h.2.2.2⟩, fun h => ⟨h.live, h.round, h.holds, h.full⟩⟩

/-- **No place is asked of a full budget under a key that holds one.** -/
def AsksWithinLimit (s : SessionState) : SessionOp → Prop
  | .reserveDeepSearchBudget identity => ¬ FullUnderKey s identity
  | .consumeDeepSearchBudget identity => ¬ FullUnderKey s identity
  | _ => True

instance (s : SessionState) (op : SessionOp) : Decidable (AsksWithinLimit s op) := by
  unfold AsksWithinLimit
  split <;> infer_instance

/-- The limit holds. -/
def WithinLimit (s : SessionState) : Prop := s.placesTaken ≤ deepSearchMaxPerSourceRound

/-- A reservation keeps the limit, unless the budget is full and the key holds a place. -/
theorem reserve_within {identity : DeepAttemptIdentity} {s : SessionState} (hs : WithinLimit s) :
    WithinLimit (Session.reserveDeepSearchBudget identity s).2 ↔ ¬ FullUnderKey s identity := by
  rw [Session.reserveDeepSearchBudget_apply]
  by_cases hstale : Session.budgetIsStale s identity
  · rw [if_pos hstale]
    exact ⟨fun _ hfull => hfull.live hstale, fun _ => hs⟩
  rw [if_neg hstale]
  by_cases hround : s.deepSearchBudgetRoundId = some identity.sourceRoundId
  · have hserves : Session.servesRound identity s = s := if_pos hround
    rw [hserves]
    by_cases hlimit : Session.reservationKey identity ∉ s.deepSearchReservations ∧
        s.placesTaken ≥ deepSearchMaxPerSourceRound
    · rw [if_pos hlimit]
      exact ⟨fun _ hfull => hlimit.1 hfull.holds, fun _ => hs⟩
    · rw [if_neg hlimit]
      show (Session.reserved identity s).placesTaken ≤ _ ↔ _
      rw [Session.reserved_placesTaken]
      constructor
      · intro hle hfull
        have hge := hfull.full
        omega
      · intro hnot
        by_contra hgt
        have hge : s.placesTaken ≥ deepSearchMaxPerSourceRound := by omega
        by_cases hholds : Session.reservationKey identity ∈ s.deepSearchReservations
        · exact hnot ⟨hstale, hround, hholds, hge⟩
        · exact hlimit ⟨hholds, hge⟩
  · have hempty : (Session.servesRound identity s).placesTaken = 0 := by
      rw [Session.servesRound, if_neg hround]
      rfl
    rw [if_neg fun hlimit => absurd hlimit.2 (by rw [hempty]; decide)]
    refine ⟨fun _ hfull => hround hfull.round, fun _ => ?_⟩
    show (Session.reserved identity _).placesTaken ≤ _
    rw [Session.reserved_placesTaken, hempty]
    decide

/-- **One operation** keeps the limit exactly when it asks within it. -/
theorem step_within (digest : String → String) {s : SessionState} (hs : WithinLimit s) (op : SessionOp) :
    WithinLimit (sessionStep digest op s).2 ↔ AsksWithinLimit s op := by
  cases op with
  | reserveDeepSearchBudget identity =>
      rw [sessionStep, Session.runOp, map_apply]
      exact reserve_within hs
  | consumeDeepSearchBudget identity =>
      rw [sessionStep, Session.runOp, map_apply]
      show (Session.consumeDeepSearchBudget identity s).2.placesTaken ≤ _ ↔ _
      rw [Session.consume_placesTaken]
      exact reserve_within hs
  | commitDeepSearchBudget identity =>
      rw [sessionStep, Session.runOp, map_apply]
      refine iff_of_true ?_ trivial
      show (Session.commitDeepSearchBudget identity s).2.placesTaken ≤ _
      rw [Session.commit_placesTaken]
      exact hs
  | releaseDeepSearchBudget identity =>
      rw [sessionStep, Session.runOp, map_apply]
      exact iff_of_true ((Session.release_placesTaken identity s).trans hs) trivial
  | _ => exact iff_of_true ((step_placesTaken digest rfl s).trans hs) trivial

/-! ### The searches of a source round -/

/-- The operations that open a source round, or leave none. -/
def SessionOp.opensRound : SessionOp → Bool
  | .startGrillRound _ _ => true
  | .reset => true
  | _ => false

/-- The step commits a search: of a reservation that is outstanding, or of one that is made in the same call. -/
def commitsSearch (st : SessionStepRecord) : Bool :=
  match st.input, st.output with
  | .commitDeepSearchBudget identity, .ok (.budget .accepted) => decide (0 < st.before.outstanding identity)
  | .consumeDeepSearchBudget _, .ok (.budget .accepted) => true
  | _, _ => false

/-- The searches committed in the source round, after one more step. -/
def countSearch (n : Nat) (st : SessionStepRecord) : Nat :=
  if st.input.opensRound then 0 else if commitsSearch st then n + 1 else n

/-- **The searches that the steps have committed since the source round began.** -/
def searchesOfRound (steps : List SessionStepRecord) : Nat := steps.foldl countSearch 0

/-- No attempt is live, or none has a reservation. -/
def NothingReserved (s : SessionState) : Prop := s.deepAttempt = none ∨ s.deepSearchReservations = .empty

/-- The count of the session is that of the present source round; a budget that serves no round has counted nothing. -/
structure CountsSearches (s : SessionState) (n : Nat) : Prop where
  count : s.deepSearchCount = n
  round : s.deepSearchBudgetRoundId = none ∧ n = 0 ∧ NothingReserved s ∨
    s.deepSearchBudgetRoundId = s.currentGrillRound.map (·.roundId)

theorem CountsSearches.frame {s t : SessionState} {n : Nat} (hs : CountsSearches s n)
    (hcount : t.deepSearchCount = s.deepSearchCount) (hbudget : t.deepSearchBudgetRoundId = s.deepSearchBudgetRoundId)
    (hround : t.currentGrillRound = s.currentGrillRound) (hidle : NothingReserved s → NothingReserved t) :
    CountsSearches t n where
  count := hcount.trans hs.count
  round := by
    rw [hbudget, hround]
    exact hs.round.imp (fun h => ⟨h.1, h.2.1, hidle h.2.2⟩) id

/-- The operations that neither open a round nor use the budget leave the count. -/
theorem step_leaves_count (digest : String → String) {op : SessionOp} (hbudget : op.usesBudget = false)
    (hopens : op.opensRound = false) {s : SessionState} {n : Nat} (hs : CountsSearches s n) :
    CountsSearches (sessionStep digest op s).2 n := by
  by_cases hrecord : op.bookkeepingIdentity? = none
  · have hmove := step_move digest s op
    generalize (sessionStep digest op s).1 = r at hmove
    generalize (sessionStep digest op s).2 = t at hmove ⊢
    cases hmove with
    | bookkept hbookkeeping => exact absurd (hrecord.symm.trans hbookkeeping) (by simp)
    | deepIssued => exact hs.frame rfl rfl rfl fun _ => .inr rfl
    | retrievalEnded hop hlive =>
        exact hs.frame rfl rfl rfl fun hidle => .inr (hidle.resolve_left (by rw [hlive]; simp))
    | answered hr horch hpending hkind hguard hcontinues => cases hcontinues <;> exact hs.frame rfl rfl rfl id
    | wasReset => cases hopens
    | roundStarted => cases hopens
    | _ =>
        first
        | exact hs.frame rfl rfl rfl id
        | exact hs.frame rfl rfl rfl fun _ => .inl rfl
  · cases op with
    | recordDeepSupplementalEvidence identity evidenceId evidence =>
        rw [sessionStep, Session.runOp, map_apply]
        simp only [Session.recordDeepSupplementalEvidence, get_bind_apply, ite_apply_state, pure_apply]
        split
        · exact hs
        · cases s.deepSupplementalEvidence.get? evidenceId with
          | none => exact hs.frame rfl rfl rfl id
          | some existing =>
              simp only [ite_apply_state, pure_apply, throw_apply]
              split
              · exact hs.frame rfl rfl rfl id
              · exact hs.frame rfl rfl rfl id
    | consumeDeepSearchBudget | reserveDeepSearchBudget | commitDeepSearchBudget | releaseDeepSearchBudget =>
        cases hbudget
    | _ => exact absurd rfl hrecord

/-- A budget that comes to serve the round of a live attempt has counted nothing yet. -/
theorem CountsSearches.servesRound {identity : DeepAttemptIdentity} {s : SessionState} {n : Nat}
    (hs : CountsSearches s n) (hlive : ¬ Session.budgetIsStale s identity) :
    CountsSearches (Session.servesRound identity s) n ∧
      (Session.servesRound identity s).deepSearchBudgetRoundId =
        (Session.servesRound identity s).currentGrillRound.map (·.roundId) := by
  have hround : s.currentGrillRound.map (·.roundId) = some identity.sourceRoundId :=
    not_not.mp fun hne => hlive (.inr hne)
  unfold Session.servesRound
  split
  · next hserves => exact ⟨hs, hserves.trans hround.symm⟩
  · next hother =>
      rcases hs.round with ⟨-, rfl, -⟩ | hsame
      · exact ⟨⟨rfl, .inr hround.symm⟩, hround.symm⟩
      · exact absurd (hsame.trans hround) hother

theorem CountsSearches.reserve {s : SessionState} {n : Nat} (hs : CountsSearches s n)
    (identity : DeepAttemptIdentity) : CountsSearches (Session.reserveDeepSearchBudget identity s).2 n := by
  rw [Session.reserveDeepSearchBudget_apply]
  split
  · exact hs
  · next hlive =>
      obtain ⟨hserved, hround⟩ := hs.servesRound hlive
      split
      · exact hserved
      · exact ⟨hserved.count, .inr hround⟩

/-- A reservation that is outstanding is one of the budget of the present round. -/
theorem CountsSearches.outstanding_round {identity : DeepAttemptIdentity} {s : SessionState} {n : Nat}
    (hs : CountsSearches s n) (hlive : s.deepAttempt = some identity) (hheld : 0 < s.outstanding identity) :
    s.deepSearchBudgetRoundId = s.currentGrillRound.map (·.roundId) := by
  refine hs.round.resolve_left ?_
  rintro ⟨-, -, hnone | hempty⟩
  · exact absurd (hlive.symm.trans hnone) (by simp)
  · unfold SessionState.outstanding at hheld
    rw [hempty] at hheld
    exact absurd hheld (Nat.lt_irrefl 0)

/-- A commit counts the search whose reservation is outstanding. -/
theorem CountsSearches.commit {s : SessionState} {n : Nat} (hs : CountsSearches s n)
    (identity : DeepAttemptIdentity) :
    CountsSearches (Session.commitDeepSearchBudget identity s).2
      (if (Session.commitDeepSearchBudget identity s).1 = .ok .accepted ∧ 0 < s.outstanding identity then n + 1
        else n) := by
  rw [Session.commitDeepSearchBudget_apply]
  by_cases hstale : Session.budgetIsStale s identity
  · rw [if_pos hstale, if_neg fun h => by cases h.1]
    exact hs
  rw [if_neg hstale]
  by_cases hheld : s.outstanding identity > 0
  · rw [if_pos hheld, if_pos ⟨rfl, hheld⟩]
    exact ⟨congrArg (· + 1) hs.count, .inr (hs.outstanding_round (Session.budget_live s hstale) hheld)⟩
  · rw [if_neg hheld, if_neg fun h => hheld h.2]
    exact hs

theorem CountsSearches.release {s : SessionState} {n : Nat} (hs : CountsSearches s n)
    (identity : DeepAttemptIdentity) : CountsSearches (Session.releaseDeepSearchBudget identity s).2 n := by
  rw [Session.releaseDeepSearchBudget_apply]
  split
  · exact hs
  · refine hs.frame rfl rfl rfl fun hidle => hidle.imp id fun hempty => ?_
    show Session.dropReservation s.deepSearchReservations _ = _
    rw [hempty]
    rfl

/-- A search that is consumed is counted. -/
theorem CountsSearches.consume {s : SessionState} {n : Nat} (hs : CountsSearches s n)
    (identity : DeepAttemptIdentity) :
    CountsSearches (Session.consumeDeepSearchBudget identity s).2
      (if (Session.consumeDeepSearchBudget identity s).1 = .ok .accepted then n + 1 else n) := by
  have hreserved := hs.reserve identity
  rw [Session.reserveDeepSearchBudget_apply] at hreserved
  rw [Session.consumeDeepSearchBudget_apply]
  by_cases hstale : Session.budgetIsStale s identity
  · rw [if_pos hstale, if_neg fun h => by cases h]
    exact hs
  rw [if_neg hstale] at hreserved ⊢
  split at hreserved
  · next hlimit =>
      rw [if_pos hlimit, if_neg fun h => by cases h]
      exact hreserved
  · next hlimit =>
      rw [if_neg hlimit]
      have hheld : 0 < (Session.reserved identity (Session.servesRound identity s)).outstanding identity := by
        rw [Session.reserved_outstanding]
        exact Nat.succ_pos _
      have hcommit := hreserved.commit identity
      simpa only [hheld, and_true] using hcommit

/-- What the answer of a commit and of a consumption says about the count. -/
theorem commitsSearch_commit (digest : String → String) (s : SessionState) (identity : DeepAttemptIdentity) :
    commitsSearch (stepAt (sessionStep digest) s (.commitDeepSearchBudget identity)) =
      decide ((Session.commitDeepSearchBudget identity s).1 = .ok .accepted ∧ 0 < s.outstanding identity) := by
  unfold stepAt
  rw [sessionStep, Session.runOp, map_apply]
  generalize Session.commitDeepSearchBudget identity s = ended
  obtain ⟨e | answer, t⟩ := ended
  · simp [commitsSearch, Except.map]
  · cases answer <;> simp [commitsSearch, Except.map]

theorem commitsSearch_consume (digest : String → String) (s : SessionState) (identity : DeepAttemptIdentity) :
    commitsSearch (stepAt (sessionStep digest) s (.consumeDeepSearchBudget identity)) =
      decide ((Session.consumeDeepSearchBudget identity s).1 = .ok .accepted) := by
  unfold stepAt
  rw [sessionStep, Session.runOp, map_apply]
  generalize Session.consumeDeepSearchBudget identity s = ended
  obtain ⟨e | answer, t⟩ := ended
  · simp [commitsSearch, Except.map]
  · cases answer <;> simp [commitsSearch, Except.map]

/-- **The session counts** the searches that are committed in the source round. -/
theorem step_searches (digest : String → String) (s : SessionState) (op : SessionOp) (n : Nat)
    (hs : CountsSearches s n) :
    CountsSearches (sessionStep digest op s).2 (countSearch n (stepAt (sessionStep digest) s op)) := by
  cases op with
  | startGrillRound request snapshot => exact ⟨rfl, .inl ⟨rfl, rfl, .inl rfl⟩⟩
  | reset => exact ⟨rfl, .inl ⟨rfl, rfl, .inl rfl⟩⟩
  | reserveDeepSearchBudget identity =>
      rw [sessionStep, Session.runOp, map_apply]
      exact hs.reserve identity
  | releaseDeepSearchBudget identity =>
      rw [sessionStep, Session.runOp, map_apply]
      exact hs.release identity
  | commitDeepSearchBudget identity =>
      have hcommit := hs.commit identity
      show CountsSearches _ (if commitsSearch (stepAt (sessionStep digest) s _) then n + 1 else n)
      rw [commitsSearch_commit, sessionStep, Session.runOp, map_apply]
      simpa only [decide_eq_true_eq] using hcommit
  | consumeDeepSearchBudget identity =>
      have hconsume := hs.consume identity
      show CountsSearches _ (if commitsSearch (stepAt (sessionStep digest) s _) then n + 1 else n)
      rw [commitsSearch_consume, sessionStep, Session.runOp, map_apply]
      simpa only [decide_eq_true_eq] using hconsume
  | _ => exact step_leaves_count digest rfl rfl hs

/-! ### The reservations of an attempt -/

/-- A commit that counts a search spends one reservation of its own attempt, and no other. -/
def CommitSpends (identity : DeepAttemptIdentity) (s t : SessionState) : Prop :=
  t.deepSearchCount = s.deepSearchCount ∧ t.deepSearchReservations = s.deepSearchReservations ∨
    s.deepAttempt = some identity ∧ t.deepSearchCount = s.deepSearchCount + 1 ∧
      t.outstanding identity + 1 = s.outstanding identity ∧
      ∀ key ≠ Session.reservationKey identity,
        t.deepSearchReservations.get? key = s.deepSearchReservations.get? key

/-- A release gives back at most one reservation, of its own attempt. -/
def ReleaseDrops (identity : DeepAttemptIdentity) (s t : SessionState) : Prop :=
  t.deepSearchCount = s.deepSearchCount ∧
    (t.deepSearchReservations = s.deepSearchReservations ∨
      s.deepAttempt = some identity ∧ t.outstanding identity ≤ s.outstanding identity ∧
        s.outstanding identity ≤ t.outstanding identity + 1 ∧
        ∀ key ≠ Session.reservationKey identity,
          t.deepSearchReservations.get? key = s.deepSearchReservations.get? key)

theorem commit_spends (identity : DeepAttemptIdentity) (s : SessionState) :
    CommitSpends identity s (Session.commitDeepSearchBudget identity s).2 := by
  have hdrop := Session.dropReservation_own s.deepSearchReservations (Session.reservationKey identity)
  rw [Session.commitDeepSearchBudget_apply]
  split
  · exact .inl ⟨rfl, rfl⟩
  · rename_i hlive
    split
    · rename_i hheld
      refine .inr ⟨Session.budget_live s hlive, rfl, ?_, fun key hkey => Session.dropReservation_other _ hkey⟩
      rw [SessionState.outstanding] at hheld ⊢
      rw [SessionState.outstanding]
      dsimp only
      omega
    · exact .inl ⟨rfl, rfl⟩

theorem release_drops (identity : DeepAttemptIdentity) (s : SessionState) :
    ReleaseDrops identity s (Session.releaseDeepSearchBudget identity s).2 := by
  have hdrop := Session.dropReservation_own s.deepSearchReservations (Session.reservationKey identity)
  rw [Session.releaseDeepSearchBudget_apply]
  split
  · exact ⟨rfl, .inl rfl⟩
  · rename_i hlive
    refine ⟨rfl, .inr ⟨Session.budget_live s hlive, ?_, ?_, fun key hkey => Session.dropReservation_other _ hkey⟩⟩
    · rw [SessionState.outstanding, SessionState.outstanding]
      dsimp only
      omega
    · rw [SessionState.outstanding, SessionState.outstanding]
      dsimp only
      omega

/-- The commit that a consumption makes spends the reservation that it has made, like any other commit. -/
theorem consume_spends (identity : DeepAttemptIdentity) (s : SessionState) :
    CommitSpends identity (Session.reserveDeepSearchBudget identity s).2
      (Session.consumeDeepSearchBudget identity s).2 := by
  unfold Session.consumeDeepSearchBudget
  rw [bind_apply]
  rcases Session.reserveDeepSearchBudget identity s with ⟨error | answer, t⟩
  · exact .inl ⟨rfl, rfl⟩
  · cases answer with
    | stale | limit => exact .inl ⟨rfl, rfl⟩
    | accepted | reserved | released => exact commit_spends identity t

/-- The searches that a run has committed in the source round in which it stands. -/
abbrev searchesAfter (digest : String → String) (ops : List SessionOp) : Nat :=
  searchesOfRound (trace (sessionStep digest) createForgeSessionState ops)

/-- What the budget promises in a run of the session. -/
structure BudgetKept (digest : String → String) (ops : List SessionOp) : Prop where
  /-- The searches committed in a source round and the outstanding reservations stay within the limit. -/
  limit : ∀ pre, pre <+: ops → searchesAfter digest pre +
    (sessionAfter digest pre).deepSearchReservations.values.sum ≤ deepSearchMaxPerSourceRound
  commits : ∀ st ∈ trace (sessionStep digest) createForgeSessionState ops, ∀ identity,
    st.input = .commitDeepSearchBudget identity → CommitSpends identity st.before st.after
  /-- So does the commit in a `consumeDeepSearchBudget`, after the reservation in it. -/
  consumes : ∀ st ∈ trace (sessionStep digest) createForgeSessionState ops, ∀ identity,
    st.input = .consumeDeepSearchBudget identity →
    CommitSpends identity (Session.reserveDeepSearchBudget identity st.before).2 st.after
  releases : ∀ st ∈ trace (sessionStep digest) createForgeSessionState ops, ∀ identity,
    st.input = .releaseDeepSearchBudget identity → ReleaseDrops identity st.before st.after

/-- What the session has counted is what the run has committed. -/
theorem searchesAfter_eq (digest : String → String) (ops : List SessionOp) :
    searchesAfter digest ops = (sessionAfter digest ops).deepSearchCount := by
  have hcounts : CountsSearches (sessionAfter digest ops) (searchesAfter digest ops) := by
    have hfree : Admissible (sessionStep digest) (fun _ _ => True) createForgeSessionState ops :=
      admissible_of_forall (fun _ _ => trivial) _ ops
    refine steps_at_finish (I := fun s steps => CountsSearches s (searchesOfRound steps)) ?_
      ⟨rfl, .inl ⟨rfl, rfl, .inl rfl⟩⟩ hfree
    intro s op steps hs _
    unfold searchesOfRound
    rw [List.foldl_append]
    exact step_searches digest s op _ hs
  exact hcounts.count.symm

/-- **The search budget** keeps its promises in exactly the runs in which no place is asked of a full budget
under a key that holds one. -/
theorem search_budget (digest : String → String) (ops : List SessionOp) :
    BudgetKept digest ops ↔ Admissible (sessionStep digest) AsksWithinLimit createForgeSessionState ops := by
  have hstart : WithinLimit createForgeSessionState := Nat.zero_le _
  have hplaces : ∀ pre, WithinLimit (sessionAfter digest pre) ↔ searchesAfter digest pre +
      (sessionAfter digest pre).deepSearchReservations.values.sum ≤ deepSearchMaxPerSourceRound := by
    intro pre
    rw [searchesAfter_eq]
    exact Iff.rfl
  have hlimit : (∀ pre, pre <+: ops → WithinLimit (sessionAfter digest pre)) ↔
      Admissible (sessionStep digest) AsksWithinLimit createForgeSessionState ops :=
    holds_in_prefixes_iff (I := WithinLimit) (fun s op hs => step_within digest hs op) hstart ops
  constructor
  · intro hkept
    exact hlimit.mp fun pre hpre => (hplaces pre).mpr (hkept.limit pre hpre)
  intro ha
  refine ⟨fun pre hpre => (hplaces pre).mp (hlimit.mpr ha pre hpre), ?_, ?_, ?_⟩
  · intro st hst identity hinput
    rw [eq_stepAt_of_mem hst, hinput]
    show CommitSpends identity st.before (sessionStep digest (.commitDeepSearchBudget identity) st.before).2
    rw [sessionStep, Session.runOp, map_apply]
    exact commit_spends identity st.before
  · intro st hst identity hinput
    rw [eq_stepAt_of_mem hst, hinput]
    show CommitSpends identity _ (sessionStep digest (.consumeDeepSearchBudget identity) st.before).2
    rw [sessionStep, Session.runOp, map_apply]
    exact consume_spends identity st.before
  · intro st hst identity hinput
    rw [eq_stepAt_of_mem hst, hinput]
    show ReleaseDrops identity st.before (sessionStep digest (.releaseDeepSearchBudget identity) st.before).2
    rw [sessionStep, Session.runOp, map_apply]
    exact release_drops identity st.before

/-- Nine searches are reserved before one is committed. -/
def nineReservations : List SessionOp :=
  [.startGrillRound "request" ⟨1, .empty, []⟩, .beginDeepKnowledge none .deepKnowledgeRetrieval] ++
    List.replicate 9 (.reserveDeepSearchBudget ⟨"deep-1", "grill-1", .deepKnowledgeRetrieval⟩)

theorem ninth_reservation :
    ¬ BudgetKept id nineReservations ∧
      (sessionAfter id nineReservations).deepSearchReservations.values.sum = 9 := by
  have hnine : (sessionAfter id nineReservations).deepSearchReservations.values.sum = 9 := by
    decide +kernel
  refine ⟨fun hkept => ?_, hnine⟩
  have hlimit : searchesAfter id nineReservations +
      (sessionAfter id nineReservations).deepSearchReservations.values.sum ≤ 8 :=
    hkept.limit nineReservations List.prefix_rfl
  omega

end ForgeRuntime
