import ForgeRuntime.Runtime.PendingDecision

/-!
# The bound of the discovery loop

A Deep step may ask for another discovery.  The first such request that the session accepts goes back to
`LIGHT_DISCOVERY`; from the second one on, the user is asked to go on without more evidence.  The count of the
requests survives rounds and snapshots, and is forgotten by `cancelDeepKnowledge` and `reset` only.

* `move_discoveryCounted` — no other operation forgets the count;
* `accepted_discovery` — an accepted request is counted, and falls back once one has been counted before;
* `fallback_refuses` — which answers leave the fallback as it is;
* `discovery_bounded` — the bound, over every run.
-/

namespace ForgeRuntime

open EventDriven EventDriven.Machine EventDriven.Text EventDriven.Turn

variable {digest : String → String}

/-- The operations that forget the requests for discovery. -/
def SessionOp.forgetsDiscoveries : SessionOp → Bool
  | .cancelDeepKnowledge => true
  | .reset => true
  | _ => false

/-- The session accepts a request for discovery of this attempt. -/
def AcceptsDiscovery (st : SessionStepRecord) (identity : DeepAttemptIdentity) : Prop :=
  ∃ summary ui, st.input = .handleDeepResult identity (.needsDiscovery summary) ∧
    st.output = .ok (.deep (.accepted ui identity))

/-- The attempt has ended, and the user is asked its fallback question. -/
structure FallsBack (identity : DeepAttemptIdentity) (s t : SessionState) : Prop where
  live : s.deepAttempt = some identity
  ended : t.deepAttempt = none
  pending : t.uiState.waitUser = some (Session.fallbackDecision identity s.fetchedEvidenceIds.elems)
  shown : t.uiState.stage = .workflow .waitUser
  waits : t.orchestrator = some .waitUser

/-! ### The count -/

theorem move_discoveryCounted {s t : SessionState} {op : SessionOp} {r : SessionOutcome}
    (h : SessionMove digest s op r t) (hop : op.forgetsDiscoveries = false) :
    s.needsDiscoveryCount ≤ t.needsDiscoveryCount := by
  cases h with
  | deepCancelled => cases hop
  | wasReset => cases hop
  | discoveryCounted => exact Nat.le_succ _
  | fallbackAsked => exact Nat.le_succ _
  | rediscovered => exact Nat.le_succ _
  | answered hr horch hpending hkind hguard hcontinues => cases hcontinues <;> exact Nat.le_refl _
  | roundStarted hr first hfirst =>
      cases first with
      | true => exact Nat.le_refl _
      | false => exact Nat.le_refl _
  | _ => exact Nat.le_refl _

/-- An accepted request is counted; once one has been counted, the next one falls back. -/
theorem accepted_discovery {s t : SessionState} {identity accepted : DeepAttemptIdentity} {summary : Option String}
    {ui : ForgeUiState}
    (h : SessionMove digest s (.handleDeepResult identity (.needsDiscovery summary))
      (.ok (.deep (.accepted ui accepted))) t) :
    1 ≤ t.needsDiscoveryCount ∧ (1 ≤ s.needsDiscoveryCount → FallsBack identity s t) := by
  cases h with
  | refused hr => cases hr
  | bookkept hop => cases hop
  | entered hr hop => cases hop
  | deepIssued hr hop => cases hop
  | retrievalEnded hop => cases hop
  | asked hr hop => cases hop
  | fallbackAsked hlive horch hcount shown =>
      refine ⟨?_, fun _ => ⟨hlive, rfl, rfl, rfl, rfl⟩⟩
      show 1 ≤ s.needsDiscoveryCount + 1
      omega
  | rediscovered hlive horch hcount shown =>
      constructor
      · show 1 ≤ s.needsDiscoveryCount + 1
        omega
      · intro hbefore
        omega

/-! ### The answer to a fallback -/

/-- A fallback is left as it is by every other answer. -/
theorem fallback_refuses {s : SessionState} {D : WaitUserState} {answer : String}
    (hD : s.uiState.waitUser = some D) (hkind : D.kind = .deepDiscoveryFallback)
    (hanswer : trim answer ∉ ["同意", "確認"]) :
    (sessionStep digest (.recordAnswer answer) s).2.uiState.waitUser = some D := by
  have hrefuses : Session.refusesAnswer s D (trim answer) := .inr (.inr (.inl ⟨hkind, hanswer⟩))
  simp only [sessionStep, Session.runOp, map_apply, Session.recordAnswer, get_bind_apply, ite_apply_state, hD,
    if_pos hrefuses, pure_apply]
  split
  · exact hD
  · exact hD

/-! ### Runs -/

/-- The bound of the discovery loop in a run: between two operations that forget the count, every accepted request
after the first one falls back, and a fallback is consumed by its two answers only. -/
structure DiscoveryBounded (digest : String → String) (ops : List SessionOp) : Prop where
  fallsBack : ∀ {pre mid post : List SessionStepRecord} {first last : SessionStepRecord}
    {earlier identity : DeepAttemptIdentity},
    trace (sessionStep digest) createForgeSessionState ops = pre ++ first :: (mid ++ last :: post) →
    (∀ st ∈ mid, st.input.forgetsDiscoveries = false) → AcceptsDiscovery first earlier →
    AcceptsDiscovery last identity → FallsBack identity last.before last.after
  consumed : ∀ {st : SessionStepRecord} {D : WaitUserState} {answer : String},
    st ∈ trace (sessionStep digest) createForgeSessionState ops → st.input = .recordAnswer answer →
    st.before.uiState.waitUser = some D → D.kind = .deepDiscoveryFallback →
    st.after.uiState.waitUser ≠ some D → trim answer ∈ ["同意", "確認"]

/-- **The discovery loop is bounded.** -/
theorem discovery_bounded (digest : String → String) (ops : List SessionOp) : DiscoveryBounded digest ops where
  fallsBack := by
    intro pre mid post first last earlier identity ht hmid hfirst hlast
    have hfell : ∀ {st : SessionStepRecord} {asked : DeepAttemptIdentity},
        st ∈ trace (sessionStep digest) createForgeSessionState ops → AcceptsDiscovery st asked →
        1 ≤ st.after.needsDiscoveryCount ∧
          (1 ≤ st.before.needsDiscoveryCount → FallsBack asked st.before st.after) := by
      rintro st asked hst ⟨summary, ui, hinput, houtput⟩
      have hmove := move_of_mem hst
      rw [hinput, houtput] at hmove
      exact accepted_discovery hmove
    have hcounted : 1 ≤ last.before.needsDiscoveryCount := by
      have hin : ∀ st ∈ mid, st ∈ trace (sessionStep digest) createForgeSessionState ops := fun st hst => by
        rw [ht]
        simp [hst]
      refine holds_until (J := fun s => 1 ≤ s.needsDiscoveryCount) ht ?_ fun st hst _ hbefore => ?_
      · exact (hfell (ht ▸ by simp) hfirst).1
      · exact Nat.le_trans hbefore (move_discoveryCounted (move_of_mem (hin st hst)) (hmid st hst))
    exact (hfell (ht ▸ by simp) hlast).2 hcounted
  consumed := by
    intro st D answer hst hinput hD hkind hgone
    by_contra hanswer
    have hsame := eq_stepAt_of_mem hst
    rw [hinput] at hsame
    rw [show st.after = (sessionStep digest (.recordAnswer answer) st.before).2 from congrArg Step.after hsame] at hgone
    exact hgone (fallback_refuses hD hkind hanswer)

def firstSeeker : DeepAttemptIdentity := ⟨"deep-1", "grill-1", .deepKnowledgeRetrieval⟩

def secondSeeker : DeepAttemptIdentity := ⟨"deep-2", "grill-1", .deepKnowledgeRetrieval⟩

/-- The first attempt of a workflow asks for discovery. -/
def discoveryAsked : List SessionOp :=
  [.startGrillRound "do it" ⟨0, .empty, []⟩, .beginDeepKnowledge none .deepKnowledgeRetrieval,
    .handleDeepResult firstSeeker (.needsDiscovery none)]

/-- The next attempt lives. -/
def seekingAgain : List SessionOp :=
  discoveryAsked ++ [.beginGrill none, .beginDeepKnowledge none .deepKnowledgeRetrieval]

/-- It asks for discovery as well. -/
def discoveryAskedAgain : List SessionOp := seekingAgain ++ [.handleDeepResult secondSeeker (.needsDiscovery none)]

theorem discoveryAskedAgain_steps :
    trace (sessionStep id) createForgeSessionState discoveryAskedAgain =
      trace (sessionStep id) createForgeSessionState (discoveryAsked.take 2) ++
        stepAt (sessionStep id) (sessionAfter id (discoveryAsked.take 2))
            (.handleDeepResult firstSeeker (.needsDiscovery none)) ::
          (trace (sessionStep id) (sessionAfter id discoveryAsked) (seekingAgain.drop 3) ++
            stepAt (sessionStep id) (sessionAfter id seekingAgain)
              (.handleDeepResult secondSeeker (.needsDiscovery none)) :: []) := rfl

/-- The second request falls back, and an answer that is none of the two leaves the question as it is. -/
theorem discovery_bounded_askedAgain :
    FallsBack secondSeeker (sessionAfter id seekingAgain) (sessionAfter id discoveryAskedAgain) ∧
      (sessionAfter id (discoveryAskedAgain ++ [.recordAnswer "no"])).uiState.waitUser =
        some (Session.fallbackDecision secondSeeker []) := by
  have hfell : FallsBack secondSeeker (sessionAfter id seekingAgain) (sessionAfter id discoveryAskedAgain) := by
    refine (discovery_bounded id discoveryAskedAgain).fallsBack discoveryAskedAgain_steps ?_
      ⟨none, (sessionAfter id discoveryAsked).uiState, rfl, ?_⟩
      ⟨none, (sessionAfter id discoveryAskedAgain).uiState, rfl, ?_⟩
    · decide +kernel
    · decide +kernel
    · decide +kernel
  have hpending : (sessionAfter id discoveryAskedAgain).uiState.waitUser =
      some (Session.fallbackDecision secondSeeker []) := hfell.pending
  have hanswer : stepAt (sessionStep id) (sessionAfter id discoveryAskedAgain) (.recordAnswer "no") ∈
      trace (sessionStep id) createForgeSessionState (discoveryAskedAgain ++ [.recordAnswer "no"]) := by
    rw [trace_append]
    exact List.mem_append_right _ (List.mem_singleton.mpr rfl)
  refine ⟨hfell, ?_⟩
  by_contra hgone
  rw [sessionAfter, finish_append] at hgone
  have hword : trim "no" ∈ ["同意", "確認"] :=
    (discovery_bounded id (discoveryAskedAgain ++ [.recordAnswer "no"])).consumed hanswer rfl hpending rfl hgone
  exact absurd hword (by decide)

end ForgeRuntime
