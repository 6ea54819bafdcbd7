import ForgeRuntime.Runtime.SameSession

/-!
# What a reset leaves

`reset` puts everything back but the four counters, so that no ID is issued twice.  A session that was reset
therefore shows what a fresh session shows, with the numbers of the IDs shifted: `offsetsAfter` says by how
much after a history.

* `reset_leaves_no_residue` — **the same operations, with the IDs shifted, show the same with the IDs shifted**;
* `spelled_decision_sees_reset` — the decision IDs that the session builds have to be shifted in the operations
  as well: a decision that a client asks under such an ID is known in the one session and not in the other.
-/

namespace ForgeRuntime

open EventDriven EventDriven.Machine

/-- How many IDs of each kind a history has issued. -/
def offsetsAfter (digest : String → String) (history : List SessionOp) : Offsets :=
  let s := finish (sessionStep digest) createForgeSessionState history
  ⟨s.nextRoundId - 1, s.nextDeepAttemptId - 1, s.nextContextBuildAttemptId - 1, s.nextAdrBuildAttemptId - 1⟩

/-- The counters begin at one. -/
structure Counting (s : SessionState) : Prop where
  rounds : 1 ≤ s.nextRoundId
  deep : 1 ≤ s.nextDeepAttemptId
  context : 1 ≤ s.nextContextBuildAttemptId
  adr : 1 ≤ s.nextAdrBuildAttemptId

theorem counting_step (digest : String → String) (op : SessionOp) {s : SessionState} (h : Counting s) :
    Counting (sessionStep digest op s).2 := by
  have hmove := step_move digest s op
  exact ⟨Nat.le_trans h.rounds (move_roundLater hmove).next_le, Nat.le_trans h.deep (move_deepLater hmove).next_le,
    Nat.le_trans h.context (move_contextLater hmove).next_le, Nat.le_trans h.adr (move_adrLater hmove).next_le⟩

theorem counting_reached (digest : String → String) (history : List SessionOp) :
    Counting (finish (sessionStep digest) createForgeSessionState history) := by
  have hfresh : Counting createForgeSessionState := ⟨Nat.le_refl 1, Nat.le_refl 1, Nat.le_refl 1, Nat.le_refl 1⟩
  have hall : Admissible (sessionStep digest) (fun _ _ => True) createForgeSessionState history :=
    admissible_of_forall (fun _ _ => trivial) createForgeSessionState history
  exact holds_at_finish (fun _ op h _ => counting_step digest op h) hfresh hall

/-- **Reset leaves no residue.**  After any history and a reset, any sequence of operations shows what it shows on a
fresh session, once the IDs in the operations and in what is shown are shifted behind those of the history. -/
theorem reset_leaves_no_residue (digest : String → String) (history later : List SessionOp) :
    (offsetsAfter digest history).shift.SameObserved digest
      (observed digest createForgeSessionState later)
      (observed digest (finish (sessionStep digest) createForgeSessionState (history ++ [.reset]))
        (later.map (offsetsAfter digest history).shift.op)) := by
  have hcounting := counting_reached digest history
  have hreset : (offsetsAfter digest history).shift.SameSession (offsetsAfter digest history) digest
      createForgeSessionState (finish (sessionStep digest) createForgeSessionState (history ++ [.reset])) := by
    rw [finish_append]
    exact Renaming.sameSession_reset (s := createForgeSessionState) (Nat.add_sub_cancel' hcounting.rounds).symm
      (Nat.add_sub_cancel' hcounting.deep).symm (Nat.add_sub_cancel' hcounting.context).symm
      (Nat.add_sub_cancel' hcounting.adr).symm
  exact Renaming.observed_same (offsetsAfter digest history).shifts hreset later

/-- A history that issues a deep attempt. -/
def oneAttempt : List SessionOp :=
  [.startGrillRound "first" ⟨0, .empty, []⟩, .beginDeepKnowledge none .deepKnowledgeRetrieval]

/-- A decision under the ID that the session builds for its second deep attempt. -/
def spelledDecision : WaitUserPayload :=
  { kind := .deepDiscoveryFallback
    roundId := "grill-1"
    decisionId := "deep-2-deep-discovery-fallback"
    evidenceIds := []
    options := ["確認", "取消"]
    question := "which?"
    recommendation := "確認"
    decisionSummary := none }

/-- The decision is asked and answered, and then discovery is requested twice. -/
def spelledDecisionFirst : List SessionOp :=
  [.startGrillRound "second" ⟨1, .empty, []⟩, .requireWaitUser spelledDecision, .recordAnswer "確認", .beginGrill none,
    .beginDeepKnowledge none .deepKnowledgeRetrieval,
    .handleDeepResult ⟨"deep-1", "grill-1", .deepKnowledgeRetrieval⟩ (.needsDiscovery none),
    .beginGrill none, .beginDeepKnowledge none .deepKnowledgeRetrieval,
    .handleDeepResult ⟨"deep-2", "grill-1", .deepKnowledgeRetrieval⟩ (.needsDiscovery none),
    .recordAnswer "確認"]

/-- **A decision that spells a built ID**: with the IDs of rounds and attempts shifted alone, the fresh session refuses
the last answer and the session that was reset accepts it. -/
theorem spelled_decision_sees_reset :
    ((observed id createForgeSessionState spelledDecisionFirst).steps.map fun step => step.2.current.stage) ≠
      (observed id (finish (sessionStep id) createForgeSessionState (oneAttempt ++ [.reset]))
        (spelledDecisionFirst.map (offsetsAfter id oneAttempt).identities.op)).steps.map
          fun step => step.2.current.stage := by
  decide +kernel

end ForgeRuntime
