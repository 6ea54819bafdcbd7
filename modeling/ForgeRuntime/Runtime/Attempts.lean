import ForgeRuntime.Lib.Issuer
import ForgeRuntime.Runtime.PendingDecision

/-!
# Attempts over time

The three slots of a session that hold a live attempt, each with the counter that its IDs come from.  No
move sets a counter back, so each slot keeps its attempt, drops it, or takes one that was never issued
before: `move_deepLater`, `move_contextLater`, `move_adrLater`.
-/

namespace ForgeRuntime

open EventDriven EventDriven.Text Session

variable {digest : String → String}

theorem deepAttemptId_injective : Function.Injective deepAttemptId :=
  fun _ _ h => numbered_injective "deep-" h

theorem contextBuildAttemptId_injective : Function.Injective contextBuildAttemptId :=
  fun _ _ h => numbered_injective "context-" h

theorem adrBuildAttemptId_injective : Function.Injective adrBuildAttemptId :=
  fun _ _ h => numbered_injective "adr-" h

theorem roundId_injective : Function.Injective roundId :=
  fun _ _ h => numbered_injective "grill-" h

def deepIssuer (s : SessionState) : Issuer := ⟨s.nextDeepAttemptId, s.deepAttempt.map (·.attemptId)⟩

def contextIssuer (s : SessionState) : Issuer :=
  ⟨s.nextContextBuildAttemptId, s.contextBuildAttempt.map (·.attemptId)⟩

def adrIssuer (s : SessionState) : Issuer :=
  ⟨s.nextAdrBuildAttemptId, s.adrBuildAttempt.map (·.attemptId)⟩

/-- The rounds: the current one is the live one. -/
def roundIssuer (s : SessionState) : Issuer := ⟨s.nextRoundId, s.currentGrillRound.map (·.roundId)⟩

theorem deepIssuer_live {s : SessionState} {identity : DeepAttemptIdentity}
    (h : s.deepAttempt = some identity) : (deepIssuer s).live = some identity.attemptId := by
  simp [deepIssuer, h]

abbrev DeepIssued (s : SessionState) : Prop := Issuer.LiveIssued deepAttemptId (deepIssuer s)

abbrev DeepLater (s t : SessionState) : Prop :=
  Issuer.Later deepAttemptId (deepIssuer s) (deepIssuer t)

abbrev ContextLater (s t : SessionState) : Prop :=
  Issuer.Later contextBuildAttemptId (contextIssuer s) (contextIssuer t)

abbrev AdrLater (s t : SessionState) : Prop :=
  Issuer.Later adrBuildAttemptId (adrIssuer s) (adrIssuer t)

abbrev RoundLater (s t : SessionState) : Prop :=
  Issuer.Later roundId (roundIssuer s) (roundIssuer t)

theorem init_deepIssued : DeepIssued createForgeSessionState := by
  simp [Issuer.LiveIssued, deepIssuer, createForgeSessionState]

theorem init_contextIssued :
    Issuer.LiveIssued contextBuildAttemptId (contextIssuer createForgeSessionState) := by
  simp [Issuer.LiveIssued, contextIssuer, createForgeSessionState]

theorem init_adrIssued : Issuer.LiveIssued adrBuildAttemptId (adrIssuer createForgeSessionState) := by
  simp [Issuer.LiveIssued, adrIssuer, createForgeSessionState]

theorem continues_deepIssuer {s t : SessionState} {pending : WaitUserState} {answer : String}
    (h : AnswerContinues digest s pending answer t) : deepIssuer t = deepIssuer s := by
  cases h <;> rfl

theorem continues_roundIssuer {s t : SessionState} {pending : WaitUserState} {answer : String}
    (h : AnswerContinues digest s pending answer t) : roundIssuer t = roundIssuer s := by
  cases h <;> rfl

theorem continues_contextLater {s t : SessionState} {pending : WaitUserState} {answer : String}
    (h : AnswerContinues digest s pending answer t) : ContextLater s t := by
  cases h with
  | inContextBuild hkind => exact .issued
  | _ => exact .kept

theorem continues_adrLater {s t : SessionState} {pending : WaitUserState} {answer : String}
    (h : AnswerContinues digest s pending answer t) : AdrLater s t := by
  cases h with
  | inAdrBuild hkind => exact .issued
  | _ => exact .kept

/-- **Deep attempts only move forward.** -/
theorem move_deepLater {s t : SessionState} {op : SessionOp} {r : SessionOutcome}
    (h : SessionMove digest s op r t) : DeepLater s t := by
  cases h with
  | deepIssued hr hop hround h summary => exact .issued
  | @retrievalEnded _ _ identity hop hlive henter summary ids locked =>
      have hsame : deepIssuer s = ⟨s.nextDeepAttemptId, some identity.attemptId⟩ := by
        simp only [deepIssuer, hlive, Option.map_some]
      unfold DeepLater
      rw [hsame]
      exact .kept
  | answered hr horch hpending hkind hguard hcontinues =>
      unfold DeepLater
      rw [continues_deepIssuer hcontinues]
      exact .kept
  | roundStarted hr first hfirst =>
      cases first
      · exact .dropped
      · exact .dropped
  | _ =>
      first
      | exact .kept
      | exact .dropped

theorem move_contextLater {s t : SessionState} {op : SessionOp} {r : SessionOutcome}
    (h : SessionMove digest s op r t) : ContextLater s t := by
  cases h with
  | packageAccepted hr hlive hphase hvalid horch => exact .issued
  | answered hr horch hpending hkind hguard hcontinues => exact continues_contextLater hcontinues
  | roundStarted hr first hfirst =>
      cases first
      · exact .kept
      · exact .dropped
  | _ =>
      first
      | exact .kept
      | exact .dropped

theorem move_adrLater {s t : SessionState} {op : SessionOp} {r : SessionOutcome}
    (h : SessionMove digest s op r t) : AdrLater s t := by
  cases h with
  | contextAccepted hlive horch hpackage hvalid => exact .issued
  | answered hr horch hpending hkind hguard hcontinues => exact continues_adrLater hcontinues
  | roundStarted hr first hfirst =>
      cases first
      · exact .kept
      · exact .dropped
  | _ =>
      first
      | exact .kept
      | exact .dropped

theorem move_roundLater {s t : SessionState} {op : SessionOp} {r : SessionOutcome}
    (h : SessionMove digest s op r t) : RoundLater s t := by
  cases h with
  | answered hr horch hpending hkind hguard hcontinues =>
      unfold RoundLater
      rw [continues_roundIssuer hcontinues]
      exact .kept
  | roundStarted hr first hfirst =>
      cases first
      · exact .issued
      · exact .issued
  | _ =>
      first
      | exact .kept
      | exact .dropped

end ForgeRuntime
