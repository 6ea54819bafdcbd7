import ForgeRuntime.Extension.Sending
import ForgeRuntime.Runtime.Attempts
import ForgeRuntime.Runtime.RefusedCalls
import ForgeRuntime.Runtime.ShownState

/-!
# How often a Context Build is sent

The invocation of a Context Build is queued when its attempt is issued, armed when the agent settles, and sent by the
timer, or by the input that answered the question before it.  A stale completion queues it once more.

* `Replays` — what the four variables allow: the copies that wait, and one replay that is left;
* `step_replays` — every step keeps this, counting what it sends;
* `context_build_sent_twice_at_most` — after the first time an invocation is sent automatically at most once more,
  what is sent carries the identity of the live attempt, and a stale completion leaves the session.
-/

namespace ForgeRuntime

open EventDriven EventDriven.Machine EventDriven.Text EventDriven.Turn Extension Session

variable {host : Host} {files : Files}

/-! ### The attempt -/

/-- The identity of the live Context Build. -/
def Agenda.contextBuild? (a : Agenda) : Option BuildIdentity := buildAttempt? a.session .contextBuild

/-- The identity was issued to a Context Build. -/
def ContextIssued (s : SessionState) (identity : BuildIdentity) : Prop :=
  Issuer.Issued contextBuildAttemptId (contextIssuer s) identity.attemptId

/-- A live attempt was live before, or it is new. -/
theorem move_contextBuildAttempt {digest : String → String} {s t : SessionState} {op : SessionOp} {r : SessionOutcome}
    (h : SessionMove digest s op r t) {identity : BuildIdentity}
    (hlive : buildAttempt? t .contextBuild = some identity) :
    buildAttempt? s .contextBuild = some identity ∨ ¬ ContextIssued s identity := by
  have hnew : ∀ round, some identity = some ⟨contextBuildAttemptId s.nextContextBuildAttemptId, round⟩ →
      ¬ ContextIssued s identity := by
    intro round hsame
    obtain rfl := Option.some.inj hsame
    exact Issuer.not_issued_next contextBuildAttemptId_injective (contextIssuer s)
  cases h with
  | packageAccepted hr hid hphase hvalid horch => exact .inr (hnew _ hlive.symm)
  | answered hr horch hpending hkind hguard hcontinues =>
      cases hcontinues with
      | inContextBuild hkind => exact .inr (hnew _ hlive.symm)
      | _ => exact .inl hlive
  | roundStarted hr first hfirst =>
      cases first
      · exact .inl hlive
      · exact absurd hlive nofun
  | _ =>
      first
      | exact .inl hlive
      | exact absurd hlive nofun

/-- An accepted package issues a Context Build. -/
theorem accepted_issues {digest : String → String} {s t : SessionState} {identity : DeepAttemptIdentity}
    {package : EvidencePackage} {r : SessionOutcome}
    (h : SessionMove digest s (.handleDeepResult identity (.understandingCompleted package)) r t)
    (hr : r.taken = true) {live : BuildIdentity} (hlive : buildAttempt? t .contextBuild = some live) :
    ¬ ContextIssued s live := by
  cases h with
  | packageAccepted hr' hid hphase hvalid horch =>
      obtain rfl := Option.some.inj hlive
      exact Issuer.not_issued_next contextBuildAttemptId_injective (contextIssuer s)
  | refused hr' => rw [hr'] at hr; cases hr
  | orchestratorCreated horch => cases hr
  | bookkept hop => cases hop
  | entered hr' hop => cases hop
  | deepIssued hr' hop => cases hop
  | retrievalEnded hop => cases hop
  | asked hr' hop => cases hop

/-- So does an answer that leads into Context Build. -/
theorem answer_issues {digest : String → String} {s t : SessionState} {answer : String} {r : SessionOutcome}
    (h : SessionMove digest s (.recordAnswer answer) r t) (hbefore : s.uiState.stage ≠ .workflow .contextBuild)
    (hafter : t.uiState.stage = .workflow .contextBuild) {live : BuildIdentity}
    (hlive : buildAttempt? t .contextBuild = some live) : ¬ ContextIssued s live := by
  cases h with
  | answered hr horch hpending hkind hguard hcontinues =>
      cases hcontinues with
      | inContextBuild hkind =>
          obtain rfl := Option.some.inj hlive
          exact Issuer.not_issued_next contextBuildAttemptId_injective (contextIssuer s)
      | _ => cases hafter
  | refused => exact absurd hafter hbefore
  | orchestratorCreated => exact absurd hafter hbefore
  | bookkept hop => cases hop
  | entered hr hop => cases hop
  | deepIssued hr hop => cases hop
  | retrievalEnded hop => cases hop
  | asked hr hop => cases hop
  | _ => cases hafter

/-! ### What the variables allow -/

/-- The slot holds the invocation of this Context Build. -/
def copiesIn (identity : BuildIdentity) (slot : Option PendingSettledBuildInvocation) : Nat :=
  match slot with
  | some pending => if pending.stage = .contextBuild ∧ pending.identity = identity then 1 else 0
  | none => 0

@[simp] theorem copiesIn_none (identity : BuildIdentity) : copiesIn identity none = 0 := rfl

theorem copiesIn_le_one (identity : BuildIdentity) (slot : Option PendingSettledBuildInvocation) :
    copiesIn identity slot ≤ 1 := by
  unfold copiesIn
  split
  · split
    · exact Nat.le_refl 1
    · exact Nat.zero_le 1
  · exact Nat.zero_le 1

/-- The copies that wait: queued, and armed. -/
def Agenda.waiting (identity : BuildIdentity) (a : Agenda) : Nat :=
  copiesIn identity a.pendingSettledBuildInvocation + copiesIn identity a.pendingSettledBuildInvocationTimer

/-- The replay that is left. -/
def replaysLeft (identity : BuildIdentity) (replayed : Option BuildIdentity) : Nat :=
  if replayed = some identity then 0 else 1

theorem replaysLeft_le_one (identity : BuildIdentity) (replayed : Option BuildIdentity) :
    replaysLeft identity replayed ≤ 1 := by
  unfold replaysLeft
  split
  · exact Nat.zero_le 1
  · exact Nat.le_refl 1

/-- The text is the invocation of its identity. -/
def CarriesIdentity (host : Host) (pending : PendingSettledBuildInvocation) : Prop :=
  ∃ file request, request.stage = pending.stage ∧ request.identity = pending.identity ∧
    pending.invocation = buildContextBuildSkillInvocation host.skillsDir file request

/-- The host lets the build stages run. -/
def EnforcesBuild (host : Host) : Prop := (canEnforceToolBoundary host && host.sendUserMessage) = true

/-- **What the variables allow**, after `sent` sendings of one Context Build. -/
structure Replays (host : Host) (identity : BuildIdentity) (sent : Nat) (a : Agenda) : Prop where
  bound : sent ≤ 2
  /-- Nothing is there of what was not issued. -/
  fresh : ¬ ContextIssued a.session identity →
    sent + a.waiting identity + copiesIn identity a.lastSentContextBuildInvocation = 0
  /-- What was sent and is live may be replayed once. -/
  replayed : a.contextBuild? = some identity → copiesIn identity a.lastSentContextBuildInvocation = 1 →
    sent + a.waiting identity + replaysLeft identity a.replayedContextBuildIdentity ≤ 2
  /-- What was not, waits once, or never again. -/
  unsent : a.contextBuild? = some identity → copiesIn identity a.lastSentContextBuildInvocation = 0 →
    a.waiting identity = 0 ∨ (sent = 0 ∧ a.waiting identity ≤ 1)
  carried : ∀ pending, pending ∈ a.pendingSettledBuildInvocation ∨ pending ∈ a.pendingSettledBuildInvocationTimer ∨
    pending ∈ a.lastSentContextBuildInvocation → CarriesIdentity host pending
  guarded : ¬ EnforcesBuild host → a.pendingSettledBuildInvocation = none
  issued : Issuer.LiveIssued contextBuildAttemptId (contextIssuer a.session)

/-- What is live was issued. -/
theorem Replays.issued_of_live {identity : BuildIdentity} {sent : Nat} {a : Agenda} (ha : Replays host identity sent a)
    {live : BuildIdentity} (hlive : a.contextBuild? = some live) : ContextIssued a.session live := by
  obtain ⟨attempt, hattempt, rfl⟩ := Option.map_eq_some_iff.mp hlive
  refine ha.issued _ ?_
  simp only [contextIssuer, hattempt, Option.map_some]

section Writes

variable {identity : BuildIdentity} {sent : Nat}

theorem steady_replays (host : Host) (identity : BuildIdentity) (sent : Nat) :
    Steady host (Replays host identity sent) where
  call a op _ ha := by
    have hmove := step_move host.digest a.session op
    refine ⟨ha.bound, fun hnew => ha.fresh fun hissued => hnew ?_, fun hlive hlast => ?_, fun hlive hlast => ?_,
      ha.carried, ha.guarded, ha.issued.later (move_contextLater hmove)⟩
    · exact hissued.later (move_contextLater hmove)
    · rcases move_contextBuildAttempt hmove hlive with hsame | hnew
      · exact ha.replayed hsame hlast
      · -- a new attempt has nothing in any slot
        have hnone := ha.fresh hnew
        have hlast : copiesIn identity a.lastSentContextBuildInvocation = 1 := hlast
        exact absurd hnone (by omega)
    · rcases move_contextBuildAttempt hmove hlive with hsame | hnew
      · exact ha.unsent hsame hlast
      · have hnone := ha.fresh hnew
        exact .inl (show a.waiting identity = 0 by omega)
  grillRun _ _ ha := ⟨ha.bound, ha.fresh, ha.replayed, ha.unsent, ha.carried, ha.guarded, ha.issued⟩
  texts _ _ _ _ ha := ⟨ha.bound, ha.fresh, ha.replayed, ha.unsent, ha.carried, ha.guarded, ha.issued⟩

theorem asks_replays : Asks (Replays host identity sent) :=
  fun _ _ _ ha => ⟨ha.bound, ha.fresh, ha.replayed, ha.unsent, ha.carried, ha.guarded, ha.issued⟩

theorem sends_replays : Sends (Replays host identity sent) :=
  fun _ _ ha => ⟨ha.bound, ha.fresh, ha.replayed, ha.unsent, ha.carried, ha.guarded, ha.issued⟩

theorem batches_replays : Batches (Replays host identity sent) :=
  fun _ _ ha => ⟨ha.bound, ha.fresh, ha.replayed, ha.unsent, ha.carried, ha.guarded, ha.issued⟩

/-- What waits may be dropped or armed, and what was sent may be forgotten once nothing of it is live or waits. -/
theorem Replays.drop {a : Agenda} (ha : Replays host identity sent a)
    {pending timer : Option PendingSettledBuildInvocation}
    (hfewer : copiesIn identity pending + copiesIn identity timer ≤ a.waiting identity)
    (hcarried : ∀ p, p ∈ pending ∨ p ∈ timer → CarriesIdentity host p)
    (hguarded : ¬ EnforcesBuild host → pending = none) :
    Replays host identity sent { a with
      pendingSettledBuildInvocation := pending
      pendingSettledBuildInvocationTimer := timer } := by
  refine ⟨ha.bound, fun hnew => ?_, fun hlive hlast => ?_, fun hlive hlast => ?_, ?_, hguarded, ha.issued⟩
  · have hnone := ha.fresh hnew
    show sent + (copiesIn identity pending + copiesIn identity timer) +
      copiesIn identity a.lastSentContextBuildInvocation = 0
    omega
  · have hbound := ha.replayed hlive hlast
    show sent + (copiesIn identity pending + copiesIn identity timer) +
      replaysLeft identity a.replayedContextBuildIdentity ≤ 2
    omega
  · show copiesIn identity pending + copiesIn identity timer = 0 ∨ _ ∧
      copiesIn identity pending + copiesIn identity timer ≤ 1
    have hunsent := ha.unsent hlive hlast
    omega
  · rintro p (h | h | h)
    · exact hcarried p (.inl h)
    · exact hcarried p (.inr h)
    · exact ha.carried p (.inr (.inr h))

/-- What is queued may be dropped. -/
theorem Replays.dropPending {a : Agenda} (ha : Replays host identity sent a) :
    Replays host identity sent { a with pendingSettledBuildInvocation := none } := by
  have hfewer : copiesIn identity none + copiesIn identity a.pendingSettledBuildInvocationTimer ≤
      a.waiting identity := by
    unfold Agenda.waiting
    rw [copiesIn_none]
    omega
  exact ha.drop hfewer (fun p hp => ha.carried p (.inr (.inl (hp.resolve_left nofun)))) fun _ => rfl

/-- All that waits may be dropped. -/
theorem Replays.dropAll {a : Agenda} (ha : Replays host identity sent a) :
    Replays host identity sent { a with
      pendingSettledBuildInvocation := none
      pendingSettledBuildInvocationTimer := none } := by
  refine ha.drop (Nat.zero_le _) ?_ fun _ => rfl
  rintro p (h | h)
  · cases h
  · cases h

/-- What was sent may be forgotten when it is not live, or when nothing of it waits. -/
theorem Replays.forget {a : Agenda} (ha : Replays host identity sent a) {timer : Option PendingSettledBuildInvocation}
    (hfewer : copiesIn identity timer ≤ a.waiting identity) (hcarried : ∀ p ∈ timer, CarriesIdentity host p)
    (hgone : a.contextBuild? = none ∨ copiesIn identity timer = 0) :
    Replays host identity sent { a with
      pendingSettledBuildInvocation := none
      pendingSettledBuildInvocationTimer := timer
      lastSentContextBuildInvocation := none
      replayedContextBuildIdentity := none } := by
  refine ⟨ha.bound, fun hnew => ?_, fun _ hlast => (by cases hlast), fun hlive _ => ?_, ?_, fun _ => rfl, ha.issued⟩
  · have hnone := ha.fresh hnew
    show sent + (0 + copiesIn identity timer) + 0 = 0
    omega
  · rcases hgone with hgone | hgone
    · rw [show a.contextBuild? = some identity from hlive] at hgone
      cases hgone
    · exact .inl (show 0 + copiesIn identity timer = 0 by omega)
  · rintro p (h | h | h)
    · cases h
    · exact hcarried p h
    · cases h

theorem clears_replays : Clears (Replays host identity sent) := by
  intro a ha
  have hforgotten := ha.forget (Nat.zero_le _) (by rintro p ⟨⟩) (.inr (copiesIn_none identity))
  exact ⟨hforgotten.bound, hforgotten.fresh, hforgotten.replayed, hforgotten.unsent, hforgotten.carried,
    hforgotten.guarded, hforgotten.issued⟩

/-- **An invocation is queued**: of a Context Build only when it is live and was never queued before. -/
theorem Replays.queue {a : Agenda} (ha : Replays host identity sent a) {pending : PendingSettledBuildInvocation}
    (hnew : pending.stage = .contextBuild → a.contextBuild? = some pending.identity ∧ (pending.identity = identity →
      sent + a.waiting identity + copiesIn identity a.lastSentContextBuildInvocation = 0))
    (hcarries : CarriesIdentity host pending) (henforces : EnforcesBuild host) :
    Replays host identity sent { a with pendingSettledBuildInvocation := some pending } := by
  have hcarried : ∀ p, p ∈ some pending ∨ p ∈ a.pendingSettledBuildInvocationTimer ∨
      p ∈ a.lastSentContextBuildInvocation → CarriesIdentity host p := by
    rintro p (h | h)
    · exact Option.some.inj h ▸ hcarries
    · exact ha.carried p (.inr h)
  by_cases hit : pending.stage = .contextBuild ∧ pending.identity = identity
  · obtain ⟨hstage, rfl⟩ := hit
    obtain ⟨hlive, hnone⟩ := hnew hstage
    have hnone := hnone rfl
    have hone : copiesIn pending.identity (some pending) = 1 := if_pos ⟨hstage, rfl⟩
    unfold Agenda.waiting at hnone
    refine ⟨ha.bound, fun hissued => absurd (ha.issued_of_live hlive) hissued, fun _ hlast => ?_, fun _ _ => .inr ?_,
      hcarried, fun hnot => absurd henforces hnot, ha.issued⟩
    · have hlast : copiesIn pending.identity a.lastSentContextBuildInvocation = 1 := hlast
      exact absurd hnone (by omega)
    · show sent = 0 ∧ copiesIn pending.identity (some pending) +
        copiesIn pending.identity a.pendingSettledBuildInvocationTimer ≤ 1
      omega
  · have hzero : copiesIn identity (some pending) = 0 := if_neg hit
    have hfewer : copiesIn identity (some pending) + copiesIn identity a.pendingSettledBuildInvocationTimer ≤
        a.waiting identity := by
      unfold Agenda.waiting
      omega
    exact ha.drop hfewer (fun p hp => hcarried p (hp.imp_right .inl)) fun hnot => absurd henforces hnot

/-- **A replay is queued**: of the invocation that was sent, while its attempt is live, once. -/
theorem Replays.replay {a : Agenda} (ha : Replays host identity sent a) {last : PendingSettledBuildInvocation}
    (hpending : a.pendingSettledBuildInvocation = none) (hlast : a.lastSentContextBuildInvocation = some last)
    (hlive : a.contextBuild? = some last.identity) (hreplayed : a.replayedContextBuildIdentity ≠ some last.identity)
    (henforces : EnforcesBuild host) :
    Replays host identity sent { a with
      pendingSettledBuildInvocation := some last
      replayedContextBuildIdentity := some last.identity } := by
  have hwaiting : a.waiting identity = copiesIn identity a.pendingSettledBuildInvocationTimer := by
    unfold Agenda.waiting
    rw [hpending, copiesIn_none, Nat.zero_add]
  have hcopy : copiesIn identity a.lastSentContextBuildInvocation = copiesIn identity (some last) := by rw [hlast]
  refine ⟨ha.bound, fun hnew => ?_, fun hcurrent hsent => ?_, fun hcurrent hunsent => ?_, ?_,
    fun hnot => absurd henforces hnot, ha.issued⟩
  · have hnone := ha.fresh hnew
    show sent + (copiesIn identity (some last) + copiesIn identity a.pendingSettledBuildInvocationTimer) +
      copiesIn identity a.lastSentContextBuildInvocation = 0
    omega
  · have hsame : last.identity = identity := Option.some.inj (hlive.symm.trans hcurrent)
    have hbound := ha.replayed hcurrent hsent
    have hleft : replaysLeft identity a.replayedContextBuildIdentity = 1 := if_neg (hsame ▸ hreplayed)
    have hnone : replaysLeft identity (some last.identity) = 0 := if_pos (by rw [hsame])
    have hsent : copiesIn identity a.lastSentContextBuildInvocation = 1 := hsent
    show sent + (copiesIn identity (some last) + copiesIn identity a.pendingSettledBuildInvocationTimer) +
      replaysLeft identity (some last.identity) ≤ 2
    omega
  · have hunsent : copiesIn identity a.lastSentContextBuildInvocation = 0 := hunsent
    have hbound := ha.unsent hcurrent hunsent
    show copiesIn identity (some last) + copiesIn identity a.pendingSettledBuildInvocationTimer = 0 ∨ _ ∧
      copiesIn identity (some last) + copiesIn identity a.pendingSettledBuildInvocationTimer ≤ 1
    omega
  · rintro p (h | h | h)
    · exact ha.carried p (.inr (.inr (hlast.trans h)))
    · exact ha.carried p (.inr (.inl h))
    · exact ha.carried p (.inr (.inr h))

/-- What is still known of a replay when an invocation is sent. -/
def Agenda.keptReplay (a : Agenda) (p : PendingSettledBuildInvocation) : Option BuildIdentity :=
  if a.lastSentContextBuildInvocation.map (·.identity) = some p.identity then a.replayedContextBuildIdentity else none

/-- **An invocation is sent**: one that waits, of the attempt that is live. -/
theorem Replays.send {a : Agenda} (ha : Replays host identity sent a) {p : PendingSettledBuildInvocation}
    {pending timer : Option PendingSettledBuildInvocation} (hstage : p.stage = .contextBuild)
    (hlive : a.contextBuild? = some p.identity)
    (hmoved : copiesIn identity pending + copiesIn identity timer + copiesIn identity (some p) = a.waiting identity)
    (hcarried : ∀ q, q ∈ pending ∨ q ∈ timer ∨ q ∈ some p → CarriesIdentity host q)
    (hguarded : ¬ EnforcesBuild host → pending = none) :
    Replays host identity (sent + copiesIn identity (some p)) { a with
      pendingSettledBuildInvocation := pending
      pendingSettledBuildInvocationTimer := timer
      lastSentContextBuildInvocation := some p
      replayedContextBuildIdentity := a.keptReplay p } := by
  by_cases hit : p.identity = identity
  · subst hit
    have hone : copiesIn p.identity (some p) = 1 := if_pos ⟨hstage, rfl⟩
    rcases Nat.le_one_iff_eq_zero_or_eq_one.mp (copiesIn_le_one p.identity a.lastSentContextBuildInvocation)
      with hlast | hlast
    · -- the first time
      have hunsent := ha.unsent hlive hlast
      refine ⟨by omega, fun hnew => absurd (ha.issued_of_live hlive) hnew, fun _ _ => ?_, fun _ hzero => ?_, hcarried,
        hguarded, ha.issued⟩
      · have hleft := replaysLeft_le_one p.identity (a.keptReplay p)
        show sent + copiesIn p.identity (some p) + (copiesIn p.identity pending + copiesIn p.identity timer) +
          replaysLeft p.identity (a.keptReplay p) ≤ 2
        omega
      · rw [show copiesIn p.identity (some p) = 0 from hzero] at hone
        cases hone
    · -- the replay
      have hbound := ha.replayed hlive hlast
      have hkept : a.lastSentContextBuildInvocation.map (·.identity) = some p.identity := by
        cases hslot : a.lastSentContextBuildInvocation with
        | none => rw [hslot] at hlast; cases hlast
        | some last =>
            by_cases hsame : last.stage = .contextBuild ∧ last.identity = p.identity
            · exact congrArg some hsame.2
            · rw [hslot, copiesIn, if_neg hsame] at hlast
              cases hlast
      refine ⟨by omega, fun hnew => absurd (ha.issued_of_live hlive) hnew, fun _ _ => ?_, fun _ hzero => ?_, hcarried,
        hguarded, ha.issued⟩
      · show sent + copiesIn p.identity (some p) + (copiesIn p.identity pending + copiesIn p.identity timer) +
          replaysLeft p.identity (a.keptReplay p) ≤ 2
        rw [Agenda.keptReplay, if_pos hkept]
        omega
      · rw [show copiesIn p.identity (some p) = 0 from hzero] at hone
        cases hone
  · have hzero : copiesIn identity (some p) = 0 := if_neg fun h => hit h.2
    have hother : a.contextBuild? ≠ some identity := fun h => hit (Option.some.inj (hlive.symm.trans h))
    have hbound := ha.bound
    refine ⟨by omega, fun hnew => ?_, fun h => absurd h hother, fun h => absurd h hother, hcarried, hguarded, ha.issued⟩
    have hnone := ha.fresh hnew
    show sent + copiesIn identity (some p) + (copiesIn identity pending + copiesIn identity timer) +
      copiesIn identity (some p) = 0
    omega

/-! ### The functions of the build stages -/

namespace Extension

/-- A text that is built carries the identity of its request. -/
theorem buildInvocation_carries {request : BuildSkillInvocationRequest} {s t : ExtensionState} {text : String}
    (h : buildInvocation host files request s = (.ok text, t)) (workflow : ActiveWorkflowContext) :
    CarriesIdentity host ⟨workflow, text, request.stage, request.identity⟩ := by
  unfold buildInvocation at h
  cases hfile : files.contextBuildSkill with
  | error error => rw [hfile] at h; cases h
  | ok file =>
      rw [hfile] at h
      obtain rfl := Except.ok.inj (Prod.mk.inj h).1
      exact ⟨file, request, rfl, rfl, rfl⟩

/-- The package goes to a Context Build that was just issued. -/
theorem handOffToContextBuild_queues {s : ExtensionState} {state : ForgeUiState} {package : EvidencePackage}
    (hs : Replays host identity sent s.agenda) (henforces : EnforcesBuild host)
    (hnew : s.agenda.contextBuild? = some identity →
      sent + s.agenda.waiting identity + copiesIn identity s.agenda.lastSentContextBuildInvocation = 0) :
    Replays host identity sent (handOffToContextBuild host files state package s).2.agenda := by
  have hJ : ∀ a, a = s.agenda → Replays host identity sent a := fun a ha => ha ▸ hs
  have hbrings : Brings (· = s.agenda) (Replays host identity sent) (handOffToContextBuild host files state package) := by
    refine brings_get_bind fun t ht => ?_
    rw [ht]
    split
    case h_1 workflow attempt knowledge hworkflow hattempt hknowledge =>
      have hlive : s.agenda.contextBuild? = some ⟨attempt.attemptId, attempt.sourceRoundId⟩ := by
        rw [← ht]
        exact congrArg (Option.map _) hattempt
      split
      · exact (untouched_stopHandOff _ _ _ _ _).brings hJ
      · refine brings_untouched_bind (F := fun result => ∀ text, result = .ok text →
          CarriesIdentity host ⟨workflow, text, .contextBuild, attempt.attemptId, attempt.sourceRoundId⟩)
          (untouched_attempt (untouched_buildInvocation _)) ?_ hJ fun result hresult => ?_
        · rintro u result v hrun text rfl
          rw [Turn.attempt] at hrun
          exact buildInvocation_carries (Prod.ext (Except.ok.inj (Prod.mk.inj hrun).1) rfl) workflow
        · cases result with
          | error error => exact (untouched_stopHandOff _ _ _ _ _).brings hJ
          | ok invocation =>
              refine brings_skip untouched_restoreActiveTools hJ fun _ => ?_
              refine brings_skip untouched_activateContextBuildTools hJ fun _ => ?_
              intro u hu
              rw [modify_bind_apply]
              refine (holds_untouched_bind (untouched_publishState _) fun _ => keeps_pure _) _ ?_
              show Replays host identity sent { u.agenda with pendingSettledBuildInvocation := some _ }
              rw [hu]
              refine hs.queue (fun _ => ⟨hlive, fun hsame => hnew ?_⟩) (hresult invocation rfl) henforces
              rw [hlive]
              exact congrArg some hsame
    case h_2 => exact (untouched_stopHandOff _ _ _ _ _).brings hJ
  exact hbrings s rfl

theorem holds_completeUnderstanding_replays (henforces : EnforcesBuild host) (attempt : DeepAttemptIdentity)
    (result : UnderstandingResult) :
    Holds (Replays host identity sent) (completeUnderstanding host files attempt result) := by
  have hI := steady_replays host identity sent
  refine holds_get_bind fun s => keeps_ite (keeps_pure _) ?_
  refine holds_untouched_bind untouched_continueGrillRound fun round => ?_
  split
  · exact keeps_pure _
  · split
    · exact keeps_pure _
    · refine brings_call_bind .deep rfl (fun a ha => hI.call a _ nofun ha) fun s a t hs hrun hagenda hmove => ?_
      have ht : Replays host identity sent t.agenda := hagenda ▸ hI.call _ _ nofun hs
      cases a with
      | stale expected received => exact ht
      | invalid state errors => exact ht
      | accepted state accepted =>
          refine handOffToContextBuild_queues ht henforces fun hlive => ?_
          have hnone := hs.fresh (accepted_issues hmove rfl hlive)
          rwa [hagenda]

/-- What waits after an answer to a build question is of the attempt that was issued. -/
def QueuesLive (host : Host) (identity : BuildIdentity) (sent : Nat) (stage : BuildStage) (a : Agenda) : Prop :=
  Replays host identity sent a ∧ ∀ pending ∈ a.pendingSettledBuildInvocation, pending.stage = stage ∧
    (stage = .contextBuild → a.contextBuild? = some pending.identity)

theorem queuesLive_of_none {stage : BuildStage} {a : Agenda} (ha : Replays host identity sent a)
    (hnone : a.pendingSettledBuildInvocation = none) : QueuesLive host identity sent stage a := by
  refine ⟨ha, fun pending hpending => ?_⟩
  rw [hnone] at hpending
  cases hpending

theorem reenterBuildStage_carries {stage : BuildStage} {attempt : BuildIdentity} {package : EvidencePackage}
    {s t : ExtensionState} {text : String}
    (h : reenterBuildStage host files stage attempt package s = (.ok (some text), t)) (workflow : ActiveWorkflowContext) :
    CarriesIdentity host ⟨workflow, text, stage, attempt⟩ := by
  have hbuilt : ∀ request : BuildSkillInvocationRequest, ∀ rest : Ext Unit,
      (do
        let invocation ← buildInvocation host files request
        rest
        return some invocation : Ext (Option String)) s = (.ok (some text), t) →
      CarriesIdentity host ⟨workflow, text, request.stage, request.identity⟩ := by
    intro request rest hrun
    rcases hbuild : buildInvocation host files request s with ⟨error | built, u⟩
    · rw [bind_eq_error hbuild] at hrun
      cases hrun
    · rw [bind_eq_ok hbuild] at hrun
      rcases hrest : rest u with ⟨error | _, v⟩
      · rw [bind_eq_error hrest] at hrun
        cases hrun
      · rw [bind_eq_ok hrest] at hrun
        obtain rfl := Option.some.inj (Except.ok.inj (Prod.mk.inj hrun).1)
        exact buildInvocation_carries hbuild workflow
  simp only [reenterBuildStage, get_bind_apply] at h
  cases stage with
  | contextBuild => exact hbuilt ⟨.contextBuild, attempt, package, none, _⟩ _ h
  | adrBuild =>
      cases hcandidate : s.session.contextCandidate with
      | none =>
          simp only [hcandidate] at h
          cases h
      | some candidate =>
          simp only [hcandidate] at h
          exact hbuilt ⟨.adrBuild, attempt, package, some candidate, _⟩ _ h

/-- What follows the answer. -/
def afterBuildAnswer (host : Host) (files : Files) (stage : BuildStage) (state : ForgeUiState) : Ext Bool := do
  publishState state
  if state.stage ≠ .workflow stage.stage then
    return true
  let s ← get
  match s.activeWorkflow, s.session.knowledgeUnderstandingPackage, buildAttempt? s.session stage,
      truthy s.documentsBaseHash with
  | some workflow, some package, some identity, some _ =>
      let invocation ← tryCatch (reenterBuildStage host files stage identity package) fun error => do
        notify ("Context/ADR skill 無法載入：" ++ error)
        return none
      if let some invocation := invocation then
        modify fun s => { s with
          pendingSettledBuildInvocation := some ⟨workflow, invocation, stage, identity⟩ }
      return true
  | _, _, _, _ =>
      notify "Context/ADR 回答後缺少可驗證的執行期輸入，已停止。"
      return true

theorem afterBuildAnswer_queues {stage : BuildStage} {s : ExtensionState}
    (hs : Replays host identity sent s.agenda) (hnone : s.agenda.pendingSettledBuildInvocation = none)
    (henforces : EnforcesBuild host)
    (hnew : s.session.uiState.stage = .workflow .contextBuild → s.agenda.contextBuild? = some identity →
      sent + s.agenda.waiting identity + copiesIn identity s.agenda.lastSentContextBuildInvocation = 0) :
    QueuesLive host identity sent stage (afterBuildAnswer host files stage s.session.uiState s).2.agenda := by
  have hJ : ∀ a, a = s.agenda → QueuesLive host identity sent stage a := fun a ha => ha ▸ queuesLive_of_none hs hnone
  have hbrings : Brings (· = s.agenda) (QueuesLive host identity sent stage)
      (afterBuildAnswer host files stage s.session.uiState) := by
    refine brings_skip (untouched_publishState _) hJ fun _ => ?_
    by_cases hstage : s.session.uiState.stage ≠ .workflow stage.stage
    · rw [if_pos hstage]
      exact fun u hu => hJ _ hu
    · rw [if_neg hstage]
      refine brings_get_bind fun t ht => ?_
      rw [ht]
      split
      case h_1 workflow package attempt baseHash hworkflow hpackage hattempt hbase =>
        refine brings_untouched_bind (F := fun result => ∀ text, result = some text →
          CarriesIdentity host ⟨workflow, text, stage, attempt⟩)
          (untouched_tryCatch (untouched_reenterBuildStage _ _ _) fun _ =>
            untouched_bind (untouched_notify _) fun _ => untouched_pure none) ?_ hJ fun result hresult => ?_
        · rintro u result v hrun text rfl
          rw [tryCatch_apply] at hrun
          rcases hreenter : reenterBuildStage host files stage attempt package u with ⟨error | built, w⟩
          · rw [hreenter] at hrun
            cases hrun
          · rw [hreenter] at hrun
            obtain rfl := Except.ok.inj (Prod.mk.inj hrun).1
            exact reenterBuildStage_carries hreenter workflow
        · cases result with
          | none => exact fun u hu => hJ _ hu
          | some invocation =>
              intro u hu
              have hlive : stage = .contextBuild → s.agenda.contextBuild? = some attempt := by
                rintro rfl
                rw [← ht]
                exact hattempt
              refine ⟨?_, fun pending hpending => ?_⟩
              · show Replays host identity sent { u.agenda with pendingSettledBuildInvocation := some _ }
                rw [hu]
                refine hs.queue (fun hkind => ⟨hlive hkind, fun hsame => ?_⟩) (hresult invocation rfl) henforces
                have hcontext : stage = .contextBuild := hkind
                subst hcontext
                exact hnew (not_not.mp hstage) ((hlive rfl).trans (congrArg some hsame))
              · obtain rfl := Option.some.inj hpending
                refine ⟨rfl, fun hkind => ?_⟩
                show u.agenda.contextBuild? = some attempt
                rw [hu]
                exact hlive hkind
      case h_2 => exact (untouched_notify _).brings hJ
  exact hbrings s rfl

/-- The end of an answer to a build question: it is handled, or there was an error. -/
theorem afterBuildAnswer_handles {stage : BuildStage} {state : ForgeUiState} {s t : ExtensionState} {handled : Bool}
    (h : afterBuildAnswer host files stage state s = (.ok handled, t)) : handled = true := by
  have hleads : Turn.Leads (fun _ => True) (afterBuildAnswer host files stage state) (fun handled _ => handled = true)
      fun _ => True := by
    have htrue : ∀ {P : ExtensionState → Prop}, Turn.Leads P (pure true : Ext Bool) (fun handled _ => handled = true)
        fun _ => True := leads_pure fun _ _ => rfl
    refine leads_bind leads_anywhere fun _ => leads_ite (fun _ => htrue) fun _ => leads_get_bind fun u _ => ?_
    split
    · refine leads_bind leads_anywhere fun result => ?_
      cases result with
      | none => exact htrue
      | some invocation => exact leads_bind leads_anywhere fun _ => htrue
    · exact leads_bind leads_anywhere fun _ => htrue
  exact (hleads s trivial).1 handled t h

/-- A build question is answered under the boundary of the build stages. -/
theorem resumeBuildAnswer_apply {stage : BuildStage} (answer : String) {s t : ExtensionState}
    (hstage : pendingBuildStage? s = some stage) (henforces : EnforcesBuild host)
    (ht : t = { s with
      pendingSettledBuildInvocation := none
      pendingSettledBuildInvocationTimer := none
      pendingReplayInvocation := none }) :
    resumeBuildAnswer host files answer s =
      (sessionState.recordAnswer host answer >>= afterBuildAnswer host files stage) t := by
  have hboundary : (canEnforceToolBoundary host && host.sendUserMessage) = true := henforces
  simp only [resumeBuildAnswer, get_bind_apply, hstage, requireBuildToolBoundary, hboundary, ht]
  rfl

/-- Outside that boundary nothing is done. -/
theorem resumeBuildAnswer_refused (files : Files) {stage : BuildStage} (answer : String) {s : ExtensionState}
    (hstage : pendingBuildStage? s = some stage) (hnot : ¬ EnforcesBuild host) :
    ∃ t, resumeBuildAnswer host files answer s = (.ok true, t) ∧ t.agenda = s.agenda := by
  have hboundary : (canEnforceToolBoundary host && host.sendUserMessage) = false := Bool.eq_false_iff.mpr hnot
  simp only [resumeBuildAnswer, get_bind_apply, hstage, requireBuildToolBoundary, hboundary]
  exact ⟨_, rfl, untouched_requireBoundary false _ s⟩

theorem resumeBuildAnswer_handles {stage : BuildStage} {answer : String} {s t : ExtensionState} {handled : Bool}
    (hstage : pendingBuildStage? s = some stage)
    (h : resumeBuildAnswer host files answer s = (.ok handled, t)) : handled = true := by
  by_cases henforces : EnforcesBuild host
  · rw [resumeBuildAnswer_apply answer hstage henforces rfl] at h
    rcases hcall : sessionState.recordAnswer host answer _ with ⟨error | state, u⟩
    · rw [bind_eq_error hcall] at h
      cases h
    · rw [bind_eq_ok hcall] at h
      exact afterBuildAnswer_handles h
  · obtain ⟨u, hrun, -⟩ := resumeBuildAnswer_refused files answer hstage henforces
    rw [hrun] at h
    exact (Except.ok.inj (Prod.mk.inj h).1).symm

/-- **An answer to a build question** queues the invocation of the attempt that it issues. -/
theorem resumeBuildAnswer_queues {stage : BuildStage} {answer : String} {s : ExtensionState}
    (hstage : pendingBuildStage? s = some stage) (hs : Replays host identity sent s.agenda) :
    QueuesLive host identity sent stage (resumeBuildAnswer host files answer s).2.agenda := by
  have hI := steady_replays host identity sent
  have hshown : AtStage s .waitUser := by
    by_contra hother
    rw [pendingBuildStage?, if_neg hother] at hstage
    cases hstage
  by_cases henforces : EnforcesBuild host
  · obtain ⟨s₁, hforgotten⟩ : ∃ s₁ : ExtensionState, s₁ = { s with
        pendingSettledBuildInvocation := none
        pendingSettledBuildInvocationTimer := none
        pendingReplayInvocation := none } := ⟨_, rfl⟩
    have hs₁ : Replays host identity sent s₁.agenda := by
      rw [hforgotten]
      exact hs.dropAll
    have hbrings : Brings (fun a => Replays host identity sent a ∧ a.pendingSettledBuildInvocation = none ∧
        a.session.uiState.stage = .workflow .waitUser) (QueuesLive host identity sent stage)
        (sessionState.recordAnswer host answer >>= afterBuildAnswer host files stage) := by
      refine brings_call_bind .ui rfl (fun a ha => queuesLive_of_none (hI.call a _ nofun ha.1) ha.2.1)
        fun u state t hu hcall hagenda hmove => ?_
      obtain rfl : state = t.session.uiState := showsUi_recordAnswer host.digest answer _ _ _ (call_run hcall)
      refine afterBuildAnswer_queues (hagenda ▸ hI.call _ _ nofun hu.1) (hagenda ▸ hu.2.1) henforces ?_
      intro hafter hlive
      have hbefore : u.session.uiState.stage ≠ .workflow .contextBuild := by
        rw [show u.session.uiState.stage = .workflow .waitUser from hu.2.2]
        decide
      have hnone := hu.1.fresh (answer_issues hmove hbefore hafter hlive)
      rwa [hagenda]
    rw [resumeBuildAnswer_apply answer hstage henforces hforgotten]
    exact hbrings s₁ ⟨hs₁, by rw [hforgotten]; rfl, by rw [hforgotten]; exact hshown⟩
  · obtain ⟨t, hrun, hagenda⟩ := resumeBuildAnswer_refused files answer hstage henforces
    rw [hrun]
    show QueuesLive host identity sent stage t.agenda
    rw [hagenda]
    exact queuesLive_of_none hs (hs.guarded henforces)

theorem holds_resumeBuildAnswer_replays (answer : String) :
    Holds (Replays host identity sent) (resumeBuildAnswer host files answer) := by
  intro s hs
  cases hstage : pendingBuildStage? s with
  | some stage => exact (resumeBuildAnswer_queues hstage hs).1
  | none =>
      have hrun : resumeBuildAnswer host files answer s = (.ok false, s) := by
        simp only [resumeBuildAnswer, get_bind_apply, hstage, pure_apply]
      rwa [hrun]

/-- A completion that is taken ends its attempt. -/
theorem context_taken_ends {digest : String → String} {s t : SessionState} {attempt : ContextBuildIdentity}
    {completion : ContextBuildCompletion} {r : SessionOutcome}
    (h : SessionMove digest s (.completeContextBuild attempt completion) r t) (hr : r.taken = true) :
    t.contextBuildAttempt = none := by
  cases h with
  | contextAccepted | contextAmbiguityAsked => rfl
  | refused hr' => rw [hr'] at hr; cases hr
  | orchestratorCreated => cases hr
  | bookkept hop => cases hop
  | entered hr' hop => cases hop
  | deepIssued hr' hop => cases hop
  | retrievalEnded hop => cases hop
  | asked hr' hop => cases hop

theorem holds_replayContextBuild_replays (henforces : EnforcesBuild host) :
    Holds (Replays host identity sent) replayContextBuild := by
  refine keeps_modify fun s hs => ?_
  split
  case h_1 current last hpending hcurrent hlast =>
    dsimp only
    split
    case isTrue h =>
      obtain ⟨-, hsame, hreplayed⟩ := h
      have hlive : s.agenda.contextBuild? = some last.identity := by
        rw [hsame]
        exact congrArg (Option.map _) hcurrent
      exact hs.replay hpending hlast hlive (hsame ▸ hreplayed) henforces
    case isFalse => exact hs
  case h_2 => exact hs

/-- A completion that was taken: nothing of its attempt is kept, unless it is armed. -/
theorem forgetContextBuildInvocations_replays {s : ExtensionState} (hs : Replays host identity sent s.agenda)
    (hgone : s.session.contextBuildAttempt = none) :
    Replays host identity sent (forgetContextBuildInvocations s).2.agenda := by
  refine hs.forget (Nat.le_add_left _ _) (fun p hp => hs.carried p (.inr (.inl hp))) (.inl ?_)
  exact congrArg (Option.map _) hgone

theorem holds_handOffToAdrBuild_replays (henforces : EnforcesBuild host) (state : ForgeUiState) :
    Holds (Replays host identity sent) (handOffToAdrBuild host files state) := by
  refine holds_get_bind fun s => ?_
  split
  case h_1 workflow attempt knowledge candidate base hworkflow hattempt hknowledge hcandidate hbase =>
    show Brings (Replays host identity sent) (Replays host identity sent) _
    refine brings_untouched_bind (F := fun result => ∀ text, result = .ok text →
      CarriesIdentity host ⟨workflow, text, .adrBuild, ⟨attempt.attemptId, attempt.sourceRoundId⟩⟩)
      (untouched_attempt (untouched_buildInvocation _)) ?_ (fun _ ha => ha) fun result hresult => ?_
    · rintro u result v hrun text rfl
      rw [Turn.attempt] at hrun
      exact buildInvocation_carries (Prod.ext (Except.ok.inj (Prod.mk.inj hrun).1) rfl) workflow
    · cases result with
      | error error => exact (untouched_stopAdrBuild _ _).holds
      | ok invocation =>
          refine brings_skip untouched_activateAdrBuildTools (fun _ ha => ha) fun _ u hu => ?_
          rw [modify_bind_apply]
          refine (holds_untouched_bind (untouched_publishState _) fun _ => keeps_pure _) _ ?_
          exact hu.queue (fun hstage => by cases hstage) (hresult invocation rfl) henforces
  case h_2 => exact (untouched_stopAdrBuild _ _).holds

theorem holds_forgeContextComplete_replays (attemptId sourceRoundId : String) (outcome : ContextBuildCompletion)
    (ctx : CommandContext) :
    Holds (Replays host identity sent) (forgeContextComplete host files attemptId sourceRoundId outcome ctx) := by
  have hI := steady_replays host identity sent
  cases hboundary : canEnforceToolBoundary host && host.sendUserMessage with
  | false =>
      unfold forgeContextComplete requireBuildToolBoundary
      rw [hboundary]
      exact (untouched_notify _).holds
  | true =>
      have henforces : EnforcesBuild host := hboundary
      refine holds_untouched_bind (untouched_requireBoundary _ _) fun enforceable => keeps_ite (keeps_pure _) ?_
      refine brings_call_bind .context rfl (fun a ha => hI.call a _ nofun ha) fun s a t hs hrun hagenda hmove => ?_
      have ht : Replays host identity sent t.agenda := hagenda ▸ hI.call _ _ nofun hs
      cases a with
      | stale expected received =>
          exact keeps_bind (holds_replayContextBuild_replays henforces) (fun _ => keeps_pure _) t ht
      | invalid state errors => exact ht
      | ambiguous state accepted =>
          have hforgot := forgetContextBuildInvocations_replays ht (context_taken_ends hmove rfl)
          exact holds_askBuildQuestion (fun _ _ => holds_publishWaitUser hI asks_replays _ _ _ _) _ hforgot
      | accepted state accepted =>
          have hforgot := forgetContextBuildInvocations_replays ht (context_taken_ends hmove rfl)
          exact holds_handOffToAdrBuild_replays henforces state _ hforgot

theorem holds_agentSettled_replays : Holds (Replays host identity sent) agentSettled := by
  refine holds_agentSettled (steady_replays host identity sent) fun s hs => ?_
  dsimp only [modify_apply]
  split
  case isTrue h =>
    have hwaiting : s.agenda.waiting identity = copiesIn identity s.pendingSettledBuildInvocation := by
      show _ + copiesIn identity s.pendingSettledBuildInvocationTimer = _
      rw [h.2, copiesIn_none, Nat.add_zero]
      rfl
    refine hs.drop ?_ (fun p hp => hs.carried p (.inl (hp.resolve_left nofun))) fun _ => rfl
    rw [hwaiting, copiesIn_none, Nat.zero_add]
  case isFalse => exact hs

theorem keepsBuilds_replays : KeepsBuilds host files (Replays host identity sent) where
  forget _ ha := ha.dropPending
  complete henforces attempt result := holds_completeUnderstanding_replays henforces attempt result
  contextComplete := holds_forgeContextComplete_replays
  resume := holds_resumeBuildAnswer_replays
  settled := holds_agentSettled_replays

end Extension

end Writes

/-! ### What a step sends -/

/-- **The text is an invocation of this Context Build**, whatever its skill file held. -/
def Invokes (host : Host) (identity : BuildIdentity) (text : String) : Prop :=
  ∃ file request, request.stage = .contextBuild ∧ request.identity = identity ∧
    text = buildContextBuildSkillInvocation host.skillsDir file request

/-- The text invokes no Context Build. -/
def NoContext (host : Host) (text : String) : Prop := ∀ identity, ¬ Invokes host identity text

/-- The text is one of a Grill round or of a Deep step, or it was made for a build stage. -/
def Said (host : Host) (text : String) : Prop :=
  Invocation host text ∨ ∃ pending, CarriesIdentity host pending ∧ pending.invocation = text

open Classical in
/-- **How often a step sends this Context Build by itself**: the texts that leave the extension in it and invoke it.
The command `continue` sends on demand. -/
noncomputable def contextsSent (host : Host) (identity : BuildIdentity) (st : ExtensionStepRecord) : Nat :=
  if st.input.event.continues = true then 0
  else (textsOf st).countP fun text => decide (Invokes host identity text)

/-- What a step sends by itself is of the live attempt. -/
def SendsLive (host : Host) (st : ExtensionStepRecord) : Prop :=
  st.input.event.continues = false → ∀ text ∈ textsOf st, ∀ identity, Invokes host identity text →
    buildAttempt? st.after.session .contextBuild = some identity

/-- The text of a build stage invokes the attempt that it was made for. -/
theorem invokes_iff {pending : PendingSettledBuildInvocation} (h : CarriesIdentity host pending)
    (identity : BuildIdentity) :
    Invokes host identity pending.invocation ↔ pending.stage = .contextBuild ∧ pending.identity = identity := by
  obtain ⟨file, request, hstage, hidentity, htext⟩ := h
  constructor
  · rintro ⟨other, sentRequest, hkind, rfl, hsame⟩
    obtain ⟨hsameStage, hsameIdentity⟩ := buildContextBuildSkillInvocation_determines (htext.symm.trans hsame)
    exact ⟨hstage.symm.trans (hsameStage.trans hkind), hidentity.symm.trans hsameIdentity⟩
  · rintro ⟨hkind, hsame⟩
    exact ⟨file, request, hstage.trans hkind, hidentity.trans hsame, htext⟩

theorem noContext_of_invocation {text : String} (h : Invocation host text) : NoContext host text := by
  rintro identity ⟨file, request, -, -, rfl⟩
  exact absurd (h.not_build.symm.trans (buildInvocation_isBuild _ _ _)) (by decide)

theorem noContext_of_batch {text : String} (h : AsksForCompletion text) : NoContext host text := by
  obtain ⟨workflow, identity, rfl⟩ := h
  rintro other ⟨file, request, -, -, hsame⟩
  have hbuild := buildInvocation_isBuild host.skillsDir file request
  rw [← hsame, batchInvocation_not_build] at hbuild
  cases hbuild

theorem noContext_of_stage {pending : PendingSettledBuildInvocation} (h : CarriesIdentity host pending)
    (hstage : pending.stage ≠ .contextBuild) : NoContext host pending.invocation :=
  fun identity hinvokes => hstage ((invokes_iff h identity).mp hinvokes).1

open Classical in
/-- Of texts that invoke none, and one that was made for a Context Build. -/
theorem count_waiting {pending : PendingSettledBuildInvocation} {front : List String} (identity : BuildIdentity)
    (hfront : ∀ text ∈ front, NoContext host text) (hcarries : CarriesIdentity host pending)
    (hstage : pending.stage = .contextBuild) :
    ((front ++ [pending.invocation]).countP fun text => decide (Invokes host identity text)) =
      copiesIn identity (some pending) := by
  have hnone : ∀ text ∈ front, ¬ decide (Invokes host identity text) = true := fun text hmem => by
    simpa using hfront text hmem identity
  have hlast : decide (Invokes host identity pending.invocation) = decide (pending.identity = identity) := by
    simp only [invokes_iff hcarries identity, hstage, true_and]
  rw [List.countP_append, List.countP_eq_zero.mpr hnone, List.countP_singleton, Nat.zero_add, hlast, copiesIn]
  simp only [hstage, true_and, decide_eq_true_eq]

/-- What is known after a step. -/
structure StepReplays (host : Host) (identity : BuildIdentity) (sent : Nat) (s : ExtensionState) (o : Occurrence) :
    Prop where
  replays : Replays host identity (sent + contextsSent host identity (extensionStepAt host s o))
    (extensionStep host o s).2.agenda
  live : SendsLive host (extensionStepAt host s o)
  said : o.event.endsToolResult = false → ∀ text ∈ textsOf (extensionStepAt host s o), Said host text

section Steps

variable {identity : BuildIdentity} {sent : Nat} {s : ExtensionState} {o : Occurrence}

/-- A step that sends no Context Build by itself. -/
theorem sent_nothing
    (hquiet : o.event.continues = false → ∀ text ∈ textsOf (extensionStepAt host s o), NoContext host text)
    (hsaid : o.event.endsToolResult = false → ∀ text ∈ textsOf (extensionStepAt host s o), Said host text)
    (h : Replays host identity sent (extensionStep host o s).2.agenda) : StepReplays host identity sent s o := by
  have hnone : contextsSent host identity (extensionStepAt host s o) = 0 := by
    unfold contextsSent
    split
    case isTrue => rfl
    case isFalse hcontinues =>
      refine List.countP_eq_zero.mpr fun text htext => ?_
      simpa using hquiet (Bool.eq_false_iff.mpr hcontinues) text htext identity
  refine ⟨?_, fun hcontinues text htext live hinvokes => ?_, hsaid⟩
  · rwa [hnone]
  · exact absurd hinvokes (hquiet hcontinues text htext live)

/-- A step that says what the Grill rounds and the Deep steps say. -/
theorem sent_invocations (hsaid : ∀ text ∈ textsOf (extensionStepAt host s o), Invocation host text)
    (h : Replays host identity sent (extensionStep host o s).2.agenda) : StepReplays host identity sent s o :=
  sent_nothing (fun _ text htext => noContext_of_invocation (hsaid text htext))
    (fun _ text htext => .inl (hsaid text htext)) h

/-- A step that sends the text of a build stage, behind others. -/
theorem said_waiting {pending : PendingSettledBuildInvocation} {front : List String}
    (htexts : textsOf (extensionStepAt host s o) = front ++ [pending.invocation])
    (hfront : ∀ text ∈ front, Invocation host text) (hcarries : CarriesIdentity host pending) :
    ∀ text ∈ textsOf (extensionStepAt host s o), Said host text := by
  intro text htext
  rw [htexts] at htext
  rcases List.mem_append.mp htext with hmem | hmem
  · exact .inl (hfront text hmem)
  · exact .inr ⟨pending, hcarries, (List.mem_singleton.mp hmem).symm⟩

/-- It is one of ADR Build. -/
theorem sent_adr {pending : PendingSettledBuildInvocation} {front : List String}
    (htexts : textsOf (extensionStepAt host s o) = front ++ [pending.invocation])
    (hfront : ∀ text ∈ front, Invocation host text) (hcarries : CarriesIdentity host pending)
    (hstage : pending.stage ≠ .contextBuild)
    (h : Replays host identity sent (extensionStep host o s).2.agenda) : StepReplays host identity sent s o := by
  refine sent_nothing (fun _ text htext => ?_) (fun _ => said_waiting htexts hfront hcarries) h
  rw [htexts] at htext
  rcases List.mem_append.mp htext with hmem | hmem
  · exact noContext_of_invocation (hfront text hmem)
  · rw [List.mem_singleton.mp hmem]
    exact noContext_of_stage hcarries hstage

/-- It is one of Context Build, whose attempt is live. -/
theorem sent_waiting {pending : PendingSettledBuildInvocation} {front : List String}
    (hcontinues : o.event.continues = false)
    (htexts : textsOf (extensionStepAt host s o) = front ++ [pending.invocation])
    (hfront : ∀ text ∈ front, Invocation host text) (hcarries : CarriesIdentity host pending)
    (hstage : pending.stage = .contextBuild)
    (hlive : buildAttempt? (extensionStep host o s).2.session .contextBuild = some pending.identity)
    (h : Replays host identity (sent + copiesIn identity (some pending)) (extensionStep host o s).2.agenda) :
    StepReplays host identity sent s o := by
  have hcount : contextsSent host identity (extensionStepAt host s o) = copiesIn identity (some pending) := by
    have hnot : ¬ (extensionStepAt host s o).input.event.continues = true := Bool.eq_false_iff.mp hcontinues
    rw [contextsSent, if_neg hnot, htexts]
    exact count_waiting identity (fun text hmem => noContext_of_invocation (hfront text hmem)) hcarries hstage
  refine ⟨?_, fun _ text htext live hinvokes => ?_, fun _ => said_waiting htexts hfront hcarries⟩
  · rwa [hcount]
  · rw [htexts] at htext
    rcases List.mem_append.mp htext with hmem | hmem
    · exact absurd hinvokes (noContext_of_invocation (hfront text hmem) live)
    · rw [List.mem_singleton.mp hmem] at hinvokes
      rw [← ((invokes_iff hcarries live).mp hinvokes).2]
      exact hlive

/-! ### The build timer -/

namespace Extension

/-- The timer may send what it held. -/
def TimerSends (host : Host) (s : ExtensionState) (pending : PendingSettledBuildInvocation) : Prop :=
  IsActiveWorkflow s pending.activeWorkflow ∧ AtStage s pending.stage.stage ∧
    buildAttempt? s.session pending.stage = some pending.identity ∧
    IsActiveTool host s pending.stage.tool ∧ host.sendUserMessage = true

instance (s : ExtensionState) (pending : PendingSettledBuildInvocation) : Decidable (TimerSends host s pending) :=
  inferInstanceAs (Decidable (_ ∧ _))

theorem buildTimer_apply {s t : ExtensionState} {pending : PendingSettledBuildInvocation}
    (hpending : s.pendingSettledBuildInvocationTimer = some pending)
    (ht : t = { s with pendingSettledBuildInvocationTimer := none }) :
    (TimerSends host t pending ∧ buildTimer host s =
        (rememberSentContextBuildInvocation pending >>= fun _ => sendSettled pending.invocation) t) ∨
      buildTimer host s = (.ok .done, t) := by
  have hrun : buildTimer host s =
      if TimerSends host t pending then
        (rememberSentContextBuildInvocation pending >>= fun _ => sendSettled pending.invocation) t
      else (.ok .done, t) := by
    simp only [buildTimer, get_bind_apply, hpending, modify_bind_apply, ite_apply_state, pure_apply, ← ht]
    rfl
  rw [hrun]
  split
  case isTrue h => exact .inl ⟨h, rfl⟩
  case isFalse => exact .inr rfl

/-- The message is noted as sent when it is of a Context Build. -/
theorem remember_apply {s : ExtensionState} {pending : PendingSettledBuildInvocation} :
    rememberSentContextBuildInvocation pending s =
      (.ok ⟨⟩, if pending.stage = .contextBuild then
        { s with
          replayedContextBuildIdentity := s.agenda.keptReplay pending
          lastSentContextBuildInvocation := some pending }
        else s) := by
  unfold rememberSentContextBuildInvocation
  by_cases hstage : pending.stage = .contextBuild
  · rw [if_pos hstage, if_neg (not_not.mpr hstage)]
    rfl
  · rw [if_neg hstage, if_pos hstage]
    rfl

end Extension

/-- A timer that sends nothing. -/
theorem silentTimer_replays (ho : o.event = .buildTimer) {t : ExtensionState}
    (hrun : handler host o.files o.event s.cleared = (.ok .done, t)) (heffects : t.effects = [])
    (ht : Replays host identity sent t.agenda) : StepReplays host identity sent s o := by
  have hstep := extensionStep_eq hrun
  refine sent_invocations (fun text htext => ?_) (by rw [hstep]; exact ht)
  simp [textsOf, extensionStepAt, stepAt, hstep, heffects, ho, Event.takesInput] at htext

/-- A timer that sends the armed message: one of a Context Build is counted, and no longer armed. -/
theorem sendingTimer_replays (ho : o.event = .buildTimer) (hs : Replays host identity sent s.agenda)
    {pending : PendingSettledBuildInvocation} {t : ExtensionState}
    (hpending : s.pendingSettledBuildInvocationTimer = some pending)
    (ht : t = { s.cleared with pendingSettledBuildInvocationTimer := none })
    (hdropped : Replays host identity sent t.agenda) (hsends : TimerSends host t pending)
    (hrun : handler host o.files o.event s.cleared =
      (rememberSentContextBuildInvocation pending >>= fun _ => sendSettled pending.invocation) t) :
    StepReplays host identity sent s o := by
  rw [bind_eq_ok remember_apply] at hrun
  have hcontinues : o.event.continues = false := by rw [ho]; rfl
  have hcarries := hs.carried pending (.inr (.inl hpending))
  have hfront : ∀ text ∈ ([] : List String), Invocation host text := fun _ hnone => absurd hnone List.not_mem_nil
  have htexts : ∀ u : ExtensionState, u.effects = [] →
      handler host o.files o.event s.cleared = sendSettled pending.invocation u →
      textsOf (extensionStepAt host s o) = [] ++ [pending.invocation] := by
    intro u hu hsettled
    have hstep := extensionStep_eq hsettled
    simp [textsOf, extensionStepAt, stepAt, hstep, ho, hu, Event.takesInput, Effect.sentText?]
  by_cases hstage : pending.stage = .contextBuild
  · rw [if_pos hstage] at hrun
    have hlive : s.agenda.contextBuild? = some pending.identity := by
      have hattempt := hsends.2.2.1
      rw [hstage, ht] at hattempt
      exact hattempt
    have hmoved : copiesIn identity s.pendingSettledBuildInvocation + copiesIn identity none +
        copiesIn identity (some pending) = s.cleared.agenda.waiting identity := by
      rw [copiesIn_none, ← hpending]
      rfl
    have hcarried : ∀ q, s.pendingSettledBuildInvocation = some q ∨ none = some q ∨ some pending = some q →
        CarriesIdentity host q := by
      rintro q (h | h | h)
      · exact hs.carried q (.inl h)
      · cases h
      · exact hs.carried q (.inr (.inl (hpending.trans h)))
    have hnoted := (sends_replays s.agenda [] hs).send hstage hlive hmoved hcarried hs.guarded
    have hstep := extensionStep_eq hrun
    refine sent_waiting hcontinues (htexts _ (by rw [ht]; rfl) hrun) hfront hcarries hstage ?_ ?_
    · rw [hstep, ht]
      exact hlive
    · rw [hstep]
      refine holds_sendAnySettled sends_replays pending.invocation _ ?_
      rw [ht]
      exact hnoted
  · rw [if_neg hstage] at hrun
    have hstep := extensionStep_eq hrun
    refine sent_adr (htexts t (by rw [ht]; rfl) hrun) hfront hcarries hstage ?_
    rw [hstep]
    exact holds_sendAnySettled sends_replays pending.invocation t hdropped

/-- **The build timer** sends what is armed, once. -/
theorem buildTimer_replays (ho : o.event = .buildTimer) (hs : Replays host identity sent s.agenda) :
    StepReplays host identity sent s o := by
  have hcleared : Replays host identity sent s.cleared.agenda := sends_replays s.agenda [] hs
  have hevent : handler host o.files o.event s.cleared = buildTimer host s.cleared := by rw [ho]; rfl
  cases hpending : s.pendingSettledBuildInvocationTimer with
  | none =>
      refine silentTimer_replays (t := s.cleared) ho ?_ rfl hcleared
      rw [hevent]
      simp only [buildTimer, get_bind_apply, show s.cleared.pendingSettledBuildInvocationTimer = none from hpending,
        pure_apply]
  | some pending =>
      obtain ⟨t, ht⟩ : ∃ t : ExtensionState, t = { s.cleared with pendingSettledBuildInvocationTimer := none } :=
        ⟨_, rfl⟩
      have hdropped : Replays host identity sent t.agenda := by
        rw [ht]
        have hfewer : copiesIn identity s.pendingSettledBuildInvocation + copiesIn identity none ≤
            s.cleared.agenda.waiting identity := Nat.add_le_add_left (Nat.zero_le _) _
        exact hcleared.drop hfewer (fun p hp => hs.carried p (.inl (hp.resolve_right fun hnone => by cases hnone)))
          hs.guarded
      rcases buildTimer_apply (s := s.cleared) hpending ht with ⟨hsends, hrun⟩ | hrun
      · exact sendingTimer_replays ho hs hpending ht hdropped hsends (hevent.trans hrun)
      · exact silentTimer_replays ho (hevent.trans hrun) (by rw [ht]; rfl) hdropped

/-! ### The inputs -/

namespace Extension

/-- **An input that answers a build question**: what was queued becomes of the input. -/
theorem answerInput_build (host : Host) (files : Files) (routingText : String) (ctx : CommandContext)
    {stage : BuildStage} {s : ExtensionState} (hstage : pendingBuildStage? s = some stage) :
    (∃ t, answerInput host files routingText ctx s = (.ok .handled, t) ∧ t.agenda = s.agenda) ∨
      ∃ answer r t, resumeBuildAnswer host files answer s = (r, t) ∧
        match r with
        | .error error => answerInput host files routingText ctx s = (.error error, t)
        | .ok _ => match t.pendingSettledBuildInvocation with
          | none => answerInput host files routingText ctx s =
              (.ok .handled, { t with pendingSettledBuildInvocation := none })
          | some pending => answerInput host files routingText ctx s =
              (.ok (.transform pending.invocation), (rememberSentContextBuildInvocation pending
                { t with pendingSettledBuildInvocation := none }).2) := by
  cases hboundary : canEnforceToolBoundary host with
  | false =>
      refine .inl ?_
      simp only [answerInput, requireGrillToolBoundary, hboundary]
      exact ⟨_, rfl, untouched_requireBoundary false _ s⟩
  | true =>
      refine .inr ⟨inputAnswer host s.session.uiState.waitUser routingText, ?_⟩
      have hboundary : requireGrillToolBoundary host s = (.ok true, s) := by
        simp only [requireGrillToolBoundary, hboundary]
        rfl
      unfold answerInput
      rw [bind_eq_ok hboundary]
      simp only [Bool.not_true, Bool.false_eq_true, if_false, get_bind_apply]
      rcases hrun : resumeBuildAnswer host files (inputAnswer host s.session.uiState.waitUser routingText) s
        with ⟨error | handled, t⟩
      · refine ⟨_, _, rfl, ?_⟩
        rw [bind_eq_error hrun]
      · refine ⟨_, _, rfl, ?_⟩
        obtain rfl := resumeBuildAnswer_handles hstage hrun
        rw [bind_eq_ok hrun]
        dsimp only
        cases hpending : t.pendingSettledBuildInvocation with
        | none =>
            simp only [if_true, get_bind_apply, hpending, modify_bind_apply]
            rfl
        | some pending =>
            simp only [if_true, get_bind_apply, hpending, modify_bind_apply]
            rw [bind_eq_ok remember_apply]
            rw [remember_apply]
            rfl

end Extension

/-- Any other answer that is typed. -/
theorem Extension.answerInput_other (host : Host) (files : Files) (routingText : String) (ctx : CommandContext)
    {s : ExtensionState} (hnone : pendingBuildStage? s = none) :
    (∃ t, answerInput host files routingText ctx s = (.ok .handled, t) ∧ t.agenda = s.agenda) ∨
      ∃ asksDeep answer, answerInput host files routingText ctx s = answerRest host files asksDeep answer ctx s := by
  have hrun : ∀ answer, resumeBuildAnswer host files answer s = (.ok false, s) := fun answer => by
    simp only [resumeBuildAnswer, get_bind_apply, hnone, pure_apply]
  cases hboundary : canEnforceToolBoundary host with
  | false =>
      refine .inl ?_
      simp only [answerInput, requireGrillToolBoundary, hboundary]
      exact ⟨_, rfl, untouched_requireBoundary false _ s⟩
  | true =>
      have hboundary : requireGrillToolBoundary host s = (.ok true, s) := by
        simp only [requireGrillToolBoundary, hboundary]
        rfl
      refine .inr ⟨(pendingDeepQuestion? s).isSome, inputAnswer host s.session.uiState.waitUser routingText, ?_⟩
      unfold answerInput
      rw [bind_eq_ok hboundary]
      simp only [Bool.not_true, Bool.false_eq_true, if_false, get_bind_apply]
      rw [bind_eq_ok (hrun _)]
      simp only [Bool.false_eq_true, if_false]
      rfl

section Inputs

variable {rawText : String} {ctx : CommandContext}

/-- The texts of an input: what is sent, and what the input becomes. -/
theorem textsOf_input (ho : o.event = .input rawText ctx) {r : Except String Reply} {t : ExtensionState}
    (hrun : handler host o.files o.event s.cleared = (r, t)) :
    textsOf (extensionStepAt host s o) =
      (extensionStep host o s).1.effects.filterMap Effect.sentText? ++ (r.toOption.bind Reply.transformed?).toList := by
  simp [textsOf, extensionStepAt, stepAt, ho, Event.takesInput, StepOutput.transformed?, extensionStep_eq hrun]

/-- What an input sends. -/
theorem input_sends (ho : o.event = .input rawText ctx) (hkept : KeepsInvocations host s.agenda) :
    ∀ text ∈ (extensionStep host o s).1.effects.filterMap Effect.sentText?, Invocation host text :=
  step_sends hkept (by rw [ho]; nofun) (by rw [ho]; rfl) (by rw [ho]; rfl)

/-- An input that becomes a text of a Grill round or of a Deep step, or none. -/
theorem input_words (ho : o.event = .input rawText ctx) (hkept : KeepsInvocations host s.agenda)
    {r : Except String Reply} {t : ExtensionState} (hrun : handler host o.files o.event s.cleared = (r, t))
    (hreply : InvocationIfAny host (r.toOption.bind Reply.transformed?)) (ht : Replays host identity sent t.agenda) :
    StepReplays host identity sent s o := by
  have hstep := extensionStep_eq hrun
  refine sent_invocations (texts_of_reply (input_sends ho hkept) fun _ => ?_) ?_
  · rw [hstep]
    exact hreply
  · rw [hstep]
    exact ht

/-- **An input that answers a question of Context Build** sends what was issued for the answer. -/
theorem answerInput_replays {stage : BuildStage} {routingText : String} (ho : o.event = .input rawText ctx)
    (hkept : KeepsInvocations host s.agenda) (hstage : pendingBuildStage? s = some stage)
    (hhandler : handler host o.files o.event s.cleared = answerInput host o.files routingText ctx s.cleared)
    (hs : Replays host identity sent s.agenda) : StepReplays host identity sent s o := by
  have hcontinues : o.event.continues = false := by rw [ho]; rfl
  have hcleared : Replays host identity sent s.cleared.agenda := sends_replays s.agenda [] hs
  have hasked : pendingBuildStage? s.cleared = some stage := hstage
  rcases answerInput_build host o.files routingText ctx hasked with ⟨t, hrun, hsame⟩ | ⟨answer, r, t, hresume, hrun⟩
  · exact input_words ho hkept (hhandler.trans hrun) invocationIfAny_none (hsame ▸ hcleared)
  · have hqueues : QueuesLive host identity sent stage (resumeBuildAnswer host o.files answer s.cleared).2.agenda :=
      resumeBuildAnswer_queues hasked hcleared
    rw [hresume] at hqueues
    obtain ⟨ht, hlive⟩ := hqueues
    cases r with
    | error error => exact input_words ho hkept (hhandler.trans hrun) invocationIfAny_none ht
    | ok handled =>
        dsimp only at hrun
        have hdropped := ht.dropPending
        cases hpending : t.pendingSettledBuildInvocation with
        | none =>
            rw [hpending] at hrun
            exact input_words ho hkept (hhandler.trans hrun) invocationIfAny_none hdropped
        | some pending =>
            rw [hpending] at hrun
            dsimp only at hrun
            rw [remember_apply] at hrun
            have hcarries := ht.carried pending (.inl hpending)
            obtain ⟨hkind, hcurrent⟩ := hlive pending hpending
            have htexts := textsOf_input ho (hhandler.trans hrun)
            have hstep := extensionStep_eq (hhandler.trans hrun)
            by_cases hcontext : stage = .contextBuild
            · subst hcontext
              rw [if_pos hkind] at hstep
              have hmoved : copiesIn identity none + copiesIn identity t.pendingSettledBuildInvocationTimer +
                  copiesIn identity (some pending) = t.agenda.waiting identity := by
                rw [copiesIn_none, Nat.zero_add, Nat.add_comm, ← hpending]
                rfl
              have hsent := ht.send hkind (hcurrent rfl) hmoved
                (by
                  rintro q (h | h | h)
                  · cases h
                  · exact ht.carried q (.inr (.inl h))
                  · exact ht.carried q (.inl (hpending.trans h))) fun _ => rfl
              refine sent_waiting hcontinues htexts (input_sends ho hkept) hcarries hkind ?_ ?_
              · rw [hstep]
                exact hcurrent rfl
              · rw [hstep]
                exact hsent
            · rw [if_neg (hkind ▸ hcontext)] at hstep
              refine sent_adr htexts (input_sends ho hkept) hcarries (hkind ▸ hcontext) ?_
              rw [hstep]
              exact hdropped

/-- **An input** keeps what the variables allow. -/
theorem input_replays (ho : o.event = .input rawText ctx) (hkept : KeepsInvocations host s.agenda)
    (hs : Replays host identity sent s.agenda) : StepReplays host identity sent s o := by
  have hI := steady_replays host identity sent
  have hask : Asks (Replays host identity sent) := asks_replays
  have hcleared : Replays host identity sent s.cleared.agenda := sends_replays s.agenda [] hs
  have hevent : handler host o.files o.event s.cleared = input host o.files rawText ctx s.cleared := by rw [ho]; rfl
  -- an input that is handled by a function whose texts are known
  have hsaid : ∀ m : Ext Reply, input host o.files rawText ctx s.cleared = m s.cleared →
      Returns (fun reply => InvocationIfAny host reply.transformed?) m → Holds (Replays host identity sent) m →
      StepReplays host identity sent s o := by
    intro m hrun hreturns hholds
    have hafter := hholds s.cleared hcleared
    rcases hm : m s.cleared with ⟨error | reply, t⟩
    · rw [hm] at hafter
      exact input_words ho hkept (hevent.trans (hrun.trans hm)) invocationIfAny_none hafter
    · rw [hm] at hafter
      exact input_words ho hkept (hevent.trans (hrun.trans hm)) (hreturns s.cleared reply t hm) hafter
  by_cases hreplay : s.cleared.pendingReplayInvocation = some (trim rawText)
  · refine hsaid (replayInput host) ?_ returns_replayInput (holds_replayInput hI)
    simp only [input, get_bind_apply, if_pos hreplay, ite_apply_state]
  by_cases hslash : startsWith (trim rawText) "/" = true ∧ isGrillRun (trim rawText) = false
  · refine hsaid (pure .continue_) ?_ (returns_pure invocationIfAny_none) (keeps_pure _)
    simp only [input, get_bind_apply, if_neg hreplay, if_pos hslash, ite_apply_state]
  cases hrequest : s.cleared.pendingKnowledgeRequest with
  | some request =>
      refine hsaid (answerKnowledgeRequest host o.files request (trim rawText)) ?_
        (returns_answerKnowledgeRequest _ _) (holds_answerKnowledgeRequest hI _ _)
      simp only [input, get_bind_apply, if_neg hreplay, if_neg hslash, ite_apply_state, hrequest]
  | none =>
      by_cases hstage : AtStage s.cleared .waitUser
      · have hrun : input host o.files rawText ctx s.cleared =
            answerInput host o.files (trim rawText) ctx s.cleared := by
          simp only [input, get_bind_apply, if_neg hreplay, if_neg hslash, ite_apply_state, hrequest, if_pos hstage]
        cases hbuild : pendingBuildStage? s with
        | some stage => exact answerInput_replays ho hkept hbuild (hevent.trans hrun) hs
        | none =>
            rcases answerInput_other host o.files (trim rawText) ctx (s := s.cleared) hbuild
              with ⟨t, hanswer, hsame⟩ | ⟨asksDeep, answer, hanswer⟩
            · exact input_words ho hkept (hevent.trans (hrun.trans hanswer)) invocationIfAny_none (hsame ▸ hcleared)
            · exact hsaid _ (hrun.trans hanswer) (returns_answerRest _ _ _) (holds_answerRest hI hask clears_replays _ _ _)
      · refine hsaid (requestInput host o.files rawText (trim rawText) ctx) ?_ (returns_requestInput _ _ _)
          (holds_requestInput hI hask _ _ _)
        simp only [input, get_bind_apply, if_neg hreplay, if_neg hslash, ite_apply_state, hrequest, if_neg hstage]

end Inputs

/-! ### The command `continue` -/

/-- What is sent is of a Grill round, of a Deep step or of a build stage. -/
def SaysAll (host : Host) (a : Agenda) : Prop := KeepsInvocations host a ∧ ∀ text ∈ a.sentTexts, Said host text

theorem steady_saysAll (host : Host) : Steady host (SaysAll host) where
  call _ _ _ ha := ha
  grillRun _ _ ha := ha
  texts a kept sent hnew ha := by
    have hall : ∀ text ∈ kept ++ sent, Invocation host text := fun text htext => (hnew text htext).elim (ha.1 text) id
    refine ⟨fun text htext => hall text (List.mem_append_left _ htext), fun text htext => ?_⟩
    rcases List.mem_append.mp htext with hsent | hsent
    · exact ha.2 text hsent
    · exact .inl (hall text (List.mem_append_right _ hsent))

/-- And the variables allow it. -/
def SaysReplayed (host : Host) (identity : BuildIdentity) (sent : Nat) (a : Agenda) : Prop :=
  Replays host identity sent a ∧ SaysAll host a

/-- The invocation that is sent again was made for its attempt. -/
theorem holds_continueContextBuild_words :
    Holds (SaysReplayed host identity sent) (continueContextBuild host) := by
  refine keeps_ite untouched_publishCurrent.holds ?_
  refine holds_untouched_bind (untouched_requireBoundary _ _) fun enforceable => ?_
  refine keeps_ite untouched_publishCurrent.holds fun s hs => ?_
  simp only [get_bind_apply]
  cases hreplay : replayableContextBuild? s with
  | none => exact untouched_publishCurrent.holds s hs
  | some lastSent =>
      have hlast : s.lastSentContextBuildInvocation = some lastSent := by
        unfold replayableContextBuild? at hreplay
        split at hreplay
        case h_1 last attempt hlast hattempt =>
          dsimp only at hreplay
          split at hreplay
          · rw [hlast, ← Option.some.inj hreplay]
          · cases hreplay
        case h_2 => cases hreplay
      have hcarries := hs.1.carried lastSent (.inr (.inr hlast))
      have hsend : Holds (SaysReplayed host identity sent) (replay lastSent.invocation) := by
        refine holds_modify_bind (fun _ => rfl) fun u hu => ?_
        show SaysReplayed host identity sent (sendUserMessage lastSent.invocation u).2.agenda
        rw [sendUserMessage_agenda]
        refine ⟨sends_replays _ _ hu.1, hu.2.1, fun text htext => ?_⟩
        rcases List.mem_append.mp htext with hsent | hsent
        · exact hu.2.2 text hsent
        · exact .inr ⟨lastSent, hcarries, (List.mem_singleton.mp hsent).symm⟩
      have hrest : Holds (SaysReplayed host identity sent) (do
          activateContextBuildTools host
          replay lastSent.invocation
          publishCurrent) :=
        holds_untouched_bind untouched_activateContextBuildTools fun _ =>
          keeps_bind hsend fun _ => untouched_publishCurrent.holds
      exact hrest s hs

/-- **The command `continue`** sends nothing by itself, and nothing else than the other steps. -/
theorem continue_replays (ho : o.event.continues = true) (hkept : KeepsInvocations host s.agenda)
    (hs : Replays host identity sent s.agenda) : StepReplays host identity sent s o := by
  have hI : Steady host (SaysReplayed host identity sent) :=
    (steady_replays host identity sent).and (steady_saysAll host)
  have hask : Asks (SaysAll host) := fun _ _ _ ha => ha
  have hclear : Clears (SaysAll host) := fun _ ha => ⟨fun _ hnone => absurd hnone List.not_mem_nil, ha.2⟩
  have hkeeps : Holds (SaysReplayed host identity sent) (handler host o.files o.event) := by
    refine holds_handler_of hI (fun a lease suspended ha => ⟨asks_replays a _ _ ha.1, hask a _ _ ha.2⟩)
      (fun a ha => ⟨clears_replays a ha.1, hclear a ha.2⟩)
      (keepsBuilds_replays.and (keepsBuilds_of_builds (steady_saysAll host) hask fun _ _ _ _ _ ha => ha)) ?_ ?_ ?_
      fun _ => holds_continueContextBuild_words
    · cases he : o.event <;> rw [he] at ho <;> first | rfl | cases ho
    · intro he
      rw [he] at ho
      cases ho
    · intro rawText ctx he
      rw [he] at ho
      cases ho
  have hafter := hkeeps s.cleared ⟨sends_replays s.agenda [] hs, hkept, fun _ hnone => absurd hnone List.not_mem_nil⟩
  refine sent_nothing (fun hnot => ?_) (fun _ text htext => ?_) hafter.1
  · rw [ho] at hnot
    cases hnot
  · have htakes : (extensionStepAt host s o).input.event.takesInput = false := by
      cases he : o.event <;> rw [he] at ho <;> first | (simp [extensionStepAt, stepAt, he, Event.takesInput]; done) | cases ho
    rw [textsOf, htakes, if_neg Bool.false_ne_true, List.append_nil] at htext
    exact hafter.2.2 text htext

/-! ### Steps and runs -/

/-- **Every step keeps what the variables allow**, counting what it sends. -/
theorem step_replays (hkept : KeepsInvocations host s.agenda) (hs : Replays host identity sent s.agenda) :
    StepReplays host identity sent s o := by
  have hI := steady_replays host identity sent
  have hcleared : Replays host identity sent s.cleared.agenda := sends_replays s.agenda [] hs
  cases hcontinues : o.event.continues with
  | true => exact continue_replays hcontinues hkept hs
  | false =>
      cases hresult : o.event.endsToolResult with
      | true =>
          refine sent_nothing (fun _ text htext => noContext_of_batch (result_words hresult text htext)) (fun hnot => ?_) ?_
          · rw [hresult] at hnot
            cases hnot
          · refine step_holds_of (o := o) ?_ hcleared
            cases he : o.event with
            | messageEnd message => exact holds_messageEnd hI asks_replays clears_replays batches_replays sends_replays message
            | _ => rw [he] at hresult; cases hresult
      | false =>
          by_cases htimer : o.event = .buildTimer
          · exact buildTimer_replays htimer hs
          by_cases hinput : ∃ rawText ctx, o.event = .input rawText ctx
          · obtain ⟨rawText, ctx, he⟩ := hinput
            exact input_replays he hkept hs
          push Not at hinput
          refine sent_invocations (step_speaks hkept htimer hcontinues hresult hinput) (step_holds_of (o := o) ?_ hcleared)
          cases hends : o.event.endsMessage with
          | true =>
              cases he : o.event with
              | messageEnd message => exact holds_messageEnd hI asks_replays clears_replays batches_replays sends_replays message
              | _ => rw [he] at hends; cases hends
          | false =>
              refine holds_handler_of hI asks_replays clears_replays keepsBuilds_replays hends (fun h => absurd h htimer)
                (fun rawText ctx h => absurd h (hinput rawText ctx)) fun h => ?_
              rw [hcontinues] at h
              cases h

end Steps

theorem loaded_replays (host : Host) (identity : BuildIdentity) (tools : List String) :
    Replays host identity 0 (loadedExtension tools).agenda := by
  refine ⟨Nat.zero_le 2, fun _ => rfl, fun h => (by cases h), fun h => (by cases h), ?_, fun _ => rfl, init_contextIssued⟩
  rintro pending (h | h | h)
  · cases h
  · cases h
  · cases h

/-! ### Stale completions -/

namespace Extension

/-- The result that is returned is not stale. -/
def NotStale (reply : Reply) : Prop := reply.result?.bind (·.details.status) ≠ some .stale

theorem notStale_askBuildQuestion {P : ExtensionState → Prop} {ctx : CommandContext} {state : ForgeUiState}
    {result : ToolResult} (hresult : result.details.status ≠ some .stale) :
    Turn.Leads P (askBuildQuestion host ctx state result) (fun reply _ => NotStale reply) fun _ => True := by
  refine leads_bind leads_anywhere fun _ => ?_
  cases state.waitUser with
  | none => exact leads_bind leads_anywhere fun _ => leads_pure fun _ _ => hresult
  | some waitUser =>
      refine leads_bind leads_anywhere fun opened => leads_pure fun _ _ => ?_
      cases opened with
      | false => exact hresult
      | true => exact hresult

theorem notStale_handOffToAdrBuild {P : ExtensionState → Prop} {state : ForgeUiState} :
    Turn.Leads P (handOffToAdrBuild host files state) (fun reply _ => NotStale reply) fun _ => True := by
  have hstop : ∀ {Q : ExtensionState → Prop} {text reason : String} {error : Option String},
      Turn.Leads Q (stopAdrBuild host state (adrBuildStopped text reason error)) (fun reply _ => NotStale reply)
        fun _ => True :=
    leads_bind leads_anywhere fun _ => leads_bind leads_anywhere fun _ => leads_pure fun _ _ h => nomatch h
  refine leads_get_bind fun s _ => ?_
  split
  · refine leads_bind leads_anywhere fun result => ?_
    cases result with
    | error error => exact hstop
    | ok invocation =>
        refine leads_bind leads_anywhere fun _ => leads_bind leads_anywhere fun _ => ?_
        exact leads_bind leads_anywhere fun _ => leads_pure fun _ _ h => nomatch h
  · exact hstop

/-- A stale result comes from a call of the session that wrote nothing. -/
theorem forgeContextComplete_stale {attemptId sourceRoundId : String} {outcome : ContextBuildCompletion}
    {ctx : CommandContext} {s t : ExtensionState} {reply : Reply}
    (h : forgeContextComplete host files attemptId sourceRoundId outcome ctx s = (.ok reply, t))
    (hstale : ¬ NotStale reply) : t.session = s.session := by
  have hleads : Turn.Leads (· = s) (forgeContextComplete host files attemptId sourceRoundId outcome ctx)
      (fun reply t => NotStale reply ∨ t.session = s.session) fun _ => True := by
    have hboundary : Turn.Leads (· = s) (requireBuildToolBoundary host) (fun _ u => u.session = s.session)
        fun _ => True := by
      rintro u rfl
      have hsame := congrArg Agenda.session (untouched_requireBoundary
        (canEnforceToolBoundary host && host.sendUserMessage) "Forge 無法安全限制 Context/ADR 工具面，已拒絕繼續。" u)
      refine ⟨fun a v hrun => ?_, fun _ _ _ => trivial⟩
      rw [show requireBoundary _ _ u = (.ok a, v) from hrun] at hsame
      exact hsame
    have hcall : Turn.Leads (fun u : ExtensionState => u.session = s.session)
        (sessionState.completeContextBuild ⟨attemptId, sourceRoundId⟩ outcome)
        (fun result u => result.refuses = true → u.session = s.session) fun _ => True := by
      intro u hu
      refine ⟨fun result v hrun hrefuses => ?_, fun _ _ _ => trivial⟩
      exact (completeContextBuild_quiet _ _ _ _ _ (call_run hrun) hrefuses).trans hu
    refine leads_bind hboundary fun enforceable => leads_ite (fun _ => ?_) fun _ => ?_
    · exact leads_pure fun _ _ => .inl nofun
    · refine leads_bind hcall fun result => ?_
      cases result with
      | stale expected received =>
          refine leads_modify_bind (M := fun u => u.session = s.session) (fun u hu => ?_) (leads_pure fun _ hu => .inr hu)
          split
          · dsimp only
            split
            · exact hu rfl
            · exact hu rfl
          · exact hu rfl
      | invalid state errors => exact leads_pure fun _ _ => .inl nofun
      | ambiguous state accepted =>
          refine leads_bind leads_anywhere fun _ => ?_
          exact leads_mono (notStale_askBuildQuestion nofun) (fun _ hu => hu) fun _ _ hnot => .inl hnot
      | accepted state accepted =>
          refine leads_bind leads_anywhere fun _ => ?_
          exact leads_mono notStale_handOffToAdrBuild (fun _ hu => hu) fun _ _ hnot => .inl hnot
  exact ((hleads s rfl).1 reply t h).resolve_left hstale

end Extension

/-- How often a Context Build is sent automatically in these steps. -/
noncomputable def contextsSentIn (host : Host) (identity : BuildIdentity) (steps : List ExtensionStepRecord) : Nat :=
  (steps.map (contextsSent host identity)).sum

/-- What is known after these steps. -/
def CountsReplays (host : Host) (identity : BuildIdentity) (s : ExtensionState) (steps : List ExtensionStepRecord) :
    Prop :=
  KeepsInvocations host s.agenda ∧ Replays host identity (contextsSentIn host identity steps) s.agenda

/-- The count of a run, with one more step. -/
theorem counted_replays {identity : BuildIdentity} {steps : List ExtensionStepRecord} {s : ExtensionState}
    {o : Occurrence} (hs : CountsReplays host identity s steps) :
    CountsReplays host identity (extensionStep host o s).2 (steps ++ [extensionStepAt host s o]) := by
  have hstep := (step_replays (o := o) hs.1 hs.2).replays
  refine ⟨step_kept hs.1, ?_⟩
  rwa [contextsSentIn, List.map_append, List.sum_append, List.map_singleton, List.sum_singleton]

theorem loaded_counts (host : Host) (identity : BuildIdentity) (tools : List String) :
    CountsReplays host identity (loadedExtension tools) [] :=
  ⟨fun _ hnone => absurd hnone List.not_mem_nil, loaded_replays host identity tools⟩

/-- **The replay of a Context Build is bounded.**  In every run of the extension: the texts that leave the extension
by itself invoke one Context Build at most twice, the first time and one more; what invokes a Context Build is of the
attempt that is live then; and a completion that is answered as stale leaves the session as it was. -/
theorem context_build_sent_twice_at_most (host : Host) (tools : List String) (os : List Occurrence) :
    (∀ identity, contextsSentIn host identity (extensionRun host tools os) ≤ 2) ∧
    (∀ st ∈ extensionRun host tools os, SendsLive host st) ∧
    ∀ st ∈ extensionRun host tools os, ∀ attemptId sourceRoundId outcome ctx,
      st.input.event = .contextComplete attemptId sourceRoundId outcome ctx →
      st.output.status? = some .stale → st.after.session = st.before.session := by
  have hfree : Admissible (extensionStep host) (fun _ _ => True) (loadedExtension tools) os :=
    admissible_of_forall (fun _ _ => trivial) _ _
  refine ⟨fun identity => ?_, fun st hst => ?_, ?_⟩
  · exact (steps_at_finish (fun _ _ _ hs _ => counted_replays hs) (loaded_counts host identity tools) hfree).2.bound
  · obtain ⟨pre, post, hsplit⟩ := List.append_of_mem hst
    have hbefore := steps_before (fun _ _ _ hs _ => counted_replays hs) (loaded_counts host ⟨"", ""⟩ tools) hfree hsplit
    rw [(trace_split hsplit).1]
    exact (step_replays hbefore.1 hbefore.2).live
  · rintro st hst attemptId sourceRoundId outcome ctx he hstale
    obtain ⟨pre, post, hsplit⟩ := List.append_of_mem hst
    rw [(trace_split hsplit).1] at hstale ⊢
    have hhandler : handler host st.input.files st.input.event st.before.cleared =
        forgeContextComplete host st.input.files attemptId sourceRoundId outcome ctx st.before.cleared := by
      rw [he]
      rfl
    rcases hrun : forgeContextComplete host st.input.files attemptId sourceRoundId outcome ctx st.before.cleared
      with ⟨error | reply, t⟩
    · have hstep := extensionStep_eq (hhandler.trans hrun)
      simp only [stepAt, hstep, StepOutput.status?] at hstale
      cases hstale
    · have hstep := extensionStep_eq (hhandler.trans hrun)
      simp only [stepAt, hstep, StepOutput.status?] at hstale ⊢
      exact forgeContextComplete_stale (s := st.before.cleared) hrun fun hnot => hnot hstale

/-- A text that invokes the Context Build, wherever it leaves the extension by itself. -/
theorem countP_le_contextsSentIn {identity : BuildIdentity} {text : String} (h : Invokes host identity text)
    (steps : List ExtensionStepRecord) :
    (steps.countP fun st => !st.input.event.continues && decide (text ∈ textsOf st)) ≤
      contextsSentIn host identity steps := by
  induction steps with
  | nil => exact Nat.le_refl 0
  | cons st steps ih =>
      have hfirst : (if (!st.input.event.continues && decide (text ∈ textsOf st)) = true then 1 else 0) ≤
          contextsSent host identity st := by
        split
        case isFalse => exact Nat.zero_le _
        case isTrue hsends =>
          rw [Bool.and_eq_true, Bool.not_eq_true', decide_eq_true_eq] at hsends
          rw [contextsSent, if_neg (Bool.eq_false_iff.mp hsends.1)]
          exact List.countP_pos_iff.mpr ⟨text, hsends.2, by simpa using h⟩
      show _ ≤ contextsSent host identity st + contextsSentIn host identity steps
      rw [List.countP_cons]
      omega

/-- A completion of another attempt, after which the agent settles and the timer fires. -/
def staleContextBuild : List Event :=
  [.contextComplete "context-0" "grill-1" (.completed (glossaryCiting [])) sampleCtx, .agentSettled, .buildTimer]

/-- A Context Build that is sent, and is answered twice by a stale completion. -/
def retriedContextBuild : List Event :=
  runToRetrieval ++ acceptRetrieval ::
    ((buildCandidates "deep-1" [sampleCandidateId]).take 3 ++ staleContextBuild ++ staleContextBuild)

/-- What its invocation is made from. -/
def sampleRequest? : Option BuildSkillInvocationRequest :=
  (sampleAfter retriedContextBuild).session.knowledgeUnderstandingPackage.map fun package =>
    ⟨.contextBuild, ⟨"context-1", "grill-1"⟩, package, none, []⟩

theorem context_build_sent_twice_sample :
    contextsSentIn sampleHost ⟨"context-1", "grill-1"⟩
      (extensionRun sampleHost sampleTools (withFiles sampleFiles retriedContextBuild)) = 2 := by
  have hmost := (context_build_sent_twice_at_most sampleHost sampleTools (withFiles sampleFiles retriedContextBuild)).1
    ⟨"context-1", "grill-1"⟩
  have htwice : ((extensionRun sampleHost sampleTools (withFiles sampleFiles retriedContextBuild)).countP fun st =>
      !st.input.event.continues && decide (∃ request ∈ sampleRequest?,
        buildContextBuildSkillInvocation sampleHost.skillsDir "skill" request ∈ textsOf st)) = 2 := by
    decide +kernel
  cases hrequest : sampleRequest? with
  | none => simp [hrequest] at htwice
  | some request =>
      obtain ⟨package, -, hmade⟩ := Option.map_eq_some_iff.mp hrequest
      have hinvokes : Invokes sampleHost ⟨"context-1", "grill-1"⟩
          (buildContextBuildSkillInvocation sampleHost.skillsDir "skill" request) :=
        ⟨"skill", request, by rw [← hmade], by rw [← hmade], rfl⟩
      have hleast := countP_le_contextsSentIn hinvokes
        (extensionRun sampleHost sampleTools (withFiles sampleFiles retriedContextBuild))
      simp only [hrequest, Option.mem_def, Option.some.injEq, exists_eq_left'] at htwice
      omega

end ForgeRuntime
