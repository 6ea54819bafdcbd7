import ForgeRuntime.Evidence.PackageRules
import ForgeRuntime.Runtime.AnswerableDecisions

/-!
# Traceability of what is built

What stands at a build stage rests on the stored package: Context Build has a package that the validator
accepts, ADR Build has a glossary that cites this package, and `TO_SPEC` has ADR records that cite it.
The chain is kept through the questions in between, so the invariant also speaks of a pending ambiguity.

* `ChainInv` — the invariant, over stages and pending ambiguities;
* `traceable_of_calls` — the chain holds in every state that the calls of the extension reach.
-/

namespace ForgeRuntime

open EventDriven EventDriven.Text EventDriven.Machine Session

variable {digest : String → String}

/-- The stages before a package exists. -/
def EarlyStage (s : SessionState) : Prop :=
  s.orchestrator = none ∨ s.orchestrator = some .receive ∨ s.orchestrator = some .intentUnderstanding ∨
    s.orchestrator = some .lightDiscovery ∨ s.orchestrator = some .grill

instance (s : SessionState) : Decidable (EarlyStage s) := inferInstanceAs (Decidable (_ ∨ _))

/-- A round is started in an early stage only, and only Grill questions go through `requireWaitUser`. -/
def StartsRoundEarly (s : SessionState) (op : SessionOp) : Prop :=
  AsksGrillKinds op ∧ ∀ request snapshot, op = .startGrillRound request snapshot → EarlyStage s

/-- Every evidence ID of the glossary is the ID of an evidence of the package. -/
def GlossaryCites (candidate : ContextCandidate) (package : EvidencePackage) : Prop :=
  ∀ entry ∈ candidate.glossary, ∀ id ∈ entry.evidenceIds, id ∈ package.knownIds

/-- Every citation of the records is the ID of an evidence of the package. -/
def RecordsCite (candidate : AdrBuildCandidate) (package : EvidencePackage) : Prop :=
  ∀ record ∈ candidate.records, ∀ id ∈ record.citations, id ∈ package.knownIds

/-- **The chain.**  What each build stage has behind it. -/
structure Traceable (s : SessionState) : Prop where
  package : s.orchestrator = some .contextBuild ∨ s.orchestrator = some .adrBuild ∨
      s.orchestrator = some .toSpec →
    ∃ package, s.knowledgeUnderstandingPackage = some package ∧
      validateEvidencePackage package = .ok ()
  context : s.orchestrator = some .adrBuild ∨ s.orchestrator = some .toSpec →
    ∃ package candidate, s.knowledgeUnderstandingPackage = some package ∧
      s.contextCandidate = some candidate ∧ GlossaryCites candidate package
  records : s.orchestrator = some .toSpec →
    ∃ package candidate, s.knowledgeUnderstandingPackage = some package ∧
      s.adrBuildCandidate = some candidate ∧ RecordsCite candidate package

/-! ### The invariant -/

/-- A question of the kind is pending. -/
def PendingKind (s : SessionState) (kind : WaitUserKind) : Prop :=
  ∃ D, s.uiState.waitUser = some D ∧ D.kind = kind

/-- The work stands at a build stage, or at a question asked from one. -/
def NeedsPackage (s : SessionState) : Prop :=
  s.orchestrator = some .contextBuild ∨ s.orchestrator = some .adrBuild ∨
    s.orchestrator = some .toSpec ∨ PendingKind s .contextAmbiguity ∨ PendingKind s .adrAmbiguity

/-- The work stands at ADR Build or later, or at a question asked from there. -/
def NeedsContext (s : SessionState) : Prop :=
  s.orchestrator = some .adrBuild ∨ s.orchestrator = some .toSpec ∨ PendingKind s .adrAmbiguity

theorem NeedsContext.needsPackage {s : SessionState} (h : NeedsContext s) : NeedsPackage s := by
  rcases h with h | h | h
  · exact Or.inr (Or.inl h)
  · exact Or.inr (Or.inr (Or.inl h))
  · exact Or.inr (Or.inr (Or.inr (Or.inr h)))

/-- **The invariant of the chain.** -/
structure ChainInv (s : SessionState) : Prop where
  package : NeedsPackage s → ∃ package, s.knowledgeUnderstandingPackage = some package ∧
    validateEvidencePackage package = .ok ()
  context : NeedsContext s → ∃ candidate, s.contextCandidate = some candidate ∧
    ∀ package ∈ s.knowledgeUnderstandingPackage, GlossaryCites candidate package
  records : NeedsContext s → ∀ candidate ∈ s.adrBuildCandidate,
    ∀ package ∈ s.knowledgeUnderstandingPackage, RecordsCite candidate package
  final : s.orchestrator = some .toSpec → s.adrBuildCandidate ≠ none

/-- Away from the build stages the chain asks for nothing. -/
theorem ChainInv.of_free {s : SessionState} (h : ¬ NeedsPackage s) : ChainInv s where
  package hneeds := absurd hneeds h
  context hneeds := absurd hneeds.needsPackage h
  records hneeds := absurd hneeds.needsPackage h
  final hstage := absurd (Or.inr (Or.inr (Or.inl hstage))) h

theorem ChainInv.frame {s t : SessionState} (hs : ChainInv s)
    (hpackage : t.knowledgeUnderstandingPackage = s.knowledgeUnderstandingPackage)
    (hcontext : t.contextCandidate = s.contextCandidate)
    (hrecords : t.adrBuildCandidate = s.adrBuildCandidate)
    (hneedsPackage : NeedsPackage t → NeedsPackage s) (hneedsContext : NeedsContext t → NeedsContext s)
    (hfinal : t.orchestrator = some .toSpec → s.orchestrator = some .toSpec) : ChainInv t where
  package hneeds := hpackage ▸ hs.package (hneedsPackage hneeds)
  context hneeds := hpackage ▸ hcontext ▸ hs.context (hneedsContext hneeds)
  records hneeds := hpackage ▸ hrecords ▸ hs.records (hneedsContext hneeds)
  final hstage := hrecords ▸ hs.final (hfinal hstage)

/-- A state that needs no package by its stage, and where nothing is pending. -/
theorem not_needsPackage {s : SessionState} (hpending : s.uiState.waitUser = none)
    (hstage : s.orchestrator ≠ some .contextBuild ∧ s.orchestrator ≠ some .adrBuild ∧
      s.orchestrator ≠ some .toSpec) : ¬ NeedsPackage s := by
  simp [NeedsPackage, PendingKind, hpending, hstage]

/-- A package that the validator accepts names its evidence in `evidenceIds`. -/
theorem knownIds_of_valid {package : EvidencePackage} (h : validateEvidencePackage package = .ok ()) :
    package.evidenceIds = package.knownIds :=
  ((validateEvidencePackage_eq_ok_iff package).mp h).1.evidenceIds

theorem continues_chainInv {s t : SessionState} {pending : WaitUserState} {answer : String}
    (h : AnswerContinues digest s pending answer t) (hs : ChainInv s)
    (hD : s.uiState.waitUser = some pending) : ChainInv t := by
  cases h with
  | atCheckpoint hkind hround hid hdue =>
      exact .of_free (by simp [NeedsPackage, PendingKind, checkpointDecision])
  | inGrill hkind hdue => exact .of_free (not_needsPackage rfl (by simp))
  | confirmed hkind => exact .of_free (not_needsPackage rfl (by simp))
  | inContextBuild hkind =>
      exact hs.frame rfl rfl rfl (fun _ => Or.inr (Or.inr (Or.inr (Or.inl ⟨pending, hD, hkind⟩))))
        (by simp [NeedsContext, PendingKind, answeredUi]) (by simp)
  | inAdrBuild hkind =>
      exact hs.frame rfl rfl rfl (fun _ => Or.inr (Or.inr (Or.inr (Or.inr ⟨pending, hD, hkind⟩))))
        (fun _ => Or.inr (Or.inr ⟨pending, hD, hkind⟩)) (by simp)

theorem move_chainInv {s t : SessionState} {op : SessionOp} {r : SessionOutcome}
    (h : SessionMove digest s op r t) (hpending : PendingIffWaiting s) (hs : ChainInv s)
    (hcall : StartsRoundEarly s op) : ChainInv t := by
  cases h with
  | orchestratorCreated hnone =>
      have hquiet := hpending.none_of_ne (by simp [hnone])
      exact .of_free (not_needsPackage hquiet (by simp))
  | discoveryCounted =>
      cases horch : s.orchestrator with
      | none =>
          have hquiet := hpending.none_of_ne (by simp [horch])
          exact .of_free (not_needsPackage hquiet (by simp))
      | some stage =>
          simp only [Option.getD_some]
          rw [← horch]
          exact hs.frame rfl rfl rfl id id id
  | entered hr hop henter summary =>
      have htarget := entry_ne hop
      have hquiet := hpending.none_of_ne (henter.not_waitUser htarget.1 htarget.2)
      refine .of_free (not_needsPackage hquiet ?_)
      cases op <;> simp [SessionOp.entry?] at hop <;> subst hop <;> simp
  | deepIssued hr hop hround h summary => exact .of_free (not_needsPackage rfl (by simp))
  | deepCancelled hr => exact .of_free (not_needsPackage rfl (by simp))
  | retrievalEnded hop hlive henter summary ids locked =>
      exact .of_free (not_needsPackage rfl (by simp))
  | confirmed hr horch => exact .of_free (not_needsPackage rfl (by simp))
  | deepDecisionAsked hlive horch summary =>
      exact .of_free (by simp [NeedsPackage, PendingKind, deepDecision])
  | fallbackAsked hlive horch hcount shown =>
      exact .of_free (by simp [NeedsPackage, PendingKind, fallbackDecision])
  | rediscovered hlive horch hcount shown => exact .of_free (not_needsPackage rfl (by simp))
  | packageAccepted hr hlive hphase hvalid horch =>
      refine ⟨fun _ => ⟨_, rfl, hvalid⟩, ?_, ?_, by simp⟩
      · simp [NeedsContext, PendingKind]
      · simp [NeedsContext, PendingKind]
  | contextAmbiguityAsked hlive horch hpackage hvalid =>
      exact hs.frame rfl rfl rfl (fun _ => Or.inl horch)
        (by simp [NeedsContext, PendingKind, ambiguityDecision]) (by simp)
  | contextAccepted hlive horch hpackage hvalid =>
      have hneeds : NeedsPackage s := Or.inl horch
      refine ⟨fun _ => hs.package hneeds, fun _ => ⟨_, rfl, ?_⟩, fun _ => by simp, by simp⟩
      intro package hstored
      obtain rfl := Option.some.inj (hpackage.symm.trans hstored)
      obtain ⟨stored, hsome, hok⟩ := hs.package hneeds
      obtain rfl := Option.some.inj (hpackage.symm.trans hsome)
      intro entry hentry id hid
      exact knownIds_of_valid hok ▸ glossary_cites_known hvalid entry hentry id hid
  | adrPrepared hlive horch hpackage hvalid =>
      have hneeds : NeedsContext s := Or.inl horch
      refine ⟨fun _ => hs.package hneeds.needsPackage, fun _ => hs.context hneeds, fun _ => ?_, by simp⟩
      intro candidate hcandidate package hstored
      obtain rfl := Option.some.inj (Option.mem_def.mp hcandidate)
      obtain rfl := Option.some.inj (hpackage.symm.trans hstored)
      obtain ⟨stored, hsome, hok⟩ := hs.package hneeds.needsPackage
      obtain rfl := Option.some.inj (hpackage.symm.trans hsome)
      intro record hrecord id hid
      exact knownIds_of_valid hok ▸ records_cite_known hvalid record hrecord id hid
  | adrAmbiguityAsked hlive horch hpackage hvalid =>
      have hneeds : NeedsContext s := Or.inl horch
      exact ⟨fun _ => hs.package hneeds.needsPackage, fun _ => hs.context hneeds, fun _ => by simp,
        by simp⟩
  | adrFinalized hlive horch hcandidate hcommit =>
      have hneeds : NeedsContext s := Or.inl horch
      exact ⟨fun _ => hs.package hneeds.needsPackage, fun _ => hs.context hneeds,
        fun _ => hs.records hneeds, fun _ => hcandidate⟩
  | checkpointAnswered hr horch hD hkind hguard => exact .of_free (not_needsPackage rfl (by simp))
  | answered hr horch hD hkind hguard hcontinues => exact continues_chainInv hcontinues hs hD
  | wasReset hr =>
      exact .of_free (not_needsPackage rfl (by simp [createForgeSessionState]))
  | rejected hr =>
      by_cases horch : s.orchestrator = some .waitUser
      · rw [if_pos horch]
        exact .of_free (not_needsPackage rfl (by simp))
      · rw [if_neg horch]
        refine hs.frame rfl rfl rfl ?_ ?_ id
        · rintro (h | h | h | ⟨D, h, -⟩ | ⟨D, h, -⟩)
          · exact Or.inl h
          · exact Or.inr (Or.inl h)
          · exact Or.inr (Or.inr (Or.inl h))
          · cases h
          · cases h
        · rintro (h | h | ⟨D, h, -⟩)
          · exact Or.inl h
          · exact Or.inr (Or.inl h)
          · cases h
  | asked hr hop hdecisionId hkey hdecision hround hroundId horch =>
      refine .of_free ?_
      rcases question_kind hcall.1 hop with hkind | hkind
      · simp [NeedsPackage, PendingKind, hkind]
      · simp [NeedsPackage, PendingKind, hkind]
  | roundStarted hr first hfirst =>
      have hearly := hcall.2 _ _ rfl
      have hquiet : s.uiState.waitUser = none := hpending.none_of_ne (by
        rcases hearly with h | h | h | h | h <;> simp [h])
      have hstage : s.orchestrator ≠ some .contextBuild ∧ s.orchestrator ≠ some .adrBuild ∧
          s.orchestrator ≠ some .toSpec := by
        rcases hearly with h | h | h | h | h <;> simp [h]
      cases first
      · exact .of_free (not_needsPackage hquiet hstage)
      · exact .of_free (not_needsPackage hquiet hstage)
  | _ => exact hs.frame rfl rfl rfl id id id

/-! ### Runs -/

theorem init_chainInv : ChainInv createForgeSessionState :=
  .of_free (not_needsPackage rfl (by simp [createForgeSessionState]))

theorem ChainInv.traceable {s : SessionState} (hs : ChainInv s) : Traceable s where
  package hstage := hs.package (by
    rcases hstage with h | h | h
    · exact Or.inl h
    · exact Or.inr (Or.inl h)
    · exact Or.inr (Or.inr (Or.inl h)))
  context hstage := by
    have hneeds : NeedsContext s := by
      rcases hstage with h | h
      · exact Or.inl h
      · exact Or.inr (Or.inl h)
    obtain ⟨package, hpackage, -⟩ := hs.package hneeds.needsPackage
    obtain ⟨candidate, hcandidate, hcites⟩ := hs.context hneeds
    exact ⟨package, candidate, hpackage, hcandidate, hcites package hpackage⟩
  records hstage := by
    have hneeds : NeedsContext s := Or.inr (Or.inl hstage)
    obtain ⟨package, hpackage, -⟩ := hs.package hneeds.needsPackage
    obtain ⟨candidate, hcandidate⟩ := Option.ne_none_iff_exists'.mp (hs.final hstage)
    exact ⟨package, candidate, hpackage, hcandidate,
      hs.records hneeds candidate hcandidate package hpackage⟩

/-- **Traceability.**  In every state that the calls of the extension reach, whatever stands at a build
stage cites the stored package, and the stored package is one that the validator accepts. -/
theorem traceable_of_calls (digest : String → String) (ops : List SessionOp)
    (hops : Admissible (sessionStep digest) StartsRoundEarly createForgeSessionState ops) :
    Traceable (sessionAfter digest ops) := by
  have hinv : PendingIffWaiting (sessionAfter digest ops) ∧ ChainInv (sessionAfter digest ops) := by
    refine holds_at_finish (I := fun s => PendingIffWaiting s ∧ ChainInv s) (fun s op hs hop => ?_)
      ⟨init_pendingIffWaiting, init_chainInv⟩ hops
    exact ⟨move_pendingIffWaiting (step_move digest s op) hs.1,
      move_chainInv (step_move digest s op) hs.1 hs.2 hop⟩
  exact hinv.2.traceable

/-- A glossary with one entry, and records with one record, about the one piece of evidence. -/
def sampleContextCandidate : ContextCandidate := ⟨[⟨"term", "definition", ["e"]⟩]⟩

def sampleAdrCandidate : AdrBuildCandidate :=
  { records := [⟨["e"], ["consequence"], "decision", "rationale"⟩]
    handoff :=
      { summary := "summary"
        nextSessionFocus := "focus"
        references := ["Documents/CONTEXT.md", "Documents/ADR.md"]
        suggestedSkills := ["skill"] } }

def sampleBaseHash : String := String.ofList (List.replicate 64 'a')

/-- The run from a round to `TO_SPEC`. -/
def buildAll : List SessionOp :=
  [.startGrillRound "request" (emptySnapshot 0), .beginDeepKnowledge none .knowledgeUnderstanding,
    .handleDeepResult firstDeepAttempt (.understandingCompleted samplePackage),
    .completeContextBuild ⟨"context-1", "grill-1"⟩ (.completed sampleContextCandidate),
    .prepareAdrBuild ⟨"adr-1", "grill-1"⟩ sampleAdrCandidate,
    .finalizeAdrBuild ⟨"adr-1", "grill-1"⟩ (.committed sampleBaseHash)]

theorem traceable_of_calls_buildAll :
    (sessionAfter id buildAll).orchestrator = some .toSpec ∧ Traceable (sessionAfter id buildAll) := by
  have hother : ∀ op : SessionOp, (∀ request snapshot, op ≠ .startGrillRound request snapshot) →
      ∀ s request snapshot, op = .startGrillRound request snapshot → EarlyStage s :=
    fun op hne _ request snapshot h => absurd h (hne request snapshot)
  refine ⟨by decide, traceable_of_calls id buildAll
    ⟨⟨trivial, fun _ _ _ => Or.inl rfl⟩, ⟨trivial, hother _ (by simp) _⟩, ⟨trivial, hother _ (by simp) _⟩,
      ⟨trivial, hother _ (by simp) _⟩, ⟨trivial, hother _ (by simp) _⟩,
      ⟨trivial, hother _ (by simp) _⟩, trivial⟩⟩

end ForgeRuntime
