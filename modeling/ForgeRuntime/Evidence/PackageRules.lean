import ForgeRuntime.Evidence.EvidenceEngine

/-!
# What the evidence package validator decides

The rules of a well-formed package, stated without reference to the order of the checks, and how far
`validateEvidencePackage` decides them.

* `PackageRules` — every rule but one;
* `CitationsKnown` — the remaining rule, that every cited ID is the ID of an evidence of the package;
* `validateEvidencePackage_eq_ok_iff` — what the validator accepts, exactly: the membership test asks for
  the first unknown ID and then tests that ID for truth, so an unknown ID that is the empty string passes;
* `validateEvidencePackage_exact_iff` — the validator agrees with the rules on a package if and only if
  the package is not one of those that the empty ID lets through.
-/

namespace ForgeRuntime

open EventDriven EventDriven.Text EventDriven.Checks

def EvidencePackage.knownIds (p : EvidencePackage) : List String := p.evidence.map (·.evidenceId)

/-- The rules for the verification gap of a package. -/
structure SpecGapRules (specGap : SpecGap) (level : Option EvidenceVerificationLevel) : Prop where
  target : ¬ Blank specGap.target
  reason : ¬ Blank specGap.reason
  impact : ¬ Blank specGap.impact
  missingEvidence : specGap.missingEvidence ≠ []
  missingEvidence_items : ∀ item ∈ specGap.missingEvidence, ¬ Blank item
  version : ∀ value ∈ specGap.version, ¬ Blank value
  environment : ∀ value ∈ specGap.environment, ¬ Blank value
  verifiedAt : ∀ value ∈ specGap.verifiedAt, ¬ Blank value
  blackBox : level = some .blackBoxVerified →
    (∃ value ∈ specGap.version, ¬ Blank value) ∧ (∃ value ∈ specGap.environment, ¬ Blank value) ∧
      (∃ scenarios ∈ specGap.scenarios, scenarios ≠ [] ∧ ∀ item ∈ scenarios, ¬ Blank item) ∧
      ∃ value ∈ specGap.verifiedAt, ¬ Blank value

/-- Every ID that the finding cites is the ID of a human premise of the package. -/
def CitesOnlyHumanPremises (p : EvidencePackage) (finding : EvidenceFinding) : Prop :=
  ∀ id ∈ finding.evidenceIds, ∃ e ∈ p.evidence, e.evidenceId = id ∧ e.origin = .humanPremise

/-- Every rule of a package except that the cited IDs are known. -/
structure PackageRules (p : EvidencePackage) : Prop where
  summary : trim p.knowledgeSummary ≠ ""
  summary_length : codePoints (trim p.knowledgeSummary) ≤ evidencePackageMaxStatementCodePoints
  evidenceIds : p.evidenceIds = p.evidence.map (·.evidenceId)
  evidenceIds_distinct : (p.evidence.map (·.evidenceId)).Nodup
  decisions_length : p.decisions.length ≤ evidencePackageMaxItems
  findings_length : p.findings.length ≤ evidencePackageMaxItems
  limitations_length : p.limitations.length ≤ evidencePackageMaxItems
  decision_length :
    ∀ d ∈ p.decisions, codePoints d.statement ≤ evidencePackageMaxStatementCodePoints
  finding_length :
    ∀ f ∈ p.findings, codePoints f.statement ≤ evidencePackageMaxStatementCodePoints
  limitation_length :
    ∀ l ∈ p.limitations, codePoints l.statement ≤ evidencePackageMaxStatementCodePoints
  finding_cites : ∀ f ∈ p.findings, f.evidenceIds ≠ []
  finding_inference :
    ∀ f ∈ p.findings, CitesOnlyHumanPremises p f → startsWith f.statement "推論：" = true
  decisionIds_distinct : (p.decisions.map (·.decisionId)).Nodup
  not_blocking : ∀ l ∈ p.limitations, l.blocking = false
  not_specVerified : p.verificationLevel ≠ some .specVerified
  specGap : p.verificationLevel.isSome ∨ p.specGap.isSome →
    ∃ specGap ∈ p.specGap, SpecGapRules specGap p.verificationLevel

/-- The citation lists of the findings and the decisions. -/
def EvidencePackage.citations (p : EvidencePackage) : List (List String) :=
  p.findings.map (·.evidenceIds) ++ p.decisions.map (·.evidenceIds)

/-- Every ID cited by a finding or a decision is the ID of an evidence of the package. -/
def CitationsKnown (p : EvidencePackage) : Prop :=
  ∀ cited ∈ p.citations, ∀ id ∈ cited, id ∈ p.knownIds

/-- A package that meets all the rules. -/
def WellFormedPackage (p : EvidencePackage) : Prop := PackageRules p ∧ CitationsKnown p

/-- No unknown ID is cited, or the first unknown one is the empty string. -/
def PassesMembershipTest (p : EvidencePackage) (cited : List String) : Prop :=
  ∀ id ∈ unknownEvidenceId p.knownIds cited, id = ""

/-- The packages that the empty ID lets through: they meet every other rule, some finding or decision
cites an unknown ID, and wherever one does, the first unknown ID it cites is the empty string. -/
def EmptyIdSlipsThrough (p : EvidencePackage) : Prop :=
  PackageRules p ∧ (∃ cited ∈ p.citations, ∃ id ∈ cited, id ∉ p.knownIds) ∧
    ∀ cited ∈ p.citations, PassesMembershipTest p cited

/-! ### One equivalence for each check -/

theorem checkBlackBox_eq_ok_iff (specGap : SpecGap) :
    checkBlackBox specGap = .ok () ↔
      (∃ value ∈ specGap.version, ¬ Blank value) ∧ (∃ value ∈ specGap.environment, ¬ Blank value) ∧
        (∃ scenarios ∈ specGap.scenarios, scenarios ≠ [] ∧ ∀ item ∈ scenarios, ¬ Blank item) ∧
        ∃ value ∈ specGap.verifiedAt, ¬ Blank value := by
  have hscenarios : ¬ (specGap.scenarios.getD [] = [] ∨ ∃ item ∈ specGap.scenarios.getD [], Blank item) ↔
      ∃ scenarios ∈ specGap.scenarios, scenarios ≠ [] ∧ ∀ item ∈ scenarios, ¬ Blank item := by
    cases specGap.scenarios with
    | none => simp
    | some scenarios => simp
  have hmissing : ∀ field : Option String, ¬ MissingText field ↔ ∃ value ∈ field, ¬ Blank value := by
    intro field
    simp [MissingText]
  simp only [checkBlackBox, refuseIf_bind_eq_ok, refuseIf_eq_ok, hscenarios, hmissing]

theorem checkSpecGap_eq_ok_iff (specGap : SpecGap) (level : Option EvidenceVerificationLevel) :
    checkSpecGap specGap level = .ok () ↔ SpecGapRules specGap level := by
  have hgiven : ∀ field : Option String, ¬ BlankIfGiven field ↔ ∀ value ∈ field, ¬ Blank value := by
    intro field
    simp [BlankIfGiven]
  have hlevel : (if level = some .blackBoxVerified then checkBlackBox specGap else .ok ()) = .ok () ↔
      (level = some .blackBoxVerified → checkBlackBox specGap = .ok ()) := by
    split
    · rename_i h
      simp [h]
    · rename_i h
      simp [h]
  simp only [checkSpecGap, refuseIf_bind_eq_ok, hgiven, hlevel, checkBlackBox_eq_ok_iff, not_or,
    not_exists, not_and]
  constructor
  · rintro ⟨target, reason, impact, version, environment, verifiedAt, ⟨missing, items⟩, blackBox⟩
    exact ⟨target, reason, impact, missing, items, version, environment, verifiedAt, blackBox⟩
  · rintro ⟨target, reason, impact, missing, items, version, environment, verifiedAt, blackBox⟩
    exact ⟨target, reason, impact, version, environment, verifiedAt, ⟨missing, items⟩, blackBox⟩

theorem checkVerification_eq_ok_iff (p : EvidencePackage) :
    checkVerification p = .ok () ↔ (p.verificationLevel.isSome ∨ p.specGap.isSome →
      ∃ specGap ∈ p.specGap, SpecGapRules specGap p.verificationLevel) := by
  unfold checkVerification
  split
  · rename_i hgiven
    cases hgap : p.specGap with
    | none =>
        rw [hgap] at hgiven
        simpa [Option.isSome_iff_ne_none] using hgiven
    | some specGap => simp [checkSpecGap_eq_ok_iff]
  · rename_i hgiven
    simp [hgiven]

theorem checkFormalSpec_eq_ok_iff (p : EvidencePackage) :
    checkFormalSpec p = .ok () ↔ p.verificationLevel ≠ some .specVerified := by
  unfold checkFormalSpec
  split
  · rename_i hlevel
    cases p.formalSpecReference with
    | none => simp [hlevel]
    | some reference => simp [hlevel]
  · rename_i hlevel
    simp [hlevel]

theorem labelledCounts_ok_iff (p : EvidencePackage) :
    forEach (labelledStatements p) checkItemCount = .ok () ↔
      p.decisions.length ≤ evidencePackageMaxItems ∧ p.findings.length ≤ evidencePackageMaxItems ∧
        p.limitations.length ≤ evidencePackageMaxItems := by
  simp [forEach_eq_ok, labelledStatements, checkItemCount]

theorem labelledLengths_ok_iff (p : EvidencePackage) :
    forEach (labelledStatements p) checkStatementLengths = .ok () ↔
      (∀ d ∈ p.decisions, codePoints d.statement ≤ evidencePackageMaxStatementCodePoints) ∧
        (∀ f ∈ p.findings, codePoints f.statement ≤ evidencePackageMaxStatementCodePoints) ∧
        ∀ l ∈ p.limitations, codePoints l.statement ≤ evidencePackageMaxStatementCodePoints := by
  simp [forEach_eq_ok, labelledStatements, checkStatementLengths]

/-- The guard `if (unknownEvidenceId)` passes exactly on the membership test of the rules. -/
theorem not_truthy_iff (p : EvidencePackage) (cited : List String) :
    ¬ Truthy (unknownEvidenceId p.knownIds cited) ↔ PassesMembershipTest p cited := by
  simp [Truthy, PassesMembershipTest]

/-- With distinct evidence IDs, the recorded origin of an ID is the origin of the evidence under it. -/
theorem originOf_eq_some_iff {evidence : List Evidence} (hd : (evidence.map (·.evidenceId)).Nodup)
    (id : String) (origin : EvidenceOrigin) :
    originOf evidence id = some origin ↔ ∃ e ∈ evidence, e.evidenceId = id ∧ e.origin = origin := by
  unfold originOf
  constructor
  · intro h
    obtain ⟨e, hfind, horigin⟩ := Option.map_eq_some_iff.mp h
    exact ⟨e, List.mem_of_find?_eq_some hfind, by simpa using List.find?_some hfind, horigin⟩
  · rintro ⟨e, he, hid, horigin⟩
    cases hfind : evidence.find? fun x => decide (x.evidenceId = id) with
    | none =>
        have hne := List.find?_eq_none.mp hfind e he
        simp [hid] at hne
    | some found =>
        have hfound : found.evidenceId = id := by simpa using List.find?_some hfind
        have heq : found = e :=
          List.inj_on_of_nodup_map hd (List.mem_of_find?_eq_some hfind) he (hfound.trans hid.symm)
        simp [heq, horigin]

theorem checkFinding_eq_ok_iff {p : EvidencePackage}
    (hd : (p.evidence.map (·.evidenceId)).Nodup) (finding : EvidenceFinding) :
    checkFinding p.evidence finding = .ok () ↔
      finding.evidenceIds ≠ [] ∧ PassesMembershipTest p finding.evidenceIds ∧
        (CitesOnlyHumanPremises p finding → startsWith finding.statement "推論：" = true) := by
  have hhuman : (∀ id ∈ finding.evidenceIds, originOf p.evidence id = some .humanPremise) ↔
      CitesOnlyHumanPremises p finding := by
    simp only [originOf_eq_some_iff hd, CitesOnlyHumanPremises]
  have htest := not_truthy_iff p finding.evidenceIds
  unfold EvidencePackage.knownIds at htest
  simp only [checkFinding, refuseIf_bind_eq_ok, refuseIf_eq_ok, hhuman, htest, not_and,
    Bool.not_eq_false]
  constructor
  · rintro ⟨hcites, hknown, hinfer⟩
    exact ⟨hcites, hknown, hinfer hcites⟩
  · rintro ⟨hcites, hknown, hinfer⟩
    exact ⟨hcites, hknown, fun _ => hinfer⟩

theorem checkDecision_eq_ok_iff (p : EvidencePackage) (decision : EvidenceDecision) :
    checkDecision p.evidence decision = .ok () ↔ PassesMembershipTest p decision.evidenceIds := by
  have htest := not_truthy_iff p decision.evidenceIds
  unfold EvidencePackage.knownIds at htest
  simp only [checkDecision, refuseIf_eq_ok, htest]

theorem limitations_ok_iff (p : EvidencePackage) :
    forEach p.limitations checkLimitation = .ok () ↔ ∀ l ∈ p.limitations, l.blocking = false := by
  simp [forEach_eq_ok, checkLimitation]

/-! ### Exactness -/

/-- **What the validator accepts.**  Every rule but the one on citations is decided exactly; of the
citations only the membership test is asked. -/
theorem validateEvidencePackage_eq_ok_iff (p : EvidencePackage) :
    validateEvidencePackage p = .ok () ↔
      PackageRules p ∧ ∀ cited ∈ p.citations, PassesMembershipTest p cited := by
  simp only [validateEvidencePackage, check_bind_eq_ok, refuseIf_eq_ok, checkVerification_eq_ok_iff,
    checkFormalSpec_eq_ok_iff, labelledCounts_ok_iff, labelledLengths_ok_iff, refuseRepeated_eq_ok,
    limitations_ok_iff, not_lt, gt_iff_lt, ne_eq, not_not]
  have hdecisions : forEach p.decisions (checkDecision p.evidence) = .ok () ↔
      ∀ d ∈ p.decisions, PassesMembershipTest p d.evidenceIds := by
    simp only [forEach_eq_ok, checkDecision_eq_ok_iff]
  rw [hdecisions]
  constructor
  · rintro ⟨summary, gap, level, length, ids, ⟨counts_d, counts_f, counts_l⟩, ⟨len_d, len_f, len_l⟩,
      distinct, findings, decisions, decisionIds, blocking⟩
    simp only [forEach_eq_ok, checkFinding_eq_ok_iff distinct] at findings
    refine ⟨⟨summary, length, ids, distinct, counts_d, counts_f, counts_l, len_d, len_f, len_l,
      fun f hf => (findings f hf).1, fun f hf => (findings f hf).2.2, decisionIds, blocking, level, gap⟩, ?_⟩
    intro cited hcited
    rcases List.mem_append.mp hcited with h | h
    · obtain ⟨f, hf, rfl⟩ := List.mem_map.mp h
      exact (findings f hf).2.1
    · obtain ⟨d, hd, rfl⟩ := List.mem_map.mp h
      exact decisions d hd
  · rintro ⟨rules, tests⟩
    have hfinding : ∀ f ∈ p.findings, PassesMembershipTest p f.evidenceIds := fun f hf =>
      tests _ (List.mem_append_left _ (List.mem_map.mpr ⟨f, hf, rfl⟩))
    have hdecision : ∀ d ∈ p.decisions, PassesMembershipTest p d.evidenceIds := fun d hd =>
      tests _ (List.mem_append_right _ (List.mem_map.mpr ⟨d, hd, rfl⟩))
    refine ⟨rules.summary, rules.specGap, rules.not_specVerified, rules.summary_length, rules.evidenceIds,
      ⟨rules.decisions_length, rules.findings_length, rules.limitations_length⟩,
      ⟨rules.decision_length, rules.finding_length, rules.limitation_length⟩,
      rules.evidenceIds_distinct, ?_, hdecision, rules.decisionIds_distinct, rules.not_blocking⟩
    simp only [forEach_eq_ok, checkFinding_eq_ok_iff rules.evidenceIds_distinct]
    exact fun f hf => ⟨rules.finding_cites f hf, hfinding f hf, rules.finding_inference f hf⟩

/-- Known citations pass the membership test: there is no unknown ID to find. -/
theorem passesMembershipTest_of_known {p : EvidencePackage} {cited : List String}
    (h : ∀ id ∈ cited, id ∈ p.knownIds) : PassesMembershipTest p cited := by
  intro id hid
  have hmem := List.mem_of_find?_eq_some hid
  have hunknown : id ∉ p.knownIds := by simpa using List.find?_some hid
  exact absurd (h id hmem) hunknown

/-- The rules are enough for acceptance; only the converse can fail. -/
theorem validateEvidencePackage_of_wellFormed {p : EvidencePackage} (h : WellFormedPackage p) :
    validateEvidencePackage p = .ok () :=
  (validateEvidencePackage_eq_ok_iff p).mpr
    ⟨h.1, fun cited hcited => passesMembershipTest_of_known (h.2 cited hcited)⟩

/-- **Where the validator is exact.**  On a package it decides the rules if and only if the package is not
one that the empty ID lets through. -/
theorem validateEvidencePackage_exact_iff (p : EvidencePackage) :
    (validateEvidencePackage p = .ok () ↔ WellFormedPackage p) ↔ ¬ EmptyIdSlipsThrough p := by
  have hunknown : ¬ CitationsKnown p ↔ ∃ cited ∈ p.citations, ∃ id ∈ cited, id ∉ p.knownIds := by
    simp [CitationsKnown]
  constructor
  · rintro hexact ⟨rules, unknown, tests⟩
    have hok := (validateEvidencePackage_eq_ok_iff p).mpr ⟨rules, tests⟩
    exact hunknown.mpr unknown (hexact.mp hok).2
  · intro hslip
    refine ⟨fun hok => ?_, validateEvidencePackage_of_wellFormed⟩
    obtain ⟨rules, tests⟩ := (validateEvidencePackage_eq_ok_iff p).mp hok
    refine ⟨rules, ?_⟩
    by_contra hcitations
    exact hslip ⟨rules, hunknown.mp hcitations, tests⟩

/-- A package without evidence whose one decision cites the empty ID. -/
def emptyIdPackage : EvidencePackage :=
  { knowledgeSummary := "s"
    evidence := []
    evidenceIds := []
    decisions := [⟨"d", "t", [""]⟩]
    findings := []
    limitations := []
    verificationLevel := none
    specGap := none
    formalSpecReference := none }

/-- **The empty ID slips through**: the validator accepts a package whose decision cites an ID that no
evidence of the package carries. -/
theorem validateEvidencePackage_accepts_emptyId :
    ¬ (validateEvidencePackage emptyIdPackage = .ok () ↔ WellFormedPackage emptyIdPackage) := by
  intro hexact
  have hok : validateEvidencePackage emptyIdPackage = .ok () := by decide
  have hknown := (hexact.mp hok).2 [""] (by decide) "" (by decide)
  exact absurd hknown (by decide)

end ForgeRuntime
