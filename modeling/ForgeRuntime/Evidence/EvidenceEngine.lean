import ForgeRuntime.Lib.Checks
import ForgeRuntime.Lib.OrderedMap
import ForgeRuntime.Lib.Text

/-!
# Evidence packages and their validator

The package in which a knowledge step hands its results on: the evidence with its origin, the decisions,
findings and limitations that cite it, a summary for humans, and the verification fields.
`createEvidencePackage` assembles one and `validateEvidencePackage` checks it with ordered early exits.

The fields are typed here as in the source, so the run-time type tests of the source (an array, a string, a
legal verification level) never fire on a value of these types and have no counterpart.
-/

namespace ForgeRuntime

open EventDriven EventDriven.Text EventDriven.Checks

/-- The values that the program stores as evidence metadata. -/
inductive MetadataValue where
  | text (value : String)
  | texts (values : List String)
  | number (value : Nat)
  | rejection (reason : String) (byteSize limit : Nat)
deriving DecidableEq, Repr

abbrev Metadata := List (String × MetadataValue)

inductive EvidenceOrigin where
  | grill
  | deepRetrieval
  | humanPremise
deriving DecidableEq, Repr

structure EvidenceInput where
  evidenceId : String
  kind : String
  source : String
  title : String
  content : String
  metadata : Metadata
deriving DecidableEq, Repr

structure Evidence extends EvidenceInput where
  origin : EvidenceOrigin
deriving DecidableEq, Repr

structure EvidenceDecision where
  decisionId : String
  statement : String
  evidenceIds : List String
deriving DecidableEq, Repr

structure EvidenceFinding where
  statement : String
  evidenceIds : List String
deriving DecidableEq, Repr

inductive EvidenceVerificationLevel where
  | exploratory
  | blackBoxVerified
  | specVerified
deriving DecidableEq, Repr

structure SpecGap where
  target : String
  version : Option String
  environment : Option String
  scenarios : Option (List String)
  verifiedAt : Option String
  reason : String
  missingEvidence : List String
  impact : String
deriving DecidableEq, Repr

structure FormalSpecReference where
  target : String
  version : String
  locator : String
  evidenceId : String
deriving DecidableEq, Repr

structure EvidenceLimitation where
  statement : String
  blocking : Bool
deriving DecidableEq, Repr

structure EvidencePackage where
  knowledgeSummary : String
  evidence : List Evidence
  evidenceIds : List String
  decisions : List EvidenceDecision
  findings : List EvidenceFinding
  limitations : List EvidenceLimitation
  verificationLevel : Option EvidenceVerificationLevel
  specGap : Option SpecGap
  formalSpecReference : Option FormalSpecReference
deriving DecidableEq, Repr

structure EvidencePackageInput where
  inherited : List EvidenceInput
  supplemental : List EvidenceInput
  humanPremise : List EvidenceInput
  decisions : List EvidenceDecision
  findings : List EvidenceFinding
  limitations : List EvidenceLimitation
  knowledgeSummary : String
  verificationLevel : Option EvidenceVerificationLevel
  specGap : Option SpecGap
  formalSpecReference : Option FormalSpecReference
deriving DecidableEq, Repr

def evidencePackageMaxItems : Nat := 50

def evidencePackageMaxStatementCodePoints : Nat := 4000

/-- Assemble a package: the three sources of evidence in order, each item under its origin, and the ID
list derived from them. -/
def createEvidencePackage (input : EvidencePackageInput) : EvidencePackage :=
  let evidence :=
    input.inherited.map (fun item => { item with origin := .grill : Evidence }) ++
      input.supplemental.map (fun item => { item with origin := .deepRetrieval : Evidence }) ++
      input.humanPremise.map (fun item => { item with origin := .humanPremise : Evidence })
  { knowledgeSummary := input.knowledgeSummary
    evidence := evidence
    evidenceIds := evidence.map (·.evidenceId)
    decisions := input.decisions
    findings := input.findings
    limitations := input.limitations
    verificationLevel := input.verificationLevel
    specGap := input.specGap
    formalSpecReference := input.formalSpecReference }

/-! ### The validator -/

/-- A field that is optional but, when given, not blank. -/
def BlankIfGiven (field : Option String) : Prop := ∃ value ∈ field, Blank value

instance (field : Option String) : Decidable (BlankIfGiven field) :=
  match field with
  | none => isFalse (by simp [BlankIfGiven])
  | some value => decidable_of_iff (Blank value) (by simp [BlankIfGiven])

/-- The negation of `nonEmptyString` at an optional field: absent or blank. -/
def MissingText (field : Option String) : Prop := ∀ value ∈ field, Blank value

instance (field : Option String) : Decidable (MissingText field) :=
  match field with
  | none => isTrue (by simp [MissingText])
  | some value => decidable_of_iff (Blank value) (by simp [MissingText])

/-- What a black-box verified package must say about its verification. -/
def checkBlackBox (specGap : SpecGap) : Except (List String) Unit := do
  refuseIf (MissingText specGap.version) ["black_box_verified 需要 Spec Gap version"]
  refuseIf (MissingText specGap.environment) ["black_box_verified 需要 Spec Gap environment"]
  refuseIf (specGap.scenarios.getD [] = [] ∨ ∃ item ∈ specGap.scenarios.getD [], Blank item)
    ["black_box_verified 需要非空 Spec Gap scenarios"]
  refuseIf (MissingText specGap.verifiedAt) ["black_box_verified 需要 Spec Gap verifiedAt"]

def checkSpecGap (specGap : SpecGap) (level : Option EvidenceVerificationLevel) :
    Except (List String) Unit := do
  refuseIf (Blank specGap.target) ["Spec Gap target 不可為空白"]
  refuseIf (Blank specGap.reason) ["Spec Gap reason 不可為空白"]
  refuseIf (Blank specGap.impact) ["Spec Gap impact 不可為空白"]
  refuseIf (BlankIfGiven specGap.version) ["Spec Gap version 不可為空白"]
  refuseIf (BlankIfGiven specGap.environment) ["Spec Gap environment 不可為空白"]
  refuseIf (BlankIfGiven specGap.verifiedAt) ["Spec Gap verifiedAt 不可為空白"]
  refuseIf (specGap.missingEvidence = [] ∨ ∃ item ∈ specGap.missingEvidence, Blank item)
    ["Spec Gap missingEvidence 不可為空白"]
  if level = some .blackBoxVerified then checkBlackBox specGap else .ok ()

def checkVerification (p : EvidencePackage) : Except (List String) Unit :=
  if p.verificationLevel.isSome ∨ p.specGap.isSome then
    match p.specGap with
    | none => .error ["verificationLevel 需要完整 Spec Gap"]
    | some specGap => checkSpecGap specGap p.verificationLevel
  else .ok ()

/-- A formal specification is never trusted yet: every exit refuses. -/
def checkFormalSpec (p : EvidencePackage) : Except (List String) Unit :=
  if p.verificationLevel = some .specVerified then
    match p.formalSpecReference with
    | none => .error ["spec_verified 需要 formalSpecReference"]
    | some reference => do
        refuseIf (Blank reference.target) ["formalSpecReference target 不可為空白"]
        refuseIf (Blank reference.version) ["formalSpecReference version 不可為空白"]
        refuseIf (Blank reference.locator) ["formalSpecReference locator 不可為空白"]
        refuseIf (Blank reference.evidenceId) ["formalSpecReference evidenceId 不可為空白"]
        .error ["spec_verified 需要受信任的 formal spec context"]
  else .ok ()

/-- The three lists of statements, under the labels of the error texts. -/
def labelledStatements (p : EvidencePackage) : List (String × List String) :=
  [("決策（Decision）", p.decisions.map (·.statement)),
    ("發現（Finding）", p.findings.map (·.statement)),
    ("限制（Limitation）", p.limitations.map (·.statement))]

def checkItemCount (labelled : String × List String) : Except (List String) Unit :=
  refuseIf (labelled.2.length > evidencePackageMaxItems)
    [labelled.1 ++ " 數量超過上限 " ++ toString evidencePackageMaxItems]

def checkStatementLengths (labelled : String × List String) : Except (List String) Unit :=
  forEach labelled.2 fun statement =>
    refuseIf (codePoints statement > evidencePackageMaxStatementCodePoints)
      [labelled.1 ++ " 內容超過 " ++ toString evidencePackageMaxStatementCodePoints ++ " 個 Unicode 字元"]

/-- The first cited ID that no evidence of the package carries. -/
def unknownEvidenceId (evidenceIds cited : List String) : Option String :=
  cited.find? fun id => decide (id ∉ evidenceIds)

/-- The test `if (unknownEvidenceId)`: a string is false exactly when it is empty. -/
def Truthy (found : Option String) : Prop := ∃ id ∈ found, id ≠ ""

instance (found : Option String) : Decidable (Truthy found) :=
  match found with
  | none => isFalse (by simp [Truthy])
  | some id => decidable_of_iff (id ≠ "") (by simp [Truthy])

/-- `evidenceOrigins.get`: the origin recorded for an ID. -/
def originOf (evidence : List Evidence) (id : String) : Option EvidenceOrigin :=
  (evidence.find? fun e => decide (e.evidenceId = id)).map (·.origin)

def checkFinding (evidence : List Evidence) (finding : EvidenceFinding) :
    Except (List String) Unit := do
  let ids := evidence.map (·.evidenceId)
  refuseIf (finding.evidenceIds = []) ["Finding 至少需要一個 Evidence ID"]
  refuseIf (Truthy (unknownEvidenceId ids finding.evidenceIds))
    ["Finding 引用不存在的 Evidence ID：" ++ (unknownEvidenceId ids finding.evidenceIds).getD ""]
  refuseIf (finding.evidenceIds ≠ [] ∧
      (∀ id ∈ finding.evidenceIds, originOf evidence id = some .humanPremise) ∧
      startsWith finding.statement "推論：" = false)
    ["Finding 僅引用 human_premise 時，內容必須以「推論：」開頭"]

def checkDecision (evidence : List Evidence) (decision : EvidenceDecision) :
    Except (List String) Unit :=
  let ids := evidence.map (·.evidenceId)
  refuseIf (Truthy (unknownEvidenceId ids decision.evidenceIds))
    ["Decision 引用不存在的 Evidence ID：" ++ (unknownEvidenceId ids decision.evidenceIds).getD ""]

def checkLimitation (limitation : EvidenceLimitation) : Except (List String) Unit :=
  refuseIf (limitation.blocking = true) ["存在阻擋性問題：" ++ limitation.statement]

def validateEvidencePackage (p : EvidencePackage) : Except (List String) Unit := do
  let knowledgeSummary := trim p.knowledgeSummary
  refuseIf (knowledgeSummary = "") ["knowledgeSummary 不可為空白"]
  checkVerification p
  checkFormalSpec p
  refuseIf (codePoints knowledgeSummary > evidencePackageMaxStatementCodePoints)
    ["knowledgeSummary 內容超過 " ++ toString evidencePackageMaxStatementCodePoints ++ " 個 Unicode 字元"]
  refuseIf (p.evidenceIds ≠ p.evidence.map (·.evidenceId))
    ["evidenceIds 必須由 evidence 衍生且順序一致"]
  forEach (labelledStatements p) checkItemCount
  forEach (labelledStatements p) checkStatementLengths
  refuseRepeated (·.evidenceId) (fun e : Evidence => ["Evidence ID 重複：" ++ e.evidenceId]) [] p.evidence
  forEach p.findings (checkFinding p.evidence)
  forEach p.decisions (checkDecision p.evidence)
  refuseRepeated (·.decisionId) (fun d : EvidenceDecision => ["決策 ID 重複：" ++ d.decisionId]) []
    p.decisions
  forEach p.limitations checkLimitation

end ForgeRuntime
