import ForgeRuntime.Grill.GrillSkill
import ForgeRuntime.Lib.JsonText

/-!
# The text that starts Context Build and ADR Build

`buildContextBuildSkillInvocation` hands the knowledge package, the decisions made after it, and for ADR
Build the accepted glossary to the next step, as JSON behind the skill file.

* `buildContextBuildSkillInvocation_determines` — the text determines the stage and the identity, whatever the skill
  file holds.
-/

namespace ForgeRuntime

open EventDriven EventDriven.Text

inductive BuildStage where
  | contextBuild
  | adrBuild
deriving DecidableEq, Repr

namespace BuildStage

/-- A build stage is a stage of the workflow. -/
def stage : BuildStage → WorkflowStage
  | contextBuild => .contextBuild
  | adrBuild => .adrBuild

/-- The tool that completes the stage. -/
def tool : BuildStage → String
  | contextBuild => "forge_context_complete"
  | adrBuild => "forge_adr_complete"

end BuildStage

/-- The identity of a build attempt, of either stage. -/
structure BuildIdentity where
  attemptId : String
  sourceRoundId : String
deriving DecidableEq, Repr

/-- `contextCandidate` is given for ADR Build only. -/
structure BuildSkillInvocationRequest where
  stage : BuildStage
  identity : BuildIdentity
  knowledgePackage : EvidencePackage
  contextCandidate : Option ContextCandidate
  humanDecisions : List EvidenceDecision
deriving DecidableEq, Repr

def EvidenceOrigin.text : EvidenceOrigin → String
  | .grill => "grill"
  | .deepRetrieval => "deep_retrieval"
  | .humanPremise => "human_premise"

def EvidenceVerificationLevel.text : EvidenceVerificationLevel → String
  | .exploratory => "exploratory"
  | .blackBoxVerified => "black_box_verified"
  | .specVerified => "spec_verified"

/-! ### JSON forms -/

def decisionJson (decision : EvidenceDecision) : Json String :=
  .object [("decisionId", .text decision.decisionId), ("statement", .text decision.statement),
    ("evidenceIds", .texts decision.evidenceIds)]

def specGapJson (gap : SpecGap) : Json String :=
  .object
    ([("target", .text gap.target)] ++ Json.optional "version" (gap.version.map .text) ++
      Json.optional "environment" (gap.environment.map .text) ++
      Json.optional "scenarios" (gap.scenarios.map .texts) ++
      Json.optional "verifiedAt" (gap.verifiedAt.map .text) ++
      [("reason", .text gap.reason), ("missingEvidence", .texts gap.missingEvidence),
        ("impact", .text gap.impact)])

def formalSpecReferenceJson (reference : FormalSpecReference) : Json String :=
  .object [("target", .text reference.target), ("version", .text reference.version),
    ("locator", .text reference.locator), ("evidenceId", .text reference.evidenceId)]

def glossaryJson (candidate : ContextCandidate) : Json String :=
  .object [("glossary", .array (candidate.glossary.map fun entry =>
    .object [("term", .text entry.term), ("definition", .text entry.definition),
      ("evidenceIds", .texts entry.evidenceIds)]))]

/-- The part of the request that describes what is known. -/
def knowledgeJson (request : BuildSkillInvocationRequest) : Json String :=
  let package := request.knowledgePackage
  .object
    ([("evidence", .array (package.evidence.map fun evidence =>
        .object [("evidenceId", .text evidence.evidenceId), ("kind", .text evidence.kind),
          ("title", .text evidence.title), ("origin", .text evidence.origin.text)])),
      ("decisions", .array (package.decisions.map decisionJson)),
      ("humanDecisions", .array (request.humanDecisions.map decisionJson)),
      ("findings", .array (package.findings.map fun finding =>
        .object [("statement", .text finding.statement), ("evidenceIds", .texts finding.evidenceIds)])),
      ("limitations", .array (package.limitations.map fun limitation =>
        .object [("statement", .text limitation.statement), ("blocking", .bool limitation.blocking)]))] ++
      Json.optional "verificationLevel" (package.verificationLevel.map fun level => .text level.text) ++
      Json.optional "specGap" (package.specGap.map specGapJson) ++
      Json.optional "formalSpecReference" (package.formalSpecReference.map formalSpecReferenceJson))

/-- `Runtime input` of the invocation. -/
def runtimeInputJson (request : BuildSkillInvocationRequest) : Json String :=
  .object
    ([("identity", .object [("attemptId", .text request.identity.attemptId),
        ("sourceRoundId", .text request.identity.sourceRoundId)]),
      ("knowledge", knowledgeJson request)] ++
      match request.stage with
      | .contextBuild => []
      | .adrBuild => Json.optional "contextCandidate" (request.contextCandidate.map glossaryJson))

def buildContextBuildSkillInvocation (skillsDir file : String) (request : BuildSkillInvocationRequest) :
    String :=
  join "\n"
    [ "<skill name=\"context-build\" location=\"" ++ skillsDir ++ "/context-build/SKILL.md\">",
      skillContent file,
      "</skill>",
      "",
      "目前階段：" ++ request.stage.stage.text,
      "完成工具：" ++ request.stage.tool,
      "attemptId 與 sourceRoundId 必須原樣回傳。",
      "Runtime input:",
      Json.pretty (runtimeInputJson request) ]

/-! ### What an invocation determines -/

open Json

/-- How the JSON of an invocation begins. -/
theorem runtimeInputJson_begins (request : BuildSkillInvocationRequest) :
    ∃ rest, Json.pretty (runtimeInputJson request) =
      "\x7b" ++ newline 1 ++ (quote "identity" ++ ": " ++ ("\x7b" ++ newline 2 ++ (quote "attemptId" ++ ": ") ++
        quote request.identity.attemptId ++ ("," ++ newline 2 ++ (quote "sourceRoundId" ++ ": ")) ++
        quote request.identity.sourceRoundId ++ rest)) := by
  obtain ⟨rest, hrest⟩ := prettyAt_object_begins 0 ("identity", .object [("attemptId", .text request.identity.attemptId),
    ("sourceRoundId", .text request.identity.sourceRoundId)]) _
  refine ⟨newline 1 ++ "\x7d" ++ rest, hrest.trans ?_⟩
  rw [prettyMember, prettyAt_object_pair]
  simp only [prettyMember, prettyAt, String.append_assoc]

/-- **The JSON of an invocation determines the identity.** -/
theorem runtimeInputJson_determines {request other : BuildSkillInvocationRequest}
    (h : Json.pretty (runtimeInputJson request) = Json.pretty (runtimeInputJson other)) :
    request.identity = other.identity := by
  obtain ⟨rest, hrest⟩ := runtimeInputJson_begins request
  obtain ⟨last, hlast⟩ := runtimeInputJson_begins other
  rw [hrest, hlast] at h
  have htext := congrArg String.toList h
  simp only [String.toList_append, List.append_assoc, List.append_cancel_left_eq] at htext
  obtain ⟨hattempt, hbehind⟩ := quote_prefixCode htext
  simp only [List.append_cancel_left_eq] at hbehind
  obtain ⟨hround, -⟩ := quote_prefixCode hbehind
  cases request
  cases other
  exact congrArg₂ BuildIdentity.mk hattempt hround

/-- The text of an invocation in front of its JSON. -/
def invocationHead (skillsDir file : String) (stage : BuildStage) : String :=
  join "\n"
    [ "<skill name=\"context-build\" location=\"" ++ skillsDir ++ "/context-build/SKILL.md\">",
      skillContent file,
      "</skill>",
      "",
      "目前階段：" ++ stage.stage.text,
      "完成工具：" ++ stage.tool,
      "attemptId 與 sourceRoundId 必須原樣回傳。" ]

theorem invocation_eq (skillsDir file : String) (request : BuildSkillInvocationRequest) :
    buildContextBuildSkillInvocation skillsDir file request =
      invocationHead skillsDir file request.stage ++ "\n" ++ "Runtime input:" ++ "\n" ++
        Json.pretty (runtimeInputJson request) := by
  simp only [buildContextBuildSkillInvocation, invocationHead, join, String.append_assoc]

/-- The two tools end differently. -/
theorem tools_differ (a b : List Char) : a ++ "forge_context_complete".toList ≠ b ++ "forge_adr_complete".toList := by
  intro h
  have hdiffer : ¬ ("forge_context_complete".toList <:+ "forge_adr_complete".toList ∨
      "forge_adr_complete".toList <:+ "forge_context_complete".toList) := by decide
  exact hdiffer (List.suffix_or_suffix_of_suffix (List.suffix_append a _) (h ▸ List.suffix_append b _))

/-- The tool that completes the stage is the last thing in front of the JSON that varies. -/
theorem invocationHead_determines {skillsDir file other : String} {stage last : BuildStage}
    (h : invocationHead skillsDir file stage = invocationHead skillsDir other last) : stage = last := by
  have htext := congrArg String.toList h
  simp only [invocationHead, join, String.toList_append] at htext
  simp only [← List.append_assoc, List.append_cancel_right_eq] at htext
  cases stage with
  | contextBuild =>
      cases last with
      | contextBuild => rfl
      | adrBuild => exact absurd htext (tools_differ _ _)
  | adrBuild =>
      cases last with
      | contextBuild => exact absurd htext.symm (tools_differ _ _)
      | adrBuild => rfl

/-- **An invocation determines its stage and its identity**, whatever the skill files hold. -/
theorem buildContextBuildSkillInvocation_determines {skillsDir file otherFile : String}
    {request other : BuildSkillInvocationRequest}
    (h : buildContextBuildSkillInvocation skillsDir file request =
      buildContextBuildSkillInvocation skillsDir otherFile other) :
    request.stage = other.stage ∧ request.identity = other.identity := by
  have htext := congrArg String.toList h
  have hbreak : "\n".toList = ['\n'] := rfl
  simp only [invocation_eq, String.toList_append, hbreak, List.append_assoc, List.singleton_append] at htext
  have hfirst : ∀ c ∈ "Runtime input:".toList.head?, ¬ Indents c := by
    intro c hc
    obtain rfl : 'R' = c := Option.some.inj hc
    decide
  obtain ⟨hhead, hjson⟩ := @cut_at_line "Runtime input:".toList (by decide) hfirst (by decide) _ _ _ _
    (indented_object _) (indented_object _) htext
  exact ⟨invocationHead_determines (String.toList_inj.mp hhead), runtimeInputJson_determines (String.toList_inj.mp hjson)⟩

end ForgeRuntime
