import ForgeRuntime.Decision.AdrBuilder
import ForgeRuntime.Evidence.EvidenceEngine

/-!
# The deliverable documents

`renderDeliverableDocuments` writes the three documents: `CONTEXT.md` from the knowledge package, the
glossary and the decisions made after the package, `ADR.md` from the records, and `handoff.md` with
personal data blotted out.
-/

namespace ForgeRuntime

open EventDriven EventDriven.Text EventDriven.Pattern

structure DocumentsContent where
  context : String
  adr : String
  handoff : String
deriving DecidableEq, Repr

def citations (evidenceIds : List String) : String :=
  join "、" (evidenceIds.map fun id => "\x60" ++ id ++ "\x60")

/-! ### The handoff -/

def isMailNameChar (c : Char) : Bool := c.isAlphanum || "._%+-".toList.contains c

def isMailHostChar (c : Char) : Bool := c.isAlphanum || c == '.' || c == '-'

def mailPattern : Pattern :=
  sequence
    [wordBoundary, atLeast 1 isMailNameChar, literal "@", atLeast 1 isMailHostChar, literal ".",
      atLeast 2 Char.isAlpha, wordBoundary]

def homePathPattern : Pattern :=
  sequence
    [choice
      [sequence [one Char.isAlpha, literal ":\\Users\\"],
        sequence [literal "/", choice [literal "home", literal "Users"], literal "/"]],
      atLeast 1 fun c => c != '\\' && c != '/' && !isSpace c]

def phonePattern : Pattern :=
  sequence
    [opt (literal "+"), one Char.isDigit, atLeast 7 (fun c => c.isDigit || " ().-".toList.contains c),
      one Char.isDigit]

def redacted : String := "[已遮蔽]"

/-- A run of digits is blotted out from nine digits on. -/
def redactPhone (candidate : String) : String :=
  if (candidate.toList.filter Char.isDigit).length ≥ 9 then redacted else candidate

def redactHandoffPii (value : String) : String :=
  replace phonePattern redactPhone
    (replace homePathPattern (fun _ => redacted) (replace mailPattern (fun _ => redacted) value))

/-! ### The three documents -/

/-- A line of `CONTEXT.md` for a statement with its evidence. -/
def statementLine (statement : String) (evidenceIds : List String) : String :=
  "- " ++ statement ++ "（證據：" ++ citations evidenceIds ++ "）"

def glossaryLine (entry : ContextGlossaryEntry) : String :=
  "- **" ++ entry.term ++ "**：" ++ entry.definition ++ "（證據：" ++ citations entry.evidenceIds ++ "）"

def evidenceLine (evidence : Evidence) : String :=
  "- \x60" ++ evidence.evidenceId ++ "\x60｜" ++ evidence.kind ++ "｜" ++ evidence.title

def decisionLine (decision : EvidenceDecision) : String :=
  statementLine decision.statement decision.evidenceIds

/-- The line of a decision that was made after the package. -/
def laterDecisionLine (decision : EvidenceDecision) : String :=
  "- \x60" ++ decision.decisionId ++ "\x60：" ++ decision.statement ++ "（證據：" ++
    citations decision.evidenceIds ++ "）"

def limitationLine (limitation : EvidenceLimitation) : String :=
  "- [" ++ (if limitation.blocking then "blocking" else "non-blocking") ++ "] " ++ limitation.statement

def specGapLines (gap : SpecGap) : List String :=
  [ "- 目標：" ++ gap.target,
    "- 原因：" ++ gap.reason,
    "- 缺少證據：" ++ join "、" gap.missingEvidence,
    "- 影響：" ++ gap.impact ]

/-- The lines of `CONTEXT.md`. -/
def contextLines (package : EvidencePackage) (candidate : ContextCandidate)
    (humanDecisions : List EvidenceDecision) : List String :=
  ["# CONTEXT", "", "## 詞彙"] ++ candidate.glossary.map glossaryLine ++
    ["", "## 證據索引"] ++ package.evidence.map evidenceLine ++
    ["", "## 已確認決策"] ++ package.decisions.map decisionLine ++
    (if humanDecisions.length > 0 then
      ["", "## 後續使用者決策"] ++ humanDecisions.map laterDecisionLine
    else []) ++
    ["", "## 已驗證發現"] ++
    package.findings.map (fun finding => statementLine finding.statement finding.evidenceIds) ++
    ["", "## 限制與 Spec Gap"] ++ package.limitations.map limitationLine ++
    (package.specGap.map specGapLines).getD []

def adrRecordLines (record : AdrCandidateRecord) (index : Nat) : List String :=
  ["", "## 決策 " ++ toString (index + 1), "", "**決策：** " ++ record.decision, "",
    "**理由：** " ++ record.rationale, "", "**後果：**"] ++
    record.consequences.map (fun consequence => "- " ++ consequence) ++
    ["", "**證據：** " ++ citations record.citations]

def handoffLines (handoff : HandoffCandidate) : List String :=
  ["# handoff", "", "## 目前狀態", redactHandoffPii handoff.summary, "", "## 下一個 session 重點",
    redactHandoffPii handoff.nextSessionFocus, "", "## 參考文件"] ++
    handoff.references.map (fun reference => "- " ++ redactHandoffPii reference) ++
    ["", "## Suggested skills"] ++
    handoff.suggestedSkills.map fun skill => "- " ++ redactHandoffPii skill

def renderDeliverableDocuments (knowledgePackage : EvidencePackage) (contextCandidate : ContextCandidate)
    (adrBuildCandidate : AdrBuildCandidate) (humanDecisions : List EvidenceDecision) :
    DocumentsContent :=
  { context := join "\n" (contextLines knowledgePackage contextCandidate humanDecisions)
    adr := join "\n"
      (["# ADR"] ++ (adrBuildCandidate.records.zipIdx.flatMap fun record =>
        adrRecordLines record.1 record.2))
    handoff := join "\n" (handoffLines adrBuildCandidate.handoff) }

end ForgeRuntime
