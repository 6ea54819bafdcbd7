import ForgeRuntime.Lib.Pattern
import ForgeRuntime.Knowledge.ContextBuilder

/-!
# ADR candidates

The records and the handoff that the ADR Build step hands in, and their validator: the records cite known
evidence, and the handoff names the two documents and holds no obvious secret.
-/

namespace ForgeRuntime

open EventDriven EventDriven.Text EventDriven.Pattern

structure AdrBuildIdentity where
  attemptId : String
  sourceRoundId : String
deriving DecidableEq, Repr

structure AdrCandidateRecord where
  citations : List String
  consequences : List String
  decision : String
  rationale : String
deriving DecidableEq, Repr

structure HandoffCandidate where
  summary : String
  nextSessionFocus : String
  references : List String
  suggestedSkills : List String
deriving DecidableEq, Repr

structure AdrBuildCandidate where
  records : List AdrCandidateRecord
  handoff : HandoffCandidate
deriving DecidableEq, Repr

/-- `freezeAdrBuildCandidate` copies: equality of values does not see it. -/
def freezeAdrBuildCandidate (candidate : AdrBuildCandidate) : AdrBuildCandidate := candidate

def isTokenChar (c : Char) : Bool := c.isAlphanum || "._~+/=-".toList.contains c

def isKeyChar (c : Char) : Bool := c.isAlphanum || c == '_' || c == '-'

def isKeySeparator (c : Char) : Bool := c == '_' || c == ' ' || c == '-'

/-- `OBVIOUS_SECRET_PATTERNS`: a private key block, an assignment to a secret's name, a bearer token, and
an API key. -/
def obviousSecretPatterns : List Pattern :=
  [ sequence
      [literalI "-----BEGIN ",
        opt (choice [literalI "RSA ", literalI "EC ", literalI "OPENSSH "]),
        literalI "PRIVATE KEY-----"],
    sequence
      [wordBoundary,
        choice
          [sequence [literalI "api", opt (one isKeySeparator), literalI "key"], literalI "password",
            literalI "passwd", literalI "secret",
            sequence [literalI "access", opt (one isKeySeparator), literalI "token"]],
        atLeast 0 isSpace, one (fun c => c == ':' || c == '='), atLeast 0 isSpace,
        atLeast 1 (fun c => !isSpace c)],
    sequence [wordBoundary, literalI "Bearer", atLeast 1 isSpace, atLeast 8 isTokenChar],
    sequence [wordBoundary, literal "sk-", atLeast 8 isKeyChar] ]

def adrRecordErrors (evidenceIds : List String) (record : AdrCandidateRecord) : List String :=
  errorIf (Blank record.decision) "ADR decision 不得為空" ++
    errorIf (Blank record.rationale) "ADR rationale 不得為空" ++
    errorIf (record.consequences = [] ∨ ∃ consequence ∈ record.consequences, Blank consequence)
      ("ADR " ++ quote record.decision ++ " 缺少 consequence") ++
    if record.citations = [] then
      ["ADR " ++ quote record.decision ++ " 缺少 Evidence ID"]
    else
      unknownIdErrors "ADR 引用不存在的 Evidence ID：" evidenceIds record.citations

/-- The text of the handoff that the secret patterns are tried on. -/
def handoffText (handoff : HandoffCandidate) : String :=
  join "\n" ([handoff.summary, handoff.nextSessionFocus] ++ handoff.references ++ handoff.suggestedSkills)

def handoffErrors (handoff : HandoffCandidate) : List String :=
  errorIf (Blank handoff.summary) "handoff summary 不得為空" ++
    errorIf (Blank handoff.nextSessionFocus) "handoff nextSessionFocus 不得為空" ++
    errorIf ("Documents/CONTEXT.md" ∉ handoff.references ∨ "Documents/ADR.md" ∉ handoff.references)
      "handoff references 必須包含 Documents/CONTEXT.md 與 Documents/ADR.md" ++
    errorIf (handoff.suggestedSkills = [] ∨ ∃ skill ∈ handoff.suggestedSkills, Blank skill)
      "handoff 至少需要一個 suggested skill" ++
    errorIf (obviousSecretPatterns.any fun r => test r (handoffText handoff)) "handoff 包含疑似敏感資訊"

/-- The errors of a candidate; accepted when empty. -/
def validateAdrBuildCandidate (candidate : AdrBuildCandidate) (evidenceIds : List String) : List String :=
  (if candidate.records = [] then ["ADR candidate 至少需要一筆決策"]
    else candidate.records.flatMap (adrRecordErrors evidenceIds)) ++
    handoffErrors candidate.handoff

/-- **Accepted records cite known evidence only.** -/
theorem records_cite_known {candidate : AdrBuildCandidate} {evidenceIds : List String}
    (h : validateAdrBuildCandidate candidate evidenceIds = []) :
    ∀ record ∈ candidate.records, ∀ id ∈ record.citations, id ∈ evidenceIds := by
  intro record hrecord id hid
  have hrecords : candidate.records ≠ [] := List.ne_nil_of_mem hrecord
  simp only [validateAdrBuildCandidate, if_neg hrecords, List.append_eq_nil_iff] at h
  have herrors : adrRecordErrors evidenceIds record = [] :=
    List.flatMap_eq_nil_iff.mp h.1 record hrecord
  have hcited : record.citations ≠ [] := List.ne_nil_of_mem hid
  simp only [adrRecordErrors, List.append_eq_nil_iff, if_neg hcited] at herrors
  exact unknownIdErrors_eq_nil.mp herrors.2 id hid

end ForgeRuntime
