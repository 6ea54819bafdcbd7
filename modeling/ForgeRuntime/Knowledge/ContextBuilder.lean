import ForgeRuntime.Lib.Text
import Mathlib.Data.List.Basic

/-!
# Context candidates and ambiguities

What the Context Build step hands in: a glossary whose entries cite evidence, or a question for the user.
The two validators collect all their errors; a value is accepted when there is none.
-/

namespace ForgeRuntime

open EventDriven EventDriven.Text

structure ContextGlossaryEntry where
  term : String
  definition : String
  evidenceIds : List String
deriving DecidableEq, Repr

structure ContextCandidate where
  glossary : List ContextGlossaryEntry
deriving DecidableEq, Repr

structure ContextBuildIdentity where
  attemptId : String
  sourceRoundId : String
deriving DecidableEq, Repr

structure ContextAmbiguity where
  decisionId : String
  question : String
  options : List String
  recommendation : String
  evidenceIds : List String
deriving DecidableEq, Repr

inductive ContextBuildCompletion where
  | completed (candidate : ContextCandidate)
  | ambiguous (ambiguity : ContextAmbiguity)
deriving DecidableEq, Repr

/-- `freezeContextCandidate` copies: equality of values does not see it. -/
def freezeContextCandidate (candidate : ContextCandidate) : ContextCandidate := candidate

def errorIf (bad : Prop) [Decidable bad] (message : String) : List String :=
  if bad then [message] else []

@[simp] theorem errorIf_eq_nil {bad : Prop} [Decidable bad] {message : String} :
    errorIf bad message = [] ↔ ¬ bad := by
  unfold errorIf
  split
  · rename_i h
    simp [h]
  · rename_i h
    simp [h]

/-- One error for each cited ID that is not known, under a prefix. -/
def unknownIdErrors (text : String) (known cited : List String) : List String :=
  cited.flatMap fun id => errorIf (id ∉ known) (text ++ id)

theorem unknownIdErrors_eq_nil {text : String} {known cited : List String} :
    unknownIdErrors text known cited = [] ↔ ∀ id ∈ cited, id ∈ known := by
  simp [unknownIdErrors]

def glossaryEntryErrors (evidenceIds : List String) (entry : ContextGlossaryEntry) : List String :=
  errorIf (Blank entry.term) "Context glossary term 不得為空" ++
    errorIf (Blank entry.definition) "Context glossary definition 不得為空" ++
    if entry.evidenceIds = [] then
      ["Context glossary " ++ quote entry.term ++ " 缺少 Evidence ID"]
    else
      unknownIdErrors "Context glossary 引用不存在的 Evidence ID：" evidenceIds entry.evidenceIds

/-- The errors of a candidate; accepted when empty. -/
def validateContextCandidate (candidate : ContextCandidate) (evidenceIds : List String) : List String :=
  candidate.glossary.flatMap (glossaryEntryErrors evidenceIds)

/-- **An accepted glossary cites known evidence only.** -/
theorem glossary_cites_known {candidate : ContextCandidate} {evidenceIds : List String}
    (h : validateContextCandidate candidate evidenceIds = []) :
    ∀ entry ∈ candidate.glossary, ∀ id ∈ entry.evidenceIds, id ∈ evidenceIds := by
  intro entry hentry id hid
  have herrors : glossaryEntryErrors evidenceIds entry = [] :=
    List.flatMap_eq_nil_iff.mp h entry hentry
  have hcited : entry.evidenceIds ≠ [] := List.ne_nil_of_mem hid
  simp only [glossaryEntryErrors, List.append_eq_nil_iff, if_neg hcited] at herrors
  exact unknownIdErrors_eq_nil.mp herrors.2 id hid

/-- The errors of an ambiguity; accepted when empty. -/
def validateContextAmbiguity (ambiguity : ContextAmbiguity) (evidenceIds : List String) : List String :=
  errorIf (Blank ambiguity.decisionId) "Context ambiguity decisionId 不得為空" ++
    errorIf (Blank ambiguity.question) "Context ambiguity question 不得為空" ++
    errorIf (ambiguity.options.length < 2 ∨ ∃ option ∈ ambiguity.options, Blank option)
      "Context ambiguity 至少需要兩個非空選項" ++
    errorIf (Blank ambiguity.recommendation ∨ ambiguity.recommendation ∉ ambiguity.options)
      "Context ambiguity recommendation 必須是其中一個選項" ++
    if ambiguity.evidenceIds = [] then
      ["Context ambiguity 缺少 Evidence ID"]
    else
      unknownIdErrors "Context ambiguity 引用不存在的 Evidence ID：" evidenceIds ambiguity.evidenceIds

end ForgeRuntime
