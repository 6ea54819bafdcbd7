import ForgeRuntime.Lib.Json
import ForgeRuntime.Runtime.SessionTypes

/-!
# Grill completions

What a Grill round hands in: a JSON value that must match `GrillCompletionSchema`, name the active round,
hold either one blocking question or none, and cite only evidence that was fetched.  `parseGrillCompletion`
is these checks in the order of the source; it throws the message of the first that fails.

The tests that the source repeats on a value the schema has accepted (a status of the two, an array, a
non-empty text) never fire and have no counterpart.
-/

namespace ForgeRuntime

open EventDriven EventDriven.Text

inductive GrillStatus where
  | needsConfirmation
  | readyForDeep
deriving DecidableEq, Repr

structure GrillQuestion where
  id : String
  options : List String
  question : String
deriving DecidableEq, Repr

structure GrillRecommendation where
  confidence : Option Numeral
  reason : Option String
  value : String
deriving DecidableEq, Repr

structure GrillCompletionPayload where
  evidence : List String
  questions : List GrillQuestion
  recommendation : GrillRecommendation
  requiresUserConfirmation : Bool
  status : GrillStatus
  roundId : String
deriving DecidableEq, Repr

structure GrillCompletionContext where
  expectedRoundId : String
  fetchedEvidenceIds : OrderedSet String
  isFirstRoundOfSnapshot : Bool
  snapshotManifest : List GrillEvidenceManifestEntry

/-! ### The schema -/

/-- A text of at least one character. -/
def nonemptyText? (value : Json String) : Option String := value.text?.filter (· ≠ "")

/-- An object whose members all have one of the names. -/
def closedObject? (names : List String) : Json String → Option (Json String)
  | .object members => if members.all (·.1 ∈ names) then some (.object members) else none
  | _ => none

/-- A member that may be absent, but is of the right type when present. -/
def optionalField? {α : Type} (name : String) (decode : Json String → Option α) (value : Json String) :
    Option (Option α) :=
  match value.field? name with
  | none => some none
  | some member => (decode member).map some

/-- An option of a question: a text, or an object that carries one as its value. -/
def grillOption? (value : Json String) : Option String :=
  match value with
  | .text _ => nonemptyText? value
  | _ => do
      let option ← closedObject? ["id", "value"] value
      let _ ← optionalField? "id" Json.text? option
      nonemptyText? (← option.field? "value")

def grillQuestion? (value : Json String) : Option GrillQuestion := do
  let question ← closedObject? ["id", "options", "question"] value
  let id ← nonemptyText? (← question.field? "id")
  let options ← (← (← question.field? "options").array?).mapM grillOption?
  let text ← nonemptyText? (← question.field? "question")
  if options = [] then none else some ⟨id, options, text⟩

/-- A number, which the validator takes only when it is finite. -/
def number? : Json String → Option Numeral
  | .number value => if value.isFinite then some value else none
  | _ => none

def grillRecommendation? (value : Json String) : Option GrillRecommendation := do
  let confidence ← optionalField? "confidence" number? value
  let reason ← optionalField? "reason" Json.text? value
  let recommended ← nonemptyText? (← value.field? "value")
  return ⟨confidence, reason, recommended⟩

def grillStatus? : Json String → Option GrillStatus
  | .text "NEEDS_CONFIRMATION" => some .needsConfirmation
  | .text "READY_FOR_DEEP" => some .readyForDeep
  | _ => none

/-- `GrillCompletionSchema`, with the options brought to their texts. -/
def grillCompletion? (value : Json String) : Option GrillCompletionPayload := do
  let completion ← closedObject?
    ["evidence", "questions", "recommendation", "requiresUserConfirmation", "roundId", "status"] value
  let evidence ← (← (← completion.field? "evidence").array?).mapM nonemptyText?
  let questions ← (← (← completion.field? "questions").array?).mapM grillQuestion?
  let recommendation ← grillRecommendation? (← completion.field? "recommendation")
  let requiresUserConfirmation ← (← completion.field? "requiresUserConfirmation").bool?
  let roundId ← nonemptyText? (← completion.field? "roundId")
  let status ← grillStatus? (← completion.field? "status")
  return ⟨evidence, questions, recommendation, requiresUserConfirmation, status, roundId⟩

/-! ### The gates -/

/-- One blocking question, or none and nothing to confirm. -/
def parseStructuredGrillResult (completion : GrillCompletionPayload) :
    Except String GrillCompletionPayload :=
  match completion.status with
  | .needsConfirmation =>
      if completion.requiresUserConfirmation ≠ true ∨ completion.questions.length ≠ 1 then
        .error "structured grill result needs one blocking confirmation question"
      else .ok completion
  | .readyForDeep =>
      if completion.requiresUserConfirmation ≠ false ∨ completion.questions.length ≠ 0 then
        .error "READY_FOR_DEEP must set requiresUserConfirmation to false with no questions"
      else .ok completion

/-- A payload is a JSON value or the text of one. -/
def grillInput (parseJson : String → Except String (Json String)) : Json String → Except String (Json String)
  | .text raw => parseJson raw
  | value => .ok value

def parseGrillCompletion (parseJson : String → Except String (Json String)) (payload : Json String)
    (context : GrillCompletionContext) : Except String GrillCompletionPayload := do
  let input ← grillInput parseJson payload
  let some completion := grillCompletion? input | throw "invalid grill completion payload"
  if completion.roundId ≠ context.expectedRoundId then
    throw "grill completion roundId does not match the active round"
  let result ← parseStructuredGrillResult completion
  let emptySnapshotFirstRoundNeedsConfirmation :=
    context.isFirstRoundOfSnapshot = true ∧ context.snapshotManifest.length = 0 ∧
      result.status = .needsConfirmation ∧ result.requiresUserConfirmation = true ∧
      result.questions.length = 1
  if context.isFirstRoundOfSnapshot = true ∧ result.evidence.length = 0 ∧
      ¬ emptySnapshotFirstRoundNeedsConfirmation then
    throw "grill completion requires at least one fetched evidence in the first snapshot round"
  if ∃ candidateId ∈ result.evidence, candidateId ∉ context.fetchedEvidenceIds then
    throw "grill completion references evidence that was not fetched"
  return result

/-- The payload of the question that a completion asks; there is none to read in a completion without. -/
def toWaitUserPayload (result : GrillCompletionPayload) : Except String WaitUserPayload :=
  match result.questions with
  | [] => .error "Cannot read properties of undefined (reading 'id')"
  | question :: _ => .ok
      { kind := .grillConfirmation
        roundId := result.roundId
        decisionId := question.id
        decisionSummary := result.recommendation.reason
        evidenceIds := result.evidence
        options := question.options
        question := question.question
        recommendation := result.recommendation.value }

end ForgeRuntime
