import ForgeRuntime.Lib.Schema
import ForgeRuntime.Lib.Checks
import ForgeRuntime.Grill.GrillResult

/-!
# The two readers of a Grill completion

`grill-result.ts` reads a completion twice: a validator matches the value against `GrillCompletionSchema`, and
`parseStructuredGrillResult` takes a re-serialised copy apart again, with tests of its own.  Both are modelled
here as they stand, down to the tests that a matched value always passes, over the strings of the source
language, in which half of a surrogate pair may stand alone.

* `Acceptable` — what a completion has to be: the schema, the shape of its status and the gates of the context;
* `Reads` — what a result says of the value that it was read from;
* `parseGrillCompletion_eq_ok` — **the readers accept exactly the acceptable values**;
* `parseGrillCompletion_wide` — the reader of one pass that the extension is modelled with does the same;
* `grill_completion_grammar` — the grammar of completions, and that the text of a result is accepted again.
-/

namespace ForgeRuntime

open EventDriven

namespace Grill

/-! ### The schema -/

def grillOptionSchema : Schema :=
  .union [.string true, .object [("id", .optional (.string false)), ("value", .string true)] false]

def grillQuestionSchema : Schema :=
  .object [("id", .string true), ("options", .array grillOptionSchema 1), ("question", .string true)] false

def grillRecommendationSchema : Schema :=
  .object [("confidence", .optional .number), ("reason", .optional (.string false)), ("value", .string true)] true

def grillStatusSchema : Schema :=
  .union [.literal "NEEDS_CONFIRMATION", .literal "READY_FOR_DEEP"]

def GrillCompletionSchema : Schema :=
  .object
    [("evidence", .array (.string true) 0),
      ("questions", .array grillQuestionSchema 0),
      ("recommendation", grillRecommendationSchema),
      ("requiresUserConfirmation", .boolean),
      ("roundId", .string true),
      ("status", grillStatusSchema)] false

/-! ### The structural reader -/

structure GrillQuestion where
  id : Utf16
  options : List Utf16
  question : Utf16

/-- The recommendation as the structural reader returns it: the two optional members are not looked into. -/
structure GrillRecommendation where
  confidence : Option (Json Utf16)
  reason : Option (Json Utf16)
  value : Utf16

structure StructuredGrillResult where
  evidence : List Utf16
  questions : List GrillQuestion
  recommendation : GrillRecommendation
  requiresUserConfirmation : Bool
  status : GrillStatus

structure GrillCompletionPayload extends StructuredGrillResult where
  roundId : Utf16

/-- The snapshot's manifest is only counted. -/
structure GrillCompletionContext (α : Type) where
  expectedRoundId : Utf16
  fetchedEvidenceIds : OrderedSet Utf16
  isFirstRoundOfSnapshot : Option Bool
  snapshotManifest : Option (List α)

/-- A text of at least one character. -/
def nonemptyText? (value : Json Utf16) : Option Utf16 := value.text?.filter (· ≠ "")

def normalizeQuestionOption (option : Json Utf16) : Option Utf16 :=
  match option with
  | .text _ => nonemptyText? option
  | _ => (option.field? "value").bind nonemptyText?

def normalizeQuestionOptions (options : Option (Json Utf16)) : Option (List Utf16) :=
  match options.bind Json.array? with
  | none => none
  | some options =>
      if options.length = 0 then none
      else
        let normalized := options.map normalizeQuestionOption
        if normalized.any (·.isNone) then none else some (normalized.filterMap id)

def normalizeQuestion (question : Option (Json Utf16)) : Option GrillQuestion := do
  let question ← question
  let normalizedOptions ← normalizeQuestionOptions (question.field? "options")
  let id ← (question.field? "id").bind Json.text?
  let text ← (question.field? "question").bind Json.text?
  return ⟨id, normalizedOptions, text⟩

/-- A value that has to be there. -/
def require {α : Type} (message : String) : Option α → Except String α
  | some a => .ok a
  | none => .error message

/-- A property of the value that was read; there is none to read of `null`. -/
def propertyOf (name : String) : Json Utf16 → Except String (Option (Json Utf16))
  | .null => .error s!"Cannot read properties of null (reading '{name}')"
  | value => .ok (value.field? name)

def grillStatus? (value : Json Utf16) : Option GrillStatus := do
  let status ← value.text?
  if status = "NEEDS_CONFIRMATION" then some .needsConfirmation
  else if status = "READY_FOR_DEEP" then some .readyForDeep
  else none

/-- One blocking question, or none and nothing to confirm. -/
def checkShape (status : GrillStatus) (requiresUserConfirmation : Bool) (questionCount : Nat) :
    Except String Unit :=
  match status with
  | .needsConfirmation =>
      Checks.refuseIf (requiresUserConfirmation ≠ true ∨ questionCount ≠ 1)
        "structured grill result needs one blocking confirmation question"
  | .readyForDeep =>
      Checks.refuseIf (requiresUserConfirmation ≠ false ∨ questionCount ≠ 0)
        "READY_FOR_DEEP must set requiresUserConfirmation to false with no questions"

section

-- the message of the engine for a text that is not JSON
variable (syntaxError : Utf16 → String)

def parseStructuredGrillResult (raw : Utf16) : Except String StructuredGrillResult := do
  let parsed ← require (syntaxError raw) (Json.parse? raw)
  let status ← propertyOf "status" parsed
  let status ← require "structured grill result requires status NEEDS_CONFIRMATION or READY_FOR_DEEP"
    (status.bind grillStatus?)
  let requiresUserConfirmation ← require "structured grill result must include requiresUserConfirmation"
    ((parsed.field? "requiresUserConfirmation").bind Json.bool?)
  let parsedQuestions ← require "structured grill result requires questions array"
    ((parsed.field? "questions").bind Json.array?)
  checkShape status requiresUserConfirmation parsedQuestions.length
  let normalizedQuestions :=
    if status = .needsConfirmation then [normalizeQuestion parsedQuestions.head?] else []
  let questions := normalizedQuestions.filterMap id
  Checks.refuseIf (status = .needsConfirmation ∧ questions.length = 0)
    "structured grill result contains an invalid question"
  let recommendation := parsed.field? "recommendation"
  let value ← require "structured grill result requires recommendation value"
    ((recommendation.bind (·.field? "value")).bind nonemptyText?)
  let evidence ← require "structured grill result requires evidence ids"
    (((parsed.field? "evidence").bind Json.array?).bind fun items => items.mapM nonemptyText?)
  return {
    evidence := evidence
    questions := questions
    recommendation :=
      { confidence := recommendation.bind (·.field? "confidence")
        reason := recommendation.bind (·.field? "reason")
        value := value }
    requiresUserConfirmation := requiresUserConfirmation
    status := status }

/-! ### The completion -/

/-- A payload is a value, or the text of one. -/
def completionInput (payload : Json Utf16) : Except String (Json Utf16) :=
  match payload with
  | .text raw => require (syntaxError raw) (Json.parse? raw)
  | _ => .ok payload

variable {α : Type}

def parseGrillCompletion (payload : Json Utf16) (context : GrillCompletionContext α) :
    Except String GrillCompletionPayload := do
  let completion ← completionInput syntaxError payload
  Checks.refuseIf (GrillCompletionSchema.check completion ≠ true) "invalid grill completion payload"
  let roundId := (completion.field? "roundId").bind Json.text?
  Checks.refuseIf (roundId ≠ some context.expectedRoundId)
    "grill completion roundId does not match the active round"
  let result ← parseStructuredGrillResult syntaxError completion.stringify
  let emptySnapshotFirstRoundNeedsConfirmation :=
    context.isFirstRoundOfSnapshot = some true ∧ context.snapshotManifest.map List.length = some 0 ∧
      result.status = .needsConfirmation ∧ result.requiresUserConfirmation = true ∧
      result.questions.length = 1
  Checks.refuseIf (context.isFirstRoundOfSnapshot = some true ∧ result.evidence.length = 0 ∧
      ¬ emptySnapshotFirstRoundNeedsConfirmation)
    "grill completion requires at least one fetched evidence in the first snapshot round"
  Checks.refuseIf (∃ candidateId ∈ result.evidence, candidateId ∉ context.fetchedEvidenceIds)
    "grill completion references evidence that was not fetched"
  return { result with roundId := roundId.getD context.expectedRoundId }

end

/-! ### What is accepted, and what is read -/

/-- The two statuses, as they are written. -/
def statusText : GrillStatus → Utf16
  | .needsConfirmation => "NEEDS_CONFIRMATION"
  | .readyForDeep => "READY_FOR_DEEP"

/-- **A completion that has to be accepted**: it matches the schema and names the round, asks one question or
none, and cites fetched evidence, in the first round of a snapshot at least one item unless there is nothing
to cite and something to ask. -/
structure Acceptable {α : Type} (context : GrillCompletionContext α) (input : Json Utf16) : Prop where
  schema : GrillCompletionSchema.check input = true
  round : input.field? "roundId" = some (.text context.expectedRoundId)
  shape :
    (input.field? "status" = some (.text "NEEDS_CONFIRMATION") ∧
      input.field? "requiresUserConfirmation" = some (.bool true) ∧
      ∃ question, input.field? "questions" = some (.array [question])) ∨
    (input.field? "status" = some (.text "READY_FOR_DEEP") ∧
      input.field? "requiresUserConfirmation" = some (.bool false) ∧
      input.field? "questions" = some (.array []))
  firstRound : context.isFirstRoundOfSnapshot = some true → input.field? "evidence" = some (.array []) →
    context.snapshotManifest.map List.length = some 0 ∧
      input.field? "status" = some (.text "NEEDS_CONFIRMATION")
  fetched : ∀ ids, input.field? "evidence" = some (.texts ids) → ∀ id ∈ ids, id ∈ context.fetchedEvidenceIds

/-- An option is its text, or the text of its value. -/
def ReadsOption (option : Json Utf16) (text : Utf16) : Prop :=
  option = .text text ∨ option.field? "value" = some (.text text)

structure ReadsQuestion (question : Json Utf16) (result : GrillQuestion) : Prop where
  id : question.field? "id" = some (.text result.id)
  text : question.field? "question" = some (.text result.question)
  options : ∃ options, question.field? "options" = some (.array options) ∧
    List.Forall₂ ReadsOption options result.options

/-- **What a result says** is what the value has. -/
structure ReadsResult (input : Json Utf16) (result : StructuredGrillResult) : Prop where
  evidence : input.field? "evidence" = some (.texts result.evidence)
  status : input.field? "status" = some (.text (statusText result.status))
  requiresUserConfirmation :
    input.field? "requiresUserConfirmation" = some (.bool result.requiresUserConfirmation)
  recommendation : ∃ recommendation, input.field? "recommendation" = some recommendation ∧
    recommendation.field? "confidence" = result.recommendation.confidence ∧
    recommendation.field? "reason" = result.recommendation.reason ∧
    recommendation.field? "value" = some (.text result.recommendation.value)
  questions : ∃ questions, input.field? "questions" = some (.array questions) ∧
    List.Forall₂ ReadsQuestion questions result.questions

structure Reads (input : Json Utf16) (result : GrillCompletionPayload) : Prop
    extends ReadsResult input result.toStructuredGrillResult where
  roundId : input.field? "roundId" = some (.text result.roundId)

/-! ### What the schema says -/

theorem check_option {option : Json Utf16} : grillOptionSchema.check option = true ↔
    (∃ text : Utf16, option = .text text ∧ text ≠ "") ∨
      (Schema.closed ["id", "value"] false option = true ∧
        (∀ id, option.field? "id" = some id → ∃ text : Utf16, id = .text text) ∧
        ∃ text : Utf16, option.field? "value" = some (.text text) ∧ text ≠ "") := by
  simp [grillOptionSchema, Schema.check_union, Schema.check_object, Schema.fits_optional,
    Schema.fits_required, Schema.check_nonempty, Schema.check_string]

theorem check_question {question : Json Utf16} : grillQuestionSchema.check question = true ↔
    Schema.closed ["id", "options", "question"] false question = true ∧
      (∃ id : Utf16, question.field? "id" = some (.text id) ∧ id ≠ "") ∧
      (∃ options, question.field? "options" = some (.array options) ∧ options ≠ [] ∧
        ∀ option ∈ options, grillOptionSchema.check option = true) ∧
      ∃ text : Utf16, question.field? "question" = some (.text text) ∧ text ≠ "" := by
  simp [grillQuestionSchema, Schema.check_object, Schema.fits_required,
    Schema.check_nonempty, Schema.check_array, Nat.one_le_iff_ne_zero]

theorem check_recommendation {recommendation : Json Utf16} : grillRecommendationSchema.check recommendation = true ↔
    (∃ members, recommendation = .object members) ∧
      (∀ confidence, recommendation.field? "confidence" = some confidence →
        ∃ n : Numeral, confidence = .number n ∧ n.isFinite = true) ∧
      (∀ reason, recommendation.field? "reason" = some reason → ∃ text : Utf16, reason = .text text) ∧
      ∃ text : Utf16, recommendation.field? "value" = some (.text text) ∧ text ≠ "" := by
  have hclosed : ∀ names, Schema.closed names true recommendation = true ↔
      ∃ members, recommendation = .object members := by
    intro names
    cases recommendation <;> simp [Schema.closed]
  simp [grillRecommendationSchema, Schema.check_object, Schema.fits_required,
    Schema.fits_optional, Schema.check_nonempty, Schema.check_string, Schema.check_number, hclosed]

theorem check_completion {input : Json Utf16} : GrillCompletionSchema.check input = true ↔
    Schema.closed
        ["evidence", "questions", "recommendation", "requiresUserConfirmation", "roundId", "status"]
        false input = true ∧
      (∃ items, input.field? "evidence" = some (.array items) ∧
        ∀ item ∈ items, ∃ id : Utf16, item = .text id ∧ id ≠ "") ∧
      (∃ questions, input.field? "questions" = some (.array questions) ∧
        ∀ question ∈ questions, grillQuestionSchema.check question = true) ∧
      (∃ recommendation, input.field? "recommendation" = some recommendation ∧
        grillRecommendationSchema.check recommendation = true) ∧
      (∃ b, input.field? "requiresUserConfirmation" = some (.bool b)) ∧
      (∃ id : Utf16, input.field? "roundId" = some (.text id) ∧ id ≠ "") ∧
      ∃ status, input.field? "status" = some (.text (statusText status)) := by
  have hstatus : (∃ status, input.field? "status" = some (.text (statusText status))) ↔
      input.field? "status" = some (.text "NEEDS_CONFIRMATION") ∨
        input.field? "status" = some (.text "READY_FOR_DEEP") := by
    constructor
    · rintro ⟨_ | _, h⟩
      · exact .inl h
      · exact .inr h
    · rintro (h | h)
      · exact ⟨.needsConfirmation, h⟩
      · exact ⟨.readyForDeep, h⟩
  have hrecommendation : Schema.isOptional grillRecommendationSchema = false := rfl
  rw [hstatus]
  simp [-Bool.exists_bool, GrillCompletionSchema, grillStatusSchema, hrecommendation, Schema.check_object,
    Schema.fits_required, Schema.check_nonempty, Schema.check_array, Schema.check_boolean, Schema.check_union,
    Schema.check_literal, and_or_left, exists_or]

/-! ### What the structural reader does with a matched value -/

theorem nonemptyText_eq_some {value : Json Utf16} {text : Utf16} :
    nonemptyText? value = some text ↔ value = .text text ∧ text ≠ "" := by
  cases value <;> simp [nonemptyText?, Json.text?, Option.filter_eq_some_iff]

theorem text_eq_some {τ : Type} {value : Json τ} {text : τ} : value.text? = some text ↔ value = .text text := by
  cases value <;> simp [Json.text?]

theorem grillStatus_eq_some {value : Json Utf16} {status : GrillStatus} :
    grillStatus? value = some status ↔ value = .text (statusText status) := by
  simp only [grillStatus?, Option.bind_eq_bind, Option.bind_eq_some_iff, text_eq_some]
  constructor
  · rintro ⟨text, rfl, h⟩
    split at h
    · rename_i htext
      cases h
      rw [htext, statusText]
    · split at h
      · rename_i htext
        cases h
        rw [htext, statusText]
      · cases h
  · rintro rfl
    refine ⟨_, rfl, ?_⟩
    cases status with
    | needsConfirmation => rfl
    | readyForDeep => exact if_neg (by decide)

theorem mapM_eq_some {α β : Type} {f : α → Option β} {xs : List α} {ys : List β} :
    xs.mapM f = some ys ↔ List.Forall₂ (fun x y => f x = some y) xs ys := by
  induction xs generalizing ys with
  | nil => simp [List.forall₂_nil_left_iff, eq_comm]
  | cons x xs ih =>
      rw [List.mapM_cons, List.forall₂_cons_left_iff]
      simp only [Option.bind_eq_bind, Option.bind_eq_some_iff, Option.pure_def, Option.some.injEq, ih]
      constructor
      · rintro ⟨y, hy, rest, hrest, rfl⟩
        exact ⟨y, rest, hy, hrest, rfl⟩
      · rintro ⟨y, rest, hy, hrest, rfl⟩
        exact ⟨y, hy, rest, hrest, rfl⟩

theorem forall₂_and_right {α β : Type} {R : α → β → Prop} {p : β → Prop} {xs : List α} {ys : List β} :
    List.Forall₂ (fun x y => R x y ∧ p y) xs ys ↔ List.Forall₂ R xs ys ∧ ∀ y ∈ ys, p y := by
  constructor
  · intro h
    induction h with
    | nil => simp
    | cons hxy _ ih => exact ⟨.cons hxy.1 ih.1, List.forall_mem_cons.mpr ⟨hxy.2, ih.2⟩⟩
  · rintro ⟨h, hp⟩
    induction h with
    | nil => exact .nil
    | cons hxy _ ih =>
        obtain ⟨hy, hys⟩ := List.forall_mem_cons.mp hp
        exact .cons ⟨hxy, hy⟩ (ih hys)

theorem forall₂_text {items : List (Json Utf16)} {texts : List Utf16} :
    List.Forall₂ (fun item text => item = Json.text text) items texts ↔ items = texts.map .text := by
  rw [← List.forall₂_eq_eq_eq, List.forall₂_map_right_iff]

theorem mapM_nonemptyText {items : List (Json Utf16)} {ids : List Utf16} :
    items.mapM nonemptyText? = some ids ↔ items = ids.map .text ∧ ∀ id ∈ ids, id ≠ "" := by
  simp only [mapM_eq_some, nonemptyText_eq_some]
  rw [forall₂_and_right, forall₂_text]

/-- A text has no members. -/
theorem field_text (name text : Utf16) : Json.field? (.text text) name = none := rfl

theorem normalizeQuestionOption_eq_some {option : Json Utf16} {text : Utf16} :
    normalizeQuestionOption option = some text ↔ ReadsOption option text ∧ text ≠ "" := by
  unfold normalizeQuestionOption ReadsOption
  split
  · rename_i value
    rw [nonemptyText_eq_some, field_text]
    simp
  · rename_i hnot
    have hne : option ≠ .text text := fun h => hnot text h
    rw [Option.bind_eq_some_iff]
    simp [nonemptyText_eq_some, hne]

/-- Every option has a text: none of the texts is missing, and these are the texts. -/
theorem normalizedOptions_iff (list : List (Json Utf16)) (texts : List Utf16) :
    List.Forall₂ (fun option text => normalizeQuestionOption option = some text) list texts ↔
      (list.map normalizeQuestionOption).any (·.isNone) = false ∧
        (list.map normalizeQuestionOption).filterMap id = texts := by
  induction list generalizing texts with
  | nil => simp [List.forall₂_nil_left_iff, eq_comm]
  | cons option list ih =>
      rw [List.forall₂_cons_left_iff]
      cases hoption : normalizeQuestionOption option with
      | none => simp [hoption]
      | some text =>
          constructor
          · rintro ⟨_, rest, hsome, hrest, rfl⟩
            cases hsome
            have hih := (ih rest).mp hrest
            simp [hoption, hih.1, ← hih.2]
          · rintro ⟨hnone, rfl⟩
            have hnone' : (list.map normalizeQuestionOption).any (·.isNone) = false := by
              simpa [hoption] using hnone
            exact ⟨text, _, rfl, (ih _).mpr ⟨hnone', rfl⟩, by simp [hoption]⟩

theorem normalizeQuestionOptions_eq_some {options : Option (Json Utf16)} {texts : List Utf16} :
    normalizeQuestionOptions options = some texts ↔
      ∃ list, options = some (.array list) ∧ list ≠ [] ∧
        List.Forall₂ (fun option text => normalizeQuestionOption option = some text) list texts := by
  unfold normalizeQuestionOptions
  cases hlist : options.bind Json.array? with
  | none =>
      simp only [reduceCtorEq, false_iff, not_exists, not_and]
      rintro list rfl
      exact absurd hlist (by simp [Json.array?])
  | some list =>
      have hoptions : options = some (.array list) := by
        obtain ⟨value, rfl, hvalue⟩ := Option.bind_eq_some_iff.mp hlist
        cases value <;> simp_all [Json.array?]
      cases list with
      | nil => simp [hoptions]
      | cons option list =>
          simp only [List.length_cons, Nat.add_eq_zero_iff, Nat.one_ne_zero, and_false, if_false, hoptions,
            Option.some.injEq, Json.array.injEq]
          rw [show (∃ l, option :: list = l ∧ l ≠ [] ∧
              List.Forall₂ (fun o t => normalizeQuestionOption o = some t) l texts) ↔
              List.Forall₂ (fun o t => normalizeQuestionOption o = some t) (option :: list) texts from
            ⟨by rintro ⟨_, rfl, _, h⟩; exact h, fun h => ⟨_, rfl, by simp, h⟩⟩, normalizedOptions_iff]
          cases hany : (List.map normalizeQuestionOption (option :: list)).any (·.isNone) with
          | true => simp
          | false => simp

/-- A question with an identity, a text and options, none of them empty. -/
structure FilledQuestion (question : GrillQuestion) : Prop where
  id : question.id ≠ ""
  text : question.question ≠ ""
  some : question.options ≠ []
  options : ∀ o ∈ question.options, o ≠ ""

/-- What the schema demands of a result. -/
structure Filled (result : StructuredGrillResult) : Prop where
  evidence : ∀ id ∈ result.evidence, id ≠ ""
  confidence : ∀ c, result.recommendation.confidence = some c → ∃ n : Numeral, c = .number n ∧ n.isFinite = true
  reason : ∀ r, result.recommendation.reason = some r → ∃ text : Utf16, r = .text text
  value : result.recommendation.value ≠ ""
  questions : ∀ question ∈ result.questions, FilledQuestion question

/-- A question that reads as one with options, none of them empty, is normalised to it. -/
theorem normalizeQuestion_of_reads {question : Json Utf16} {result : GrillQuestion} (h : ReadsQuestion question result)
    (hfilled : FilledQuestion result) :
    normalizeQuestion (some question) = some result := by
  obtain ⟨options, hoptions, hreads⟩ := h.options
  have hnormal : normalizeQuestionOptions (question.field? "options") = some result.options := by
    rw [normalizeQuestionOptions_eq_some]
    refine ⟨options, hoptions, ?_, ?_⟩
    · rintro rfl
      exact hfilled.some (List.forall₂_nil_left_iff.mp hreads)
    · simp only [normalizeQuestionOption_eq_some]
      exact forall₂_and_right.mpr ⟨hreads, hfilled.options⟩
  simp [normalizeQuestion, hnormal, h.id, h.text, Json.text?]

/-! ### A matched value reads as one result -/

theorem readsOption_unique {option : Json Utf16} {a b : Utf16} (ha : ReadsOption option a) (hb : ReadsOption option b) :
    a = b := by
  rcases ha with rfl | ha
  · rcases hb with hb | hb
    · cases hb
      rfl
    · cases hb
  · rcases hb with rfl | hb
    · cases ha
    · rw [ha] at hb
      cases hb
      rfl

theorem readsQuestion_unique {question : Json Utf16} {a b : GrillQuestion} (ha : ReadsQuestion question a)
    (hb : ReadsQuestion question b) : a = b := by
  obtain ⟨options, hoptions, hreads⟩ := ha.options
  obtain ⟨options', hoptions', hreads'⟩ := hb.options
  rw [hoptions] at hoptions'
  cases hoptions'
  have hsame := Relator.RightUnique.forall₂ (R := ReadsOption) (fun _ _ _ => readsOption_unique) hreads hreads'
  have hid := ha.id.symm.trans hb.id
  have htext := ha.text.symm.trans hb.text
  cases a
  cases b
  simp_all

theorem texts_injective {a b : List Utf16} (h : Json.texts a = Json.texts b) : a = b := by
  simp only [Json.texts, Json.array.injEq] at h
  exact List.map_injective_iff.mpr (fun x y hxy => by cases hxy; rfl) h

theorem statusText_injective {a b : GrillStatus} (h : statusText a = statusText b) : a = b := by
  cases a <;> cases b <;> simp_all [statusText]

/-- **A value reads as one result at most.** -/
theorem reads_unique {input : Json Utf16} {a b : GrillCompletionPayload} (ha : Reads input a) (hb : Reads input b) :
    a = b := by
  obtain ⟨questions, hquestions, hreads⟩ := ha.questions
  obtain ⟨questions', hquestions', hreads'⟩ := hb.questions
  rw [hquestions] at hquestions'
  cases hquestions'
  obtain ⟨r, hr, hconfidence, hreason, hvalue⟩ := ha.recommendation
  obtain ⟨r', hr', hconfidence', hreason', hvalue'⟩ := hb.recommendation
  rw [hr] at hr'
  cases hr'
  have hsame := Relator.RightUnique.forall₂ (R := ReadsQuestion) (fun _ _ _ => readsQuestion_unique) hreads hreads'
  have hevidence := texts_injective (Option.some.inj (ha.evidence.symm.trans hb.evidence))
  have hstatus := ha.status.symm.trans hb.status
  simp only [Option.some.injEq, Json.text.injEq] at hstatus
  have hstatus' := statusText_injective hstatus
  have hrequires := ha.requiresUserConfirmation.symm.trans hb.requiresUserConfirmation
  have hround := ha.roundId.symm.trans hb.roundId
  obtain ⟨⟨_, _, ⟨_, _, _⟩, _, _⟩, _⟩ := a
  obtain ⟨⟨_, _, ⟨_, _, _⟩, _, _⟩, _⟩ := b
  simp_all

theorem forall₂_of_forall {α β : Type} {R : α → β → Prop} {xs : List α} (h : ∀ x ∈ xs, ∃ y, R x y) :
    ∃ ys, List.Forall₂ R xs ys := by
  induction xs with
  | nil => exact ⟨[], .nil⟩
  | cons x xs ih =>
      obtain ⟨⟨y, hy⟩, hrest⟩ := List.forall_mem_cons.mp h
      obtain ⟨ys, hys⟩ := ih hrest
      exact ⟨y :: ys, .cons hy hys⟩

theorem exists_readsOption {option : Json Utf16} (h : grillOptionSchema.check option = true) :
    ∃ text, ReadsOption option text ∧ text ≠ "" := by
  rcases check_option.mp h with ⟨text, rfl, hne⟩ | ⟨-, -, text, hvalue, hne⟩
  · exact ⟨text, .inl rfl, hne⟩
  · exact ⟨text, .inr hvalue, hne⟩

theorem exists_readsQuestion {question : Json Utf16} (h : grillQuestionSchema.check question = true) :
    ∃ result, ReadsQuestion question result ∧ FilledQuestion result := by
  obtain ⟨-, ⟨id, hid, hidne⟩, ⟨options, hoptions, hsome, hall⟩, text, htext, htextne⟩ := check_question.mp h
  obtain ⟨texts, htexts⟩ := forall₂_of_forall fun option hoption => exists_readsOption (hall option hoption)
  obtain ⟨hreads, hne⟩ := forall₂_and_right.mp htexts
  refine ⟨⟨id, texts, text⟩, ⟨hid, htext, options, hoptions, hreads⟩, ⟨hidne, htextne, ?_, hne⟩⟩
  rintro rfl
  exact hsome (List.forall₂_nil_right_iff.mp hreads)

/-- **A matched value reads as a result**, and a filled one. -/
theorem exists_reads {input : Json Utf16} (h : GrillCompletionSchema.check input = true) :
    ∃ result : GrillCompletionPayload, Reads input result ∧ Filled result.toStructuredGrillResult := by
  obtain ⟨-, ⟨items, hitems, hids⟩, ⟨questions, hquestions, hall⟩, ⟨r, hr, hcheck⟩, ⟨b, hb⟩, ⟨id, hid, -⟩,
    status, hstatus⟩ := check_completion.mp h
  obtain ⟨-, hconfidence, hreason, value, hvalue, hne⟩ := check_recommendation.mp hcheck
  obtain ⟨ids, htexts⟩ := forall₂_of_forall hids
  obtain ⟨heq, hidsne⟩ := forall₂_and_right.mp htexts
  have hitems' : items = ids.map Json.text := forall₂_text.mp heq
  obtain ⟨results, hresults⟩ := forall₂_of_forall fun q hq => exists_readsQuestion (hall q hq)
  obtain ⟨hreads, hfilled⟩ := forall₂_and_right.mp hresults
  refine ⟨⟨⟨ids, results, ⟨r.field? "confidence", r.field? "reason", value⟩, b, status⟩, id⟩, ?_, ?_⟩
  · exact
      { evidence := by rw [hitems, hitems']; rfl
        status := hstatus
        requiresUserConfirmation := hb
        recommendation := ⟨r, hr, rfl, rfl, hvalue⟩
        questions := ⟨questions, hquestions, hreads⟩
        roundId := hid }
  · exact ⟨hidsne, hconfidence, hreason, hne, hfilled⟩

/-! ### What is left of a value in its text -/

theorem field_of_printed {value member : Json Utf16} {name : Utf16} (h : value.field? name = some member)
    (hsame : member.printed = member) : value.printed.field? name = some member := by
  rw [Json.field_printed, h, Option.map_some, hsame]

theorem printed_texts (ids : List Utf16) : (Json.texts ids).printed = Json.texts ids := by
  rw [Json.texts, Json.printed, Json.printedItems_eq, List.map_map]
  rfl

theorem readsOption_printed {option : Json Utf16} {text : Utf16} (h : ReadsOption option text) :
    ReadsOption option.printed text := by
  rcases h with rfl | h
  · exact .inl rfl
  · exact .inr (field_of_printed h rfl)

theorem readsQuestion_printed {question : Json Utf16} {result : GrillQuestion} (h : ReadsQuestion question result) :
    ReadsQuestion question.printed result := by
  obtain ⟨options, hoptions, hreads⟩ := h.options
  refine ⟨field_of_printed h.id rfl, field_of_printed h.text rfl, options.map Json.printed, ?_, ?_⟩
  · rw [Json.field_printed, hoptions, Option.map_some, Json.printed, Json.printedItems_eq]
  · exact List.forall₂_map_left_iff.mpr (hreads.imp fun option text => readsOption_printed)

/-- A member that is a finite number or a text is printed whole. -/
theorem optional_printed {member : Option (Json Utf16)}
    (h : ∀ m, member = some m → m.printed = m) : member.map Json.printed = member := by
  cases member with
  | none => rfl
  | some m => exact congrArg some (h m rfl)

theorem printed_finite {value : Json Utf16} (h : ∃ n : Numeral, value = .number n ∧ n.isFinite = true) :
    value.printed = value := by
  obtain ⟨n, rfl, hfinite⟩ := h
  rw [Json.printed, if_pos hfinite]

theorem printed_text {value : Json Utf16} (h : ∃ text : Utf16, value = .text text) : value.printed = value := by
  obtain ⟨text, rfl⟩ := h
  rfl

/-- **The text of a value says what the value does**: the infinities that it loses are in members that are not
read. -/
theorem reads_printed {input : Json Utf16} {result : StructuredGrillResult} (h : ReadsResult input result)
    (hfilled : Filled result) : ReadsResult input.printed result := by
  obtain ⟨r, hr, hconfidence, hreason, hvalue⟩ := h.recommendation
  obtain ⟨questions, hquestions, hreads⟩ := h.questions
  exact
    { evidence := field_of_printed h.evidence (printed_texts _)
      status := field_of_printed h.status rfl
      requiresUserConfirmation := field_of_printed h.requiresUserConfirmation rfl
      recommendation := by
        refine ⟨r.printed, by rw [Json.field_printed, hr, Option.map_some], ?_, ?_, field_of_printed hvalue rfl⟩
        · rw [Json.field_printed, hconfidence]
          exact optional_printed fun c hc => printed_finite (hfilled.confidence c hc)
        · rw [Json.field_printed, hreason]
          exact optional_printed fun c hc => printed_text (hfilled.reason c hc)
      questions := by
        refine ⟨questions.map Json.printed, ?_, ?_⟩
        · rw [Json.field_printed, hquestions, Option.map_some, Json.printed, Json.printedItems_eq]
        · exact List.forall₂_map_left_iff.mpr (hreads.imp fun question q => readsQuestion_printed) }

/-! ### The structural reader on a matched value -/

section

variable (syntaxError : Utf16 → String)

theorem checkShape_eq_ok {status : GrillStatus} {b : Bool} {n : Nat} : checkShape status b n = .ok () ↔
    (status = .needsConfirmation ∧ b = true ∧ n = 1) ∨ (status = .readyForDeep ∧ b = false ∧ n = 0) := by
  cases status <;> simp [checkShape]

/-- The questions that the structural reader returns are those of the value, when their number is right. -/
theorem questions_of_shape {status : GrillStatus} {b : Bool} {questions : List (Json Utf16)} {results : List GrillQuestion}
    (hshape : checkShape status b questions.length = .ok ()) (hreads : List.Forall₂ ReadsQuestion questions results)
    (hfilled : ∀ q ∈ results, FilledQuestion q) :
    (if status = .needsConfirmation then [normalizeQuestion questions.head?] else []).filterMap id = results ∧
      ¬ (status = .needsConfirmation ∧ results.length = 0) := by
  rcases checkShape_eq_ok.mp hshape with ⟨rfl, -, hcount⟩ | ⟨rfl, -, hcount⟩
  · obtain ⟨question, rfl⟩ := List.length_eq_one_iff.mp hcount
    obtain ⟨result, rest, hquestion, hrest, rfl⟩ := List.forall₂_cons_left_iff.mp hreads
    obtain rfl := List.forall₂_nil_left_iff.mp hrest
    simp [normalizeQuestion_of_reads hquestion (hfilled result List.mem_cons_self)]
  · obtain rfl := List.eq_nil_of_length_eq_zero hcount
    obtain rfl := List.forall₂_nil_left_iff.mp hreads
    simp

/-- **The second reading** of a matched value only looks at its shape: every other test passes. -/
theorem parseStructured_of_reads {input : Json Utf16} {result : StructuredGrillResult}
    (hreads : ReadsResult input result) (hfilled : Filled result) :
    parseStructuredGrillResult syntaxError input.stringify =
      checkShape result.status result.requiresUserConfirmation result.questions.length >>= fun _ =>
        .ok result := by
  have hreads := reads_printed hreads hfilled
  obtain ⟨r, hr, hconfidence, hreason, hvalue⟩ := hreads.recommendation
  obtain ⟨questions, hquestions, hforall⟩ := hreads.questions
  have hproperty : propertyOf "status" input.printed = .ok (some (.text (statusText result.status))) := by
    have hstatus := hreads.status
    unfold propertyOf
    split
    · rename_i hnull
      rw [hnull] at hstatus
      cases hstatus
    · rw [hstatus]
  have hstatus : grillStatus? (.text (statusText result.status)) = some result.status :=
    grillStatus_eq_some.mpr rfl
  have hevidence : (result.evidence.map Json.text).mapM nonemptyText? = some result.evidence :=
    mapM_nonemptyText.mpr ⟨rfl, hfilled.evidence⟩
  have hnonempty : nonemptyText? (.text result.recommendation.value) = some result.recommendation.value :=
    nonemptyText_eq_some.mpr ⟨rfl, hfilled.value⟩
  have hlength : questions.length = result.questions.length := hforall.length_eq
  unfold parseStructuredGrillResult
  simp only [Json.parse_stringify, require, hproperty, hstatus, hquestions,
    hreads.requiresUserConfirmation, hreads.evidence, hr, hvalue, hnonempty, hevidence, hconfidence, hreason,
    Option.bind_some, Json.bool?, Json.array?, Json.texts, hlength, bind, Except.bind, pure, Except.pure]
  cases hshape : checkShape result.status result.requiresUserConfirmation result.questions.length with
  | error message => rfl
  | ok u =>
      have hshape' : checkShape result.status result.requiresUserConfirmation questions.length = .ok () := by
        rw [hlength, hshape]
      obtain ⟨hall, hsome⟩ := questions_of_shape hshape' hforall hfilled.questions
      simp only [hall, Checks.refuseIf, if_neg hsome]

/-! ### The gates -/

variable {α : Type}

/-- What is left to check of a matched value, in the order in which it is checked. -/
def passGates (context : GrillCompletionContext α) (result : GrillCompletionPayload) :
    Except String GrillCompletionPayload := do
  Checks.refuseIf (result.roundId ≠ context.expectedRoundId)
    "grill completion roundId does not match the active round"
  checkShape result.status result.requiresUserConfirmation result.questions.length
  let emptySnapshotFirstRoundNeedsConfirmation :=
    context.isFirstRoundOfSnapshot = some true ∧ context.snapshotManifest.map List.length = some 0 ∧
      result.status = .needsConfirmation ∧ result.requiresUserConfirmation = true ∧
      result.questions.length = 1
  Checks.refuseIf (context.isFirstRoundOfSnapshot = some true ∧ result.evidence.length = 0 ∧
      ¬ emptySnapshotFirstRoundNeedsConfirmation)
    "grill completion requires at least one fetched evidence in the first snapshot round"
  Checks.refuseIf (∃ candidateId ∈ result.evidence, candidateId ∉ context.fetchedEvidenceIds)
    "grill completion references evidence that was not fetched"
  return result

theorem parseGrillCompletion_of_reads {payload input : Json Utf16} {context : GrillCompletionContext α}
    {result : GrillCompletionPayload} (hinput : completionInput syntaxError payload = .ok input)
    (hcheck : GrillCompletionSchema.check input = true) (hreads : Reads input result)
    (hfilled : Filled result.toStructuredGrillResult) :
    parseGrillCompletion syntaxError payload context = passGates context result := by
  have hround : (input.field? "roundId").bind Json.text? = some result.roundId := by
    rw [hreads.roundId]
    rfl
  have hparse := parseStructured_of_reads syntaxError hreads.toReadsResult hfilled
  unfold parseGrillCompletion passGates
  simp only [hinput, bind, Except.bind, hcheck, ne_eq, not_true_eq_false, Checks.refuseIf, if_false, hround,
    Option.some.injEq, hparse]
  by_cases hexpected : result.roundId = context.expectedRoundId
  · simp only [hexpected, not_true_eq_false, if_false]
    cases checkShape result.status result.requiresUserConfirmation result.questions.length with
    | error message => rfl
    | ok u =>
        simp only [Option.getD_some, ← hexpected]
  · simp only [hexpected, not_false_eq_true, if_true]

/-- Passing the gates is being acceptable. -/
theorem passGates_eq_ok {context : GrillCompletionContext α} {input : Json Utf16} {result other : GrillCompletionPayload}
    (hcheck : GrillCompletionSchema.check input = true) (hreads : Reads input result) :
    passGates context result = .ok other ↔ Acceptable context input ∧ result = other := by
  obtain ⟨questions, hquestions, hforall⟩ := hreads.questions
  have hlength : questions.length = result.questions.length := hforall.length_eq
  have hround : result.roundId = context.expectedRoundId ↔
      input.field? "roundId" = some (.text context.expectedRoundId) := by
    rw [hreads.roundId]
    simp
  have hneeds : result.status = .needsConfirmation ↔ input.field? "status" = some (.text "NEEDS_CONFIRMATION") := by
    rw [hreads.status]
    cases result.status <;> simp [statusText]
  have hready : result.status = .readyForDeep ↔ input.field? "status" = some (.text "READY_FOR_DEEP") := by
    rw [hreads.status]
    cases result.status <;> simp [statusText]
  have hshape : checkShape result.status result.requiresUserConfirmation result.questions.length = .ok () ↔
      (input.field? "status" = some (.text "NEEDS_CONFIRMATION") ∧
        input.field? "requiresUserConfirmation" = some (.bool true) ∧
        ∃ question, input.field? "questions" = some (.array [question])) ∨
      (input.field? "status" = some (.text "READY_FOR_DEEP") ∧
        input.field? "requiresUserConfirmation" = some (.bool false) ∧
        input.field? "questions" = some (.array [])) := by
    rw [checkShape_eq_ok, ← hlength, hneeds, hready, hreads.requiresUserConfirmation, hquestions]
    simp [List.length_eq_one_iff]
  have hempty : result.evidence.length = 0 ↔ input.field? "evidence" = some (.array []) := by
    rw [hreads.evidence]
    simp [Json.texts]
  have hfetched : (∀ id ∈ result.evidence, id ∈ context.fetchedEvidenceIds) ↔
      ∀ ids, input.field? "evidence" = some (.texts ids) → ∀ id ∈ ids, id ∈ context.fetchedEvidenceIds := by
    constructor
    · intro h ids hids
      rw [hreads.evidence] at hids
      rw [← texts_injective (Option.some.inj hids)]
      exact h
    · intro h
      exact h _ hreads.evidence
  unfold passGates
  simp only [Checks.check_bind_eq_ok, Checks.refuseIf_eq_ok, hshape, pure, Except.pure, Except.ok.injEq,
    ne_eq, not_not, hround, not_exists, not_and, hfetched, hempty]
  constructor
  · rintro ⟨hround, hshape, hfirst, hfetched, rfl⟩
    refine ⟨⟨hcheck, hround, hshape, fun hisFirst hnone => ?_, hfetched⟩, rfl⟩
    by_contra hnot
    exact hfirst hisFirst hnone fun _ hmanifest hstatus _ _ => hnot ⟨hmanifest, hneeds.mp hstatus⟩
  · rintro ⟨h, rfl⟩
    refine ⟨h.round, h.shape, fun hisFirst hnone hnot => ?_, h.fetched, rfl⟩
    obtain ⟨hmanifest, hstatus⟩ := h.firstRound hisFirst hnone
    rcases checkShape_eq_ok.mp (hshape.mpr h.shape) with ⟨-, hrequires, hcount⟩ | ⟨hother, -⟩
    · exact hnot hisFirst hmanifest (hneeds.mpr hstatus) hrequires hcount
    · rw [hneeds.mpr hstatus] at hother
      cases hother

/-- **The readers accept exactly the acceptable values**, and return what these say. -/
theorem parseGrillCompletion_eq_ok {payload : Json Utf16} {context : GrillCompletionContext α}
    {result : GrillCompletionPayload} :
    parseGrillCompletion syntaxError payload context = .ok result ↔
      ∃ input, completionInput syntaxError payload = .ok input ∧ Acceptable context input ∧
        Reads input result := by
  constructor
  · intro h
    have hparse := h
    unfold parseGrillCompletion at hparse
    rw [Checks.bind_eq_ok] at hparse
    obtain ⟨input, hinput, hrest⟩ := hparse
    rw [Checks.refuseIf_bind_eq_ok, not_not] at hrest
    obtain ⟨other, hreads, hfilled⟩ := exists_reads hrest.1
    rw [parseGrillCompletion_of_reads syntaxError hinput hrest.1 hreads hfilled,
      passGates_eq_ok hrest.1 hreads] at h
    obtain ⟨hacceptable, rfl⟩ := h
    exact ⟨input, hinput, hacceptable, hreads⟩
  · rintro ⟨input, hinput, hacceptable, hreads⟩
    obtain ⟨other, hother, hfilled⟩ := exists_reads hacceptable.schema
    obtain rfl := reads_unique hreads hother
    rw [parseGrillCompletion_of_reads syntaxError hinput hacceptable.schema hreads hfilled]
    exact (passGates_eq_ok hacceptable.schema hreads).mpr ⟨hacceptable, rfl⟩

/-! ### The text of a result -/

def questionJson (question : GrillQuestion) : Json Utf16 :=
  .object [("id", .text question.id), ("options", .texts question.options), ("question", .text question.question)]

def recommendationJson (recommendation : GrillRecommendation) : Json Utf16 :=
  .object (Json.optional ("confidence" : Utf16) recommendation.confidence ++
    Json.optional ("reason" : Utf16) recommendation.reason ++ [(("value" : Utf16), .text recommendation.value)])

/-- A result as the value that it is printed from. -/
def GrillCompletionPayload.toJson (result : GrillCompletionPayload) : Json Utf16 :=
  .object
    [("evidence", .texts result.evidence),
      ("questions", .array (result.questions.map questionJson)),
      ("recommendation", recommendationJson result.recommendation),
      ("requiresUserConfirmation", .bool result.requiresUserConfirmation),
      ("status", .text (statusText result.status)),
      ("roundId", .text result.roundId)]

theorem recommendationJson_fields (recommendation : GrillRecommendation) :
    (recommendationJson recommendation).field? "confidence" = recommendation.confidence ∧
      (recommendationJson recommendation).field? "reason" = recommendation.reason ∧
      (recommendationJson recommendation).field? "value" = some (.text recommendation.value) := by
  obtain ⟨confidence, reason, value⟩ := recommendation
  cases confidence <;> cases reason <;> exact ⟨rfl, rfl, rfl⟩

theorem reads_questionJson (question : GrillQuestion) : ReadsQuestion (questionJson question) question := by
  refine ⟨rfl, rfl, question.options.map Json.text, rfl, ?_⟩
  rw [List.forall₂_map_left_iff, List.forall₂_same]
  exact fun text _ => .inl rfl

/-- A result reads back from its own value. -/
theorem reads_toJson (result : GrillCompletionPayload) : Reads result.toJson result where
  evidence := rfl
  status := rfl
  requiresUserConfirmation := rfl
  recommendation := ⟨_, rfl, recommendationJson_fields result.recommendation⟩
  questions := by
    refine ⟨_, rfl, ?_⟩
    rw [List.forall₂_map_left_iff, List.forall₂_same]
    exact fun question _ => reads_questionJson question
  roundId := rfl

theorem check_questionJson {question : GrillQuestion} (h : FilledQuestion question) :
    grillQuestionSchema.check (questionJson question) = true := by
  rw [check_question]
  refine ⟨by simp [questionJson, Schema.closed], ⟨_, rfl, h.id⟩, ⟨_, rfl, by simpa using h.some, ?_⟩, _, rfl, h.text⟩
  intro option hoption
  obtain ⟨text, htext, rfl⟩ := List.mem_map.mp hoption
  exact check_option.mpr (.inl ⟨text, rfl, h.options text htext⟩)

/-- The value of a filled result matches the schema. -/
theorem check_toJson {result : GrillCompletionPayload} (h : Filled result.toStructuredGrillResult)
    (hround : result.roundId ≠ "") : GrillCompletionSchema.check result.toJson = true := by
  obtain ⟨hconfidence, hreason, hvalue⟩ := recommendationJson_fields result.recommendation
  rw [check_completion]
  refine ⟨by simp [GrillCompletionPayload.toJson, Schema.closed], ⟨_, rfl, ?_⟩, ⟨_, rfl, ?_⟩, ⟨_, rfl, ?_⟩,
    ⟨_, rfl⟩, ⟨_, rfl, hround⟩, _, rfl⟩
  · intro item hitem
    obtain ⟨id, hid, rfl⟩ := List.mem_map.mp hitem
    exact ⟨id, rfl, h.evidence id hid⟩
  · intro question hquestion
    obtain ⟨q, hq, rfl⟩ := List.mem_map.mp hquestion
    exact check_questionJson (h.questions q hq)
  · rw [check_recommendation, hconfidence, hreason]
    exact ⟨⟨_, rfl⟩, h.confidence, h.reason, _, hvalue, h.value⟩

/-- An acceptable value is acceptable through its result. -/
theorem acceptable_toJson {context : GrillCompletionContext α} {input : Json Utf16} {result : GrillCompletionPayload}
    (h : Acceptable context input) (hreads : Reads input result) : Acceptable context result.toJson := by
  obtain ⟨other, hother, hfilled⟩ := exists_reads h.schema
  obtain rfl := reads_unique hreads hother
  have hround : result.roundId ≠ "" := by
    obtain ⟨-, -, -, -, -, ⟨id, hid, hne⟩, -⟩ := check_completion.mp h.schema
    rw [hreads.roundId] at hid
    cases hid
    exact hne
  have hcheck := check_toJson hfilled hround
  have hpass : passGates context result = .ok result := (passGates_eq_ok h.schema hreads).mpr ⟨h, rfl⟩
  exact ((passGates_eq_ok hcheck (reads_toJson result)).mp hpass).1

theorem printed_recommendationJson {recommendation : GrillRecommendation}
    (hconfidence : ∀ c, recommendation.confidence = some c → c.printed = c)
    (hreason : ∀ r, recommendation.reason = some r → r.printed = r) :
    (recommendationJson recommendation).printed = recommendationJson recommendation := by
  have hoptional : ∀ (name : Utf16) (member : Option (Json Utf16)), (∀ m, member = some m → m.printed = m) →
      (Json.optional name member).map Json.printedMember = Json.optional name member := by
    intro name member hmember
    cases member with
    | none => rfl
    | some m => simp [Json.optional, Json.printedMember, hmember m rfl]
  have hvalue : Json.printedMember (("value" : Utf16), .text recommendation.value) =
      (("value" : Utf16), .text recommendation.value) := rfl
  rw [recommendationJson, Json.printed, Json.printedMembers_eq]
  simp only [List.map_append, hoptional _ _ hconfidence, hoptional _ _ hreason, List.map_cons, List.map_nil, hvalue]

/-- The value of a filled result is printed whole. -/
theorem printed_toJson {result : GrillCompletionPayload} (h : Filled result.toStructuredGrillResult) :
    result.toJson.printed = result.toJson := by
  have hquestions : (result.questions.map questionJson).map Json.printed = result.questions.map questionJson := by
    rw [List.map_map]
    refine List.map_congr_left fun question _ => ?_
    simp only [Function.comp_apply, questionJson, Json.printed, Json.printedMembers, printed_texts]
  have hrecommendation :=
    printed_recommendationJson (fun c hc => printed_finite (h.confidence c hc)) fun r hr => printed_text (h.reason r hr)
  simp only [GrillCompletionPayload.toJson, Json.printed, Json.printedMembers, Json.printedItems_eq, printed_texts,
    hquestions, hrecommendation]

/-! ### The reader of one pass -/

section

/-- A value with its texts in code units. -/
def wide (value : Json String) : Json Utf16 := value.mapText Utf16.ofString

def wideQuestion (question : ForgeRuntime.GrillQuestion) : GrillQuestion where
  id := question.id
  options := question.options.map Utf16.ofString
  question := question.question

def wideCompletion (completion : ForgeRuntime.GrillCompletionPayload) : GrillCompletionPayload where
  evidence := completion.evidence.map Utf16.ofString
  questions := completion.questions.map wideQuestion
  recommendation :=
    { confidence := completion.recommendation.confidence.map .number
      reason := completion.recommendation.reason.map fun reason => .text (.ofString reason)
      value := completion.recommendation.value }
  requiresUserConfirmation := completion.requiresUserConfirmation
  status := completion.status
  roundId := completion.roundId

/-- The context with both optional fields given. -/
def wideContext (context : ForgeRuntime.GrillCompletionContext) :
    GrillCompletionContext GrillEvidenceManifestEntry where
  expectedRoundId := context.expectedRoundId
  fetchedEvidenceIds := .ofList (context.fetchedEvidenceIds.elems.map Utf16.ofString)
  isFirstRoundOfSnapshot := some context.isFirstRoundOfSnapshot
  snapshotManifest := some context.snapshotManifest

variable {value : Json String}

theorem wide_field (name : String) : (wide value).field? name = (value.field? name).map wide :=
  Json.field_mapText Utf16.ofString_injective name

theorem wide_field_eq_some {name : String} {member : Json Utf16} :
    (wide value).field? name = some member ↔ ∃ original, value.field? name = some original ∧ wide original = member := by
  rw [wide_field, Option.map_eq_some_iff]

theorem wide_eq_text {text : Utf16} : wide value = .text text ↔ ∃ t : String, value = .text t ∧ ↑t = text :=
  Json.mapText_eq_text

theorem wide_field_text {name : String} {text : Utf16} :
    (wide value).field? name = some (.text text) ↔ ∃ t : String, value.field? name = some (.text t) ∧ ↑t = text := by
  simp only [wide_field_eq_some, wide_eq_text]
  constructor
  · rintro ⟨_, hfield, t, rfl, ht⟩
    exact ⟨t, hfield, ht⟩
  · rintro ⟨t, hfield, ht⟩
    exact ⟨_, hfield, t, rfl, ht⟩

/-- No character, no code unit. -/
theorem ofString_ne_empty {text : String} : (text : Utf16) ≠ "" ↔ text ≠ "" :=
  not_congr Utf16.ofString_inj

theorem nonemptyText_eq_some_wide {text : String} :
    ForgeRuntime.nonemptyText? value = some text ↔ value = .text text ∧ text ≠ "" := by
  cases value <;> simp [ForgeRuntime.nonemptyText?, Json.text?, Option.filter_eq_some_iff]

theorem closedObject_eq_some {names : List String} {object : Json String} :
    closedObject? names value = some object ↔
      Schema.closed (names.map Utf16.ofString) false (wide value) = true ∧ object = value := by
  cases value with
  | object members =>
      have hall : (Json.mapMembers Utf16.ofString members).all (fun m => decide (m.1 ∈ names.map Utf16.ofString)) =
          members.all fun m => decide (m.1 ∈ names) := by
        have hname : ∀ m : String × Json String,
            decide (Utf16.ofString m.1 ∈ names.map Utf16.ofString) = decide (m.1 ∈ names) :=
          fun m => decide_eq_decide.mpr (List.mem_map_of_injective Utf16.ofString_injective)
        simp only [Json.mapMembers_eq, List.all_map, Function.comp_def, hname]
      simp only [closedObject?, wide, Json.mapText, Schema.closed, Bool.false_or, hall]
      split
      · rename_i hnames
        simp only [hnames, true_and, Option.some.injEq]
        exact eq_comm
      · rename_i hnames
        simp [hnames]
  | _ => simp [closedObject?, wide, Json.mapText, Schema.closed]

theorem optionalField_eq_some {β : Type} {name : String} {decode : Json String → Option β} {read : Option β} :
    optionalField? name decode value = some read ↔
      (∀ member, value.field? name = some member → ∃ a, decode member = some a) ∧
        read = (value.field? name).bind decode := by
  unfold optionalField?
  cases hfield : value.field? name with
  | none => simp [eq_comm]
  | some member =>
      cases hdecode : decode member with
      | none => simp [hdecode]
      | some a => simp [hdecode, eq_comm]

theorem number_eq_some {n : Numeral} : number? value = some n ↔ value = .number n ∧ n.isFinite = true := by
  cases value with
  | number v =>
      simp only [number?, Option.ite_none_right_eq_some, Option.some.injEq, Json.number.injEq]
      constructor
      · rintro ⟨hfinite, rfl⟩
        exact ⟨rfl, hfinite⟩
      · rintro ⟨rfl, hfinite⟩
        exact ⟨hfinite, rfl⟩
  | _ => simp [number?]

theorem array_eq_some {items : List (Json String)} : value.array? = some items ↔ value = .array items := by
  cases value <;> simp [Json.array?]

theorem bool_eq_some {b : Bool} : value.bool? = some b ↔ value = .bool b := by
  cases value <;> simp [Json.bool?]

/-! The schema, of a value with its texts in code units. -/

theorem exists_wide_text : (∃ text : Utf16, wide value = .text text ∧ text ≠ "") ↔
    ∃ text : String, value = .text text ∧ text ≠ "" := by
  simp only [wide_eq_text]
  constructor
  · rintro ⟨_, ⟨text, heq, rfl⟩, hne⟩
    exact ⟨text, heq, ofString_ne_empty.mp hne⟩
  · rintro ⟨text, heq, hne⟩
    exact ⟨text, ⟨text, heq, rfl⟩, ofString_ne_empty.mpr hne⟩

theorem exists_wide_field_text {name : String} :
    (∃ text : Utf16, (wide value).field? name = some (.text text) ∧ text ≠ "") ↔
      ∃ text : String, value.field? name = some (.text text) ∧ text ≠ "" := by
  simp only [wide_field_text]
  constructor
  · rintro ⟨_, ⟨text, hfield, rfl⟩, hne⟩
    exact ⟨text, hfield, ofString_ne_empty.mp hne⟩
  · rintro ⟨text, hfield, hne⟩
    exact ⟨text, ⟨text, hfield, rfl⟩, ofString_ne_empty.mpr hne⟩

theorem exists_wide_field_array {name : String} {p : List (Json Utf16) → Prop} :
    (∃ items, (wide value).field? name = some (.array items) ∧ p items) ↔
      ∃ items, value.field? name = some (.array items) ∧ p (items.map wide) := by
  simp only [wide_field_eq_some]
  constructor
  · rintro ⟨_, ⟨original, hfield, harray⟩, hp⟩
    obtain ⟨items, rfl, rfl⟩ := Json.mapText_eq_array.mp harray
    exact ⟨items, hfield, hp⟩
  · rintro ⟨items, hfield, hp⟩
    exact ⟨_, ⟨_, hfield, Json.mapText_eq_array.mpr ⟨items, rfl, rfl⟩⟩, hp⟩

theorem forall_wide_field {name : String} {p : Json Utf16 → Prop} :
    (∀ member, (wide value).field? name = some member → p member) ↔
      ∀ member, value.field? name = some member → p (wide member) := by
  simp only [wide_field_eq_some]
  constructor
  · intro h member hfield
    exact h _ ⟨member, hfield, rfl⟩
  · rintro h _ ⟨member, hfield, rfl⟩
    exact h member hfield

theorem exists_wide_eq_text : (∃ text : Utf16, wide value = .text text) ↔ ∃ text : String, value = .text text := by
  simp only [wide_eq_text]
  constructor
  · rintro ⟨_, text, heq, -⟩
    exact ⟨text, heq⟩
  · rintro ⟨text, heq⟩
    exact ⟨text, text, heq, rfl⟩

theorem check_option_wide : grillOptionSchema.check (wide value) = true ↔
    (∃ text : String, value = .text text ∧ text ≠ "") ∨
      (Schema.closed ["id", "value"] false (wide value) = true ∧
        (∀ id, value.field? "id" = some id → ∃ text : String, id = .text text) ∧
        ∃ text : String, value.field? "value" = some (.text text) ∧ text ≠ "") := by
  rw [check_option, exists_wide_text, forall_wide_field, exists_wide_field_text]
  simp only [exists_wide_eq_text]

theorem check_question_wide : grillQuestionSchema.check (wide value) = true ↔
    Schema.closed ["id", "options", "question"] false (wide value) = true ∧
      (∃ id : String, value.field? "id" = some (.text id) ∧ id ≠ "") ∧
      (∃ options, value.field? "options" = some (.array options) ∧ options ≠ [] ∧
        ∀ option ∈ options, grillOptionSchema.check (wide option) = true) ∧
      ∃ text : String, value.field? "question" = some (.text text) ∧ text ≠ "" := by
  rw [check_question, exists_wide_field_text, exists_wide_field_text, exists_wide_field_array]
  simp only [ne_eq, List.map_eq_nil_iff, List.forall_mem_map]

theorem check_recommendation_wide : grillRecommendationSchema.check (wide value) = true ↔
    (∃ members, value = .object members) ∧
      (∀ confidence, value.field? "confidence" = some confidence →
        ∃ n : Numeral, confidence = .number n ∧ n.isFinite = true) ∧
      (∀ reason, value.field? "reason" = some reason → ∃ text : String, reason = .text text) ∧
      ∃ text : String, value.field? "value" = some (.text text) ∧ text ≠ "" := by
  have hobject : (∃ members, wide value = .object members) ↔ ∃ members, value = .object members := by
    cases value <;> simp [wide, Json.mapText]
  have hnumber : ∀ confidence : Json String, (∃ n : Numeral, wide confidence = .number n ∧ n.isFinite = true) ↔
      ∃ n : Numeral, confidence = .number n ∧ n.isFinite = true := by
    intro confidence
    simp only [wide, Json.mapText_eq_number]
  rw [check_recommendation, exists_wide_field_text, forall_wide_field, forall_wide_field, hobject]
  simp only [hnumber, exists_wide_eq_text]

/-! The values that the reader of one pass takes, and what it reads. -/

theorem grillOption_reads {text : String} (h : grillOption? value = some text) :
    grillOptionSchema.check (wide value) = true ∧ ReadsOption (wide value) text := by
  unfold grillOption? at h
  split at h
  · obtain ⟨heq, hne⟩ := nonemptyText_eq_some_wide.mp h
    rw [heq]
    exact ⟨check_option_wide.mpr (.inl ⟨text, rfl, hne⟩), .inl rfl⟩
  · simp only [Option.bind_eq_bind, Option.bind_eq_some_iff, closedObject_eq_some, optionalField_eq_some] at h
    obtain ⟨_, ⟨hclosed, rfl⟩, _, ⟨hid, -⟩, member, hvalue, hread⟩ := h
    obtain ⟨rfl, hne⟩ := nonemptyText_eq_some_wide.mp hread
    refine ⟨check_option_wide.mpr (.inr ⟨hclosed, fun id hfield => ?_, text, hvalue, hne⟩),
      .inr (wide_field_text.mpr ⟨text, hvalue, rfl⟩)⟩
    exact (hid id hfield).imp fun t ht => text_eq_some.mp ht

theorem exists_grillOption (h : grillOptionSchema.check (wide value) = true) :
    ∃ text, grillOption? value = some text := by
  rcases check_option_wide.mp h with ⟨text, rfl, hne⟩ | ⟨hclosed, hid, text, hvalue, hne⟩
  · exact ⟨text, nonemptyText_eq_some_wide.mpr ⟨rfl, hne⟩⟩
  · have hobject : closedObject? ["id", "value"] value = some value := closedObject_eq_some.mpr ⟨hclosed, rfl⟩
    have hoptional : optionalField? "id" Json.text? value = _ :=
      optionalField_eq_some.mpr ⟨fun id hfield => (hid id hfield).imp fun t ht => text_eq_some.mpr ht, rfl⟩
    have hread : ForgeRuntime.nonemptyText? (.text text) = some text := nonemptyText_eq_some_wide.mpr ⟨rfl, hne⟩
    refine ⟨text, ?_⟩
    cases value with
    | object members =>
        simp only [grillOption?, hobject, hoptional, hvalue, hread, Option.bind_eq_bind, Option.bind_some]
    | _ => cases hvalue

theorem forall₂_wide {α β γ δ : Type} {R : γ → δ → Prop} {f : α → γ} {g : β → δ} {xs : List α} {ys : List β} :
    List.Forall₂ R (xs.map f) (ys.map g) ↔ List.Forall₂ (fun x y => R (f x) (g y)) xs ys := by
  rw [List.forall₂_map_left_iff, List.forall₂_map_right_iff]

theorem exists_mapM {α β : Type} {f : α → Option β} {xs : List α} (h : ∀ x ∈ xs, ∃ y, f x = some y) :
    ∃ ys, xs.mapM f = some ys :=
  (forall₂_of_forall h).imp fun _ hys => mapM_eq_some.mpr hys

/-- Items that are read one by one match and read one by one. -/
theorem forall₂_reads {α β : Type} {f : Json String → Option α} (g : α → β) (good : Json Utf16 → Prop)
    (R : Json Utf16 → β → Prop) (hf : ∀ item a, f item = some a → good (wide item) ∧ R (wide item) (g a))
    {items : List (Json String)} {results : List α} (h : items.mapM f = some results) :
    (∀ item ∈ items, good (wide item)) ∧ List.Forall₂ R (items.map wide) (results.map g) := by
  rw [mapM_eq_some] at h
  have hboth : List.Forall₂ (fun item a => good (wide item) ∧ R (wide item) (g a)) items results :=
    h.imp hf
  exact ⟨((List.forall₂_and_left _ _).mp hboth).1, forall₂_wide.mpr ((List.forall₂_and_left _ _).mp hboth).2⟩

theorem grillQuestion_reads {result : ForgeRuntime.GrillQuestion} (h : grillQuestion? value = some result) :
    grillQuestionSchema.check (wide value) = true ∧ ReadsQuestion (wide value) (wideQuestion result) := by
  simp only [grillQuestion?, Option.bind_eq_bind, Option.bind_eq_some_iff, closedObject_eq_some,
    nonemptyText_eq_some_wide, array_eq_some] at h
  obtain ⟨_, ⟨hclosed, rfl⟩, _, hid, id, ⟨rfl, hidne⟩, _, hoptions, list, rfl, texts, htexts, _, htext, text,
    ⟨rfl, htextne⟩, hresult⟩ := h
  obtain ⟨hchecks, hreads⟩ := forall₂_reads Utf16.ofString (grillOptionSchema.check · = true) ReadsOption (fun _ _ => grillOption_reads) htexts
  split at hresult
  · cases hresult
  · rename_i hsome
    cases hresult
    have hlist : list ≠ [] := by
      rintro rfl
      exact hsome (List.forall₂_nil_left_iff.mp (mapM_eq_some.mp htexts))
    exact ⟨check_question_wide.mpr ⟨hclosed, ⟨id, hid, hidne⟩, ⟨list, hoptions, hlist, hchecks⟩, text, htext,
        htextne⟩,
      wide_field_text.mpr ⟨id, hid, rfl⟩, wide_field_text.mpr ⟨text, htext, rfl⟩, list.map wide,
      wide_field_eq_some.mpr ⟨_, hoptions, Json.mapText_eq_array.mpr ⟨list, rfl, rfl⟩⟩, hreads⟩

theorem exists_grillQuestion (h : grillQuestionSchema.check (wide value) = true) :
    ∃ result, grillQuestion? value = some result := by
  obtain ⟨hclosed, ⟨id, hid, hidne⟩, ⟨options, hoptions, hsome, hall⟩, text, htext, htextne⟩ :=
    check_question_wide.mp h
  obtain ⟨texts, htexts⟩ := exists_mapM fun option hoption => exists_grillOption (hall option hoption)
  have hne : texts ≠ [] := by
    rintro rfl
    exact hsome (List.forall₂_nil_right_iff.mp (mapM_eq_some.mp htexts))
  have hobject : closedObject? ["id", "options", "question"] value = some value :=
    closedObject_eq_some.mpr ⟨hclosed, rfl⟩
  have hfirst : ForgeRuntime.nonemptyText? (.text id) = some id := nonemptyText_eq_some_wide.mpr ⟨rfl, hidne⟩
  have hsecond : ForgeRuntime.nonemptyText? (.text text) = some text := nonemptyText_eq_some_wide.mpr ⟨rfl, htextne⟩
  exact ⟨⟨id, texts, text⟩, by
    simp [grillQuestion?, hobject, hid, hfirst, hoptions, Json.array?, htexts, htext, hsecond, hne]⟩

theorem grillRecommendation_reads {result : ForgeRuntime.GrillRecommendation}
    (h : grillRecommendation? value = some result) :
    grillRecommendationSchema.check (wide value) = true ∧
      (wide value).field? "confidence" = result.confidence.map .number ∧
      (wide value).field? "reason" = result.reason.map (fun reason => .text (.ofString reason)) ∧
      (wide value).field? "value" = some (.text result.value) := by
  simp only [grillRecommendation?, Option.bind_eq_bind, Option.bind_eq_some_iff, optionalField_eq_some,
    nonemptyText_eq_some_wide, Option.pure_def, Option.some.injEq] at h
  obtain ⟨confidence, ⟨hnumber, rfl⟩, reason, ⟨htext, rfl⟩, _, hvalue, text, ⟨rfl, hne⟩, rfl⟩ := h
  have hobject : ∃ members, value = .object members := by
    cases value with
    | object members => exact ⟨members, rfl⟩
    | _ => cases hvalue
  refine ⟨check_recommendation_wide.mpr ⟨hobject, fun c hc => ?_, fun c hc => ?_, text, hvalue, hne⟩, ?_, ?_,
    wide_field_text.mpr ⟨text, hvalue, rfl⟩⟩
  · exact (hnumber c hc).imp fun n hn => number_eq_some.mp hn
  · exact (htext c hc).imp fun t ht => text_eq_some.mp ht
  · rw [wide_field]
    cases hfield : value.field? "confidence" with
    | none => rfl
    | some c =>
        obtain ⟨n, hn⟩ := hnumber c hfield
        obtain ⟨rfl, -⟩ := number_eq_some.mp hn
        simp only [Option.map_some, Option.bind_some, hn]
        rfl
  · rw [wide_field]
    cases hfield : value.field? "reason" with
    | none => rfl
    | some c =>
        obtain ⟨t, ht⟩ := htext c hfield
        obtain rfl := text_eq_some.mp ht
        rfl

theorem exists_grillRecommendation (h : grillRecommendationSchema.check (wide value) = true) :
    ∃ result, grillRecommendation? value = some result := by
  obtain ⟨-, hnumber, htext, text, hvalue, hne⟩ := check_recommendation_wide.mp h
  have hfirst : optionalField? "confidence" number? value = _ :=
    optionalField_eq_some.mpr ⟨fun c hc => (hnumber c hc).imp fun n hn => number_eq_some.mpr hn, rfl⟩
  have hsecond : optionalField? "reason" Json.text? value = _ :=
    optionalField_eq_some.mpr ⟨fun c hc => (htext c hc).imp fun t ht => text_eq_some.mpr ht, rfl⟩
  have hread : ForgeRuntime.nonemptyText? (.text text) = some text := nonemptyText_eq_some_wide.mpr ⟨rfl, hne⟩
  exact ⟨_, by
    simp only [grillRecommendation?, hfirst, hsecond, hvalue, hread, Option.bind_eq_bind, Option.bind_some]
    rfl⟩

theorem grillStatus_eq_some_wide {status : GrillStatus} :
    ForgeRuntime.grillStatus? value = some status ↔ wide value = .text (statusText status) := by
  constructor
  · intro h
    unfold ForgeRuntime.grillStatus? at h
    split at h
    · cases h
      rfl
    · cases h
      rfl
    · cases h
  · intro h
    obtain ⟨text, rfl, htext⟩ := wide_eq_text.mp h
    cases status with
    | needsConfirmation =>
        obtain rfl : text = "NEEDS_CONFIRMATION" := Utf16.ofString_injective htext
        rfl
    | readyForDeep =>
        obtain rfl : text = "READY_FOR_DEEP" := Utf16.ofString_injective htext
        rfl

theorem nonemptyText_reads {text : String} (h : ForgeRuntime.nonemptyText? value = some text) :
    (∃ id : Utf16, wide value = .text id ∧ id ≠ "") ∧ wide value = .text text := by
  obtain ⟨rfl, hne⟩ := nonemptyText_eq_some_wide.mp h
  exact ⟨⟨text, rfl, ofString_ne_empty.mpr hne⟩, rfl⟩

/-- **What the reader of one pass takes** matches the schema, and reads as it says. -/
theorem grillCompletion_reads {completion : ForgeRuntime.GrillCompletionPayload}
    (h : grillCompletion? value = some completion) :
    GrillCompletionSchema.check (wide value) = true ∧ Reads (wide value) (wideCompletion completion) := by
  simp only [grillCompletion?, Option.bind_eq_bind, Option.bind_eq_some_iff, closedObject_eq_some, array_eq_some,
    bool_eq_some, Option.pure_def, Option.some.injEq] at h
  obtain ⟨input, ⟨hclosed, rfl⟩, _, hevidence, items, rfl, ids, hids, _, hquestions, questions, rfl, results,
    hresults, member, hrecommendation, r, hr, _, hrequires, requires, rfl, roundMember, hround, id, hid, status,
    hstatus, s, hs, rfl⟩ := h
  obtain ⟨hitems, hreadsItems⟩ := forall₂_reads Utf16.ofString (fun item => ∃ id : Utf16, item = .text id ∧ id ≠ "")
    (fun item text => item = .text text) (fun _ _ => nonemptyText_reads) hids
  obtain ⟨hchecks, hreads⟩ := forall₂_reads wideQuestion (grillQuestionSchema.check · = true) ReadsQuestion
    (fun _ _ => grillQuestion_reads) hresults
  obtain ⟨hcheck, hconfidence, hreason, hvalue⟩ := grillRecommendation_reads hr
  obtain ⟨⟨roundId, hroundId, hidne⟩, hidText⟩ := nonemptyText_reads hid
  have hstatus' := grillStatus_eq_some_wide.mp hs
  have hevidence' : (wide input).field? "evidence" = some (.array (items.map wide)) :=
    wide_field_eq_some.mpr ⟨_, hevidence, Json.mapText_eq_array.mpr ⟨items, rfl, rfl⟩⟩
  have hquestions' : (wide input).field? "questions" = some (.array (questions.map wide)) :=
    wide_field_eq_some.mpr ⟨_, hquestions, Json.mapText_eq_array.mpr ⟨questions, rfl, rfl⟩⟩
  have hrecommendation' := wide_field_eq_some.mpr ⟨member, hrecommendation, rfl⟩
  have hrequires' : (wide input).field? "requiresUserConfirmation" = some (.bool requires) :=
    wide_field_eq_some.mpr ⟨_, hrequires, rfl⟩
  constructor
  · refine check_completion.mpr ⟨hclosed, ⟨_, hevidence', List.forall_mem_map.mpr hitems⟩,
      ⟨_, hquestions', List.forall_mem_map.mpr hchecks⟩, ⟨_, hrecommendation', hcheck⟩, ⟨requires, hrequires'⟩,
      ⟨roundId, wide_field_eq_some.mpr ⟨_, hround, hroundId⟩, hidne⟩, s,
      wide_field_eq_some.mpr ⟨_, hstatus, hstatus'⟩⟩
  · exact
      { evidence := by rw [hevidence', forall₂_text.mp hreadsItems]; rfl
        status := wide_field_eq_some.mpr ⟨_, hstatus, hstatus'⟩
        requiresUserConfirmation := hrequires'
        recommendation := ⟨_, hrecommendation', hconfidence, hreason, hvalue⟩
        questions := ⟨_, hquestions', hreads⟩
        roundId := wide_field_eq_some.mpr ⟨_, hround, hidText⟩ }

/-- Every value that matches the schema is taken. -/
theorem exists_grillCompletion (h : GrillCompletionSchema.check (wide value) = true) :
    ∃ completion, grillCompletion? value = some completion := by
  obtain ⟨hclosed, hevidence, hquestions, ⟨_, hrecommendation, hr⟩, ⟨b, hb⟩, hround, status, hstatus⟩ :=
    check_completion.mp h
  obtain ⟨items, hitems, hids⟩ := exists_wide_field_array.mp hevidence
  obtain ⟨questions, hqs, hchecks⟩ := exists_wide_field_array.mp hquestions
  obtain ⟨recommendation, hmember, rfl⟩ := wide_field_eq_some.mp hrecommendation
  obtain ⟨_, hrequires, hbool⟩ := wide_field_eq_some.mp hb
  obtain rfl := Json.mapText_eq_bool.mp hbool
  obtain ⟨id, hid, hidne⟩ := exists_wide_field_text.mp hround
  obtain ⟨statusMember, hstatusMember, hs⟩ := wide_field_eq_some.mp hstatus
  obtain ⟨ids, hids'⟩ := exists_mapM (f := ForgeRuntime.nonemptyText?) fun item hitem =>
    (exists_wide_text.mp (List.forall_mem_map.mp hids item hitem)).imp fun t ht => nonemptyText_eq_some_wide.mpr ht
  obtain ⟨results, hresults⟩ := exists_mapM fun question hquestion =>
    exists_grillQuestion (List.forall_mem_map.mp hchecks question hquestion)
  obtain ⟨r, hr'⟩ := exists_grillRecommendation hr
  have hobject : closedObject?
      ["evidence", "questions", "recommendation", "requiresUserConfirmation", "roundId", "status"] value = some value :=
    closedObject_eq_some.mpr ⟨hclosed, rfl⟩
  have hroundId : ForgeRuntime.nonemptyText? (.text id) = some id := nonemptyText_eq_some_wide.mpr ⟨rfl, hidne⟩
  have hstatus' := grillStatus_eq_some_wide.mpr hs
  exact ⟨_, by
    simp only [grillCompletion?, hobject, hitems, hqs, hmember, hrequires, hid, hstatusMember, Json.array?, Json.bool?,
      hids', hresults, hr', hroundId, hstatus', Option.bind_eq_bind, Option.bind_some]
    rfl⟩

/-! The gates, and the two readers. -/

theorem mem_wideContext {context : ForgeRuntime.GrillCompletionContext} {id : String} :
    (id : Utf16) ∈ (wideContext context).fetchedEvidenceIds ↔ id ∈ context.fetchedEvidenceIds := by
  rw [wideContext, OrderedSet.mem_ofList, List.mem_map_of_injective Utf16.ofString_injective]
  rfl

/-- The gates of the two readers are the same. -/
theorem parseGrillCompletion_of_completion {parseJson : String → Except String (Json String)} {payload input : Json String}
    {context : ForgeRuntime.GrillCompletionContext} {completion : ForgeRuntime.GrillCompletionPayload}
    (hinput : grillInput parseJson payload = .ok input) (h : grillCompletion? input = some completion) :
    (ForgeRuntime.parseGrillCompletion parseJson payload context).map wideCompletion =
      passGates (wideContext context) (wideCompletion completion) := by
  have hfetched : (∃ id ∈ (wideCompletion completion).evidence, id ∉ (wideContext context).fetchedEvidenceIds) ↔
      ∃ id ∈ completion.evidence, id ∉ context.fetchedEvidenceIds := by
    show (∃ id ∈ completion.evidence.map Utf16.ofString, _) ↔ _
    simp only [List.mem_map, exists_exists_and_eq_and, mem_wideContext]
  have hround : (wideCompletion completion).roundId = (wideContext context).expectedRoundId ↔
      completion.roundId = context.expectedRoundId := Utf16.ofString_inj
  have hevidence : (wideCompletion completion).evidence.length = completion.evidence.length := List.length_map ..
  have hquestions : (wideCompletion completion).questions.length = completion.questions.length := List.length_map ..
  have hfirst : (wideContext context).isFirstRoundOfSnapshot = some true ↔ context.isFirstRoundOfSnapshot = true :=
    Option.some_inj
  have hmanifest : (wideContext context).snapshotManifest.map List.length = some 0 ↔
      context.snapshotManifest.length = 0 := Option.some_inj
  have hstatus : (wideCompletion completion).status = completion.status := rfl
  have hrequires : (wideCompletion completion).requiresUserConfirmation = completion.requiresUserConfirmation := rfl
  unfold ForgeRuntime.parseGrillCompletion passGates
  simp only [hinput, h, bind, Except.bind, hfetched, hround, hevidence, hquestions, hfirst, hmanifest, hstatus,
    hrequires, ne_eq, checkShape, Checks.refuseIf, ForgeRuntime.parseStructuredGrillResult]
  by_cases hexpected : completion.roundId = context.expectedRoundId
  swap
  · simp only [hexpected, not_false_eq_true, if_true]
    rfl
  cases hs : completion.status with
  | needsConfirmation =>
      by_cases hshape : completion.requiresUserConfirmation = true ∧ completion.questions.length = 1
      · simp only [hexpected, hshape.1, hshape.2, not_true_eq_false, or_self, if_false, hs]
        by_cases hcites : ∃ candidateId ∈ completion.evidence, candidateId ∉ context.fetchedEvidenceIds
        · simp only [if_pos hcites]
          split_ifs <;> rfl
        · simp only [if_neg hcites]
          split_ifs <;> rfl
      · have hbad : ¬ completion.requiresUserConfirmation = true ∨ ¬ completion.questions.length = 1 :=
          not_and_or.mp hshape
        simp only [hexpected, if_pos hbad, not_true_eq_false, if_false]
        rfl
  | readyForDeep =>
      by_cases hshape : completion.requiresUserConfirmation = false ∧ completion.questions.length = 0
      · simp only [hexpected, hshape.1, hshape.2, not_true_eq_false, or_self, if_false, hs]
        by_cases hcites : ∃ candidateId ∈ completion.evidence, candidateId ∉ context.fetchedEvidenceIds
        · simp only [if_pos hcites]
          split_ifs <;> rfl
        · simp only [if_neg hcites]
          split_ifs <;> rfl
      · have hbad : ¬ completion.requiresUserConfirmation = false ∨ ¬ completion.questions.length = 0 :=
          not_and_or.mp hshape
        simp only [hexpected, if_pos hbad, not_true_eq_false, if_false]
        rfl

/-- **One pass is enough**: the reader that the extension is modelled with is the one of the source, for every payload
that the two take for the same value. -/
theorem parseGrillCompletion_wide {parseJson : String → Except String (Json String)} {payload : Json String}
    (hinput : (grillInput parseJson payload).map wide = completionInput syntaxError (wide payload))
    (context : ForgeRuntime.GrillCompletionContext) :
    (ForgeRuntime.parseGrillCompletion parseJson payload context).map wideCompletion =
      parseGrillCompletion syntaxError (wide payload) (wideContext context) := by
  cases hgrill : grillInput parseJson payload with
  | error message =>
      rw [hgrill] at hinput
      unfold ForgeRuntime.parseGrillCompletion parseGrillCompletion
      rw [← hinput, hgrill]
      rfl
  | ok input =>
      rw [hgrill] at hinput
      cases hcheck : GrillCompletionSchema.check (wide input) with
      | false =>
          have hnone : grillCompletion? input = none := by
            by_contra hsome
            obtain ⟨completion, hcompletion⟩ := Option.ne_none_iff_exists'.mp hsome
            rw [(grillCompletion_reads hcompletion).1] at hcheck
            cases hcheck
          unfold ForgeRuntime.parseGrillCompletion parseGrillCompletion
          rw [← hinput, hgrill]
          simp only [Except.map, bind, Except.bind, hnone, hcheck, Checks.refuseIf]
          rfl
      | true =>
          obtain ⟨result, hreads, hfilled⟩ := exists_reads hcheck
          obtain ⟨completion, hcompletion⟩ := exists_grillCompletion hcheck
          obtain rfl := reads_unique (grillCompletion_reads hcompletion).2 hreads
          rw [parseGrillCompletion_of_reads syntaxError hinput.symm hcheck hreads hfilled]
          exact parseGrillCompletion_of_completion hgrill hcompletion

end

/-! ### The grammar -/

/-- **The completion grammar.**  A payload is accepted exactly when the value in it is acceptable; the result says
what the value does, and the text of the result is accepted in the same context, with the same result. -/
theorem grill_completion_grammar (payload : Json Utf16) (context : GrillCompletionContext α) :
    ((∃ result, parseGrillCompletion syntaxError payload context = .ok result) ↔
      ∃ input, completionInput syntaxError payload = .ok input ∧ Acceptable context input) ∧
    ∀ result, parseGrillCompletion syntaxError payload context = .ok result →
      (∃ input, completionInput syntaxError payload = .ok input ∧ Reads input result) ∧
      parseGrillCompletion syntaxError (.text result.toJson.stringify) context = .ok result := by
  constructor
  · constructor
    · rintro ⟨result, h⟩
      obtain ⟨input, hinput, hacceptable, -⟩ := (parseGrillCompletion_eq_ok syntaxError).mp h
      exact ⟨input, hinput, hacceptable⟩
    · rintro ⟨input, hinput, hacceptable⟩
      obtain ⟨result, hreads, -⟩ := exists_reads hacceptable.schema
      exact ⟨result, (parseGrillCompletion_eq_ok syntaxError).mpr ⟨input, hinput, hacceptable, hreads⟩⟩
  · intro result h
    obtain ⟨input, hinput, hacceptable, hreads⟩ := (parseGrillCompletion_eq_ok syntaxError).mp h
    refine ⟨⟨input, hinput, hreads⟩, ?_⟩
    obtain ⟨other, hother, hfilled⟩ := exists_reads hacceptable.schema
    obtain rfl := reads_unique hreads hother
    have hagain : completionInput syntaxError (.text result.toJson.stringify) = .ok result.toJson := by
      rw [completionInput, Json.parse_stringify, printed_toJson hfilled]
      rfl
    exact (parseGrillCompletion_eq_ok syntaxError).mpr
      ⟨_, hagain, acceptable_toJson hacceptable hreads, reads_toJson result⟩

end

/-- The text of a completion that asks a question, with this confidence; the value of the second option is half of a
surrogate pair. -/
def askingText (confidence : String) : String :=
  "\x7b\"evidence\": [\"e\"], \"questions\": [\x7b\"id\": \"q\", \"options\": [\"a\", \x7b\"value\": \"\\ud83d\"\x7d], " ++
    "\"question\": \"which\"\x7d], \"recommendation\": \x7b\"confidence\": " ++ confidence ++ ", \"value\": \"a\"\x7d, " ++
    "\"requiresUserConfirmation\": true, \"roundId\": \"grill-1\", \"status\": \"NEEDS_CONFIRMATION\"\x7d"

def askingContext : GrillCompletionContext Nat where
  expectedRoundId := "grill-1"
  fetchedEvidenceIds := .ofList ["e"]
  isFirstRoundOfSnapshot := some true
  snapshotManifest := some [0]

/-- The question is taken, half of a pair and all, and taken again from its own text; with an infinite confidence it
is refused. -/
theorem grill_completion_asked :
    (∃ result, parseGrillCompletion (fun _ => "SyntaxError") (.text (askingText "0.5")) askingContext = .ok result ∧
      result.questions.map (·.options) = [[("a" : Utf16), ⟨[0xD83D]⟩]] ∧
      parseGrillCompletion (fun _ => "SyntaxError") (.text result.toJson.stringify) askingContext = .ok result) ∧
    ¬ ∃ input, completionInput (fun _ => "SyntaxError") (.text (askingText "1e999")) = .ok input ∧
      Acceptable askingContext input := by
  constructor
  · have hread : (parseGrillCompletion (fun _ => "SyntaxError") (.text (askingText "0.5")) askingContext).toOption.map
        (fun result => result.questions.map (·.options)) = some [[("a" : Utf16), ⟨[0xD83D]⟩]] := by decide +kernel
    cases hok : parseGrillCompletion (fun _ => "SyntaxError") (.text (askingText "0.5")) askingContext with
    | error message =>
        rw [hok] at hread
        cases hread
    | ok result =>
        rw [hok] at hread
        exact ⟨result, rfl, Option.some.inj hread, ((grill_completion_grammar _ _ askingContext).2 result hok).2⟩
  · intro hinput
    obtain ⟨result, hok⟩ := (grill_completion_grammar _ _ askingContext).1.mpr hinput
    have hrefused : (parseGrillCompletion (fun _ => "SyntaxError") (.text (askingText "1e999")) askingContext).isOk =
        false := by decide +kernel
    rw [hok] at hrefused
    cases hrefused

end Grill

end ForgeRuntime
