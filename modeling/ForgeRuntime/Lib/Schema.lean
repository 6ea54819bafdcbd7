import ForgeRuntime.Lib.JsonParser

/-!
# Schemas of JSON values

Schemas as a validator library composes them, and the values that each of them accepts.

* `Schema.check` — does a value match?
* `Schema.check_string` … `Schema.check_union` — what it means for each kind of schema;
* `Schema.checkProperties_iff` — for the properties of an object, one by one.
-/

namespace EventDriven

inductive Schema where
  /-- a text, which must not be empty under a `minLength` of one -/
  | string (nonempty : Bool)
  | number
  | boolean
  | literal (value : Utf16)
  | array (items : Schema) (minItems : Nat)
  | union (members : List Schema)
  | object (properties : List (Utf16 × Schema)) (additionalProperties : Bool)
  /-- a property that may be left out -/
  | optional (schema : Schema)

namespace Schema

def isOptional : Schema → Bool
  | optional _ => true
  | _ => false

@[simp] theorem isOptional_string (nonempty : Bool) : isOptional (string nonempty) = false := rfl

@[simp] theorem isOptional_boolean : isOptional boolean = false := rfl

@[simp] theorem isOptional_array (items : Schema) (n : Nat) : isOptional (array items n) = false := rfl

@[simp] theorem isOptional_union (members : List Schema) : isOptional (union members) = false := rfl

@[simp] theorem isOptional_object (properties : List (Utf16 × Schema)) (b : Bool) :
    isOptional (object properties b) = false := rfl

/-- An object without members of other names, or one that may have some. -/
def closed (names : List Utf16) (additionalProperties : Bool) : Json Utf16 → Bool
  | .object members => additionalProperties || members.all (·.1 ∈ names)
  | _ => false

mutual

def check : Schema → Json Utf16 → Bool
  | string nonempty, value => value.text?.any fun text : Utf16 => !nonempty || text ≠ ""
  | number, value => match value with
      -- the validator takes finite numbers only
      | .number value => value.isFinite
      | _ => false
  | boolean, value => value.bool?.isSome
  | literal text, value => value.text? == some text
  | array items minItems, value =>
      value.array?.any fun list => minItems ≤ list.length && list.all fun item => check items item
  | union members, value => checkAny members value
  | object properties additionalProperties, value =>
      closed (properties.map (·.1)) additionalProperties value && checkProperties properties value
  | optional schema, value => check schema value

def checkAny : List Schema → Json Utf16 → Bool
  | [], _ => false
  | schema :: rest, value => check schema value || checkAny rest value

def checkProperties : List (Utf16 × Schema) → Json Utf16 → Bool
  | [], _ => true
  | (name, schema) :: rest, value =>
      (match value.field? name with
        | some member => check schema member
        | none => isOptional schema) && checkProperties rest value

end

attribute [local simp] check checkAny checkProperties

variable {value : Json Utf16}

/-- A text of at least one character. -/
theorem check_nonempty : check (string true) value = true ↔ ∃ text : Utf16, value = .text text ∧ text ≠ "" := by
  cases value <;> simp [Json.text?]

theorem check_string : check (string false) value = true ↔ ∃ text, value = .text text := by
  cases value <;> simp [Json.text?]

theorem check_number : check number value = true ↔ ∃ n : Numeral, value = .number n ∧ n.isFinite = true := by
  cases value <;> simp

theorem check_boolean : check boolean value = true ↔ ∃ b, value = .bool b := by
  cases value <;> simp [Json.bool?]

theorem check_literal {text : Utf16} : check (literal text) value = true ↔ value = .text text := by
  cases value <;> simp [Json.text?]

theorem check_array {items : Schema} {minItems : Nat} :
    check (array items minItems) value = true ↔
      ∃ list, value = .array list ∧ minItems ≤ list.length ∧ ∀ item ∈ list, check items item = true := by
  cases value <;> simp [Json.array?]

theorem check_union {members : List Schema} :
    check (union members) value = true ↔ ∃ schema ∈ members, check schema value = true := by
  have hany : checkAny members value = members.any fun schema => check schema value := by
    induction members with
    | nil => rfl
    | cons schema rest ih => rw [checkAny, ih, List.any_cons]
  rw [check, hany, List.any_eq_true]

/-- A property of a value: its schema accepts the member, or lets it be absent. -/
def Fits (value : Json Utf16) (property : Utf16 × Schema) : Prop :=
  match value.field? property.1 with
  | some member => check property.2 member = true
  | none => isOptional property.2 = true

theorem checkProperties_iff {properties : List (Utf16 × Schema)} :
    checkProperties properties value = true ↔ ∀ property ∈ properties, Fits value property := by
  induction properties with
  | nil => simp
  | cons property rest ih =>
      rw [checkProperties, Bool.and_eq_true, ih, List.forall_mem_cons, Fits]
      cases value.field? property.1 <;> rfl

theorem check_object {properties : List (Utf16 × Schema)} {additionalProperties : Bool} :
    check (object properties additionalProperties) value = true ↔
      closed (properties.map (·.1)) additionalProperties value = true ∧
        ∀ property ∈ properties, Fits value property := by
  rw [check, Bool.and_eq_true, checkProperties_iff]

/-- A property that must be there. -/
theorem fits_required {name : Utf16} {schema : Schema} (h : ¬ isOptional schema = true) :
    Fits value (name, schema) ↔ ∃ member, value.field? name = some member ∧ check schema member = true := by
  unfold Fits
  cases hfield : value.field? name with
  | none => simp [h]
  | some member => simp

/-- A property that may be left out. -/
theorem fits_optional {name : Utf16} {schema : Schema} :
    Fits value (name, optional schema) ↔
      ∀ member, value.field? name = some member → check schema member = true := by
  unfold Fits
  cases hfield : value.field? name with
  | none => simp [isOptional]
  | some member => simp

end Schema

end EventDriven
