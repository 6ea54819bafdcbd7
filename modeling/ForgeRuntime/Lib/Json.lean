import ForgeRuntime.Lib.Numeral

/-!
# JSON values

Values of the interchange format and the two texts that the source language prints them as: the compact one
and the one with an indentation of two spaces.  Members keep the order in which they are written.

* `Json.compact`, `Json.pretty` — the two texts;
* `Json.mapText` — a value with its texts written in another way.
-/

namespace EventDriven

open Text

/-- A JSON value with texts of a type.  A number is kept as its literal. -/
inductive Json (τ : Type) where
  | null
  | bool (value : Bool)
  | number (value : Numeral)
  | text (value : τ)
  | array (items : List (Json τ))
  | object (members : List (τ × Json τ))

namespace Json

section

variable {τ : Type}

/-- A value is made of its items or members. -/
@[elab_as_elim]
theorem induction {P : Json τ → Prop} (null : P .null) (bool : ∀ value, P (.bool value))
    (number : ∀ value, P (.number value)) (text : ∀ value, P (.text value))
    (array : ∀ items, (∀ item ∈ items, P item) → P (.array items))
    (object : ∀ members, (∀ m ∈ members, P m.2) → P (.object members)) (value : Json τ) : P value :=
  @Json.rec τ P (fun items => ∀ item ∈ items, P item) (fun members => ∀ m ∈ members, P m.2) (fun m => P m.2)
    null bool number text array object (List.forall_mem_nil _)
    (fun _ _ hitem hrest => List.forall_mem_cons.mpr ⟨hitem, hrest⟩) (List.forall_mem_nil _)
    (fun _ _ hmember hrest => List.forall_mem_cons.mpr ⟨hmember, hrest⟩) (fun _ _ hvalue => hvalue) value

/-- A member of an object; the last one wins when a name is given twice. -/
def field? [DecidableEq τ] : Json τ → τ → Option (Json τ)
  | object members, name => (members.reverse.find? fun m => m.1 = name).map (·.2)
  | _, _ => none

def text? : Json τ → Option τ
  | text value => some value
  | _ => none

def bool? : Json τ → Option Bool
  | bool value => some value
  | _ => none

def array? : Json τ → Option (List (Json τ))
  | array items => some items
  | _ => none

/-- An array of texts. -/
def texts (values : List τ) : Json τ := array (values.map text)

/-- A member that is left out when it has no value. -/
def optional (name : τ) (value : Option (Json τ)) : List (τ × Json τ) :=
  (value.map fun v => (name, v)).toList

end

/-! ### Texts written in another way -/

section

variable {τ σ : Type} (f : τ → σ)

mutual

def mapText : Json τ → Json σ
  | null => null
  | bool value => bool value
  | number value => number value
  | text value => text (f value)
  | array items => array (mapItems items)
  | object members => object (mapMembers members)

def mapItems : List (Json τ) → List (Json σ)
  | [] => []
  | item :: rest => mapText item :: mapItems rest

def mapMembers : List (τ × Json τ) → List (σ × Json σ)
  | [] => []
  | (name, value) :: rest => (f name, mapText value) :: mapMembers rest

end

theorem mapItems_eq (items : List (Json τ)) : mapItems f items = items.map (mapText f) := by
  induction items with
  | nil => rfl
  | cons item rest ih => rw [mapItems, ih, List.map_cons]

theorem mapMembers_eq (members : List (τ × Json τ)) :
    mapMembers f members = members.map fun m => (f m.1, mapText f m.2) := by
  induction members with
  | nil => rfl
  | cons m rest ih => rw [mapMembers, ih, List.map_cons]

variable {f} {value : Json τ}

/-- **A member is found** under its name in the other writing. -/
theorem field_mapText [DecidableEq τ] [DecidableEq σ] (hf : f.Injective) (name : τ) :
    (mapText f value).field? (f name) = (value.field? name).map (mapText f) := by
  cases value with
  | object members =>
      have hname : ∀ m : τ × Json τ, decide (f m.1 = f name) = decide (m.1 = name) :=
        fun m => decide_eq_decide.mpr hf.eq_iff
      simp only [mapText, field?, mapMembers_eq, ← List.map_reverse, List.find?_map, Function.comp_def, hname,
        Option.map_map]
  | _ => rfl

theorem mapText_eq_text {text : σ} :
    mapText f value = .text text ↔ ∃ original, value = .text original ∧ f original = text := by
  cases value <;> simp [mapText]

theorem mapText_eq_bool {b : Bool} : mapText f value = .bool b ↔ value = .bool b := by
  cases value <;> simp [mapText]

theorem mapText_eq_number {n : Numeral} : mapText f value = .number n ↔ value = .number n := by
  cases value <;> simp [mapText]

theorem mapText_eq_array {items : List (Json σ)} :
    mapText f value = .array items ↔ ∃ originals, value = .array originals ∧ originals.map (mapText f) = items := by
  cases value <;> simp [mapText, mapItems_eq]

end

/-! ### The two texts -/

/-- A number as it is printed; an infinity is printed as `null`. -/
def numberText (value : Numeral) : String := if value.isFinite then value.literal else "null"

mutual

def compact : Json String → String
  | null => "null"
  | bool value => if value then "true" else "false"
  | number value => numberText value
  | text value => quote value
  | array items => "[" ++ join "," (compactItems items) ++ "]"
  | object members => "\x7b" ++ join "," (compactMembers members) ++ "\x7d"

def compactItems : List (Json String) → List String
  | [] => []
  | item :: rest => compact item :: compactItems rest

def compactMembers : List (String × Json String) → List String
  | [] => []
  | (name, value) :: rest => (quote name ++ ":" ++ compact value) :: compactMembers rest

end

/-- A line break and the indentation of a level. -/
def newline (level : Nat) : String := "\n" ++ String.ofList (List.replicate (2 * level) ' ')

/-- The lines of a bracketed value, one for each item. -/
def block (level : Nat) (opening closing : String) (items : List String) : String :=
  if items = [] then opening ++ closing
  else opening ++ newline (level + 1) ++ join ("," ++ newline (level + 1)) items ++ newline level ++ closing

mutual

def prettyAt (level : Nat) : Json String → String
  | null => "null"
  | bool value => if value then "true" else "false"
  | number value => numberText value
  | text value => quote value
  | array items => block level "[" "]" (prettyItems (level + 1) items)
  | object members => block level "\x7b" "\x7d" (prettyMembers (level + 1) members)

def prettyItems (level : Nat) : List (Json String) → List String
  | [] => []
  | item :: rest => prettyAt level item :: prettyItems level rest

def prettyMembers (level : Nat) : List (String × Json String) → List String
  | [] => []
  | (name, value) :: rest => (quote name ++ ": " ++ prettyAt level value) :: prettyMembers level rest

end

/-- The text with an indentation of two spaces. -/
def pretty (value : Json String) : String := prettyAt 0 value

end Json

end EventDriven
