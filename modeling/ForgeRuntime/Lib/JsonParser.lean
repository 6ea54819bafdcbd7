import ForgeRuntime.Lib.Json
import ForgeRuntime.Lib.Utf16

/-!
# Reading JSON

The reader and the printer of the interchange format over code units, as the source language has them: a text may hold
half of a surrogate pair, escaped or not, and the printer escapes the halves that stand alone.  The members of an
object are kept as they are written; `Json.field?` reads the last one of a name.  An infinity is printed as `null`.

* `Json.parse?` — the value that a text denotes;
* `Json.stringify` — the compact text of a value;
* `Json.parse_stringify` — what is printed is read back, with `null` for every infinity;
* `Json.parse_of_readValue` — the reader never runs out of fuel.
-/

namespace EventDriven

open Text Utf16

namespace Json

/-! ### The reader -/

/-- The code units of a text of the first plane. -/
def plain (s : String) : List UInt16 := s.toList.map unit

/-- White space of the format. -/
def isBlank (u : UInt16) : Bool := u == unit ' ' || u == unit '\t' || u == unit '\n' || u == unit '\r'

def skipBlanks (input : List UInt16) : List UInt16 := input.dropWhile isBlank

/-- The value of a hexadecimal digit. -/
def hexValue? (u : UInt16) : Option Nat :=
  if 48 ≤ u.toNat ∧ u.toNat ≤ 57 then some (u.toNat - 48)
  else if 97 ≤ u.toNat ∧ u.toNat ≤ 102 then some (u.toNat - 87)
  else if 65 ≤ u.toNat ∧ u.toNat ≤ 70 then some (u.toNat - 55)
  else none

/-- A code unit in four hexadecimal digits. -/
def codeUnit? (a b c d : UInt16) : Option UInt16 := do
  return UInt16.ofNat
    ((((← hexValue? a) * 16 + (← hexValue? b)) * 16 + (← hexValue? c)) * 16 + (← hexValue? d))

/-- The code unit that an escape of one letter stands for. -/
def escaped? (letter : UInt16) : Option UInt16 :=
  if letter = unit '"' ∨ letter = unit '\\' ∨ letter = unit '/' then some letter
  else if letter = unit 'b' then some 8
  else if letter = unit 't' then some 9
  else if letter = unit 'n' then some 10
  else if letter = unit 'f' then some 12
  else if letter = unit 'r' then some 13
  else none

/-- One more code unit in front of what was read. -/
def prepend (u : UInt16) (read : List UInt16 × List UInt16) : List UInt16 × List UInt16 := (u :: read.1, read.2)

/-- The code units of a text up to its closing quote, and what stands behind it. -/
def readText : List UInt16 → Option (List UInt16 × List UInt16)
  | [] => none
  | u :: rest =>
      if u = unit '"' then some ([], rest)
      else if u = unit '\\' then
        match rest with
        | [] => none
        | letter :: rest =>
            if letter = unit 'u' then
              match rest with
              | a :: b :: c :: d :: rest =>
                  match codeUnit? a b c d with
                  | some u => (readText rest).map (prepend u)
                  | none => none
              | _ => none
            else
              match escaped? letter with
              | some u => (readText rest).map (prepend u)
              | none => none
      else if u.toNat < 32 then none
      else (readText rest).map (prepend u)

/-- May a number go on with this? -/
def isNumeric (u : UInt16) : Bool := Numeral.isNumeric (char u)

def readNumber (input : List UInt16) : Option (Json Utf16 × List UInt16) :=
  (Numeral.read? ((input.takeWhile isNumeric).map char)).map fun value =>
    (.number value, input.dropWhile isNumeric)

/-- What stands behind a word. -/
def dropWord? : List UInt16 → List UInt16 → Option (List UInt16)
  | [], input => some input
  | _ :: _, [] => none
  | u :: word, v :: input => if u = v then dropWord? word input else none

/-- One of the three words. -/
def readWord (input : List UInt16) : Option (Json Utf16 × List UInt16) :=
  match dropWord? (plain "null") input with
  | some rest => some (.null, rest)
  | none =>
      match dropWord? (plain "true") input with
      | some rest => some (.bool true, rest)
      | none => (dropWord? (plain "false") input).map fun rest => (.bool false, rest)

/-- What stands behind a mark, if the mark is next. -/
def behindMark? (mark : UInt16) (input : List UInt16) : Option (List UInt16) :=
  match skipBlanks input with
  | u :: rest => if u = mark then some rest else none
  | [] => none

/-- How a value begins. -/
inductive Beginning where
  /-- nothing to be read -/
  | malformed
  /-- the whole value, and what stands behind it -/
  | done (value : Json Utf16) (rest : List UInt16)
  /-- an array, in front of its first item -/
  | items (rest : List UInt16)
  /-- an object, in front of its first member -/
  | members (rest : List UInt16)

def wholeValue : Option (Json Utf16 × List UInt16) → Beginning
  | some (value, rest) => .done value rest
  | none => .malformed

def beginning (input : List UInt16) : Beginning :=
  match skipBlanks input with
  | [] => .malformed
  | u :: rest =>
      if u = unit '"' then wholeValue ((readText rest).map fun read => (.text ⟨read.1⟩, read.2))
      else if u = unit '[' then
        match behindMark? (unit ']') rest with
        | some rest => .done (.array []) rest
        | none => .items rest
      else if u = unit '\x7b' then
        match behindMark? (unit '\x7d') rest with
        | some rest => .done (.object []) rest
        | none => .members rest
      else wholeValue ((readWord (u :: rest)).or (readNumber (u :: rest)))

/-- Behind an item: the closing bracket, or a comma in front of one more. -/
def separator (closing : UInt16) (input : List UInt16) : Option (Bool × List UInt16) :=
  match behindMark? closing input with
  | some rest => some (true, rest)
  | none => (behindMark? (unit ',') input).map fun rest => (false, rest)

/-- The name of a member and its colon. -/
def memberName (input : List UInt16) : Option (Utf16 × List UInt16) := do
  let behindQuote ← behindMark? (unit '"') input
  let (name, behindName) ← readText behindQuote
  let rest ← behindMark? (unit ':') behindName
  return (⟨name⟩, rest)

mutual

def readValue : Nat → List UInt16 → Option (Json Utf16 × List UInt16)
  | 0, _ => none
  | fuel + 1, input =>
      match beginning input with
      | .malformed => none
      | .done value rest => some (value, rest)
      | .items rest => (readItems fuel rest).map fun read => (.array read.1, read.2)
      | .members rest => (readMembers fuel rest).map fun read => (.object read.1, read.2)

/-- The items of an array that has at least one, up to its closing bracket. -/
def readItems : Nat → List UInt16 → Option (List (Json Utf16) × List UInt16)
  | 0, _ => none
  | fuel + 1, input =>
      match readValue fuel input with
      | none => none
      | some (item, rest) =>
          match separator (unit ']') rest with
          | none => none
          | some (true, rest) => some ([item], rest)
          | some (false, rest) => (readItems fuel rest).map fun read => (item :: read.1, read.2)

/-- The members of an object that has at least one, up to its closing brace. -/
def readMembers : Nat → List UInt16 → Option (List (Utf16 × Json Utf16) × List UInt16)
  | 0, _ => none
  | fuel + 1, input =>
      match memberName input with
      | none => none
      | some (name, rest) =>
          match readValue fuel rest with
          | none => none
          | some (value, rest) =>
              match separator (unit '\x7d') rest with
              | none => none
              | some (true, rest) => some ([(name, value)], rest)
              | some (false, rest) => (readMembers fuel rest).map fun read => ((name, value) :: read.1, read.2)

end

/-- `JSON.parse`: a text in which a value stands, with nothing but white space around it. -/
def parse? (text : Utf16) : Option (Json Utf16) :=
  match readValue (2 * text.units.length + 1) text.units with
  | some (value, rest) => if skipBlanks rest = [] then some value else none
  | none => none

/-! ### The printer -/

def hexUnit (n : Nat) : UInt16 := unit (hexDigit n)

/-- A code unit as an escape of four digits. -/
def unicodeEscape (u : UInt16) : List UInt16 :=
  [unit '\\', unit 'u', hexUnit (u.toNat / 4096), hexUnit (u.toNat / 256), hexUnit (u.toNat / 16), hexUnit u.toNat]

/-- A code unit that is not part of a surrogate pair. -/
def quoteUnit (u : UInt16) : List UInt16 :=
  if u = unit '"' then [unit '\\', unit '"']
  else if u = unit '\\' then [unit '\\', unit '\\']
  else if u = 8 then [unit '\\', unit 'b']
  else if u = 9 then [unit '\\', unit 't']
  else if u = 10 then [unit '\\', unit 'n']
  else if u = 12 then [unit '\\', unit 'f']
  else if u = 13 then [unit '\\', unit 'r']
  else if u.toNat < 32 ∨ isHigh u ∨ isLow u then unicodeEscape u
  else [u]

/-- A text between its quotes. -/
def quoteUnits : List UInt16 → List UInt16
  | [] => []
  | [u] => quoteUnit u
  | u :: v :: rest =>
      if isHigh u ∧ isLow v then u :: v :: quoteUnits rest else quoteUnit u ++ quoteUnits (v :: rest)

def printText (text : Utf16) : List UInt16 := unit '"' :: quoteUnits text.units ++ [unit '"']

def separated : List (List UInt16) → List UInt16
  | [] => []
  | [item] => item
  | item :: next :: rest => item ++ unit ',' :: separated (next :: rest)

mutual

def print : Json Utf16 → List UInt16
  | null => plain "null"
  | bool value => plain (if value then "true" else "false")
  | number value => plain (numberText value)
  | text value => printText value
  | array items => unit '[' :: separated (printItems items) ++ [unit ']']
  | object members => unit '\x7b' :: separated (printMembers members) ++ [unit '\x7d']

def printItems : List (Json Utf16) → List (List UInt16)
  | [] => []
  | item :: rest => print item :: printItems rest

def printMembers : List (Utf16 × Json Utf16) → List (List UInt16)
  | [] => []
  | (name, value) :: rest => (printText name ++ unit ':' :: print value) :: printMembers rest

end

/-- `JSON.stringify` -/
def stringify (value : Json Utf16) : Utf16 := ⟨print value⟩

mutual

/-- What is left of a value in its text. -/
def printed : Json Utf16 → Json Utf16
  | null => null
  | bool value => bool value
  | number value => if value.isFinite then number value else null
  | text value => text value
  | array items => array (printedItems items)
  | object members => object (printedMembers members)

def printedItems : List (Json Utf16) → List (Json Utf16)
  | [] => []
  | item :: rest => printed item :: printedItems rest

def printedMembers : List (Utf16 × Json Utf16) → List (Utf16 × Json Utf16)
  | [] => []
  | (name, value) :: rest => (name, printed value) :: printedMembers rest

end

/-! ### Texts -/

theorem hexValue_hexUnit_lt : ∀ n < 16, hexValue? (hexUnit n) = some n := by decide

theorem hexValue_hexUnit (n : Nat) : hexValue? (hexUnit n) = some (n % 16) := by
  rw [← hexValue_hexUnit_lt (n % 16) (Nat.mod_lt n (by decide))]
  simp [hexUnit, hexDigit]

theorem readText_quote (rest : List UInt16) : readText (unit '"' :: rest) = some ([], rest) := by
  rw [readText.eq_def]
  exact if_pos rfl

/-- An escape of one letter. -/
theorem readText_escaped {letter u : UInt16} (hletter : letter ≠ unit 'u') (hu : escaped? letter = some u)
    (rest : List UInt16) : readText (unit '\\' :: letter :: rest) = (readText rest).map (prepend u) := by
  rw [readText.eq_def]
  simp only [if_neg (show unit '\\' ≠ unit '"' by decide), if_true, if_neg hletter, hu]

/-- A code unit that stands for itself. -/
theorem readText_plain {u : UInt16} (hquote : u ≠ unit '"') (hslash : u ≠ unit '\\') (hu : ¬ u.toNat < 32)
    (rest : List UInt16) : readText (u :: rest) = (readText rest).map (prepend u) := by
  rw [readText.eq_def]
  simp only [if_neg hquote, if_neg hslash, if_neg hu]

/-- A code unit in four digits. -/
theorem readText_unicodeEscape (u : UInt16) (rest : List UInt16) :
    readText (unicodeEscape u ++ rest) = (readText rest).map (prepend u) := by
  have hbound : u.toNat < 65536 := u.toNat_lt
  have hunit : codeUnit? (hexUnit (u.toNat / 4096)) (hexUnit (u.toNat / 256)) (hexUnit (u.toNat / 16))
      (hexUnit u.toNat) = some u := by
    have hvalue : ((u.toNat / 4096 % 16 * 16 + u.toNat / 256 % 16) * 16 + u.toNat / 16 % 16) * 16 + u.toNat % 16 =
        u.toNat := by omega
    simp only [codeUnit?, hexValue_hexUnit, Option.bind_eq_bind, Option.bind_some, Option.pure_def, hvalue,
      UInt16.ofNat_toNat]
  show readText (unit '\\' :: unit 'u' :: hexUnit (u.toNat / 4096) :: hexUnit (u.toNat / 256) ::
    hexUnit (u.toNat / 16) :: hexUnit u.toNat :: rest) = _
  rw [readText.eq_def]
  simp only [if_neg (show unit '\\' ≠ unit '"' by decide), if_true, hunit]

/-- **A quoted code unit** is read back. -/
theorem readText_quoteUnit (u : UInt16) (rest : List UInt16) :
    readText (quoteUnit u ++ rest) = (readText rest).map (prepend u) := by
  unfold quoteUnit
  split
  case isTrue h =>
    rw [h]
    exact readText_escaped (by decide) (by decide) rest
  split
  case isTrue h =>
    rw [h]
    exact readText_escaped (by decide) (by decide) rest
  split
  case isTrue h =>
    rw [h]
    exact readText_escaped (by decide) (by decide) rest
  split
  case isTrue h =>
    rw [h]
    exact readText_escaped (by decide) (by decide) rest
  split
  case isTrue h =>
    rw [h]
    exact readText_escaped (by decide) (by decide) rest
  split
  case isTrue h =>
    rw [h]
    exact readText_escaped (by decide) (by decide) rest
  split
  case isTrue h =>
    rw [h]
    exact readText_escaped (by decide) (by decide) rest
  split
  case isTrue => exact readText_unicodeEscape u rest
  case isFalse hquote hslash _ _ _ _ _ hplain => exact readText_plain hquote hslash (fun h => hplain (.inl h)) rest

/-- Half of a surrogate pair stands for itself. -/
theorem readText_half {u : UInt16} (h : isHigh u = true ∨ isLow u = true) (rest : List UInt16) :
    readText (u :: rest) = (readText rest).map (prepend u) := by
  have hbound : 0xD800 ≤ u.toNat := by
    simp only [isHigh, isLow, Bool.and_eq_true, decide_eq_true_eq] at h
    omega
  have hne : ∀ v : UInt16, v.toNat < 0xD800 → u ≠ v := by
    rintro v hv rfl
    omega
  exact readText_plain (hne _ (by decide)) (hne _ (by decide)) (by omega) rest

/-- A quoted text is read back, up to its closing quote. -/
theorem readText_quoteUnits (text rest : List UInt16) :
    readText (quoteUnits text ++ unit '"' :: rest) = some (text, rest) := by
  fun_induction quoteUnits text with
  | case1 => exact readText_quote rest
  | case2 u =>
      rw [readText_quoteUnit, readText_quote]
      rfl
  | case3 u v units h ih =>
      show readText (u :: v :: (quoteUnits units ++ unit '"' :: rest)) = _
      rw [readText_half (.inl h.1), readText_half (.inr h.2), ih]
      rfl
  | case4 u v units h ih =>
      rw [List.append_assoc, readText_quoteUnit, ih]
      rfl

/-! ### Numbers -/

theorem toNat_of_numeric {c : Char} (h : Numeral.isNumeric c = true) : c.toNat < 0x80 := by
  simp only [Numeral.isNumeric, Numeral.isDigit, Bool.or_eq_true, Bool.and_eq_true, decide_eq_true_eq,
    beq_iff_eq] at h
  rcases h with ((((h | rfl) | rfl) | rfl) | rfl) | rfl
  · have hnine : c.toNat ≤ '9'.toNat := h.2
    exact Nat.lt_of_le_of_lt hnine (by decide)
  all_goals decide

/-- What may stand behind a value: nothing that goes on with a number. -/
def Ends (rest : List UInt16) : Prop := ∀ u ∈ rest.head?, isNumeric u = false

theorem char_of_literal {n : Numeral} {c : Char} (hc : c ∈ n.literal.toList) : char (unit c) = c :=
  char_unit (Nat.lt_trans (toNat_of_numeric (Numeral.isNumeric_of_mem hc)) (by decide))

theorem numeric_of_literal {n : Numeral} {u : UInt16} (hu : u ∈ plain n.literal) : isNumeric u = true := by
  obtain ⟨c, hc, rfl⟩ := List.mem_map.mp hu
  rw [isNumeric, char_of_literal hc]
  exact Numeral.isNumeric_of_mem hc

theorem readNumber_append (n : Numeral) {rest : List UInt16} (hrest : Ends rest) :
    readNumber (plain n.literal ++ rest) = some (.number n, rest) := by
  have htake : (plain n.literal ++ rest).takeWhile isNumeric = plain n.literal := by
    rw [List.takeWhile_append_of_pos fun u hu => numeric_of_literal hu]
    cases rest with
    | nil => simp
    | cons u rest => simp [hrest u rfl]
  have hdrop : (plain n.literal ++ rest).dropWhile isNumeric = rest := by
    rw [List.dropWhile_append_of_pos fun u hu => numeric_of_literal hu]
    cases rest with
    | nil => rfl
    | cons u rest => simp [hrest u rfl]
  have hback : (plain n.literal).map char = n.literal.toList := by
    rw [plain, List.map_map]
    exact (List.map_congr_left fun c hc => char_of_literal hc).trans (List.map_id _)
  rw [readNumber, htake, hdrop, hback, Numeral.read_literal, Option.map_some]

/-- A mark that is in no number is not what a number begins with. -/
theorem ne_of_numeric {u mark : UInt16} (hu : isNumeric u = true) (hmark : isNumeric mark = false) : u ≠ mark := by
  rintro rfl
  rw [hu] at hmark
  cases hmark

theorem not_blank_of_numeric {u : UInt16} (hu : isNumeric u = true) : isBlank u = false := by
  have hne : ∀ mark : UInt16, isNumeric mark = false → (u == mark) = false :=
    fun mark hmark => beq_false_of_ne (ne_of_numeric hu hmark)
  simp only [isBlank, hne _ (show isNumeric (unit ' ') = false by decide),
    hne _ (show isNumeric (unit '\t') = false by decide), hne _ (show isNumeric (unit '\n') = false by decide),
    hne _ (show isNumeric (unit '\r') = false by decide), Bool.or_false]

theorem dropWord_of_ne {u v : UInt16} (h : u ≠ v) (word rest : List UInt16) :
    dropWord? (v :: word) (u :: rest) = none := by
  rw [dropWord?, if_neg h.symm]

/-- A number is none of the words. -/
theorem readWord_of_numeric {u : UInt16} (hu : isNumeric u = true) (rest : List UInt16) :
    readWord (u :: rest) = none := by
  have hnull : dropWord? (plain "null") (u :: rest) = none := dropWord_of_ne (ne_of_numeric hu (by decide)) _ rest
  have htrue : dropWord? (plain "true") (u :: rest) = none := dropWord_of_ne (ne_of_numeric hu (by decide)) _ rest
  have hfalse : dropWord? (plain "false") (u :: rest) = none := dropWord_of_ne (ne_of_numeric hu (by decide)) _ rest
  simp only [readWord, hnull, htrue, hfalse, Option.map_none]

/-! ### Values -/

theorem separated_cons (item : List UInt16) (items : List (List UInt16)) :
    separated (item :: items) = item ++ items.flatMap fun item => unit ',' :: item := by
  induction items generalizing item with
  | nil => simp [separated]
  | cons next items ih => rw [separated, ih, List.flatMap_cons, List.cons_append]

theorem printItems_eq (items : List (Json Utf16)) : printItems items = items.map print := by
  induction items with
  | nil => rfl
  | cons item rest ih => rw [printItems, ih, List.map_cons]

/-- The text of a member. -/
def printMember (m : Utf16 × Json Utf16) : List UInt16 := printText m.1 ++ unit ':' :: print m.2

theorem printMembers_eq (members : List (Utf16 × Json Utf16)) : printMembers members = members.map printMember := by
  induction members with
  | nil => rfl
  | cons m rest ih => rw [printMembers, ih, List.map_cons, printMember]

theorem printedItems_eq (items : List (Json Utf16)) : printedItems items = items.map printed := by
  induction items with
  | nil => rfl
  | cons item rest ih => rw [printedItems, ih, List.map_cons]

/-- What is left of a member in its text. -/
def printedMember (m : Utf16 × Json Utf16) : Utf16 × Json Utf16 := (m.1, printed m.2)

theorem printedMembers_eq (members : List (Utf16 × Json Utf16)) :
    printedMembers members = members.map printedMember := by
  induction members with
  | nil => rfl
  | cons m rest ih => rw [printedMembers, ih, List.map_cons, printedMember]

/-- The text of the items behind the first one. -/
def laterItems (items : List (Json Utf16)) : List UInt16 := items.flatMap fun item => unit ',' :: print item

/-- The text of the members behind the first one. -/
def laterMembers (members : List (Utf16 × Json Utf16)) : List UInt16 :=
  members.flatMap fun m => unit ',' :: printMember m

theorem print_array_cons (item : Json Utf16) (items : List (Json Utf16)) :
    print (.array (item :: items)) = unit '[' :: (print item ++ laterItems items) ++ [unit ']'] := by
  rw [print, printItems_eq, List.map_cons, separated_cons, List.flatMap_map, laterItems]

theorem print_object_cons (m : Utf16 × Json Utf16) (members : List (Utf16 × Json Utf16)) :
    print (.object (m :: members)) = unit '\x7b' :: (printMember m ++ laterMembers members) ++ [unit '\x7d'] := by
  rw [print, printMembers_eq, List.map_cons, separated_cons, List.flatMap_map, laterMembers]

/-- The first code unit of a printed value is no white space and closes nothing. -/
theorem print_head (value : Json Utf16) :
    ∃ u text, print value = u :: text ∧ isBlank u = false ∧ u ≠ unit ']' ∧ u ≠ unit '\x7d' := by
  cases value with
  | null => exact ⟨unit 'n', _, rfl, by decide⟩
  | bool value =>
      cases value with
      | false => exact ⟨unit 'f', _, rfl, by decide⟩
      | true => exact ⟨unit 't', _, rfl, by decide⟩
  | number value =>
      rw [print, numberText]
      split
      · obtain ⟨c, text, htext⟩ := List.exists_cons_of_ne_nil value.literal_ne_nil
        have hplain : plain value.literal = unit c :: text.map unit := by rw [plain, htext, List.map_cons]
        have hu : isNumeric (unit c) = true := numeric_of_literal (hplain ▸ List.mem_cons_self)
        exact ⟨unit c, _, hplain, not_blank_of_numeric hu, ne_of_numeric hu (by decide), ne_of_numeric hu (by decide)⟩
      · exact ⟨unit 'n', _, rfl, by decide⟩
  | text value => exact ⟨unit '"', _, rfl, by decide⟩
  | array items => exact ⟨unit '[', _, rfl, by decide⟩
  | object members => exact ⟨unit '\x7b', _, rfl, by decide⟩

theorem skipBlanks_cons {u : UInt16} (h : isBlank u = false) (rest : List UInt16) :
    skipBlanks (u :: rest) = u :: rest := by
  rw [skipBlanks, List.dropWhile_cons_of_neg (by simp [h])]

theorem behindMark_self {mark : UInt16} (h : isBlank mark = false) (rest : List UInt16) :
    behindMark? mark (mark :: rest) = some rest := by
  simp only [behindMark?, skipBlanks_cons h, if_true]

theorem behindMark_of_ne {u mark : UInt16} (hu : isBlank u = false) (hne : u ≠ mark) (rest : List UInt16) :
    behindMark? mark (u :: rest) = none := by
  simp only [behindMark?, skipBlanks_cons hu, if_neg hne]

theorem beginning_null (rest : List UInt16) : beginning (plain "null" ++ rest) = .done .null rest := rfl

theorem beginning_literal (n : Numeral) {rest : List UInt16} (hrest : Ends rest) :
    beginning (plain n.literal ++ rest) = .done (.number n) rest := by
  have hread := readNumber_append n hrest
  obtain ⟨c, text, htext⟩ := List.exists_cons_of_ne_nil n.literal_ne_nil
  have hplain : plain n.literal = unit c :: text.map unit := by rw [plain, htext, List.map_cons]
  have hu : isNumeric (unit c) = true := numeric_of_literal (hplain ▸ List.mem_cons_self)
  rw [hplain, List.cons_append] at hread ⊢
  simp only [beginning, skipBlanks_cons (not_blank_of_numeric hu),
    if_neg (ne_of_numeric hu (show isNumeric (unit '"') = false by decide)),
    if_neg (ne_of_numeric hu (show isNumeric (unit '[') = false by decide)),
    if_neg (ne_of_numeric hu (show isNumeric (unit '\x7b') = false by decide)),
    readWord_of_numeric hu, hread, Option.none_or, wholeValue]

theorem beginning_text (text : Utf16) (rest : List UInt16) :
    beginning (printText text ++ rest) = .done (.text text) rest := by
  have hform : printText text ++ rest = unit '"' :: (quoteUnits text.units ++ unit '"' :: rest) := by
    simp [printText]
  rw [hform]
  simp only [beginning, skipBlanks_cons (show isBlank (unit '"') = false by decide), if_true, readText_quoteUnits,
    Option.map_some, wholeValue]

theorem beginning_array (item : Json Utf16) (rest : List UInt16) :
    beginning (unit '[' :: (print item ++ rest)) = .items (print item ++ rest) := by
  obtain ⟨u, text, hprint, hblank, hclose, -⟩ := print_head item
  rw [hprint, List.cons_append]
  simp only [beginning, skipBlanks_cons (show isBlank (unit '[') = false by decide),
    if_neg (show unit '[' ≠ unit '"' by decide), if_true, behindMark_of_ne hblank hclose]

theorem beginning_object (m : Utf16 × Json Utf16) (rest : List UInt16) :
    beginning (unit '\x7b' :: (printMember m ++ rest)) = .members (printMember m ++ rest) := by
  have hform : printMember m ++ rest = unit '"' :: (quoteUnits m.1.units ++ unit '"' :: unit ':' :: print m.2 ++ rest) := by
    simp [printMember, printText]
  rw [hform]
  simp only [beginning, skipBlanks_cons (show isBlank (unit '\x7b') = false by decide),
    if_neg (show unit '\x7b' ≠ unit '"' by decide), if_neg (show unit '\x7b' ≠ unit '[' by decide), if_true,
    behindMark_of_ne (show isBlank (unit '"') = false by decide) (show unit '"' ≠ unit '\x7d' by decide)]

theorem ends_cons {u : UInt16} (h : isNumeric u = false) (rest : List UInt16) : Ends (u :: rest) := by
  intro v hv
  cases hv
  exact h

theorem ends_laterItems {items : List (Json Utf16)} {rest : List UInt16} :
    Ends (laterItems items ++ unit ']' :: rest) := by
  cases items with
  | nil => exact ends_cons (by decide) rest
  | cons item items => exact ends_cons (by decide) _

theorem ends_laterMembers {members : List (Utf16 × Json Utf16)} {rest : List UInt16} :
    Ends (laterMembers members ++ unit '\x7d' :: rest) := by
  cases members with
  | nil => exact ends_cons (by decide) rest
  | cons m members => exact ends_cons (by decide) _

/-- With this fuel, the value in front is read back. -/
def ReadsValue (fuel : Nat) : Prop := ∀ (value : Json Utf16) (rest : List UInt16),
  2 * (print value).length < fuel → Ends rest →
    readValue fuel (print value ++ rest) = some (printed value, rest)

/-- With this fuel, the items up to the closing bracket are read back. -/
def ReadsItems (fuel : Nat) : Prop := ∀ (item : Json Utf16) (items : List (Json Utf16)) (rest : List UInt16),
  2 * (print item ++ laterItems items).length + 1 < fuel →
    readItems fuel (print item ++ laterItems items ++ unit ']' :: rest) = some ((item :: items).map printed, rest)

/-- With this fuel, the members up to the closing brace are read back. -/
def ReadsMembers (fuel : Nat) : Prop :=
  ∀ (m : Utf16 × Json Utf16) (members : List (Utf16 × Json Utf16)) (rest : List UInt16),
  2 * (printMember m ++ laterMembers members).length + 1 < fuel →
    readMembers fuel (printMember m ++ laterMembers members ++ unit '\x7d' :: rest) =
      some ((m :: members).map printedMember, rest)

theorem readsValue_succ {fuel : Nat} (hitems : ReadsItems fuel) (hmembers : ReadsMembers fuel) :
    ReadsValue (fuel + 1) := by
  intro value rest hfuel hrest
  cases value with
  | null => rw [print, readValue, beginning_null, printed]
  | bool value =>
      cases value with
      | false => rfl
      | true => rfl
  | number value =>
      by_cases hfinite : value.isFinite = true
      · rw [print, printed, numberText, if_pos hfinite, if_pos hfinite, readValue, beginning_literal value hrest]
      · rw [print, printed, numberText, if_neg hfinite, if_neg hfinite, readValue, beginning_null]
  | text value => rw [print, readValue, beginning_text, printed]
  | array items =>
      cases items with
      | nil => rfl
      | cons item items =>
          rw [print_array_cons] at hfuel ⊢
          have hread := hitems item items rest (by simp at hfuel ⊢; omega)
          have hbegin := beginning_array item (laterItems items ++ unit ']' :: rest)
          rw [← List.append_assoc] at hbegin
          rw [List.append_assoc, List.cons_append, List.singleton_append, readValue, hbegin]
          simp only [hread, Option.map_some, printed, printedItems_eq]
  | object members =>
      cases members with
      | nil => rfl
      | cons m members =>
          rw [print_object_cons] at hfuel ⊢
          have hread := hmembers m members rest (by simp at hfuel ⊢; omega)
          have hbegin := beginning_object m (laterMembers members ++ unit '\x7d' :: rest)
          rw [← List.append_assoc] at hbegin
          rw [List.append_assoc, List.cons_append, List.singleton_append, readValue, hbegin]
          simp only [hread, Option.map_some, printed, printedMembers_eq]

/-- The end of a list of items or members. -/
theorem separator_closing {closing : UInt16} (h : isBlank closing = false) (rest : List UInt16) :
    separator closing (closing :: rest) = some (true, rest) := by
  simp only [separator, behindMark_self h]

theorem separator_comma {closing : UInt16} (h : unit ',' ≠ closing) (rest : List UInt16) :
    separator closing (unit ',' :: rest) = some (false, rest) := by
  have hblank : isBlank (unit ',') = false := by decide
  simp only [separator, behindMark_of_ne hblank h, behindMark_self hblank, Option.map_some]

theorem memberName_print (m : Utf16 × Json Utf16) (rest : List UInt16) :
    memberName (printMember m ++ rest) = some (m.1, print m.2 ++ rest) := by
  have hform : printMember m ++ rest =
      unit '"' :: (quoteUnits m.1.units ++ unit '"' :: (unit ':' :: (print m.2 ++ rest))) := by
    simp [printMember, printText]
  rw [hform]
  simp only [memberName, behindMark_self (show isBlank (unit '"') = false by decide), readText_quoteUnits,
    behindMark_self (show isBlank (unit ':') = false by decide), Option.bind_eq_bind, Option.bind_some,
    Option.pure_def]

theorem readsItems_succ {fuel : Nat} (hvalue : ReadsValue fuel) (hitems : ReadsItems fuel) :
    ReadsItems (fuel + 1) := by
  intro item items rest hfuel
  have hitem := hvalue item (laterItems items ++ unit ']' :: rest) (by simp at hfuel; omega) ends_laterItems
  rw [List.append_assoc, readItems, hitem]
  cases items with
  | nil =>
      have hend : separator (unit ']') (laterItems [] ++ unit ']' :: rest) = some (true, rest) :=
        separator_closing (by decide) rest
      simp only [hend, List.map_cons, List.map_nil]
  | cons next items =>
      have hread := hitems next items rest (by simp [laterItems] at hfuel ⊢; omega)
      have hmore : separator (unit ']') (laterItems (next :: items) ++ unit ']' :: rest) =
          some (false, print next ++ laterItems items ++ unit ']' :: rest) := by
        rw [laterItems, List.flatMap_cons, List.cons_append, List.cons_append]
        exact separator_comma (by decide) _
      simp only [hmore, hread, Option.map_some, List.map_cons]

theorem readsMembers_succ {fuel : Nat} (hvalue : ReadsValue fuel) (hmembers : ReadsMembers fuel) :
    ReadsMembers (fuel + 1) := by
  intro m members rest hfuel
  have hmember := hvalue m.2 (laterMembers members ++ unit '\x7d' :: rest)
    (by simp [printMember] at hfuel; omega) ends_laterMembers
  rw [List.append_assoc, readMembers, memberName_print]
  simp only [hmember]
  cases members with
  | nil =>
      have hend : separator (unit '\x7d') (laterMembers [] ++ unit '\x7d' :: rest) = some (true, rest) :=
        separator_closing (by decide) rest
      simp only [hend, List.map_cons, List.map_nil, printedMember]
  | cons next members =>
      have hread := hmembers next members rest (by simp [laterMembers] at hfuel ⊢; omega)
      have hmore : separator (unit '\x7d') (laterMembers (next :: members) ++ unit '\x7d' :: rest) =
          some (false, printMember next ++ laterMembers members ++ unit '\x7d' :: rest) := by
        rw [laterMembers, List.flatMap_cons, List.cons_append, List.cons_append]
        exact separator_comma (by decide) _
      simp only [hmore, hread, Option.map_some, List.map_cons, printedMember]

theorem reads_all (fuel : Nat) : ReadsValue fuel ∧ ReadsItems fuel ∧ ReadsMembers fuel := by
  induction fuel with
  | zero =>
      exact ⟨fun _ _ h => absurd h (Nat.not_lt_zero _), fun _ _ _ h => absurd h (Nat.not_lt_zero _),
        fun _ _ _ h => absurd h (Nat.not_lt_zero _)⟩
  | succ fuel ih =>
      obtain ⟨hvalue, hitems, hmembers⟩ := ih
      exact ⟨readsValue_succ hitems hmembers, readsItems_succ hvalue hitems, readsMembers_succ hvalue hmembers⟩

/-- **A printed value is read back**, with `null` for every infinity. -/
theorem parse_stringify (value : Json Utf16) : parse? (stringify value) = some (printed value) := by
  have hends : Ends [] := by
    intro u hu
    cases hu
  have hread := (reads_all (2 * (print value).length + 1)).1 value [] (by omega) hends
  rw [List.append_nil] at hread
  simp only [parse?, stringify, hread]
  rfl

/-- A member of what is left of a value. -/
theorem field_printed (name : Utf16) (value : Json Utf16) :
    (printed value).field? name = (value.field? name).map printed := by
  cases value with
  | object members =>
      simp only [printed, field?, printedMembers_eq, ← List.map_reverse, List.find?_map, Function.comp_def,
        Option.map_map, printedMember]
      rfl
  | number value =>
      rw [printed]
      split <;> rfl
  | _ => rfl

/-! ### Enough fuel -/

theorem skipBlanks_length (input : List UInt16) : (skipBlanks input).length ≤ input.length :=
  (List.dropWhile_sublist _).length_le

theorem map_prepend {read : Option (List UInt16 × List UInt16)} {u : UInt16} {text rest : List UInt16}
    (h : read.map (prepend u) = some (text, rest)) : ∃ text, read = some (text, rest) := by
  obtain ⟨⟨read, behind⟩, hread, heq⟩ := Option.map_eq_some_iff.mp h
  obtain ⟨-, rfl⟩ := Prod.mk.inj heq
  exact ⟨read, hread⟩

theorem readText_shorter {input text rest : List UInt16} (h : readText input = some (text, rest)) :
    rest.length < input.length := by
  fun_induction readText input generalizing text with
  | case2 =>
      obtain ⟨-, rfl⟩ := Prod.mk.inj (Option.some.inj h)
      exact Nat.lt_succ_self _
  | _ =>
      first
      | cases h
      | obtain ⟨text, hread⟩ := map_prepend h
        have hshort := ‹∀ {text : List UInt16}, readText _ = some (text, rest) → _› hread
        simp only [List.length_cons]
        omega

theorem dropWord_length {word input rest : List UInt16} (h : dropWord? word input = some rest) :
    input.length = word.length + rest.length := by
  fun_induction dropWord? word input with
  | case1 =>
      cases h
      simp
  | case2 => cases h
  | case3 u word input ih =>
      rw [List.length_cons, List.length_cons, ih h]
      omega
  | case4 => cases h

theorem readWord_shorter {input rest : List UInt16} {value : Json Utf16} (h : readWord input = some (value, rest)) :
    rest.length < input.length := by
  have hword : ∀ {word : List UInt16}, word ≠ [] → dropWord? word input = some rest → rest.length < input.length := by
    intro word hword hdrop
    have hlength := dropWord_length hdrop
    have hpos := List.length_pos_of_ne_nil hword
    omega
  unfold readWord at h
  split at h
  · rename_i hdrop
    cases h
    exact hword (by decide) hdrop
  · split at h
    · rename_i hdrop
      cases h
      exact hword (by decide) hdrop
    · obtain ⟨behind, hdrop, heq⟩ := Option.map_eq_some_iff.mp h
      cases heq
      exact hword (by decide) hdrop

theorem readNumber_shorter {input rest : List UInt16} {value : Json Utf16}
    (h : readNumber input = some (value, rest)) : rest.length < input.length := by
  obtain ⟨n, hread, heq⟩ := Option.map_eq_some_iff.mp h
  obtain ⟨-, rfl⟩ := Prod.mk.inj heq
  have hlength := congrArg List.length (List.takeWhile_append_dropWhile (p := isNumeric) (l := input))
  rw [List.length_append] at hlength
  have hsome : input.takeWhile isNumeric ≠ [] := by
    intro hnil
    have hnone : Numeral.read? ([].map char) = none := by decide
    rw [hnil, hnone] at hread
    cases hread
  have hpos := List.length_pos_of_ne_nil hsome
  omega

theorem behindMark_shorter {mark : UInt16} {input rest : List UInt16} (h : behindMark? mark input = some rest) :
    rest.length < input.length := by
  have hskip := skipBlanks_length input
  unfold behindMark? at h
  split at h
  · rename_i heq
    rw [heq, List.length_cons] at hskip
    split at h
    · cases h
      omega
    · cases h
  · cases h

/-- What a beginning leaves is less than there was. -/
def Beginning.Leaves (input : List UInt16) : Beginning → Prop
  | .malformed => True
  | .done _ rest => rest.length < input.length
  | .items rest => rest.length < input.length
  | .members rest => rest.length < input.length

theorem leaves_wholeValue {input : List UInt16} {read : Option (Json Utf16 × List UInt16)}
    (h : ∀ value rest, read = some (value, rest) → rest.length < input.length) : (wholeValue read).Leaves input := by
  cases read with
  | none => trivial
  | some read => exact h read.1 read.2 rfl

theorem beginning_leaves (input : List UInt16) : (beginning input).Leaves input := by
  have hskip := skipBlanks_length input
  unfold beginning
  cases hinput : skipBlanks input with
  | nil => trivial
  | cons u rest =>
      rw [hinput, List.length_cons] at hskip
      have hshorter : ∀ behind : List UInt16, behind.length ≤ rest.length → behind.length < input.length := by
        intro behind hbehind
        omega
      simp only
      split
      · refine leaves_wholeValue fun value behind hread => hshorter behind ?_
        obtain ⟨⟨text, left⟩, htext, heq⟩ := Option.map_eq_some_iff.mp hread
        cases heq
        exact Nat.le_of_lt (readText_shorter htext)
      split
      · split
        · rename_i hclose
          exact hshorter _ (Nat.le_of_lt (behindMark_shorter hclose))
        · exact hshorter rest (Nat.le_refl _)
      split
      · split
        · rename_i hclose
          exact hshorter _ (Nat.le_of_lt (behindMark_shorter hclose))
        · exact hshorter rest (Nat.le_refl _)
      · refine leaves_wholeValue fun value behind hread => hshorter behind (Nat.le_of_lt_succ ?_)
        rcases Option.or_eq_some_iff.mp hread with hword | ⟨-, hnumber⟩
        · exact readWord_shorter hword
        · exact readNumber_shorter hnumber

theorem separator_shorter {closing : UInt16} {input rest : List UInt16} {last : Bool}
    (h : separator closing input = some (last, rest)) : rest.length < input.length := by
  unfold separator at h
  split at h
  · rename_i hclose
    cases h
    exact behindMark_shorter hclose
  · obtain ⟨behind, hcomma, heq⟩ := Option.map_eq_some_iff.mp h
    cases heq
    exact behindMark_shorter hcomma

theorem memberName_shorter {input rest : List UInt16} {name : Utf16} (h : memberName input = some (name, rest)) :
    rest.length < input.length := by
  simp only [memberName, Option.bind_eq_bind, Option.bind_eq_some_iff, Option.pure_def, Option.some.injEq] at h
  obtain ⟨behindQuote, hquote, ⟨text, behindName⟩, hname, behindColon, hcolon, heq⟩ := h
  cases heq
  have hfirst := behindMark_shorter hquote
  have hsecond := readText_shorter hname
  have hthird : rest.length < behindName.length := behindMark_shorter hcolon
  omega

/-- A reading that eats something, and that any fuel past `bound` finds. -/
def Settled {α : Type} (bound : Nat) (read : Nat → List UInt16 → Option (α × List UInt16)) (fuel : Nat) : Prop :=
  ∀ (input rest : List UInt16) (value : α), read fuel input = some (value, rest) →
    rest.length < input.length ∧ ∀ more, 2 * input.length + bound < more → read more input = some (value, rest)

theorem settled_value {fuel : Nat} (hitems : Settled 1 readItems fuel) (hmembers : Settled 1 readMembers fuel) :
    Settled 0 readValue (fuel + 1) := by
  intro input rest value h
  have hleaves := beginning_leaves input
  rw [readValue] at h
  rcases hbegin : beginning input with _ | ⟨done, behind⟩ | inside | inside
  · rw [hbegin] at h
    cases h
  · rw [hbegin] at h hleaves
    obtain ⟨rfl, rfl⟩ := Prod.mk.inj (Option.some.inj h)
    refine ⟨hleaves, fun more hmore => ?_⟩
    obtain ⟨more, rfl⟩ := Nat.exists_eq_add_of_lt hmore
    rw [readValue, hbegin]
  · rw [hbegin] at h hleaves
    obtain ⟨⟨items, behind⟩, hread, heq⟩ := Option.map_eq_some_iff.mp h
    obtain ⟨rfl, rfl⟩ := Prod.mk.inj heq
    obtain ⟨hshort, hmore⟩ := hitems inside behind items hread
    have hinside : inside.length < input.length := hleaves
    refine ⟨Nat.lt_trans hshort hinside, fun more hfuel => ?_⟩
    obtain ⟨more, rfl⟩ := Nat.exists_eq_add_of_lt hfuel
    rw [readValue, hbegin]
    simp only [hmore _ (show 2 * inside.length + 1 < 2 * input.length + 0 + more by omega), Option.map_some]
  · rw [hbegin] at h hleaves
    obtain ⟨⟨members, behind⟩, hread, heq⟩ := Option.map_eq_some_iff.mp h
    obtain ⟨rfl, rfl⟩ := Prod.mk.inj heq
    obtain ⟨hshort, hmore⟩ := hmembers inside behind members hread
    have hinside : inside.length < input.length := hleaves
    refine ⟨Nat.lt_trans hshort hinside, fun more hfuel => ?_⟩
    obtain ⟨more, rfl⟩ := Nat.exists_eq_add_of_lt hfuel
    rw [readValue, hbegin]
    simp only [hmore _ (show 2 * inside.length + 1 < 2 * input.length + 0 + more by omega), Option.map_some]

theorem settled_items {fuel : Nat} (hvalue : Settled 0 readValue fuel) (hitems : Settled 1 readItems fuel) :
    Settled 1 readItems (fuel + 1) := by
  intro input rest items h
  rw [readItems] at h
  rcases hread : readValue fuel input with _ | ⟨item, behind⟩
  · rw [hread] at h
    cases h
  obtain ⟨hshort, hagain⟩ := hvalue input behind item hread
  rw [hread] at h
  simp only at h
  rcases hsep : separator (unit ']') behind with _ | ⟨last, later⟩
  · rw [hsep] at h
    cases h
  have hlater := separator_shorter hsep
  rw [hsep] at h
  cases last with
  | true =>
      obtain ⟨rfl, rfl⟩ := Prod.mk.inj (Option.some.inj h)
      refine ⟨by omega, fun more hmore => ?_⟩
      obtain ⟨more, rfl⟩ := Nat.exists_eq_add_of_lt hmore
      rw [readItems, hagain _ (by omega)]
      simp only [hsep]
  | false =>
      obtain ⟨⟨others, left⟩, hothers, heq⟩ := Option.map_eq_some_iff.mp h
      obtain ⟨rfl, rfl⟩ := Prod.mk.inj heq
      obtain ⟨hleft, hagains⟩ := hitems later left others hothers
      refine ⟨Nat.lt_trans hleft (Nat.lt_trans hlater hshort), fun more hmore => ?_⟩
      obtain ⟨more, rfl⟩ := Nat.exists_eq_add_of_lt hmore
      rw [readItems, hagain _ (by omega)]
      simp only [hsep, hagains (2 * input.length + 1 + more) (by omega), Option.map_some]

theorem settled_members {fuel : Nat} (hvalue : Settled 0 readValue fuel) (hmembers : Settled 1 readMembers fuel) :
    Settled 1 readMembers (fuel + 1) := by
  intro input rest members h
  rw [readMembers] at h
  rcases hname : memberName input with _ | ⟨name, inside⟩
  · rw [hname] at h
    cases h
  have hinside := memberName_shorter hname
  rw [hname] at h
  simp only at h
  rcases hread : readValue fuel inside with _ | ⟨value, behind⟩
  · rw [hread] at h
    cases h
  obtain ⟨hshort, hagain⟩ := hvalue inside behind value hread
  rw [hread] at h
  simp only at h
  rcases hsep : separator (unit '\x7d') behind with _ | ⟨last, later⟩
  · rw [hsep] at h
    cases h
  have hlater := separator_shorter hsep
  rw [hsep] at h
  cases last with
  | true =>
      obtain ⟨rfl, rfl⟩ := Prod.mk.inj (Option.some.inj h)
      refine ⟨by omega, fun more hmore => ?_⟩
      obtain ⟨more, rfl⟩ := Nat.exists_eq_add_of_lt hmore
      rw [readMembers, hname]
      simp only [hagain (2 * input.length + 1 + more) (by omega), hsep]
  | false =>
      obtain ⟨⟨others, left⟩, hothers, heq⟩ := Option.map_eq_some_iff.mp h
      obtain ⟨rfl, rfl⟩ := Prod.mk.inj heq
      obtain ⟨hleft, hagains⟩ := hmembers later left others hothers
      refine ⟨Nat.lt_trans hleft (by omega), fun more hmore => ?_⟩
      obtain ⟨more, rfl⟩ := Nat.exists_eq_add_of_lt hmore
      rw [readMembers, hname]
      simp only [hagain (2 * input.length + 1 + more) (by omega), hsep,
        hagains (2 * input.length + 1 + more) (by omega), Option.map_some]

/-- **The fuel does not matter**: what any fuel reads is found with all fuel past the bound. -/
theorem settled (fuel : Nat) :
    Settled 0 readValue fuel ∧ Settled 1 readItems fuel ∧ Settled 1 readMembers fuel := by
  induction fuel with
  | zero =>
      refine ⟨fun _ _ _ h => ?_, fun _ _ _ h => ?_, fun _ _ _ h => ?_⟩
      · cases h
      · cases h
      · cases h
  | succ fuel ih =>
      obtain ⟨hvalue, hitems, hmembers⟩ := ih
      exact ⟨settled_value hitems hmembers, settled_items hvalue hitems, settled_members hvalue hmembers⟩

/-- The reader never runs out of fuel: a value that some fuel reads is the one that `parse?` returns. -/
theorem parse_of_readValue {text : Utf16} {fuel : Nat} {value : Json Utf16} {rest : List UInt16}
    (h : readValue fuel text.units = some (value, rest)) (hrest : skipBlanks rest = []) :
    parse? text = some value := by
  have hread := ((settled fuel).1 _ _ _ h).2 (2 * text.units.length + 1) (by omega)
  simp only [parse?, hread, hrest, if_true]

end Json

end EventDriven
