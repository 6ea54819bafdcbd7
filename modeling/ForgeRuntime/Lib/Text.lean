import Mathlib.Data.List.DropRight

/-!
# Text operations of the source language

Strings are sequences of Unicode code points.  The operations are given by list functions on the code
points, so that they evaluate:

* `trim` strips the white space and line terminators of the language standard at both ends;
* `startsWith` is the prefix test;
* `quote` is the JSON form of a string.
-/

namespace EventDriven

namespace Text

/-- White space and line terminators of the language standard. -/
def isSpace (c : Char) : Bool :=
  (9 ≤ c.toNat && c.toNat ≤ 13) || c.toNat == 0x20 || c.toNat == 0xA0 || c.toNat == 0x1680 ||
    (0x2000 ≤ c.toNat && c.toNat ≤ 0x200A) || c.toNat == 0x2028 || c.toNat == 0x2029 ||
    c.toNat == 0x202F || c.toNat == 0x205F || c.toNat == 0x3000 || c.toNat == 0xFEFF

def trim (s : String) : String :=
  String.ofList ((s.toList.dropWhile isSpace).rdropWhile isSpace)

/-- A string with nothing but white space in it. -/
def Blank (s : String) : Prop := trim s = ""

instance (s : String) : Decidable (Blank s) := inferInstanceAs (Decidable (trim s = ""))

def startsWith (s pre : String) : Bool := pre.toList.isPrefixOf s.toList

def codePoints (s : String) : Nat := s.toList.length

/-- The last hexadecimal digit of `n`, in lower case. -/
def hexDigit (n : Nat) : Char := "0123456789abcdef".toList.getD (n % 16) '0'

def quoteChar (c : Char) : List Char :=
  if c = '"' then ['\\', '"']
  else if c = '\\' then ['\\', '\\']
  else if c.toNat = 8 then ['\\', 'b']
  else if c.toNat = 9 then ['\\', 't']
  else if c.toNat = 10 then ['\\', 'n']
  else if c.toNat = 12 then ['\\', 'f']
  else if c.toNat = 13 then ['\\', 'r']
  else if c.toNat < 32 then ['\\', 'u', '0', '0', hexDigit (c.toNat / 16), hexDigit c.toNat]
  else [c]

/-- The JSON form of a string. -/
def quote (s : String) : String :=
  String.ofList (['"'] ++ s.toList.flatMap quoteChar ++ ['"'])

/-- Join texts with a separator. -/
def join (sep : String) : List String → String
  | [] => ""
  | [s] => s
  | s :: t :: rest => s ++ sep ++ join sep (t :: rest)

/-! ### Stripping -/

theorem blank_iff (s : String) : Blank s ↔ ∀ c ∈ s.toList, isSpace c = true := by
  have hnil : Blank s ↔ (s.toList.dropWhile isSpace).rdropWhile isSpace = [] := by
    unfold Blank trim
    constructor
    · intro h
      simpa using congrArg String.toList h
    · intro h
      rw [h]
  rw [hnil, List.rdropWhile_eq_nil_iff]
  constructor
  · intro h c hc
    rw [← List.takeWhile_append_dropWhile (p := isSpace) (l := s.toList), List.mem_append] at hc
    rcases hc with hc | hc
    · exact List.mem_takeWhile_imp hc
    · exact h c hc
  · intro h c hc
    exact h c (List.dropWhile_sublist isSpace |>.mem hc)

theorem trim_toList (s : String) :
    (trim s).toList = (s.toList.dropWhile isSpace).rdropWhile isSpace := by
  simp [trim]

/-! ### Texts put together -/

/-- What stands behind a prefix. -/
theorem eq_append_of_startsWith {s pre : String} (h : startsWith s pre = true) :
    s = pre ++ String.ofList (s.toList.drop pre.toList.length) := by
  obtain ⟨rest, hrest⟩ := List.isPrefixOf_iff_prefix.mp h
  apply String.toList_inj.mp
  rw [String.toList_append, String.toList_ofList, ← hrest, List.drop_left]

theorem append_injective_right (pre : String) {a b : String} (h : pre ++ a = pre ++ b) : a = b := by
  have hlist := congrArg String.toList h
  simp only [String.toList_append, List.append_cancel_left_eq] at hlist
  exact String.toList_inj.mp hlist

theorem append_injective_left (post : String) {a b : String} (h : a ++ post = b ++ post) : a = b := by
  have hlist := congrArg String.toList h
  simp only [String.toList_append, List.append_cancel_right_eq] at hlist
  exact String.toList_inj.mp hlist

/-- A decimal numeral determines its number. -/
theorem toString_injective {m n : Nat} (h : toString m = toString n) : m = n := by
  rw [Nat.toString_eq_ofList_toDigits, Nat.toString_eq_ofList_toDigits] at h
  have hdigits : Nat.toDigits 10 m = Nat.toDigits 10 n := String.ofList_injective h
  have hvalue := congrArg (fun ds => Nat.ofDigitChars 10 ds 0) hdigits
  simpa only [Nat.ofDigitChars_ten_toDigits] using hvalue

/-- The texts under one prefix are as different as their numbers. -/
theorem numbered_injective (pre : String) {m n : Nat} (h : pre ++ toString m = pre ++ toString n) :
    m = n :=
  toString_injective (append_injective_right pre h)

example : trim "  a b\n" = "a b" := by decide

example : quote "say \"hi\"\n" = "\"say \\\"hi\\\"\\n\"" := by decide

end Text

end EventDriven
