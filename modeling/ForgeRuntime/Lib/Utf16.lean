import ForgeRuntime.Lib.PrefixCode
import ForgeRuntime.Lib.Text

/-!
# Texts in code units

A string of the source language is a sequence of 16-bit code units.  A character past the first plane takes two of
them, the halves of a surrogate pair; but any half may stand alone, so that some strings denote no sequence of
characters.

* `Utf16` — such a string;
* `Utf16.ofString` — the code units of a text;
* `Utf16.ofString_injective`.
-/

namespace EventDriven

/-- A string of the source language. -/
structure Utf16 where
  units : List UInt16
deriving DecidableEq, Repr

namespace Utf16

/-- The code unit of a character of the first plane. -/
def unit (c : Char) : UInt16 := UInt16.ofNat c.toNat

/-- The character of a code unit that stands for one by itself. -/
def char (u : UInt16) : Char := Char.ofNat u.toNat

/-- The first half of a surrogate pair. -/
def isHigh (u : UInt16) : Bool := 0xD800 ≤ u.toNat && u.toNat < 0xDC00

/-- The second half of a surrogate pair. -/
def isLow (u : UInt16) : Bool := 0xDC00 ≤ u.toNat && u.toNat < 0xE000

def encode (c : Char) : List UInt16 :=
  if c.toNat < 0x10000 then [unit c]
  else [UInt16.ofNat (0xD800 + (c.toNat - 0x10000) / 0x400), UInt16.ofNat (0xDC00 + (c.toNat - 0x10000) % 0x400)]

def ofString (s : String) : Utf16 := ⟨s.toList.flatMap encode⟩

instance : Coe String Utf16 := ⟨ofString⟩

/-! ### Reading units back -/

theorem toNat_ofNat {n : Nat} (h : n < 0x10000) : (UInt16.ofNat n).toNat = n := by
  rw [UInt16.toNat_ofNat']
  exact Nat.mod_eq_of_lt h

theorem toNat_unit {c : Char} (h : c.toNat < 0x10000) : (unit c).toNat = c.toNat := toNat_ofNat h

theorem char_unit {c : Char} (h : c.toNat < 0x10000) : char (unit c) = c := by
  rw [char, toNat_unit h, Char.ofNat_toNat]

/-- Read a character off the front. -/
def decode? : List UInt16 → Option (Char × List UInt16)
  | [] => none
  | u :: rest =>
      if isHigh u then
        match rest with
        | [] => none
        | v :: rest => some (Char.ofNat (0x10000 + (u.toNat - 0xD800) * 0x400 + (v.toNat - 0xDC00)), rest)
      else some (char u, rest)

theorem toNat_lt (c : Char) : c.toNat < 0xD800 ∨ 0xDFFF < c.toNat ∧ c.toNat < 0x110000 := c.valid

theorem decode_encode (c : Char) (rest : List UInt16) : decode? (encode c ++ rest) = some (c, rest) := by
  have hvalid := toNat_lt c
  unfold encode
  split
  case isTrue h =>
    have hhigh : isHigh (unit c) = false := by
      rw [isHigh, toNat_unit h, Bool.and_eq_false_iff, decide_eq_false_iff_not, decide_eq_false_iff_not]
      omega
    show (if isHigh (unit c) then _ else some (char (unit c), rest)) = _
    rw [hhigh, char_unit h]
    rfl
  case isFalse h =>
    have hfirst : (UInt16.ofNat (0xD800 + (c.toNat - 0x10000) / 0x400)).toNat = 0xD800 + (c.toNat - 0x10000) / 0x400 :=
      toNat_ofNat (by omega)
    have hsecond :
        (UInt16.ofNat (0xDC00 + (c.toNat - 0x10000) % 0x400)).toNat = 0xDC00 + (c.toNat - 0x10000) % 0x400 :=
      toNat_ofNat (by omega)
    have hhigh : isHigh (UInt16.ofNat (0xD800 + (c.toNat - 0x10000) / 0x400)) = true := by
      rw [isHigh, hfirst, Bool.and_eq_true, decide_eq_true_iff, decide_eq_true_iff]
      omega
    have hnumber : 0x10000 + (0xD800 + (c.toNat - 0x10000) / 0x400 - 0xD800) * 0x400 +
        (0xDC00 + (c.toNat - 0x10000) % 0x400 - 0xDC00) = c.toNat := by omega
    simp only [List.cons_append, List.nil_append, decode?, hhigh, if_true, hfirst, hsecond, hnumber, Char.ofNat_toNat]

/-- **Different texts have different code units.** -/
theorem ofString_injective : Function.Injective ofString := by
  intro a b h
  have hcode : PrefixCode encode := prefixCode_of_read decode_encode
  have hunits : a.toList.flatMap encode = b.toList.flatMap encode := congrArg units h
  apply String.toList_inj.mp
  generalize a.toList = cs at hunits ⊢
  generalize b.toList = ds at hunits ⊢
  have hsome : ∀ c, encode c ≠ [] := by
    intro c
    unfold encode
    split <;> exact List.cons_ne_nil _ _
  induction cs generalizing ds with
  | nil =>
      cases ds with
      | nil => rfl
      | cons d ds =>
          rw [List.flatMap_nil, List.flatMap_cons] at hunits
          exact absurd (List.append_eq_nil_iff.mp hunits.symm).1 (hsome d)
  | cons c cs ih =>
      cases ds with
      | nil =>
          rw [List.flatMap_nil, List.flatMap_cons] at hunits
          exact absurd (List.append_eq_nil_iff.mp hunits).1 (hsome c)
      | cons d ds =>
          rw [List.flatMap_cons, List.flatMap_cons] at hunits
          obtain ⟨rfl, hrest⟩ := hcode hunits
          rw [ih ds hrest]

@[simp] theorem ofString_inj {a b : String} : ofString a = ofString b ↔ a = b := ofString_injective.eq_iff

end Utf16

end EventDriven
