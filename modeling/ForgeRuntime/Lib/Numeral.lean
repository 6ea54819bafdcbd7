import ForgeRuntime.Lib.Pattern
import Mathlib.Algebra.Group.Nat.Defs

/-!
# Numerals

A number of the interchange format is written as a decimal numeral and stands for the double nearest to it.  A
numeral past the largest double stands for an infinity, which no text of the format denotes.

* `Numeral` — a text in the form of a number;
* `Numeral.isFinite` — is the double that it stands for finite?
* `Numeral.read_literal` — a literal is read as what it is the literal of.
-/

namespace EventDriven

namespace Numeral

def isDigit (c : Char) : Bool := '0' ≤ c && c ≤ '9'

/-- The characters that a number is written with. -/
def isNumeric (c : Char) : Bool :=
  isDigit c || c == '-' || c == '+' || c == '.' || c == 'e' || c == 'E'

/-- The grammar of numbers. -/
def grammar : Pattern :=
  .sequence
    [.opt (.one (· == '-')),
      .alt (.one (· == '0')) (.seq (.one fun c => isDigit c && c != '0') (.atLeast 0 isDigit)),
      .opt (.seq (.one (· == '.')) (.atLeast 1 isDigit)),
      .opt (.sequence
        [.one fun c => c == 'e' || c == 'E', .opt (.one fun c => c == '+' || c == '-'), .atLeast 1 isDigit])]

/-- Does the whole text have the form of a number? -/
def isNumeral (literal : List Char) : Bool :=
  literal.all isNumeric && (Pattern.run grammar (none, literal)).any fun behind => behind.2.isEmpty

end Numeral

/-- A text in the form of a number. -/
structure Numeral where
  literal : String
  form : Numeral.isNumeral literal.toList = true
deriving DecidableEq, Repr

namespace Numeral

/-- The number that a text is the literal of. -/
def read? (literal : List Char) : Option Numeral :=
  if h : isNumeral literal = true then some ⟨String.ofList literal, by rwa [String.toList_ofList]⟩ else none

/-! ### The double -/

/-- The digits in front of the point. -/
def whole (literal : List Char) : List Char := (literal.dropWhile (· == '-')).takeWhile isDigit

/-- What is written behind them. -/
def behindWhole (literal : List Char) : List Char := (literal.dropWhile (· == '-')).dropWhile isDigit

/-- The digits behind the point. -/
def fraction (literal : List Char) : List Char :=
  match behindWhole literal with
  | '.' :: rest => rest.takeWhile isDigit
  | _ => []

def exponent (literal : List Char) : Int :=
  match (behindWhole literal).dropWhile fun c => c == '.' || isDigit c with
  | _ :: '-' :: digits => -(Nat.ofDigitChars 10 digits 0)
  | _ :: '+' :: digits => Nat.ofDigitChars 10 digits 0
  | _ :: digits => Nat.ofDigitChars 10 digits 0
  | [] => 0

/-- The amount is `significand * 10 ^ power`. -/
def significand (literal : List Char) : Nat := Nat.ofDigitChars 10 (whole literal ++ fraction literal) 0

def power (literal : List Char) : Int := exponent literal - (fraction literal).length

/-- Half a unit past the largest double: from there on, the nearest double is an infinity. -/
def infinityBound : Nat := (2 ^ 54 - 1) * 2 ^ 970

/-- `Number.isFinite` -/
def isFinite (n : Numeral) : Bool :=
  significand n.literal.toList * 10 ^ (power n.literal.toList).toNat <
    infinityBound * 10 ^ (-power n.literal.toList).toNat

example : (["0", "-0.5", "1.7976931348623157e308", "1e-999", "1.7976931348623159E+308", "-1e999"].filterMap
    fun s => read? s.toList).map isFinite = [true, true, true, true, false, false] := by decide +kernel

/-! ### Literals -/

theorem read_literal (n : Numeral) : read? n.literal.toList = some n := by
  obtain ⟨literal, form⟩ := n
  simp only [read?, form, dite_true, String.ofList_toList]

theorem isNumeric_of_mem {n : Numeral} {c : Char} (hc : c ∈ n.literal.toList) : isNumeric c = true := by
  have hform := n.form
  rw [isNumeral, Bool.and_eq_true, List.all_eq_true] at hform
  exact hform.1 c hc

/-- The text of a number is not empty. -/
theorem literal_ne_nil (n : Numeral) : n.literal.toList ≠ [] := by
  intro hnil
  have hform := n.form
  rw [hnil] at hform
  exact absurd hform (by decide)

end Numeral

end EventDriven
