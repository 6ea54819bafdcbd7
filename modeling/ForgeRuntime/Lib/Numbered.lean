import ForgeRuntime.Lib.Text
import Mathlib.Logic.Function.Basic

/-!
# Texts that carry a number

A text of the form `before ++ n ++ after`, with `n` in decimal, and the renaming that adds a constant to the
number and leaves every other text alone.  The renaming is injective on all texts, so that renamed texts are
equal exactly when the texts were.
-/

namespace EventDriven

namespace Text

variable {before after : String} {k n : Nat} {s t : String}

/-- The number that stands in `s` between `before` and `after`. -/
def numberIn (before after s : String) : Option Nat :=
  let digits := (s.toList.drop before.toList.length).take
    (s.toList.length - before.toList.length - after.toList.length)
  let n := Nat.ofDigitChars 10 digits 0
  if before ++ toString n ++ after = s then some n else none

theorem numberIn_eq_some_iff : numberIn before after s = some n ↔ s = before ++ toString n ++ after := by
  unfold numberIn
  constructor
  · intro h
    dsimp only at h
    split at h
    · rename_i hs
      rw [← Option.some.inj h]
      exact hs.symm
    · cases h
  · rintro rfl
    have hdigits : (((before ++ toString n ++ after).toList.drop before.toList.length).take
        ((before ++ toString n ++ after).toList.length - before.toList.length - after.toList.length)) =
          Nat.toDigits 10 n := by
      have hlength : (before ++ toString n ++ after).toList.length - before.toList.length - after.toList.length =
          (Nat.toDigits 10 n).length := by
        simp only [String.toList_append, List.length_append, Nat.toString_eq_ofList_toDigits, String.toList_ofList]
        omega
      rw [hlength, String.toList_append, String.toList_append, List.append_assoc, List.drop_left,
        Nat.toString_eq_ofList_toDigits, String.toList_ofList, List.take_left]
    dsimp only
    rw [hdigits, Nat.ofDigitChars_ten_toDigits, if_pos rfl]

theorem numberIn_numbered : numberIn before after (before ++ toString n ++ after) = some n :=
  numberIn_eq_some_iff.mpr rfl

/-- Add `k` to the number between `before` and `after`; leave a text without one as it is. -/
def shiftNumber (before after : String) (k : Nat) (s : String) : String :=
  match numberIn before after s with
  | some n => before ++ toString (n + k) ++ after
  | none => s

theorem shiftNumber_numbered : shiftNumber before after k (before ++ toString n ++ after) =
    before ++ toString (n + k) ++ after := by
  rw [shiftNumber, numberIn_numbered]

theorem shiftNumber_plain : shiftNumber before "" k (before ++ toString n) = before ++ toString (n + k) := by
  have hshift : shiftNumber before "" k (before ++ toString n ++ "") = before ++ toString (n + k) ++ "" :=
    shiftNumber_numbered
  rwa [String.append_empty, String.append_empty] at hshift

theorem shiftNumber_other (h : ∀ n : Nat, s ≠ before ++ toString n ++ after) : shiftNumber before after k s = s := by
  cases hn : numberIn before after s with
  | none => rw [shiftNumber, hn]
  | some n => exact absurd (numberIn_eq_some_iff.mp hn) (h n)

/-- A text is renamed because it carries a number, or not at all. -/
theorem shiftNumber_cases (before after : String) (k : Nat) (s : String) :
    (∃ n : Nat, s = before ++ toString n ++ after ∧
        shiftNumber before after k s = before ++ toString (n + k) ++ after) ∨
      ((∀ n : Nat, s ≠ before ++ toString n ++ after) ∧ shiftNumber before after k s = s) := by
  cases hn : numberIn before after s with
  | some n =>
      obtain rfl := numberIn_eq_some_iff.mp hn
      exact .inl ⟨n, rfl, shiftNumber_numbered⟩
  | none =>
      have hother : ∀ n : Nat, s ≠ before ++ toString n ++ after := by
        intro n hs
        rw [numberIn_eq_some_iff.mpr hs] at hn
        cases hn
      exact .inr ⟨hother, shiftNumber_other hother⟩

/-- **Different texts stay different.** -/
theorem shiftNumber_injective (before after : String) (k : Nat) :
    Function.Injective (shiftNumber before after k) := by
  intro s t h
  rcases shiftNumber_cases before after k s with ⟨m, rfl, hs⟩ | ⟨hother, hs⟩
  · rcases shiftNumber_cases before after k t with ⟨n, rfl, ht⟩ | ⟨hother, ht⟩
    · rw [hs, ht] at h
      have hnumber : m + k = n + k := numbered_injective before (append_injective_left after h)
      rw [Nat.add_right_cancel hnumber]
    · rw [hs, ht] at h
      exact absurd h.symm (hother (m + k))
  · rcases shiftNumber_cases before after k t with ⟨n, rfl, ht⟩ | ⟨-, ht⟩
    · rw [hs, ht] at h
      exact absurd h (hother (n + k))
    · rwa [hs, ht] at h

theorem shiftNumber_zero (s : String) : shiftNumber before after 0 s = s := by
  rcases shiftNumber_cases before after 0 s with ⟨n, rfl, h⟩ | ⟨-, h⟩
  · exact h
  · exact h

/-- The renaming does not make a text blank. -/
theorem blank_shiftNumber (h : ¬ Blank before) : Blank (shiftNumber before after k s) ↔ Blank s := by
  have hnot : ∀ n : Nat, ¬ Blank (before ++ toString n ++ after) := by
    intro n hblank
    rw [blank_iff, String.toList_append, String.toList_append] at hblank
    exact h ((blank_iff before).mpr fun c hc =>
      hblank c (List.mem_append_left _ (List.mem_append_left _ hc)))
  rcases shiftNumber_cases before after k s with ⟨n, rfl, hs⟩ | ⟨-, hs⟩
  · rw [hs]
    exact iff_of_false (hnot _) (hnot _)
  · rw [hs]

example : shiftNumber "deep-" "" 4 "deep-3" = "deep-7" ∧ shiftNumber "deep-" "" 4 "deep-03" = "deep-03" := by
  decide

end Text

end EventDriven
