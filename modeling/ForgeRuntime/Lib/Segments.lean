import Mathlib.Data.List.Infix

/-!
# Segments of a text

A text is cut at a separator into its segments, and put together from them.  A text that ends with the separator
and another text ends, cut up, with the segments of the other one, and that is all that such a test can see.

* `joined_segments` — joining what was cut gives the text back;
* `segments_append` — the segments of two texts with a separator between them;
* `ends_behind_separator_iff` — ending behind a separator is a proper suffix of the segments.
-/

namespace EventDriven

namespace Segments

variable {α : Type*}

/-- The segments put together, with a separator between them. -/
def joined (sep : α) : List (List α) → List α
  | [] => []
  | [s] => s
  | s :: t :: rest => s ++ sep :: joined sep (t :: rest)

theorem joined_append {sep : α} {a b : List (List α)} (ha : a ≠ []) (hb : b ≠ []) :
    joined sep (a ++ b) = joined sep a ++ sep :: joined sep b := by
  induction a with
  | nil => exact absurd rfl ha
  | cons s a ih =>
      cases a with
      | nil =>
          obtain ⟨t, b, rfl⟩ := List.exists_cons_of_ne_nil hb
          rfl
      | cons t a =>
          have hrest := ih (List.cons_ne_nil t a)
          show s ++ sep :: joined sep (t :: a ++ b) = s ++ sep :: joined sep (t :: a) ++ sep :: joined sep b
          rw [hrest, List.append_assoc, List.cons_append]

variable [DecidableEq α]

/-- The text cut at each separator. -/
def segments (sep : α) : List α → List (List α)
  | [] => [[]]
  | c :: rest =>
      if c = sep then [] :: segments sep rest
      else ((segments sep rest).headD [] |>.cons c) :: (segments sep rest).tail

attribute [local simp] segments

theorem segments_ne_nil (sep : α) (text : List α) : segments sep text ≠ [] := by
  cases text with
  | nil => exact List.cons_ne_nil _ _
  | cons c rest =>
      rw [segments]
      split
      · exact List.cons_ne_nil _ _
      · exact List.cons_ne_nil _ _

theorem segments_append (sep : α) (a b : List α) :
    segments sep (a ++ sep :: b) = segments sep a ++ segments sep b := by
  induction a with
  | nil => simp [segments]
  | cons c a ih =>
      rw [List.cons_append, segments, segments, ih]
      obtain ⟨s, rest, hs⟩ := List.exists_cons_of_ne_nil (segments_ne_nil sep a)
      split
      · rfl
      · rw [hs]
        rfl

theorem joined_segments (sep : α) (text : List α) : joined sep (segments sep text) = text := by
  induction text with
  | nil => rfl
  | cons c rest ih =>
      rw [segments]
      obtain ⟨s, more, hs⟩ := List.exists_cons_of_ne_nil (segments_ne_nil sep rest)
      rw [hs] at ih ⊢
      split
      · next heq =>
          show sep :: joined sep (s :: more) = c :: rest
          rw [ih, heq]
      · cases more with
        | nil => exact congrArg (List.cons c) ih
        | cons t more => exact congrArg (List.cons c) ih

theorem segments_injective {sep : α} {a b : List α} (h : segments sep a = segments sep b) : a = b := by
  rw [← joined_segments sep a, h, joined_segments]

/-- **Ending behind a separator** is a proper suffix of the segments. -/
theorem ends_behind_separator_iff {sep : α} {a b : List α} :
    sep :: b <:+ a ↔ ∃ front, front ≠ [] ∧ segments sep a = front ++ segments sep b := by
  constructor
  · rintro ⟨x, rfl⟩
    exact ⟨segments sep x, segments_ne_nil sep x, segments_append sep x b⟩
  · rintro ⟨front, hfront, hsegments⟩
    refine ⟨joined sep front, ?_⟩
    rw [← joined_segments sep a, hsegments, joined_append hfront (segments_ne_nil sep b), joined_segments]

/-- One text is the other, or ends with it behind a separator, exactly when its segments end with those of the
other. -/
theorem suffix_segments_iff {sep : α} {a b : List α} :
    segments sep b <:+ segments sep a ↔ a = b ∨ sep :: b <:+ a := by
  rw [ends_behind_separator_iff]
  constructor
  · rintro ⟨front, hfront⟩
    by_cases hnil : front = []
    · rw [hnil, List.nil_append] at hfront
      exact .inl (segments_injective hfront.symm)
    · exact .inr ⟨front, hnil, hfront.symm⟩
  · rintro (rfl | ⟨front, -, hsegments⟩)
    · exact List.suffix_refl _
    · exact ⟨front, hsegments.symm⟩

end Segments

end EventDriven
