import Mathlib.Algebra.GroupWithZero.Nat
import Mathlib.Data.List.Basic

/-!
# The weight of the first occurrences

A list is weighed by the first item of each key; the items that repeat a key weigh nothing.

* `weigh_append` — a list behind another one;
* `weigh_filter_le` — leaving keys out makes a list no heavier;
* `weigh_foldl` — the loop that computes the weight with a list of the keys it has seen.
-/

namespace EventDriven

namespace FirstOccurrences

variable {α κ : Type} [DecidableEq κ] (key : α → κ) (weight : α → Nat)

/-- The weight of the items whose key has not been seen. -/
def weigh : List κ → List α → Nat
  | _, [] => 0
  | seen, a :: as => if key a ∈ seen then weigh seen as else weight a + weigh (key a :: seen) as

attribute [local simp] weigh

/-- Which keys have been seen is all that matters. -/
theorem weigh_congr {seen seen' : List κ} (h : ∀ k, k ∈ seen ↔ k ∈ seen') (as : List α) :
    weigh key weight seen as = weigh key weight seen' as := by
  induction as generalizing seen seen' with
  | nil => rfl
  | cons a as ih =>
      rw [weigh, weigh]
      by_cases ha : key a ∈ seen
      · rw [if_pos ha, if_pos ((h _).mp ha), ih h]
      · rw [if_neg ha, if_neg fun ha' => ha ((h _).mpr ha')]
        have hcons : ∀ k, k ∈ key a :: seen ↔ k ∈ key a :: seen' := fun k => by
          rw [List.mem_cons, List.mem_cons, h k]
        rw [ih hcons]

/-- A list behind another one is weighed with its keys seen. -/
theorem weigh_append (seen : List κ) (as bs : List α) :
    weigh key weight seen (as ++ bs) =
      weigh key weight seen as + weigh key weight (as.map key ++ seen) bs := by
  induction as generalizing seen with
  | nil => simp
  | cons a as ih =>
      rw [List.cons_append, weigh, weigh]
      by_cases ha : key a ∈ seen
      · rw [if_pos ha, if_pos ha, ih]
        congr 1
        refine weigh_congr key weight (fun k => ?_) bs
        simp only [List.map_cons, List.cons_append, List.mem_append, List.mem_cons]
        constructor
        · exact fun h => .inr h
        · rintro (rfl | h)
          · exact .inr ha
          · exact h
      · rw [if_neg ha, if_neg ha, ih, Nat.add_assoc]
        congr 2
        refine weigh_congr key weight (fun k => ?_) bs
        simp only [List.map_cons, List.cons_append, List.mem_append, List.mem_cons]
        tauto

/-- A key that no item has may count as seen. -/
theorem weigh_cons_absent {k : κ} (seen : List κ) {as : List α} (h : ∀ a ∈ as, key a ≠ k) :
    weigh key weight (k :: seen) as = weigh key weight seen as := by
  induction as generalizing seen with
  | nil => rfl
  | cons a as ih =>
      have ha : key a ≠ k := h a List.mem_cons_self
      have hrest : ∀ b ∈ as, key b ≠ k := fun b hb => h b (List.mem_cons_of_mem a hb)
      rw [weigh, weigh]
      by_cases hin : key a ∈ seen
      · rw [if_pos (List.mem_cons_of_mem k hin), if_pos hin, ih seen hrest]
      · have hnot : key a ∉ k :: seen := by simp [ha, hin]
        have hswap : weigh key weight (key a :: k :: seen) as = weigh key weight (k :: key a :: seen) as :=
          weigh_congr key weight (fun j => by simp only [List.mem_cons]; tauto) as
        rw [if_neg hnot, if_neg hin, hswap, ih (key a :: seen) hrest]

/-- **Leaving keys out makes a list no heavier.** -/
theorem weigh_filter_le (p : κ → Bool) (seen : List κ) (as : List α) :
    weigh key weight seen (as.filter fun a => p (key a)) ≤ weigh key weight seen as := by
  induction as generalizing seen with
  | nil => exact Nat.le_refl _
  | cons a as ih =>
      rw [List.filter_cons, weigh]
      by_cases ha : key a ∈ seen
      · rw [if_pos ha]
        split
        · rw [weigh, if_pos ha]
          exact ih seen
        · exact ih seen
      · rw [if_neg ha]
        split
        case isTrue =>
          rw [weigh, if_neg ha]
          exact Nat.add_le_add_left (ih _) _
        case isFalse hout =>
          have habsent : ∀ b ∈ as.filter fun b => p (key b), key b ≠ key a := by
            intro b hb hsame
            rw [List.mem_filter, hsame] at hb
            exact hout hb.2
          have hle := ih (key a :: seen)
          rw [weigh_cons_absent key weight seen habsent] at hle
          omega

/-- The items behind a list, with keys left out. -/
theorem weigh_append_filter_le (p : κ → Bool) (as bs : List α) :
    weigh key weight [] (as ++ bs.filter fun b => p (key b)) ≤ weigh key weight [] (as ++ bs) := by
  rw [weigh_append, weigh_append]
  exact Nat.add_le_add_left (weigh_filter_le key weight p _ bs) _

/-- An item whose key stands further ahead weighs nothing. -/
theorem weigh_append_cons_seen {as : List α} {a : α} (h : key a ∈ as.map key) (bs : List α) :
    weigh key weight [] (as ++ a :: bs) = weigh key weight [] (as ++ bs) := by
  have hseen : key a ∈ as.map key ++ [] := List.mem_append_left _ h
  rw [weigh_append, weigh_append, weigh, if_pos hseen]

/-- Where no key comes twice, every item weighs. -/
theorem weigh_of_nodup {seen : List κ} {as : List α} (h : (as.map key).Nodup) (hseen : ∀ a ∈ as, key a ∉ seen) :
    weigh key weight seen as = (as.map weight).sum := by
  induction as generalizing seen with
  | nil => rfl
  | cons a as ih =>
      rw [List.map_cons, List.nodup_cons] at h
      rw [weigh, if_neg (hseen a List.mem_cons_self), List.map_cons, List.sum_cons]
      rw [ih h.2 fun b hb hin => ?_]
      rcases List.mem_cons.mp hin with hsame | hin
      · exact h.1 (hsame ▸ List.mem_map_of_mem hb)
      · exact hseen b (List.mem_cons_of_mem a hb) hin

/-- **The loop that weighs a list.** -/
theorem weigh_foldl (seen : List κ) (n : Nat) (as : List α) :
    (as.foldl (fun (acc : List κ × Nat) a =>
      if key a ∈ acc.1 then acc else (acc.1 ++ [key a], acc.2 + weight a)) (seen, n)).2 =
      n + weigh key weight seen as := by
  induction as generalizing seen n with
  | nil => rfl
  | cons a as ih =>
      rw [List.foldl_cons, weigh]
      by_cases ha : key a ∈ seen
      · rw [if_pos ha, if_pos ha, ih]
      · have hsame : weigh key weight (seen ++ [key a]) as = weigh key weight (key a :: seen) as :=
          weigh_congr key weight (fun k => by simp [or_comm]) as
        rw [if_neg ha, if_neg ha, ih, hsame, Nat.add_assoc]

end FirstOccurrences

end EventDriven
