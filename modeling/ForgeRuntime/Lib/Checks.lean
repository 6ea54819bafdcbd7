import Mathlib.Logic.Basic

/-!
# Validators with early exits

A validator is a sequence of guards, each of which returns at once with its errors.  In the monad
`Except ε` such a sequence is a `do` block, and it succeeds exactly when every guard does.  The lemmas
below turn the success of a `do` block into the conjunction of its conditions, guard by guard and loop by
loop, so that an exactness theorem is an assembly of one small equivalence for each guard.
-/

namespace EventDriven

namespace Checks

variable {ε α β : Type}

/-- Return at once with `e` when `bad` holds. -/
def refuseIf (bad : Prop) [Decidable bad] (e : ε) : Except ε Unit :=
  if bad then .error e else .ok ()

@[simp] theorem refuseIf_eq_ok {bad : Prop} [Decidable bad] {e : ε} :
    refuseIf bad e = .ok () ↔ ¬ bad := by
  unfold refuseIf
  split
  · rename_i h
    simp [h]
  · rename_i h
    simp [h]

theorem bind_eq_ok {m : Except ε α} {f : α → Except ε β} {b : β} :
    (m >>= f) = .ok b ↔ ∃ a, m = .ok a ∧ f a = .ok b := by
  cases m with
  | error e => simp [bind, Except.bind]
  | ok a => simp [bind, Except.bind]

/-- A guard in front of the rest. -/
@[simp] theorem refuseIf_bind_eq_ok {bad : Prop} [Decidable bad] {e : ε} {f : Unit → Except ε β}
    {b : β} : (refuseIf bad e >>= f) = .ok b ↔ ¬ bad ∧ f () = .ok b := by
  rw [bind_eq_ok]
  constructor
  · rintro ⟨⟨⟩, hguard, hrest⟩
    exact ⟨refuseIf_eq_ok.mp hguard, hrest⟩
  · rintro ⟨hguard, hrest⟩
    exact ⟨(), refuseIf_eq_ok.mpr hguard, hrest⟩

/-- A check in front of the rest. -/
theorem check_bind_eq_ok {m : Except ε Unit} {f : Unit → Except ε β} {b : β} :
    (m >>= f) = .ok b ↔ m = .ok () ∧ f () = .ok b := by
  rw [bind_eq_ok]
  constructor
  · rintro ⟨⟨⟩, hm, hf⟩
    exact ⟨hm, hf⟩
  · rintro ⟨hm, hf⟩
    exact ⟨(), hm, hf⟩

/-- Run a check on every element, in order, up to the first refusal. -/
def forEach (xs : List α) (check : α → Except ε Unit) : Except ε Unit :=
  match xs with
  | [] => .ok ()
  | x :: rest => check x >>= fun _ => forEach rest check

/-- **A loop of checks** succeeds exactly when each element passes. -/
theorem forEach_eq_ok {xs : List α} {check : α → Except ε Unit} :
    forEach xs check = .ok () ↔ ∀ x ∈ xs, check x = .ok () := by
  induction xs with
  | nil => simp [forEach]
  | cons x xs ih => simp [forEach, check_bind_eq_ok, ih]

/-- Refuse the first element whose key was seen before. -/
def refuseRepeated [DecidableEq β] (key : α → β) (e : α → ε) (seen : List β) : List α → Except ε Unit
  | [] => .ok ()
  | x :: rest =>
      if key x ∈ seen then .error (e x)
      else refuseRepeated key e (seen ++ [key x]) rest

theorem refuseRepeated_eq_ok_of_seen [DecidableEq β] (key : α → β) (e : α → ε) (xs : List α)
    {seen : List β} (hseen : seen.Nodup) :
    refuseRepeated key e seen xs = .ok () ↔ (seen ++ xs.map key).Nodup := by
  induction xs generalizing seen with
  | nil => simp [refuseRepeated, hseen]
  | cons x xs ih =>
      by_cases hx : key x ∈ seen
      · have hbad : ¬ (seen ++ key x :: xs.map key).Nodup := by
          intro h
          exact (List.nodup_append.mp h).2.2 _ hx _ List.mem_cons_self rfl
        simp [refuseRepeated, hx, hbad]
      · have hnext : (seen ++ [key x]).Nodup := by
          refine List.nodup_append.mpr ⟨hseen, by simp, ?_⟩
          intro a ha b hb hab
          have hbx : b = key x := by simpa using hb
          exact hx (hbx ▸ hab ▸ ha)
        rw [refuseRepeated, if_neg hx, ih hnext]
        simp

/-- **The loop over a growing set of seen keys** succeeds exactly when the keys are distinct. -/
theorem refuseRepeated_eq_ok [DecidableEq β] {key : α → β} {e : α → ε} {xs : List α} :
    refuseRepeated key e [] xs = .ok () ↔ (xs.map key).Nodup := by
  simpa using refuseRepeated_eq_ok_of_seen key e xs List.nodup_nil

end Checks

end EventDriven
