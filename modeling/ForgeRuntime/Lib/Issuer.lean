import Mathlib.Logic.Function.Basic

/-!
# Issued identities

A slot holds at most one live identity at a time.  Identities are issued under the numbers of a counter
that is never set back, so over time a slot keeps its identity, drops it, or takes a new one.  What was
issued and is not live is *spent*, and stays spent: this is why a late call with an old identity is
refused for ever.
-/

namespace EventDriven

/-- A slot and the counter from which its identities are issued. -/
structure Issuer where
  next : Nat
  live : Option String

namespace Issuer

variable {name : Nat → String} {a b : Issuer} {id : String}

/-- The identity was issued: it carries one of the numbers below the counter. -/
def Issued (name : Nat → String) (a : Issuer) (id : String) : Prop := ∃ n < a.next, id = name n

/-- What is live was issued. -/
def LiveIssued (name : Nat → String) (a : Issuer) : Prop := ∀ id, a.live = some id → Issued name a id

/-- What one move can do to a slot. -/
inductive Later (name : Nat → String) (a : Issuer) : Issuer → Prop
  | kept : Later name a a
  | dropped : Later name a ⟨a.next, none⟩
  | issued : Later name a ⟨a.next + 1, some (name a.next)⟩

/-- Issued, and not live. -/
def Spent (name : Nat → String) (a : Issuer) (id : String) : Prop := Issued name a id ∧ a.live ≠ some id

theorem Issued.later (h : Issued name a id) (hlater : Later name a b) : Issued name b id := by
  obtain ⟨n, hn, rfl⟩ := h
  cases hlater with
  | kept => exact ⟨n, hn, rfl⟩
  | dropped => exact ⟨n, hn, rfl⟩
  | issued => exact ⟨n, Nat.lt_succ_of_lt hn, rfl⟩

theorem LiveIssued.later (h : LiveIssued name a) (hlater : Later name a b) : LiveIssued name b := by
  intro id hid
  cases hlater with
  | kept => exact h id hid
  | dropped => cases hid
  | issued => exact ⟨a.next, Nat.lt_succ_self _, (Option.some.inj hid).symm⟩

/-- The counter never goes back. -/
theorem Later.next_le (h : Later name a b) : a.next ≤ b.next := by
  cases h with
  | kept => exact Nat.le_refl _
  | dropped => exact Nat.le_refl _
  | issued => exact Nat.le_succ _

/-- The next identity was not issued before. -/
theorem not_issued_next (hname : Function.Injective name) (a : Issuer) : ¬ Issued name a (name a.next) := by
  rintro ⟨n, hn, heq⟩
  have := hname heq
  omega

/-- **Spent stays spent.** -/
theorem Spent.later (hname : Function.Injective name) (h : Spent name a id) (hlater : Later name a b) :
    Spent name b id := by
  refine ⟨h.1.later hlater, fun hlive => ?_⟩
  cases hlater with
  | kept => exact h.2 hlive
  | dropped => cases hlive
  | issued =>
      obtain rfl := Option.some.inj hlive
      exact not_issued_next hname a h.1

/-- What was live and no longer is, is spent. -/
theorem spent_of_gone (ha : LiveIssued name a) (hlive : a.live = some id) (hlater : Later name a b)
    (hgone : b.live ≠ some id) : Spent name b id :=
  ⟨(ha id hlive).later hlater, hgone⟩

/-- When the counter moves, the live identity is the new one. -/
theorem Later.fresh (hlater : Later name a b) (hnext : b.next ≠ a.next) : b.live = some (name a.next) := by
  cases hlater with
  | kept => exact absurd rfl hnext
  | dropped => exact absurd rfl hnext
  | issued => rfl

end Issuer

end EventDriven
