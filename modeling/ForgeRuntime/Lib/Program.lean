import Mathlib.Logic.Basic

/-!
# Programs that call the outside world

A program is the tree of its calls: what it does next depends on the answer to the call before.  What a call does
is no part of the program, so one program can be run in a world in which calls fail, or beside another program.

* `Program Call Answer α` — the tree, with `throw` and `attempt`;
* `Runs does p w r w'` — started in the world `w` the program ends with `r` in `w'`, where `does` says what a call
  may answer and do;
* `runs_bind_iff`, `runs_attempt_iff` — the runs of a composed program are those of its parts;
* `Keeps does I p` — no run of `p` leaves the invariant `I`;
* `NeverThrows p` — the errors of calls are all caught;
* `CallsOnly P p` — all the calls of `p` satisfy `P`, so what other calls do does not matter (`CallsOnly.runs`).
-/

namespace EventDriven

/-- A **program** is done, with a value or an error, or it makes a call and goes on with the answer. -/
inductive Program (Call : Type) (Answer : Call → Type) (α : Type) where
  | done (r : Except String α)
  | call (c : Call) (k : Except String (Answer c) → Program Call Answer α)

namespace Program

variable {Call : Type} {Answer : Call → Type} {W α β : Type}

/-- Go on with the value of a program; an error ends both. -/
def andThen (p : Program Call Answer α) (f : α → Program Call Answer β) : Program Call Answer β :=
  match p with
  | .done (.ok a) => f a
  | .done (.error e) => .done (.error e)
  | .call c k => .call c fun answer => (k answer).andThen f

instance : Monad (Program Call Answer) where
  pure a := .done (.ok a)
  bind := andThen

/-- End with an error. -/
def fail (e : String) : Program Call Answer α := .done (.error e)

/-- The program that makes one call. -/
def perform (c : Call) : Program Call Answer (Answer c) := .call c fun answer => .done answer

/-- Run the program and give its error back as a value. -/
def attempt (p : Program Call Answer α) : Program Call Answer (Except String α) :=
  match p with
  | .done r => .done (.ok r)
  | .call c k => .call c fun answer => (k answer).attempt

/-- A result that was computed without a call. -/
def lift (r : Except String α) : Program Call Answer α := .done r

/-- Started in `w` the program ends with `r` in `w'`. -/
inductive Runs (does : (c : Call) → W → Except String (Answer c) → W → Prop) :
    Program Call Answer α → W → Except String α → W → Prop
  | done {r : Except String α} {w : W} : Runs does (.done r) w r w
  | call {c : Call} {k : Except String (Answer c) → Program Call Answer α} {w w₁ w' : W}
      {answer : Except String (Answer c)} {r : Except String α} (h : does c w answer w₁)
      (hrest : Runs does (k answer) w₁ r w') : Runs does (.call c k) w r w'

variable {does : (c : Call) → W → Except String (Answer c) → W → Prop}

/-! ### Runs of composed programs -/

theorem runs_done_iff {r r' : Except String α} {w w' : W} :
    Runs does (.done r) w r' w' ↔ r' = r ∧ w' = w := by
  constructor
  · rintro ⟨⟩
    exact ⟨rfl, rfl⟩
  · rintro ⟨rfl, rfl⟩
    exact .done

theorem runs_pure_iff {a : α} {r : Except String α} {w w' : W} :
    Runs does (pure a : Program Call Answer α) w r w' ↔ r = .ok a ∧ w' = w := runs_done_iff

theorem runs_fail_iff {e : String} {r : Except String α} {w w' : W} :
    Runs does (fail e : Program Call Answer α) w r w' ↔ r = .error e ∧ w' = w := runs_done_iff

theorem runs_lift_iff {r r' : Except String α} {w w' : W} :
    Runs does (lift r : Program Call Answer α) w r' w' ↔ r' = r ∧ w' = w := runs_done_iff

theorem runs_call_iff {c : Call} {k : Except String (Answer c) → Program Call Answer α} {r : Except String α}
    {w w' : W} :
    Runs does (.call c k) w r w' ↔ ∃ answer w₁, does c w answer w₁ ∧ Runs does (k answer) w₁ r w' := by
  constructor
  · rintro (_ | ⟨h, hrest⟩)
    exact ⟨_, _, h, hrest⟩
  · rintro ⟨answer, w₁, h, hrest⟩
    exact .call h hrest

theorem runs_perform_iff {c : Call} {r : Except String (Answer c)} {w w' : W} :
    Runs does (perform c) w r w' ↔ does c w r w' := by
  rw [perform, runs_call_iff]
  constructor
  · rintro ⟨answer, w₁, h, hrest⟩
    obtain ⟨rfl, rfl⟩ := runs_done_iff.mp hrest
    exact h
  · intro h
    exact ⟨r, w', h, .done⟩

/-- **A composed program** runs its first part, and the rest from there unless that ended with an error. -/
theorem runs_bind_iff {p : Program Call Answer α} {f : α → Program Call Answer β} {r : Except String β}
    {w w' : W} :
    Runs does (p >>= f) w r w' ↔
      (∃ a w₁, Runs does p w (.ok a) w₁ ∧ Runs does (f a) w₁ r w') ∨
        ∃ e, Runs does p w (.error e) w' ∧ r = .error e := by
  show Runs does (p.andThen f) w r w' ↔ _
  induction p generalizing w with
  | done s =>
      cases s with
      | ok a =>
          constructor
          · intro h
            exact .inl ⟨a, w, .done, h⟩
          · rintro (⟨a', w₁, hp, hf⟩ | ⟨e, hp, -⟩)
            · obtain ⟨heq, rfl⟩ := runs_done_iff.mp hp
              cases heq
              exact hf
            · cases (runs_done_iff.mp hp).1
      | error e =>
          constructor
          · intro h
            obtain ⟨rfl, rfl⟩ := runs_done_iff.mp h
            exact .inr ⟨e, .done, rfl⟩
          · rintro (⟨a, w₁, hp, -⟩ | ⟨e', hp, rfl⟩)
            · cases (runs_done_iff.mp hp).1
            · obtain ⟨heq, rfl⟩ := runs_done_iff.mp hp
              cases heq
              exact .done
  | call c k ih =>
      rw [andThen, runs_call_iff]
      constructor
      · rintro ⟨answer, w₁, h, hrest⟩
        rcases (ih answer).mp hrest with ⟨a, w₂, hp, hf⟩ | ⟨e, hp, rfl⟩
        · exact .inl ⟨a, w₂, .call h hp, hf⟩
        · exact .inr ⟨e, .call h hp, rfl⟩
      · rintro (⟨a, w₂, hp, hf⟩ | ⟨e, hp, rfl⟩)
        · obtain ⟨answer, w₁, h, hrest⟩ := runs_call_iff.mp hp
          exact ⟨answer, w₁, h, (ih answer).mpr (.inl ⟨a, w₂, hrest, hf⟩)⟩
        · obtain ⟨answer, w₁, h, hrest⟩ := runs_call_iff.mp hp
          exact ⟨answer, w₁, h, (ih answer).mpr (.inr ⟨e, hrest, rfl⟩)⟩

/-- A composed program that returns has returned from both parts. -/
theorem runs_bind_ok {p : Program Call Answer α} {f : α → Program Call Answer β} {b : β} {w w' : W} :
    Runs does (p >>= f) w (.ok b) w' ↔ ∃ a w₁, Runs does p w (.ok a) w₁ ∧ Runs does (f a) w₁ (.ok b) w' := by
  rw [runs_bind_iff]
  constructor
  · rintro (h | ⟨e, -, ⟨⟩⟩)
    exact h
  · exact .inl

theorem runs_attempt_iff {p : Program Call Answer α} {r : Except String (Except String α)} {w w' : W} :
    Runs does p.attempt w r w' ↔ ∃ s, r = .ok s ∧ Runs does p w s w' := by
  induction p generalizing w with
  | done s =>
      rw [attempt, runs_done_iff]
      constructor
      · rintro ⟨rfl, rfl⟩
        exact ⟨s, rfl, .done⟩
      · rintro ⟨s', rfl, h⟩
        obtain ⟨rfl, rfl⟩ := runs_done_iff.mp h
        exact ⟨rfl, rfl⟩
  | call c k ih =>
      rw [attempt, runs_call_iff]
      constructor
      · rintro ⟨answer, w₁, h, hrest⟩
        obtain ⟨s, rfl, hs⟩ := (ih answer).mp hrest
        exact ⟨s, rfl, .call h hs⟩
      · rintro ⟨s, rfl, hs⟩
        obtain ⟨answer, w₁, h, hrest⟩ := runs_call_iff.mp hs
        exact ⟨answer, w₁, h, (ih answer).mpr ⟨s, rfl, hrest⟩⟩

/-- Trying a program and going on: what was tried ended in one way or the other. -/
theorem runs_attempt_bind_iff {p : Program Call Answer α} {f : Except String α → Program Call Answer β}
    {r : Except String β} {w w' : W} :
    Runs does (p.attempt >>= f) w r w' ↔ ∃ s w₁, Runs does p w s w₁ ∧ Runs does (f s) w₁ r w' := by
  rw [runs_bind_iff]
  constructor
  · rintro (⟨s, w₁, hp, hf⟩ | ⟨e, hp, -⟩)
    · obtain ⟨s', heq, hs⟩ := runs_attempt_iff.mp hp
      cases heq
      exact ⟨s, w₁, hs, hf⟩
    · obtain ⟨s', heq, -⟩ := runs_attempt_iff.mp hp
      cases heq
  · rintro ⟨s, w₁, hp, hf⟩
    exact .inl ⟨s, w₁, runs_attempt_iff.mpr ⟨s, rfl, hp⟩, hf⟩

/-! ### Invariants -/

/-- No run of the program leaves the invariant. -/
def Keeps (does : (c : Call) → W → Except String (Answer c) → W → Prop) (I : W → Prop)
    (p : Program Call Answer α) : Prop :=
  ∀ w r w', I w → Runs does p w r w' → I w'

variable {I : W → Prop}

theorem keeps_done (r : Except String α) : Keeps does I (.done r : Program Call Answer α) := by
  intro w r' w' hw h
  obtain ⟨-, rfl⟩ := runs_done_iff.mp h
  exact hw

theorem keeps_perform {c : Call} (h : ∀ w answer w', I w → does c w answer w' → I w') :
    Keeps does I (perform c) := by
  intro w r w' hw hrun
  exact h w r w' hw (runs_perform_iff.mp hrun)

theorem keeps_bind {p : Program Call Answer α} {f : α → Program Call Answer β} (hp : Keeps does I p)
    (hf : ∀ a, Keeps does I (f a)) : Keeps does I (p >>= f) := by
  intro w r w' hw h
  rcases runs_bind_iff.mp h with ⟨a, w₁, hfirst, hrest⟩ | ⟨e, hfirst, -⟩
  · exact hf a w₁ r w' (hp w _ w₁ hw hfirst) hrest
  · exact hp w _ w' hw hfirst

theorem keeps_attempt {p : Program Call Answer α} (hp : Keeps does I p) : Keeps does I p.attempt := by
  intro w r w' hw h
  obtain ⟨s, -, hs⟩ := runs_attempt_iff.mp h
  exact hp w s w' hw hs

theorem keeps_ite {c : Prop} [Decidable c] {p q : Program Call Answer α} (hp : Keeps does I p)
    (hq : Keeps does I q) : Keeps does I (if c then p else q) := by
  split
  · exact hp
  · exact hq

/-! ### Programs that do not throw -/

/-- However its calls are answered, the program ends with a value. -/
inductive NeverThrows : Program Call Answer α → Prop
  | done (a : α) : NeverThrows (.done (.ok a))
  | call {c : Call} {k : Except String (Answer c) → Program Call Answer α} (h : ∀ answer, NeverThrows (k answer)) :
      NeverThrows (.call c k)

theorem neverThrows_pure (a : α) : NeverThrows (pure a : Program Call Answer α) := .done a

theorem neverThrows_attempt (p : Program Call Answer α) : NeverThrows p.attempt := by
  induction p with
  | done r => exact .done r
  | call c k ih => exact .call ih

theorem neverThrows_bind {p : Program Call Answer α} {f : α → Program Call Answer β} (hp : NeverThrows p)
    (hf : ∀ a, NeverThrows (f a)) : NeverThrows (p >>= f) := by
  show NeverThrows (p.andThen f)
  induction hp with
  | done a => exact hf a
  | call _ ih => exact .call ih

theorem NeverThrows.returns {p : Program Call Answer α} (hp : NeverThrows p) {w w' : W} {r : Except String α}
    (h : Runs does p w r w') : ∃ a, r = .ok a := by
  induction h with
  | done =>
      cases hp with
      | done a => exact ⟨a, rfl⟩
  | call _ _ ih =>
      cases hp with
      | call hk => exact ih (hk _)

/-! ### The calls of a program -/

/-- Every call of the program satisfies `P`, whatever the answers are. -/
def CallsOnly (P : Call → Prop) : Program Call Answer α → Prop
  | .done _ => True
  | .call c k => P c ∧ ∀ answer, CallsOnly P (k answer)

variable {P : Call → Prop}

theorem callsOnly_done (r : Except String α) : CallsOnly P (.done r : Program Call Answer α) := trivial

theorem callsOnly_perform {c : Call} (h : P c) : CallsOnly P (perform c : Program Call Answer (Answer c)) :=
  ⟨h, fun _ => trivial⟩

theorem callsOnly_bind {p : Program Call Answer α} {f : α → Program Call Answer β} (hp : CallsOnly P p)
    (hf : ∀ a, CallsOnly P (f a)) : CallsOnly P (p >>= f) := by
  show CallsOnly P (p.andThen f)
  induction p with
  | done r =>
      cases r with
      | ok a => exact hf a
      | error e => trivial
  | call c k ih => exact ⟨hp.1, fun answer => ih answer (hp.2 answer)⟩

theorem callsOnly_attempt {p : Program Call Answer α} (hp : CallsOnly P p) : CallsOnly P p.attempt := by
  induction p with
  | done r => trivial
  | call c k ih => exact ⟨hp.1, fun answer => ih answer (hp.2 answer)⟩

theorem callsOnly_ite {c : Prop} [Decidable c] {p q : Program Call Answer α} (hp : CallsOnly P p)
    (hq : CallsOnly P q) : CallsOnly P (if c then p else q) := by
  split
  · exact hp
  · exact hq

/-- **Only its own calls matter**: in a world that treats the calls of the program in the same way, it runs alike. -/
theorem CallsOnly.runs {does' : (c : Call) → W → Except String (Answer c) → W → Prop} {p : Program Call Answer α}
    (hp : CallsOnly P p) (hsame : ∀ c w answer w', P c → does c w answer w' → does' c w answer w') {w w' : W}
    {r : Except String α} (h : Runs does p w r w') : Runs does' p w r w' := by
  induction h with
  | done => exact .done
  | call hcall _ ih => exact .call (hsame _ _ _ _ hp.1 hcall) (ih (hp.2 _))

/-! ### Evaluation -/

/-- The run of a program in a world that answers every call by a function. -/
def eval (answer : (c : Call) → W → Except String (Answer c) × W) : Program Call Answer α → W → Except String α × W
  | .done r, w => (r, w)
  | .call c k, w => eval answer (k (answer c w).1) (answer c w).2

theorem runs_eval {answer : (c : Call) → W → Except String (Answer c) × W}
    (h : ∀ c w, does c w (answer c w).1 (answer c w).2) (p : Program Call Answer α) (w : W) :
    Runs does p w (p.eval answer w).1 (p.eval answer w).2 := by
  induction p generalizing w with
  | done r => exact .done
  | call c k ih => exact .call (h c w) (ih _ _)

end Program

end EventDriven
