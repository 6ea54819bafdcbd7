import Mathlib.Logic.Basic

/-!
# Turns: run-to-completion code over a shared mutable state

An event loop runs one handler at a time.  Between two points at which a handler waits for the outside
world, nothing else runs, so such a stretch is a function of the shared state: it either returns a value
or throws, and **what it wrote before throwing stays written**.  This file fixes that shape and the rules
by which facts about a stretch of code are put together from facts about its parts:

* `Turn ε σ α` — the stretch, with `get`, `modify`, `throw` and `try`/`catch`;
* the evaluation lemmas, tagged for `simp`, that run a `do` block on a symbolic state;
* `Turn.Keeps I m` — `m` never leaves the invariant `I`, whether it returns or throws;
* `Turn.Returns F m` — what `m` returns satisfies `F`, from whatever state;
* `Turn.Leads P m Q E` — from `P`, a return of `m` satisfies `Q` and a throw satisfies `E`.

Nothing here names the program that is verified with it.
-/

namespace EventDriven

/-- A **turn**: code that runs to completion on a shared state and returns or throws, keeping its writes
in both cases. -/
def Turn (ε σ α : Type) := σ → Except ε α × σ

namespace Turn

variable {ε σ τ α β : Type}

instance : Monad (Turn ε σ) where
  pure a := fun s => (.ok a, s)
  bind m f := fun s =>
    match m s with
    | (.ok a, t) => f a t
    | (.error e, t) => (.error e, t)

instance : MonadStateOf σ (Turn ε σ) where
  get := fun s => (.ok s, s)
  set t := fun _ => (.ok ⟨⟩, t)
  modifyGet f := fun s => (.ok (f s).1, (f s).2)

instance : MonadExceptOf ε (Turn ε σ) where
  throw e := fun s => (.error e, s)
  tryCatch m h := fun s =>
    match m s with
    | (.ok a, t) => (.ok a, t)
    | (.error e, t) => h e t

/-- Run `m` and give its error back as a value: a `catch` that keeps what it caught. -/
def attempt (m : Turn ε σ α) : Turn ε σ (Except ε α) := fun s => (.ok (m s).1, (m s).2)

/-! ### Evaluation -/

@[simp] theorem pure_apply (a : α) (s : σ) : (pure a : Turn ε σ α) s = (.ok a, s) := rfl

theorem bind_apply (m : Turn ε σ α) (f : α → Turn ε σ β) (s : σ) :
    (m >>= f) s = match m s with
      | (.ok a, t) => f a t
      | (.error e, t) => (.error e, t) := rfl

@[simp] theorem get_apply (s : σ) : (get : Turn ε σ σ) s = (.ok s, s) := rfl

@[simp] theorem modify_apply (g : σ → σ) (s : σ) :
    (modify g : Turn ε σ PUnit) s = (.ok ⟨⟩, g s) := rfl

@[simp] theorem throw_apply (e : ε) (s : σ) : (throw e : Turn ε σ α) s = (.error e, s) := rfl

@[simp] theorem get_bind_apply (f : σ → Turn ε σ α) (s : σ) :
    ((get : Turn ε σ σ) >>= f) s = f s s := rfl

@[simp] theorem modify_bind_apply (g : σ → σ) (f : PUnit → Turn ε σ α) (s : σ) :
    ((modify g : Turn ε σ PUnit) >>= f) s = f ⟨⟩ (g s) := rfl

@[simp] theorem throw_bind_apply (e : ε) (f : α → Turn ε σ β) (s : σ) :
    ((throw e : Turn ε σ α) >>= f) s = (.error e, s) := rfl

@[simp] theorem ite_apply_state (c : Prop) [Decidable c] (m n : Turn ε σ α) (s : σ) :
    (if c then m else n) s = if c then m s else n s := by
  split <;> rfl

/-- Wrapping the value of a turn changes neither its writes nor its error. -/
theorem map_apply (f : α → β) (m : Turn ε σ α) (s : σ) : (f <$> m) s = ((m s).1.map f, (m s).2) := by
  change (m >>= fun a => pure (f a)) s = _
  rw [bind_apply]
  rcases m s with ⟨_ | a, t⟩
  · rfl
  · rfl

theorem tryCatch_apply (m : Turn ε σ α) (h : ε → Turn ε σ α) (s : σ) :
    (tryCatch m h : Turn ε σ α) s = match m s with
      | (.ok a, t) => (.ok a, t)
      | (.error e, t) => h e t := rfl

theorem bind_eq_ok {m : Turn ε σ α} {f : α → Turn ε σ β} {s t : σ} {a : α} (h : m s = (.ok a, t)) :
    (m >>= f) s = f a t := by
  rw [bind_apply, h]

theorem bind_eq_error {m : Turn ε σ α} {f : α → Turn ε σ β} {s t : σ} {e : ε}
    (h : m s = (.error e, t)) : (m >>= f) s = (.error e, t) := by
  rw [bind_apply, h]

/-! ### Invariants of a turn -/

/-- `m` never leaves the invariant `I`: it holds after `m` if it held before, on return and on throw. -/
def Keeps (I : σ → Prop) (m : Turn ε σ α) : Prop := ∀ s, I s → I (m s).2

variable {I : σ → Prop}

theorem keeps_pure (a : α) : Keeps I (pure a : Turn ε σ α) := fun _ h => h

theorem keeps_get : Keeps I (get : Turn ε σ σ) := fun _ h => h

theorem keeps_throw (e : ε) : Keeps I (throw e : Turn ε σ α) := fun _ h => h

theorem keeps_modify {g : σ → σ} (h : ∀ s, I s → I (g s)) :
    Keeps I (modify g : Turn ε σ PUnit) := h

theorem keeps_bind {m : Turn ε σ α} {f : α → Turn ε σ β} (hm : Keeps I m) (hf : ∀ a, Keeps I (f a)) :
    Keeps I (m >>= f) := by
  intro s hs
  have hmid := hm s hs
  rw [bind_apply]
  rcases h : m s with ⟨_ | a, t⟩
  · rwa [h] at hmid
  · rw [h] at hmid
    exact hf a t hmid

theorem keeps_ite {c : Prop} [Decidable c] {m n : Turn ε σ α} (hm : Keeps I m) (hn : Keeps I n) :
    Keeps I (if c then m else n) := by
  split
  · exact hm
  · exact hn

theorem keeps_and {J : σ → Prop} {m : Turn ε σ α} (hI : Keeps I m) (hJ : Keeps J m) :
    Keeps (fun s => I s ∧ J s) m := fun s hs => ⟨hI s hs.1, hJ s hs.2⟩

/-- A choice whose branches rely on it. -/
theorem keeps_ite_of {c : Prop} [Decidable c] {m n : Turn ε σ α} (hm : c → Keeps I m) (hn : ¬ c → Keeps I n) :
    Keeps I (if c then m else n) := by
  split
  case isTrue h => exact hm h
  case isFalse h => exact hn h

theorem keeps_tryCatch {m : Turn ε σ α} {h : ε → Turn ε σ α} (hm : Keeps I m)
    (hh : ∀ e, Keeps I (h e)) : Keeps I (tryCatch m h) := by
  intro s hs
  have hmid := hm s hs
  change I (match m s with
    | (.ok a, t) => (Except.ok a, t)
    | (.error e, t) => h e t).2
  rcases hr : m s with ⟨e | a, t⟩
  · rw [hr] at hmid
    exact hh e t hmid
  · rwa [hr] at hmid

/-! ### What is returned -/

/-- From any state, what `m` returns satisfies `F`. -/
def Returns (F : α → Prop) (m : Turn ε σ α) : Prop := ∀ s a t, m s = (.ok a, t) → F a

section Returns

variable {F : α → Prop} {G : β → Prop}

theorem returns_pure {a : α} (h : F a) : Returns F (pure a : Turn ε σ α) := by
  intro s b t hrun
  cases hrun
  exact h

theorem returns_throw (e : ε) : Returns F (throw e : Turn ε σ α) := by
  intro s a t hrun
  cases hrun

theorem returns_bind {m : Turn ε σ α} {f : α → Turn ε σ β} (hm : Returns F m) (hf : ∀ a, F a → Returns G (f a)) :
    Returns G (m >>= f) := by
  intro s b u hrun
  rcases hmid : m s with ⟨e | a, t⟩
  · rw [bind_eq_error hmid] at hrun
    cases hrun
  · rw [bind_eq_ok hmid] at hrun
    exact hf a (hm s a t hmid) t b u hrun

/-- What is returned at the end, whatever came before. -/
theorem returns_last {m : Turn ε σ α} {f : α → Turn ε σ β} (hf : ∀ a, Returns G (f a)) : Returns G (m >>= f) :=
  returns_bind (F := fun _ => True) (fun _ _ _ _ => trivial) fun a _ => hf a

theorem returns_ite {c : Prop} [Decidable c] {m n : Turn ε σ α} (hm : Returns F m) (hn : Returns F n) :
    Returns F (if c then m else n) := by
  split
  · exact hm
  · exact hn

/-- Code that uses what is known of a value. -/
theorem keeps_bind_returns {m : Turn ε σ α} {f : α → Turn ε σ β} (hm : Keeps I m) (hr : Returns F m)
    (hf : ∀ a, F a → Keeps I (f a)) : Keeps I (m >>= f) := by
  intro s hs
  have hmid := hm s hs
  rcases hrun : m s with ⟨e | a, t⟩
  · rw [bind_eq_error hrun]
    rwa [hrun] at hmid
  · rw [bind_eq_ok hrun]
    rw [hrun] at hmid
    exact hf a (hr s a t hrun) t hmid

end Returns

/-! ### Two-state rules -/

/-- From `P`, `m` returns with `Q` of its value and the state, or throws with `E` of the state. -/
def Leads (P : σ → Prop) (m : Turn ε σ α) (Q : α → σ → Prop) (E : σ → Prop) : Prop :=
  ∀ s, P s → (∀ a t, m s = (.ok a, t) → Q a t) ∧ ∀ e t, m s = (.error e, t) → E t

section Leads

variable {P : σ → Prop} {Q : α → σ → Prop} {R : β → σ → Prop} {E : σ → Prop}

/-- Code that is known to return. -/
theorem leads_of_ok {m : Turn ε σ α} (h : ∀ s, P s → ∃ a t, m s = (.ok a, t) ∧ Q a t) : Leads P m Q E := by
  intro s hs
  obtain ⟨a, t, hrun, hQ⟩ := h s hs
  constructor
  · intro a' t' hrun'
    rw [hrun] at hrun'
    cases hrun'
    exact hQ
  · intro e t' hrun'
    rw [hrun] at hrun'
    cases hrun'

/-- Code that is known to throw. -/
theorem leads_of_error {m : Turn ε σ α} (h : ∀ s, P s → ∃ e t, m s = (.error e, t) ∧ E t) : Leads P m Q E := by
  intro s hs
  obtain ⟨e, t, hrun, hE⟩ := h s hs
  constructor
  · intro a t' hrun'
    rw [hrun] at hrun'
    cases hrun'
  · intro e' t' hrun'
    rw [hrun] at hrun'
    cases hrun'
    exact hE

theorem leads_pure {a : α} (h : ∀ s, P s → Q a s) : Leads P (pure a : Turn ε σ α) Q E :=
  leads_of_ok fun s hs => ⟨a, s, rfl, h s hs⟩

theorem leads_modify {g : σ → σ} {Q : PUnit → σ → Prop} (h : ∀ s, P s → Q ⟨⟩ (g s)) :
    Leads P (modify g : Turn ε σ PUnit) Q E :=
  leads_of_ok fun s hs => ⟨⟨⟩, g s, rfl, h s hs⟩

theorem leads_throw {e : ε} (h : ∀ s, P s → E s) : Leads P (throw e : Turn ε σ α) Q E := by
  intro s hs
  constructor
  · intro a t hrun
    cases hrun
  · intro e' t hrun
    cases hrun
    exact h s hs

theorem leads_mono {m : Turn ε σ α} {M : σ → Prop} {Q' : α → σ → Prop} (h : Leads P m Q E)
    (hP : ∀ s, M s → P s) (hQ : ∀ a t, Q a t → Q' a t) : Leads M m Q' E :=
  fun s hs => ⟨fun a t hrun => hQ a t ((h s (hP s hs)).1 a t hrun), (h s (hP s hs)).2⟩

/-- Every step leads somewhere. -/
theorem leads_anywhere {m : Turn ε σ α} : Leads P m (fun _ _ => True) fun _ => True :=
  fun _ _ => ⟨fun _ _ _ => trivial, fun _ _ _ => trivial⟩

/-- A fact that the states before `m` share. -/
theorem leads_pre {m : Turn ε σ α} {M : σ → Prop} {A : Prop} (hpre : ∀ s, P s → M s ∧ A)
    (hm : A → Leads M m Q E) : Leads P m Q E := fun s hs => hm (hpre s hs).2 s (hpre s hs).1

theorem leads_bind {m : Turn ε σ α} {f : α → Turn ε σ β} (hm : Leads P m Q E)
    (hf : ∀ a, Leads (Q a) (f a) R E) : Leads P (m >>= f) R E := by
  intro s hs
  have hmid := hm s hs
  rcases hrun : m s with ⟨e | a, t⟩
  · rw [bind_eq_error hrun]
    constructor
    · intro b t' hout
      cases hout
    · intro e' t' hout
      cases hout
      exact hmid.2 e t hrun
  · rw [bind_eq_ok hrun]
    exact hf a t (hmid.1 a t hrun)

/-- Reading the state. -/
theorem leads_get_bind {f : σ → Turn ε σ β} (hf : ∀ s, P s → Leads P (f s) R E) :
    Leads P ((get : Turn ε σ σ) >>= f) R E :=
  fun s hs => hf s hs s hs

/-- Reading the state, where what follows depends on more of it than `P` says. -/
theorem leads_get_bind_eq {f : σ → Turn ε σ β} (hf : ∀ s, P s → Leads (· = s) (f s) R E) :
    Leads P ((get : Turn ε σ σ) >>= f) R E :=
  fun s hs => hf s hs s rfl

theorem leads_modify_bind {g : σ → σ} {f : PUnit → Turn ε σ β} {M : σ → Prop}
    (hg : ∀ s, P s → M (g s)) (hf : Leads M (f ⟨⟩) R E) :
    Leads P ((modify g : Turn ε σ PUnit) >>= f) R E :=
  fun s hs => hf (g s) (hg s hs)

theorem leads_ite {c : Prop} [Decidable c] {m n : Turn ε σ α} (hm : c → Leads P m Q E)
    (hn : ¬ c → Leads P n Q E) : Leads P (if c then m else n) Q E := by
  split
  case isTrue h => exact hm h
  case isFalse h => exact hn h

theorem leads_tryCatch {m : Turn ε σ α} {handle : ε → Turn ε σ α} {E' : σ → Prop}
    (hm : Leads P m Q E') (hh : ∀ e, Leads E' (handle e) Q E) :
    Leads P (tryCatch m handle) Q E := by
  intro s hs
  have hmid := hm s hs
  rw [tryCatch_apply]
  rcases hrun : m s with ⟨e | a, t⟩
  · exact hh e t (hmid.2 e t hrun)
  · constructor
    · intro b t' hout
      cases hout
      exact hmid.1 a t hrun
    · intro e' t' hout
      cases hout

theorem leads_attempt {m : Turn ε σ α} {R : Except ε α → σ → Prop}
    (hm : Leads P m (fun a => R (.ok a)) fun t => ∀ e, R (.error e) t) :
    Leads P (attempt m) R E := by
  refine leads_of_ok fun s hs => ⟨_, _, rfl, ?_⟩
  rcases hrun : m s with ⟨e | a, t⟩
  · exact (hm s hs).2 e t hrun e
  · exact (hm s hs).1 a t hrun

end Leads

end Turn

end EventDriven
