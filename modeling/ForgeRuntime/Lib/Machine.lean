import Mathlib.Data.List.Nodup
import Mathlib.Data.List.Basic

/-!
# Runs of a deterministic machine

A machine takes an input in a state, answers with an output and moves to a state.  This file fixes its
runs as traces of steps and gives the rules by which a fact about one step becomes a fact about runs:

* `holds_throughout` — an invariant of the admissible steps holds before and after every step of a run;
* `history_holds` — the same for an invariant that also speaks of what happened before;
* `steps_at_finish`, `steps_before` — the same with all the steps so far;
* `holds_until` — from one step of a run to a later one;
* `keys_nodup` — something that is spent when it is used, and never comes back, is used at most once;
* `never_again` — after a step that spends it, no step uses it.

The admissible inputs may depend on the state, so a restriction on the callers of the machine is a
predicate `ok`; an unrestricted run takes `ok` true everywhere.
-/

namespace EventDriven

namespace Machine

variable {ι ω σ : Type}

/-- One step of a run, with the states around it. -/
structure Step (ι ω σ : Type) where
  before : σ
  input : ι
  output : ω
  after : σ

section Runs

variable (step : ι → σ → ω × σ)

/-- The step that the machine takes on an input. -/
def stepAt (s : σ) (i : ι) : Step ι ω σ := ⟨s, i, (step i s).1, (step i s).2⟩

/-- The steps of a run. -/
def trace : σ → List ι → List (Step ι ω σ)
  | _, [] => []
  | s, i :: is => stepAt step s i :: trace (step i s).2 is

/-- The state that a run ends in. -/
def finish : σ → List ι → σ
  | s, [] => s
  | s, i :: is => finish (step i s).2 is

/-- Every input is admissible in the state in which it arrives. -/
def Admissible (ok : σ → ι → Prop) : σ → List ι → Prop
  | _, [] => True
  | s, i :: is => ok s i ∧ Admissible ok (step i s).2 is

instance (ok : σ → ι → Prop) [∀ s i, Decidable (ok s i)] (s : σ) (is : List ι) :
    Decidable (Admissible step ok s is) :=
  match is with
  | [] => isTrue trivial
  | i :: is =>
      have := instDecidableAdmissible ok (step i s).2 is
      inferInstanceAs (Decidable (_ ∧ _))

end Runs

variable {step : ι → σ → ω × σ} {ok : σ → ι → Prop}

/-- A run goes on from where it stands. -/
theorem finish_append (s : σ) (is js : List ι) :
    finish step s (is ++ js) = finish step (finish step s is) js := by
  induction is generalizing s with
  | nil => rfl
  | cons i is ih => exact ih (step i s).2

/-- So do its steps. -/
theorem trace_append (s : σ) (is js : List ι) :
    trace step s (is ++ js) = trace step s is ++ trace step (finish step s is) js := by
  induction is generalizing s with
  | nil => rfl
  | cons i is ih => exact congrArg _ (ih (step i s).2)

theorem admissible_of_forall (h : ∀ s i, ok s i) (s : σ) (is : List ι) : Admissible step ok s is := by
  induction is generalizing s with
  | nil => trivial
  | cons i is ih => exact ⟨h s i, ih (step i s).2⟩

/-- A restriction on the inputs alone. -/
theorem admissible_of_mem {P : ι → Prop} {is : List ι} (h : ∀ i ∈ is, P i) (s : σ) :
    Admissible step (fun _ i => P i) s is := by
  induction is generalizing s with
  | nil => trivial
  | cons i is ih =>
      exact ⟨h i List.mem_cons_self, ih (fun j hj => h j (List.mem_cons_of_mem i hj)) (step i s).2⟩

/-- The beginning of an admissible run is admissible. -/
theorem admissible_left {s : σ} {is js : List ι} (ha : Admissible step ok s (is ++ js)) :
    Admissible step ok s is := by
  induction is generalizing s with
  | nil => trivial
  | cons i is ih => exact ⟨ha.1, ih ha.2⟩

/-- **An invariant holds in the last state of a run.** -/
theorem holds_at_finish {I : σ → Prop} (hstep : ∀ s i, I s → ok s i → I (step i s).2) {s : σ}
    (hs : I s) {is : List ι} (ha : Admissible step ok s is) : I (finish step s is) := by
  induction is generalizing s with
  | nil => exact hs
  | cons i is ih => exact ih (hstep s i hs ha.1) ha.2

/-- **Exactly the admissible runs.**  Where a step keeps `I` if and only if its input is admissible, `I` holds
in every state that a run reaches if and only if the run is admissible. -/
theorem holds_in_prefixes_iff {I : σ → Prop} (hstep : ∀ s i, I s → (I (step i s).2 ↔ ok s i)) {s : σ}
    (hs : I s) (is : List ι) : (∀ pre, pre <+: is → I (finish step s pre)) ↔ Admissible step ok s is := by
  constructor
  · intro hall
    induction is generalizing s with
    | nil => trivial
    | cons i is ih =>
        have hnext : I (step i s).2 := hall [i] (List.prefix_append [i] is)
        refine ⟨(hstep s i hs).mp hnext, ih hnext fun pre hpre => ?_⟩
        exact hall (i :: pre) (List.cons_prefix_cons.mpr ⟨rfl, hpre⟩)
  · rintro ha pre ⟨rest, rfl⟩
    exact holds_at_finish (fun s i hI hok => (hstep s i hI).mpr hok) hs (admissible_left ha)

/-- **An invariant with a history.**  `update` folds the steps into a value `g`; if each admissible step
keeps `I` of the state and the folded value, then `I` holds before every step of a run, of the value
folded from the steps before it, and that step is admissible. -/
theorem history_holds {γ : Type} {I : σ → γ → Prop} (update : γ → Step ι ω σ → γ)
    (hstep : ∀ s i g, I s g → ok s i → I (step i s).2 (update g (stepAt step s i))) {s : σ} {g : γ}
    (hs : I s g) {is : List ι} (ha : Admissible step ok s is) {pre post : List (Step ι ω σ)}
    {st : Step ι ω σ} (ht : trace step s is = pre ++ st :: post) :
    I st.before (pre.foldl update g) ∧ ok st.before st.input ∧ st = stepAt step st.before st.input := by
  induction is generalizing s g pre with
  | nil => simp [trace] at ht
  | cons i is ih =>
      cases pre with
      | nil =>
          simp only [trace, List.nil_append, List.cons.injEq] at ht
          obtain ⟨rfl, -⟩ := ht
          exact ⟨hs, ha.1, rfl⟩
      | cons first pre =>
          simp only [trace, List.cons_append, List.cons.injEq] at ht
          obtain ⟨rfl, ht⟩ := ht
          exact ih (hstep s i g hs ha.1) ha.2 ht

/-- **An invariant holds before every step of a run.** -/
theorem holds_throughout {I : σ → Prop} (hstep : ∀ s i, I s → ok s i → I (step i s).2) {s : σ}
    (hs : I s) {is : List ι} (ha : Admissible step ok s is) {st : Step ι ω σ}
    (ht : st ∈ trace step s is) :
    I st.before ∧ ok st.before st.input ∧ st = stepAt step st.before st.input := by
  obtain ⟨pre, post, hsplit⟩ := List.append_of_mem ht
  exact history_holds (I := fun s (_ : Unit) => I s) (fun g _ => g) (g := ()) (fun s i _ => hstep s i)
    hs ha hsplit

/-- An invariant that every step keeps holds before every step of every run. -/
theorem holds_always {I : σ → Prop} (hstep : ∀ s i, I s → I (step i s).2) {s : σ} (hs : I s) {is : List ι}
    {st : Step ι ω σ} (ht : st ∈ trace step s is) : I st.before := by
  have hfree : Admissible step (fun _ _ => True) s is := admissible_of_forall (fun _ _ => trivial) s is
  exact (holds_throughout (fun s i hI _ => hstep s i hI) hs hfree ht).1

/-! ### Segments of a run -/

/-- What follows a step of a run is a run from the state after it. -/
theorem trace_split {s : σ} {is : List ι} {pre post : List (Step ι ω σ)} {st : Step ι ω σ}
    (ht : trace step s is = pre ++ st :: post) :
    st = stepAt step st.before st.input ∧ ∃ js, post = trace step st.after js := by
  induction is generalizing s pre with
  | nil => simp [trace] at ht
  | cons i is ih =>
      cases pre with
      | nil =>
          simp only [trace, List.nil_append, List.cons.injEq] at ht
          obtain ⟨rfl, rfl⟩ := ht
          exact ⟨rfl, is, rfl⟩
      | cons first pre =>
          simp only [trace, List.cons_append, List.cons.injEq] at ht
          exact ih ht.2

/-- Each step of a run is the one that the machine takes. -/
theorem eq_stepAt_of_mem {s : σ} {is : List ι} {st : Step ι ω σ} (ht : st ∈ trace step s is) :
    st = stepAt step st.before st.input := by
  obtain ⟨pre, post, hsplit⟩ := List.append_of_mem ht
  exact (trace_split hsplit).1

/-- The first steps of a run are the run of its first inputs. -/
theorem trace_eq_append {s : σ} {is : List ι} {mid post : List (Step ι ω σ)} (ht : trace step s is = mid ++ post) :
    ∃ js ks, is = js ++ ks ∧ mid = trace step s js ∧ post = trace step (finish step s js) ks := by
  induction mid generalizing s is with
  | nil => exact ⟨[], is, rfl, rfl, ht.symm⟩
  | cons st mid ih =>
      cases is with
      | nil => simp [trace] at ht
      | cons i is =>
          simp only [trace, List.cons_append, List.cons.injEq] at ht
          obtain ⟨rfl, hrest⟩ := ht
          obtain ⟨js, ks, rfl, rfl, rfl⟩ := ih hrest
          exact ⟨i :: js, ks, rfl, rfl, rfl⟩

/-- **An invariant of the state and the steps so far**, in the last state of a run. -/
theorem steps_at_finish {I : σ → List (Step ι ω σ) → Prop}
    (hstep : ∀ s i steps, I s steps → ok s i → I (step i s).2 (steps ++ [stepAt step s i])) {s : σ}
    {is : List ι} (hs : I s []) (ha : Admissible step ok s is) : I (finish step s is) (trace step s is) := by
  have hall : ∀ steps, I s steps → I (finish step s is) (steps ++ trace step s is) := by
    clear hs
    induction is generalizing s with
    | nil => exact fun steps hs => (List.append_nil steps).symm ▸ hs
    | cons i is ih =>
        intro steps hs
        have hrest := ih ha.2 _ (hstep s i steps hs ha.1)
        rwa [List.append_assoc] at hrest
  exact hall [] hs

/-- The same before each step of the run. -/
theorem steps_before {I : σ → List (Step ι ω σ) → Prop}
    (hstep : ∀ s i steps, I s steps → ok s i → I (step i s).2 (steps ++ [stepAt step s i])) {s : σ}
    {is : List ι} (hs : I s []) (ha : Admissible step ok s is) {pre post : List (Step ι ω σ)}
    {st : Step ι ω σ} (ht : trace step s is = pre ++ st :: post) : I st.before pre := by
  obtain ⟨js, ks, rfl, rfl, hpost⟩ := trace_eq_append ht
  have hI := steps_at_finish hstep hs (admissible_left ha)
  cases ks with
  | nil => simp [trace] at hpost
  | cons k ks =>
      simp only [trace, List.cons.injEq] at hpost
      obtain ⟨rfl, -⟩ := hpost
      exact hI

/-- A run is admissible when each of its steps is. -/
theorem admissible_of_steps {s : σ} {is : List ι} (h : ∀ st ∈ trace step s is, ok st.before st.input) :
    Admissible step ok s is := by
  induction is generalizing s with
  | nil => trivial
  | cons i is ih =>
      exact ⟨h _ List.mem_cons_self, ih fun st hst => h st (List.mem_cons_of_mem _ hst)⟩

/-- **From one step to a later one.**  What holds after the first step, and is kept by the steps in between,
holds before the last one. -/
theorem holds_until {J : σ → Prop} {s : σ} {is : List ι} {pre mid post : List (Step ι ω σ)}
    {first last : Step ι ω σ} (ht : trace step s is = pre ++ first :: (mid ++ last :: post))
    (hfirst : J first.after)
    (hkeep : ∀ st ∈ mid, st = stepAt step st.before st.input → J st.before → J st.after) :
    J last.before := by
  obtain ⟨-, js, hjs⟩ := trace_split ht
  clear ht
  generalize first.after = t at hfirst hjs
  induction mid generalizing t js with
  | nil =>
      cases js with
      | nil => simp [trace] at hjs
      | cons j js =>
          simp only [trace, List.nil_append, List.cons.injEq] at hjs
          obtain ⟨rfl, -⟩ := hjs
          exact hfirst
  | cons st mid ih =>
      cases js with
      | nil => simp [trace] at hjs
      | cons j js =>
          simp only [trace, List.cons_append, List.cons.injEq] at hjs
          obtain ⟨rfl, hrest⟩ := hjs
          exact ih (fun st hst => hkeep st (List.mem_cons_of_mem _ hst)) js _
            (hkeep _ List.mem_cons_self rfl hfirst) hrest

/-! ### Things that are used once -/

section Spending

variable {κ : Type} {I : σ → Prop} {key : Step ι ω σ → Option κ} (Spent : σ → κ → Prop)

/-- What is spent at the start of a run is not used in it. -/
theorem notMem_keys_of_spent (hstep : ∀ s i, I s → ok s i → I (step i s).2)
    (huse : ∀ s i k, I s → ok s i → key (stepAt step s i) = some k → ¬ Spent s k)
    (hkeep : ∀ s i k, I s → ok s i → Spent s k → Spent (step i s).2 k) {s : σ} (hs : I s) {k : κ}
    (hspent : Spent s k) {is : List ι} (ha : Admissible step ok s is) :
    k ∉ (trace step s is).filterMap key := by
  induction is generalizing s with
  | nil => simp [trace]
  | cons i is ih =>
      have hrest := ih (hstep s i hs ha.1) (hkeep s i k hs ha.1 hspent) ha.2
      rw [trace, List.filterMap_cons]
      cases hkey : key (stepAt step s i) with
      | none => exact hrest
      | some used =>
          simp only [List.mem_cons, not_or]
          refine ⟨?_, hrest⟩
          rintro rfl
          exact huse s i k hs ha.1 hkey hspent

/-- **Used at most once.**  If a step uses only what is not spent, leaves it spent, and nothing that is
spent comes back, then no run uses anything twice. -/
theorem keys_nodup (hstep : ∀ s i, I s → ok s i → I (step i s).2)
    (huse : ∀ s i k, I s → ok s i → key (stepAt step s i) = some k → ¬ Spent s k)
    (hspend : ∀ s i k, I s → ok s i → key (stepAt step s i) = some k → Spent (step i s).2 k)
    (hkeep : ∀ s i k, I s → ok s i → Spent s k → Spent (step i s).2 k) {s : σ} (hs : I s)
    {is : List ι} (ha : Admissible step ok s is) : ((trace step s is).filterMap key).Nodup := by
  induction is generalizing s with
  | nil => simp [trace]
  | cons i is ih =>
      have hrest := ih (hstep s i hs ha.1) ha.2
      rw [trace, List.filterMap_cons]
      cases hkey : key (stepAt step s i) with
      | none => exact hrest
      | some k =>
          refine List.nodup_cons.mpr ⟨?_, hrest⟩
          exact notMem_keys_of_spent Spent hstep huse hkeep (hstep s i hs ha.1)
            (hspend s i k hs ha.1 hkey) ha.2

/-- **Never again.**  After a step that leaves `k` spent, no later step of the run uses `k`. -/
theorem never_again (hstep : ∀ s i, I s → ok s i → I (step i s).2)
    (huse : ∀ s i k, I s → ok s i → key (stepAt step s i) = some k → ¬ Spent s k)
    (hkeep : ∀ s i k, I s → ok s i → Spent s k → Spent (step i s).2 k) {s : σ} (hs : I s)
    {is : List ι} (ha : Admissible step ok s is) {pre post : List (Step ι ω σ)} {st : Step ι ω σ}
    (ht : trace step s is = pre ++ st :: post) {k : κ} (hspent : Spent st.after k) :
    k ∉ post.filterMap key := by
  induction is generalizing s pre with
  | nil => simp [trace] at ht
  | cons i is ih =>
      cases pre with
      | nil =>
          simp only [trace, List.nil_append, List.cons.injEq] at ht
          obtain ⟨rfl, rfl⟩ := ht
          exact notMem_keys_of_spent Spent hstep huse hkeep (hstep s i hs ha.1) hspent ha.2
      | cons first pre =>
          simp only [trace, List.cons_append, List.cons.injEq] at ht
          obtain ⟨rfl, ht⟩ := ht
          exact ih (hstep s i hs ha.1) ha.2 ht

end Spending

end Machine

end EventDriven
