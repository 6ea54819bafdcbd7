import ForgeRuntime.Lib.Machine

/-!
# Stores that are written under a version

An author reads the version of a store, prepares a change, and writes it under the version that he read.  The store
takes a change only under its present version, and may refuse any; in between others may put what they like.

* `History` — a run of a component whose steps may go in several ways, as the list of its steps;
* `History.simulate` — a component that stands for another one step by step does so over whole histories;
* `no_lost_update` — **a change that is taken was made for the state it is applied to**, and nothing came in between;
* `hands_on` — what is taken is quoted and answered in one chain from the first version to the last;
* `last_write_stands` — where a change forgets the changes before it, the last one decides.
-/

namespace EventDriven

open Machine

/-! ### Histories -/

/-- **A history**: each step is one that the component can take, where the step before it ended. -/
inductive History {ι ω σ : Type} (does : ι → σ → ω → σ → Prop) : σ → List (Step ι ω σ) → σ → Prop
  | nil (s : σ) : History does s [] s
  | cons {step : Step ι ω σ} {steps : List (Step ι ω σ)} {s' : σ}
      (h : does step.input step.before step.output step.after) (hrest : History does step.after steps s') :
      History does step.before (step :: steps) s'

namespace History

variable {ι ι' ω σ τ : Type} {does : ι → σ → ω → σ → Prop} {s s' : σ}

/-- A history goes on from where it was cut. -/
theorem split {pre post : List (Step ι ω σ)} (h : History does s (pre ++ post) s') :
    ∃ t, History does s pre t ∧ History does t post s' := by
  induction pre generalizing s with
  | nil => exact ⟨s, .nil s, h⟩
  | cons step pre ih =>
      cases h with
      | cons hstep hrest =>
          obtain ⟨t, hpre, hpost⟩ := ih hrest
          exact ⟨t, .cons hstep hpre, hpost⟩

/-- Every step of a history is one of the component. -/
theorem step_of_mem {steps : List (Step ι ω σ)} (h : History does s steps s') {step : Step ι ω σ} (hmem : step ∈ steps) :
    does step.input step.before step.output step.after := by
  induction h with
  | nil => exact absurd hmem List.not_mem_nil
  | cons hstep _ ih =>
      rcases List.mem_cons.mp hmem with rfl | hmem
      · exact hstep
      · exact ih hmem

/-- **Simulation.**  `R s is t` says that `t` stands for `s`, and may do so while the inputs `is` arrive.  Where each
step of the one component is answered by a step of the other with the same output, so is every history, and each step
stands for its own. -/
theorem simulate {means : ι → ι'} {does' : ι' → τ → ω → τ → Prop} {R : σ → List ι → τ → Prop}
    (hstep : ∀ i is s o s' t, R s (i :: is) t → does i s o s' → ∃ t', does' (means i) t o t' ∧ R s' is t')
    {steps : List (Step ι ω σ)} (h : History does s steps s') {t : τ} (hs : R s (steps.map Step.input) t) :
    ∃ steps' t', History does' t steps' t' ∧ R s' [] t' ∧
      List.Forall₂ (fun a b => b.input = means a.input ∧ b.output = a.output ∧ (∃ is, R a.before is b.before) ∧
        ∃ is, R a.after is b.after) steps steps' := by
  induction h generalizing t with
  | nil s => exact ⟨[], t, .nil t, hs, .nil⟩
  | @cons step steps s' hdoes _ ih =>
      obtain ⟨t₁, hdoes', hafter⟩ := hstep _ _ _ _ _ _ hs hdoes
      obtain ⟨steps', t', hrest, hend, hall⟩ := ih hafter
      let answer : Step ι' ω τ := ⟨t, means step.input, step.output, t₁⟩
      have hanswer : History does' answer.before (answer :: steps') t' := .cons hdoes' hrest
      exact ⟨answer :: steps', t', hanswer, hend, .cons ⟨rfl, rfl, ⟨_, hs⟩, ⟨_, hafter⟩⟩ hall⟩

/-- A machine that takes a step the component can take runs through its histories. -/
theorem of_trace {step : ι → σ → ω × σ} (hstep : ∀ i s, does i s (step i s).1 (step i s).2) (s : σ) (is : List ι) :
    History does s (trace step s is) (finish step s is) := by
  induction is generalizing s with
  | nil => exact .nil s
  | cons i is ih =>
      have hfirst : History does (stepAt step s i).before (stepAt step s i :: trace step (step i s).2 is)
          (finish step (step i s).2 is) := .cons (hstep i s) (ih _)
      exact hfirst

end History

/-- Of two lists that go together, an element of the first has its own in the second. -/
theorem exists_of_forall₂ {α β : Type} {R : α → β → Prop} {as : List α} {bs : List β} (h : List.Forall₂ R as bs) {a : α}
    (ha : a ∈ as) : ∃ b ∈ bs, R a b := by
  induction h with
  | nil => exact absurd ha List.not_mem_nil
  | @cons a' b' as bs hR _ ih =>
      rcases List.mem_cons.mp ha with rfl | ha
      · exact ⟨b', List.mem_cons_self, hR⟩
      · obtain ⟨b, hb, hab⟩ := ih ha
        exact ⟨b, List.mem_cons_of_mem _ hb, hab⟩

theorem filterMap_of_forall₂ {α β γ : Type} {R : α → β → Prop} {f : α → Option γ} {g : β → Option γ}
    (hsame : ∀ a b, R a b → g b = f a) {as : List α} {bs : List β} (h : List.Forall₂ R as bs) :
    bs.filterMap g = as.filterMap f := by
  induction h with
  | nil => rfl
  | cons hR _ ih => rw [List.filterMap_cons, List.filterMap_cons, hsame _ _ hR, ih]

/-! ### The store -/

namespace Versioned

variable {ν σ ε κ : Type}

/-- What may happen to a store: an author reads its version, or writes a change under the version that he read; or
something else puts a state. -/
inductive Event (ν σ κ : Type) where
  | read
  | write (quoted : ν) (change : κ)
  | edit (state : σ)

variable (version : σ → ν) (apply : κ → σ → Except ε σ)

/-- **The store**: a read answers the version; a change is taken under the present version only, and answered with
the new one, or it is refused, and nothing happens. -/
inductive Does : Event ν σ κ → σ → Option ν → σ → Prop
  | read (s : σ) : Does .read s (some (version s)) s
  | unread (s : σ) : Does .read s none s
  | taken {change : κ} {s s' : σ} (h : apply change s = .ok s') :
      Does (.write (version s) change) s (some (version s')) s'
  | refused (quoted : ν) (change : κ) (s : σ) : Does (.write quoted change) s none s
  | edit (s s' : σ) : Does (.edit s') s none s'

variable {version apply} {s s' : σ}

/-- **No lost update.**  A change that is taken under a version that was read finds the very state that was read, if
these two states do not share a version. -/
theorem no_lost_update {reading writing : Step (Event ν σ κ) (Option ν) σ} {quoted answered : ν} {change : κ}
    (hfree : version reading.before = version writing.before → reading.before = writing.before) (hread : reading.input = .read) (hquoted : reading.output = some quoted)
    (hwrite : writing.input = .write quoted change) (htaken : writing.output = some answered)
    (hreading : Does version apply reading.input reading.before reading.output reading.after)
    (hwriting : Does version apply writing.input writing.before writing.output writing.after) :
    writing.before = reading.before ∧ apply change reading.before = .ok writing.after ∧
      answered = version writing.after := by
  obtain ⟨before, input, output, after⟩ := reading
  obtain ⟨before', input', output', after'⟩ := writing
  simp only at hread hquoted hwrite htaken hreading hwriting
  subst hread hquoted hwrite htaken
  cases hreading
  generalize hsame : version before = v at hwriting
  cases hwriting with
  | taken h =>
      have heq : before = before' := hfree hsame
      subst heq
      exact ⟨rfl, h, rfl⟩

/-! ### The chain of versions -/

/-- The version that a step that puts a state starts from, and the one that it ends with. -/
def handed (version : σ → ν) (step : Step (Event ν σ κ) (Option ν) σ) : Option (ν × ν) :=
  match step.input, step.output with
  | .write quoted _, some answered => some (quoted, answered)
  | .edit _, _ => some (version step.before, version step.after)
  | _, _ => none

/-- Each version is quoted by the one that comes next. -/
def HandsOn : ν → List (ν × ν) → ν → Prop
  | first, [], last => first = last
  | first, (quoted, answered) :: rest, last => quoted = first ∧ HandsOn answered rest last

/-- **The versions are handed on**: the first change quotes the version at the beginning, each one the version that
the one before it was answered with, and the last answer is the version at the end. -/
theorem hands_on {steps : List (Step (Event ν σ κ) (Option ν) σ)} (h : History (Does version apply) s steps s') :
    HandsOn (version s) (steps.filterMap (handed version)) (version s') := by
  induction h with
  | nil => rfl
  | @cons step steps s' hdoes _ ih =>
      obtain ⟨before, input, output, after⟩ := step
      dsimp only at hdoes
      cases hdoes with
      | read | unread | refused => exact ih
      | taken | edit => exact ⟨rfl, ih⟩

/-! ### The last write -/

/-- The changes that were taken. -/
def taken (steps : List (Step (Event ν σ κ) (Option ν) σ)) : List κ :=
  steps.filterMap fun step =>
    match step.input, step.output with
    | .write _ change, some _ => some change
    | _, _ => none

/-- What others have put. -/
def edits (steps : List (Step (Event ν σ κ) (Option ν) σ)) : List σ :=
  steps.filterMap fun step =>
    match step.input with
    | .edit state => some state
    | _ => none

/-- **The last write stands.**  Where a change does to the outcome of another one what it does to the state before,
a history without edits ends as if its last change had been the only one. -/
theorem last_write_stands
    (hforget : ∀ (first second : κ) (s t : σ), apply first s = .ok t → apply second t = apply second s)
    {steps : List (Step (Event ν σ κ) (Option ν) σ)} (h : History (Does version apply) s steps s')
    (hedits : edits steps = []) :
    (taken steps = [] ∧ s' = s) ∨ ∃ change, (taken steps).getLast? = some change ∧ apply change s = .ok s' := by
  induction h with
  | nil => exact .inl ⟨rfl, rfl⟩
  | @cons step steps s' hdoes hrest ih =>
      obtain ⟨before, input, output, after⟩ := step
      dsimp only at hdoes
      cases hdoes with
      | read | unread | refused => exact ih hedits
      | edit => cases hedits
      | @taken change _ _ hchange =>
          refine .inr ?_
          rcases ih hedits with ⟨hnone, hsame⟩ | ⟨last, hlast, hlater⟩
          · refine ⟨change, ?_, ?_⟩
            · show (change :: taken steps).getLast? = some change
              rw [hnone]
              rfl
            · rw [hsame]
              exact hchange
          · refine ⟨last, ?_, ?_⟩
            · show (change :: taken steps).getLast? = some last
              rw [List.getLast?_cons, hlast]
              rfl
            · rw [← hforget change last before after hchange]
              exact hlater

end Versioned

end EventDriven
