import ForgeRuntime.Lib.Machine
import ForgeRuntime.Lib.OrderedMap
import ForgeRuntime.Lib.Turn

/-!
# Two runs side by side

What one run gives, compared with what another gives from a state that is related to the first: the way to
show that a part of the state does not matter, or matters only up to a renaming.

* `OrderedMap.Alike K V` and `OrderedSet.Alike K` — the same entries in the same order, up to a relation of
  the keys that tells different keys apart; lookups, writes and deletions respect it;
* `Turn.Agree R m n Q` — from states related by `R`, both codes throw the same error or return values related
  by `Q`, and the states they leave are related again; with one rule for each construct of a `do` block;
* `traces_alike` — two machines that agree on every input agree along every run.

Nothing here names the program that is verified with it.
-/

namespace EventDriven

/-- `K` pairs equal with equal and different with different. -/
def Pairs {α β : Type} (K : α → β → Prop) : Prop :=
  ∀ ⦃a b a' b'⦄, K a b → K a' b' → (a = a' ↔ b = b')

/-- An injective function pairs each argument with its value. -/
theorem pairs_of_injective {α β : Type} {f : α → β} (hf : Function.Injective f) : Pairs fun a b => b = f a := by
  rintro a b a' b' rfl rfl
  exact hf.eq_iff.symm

/-! ### Maps and sets -/

namespace OrderedMap

variable {κ ν κ' ν' : Type} {K : κ → κ' → Prop} {V : ν → ν' → Prop}

/-- Two entries under related keys. -/
def AlikeEntry (K : κ → κ' → Prop) (V : ν → ν' → Prop) (e : κ × ν) (e' : κ' × ν') : Prop :=
  K e.1 e'.1 ∧ V e.2 e'.2

/-- The same entries in the same order, up to `K` and `V`. -/
def Alike (K : κ → κ' → Prop) (V : ν → ν' → Prop) (m : OrderedMap κ ν) (m' : OrderedMap κ' ν') : Prop :=
  List.Forall₂ (AlikeEntry K V) m.entries m'.entries

theorem alike_empty : Alike K V (empty : OrderedMap κ ν) (empty : OrderedMap κ' ν') := .nil

theorem Alike.values {m : OrderedMap κ ν} {m' : OrderedMap κ' ν'} (h : Alike K V m m') :
    List.Forall₂ V m.values m'.values := by
  rw [OrderedMap.values, OrderedMap.values, List.forall₂_map_left_iff, List.forall₂_map_right_iff]
  exact h.imp fun _ _ hentry => hentry.2

theorem Alike.values_eq {m : OrderedMap κ ν} {m' : OrderedMap κ' ν} (h : Alike K Eq m m') : m'.values = m.values := by
  have hvalues := h.values
  rw [List.forall₂_eq_eq_eq] at hvalues
  exact hvalues.symm

section Lookups

variable [DecidableEq κ] [DecidableEq κ'] {m : OrderedMap κ ν} {m' : OrderedMap κ' ν'} {k : κ} {k' : κ'}

omit [DecidableEq κ] [DecidableEq κ'] in
theorem Alike.mem_iff (hK : Pairs K) (h : Alike K V m m') (hk : K k k') : k ∈ m ↔ k' ∈ m' := by
  simp only [OrderedMap.mem_iff, keys]
  unfold Alike at h
  generalize m.entries = es, m'.entries = es' at h ⊢
  induction h with
  | nil => exact iff_of_false List.not_mem_nil List.not_mem_nil
  | cons hentry _ ih => rw [List.map_cons, List.map_cons, List.mem_cons, List.mem_cons, ih, hK hk hentry.1]

theorem Alike.get? (hK : Pairs K) (h : Alike K V m m') (hk : K k k') : Option.Rel V (m.get? k) (m'.get? k') := by
  simp only [OrderedMap.get?]
  unfold Alike at h
  generalize m.entries = es, m'.entries = es' at h ⊢
  induction h with
  | nil => exact .none
  | @cons e e' es es' hentry _ ih =>
      have hsame : e.1 = k ↔ e'.1 = k' := hK hentry.1 hk
      by_cases hfound : e.1 = k
      · rw [List.find?_cons_of_pos (by simpa using hfound), List.find?_cons_of_pos (by simpa using hsame.mp hfound)]
        exact .some hentry.2
      · rw [List.find?_cons_of_neg (by simpa using hfound),
          List.find?_cons_of_neg (by simpa using fun h => hfound (hsame.mpr h))]
        exact ih

theorem Alike.get?_eq {m' : OrderedMap κ' ν} (hK : Pairs K) (h : Alike K Eq m m') (hk : K k k') :
    m'.get? k' = m.get? k := by
  cases hl : m.get? k with
  | none =>
      have hrel := h.get? hK hk
      rw [hl] at hrel
      generalize m'.get? k' = found at hrel
      cases hrel
      rfl
  | some v =>
      have hrel := h.get? hK hk
      rw [hl] at hrel
      generalize m'.get? k' = found at hrel
      cases hrel with
      | some hv => rw [hv]

theorem Alike.insert {v : ν} {v' : ν'} (hK : Pairs K) (h : Alike K V m m') (hk : K k k') (hv : V v v') :
    Alike K V (m.insert k v) (m'.insert k' v') := by
  have hmem := h.mem_iff hK hk
  by_cases hin : k ∈ m
  · rw [OrderedMap.insert, OrderedMap.insert, dif_pos hin, dif_pos (hmem.mp hin)]
    show List.Forall₂ (AlikeEntry K V) (replaceIn k v m.entries) (replaceIn k' v' m'.entries)
    rw [replaceIn, replaceIn, List.forall₂_map_left_iff, List.forall₂_map_right_iff]
    refine List.Forall₂.imp (fun e e' hentry => ?_) h
    have hsame : e.1 = k ↔ e'.1 = k' := hK hentry.1 hk
    by_cases hkey : e.1 = k
    · rw [if_pos hkey, if_pos (hsame.mp hkey)]
      exact ⟨hentry.1, hv⟩
    · rw [if_neg hkey, if_neg fun h => hkey (hsame.mpr h)]
      exact hentry
  · rw [OrderedMap.insert, OrderedMap.insert, dif_neg hin, dif_neg fun h => hin (hmem.mpr h)]
    exact List.rel_append h (.cons ⟨hk, hv⟩ .nil)

theorem Alike.erase (hK : Pairs K) (h : Alike K V m m') (hk : K k k') : Alike K V (m.erase k) (m'.erase k') := by
  show List.Forall₂ (AlikeEntry K V) (m.entries.filter _) (m'.entries.filter _)
  unfold Alike at h
  generalize m.entries = es, m'.entries = es' at h ⊢
  induction h with
  | nil => exact .nil
  | @cons e e' es es' hentry _ ih =>
      have hsame : e.1 = k ↔ e'.1 = k' := hK hentry.1 hk
      by_cases hkey : e.1 = k
      · rw [List.filter_cons_of_neg (by simpa using hkey), List.filter_cons_of_neg (by simpa using hsame.mp hkey)]
        exact ih
      · rw [List.filter_cons_of_pos (by simpa using hkey),
          List.filter_cons_of_pos (by simpa using fun h => hkey (hsame.mpr h))]
        exact .cons hentry ih

end Lookups

end OrderedMap

namespace OrderedSet

variable {α β : Type} {K : α → β → Prop}

/-- The same elements in the same order, up to `K`. -/
def Alike (K : α → β → Prop) (s : OrderedSet α) (s' : OrderedSet β) : Prop := List.Forall₂ K s.elems s'.elems

theorem alike_empty : Alike K (empty : OrderedSet α) (empty : OrderedSet β) := .nil

variable [DecidableEq α] [DecidableEq β] {s : OrderedSet α} {s' : OrderedSet β} {a : α} {b : β}

omit [DecidableEq α] [DecidableEq β] in
theorem Alike.mem_iff (hK : Pairs K) (h : Alike K s s') (hab : K a b) : a ∈ s ↔ b ∈ s' := by
  simp only [OrderedSet.mem_iff]
  unfold Alike at h
  generalize s.elems = l, s'.elems = l' at h ⊢
  induction h with
  | nil => exact iff_of_false List.not_mem_nil List.not_mem_nil
  | cons hhead _ ih => rw [List.mem_cons, List.mem_cons, ih, hK hab hhead]

theorem Alike.add (hK : Pairs K) (h : Alike K s s') (hab : K a b) : Alike K (s.add a) (s'.add b) := by
  have hmem := h.mem_iff hK hab
  by_cases hin : a ∈ s
  · rw [OrderedSet.add, OrderedSet.add, dif_pos hin, dif_pos (hmem.mp hin)]
    exact h
  · rw [OrderedSet.add, OrderedSet.add, dif_neg hin, dif_neg fun h => hin (hmem.mpr h)]
    exact List.rel_append h (.cons hab .nil)

end OrderedSet

/-! ### Turns -/

/-- The same error, or values related by `Q`. -/
inductive AlikeResult {ε α β : Type} (Q : α → β → Prop) : Except ε α → Except ε β → Prop
  | ok {a : α} {b : β} (h : Q a b) : AlikeResult Q (.ok a) (.ok b)
  | error (e : ε) : AlikeResult Q (.error e) (.error e)

theorem AlikeResult.eq {ε α : Type} {Q : α → α → Prop} {x y : Except ε α} (h : AlikeResult Q x y)
    (hQ : ∀ a b, Q a b → a = b) : x = y := by
  cases h with
  | ok h => rw [hQ _ _ h]
  | error => rfl

namespace Turn

variable {ε σ τ α β α' β' : Type} {R : σ → τ → Prop} {Q : α → β → Prop} {Q' : α' → β' → Prop}

/-- **Two codes agree**: from related states they give the same result, up to `Q`, and leave related states. -/
def Agree (R : σ → τ → Prop) (m : Turn ε σ α) (n : Turn ε τ β) (Q : α → β → Prop) : Prop :=
  ∀ s t, R s t → AlikeResult Q (m s).1 (n t).1 ∧ R (m s).2 (n t).2

theorem agree_pure {a : α} {b : β} (h : Q a b) : Agree R (pure a : Turn ε σ α) (pure b) Q :=
  fun _ _ hR => ⟨.ok h, hR⟩

theorem agree_throw (e : ε) : Agree R (throw e : Turn ε σ α) (throw e : Turn ε τ β) Q :=
  fun _ _ hR => ⟨.error e, hR⟩

theorem agree_bind {m : Turn ε σ α} {n : Turn ε τ β} {f : α → Turn ε σ α'} {g : β → Turn ε τ β'}
    (hm : Agree R m n Q) (hf : ∀ a b, Q a b → Agree R (f a) (g b) Q') : Agree R (m >>= f) (n >>= g) Q' := by
  intro s t hR
  have hmid := hm s t hR
  rw [bind_apply, bind_apply]
  rcases hm' : m s with ⟨r, s'⟩
  rcases hn' : n t with ⟨r', t'⟩
  rw [hm', hn'] at hmid
  obtain ⟨hresult, hR'⟩ : AlikeResult Q r r' ∧ R s' t' := hmid
  cases hresult with
  | ok hQ => exact hf _ _ hQ s' t' hR'
  | error e => exact ⟨.error e, hR'⟩

/-- Reading the state; what follows may use that what was read is related. -/
theorem agree_get_bind {f : σ → Turn ε σ α} {g : τ → Turn ε τ β} (h : ∀ s t, R s t → Agree R (f s) (g t) Q) :
    Agree R ((get : Turn ε σ σ) >>= f) ((get : Turn ε τ τ) >>= g) Q :=
  fun s t hR => h s t hR s t hR

theorem agree_modify_bind {w : σ → σ} {w' : τ → τ} {f : PUnit → Turn ε σ α} {g : PUnit → Turn ε τ β}
    (hw : ∀ s t, R s t → R (w s) (w' t)) (h : Agree R (f ⟨⟩) (g ⟨⟩) Q) :
    Agree R ((modify w : Turn ε σ PUnit) >>= f) ((modify w' : Turn ε τ PUnit) >>= g) Q :=
  fun s t hR => h (w s) (w' t) (hw s t hR)

theorem agree_ite {c c' : Prop} [Decidable c] [Decidable c'] {m m' : Turn ε σ α} {n n' : Turn ε τ β} (hc : c ↔ c')
    (hm : c → Agree R m n Q) (hn : ¬ c → Agree R m' n' Q) :
    Agree R (if c then m else m') (if c' then n else n') Q := by
  by_cases h : c
  · rw [if_pos h, if_pos (hc.mp h)]
    exact hm h
  · rw [if_neg h, if_neg fun h' => h (hc.mpr h')]
    exact hn h

theorem agree_tryCatch {m : Turn ε σ α} {n : Turn ε τ β} {h : ε → Turn ε σ α} {k : ε → Turn ε τ β}
    (hm : Agree R m n Q) (hh : ∀ e, Agree R (h e) (k e) Q) : Agree R (tryCatch m h) (tryCatch n k) Q := by
  intro s t hR
  have hmid := hm s t hR
  rw [tryCatch_apply, tryCatch_apply]
  rcases hm' : m s with ⟨r, s'⟩
  rcases hn' : n t with ⟨r', t'⟩
  rw [hm', hn'] at hmid
  obtain ⟨hresult, hR'⟩ : AlikeResult Q r r' ∧ R s' t' := hmid
  cases hresult with
  | ok hQ => exact ⟨.ok hQ, hR'⟩
  | error e => exact hh e s' t' hR'

theorem agree_map {m : Turn ε σ α} {n : Turn ε τ β} {f : α → α'} {g : β → β'} (hm : Agree R m n Q)
    (h : ∀ a b, Q a b → Q' (f a) (g b)) : Agree R (f <$> m) (g <$> n) Q' := by
  intro s t hR
  have hmid := hm s t hR
  rw [map_apply, map_apply]
  refine ⟨?_, hmid.2⟩
  have hresult := hmid.1
  generalize (m s).1 = r, (n t).1 = r' at hresult ⊢
  cases hresult with
  | ok hQ => exact .ok (h _ _ hQ)
  | error e => exact .error e

end Turn

/-! ### Machines -/

namespace Machine

variable {ι ω σ ι' ω' τ : Type} {step : ι → σ → ω × σ} {step' : ι' → τ → ω' × τ}

/-- **Machines that agree on every input agree along every run.** -/
theorem traces_alike {R : σ → τ → Prop} {O : ω → ω' → Prop} (translate : ι → ι')
    (hstep : ∀ i s t, R s t → O (step i s).1 (step' (translate i) t).1 ∧ R (step i s).2 (step' (translate i) t).2)
    {s : σ} {t : τ} (hR : R s t) (is : List ι) :
    List.Forall₂ (fun st st' => O st.output st'.output ∧ R st.after st'.after) (trace step s is)
      (trace step' t (is.map translate)) := by
  induction is generalizing s t with
  | nil => exact .nil
  | cons i is ih => exact .cons (hstep i s t hR) (ih (hstep i s t hR).2)

theorem finish_alike {R : σ → τ → Prop} (translate : ι → ι')
    (hstep : ∀ i s t, R s t → R (step i s).2 (step' (translate i) t).2) {s : σ} {t : τ} (hR : R s t)
    (is : List ι) : R (finish step s is) (finish step' t (is.map translate)) := by
  induction is generalizing s t with
  | nil => exact hR
  | cons i is ih => exact ih (hstep i s t hR)

end Machine

end EventDriven
