import Mathlib.Algebra.GroupWithZero.Nat
import Mathlib.Data.List.Nodup
import Mathlib.Data.List.Perm.Subperm

/-!
# Insertion-ordered maps and sets

The `Map` and the `Set` of the source language keep their entries in the order of first insertion:
writing to a key that is present changes its value in place, writing to a new key appends, and deleting
closes the gap.  A key occurs at most once, which the structures carry as a field:

* `OrderedMap κ ν` with `get?`, `insert`, `erase`, `keys`, `values`;
* `OrderedSet α` with `add`, `erase` and `ofList` (the spread of a list into a set: first occurrences, in order).

The lemmas are the ones a client needs to reason without looking at the entry list: membership and lookup
after each operation, and what `insert` of a new key does to the values.
-/

namespace EventDriven

/-- A finite map that remembers the order in which its keys were first inserted. -/
structure OrderedMap (κ ν : Type) where
  entries : List (κ × ν)
  nodup : (entries.map Prod.fst).Nodup
deriving DecidableEq

namespace OrderedMap

variable {κ ν : Type}

def empty : OrderedMap κ ν := ⟨[], List.nodup_nil⟩

def keys (m : OrderedMap κ ν) : List κ := m.entries.map Prod.fst

def values (m : OrderedMap κ ν) : List ν := m.entries.map Prod.snd

instance : Membership κ (OrderedMap κ ν) := ⟨fun m k => k ∈ m.keys⟩

theorem mem_iff {m : OrderedMap κ ν} {k : κ} : k ∈ m ↔ k ∈ m.keys := Iff.rfl

@[simp] theorem notMem_empty (k : κ) : ¬ k ∈ (empty : OrderedMap κ ν) := by
  simp [mem_iff, keys, empty]

@[simp] theorem values_empty : (empty : OrderedMap κ ν).values = [] := rfl

theorem mem_of_entry {m : OrderedMap κ ν} {k : κ} {v : ν} (h : (k, v) ∈ m.entries) : k ∈ m :=
  List.mem_map.mpr ⟨(k, v), h, rfl⟩

/-- Two entries under one key are the same entry. -/
theorem entry_unique {m : OrderedMap κ ν} {k : κ} {v w : ν} (hv : (k, v) ∈ m.entries)
    (hw : (k, w) ∈ m.entries) : v = w := by
  have := List.inj_on_of_nodup_map m.nodup hv hw rfl
  exact congrArg Prod.snd this

theorem nodup_snoc {m : OrderedMap κ ν} {k : κ} (h : k ∉ m) (v : ν) :
    ((m.entries ++ [(k, v)]).map Prod.fst).Nodup := by
  rw [List.map_append, List.nodup_append]
  refine ⟨m.nodup, List.nodup_singleton _, ?_⟩
  intro a ha b hb hab
  have hbk : b = k := by simpa using hb
  exact h (hbk ▸ hab ▸ ha)

variable [DecidableEq κ]

instance (m : OrderedMap κ ν) (k : κ) : Decidable (k ∈ m) :=
  inferInstanceAs (Decidable (k ∈ m.keys))

/-- The value at a key, if the key is present. -/
def get? (m : OrderedMap κ ν) (k : κ) : Option ν :=
  (m.entries.find? fun e => decide (e.1 = k)).map Prod.snd

/-- Overwrite the value of a key that is present, position unchanged. -/
def replaceIn (k : κ) (v : ν) (es : List (κ × ν)) : List (κ × ν) :=
  es.map fun e => if e.1 = k then (e.1, v) else e

theorem replaceIn_keys (k : κ) (v : ν) (es : List (κ × ν)) :
    (replaceIn k v es).map Prod.fst = es.map Prod.fst := by
  induction es with
  | nil => rfl
  | cons e es ih =>
      simp only [replaceIn, List.map_cons] at ih ⊢
      rw [ih]
      split <;> rfl

/-- Write a value at a key: in place if the key is present, at the end otherwise. -/
def insert (m : OrderedMap κ ν) (k : κ) (v : ν) : OrderedMap κ ν :=
  if h : k ∈ m then
    ⟨replaceIn k v m.entries, (replaceIn_keys k v m.entries).symm ▸ m.nodup⟩
  else
    ⟨m.entries ++ [(k, v)], nodup_snoc h v⟩

/-- Delete a key. -/
def erase (m : OrderedMap κ ν) (k : κ) : OrderedMap κ ν :=
  ⟨m.entries.filter fun e => decide (e.1 ≠ k),
    m.nodup.sublist (List.filter_sublist.map Prod.fst)⟩

/-! ### Membership and lookup -/

theorem keys_insert_of_notMem {m : OrderedMap κ ν} {k : κ} (h : k ∉ m) (v : ν) :
    (m.insert k v).keys = m.keys ++ [k] := by
  simp [insert, h, keys]

theorem keys_insert_of_mem {m : OrderedMap κ ν} {k : κ} (h : k ∈ m) (v : ν) :
    (m.insert k v).keys = m.keys := by
  simp only [insert, h, dif_pos, keys]
  exact replaceIn_keys k v m.entries

@[simp] theorem mem_insert {m : OrderedMap κ ν} {j k : κ} {v : ν} :
    j ∈ m.insert k v ↔ j = k ∨ j ∈ m := by
  by_cases h : k ∈ m
  · rw [mem_iff, keys_insert_of_mem h, ← mem_iff]
    constructor
    · exact Or.inr
    · rintro (rfl | hj)
      · exact h
      · exact hj
  · rw [mem_iff, keys_insert_of_notMem h, List.mem_append, List.mem_singleton, ← mem_iff]
    exact or_comm

@[simp] theorem mem_erase {m : OrderedMap κ ν} {j k : κ} :
    j ∈ m.erase k ↔ j ≠ k ∧ j ∈ m := by
  simp only [mem_iff, keys, erase, List.mem_map, List.mem_filter, decide_eq_true_eq]
  constructor
  · rintro ⟨e, ⟨he, hk⟩, rfl⟩
    exact ⟨hk, e, he, rfl⟩
  · rintro ⟨hk, e, he, rfl⟩
    exact ⟨e, ⟨he, hk⟩, rfl⟩

/-- A lookup finds an entry of the map. -/
theorem get?_eq_some_iff {m : OrderedMap κ ν} {k : κ} {v : ν} :
    m.get? k = some v ↔ (k, v) ∈ m.entries := by
  rw [get?, Option.map_eq_some_iff]
  constructor
  · rintro ⟨⟨j, w⟩, hfind, rfl⟩
    obtain rfl : j = k := by simpa using List.find?_some hfind
    exact List.mem_of_find?_eq_some hfind
  · intro h
    obtain ⟨⟨j, w⟩, hfind⟩ := Option.isSome_iff_exists.mp
      (List.find?_isSome (p := fun e : κ × ν => decide (e.1 = k)) |>.mpr ⟨(k, v), h, by simp⟩)
    obtain rfl : j = k := by simpa using List.find?_some hfind
    exact ⟨_, hfind, entry_unique (List.mem_of_find?_eq_some hfind) h⟩

theorem get?_eq_none_iff {m : OrderedMap κ ν} {k : κ} : m.get? k = none ↔ k ∉ m := by
  rw [Option.eq_none_iff_forall_ne_some]
  constructor
  · rintro hnone hk
    obtain ⟨⟨j, v⟩, hmem, rfl⟩ := List.mem_map.mp hk
    exact hnone v (get?_eq_some_iff.mpr hmem)
  · intro hk v hv
    exact hk (mem_of_entry (get?_eq_some_iff.mp hv))

theorem value_mem {m : OrderedMap κ ν} {k : κ} {v : ν} (h : m.get? k = some v) : v ∈ m.values :=
  List.mem_map.mpr ⟨(k, v), get?_eq_some_iff.mp h, rfl⟩

/-- An entry after a write is the written one, or one from before. -/
theorem mem_entries_insert {m : OrderedMap κ ν} {k : κ} {v : ν} {e : κ × ν}
    (h : e ∈ (m.insert k v).entries) : e = (k, v) ∨ e ∈ m.entries := by
  by_cases hk : k ∈ m
  · simp only [insert, hk, dif_pos, replaceIn, List.mem_map] at h
    obtain ⟨old, hold, rfl⟩ := h
    split
    case isTrue hkey => exact .inl (by rw [hkey])
    case isFalse => exact .inr hold
  · rw [insert, dif_neg hk, List.mem_append, List.mem_singleton] at h
    exact h.symm

/-- A new key leaves the entries that there are. -/
theorem get?_insert_of_notMem {m : OrderedMap κ ν} {k j : κ} {v w : ν} (h : k ∉ m)
    (hj : m.get? j = some w) : (m.insert k v).get? j = some w := by
  rw [get?_eq_some_iff] at hj ⊢
  rw [insert, dif_neg h]
  exact List.mem_append_left _ hj

theorem get?_insert_self {m : OrderedMap κ ν} {k : κ} (h : k ∉ m) (v : ν) :
    (m.insert k v).get? k = some v := by
  rw [get?_eq_some_iff, insert, dif_neg h]
  exact List.mem_append_right _ (List.mem_singleton.mpr rfl)

/-- **A new key appends its value.** -/
theorem values_insert_of_notMem {m : OrderedMap κ ν} {k : κ} (h : k ∉ m) (v : ν) :
    (m.insert k v).values = m.values ++ [v] := by
  simp [insert, h, values]

theorem entries_insert_of_notMem {m : OrderedMap κ ν} {k : κ} (h : k ∉ m) (v : ν) :
    (m.insert k v).entries = m.entries ++ [(k, v)] := by
  simp [insert, h]

/-- A value after a write is the written one, or one from before. -/
theorem mem_values_insert {m : OrderedMap κ ν} {k : κ} {v w : ν} (h : w ∈ (m.insert k v).values) :
    w = v ∨ w ∈ m.values := by
  obtain ⟨e, he, rfl⟩ := List.mem_map.mp h
  rcases mem_entries_insert he with rfl | hold
  · exact .inl rfl
  · exact .inr (List.mem_map_of_mem hold)

/-- Overwriting under an absent key changes nothing. -/
theorem replaceIn_of_notMem {k : κ} {es : List (κ × ν)} (h : k ∉ es.map Prod.fst) (v : ν) :
    replaceIn k v es = es := by
  refine (List.map_congr_left fun e he => ?_).trans (List.map_id es)
  have hkey : e.1 ≠ k := fun hkey => h (hkey ▸ List.mem_map_of_mem he)
  exact if_neg hkey

/-- Images that are different stay different when one value is overwritten by a value with a new image. -/
theorem nodup_replaceIn {α : Type} {f : ν → α} {k : κ} {v : ν} {es : List (κ × ν)}
    (hkeys : (es.map Prod.fst).Nodup) (h : (es.map fun e => f e.2).Nodup) (hv : f v ∉ es.map fun e => f e.2) :
    ((replaceIn k v es).map fun e => f e.2).Nodup := by
  induction es with
  | nil => exact h
  | cons e es ih =>
      rw [List.map_cons, List.nodup_cons] at hkeys h
      rw [List.map_cons, List.mem_cons, not_or] at hv
      by_cases hkey : e.1 = k
      · have hrest : replaceIn k v (e :: es) = (e.1, v) :: es := by
          rw [replaceIn, List.map_cons, if_pos hkey]
          exact congrArg _ (replaceIn_of_notMem (hkey ▸ hkeys.1) v)
        rw [hrest]
        exact List.nodup_cons.mpr ⟨hv.2, h.2⟩
      · have hrest : replaceIn k v (e :: es) = e :: replaceIn k v es := by
          rw [replaceIn, List.map_cons, if_neg hkey]
          rfl
        rw [hrest]
        refine List.nodup_cons.mpr ⟨fun hmem => ?_, ih hkeys.2 h.2 hv.2⟩
        obtain ⟨changed, hchanged, hsame⟩ := List.mem_map.mp hmem
        obtain ⟨old, hold, rfl⟩ := List.mem_map.mp hchanged
        split at hsame
        · exact hv.1 hsame
        · exact h.1 (List.mem_map.mpr ⟨old, hold, hsame⟩)

theorem nodup_values_insert {α : Type} {f : ν → α} {m : OrderedMap κ ν} {k : κ} {v : ν}
    (h : (m.values.map f).Nodup) (hv : f v ∉ m.values.map f) : ((m.insert k v).values.map f).Nodup := by
  by_cases hk : k ∈ m
  · rw [values, List.map_map] at h hv ⊢
    rw [insert, dif_pos hk]
    exact nodup_replaceIn m.nodup h hv
  · rw [values_insert_of_notMem hk, List.map_append]
    refine List.nodup_append.mpr ⟨h, List.nodup_singleton _, ?_⟩
    rintro a ha b hb rfl
    exact hv (List.mem_singleton.mp hb ▸ ha)

/-! ### Every key after a write -/

theorem find?_replaceIn {k j : κ} {v : ν} {es : List (κ × ν)} (hk : k ∈ es.map Prod.fst) :
    ((replaceIn k v es).find? fun e => decide (e.1 = j)).map Prod.snd =
      if j = k then some v else (es.find? fun e => decide (e.1 = j)).map Prod.snd := by
  induction es with
  | nil => cases hk
  | cons e es ih =>
      by_cases hkey : e.1 = k
      · have hhead : replaceIn k v (e :: es) = (e.1, v) :: replaceIn k v es := by
          rw [replaceIn, List.map_cons, if_pos hkey]
          rfl
        rw [hhead]
        by_cases hj : j = k
        · rw [List.find?_cons_of_pos (by simp [hkey, hj]), if_pos hj]
          rfl
        · have hne : ¬ e.1 = j := fun h => hj (h.symm.trans hkey)
          rw [List.find?_cons_of_neg (by simpa using hne), List.find?_cons_of_neg (by simpa using hne), if_neg hj]
          by_cases hrest : k ∈ es.map Prod.fst
          · rw [ih hrest, if_neg hj]
          · rw [replaceIn_of_notMem hrest]
      · have hhead : replaceIn k v (e :: es) = e :: replaceIn k v es := by
          rw [replaceIn, List.map_cons, if_neg hkey]
          rfl
        have hrest : k ∈ es.map Prod.fst := by
          rcases List.mem_cons.mp hk with hsame | hrest
          · exact absurd hsame.symm hkey
          · exact hrest
        rw [hhead]
        by_cases hj : e.1 = j
        · have hne : ¬ j = k := fun h => hkey (hj.trans h)
          rw [List.find?_cons_of_pos (by simpa using hj), List.find?_cons_of_pos (by simpa using hj), if_neg hne]
        · rw [List.find?_cons_of_neg (by simpa using hj), List.find?_cons_of_neg (by simpa using hj)]
          exact ih hrest

/-- **What a lookup finds after a write.** -/
theorem get?_insert (m : OrderedMap κ ν) (k j : κ) (v : ν) :
    (m.insert k v).get? j = if j = k then some v else m.get? j := by
  by_cases hk : k ∈ m
  · rw [insert, dif_pos hk]
    exact find?_replaceIn hk
  · rw [insert, dif_neg hk, get?, List.find?_append]
    by_cases hj : j = k
    · have hnone : (m.entries.find? fun e => decide (e.1 = j)) = none := by
        rw [hj, ← Option.map_eq_none_iff (f := Prod.snd)]
        exact get?_eq_none_iff.mpr hk
      rw [hnone, if_pos hj]
      simp [hj]
    · rw [if_neg hj, get?]
      simp [show ¬ k = j from fun h => hj h.symm]

theorem get?_erase_of_ne (m : OrderedMap κ ν) {k j : κ} (hj : j ≠ k) : (m.erase k).get? j = m.get? j := by
  refine Option.ext fun v => ?_
  rw [get?_eq_some_iff, get?_eq_some_iff, erase, List.mem_filter]
  simp [hj]

theorem get?_erase_self (m : OrderedMap κ ν) (k : κ) : (m.erase k).get? k = none :=
  get?_eq_none_iff.mpr fun h => (mem_erase.mp h).1 rfl

/-! ### Sums -/

theorem sum_replaceIn {k : κ} {v : Nat} {es : List (κ × Nat)} (hkeys : (es.map Prod.fst).Nodup)
    (hk : k ∈ es.map Prod.fst) :
    ((replaceIn k v es).map Prod.snd).sum + ((es.find? fun e => decide (e.1 = k)).map Prod.snd).getD 0 =
      (es.map Prod.snd).sum + v := by
  induction es with
  | nil => cases hk
  | cons e es ih =>
      rw [List.map_cons, List.nodup_cons] at hkeys
      by_cases hkey : e.1 = k
      · have hhead : replaceIn k v (e :: es) = (e.1, v) :: es := by
          rw [replaceIn, List.map_cons, if_pos hkey]
          exact congrArg _ (replaceIn_of_notMem (hkey ▸ hkeys.1) v)
        rw [hhead, List.find?_cons_of_pos (by simpa using hkey)]
        simp only [List.map_cons, List.sum_cons, Option.map_some, Option.getD_some]
        omega
      · have hhead : replaceIn k v (e :: es) = e :: replaceIn k v es := by
          rw [replaceIn, List.map_cons, if_neg hkey]
          rfl
        have hrest : k ∈ es.map Prod.fst := by
          rcases List.mem_cons.mp hk with hsame | hrest
          · exact absurd hsame.symm hkey
          · exact hrest
        rw [hhead, List.find?_cons_of_neg (by simpa using hkey)]
        have hsum := ih hkeys.2 hrest
        simp only [List.map_cons, List.sum_cons] at hsum ⊢
        omega

/-- A write changes the sum by the new value and the old one. -/
theorem sum_insert (m : OrderedMap κ Nat) (k : κ) (v : Nat) :
    (m.insert k v).values.sum + (m.get? k).getD 0 = m.values.sum + v := by
  by_cases hk : k ∈ m
  · rw [insert, dif_pos hk]
    exact sum_replaceIn m.nodup hk
  · rw [values_insert_of_notMem hk, get?_eq_none_iff.mpr hk, List.sum_append]
    simp

theorem sum_filter {k : κ} {es : List (κ × Nat)} (hkeys : (es.map Prod.fst).Nodup) :
    ((es.filter fun e => decide (e.1 ≠ k)).map Prod.snd).sum +
      ((es.find? fun e => decide (e.1 = k)).map Prod.snd).getD 0 = (es.map Prod.snd).sum := by
  induction es with
  | nil => rfl
  | cons e es ih =>
      rw [List.map_cons, List.nodup_cons] at hkeys
      by_cases hkey : e.1 = k
      · have hrest : es.filter (fun e => decide (e.1 ≠ k)) = es := by
          refine List.filter_eq_self.mpr fun other hother => decide_eq_true fun hsame => ?_
          exact hkeys.1 (hkey.trans hsame.symm ▸ List.mem_map_of_mem hother)
        rw [List.filter_cons_of_neg (by simpa using hkey), List.find?_cons_of_pos (by simpa using hkey), hrest]
        simp only [List.map_cons, List.sum_cons, Option.map_some, Option.getD_some]
        omega
      · rw [List.filter_cons_of_pos (by simpa using hkey), List.find?_cons_of_neg (by simpa using hkey)]
        have hsum := ih hkeys.2
        simp only [List.map_cons, List.sum_cons] at hsum ⊢
        omega

theorem sum_erase (m : OrderedMap κ Nat) (k : κ) :
    (m.erase k).values.sum + (m.get? k).getD 0 = m.values.sum := sum_filter m.nodup

/-! ### Maps whose values carry their keys -/

/-- Each value stands under its own key. -/
def KeyedBy (f : ν → κ) (m : OrderedMap κ ν) : Prop := ∀ k v, (k, v) ∈ m.entries → f v = k

omit [DecidableEq κ] in
theorem keyedBy_empty (f : ν → κ) : KeyedBy f (empty : OrderedMap κ ν) := by
  simp [KeyedBy, empty]

theorem KeyedBy.insert {f : ν → κ} {m : OrderedMap κ ν} (h : KeyedBy f m) {k : κ} {v : ν} (hv : f v = k) :
    KeyedBy f (m.insert k v) := by
  intro j w hmem
  rcases mem_entries_insert hmem with hnew | hold
  · obtain ⟨rfl, rfl⟩ := Prod.mk.inj hnew
    exact hv
  · exact h j w hold

omit [DecidableEq κ] in
theorem KeyedBy.map_values {f : ν → κ} {m : OrderedMap κ ν} (h : KeyedBy f m) : m.values.map f = m.keys := by
  rw [values, keys, List.map_map]
  exact List.map_congr_left fun e he => h e.1 e.2 he

end OrderedMap

/-- A finite set that remembers the order in which its elements were first added. -/
structure OrderedSet (α : Type) where
  elems : List α
  nodup : elems.Nodup
deriving DecidableEq

namespace OrderedSet

variable {α : Type}

def empty : OrderedSet α := ⟨[], List.nodup_nil⟩

instance : Membership α (OrderedSet α) := ⟨fun s a => a ∈ s.elems⟩

theorem mem_iff {s : OrderedSet α} {a : α} : a ∈ s ↔ a ∈ s.elems := Iff.rfl

@[simp] theorem notMem_empty (a : α) : ¬ a ∈ (empty : OrderedSet α) := by
  simp [mem_iff, empty]

variable [DecidableEq α]

instance (s : OrderedSet α) (a : α) : Decidable (a ∈ s) :=
  inferInstanceAs (Decidable (a ∈ s.elems))

/-- Add an element at the end unless it is present. -/
def add (s : OrderedSet α) (a : α) : OrderedSet α :=
  if h : a ∈ s then s
  else ⟨s.elems ++ [a], List.nodup_append.mpr ⟨s.nodup, List.nodup_singleton a, by
    intro x hx y hy hxy
    have hya : y = a := by simpa using hy
    exact h (hya ▸ hxy ▸ hx)⟩⟩

/-- Delete an element. -/
def erase (s : OrderedSet α) (a : α) : OrderedSet α :=
  ⟨s.elems.filter fun b => decide (b ≠ a), s.nodup.sublist List.filter_sublist⟩

/-- The set of the elements of a list, each at its first occurrence. -/
def ofList (l : List α) : OrderedSet α := l.foldl add empty

@[simp] theorem mem_add {s : OrderedSet α} {a b : α} : b ∈ s.add a ↔ b = a ∨ b ∈ s := by
  by_cases h : a ∈ s
  · simp only [add, h, dif_pos]
    constructor
    · exact Or.inr
    · rintro (rfl | hb)
      · exact h
      · exact hb
  · simp only [add, h, mem_iff, dif_neg, not_false_iff, List.mem_append, List.mem_singleton]
    exact or_comm

@[simp] theorem mem_erase {s : OrderedSet α} {a b : α} : b ∈ s.erase a ↔ b ≠ a ∧ b ∈ s := by
  simp only [mem_iff, erase, List.mem_filter, decide_eq_true_eq]
  exact and_comm

@[simp] theorem mem_ofList {l : List α} {a : α} : a ∈ ofList l ↔ a ∈ l := by
  have hfold : ∀ s : OrderedSet α, a ∈ l.foldl add s ↔ a ∈ s ∨ a ∈ l := by
    induction l with
    | nil => simp
    | cons b l ih =>
        intro s
        rw [List.foldl_cons, ih, mem_add, List.mem_cons]
        tauto
  simpa [ofList] using hfold empty

omit [DecidableEq α] in
/-- **A part is the whole when it has as many elements.** -/
theorem length_eq_iff {s t : OrderedSet α} (h : ∀ a, a ∈ s → a ∈ t) :
    s.elems.length = t.elems.length ↔ ∀ a, a ∈ t → a ∈ s := by
  have hsub : List.Subperm s.elems t.elems := List.subperm_of_subset s.nodup h
  constructor
  · intro hlength a ha
    exact (hsub.perm_of_length_le (Nat.le_of_eq hlength.symm)).mem_iff.mpr ha
  · intro hall
    exact Nat.le_antisymm hsub.length_le (List.subperm_of_subset t.nodup hall).length_le

end OrderedSet

end EventDriven
