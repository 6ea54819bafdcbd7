import Mathlib.Data.List.Basic

/-!
# Codes that can be read off the front

An encoding is a prefix code when the word of a value can be read off the front of any text: what was encoded
and what is left are both determined.  So words can be written one after the other without anything between
them, whatever the encoded values look like.

* `prefixCode_of_read` — a code that is read back;
* `prefixCode_terminated` — words that end with a letter they do not contain;
* `prefixCode_closed` — several words, up to a letter that none of them begins with;
* `prefixCode_sized` — a text behind its length;
* `prefixCode_optional` — a word for nothing, and one that announces a value;
* `prefixCode_flatMap` — the words of several values in a row.
-/

namespace EventDriven

variable {α β κ : Type*}

/-- What was encoded, and what stands behind it, can be read off the front. -/
def PrefixCode (enc : α → List β) : Prop := ∀ ⦃a b u v⦄, enc a ++ u = enc b ++ v → a = b ∧ u = v

variable {enc : α → List β}

/-- A code that is read back. -/
theorem prefixCode_of_read {read : List β → Option (α × List β)}
    (h : ∀ a rest, read (enc a ++ rest) = some (a, rest)) : PrefixCode enc := by
  intro a b u v heq
  have hread : some (a, u) = some (b, v) := by rw [← h a u, heq, h b v]
  exact Prod.mk.inj (Option.some.inj hread)

/-- A fixed text in front. -/
theorem prefixCode_behind (header : List β) (h : PrefixCode enc) : PrefixCode fun a => header ++ enc a := by
  intro a b u v heq
  simp only [List.append_assoc, List.append_cancel_left_eq] at heq
  exact h heq

/-- Texts are cut at their first `stop` in one way. -/
theorem append_stop_inj {stop : β} {a b u v : List β} (ha : stop ∉ a) (hb : stop ∉ b)
    (h : a ++ stop :: u = b ++ stop :: v) : a = b ∧ u = v := by
  induction a generalizing b with
  | nil =>
      cases b with
      | nil => exact ⟨rfl, (List.cons.inj h).2⟩
      | cons c b => exact absurd (List.cons.inj h).1 fun hc => hb (hc ▸ List.mem_cons_self)
  | cons d a ih =>
      cases b with
      | nil => exact absurd (List.cons.inj h).1 fun hd => ha (hd ▸ List.mem_cons_self)
      | cons c b =>
          obtain ⟨rfl, htail⟩ := List.cons.inj h
          obtain ⟨rfl, huv⟩ := ih (fun hmem => ha (List.mem_cons_of_mem _ hmem))
            (fun hmem => hb (List.mem_cons_of_mem _ hmem)) htail
          exact ⟨rfl, huv⟩

/-- **Words up to a letter** that none of them contains. -/
theorem prefixCode_terminated (hinj : ∀ a b, enc a = enc b → a = b) {stop : β} (hstop : ∀ a, stop ∉ enc a) :
    PrefixCode fun a => enc a ++ [stop] := by
  intro a b u v heq
  simp only [List.append_assoc, List.singleton_append] at heq
  obtain ⟨hword, hrest⟩ := append_stop_inj (hstop a) (hstop b) heq
  exact ⟨hinj a b hword, hrest⟩

/-- **Several words up to a letter** that none of them begins with. -/
theorem prefixCode_closed (h : PrefixCode enc) {stop : β} (hstop : ∀ a, ∃ c rest, enc a = c :: rest ∧ c ≠ stop) :
    PrefixCode fun letters : List α => letters.flatMap enc ++ [stop] := by
  intro a b u v heq
  have hgoes : ∀ {letter : α} {letters : List α} {x y : List β},
      [] ++ [stop] ++ x = (letter :: letters).flatMap enc ++ [stop] ++ y → False := by
    intro letter letters x y hsame
    obtain ⟨c, rest, hword, hc⟩ := hstop letter
    simp only [List.flatMap_cons, hword, List.cons_append, List.nil_append] at hsame
    exact hc (List.cons.inj hsame).1.symm
  induction a generalizing b with
  | nil =>
      cases b with
      | nil => exact ⟨rfl, (List.cons.inj heq).2⟩
      | cons d b => exact (hgoes heq).elim
  | cons c a ih =>
      cases b with
      | nil => exact (hgoes heq.symm).elim
      | cons d b =>
          simp only [List.flatMap_cons, List.append_assoc] at heq ih
          obtain ⟨rfl, htail⟩ := h heq
          obtain ⟨rfl, huv⟩ := ih htail
          exact ⟨rfl, huv⟩

/-- **A text behind its length** may contain anything. -/
theorem prefixCode_sized {size : Nat → List β} (h : PrefixCode size) :
    PrefixCode fun text : List β => size text.length ++ text := by
  intro a b u v heq
  simp only [List.append_assoc] at heq
  obtain ⟨hlength, htail⟩ := h heq
  exact List.append_inj htail hlength

/-- A word for nothing and one that announces a value, with different first letters. -/
theorem prefixCode_optional {x y : β} (hxy : x ≠ y) (missing present : List β) (h : PrefixCode enc) :
    PrefixCode fun o : Option α => o.elim (x :: missing) fun a => y :: present ++ enc a := by
  intro a b u v heq
  cases a with
  | none =>
      cases b with
      | none => exact ⟨rfl, List.append_cancel_left heq⟩
      | some b => exact absurd (List.cons.inj heq).1 hxy
  | some a =>
      cases b with
      | none => exact absurd (List.cons.inj heq).1.symm hxy
      | some b =>
          obtain ⟨rfl, hrest⟩ := prefixCode_behind (y :: present) h heq
          exact ⟨rfl, hrest⟩

/-- **Several words in a row.** -/
theorem prefixCode_flatMap {enc : κ → α → List β} (h : ∀ k, PrefixCode (enc k)) {f g : κ → α} {keys : List κ}
    {u v : List β} (heq : (keys.flatMap fun k => enc k (f k)) ++ u = (keys.flatMap fun k => enc k (g k)) ++ v) :
    (∀ k ∈ keys, f k = g k) ∧ u = v := by
  induction keys with
  | nil => exact ⟨nofun, heq⟩
  | cons k keys ih =>
      rw [List.flatMap_cons, List.flatMap_cons, List.append_assoc, List.append_assoc] at heq
      obtain ⟨hhead, hrest⟩ := h k heq
      obtain ⟨htail, huv⟩ := ih hrest
      exact ⟨List.forall_mem_cons.mpr ⟨hhead, htail⟩, huv⟩

end EventDriven
