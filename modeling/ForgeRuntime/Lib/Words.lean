import Mathlib.Data.List.Infix

/-!
# Places of a word in a text

`indexOf` finds the first place of a word, `occurrences` counts all of them.  A `Marker` is a word whose first
letter does not come again in it, so two of its places never overlap; across a seam between two texts it can
only stand where the second text goes on as the marker does.

* `occurrences_append` — no place crosses a seam before a letter that the tail of the marker does not have;
* `occurrences_unstarted` — no place begins in a text without the first letter of the marker;
* `indexOf_eq_some_iff` — the first place is the one before which the marker does not stand;
* `Brackets`, `Framed` — two markers, and a text with one pair of them; the pair is found in one way only
  (`framed_unique`).
-/

namespace EventDriven

namespace Words

variable {α : Type*}

/-- A word whose first letter does not come again in it. -/
structure Marker (α : Type*) where
  head : α
  tail : List α
  head_notMem : head ∉ tail

def Marker.letters (m : Marker α) : List α := m.head :: m.tail

variable {m : Marker α}

@[simp] theorem Marker.letters_ne_nil : m.letters ≠ [] := List.cons_ne_nil _ _

/-- A prefix of two texts put together ends in the first one, unless it goes on with the first letter of the
second. -/
theorem prefix_append_iff {word a b : List α} (hword : word ≠ []) (ha : a ≠ [])
    (hseam : ∀ d ∈ b.head?, d ∉ word.tail) : word <+: a ++ b ↔ word <+: a := by
  constructor
  · intro hpre
    rcases Nat.lt_or_ge a.length word.length with hlong | hshort
    · obtain ⟨rest, rfl⟩ := List.prefix_of_prefix_length_le (List.prefix_append a b) hpre hlong.le
      obtain ⟨c, a, rfl⟩ := List.exists_cons_of_ne_nil ha
      cases rest with
      | nil => simp at hlong
      | cons d rest =>
          have hb : d :: rest <+: b := (List.prefix_append_right_inj _).mp hpre
          obtain ⟨more, rfl⟩ := hb
          exact absurd (by simp) (hseam d (by simp))
    · exact List.prefix_of_prefix_length_le hpre (List.prefix_append a b) hshort
  · intro hpre
    exact hpre.trans (List.prefix_append a b)

variable [DecidableEq α]

/-- The first place of `word` in the text. -/
def indexOf (word : List α) : List α → Option Nat
  | [] => if word = [] then some 0 else none
  | c :: rest => if word <+: c :: rest then some 0 else (indexOf word rest).map (· + 1)

/-- The first place of `word` in `text` from `start` on. -/
def indexFrom (word text : List α) (start : Nat) : Option Nat :=
  (indexOf word (text.drop start)).map (· + start)

/-- The number of places at which `word` stands in the text. -/
def occurrences (word : List α) : List α → Nat
  | [] => if word = [] then 1 else 0
  | c :: rest => (if word <+: c :: rest then 1 else 0) + occurrences word rest

@[simp] theorem occurrences_nil : occurrences m.letters [] = 0 := if_neg m.letters_ne_nil

/-! ### Absence -/

theorem occurrences_eq_zero_iff {text : List α} : occurrences m.letters text = 0 ↔ ¬ m.letters <:+: text := by
  induction text with
  | nil => simp
  | cons c rest ih =>
      rw [occurrences, Nat.add_eq_zero_iff, ih, List.infix_cons_iff]
      by_cases hstarts : m.letters <+: c :: rest
      · simp [hstarts]
      · simp [hstarts]

theorem indexOf_eq_none_iff {text : List α} : indexOf m.letters text = none ↔ occurrences m.letters text = 0 := by
  induction text with
  | nil => simp [indexOf]
  | cons c rest ih =>
      rw [indexOf, occurrences]
      by_cases hstarts : m.letters <+: c :: rest
      · simp [hstarts]
      · simp [hstarts, ih]

/-- Where the text does not have the first letter of the marker, the marker does not begin. -/
theorem occurrences_unstarted {a : List α} (h : m.head ∉ a) (b : List α) :
    occurrences m.letters (a ++ b) = occurrences m.letters b := by
  induction a with
  | nil => rfl
  | cons c rest ih =>
      have hne : m.head ≠ c := fun heq => h (heq ▸ List.mem_cons_self)
      have hrest : m.head ∉ rest := fun hmem => h (List.mem_cons_of_mem c hmem)
      have hstarts : ¬ m.letters <+: c :: (rest ++ b) := fun hpre => hne (List.cons_prefix_cons.mp hpre).1
      rw [List.cons_append, occurrences, if_neg hstarts, ih hrest, Nat.zero_add]

/-! ### Seams -/

/-- **No place crosses the seam** before a letter that the tail of the marker does not have. -/
theorem occurrences_append {b : List α} (hseam : ∀ d ∈ b.head?, d ∉ m.tail) (a : List α) :
    occurrences m.letters (a ++ b) = occurrences m.letters a + occurrences m.letters b := by
  induction a with
  | nil => simp
  | cons c rest ih =>
      have hstarts : m.letters <+: c :: rest ++ b ↔ m.letters <+: c :: rest :=
        prefix_append_iff m.letters_ne_nil (List.cons_ne_nil c rest) hseam
      rw [List.cons_append, occurrences, occurrences, ih, ← Nat.add_assoc, ← List.cons_append]
      simp only [hstarts]

/-- The marker itself is one place more than those of what follows. -/
theorem occurrences_letters (b : List α) :
    occurrences m.letters (m.letters ++ b) = 1 + occurrences m.letters b := by
  show occurrences m.letters (m.head :: (m.tail ++ b)) = _
  rw [occurrences, if_pos (show m.letters <+: m.head :: (m.tail ++ b) from List.prefix_append m.letters b),
    occurrences_unstarted m.head_notMem]

/-- Another marker with the same first letter is none, and no place begins inside it. -/
theorem occurrences_other {n : Marker α} (hhead : m.head ∉ n.tail) (hne : ∀ b, ¬ m.letters <+: n.letters ++ b)
    (b : List α) : occurrences m.letters (n.letters ++ b) = occurrences m.letters b := by
  have hstarts : ¬ m.letters <+: n.head :: (n.tail ++ b) := hne b
  show occurrences m.letters (n.head :: (n.tail ++ b)) = _
  rw [occurrences, if_neg hstarts, occurrences_unstarted hhead, Nat.zero_add]

/-! ### The first place -/

/-- **The first place** of a marker is the one before which it does not stand. -/
theorem indexOf_eq_some_iff {text : List α} {i : Nat} :
    indexOf m.letters text = some i ↔
      ∃ a b, text = a ++ m.letters ++ b ∧ a.length = i ∧ occurrences m.letters a = 0 := by
  induction text generalizing i with
  | nil => simp [indexOf]
  | cons c rest ih =>
      rw [indexOf]
      by_cases hstarts : m.letters <+: c :: rest
      · rw [if_pos hstarts]
        constructor
        · rintro ⟨⟩
          obtain ⟨b, hb⟩ := hstarts
          exact ⟨[], b, by simpa using hb.symm, rfl, occurrences_nil⟩
        · rintro ⟨a, b, htext, rfl, hnone⟩
          cases a with
          | nil => rfl
          | cons d a =>
              -- the text begins with the marker, and with `d :: a`, in which the marker does not stand
              have hseam : ∀ e ∈ (m.letters ++ b).head?, e ∉ m.tail := by
                simpa [Marker.letters] using m.head_notMem
              rw [htext, List.append_assoc,
                prefix_append_iff m.letters_ne_nil (List.cons_ne_nil d a) hseam] at hstarts
              exact absurd hstarts.isInfix (occurrences_eq_zero_iff.mp hnone)
      · rw [if_neg hstarts]
        constructor
        · intro hsome
          obtain ⟨j, hj, rfl⟩ := Option.map_eq_some_iff.mp hsome
          obtain ⟨a, b, rfl, rfl, hnone⟩ := ih.mp hj
          refine ⟨c :: a, b, rfl, rfl, ?_⟩
          have hshort : ¬ m.letters <+: c :: a := fun hpre =>
            hstarts (hpre.trans (by simp))
          rw [occurrences, if_neg hshort, hnone]
        · rintro ⟨a, b, htext, rfl, hnone⟩
          cases a with
          | nil => exact absurd ⟨b, htext.symm⟩ hstarts
          | cons d a =>
              obtain ⟨rfl, rfl⟩ := List.cons.inj htext
              have hrest : occurrences m.letters a = 0 := (Nat.add_eq_zero_iff.mp hnone).2
              rw [ih.mpr ⟨a, b, rfl, rfl, hrest⟩]
              rfl

/-- Behind its first place the marker stands again exactly when it does in the rest. -/
theorem indexFrom_behind (a b : List α) :
    indexFrom m.letters (a ++ m.letters ++ b) (a.length + m.letters.length) = none ↔
      occurrences m.letters b = 0 := by
  have hdrop : (a ++ m.letters ++ b).drop (a.length + m.letters.length) = b := by
    rw [← List.length_append, List.drop_left]
  rw [indexFrom, hdrop, Option.map_eq_none_iff, indexOf_eq_none_iff]

/-! ### Pairs of markers -/

/-- Two markers of which neither begins inside the other or with the other. -/
structure Brackets (α : Type*) where
  opening : Marker α
  closing : Marker α
  closing_head : closing.head ∉ opening.tail
  opening_head : opening.head ∉ closing.tail
  apart : ¬ opening.letters <+: closing.letters ∧ ¬ closing.letters <+: opening.letters

namespace Brackets

omit [DecidableEq α] in
/-- Of two beginnings of a text one begins with the other. -/
theorem not_prefix_append {word other : List α} (h : ¬ word <+: other ∧ ¬ other <+: word) (b : List α) :
    ¬ word <+: other ++ b := by
  intro hpre
  rcases List.prefix_or_prefix_of_prefix hpre (List.prefix_append other b) with hword | hother
  · exact h.1 hword
  · exact h.2 hother

variable {k : Brackets α}

/-- Neither marker goes on, behind its first letter, as `b` begins. -/
def SafeSeam (k : Brackets α) (b : List α) : Prop :=
  (∀ c ∈ b.head?, c ∉ k.opening.tail) ∧ ∀ c ∈ b.head?, c ∉ k.closing.tail

omit [DecidableEq α] in
theorem safe_opening (b : List α) : k.SafeSeam (k.opening.letters ++ b) := by
  constructor
  · simpa [Marker.letters] using k.opening.head_notMem
  · simpa [Marker.letters] using k.opening_head

omit [DecidableEq α] in
theorem safe_closing (b : List α) : k.SafeSeam (k.closing.letters ++ b) := by
  constructor
  · simpa [Marker.letters] using k.closing_head
  · simpa [Marker.letters] using k.closing.head_notMem

/-- Neither marker stands in the text. -/
def Unmarked (k : Brackets α) (text : List α) : Prop :=
  occurrences k.opening.letters text = 0 ∧ occurrences k.closing.letters text = 0

theorem unmarked_nil : k.Unmarked [] := ⟨occurrences_nil, occurrences_nil⟩

theorem unmarked_append {a b : List α} (hseam : k.SafeSeam b) :
    k.Unmarked (a ++ b) ↔ k.Unmarked a ∧ k.Unmarked b := by
  unfold Unmarked
  rw [occurrences_append hseam.1, occurrences_append hseam.2]
  omega

/-- A letter with which neither marker begins makes no difference in front. -/
theorem unmarked_cons {c : α} (hopening : k.opening.head ≠ c) (hclosing : k.closing.head ≠ c) (b : List α) :
    k.Unmarked (c :: b) ↔ k.Unmarked b := by
  have hopening' : k.opening.head ∉ [c] := by simpa using hopening
  have hclosing' : k.closing.head ∉ [c] := by simpa using hclosing
  unfold Unmarked
  rw [← List.singleton_append, occurrences_unstarted hopening', occurrences_unstarted hclosing']

theorem opening_behind_closing (b : List α) :
    occurrences k.opening.letters (k.closing.letters ++ b) = occurrences k.opening.letters b :=
  occurrences_other k.opening_head (not_prefix_append k.apart) b

theorem closing_behind_opening (b : List α) :
    occurrences k.closing.letters (k.opening.letters ++ b) = occurrences k.closing.letters b :=
  occurrences_other k.closing_head (not_prefix_append k.apart.symm) b

/-- The text has one pair of markers, with `before` and `after` around it. -/
def Framed (k : Brackets α) (text before after : List α) : Prop :=
  ∃ inner, text = before ++ k.opening.letters ++ inner ++ k.closing.letters ++ after ∧
    k.Unmarked before ∧ k.Unmarked inner ∧ k.Unmarked after

/-- The markers in a text put together around a pair of them. -/
theorem occurrences_around (before inner after : List α) :
    occurrences k.opening.letters (before ++ k.opening.letters ++ inner ++ k.closing.letters ++ after) =
        occurrences k.opening.letters before + (1 + (occurrences k.opening.letters inner +
          occurrences k.opening.letters after)) ∧
      occurrences k.closing.letters (before ++ k.opening.letters ++ inner ++ k.closing.letters ++ after) =
        occurrences k.closing.letters before + (occurrences k.closing.letters inner +
          (1 + occurrences k.closing.letters after)) := by
  simp only [List.append_assoc]
  constructor
  · rw [occurrences_append (safe_opening _).1, occurrences_letters, occurrences_append (safe_closing _).1,
      opening_behind_closing]
  · rw [occurrences_append (safe_opening _).2, closing_behind_opening, occurrences_append (safe_closing _).2,
      occurrences_letters]

/-- The markers of a framed text, each counted once. -/
theorem framed_occurrences {text before after : List α} (h : k.Framed text before after) :
    occurrences k.opening.letters text = 1 ∧ occurrences k.closing.letters text = 1 := by
  obtain ⟨inner, rfl, hbefore, hinner, hafter⟩ := h
  obtain ⟨hopening, hclosing⟩ := occurrences_around (k := k) before inner after
  rw [hopening, hclosing, hbefore.1, hbefore.2, hinner.1, hinner.2, hafter.1, hafter.2]
  exact ⟨rfl, rfl⟩

/-- The places of the markers of a framed text. -/
theorem framed_places {text before after : List α} (h : k.Framed text before after) :
    indexOf k.opening.letters text = some before.length ∧
      ∃ ahead, text = ahead ++ k.closing.letters ++ after ∧ before.length ≤ ahead.length ∧
        indexOf k.closing.letters text = some ahead.length := by
  obtain ⟨inner, htext, hbefore, hinner, hafter⟩ := h
  have hfromOpening : text = before ++ k.opening.letters ++ (inner ++ (k.closing.letters ++ after)) := by
    rw [htext]
    simp only [List.append_assoc]
  have hfromClosing : text = (before ++ (k.opening.letters ++ inner)) ++ k.closing.letters ++ after := by
    rw [htext]
    simp only [List.append_assoc]
  have hahead : occurrences k.closing.letters (before ++ (k.opening.letters ++ inner)) = 0 := by
    rw [occurrences_append (safe_opening _).2, closing_behind_opening, hbefore.2, hinner.2]
  refine ⟨indexOf_eq_some_iff.mpr ⟨before, _, hfromOpening, rfl, hbefore.1⟩, _, hfromClosing, ?_,
    indexOf_eq_some_iff.mpr ⟨_, after, hfromClosing, rfl, hahead⟩⟩
  rw [List.length_append]
  omega

/-- **A frame is found in one way only**: wherever a pair of markers is seen, it is the one pair. -/
theorem framed_unique {text before after before' inner' after' : List α} (h : k.Framed text before after)
    (htext : text = before' ++ k.opening.letters ++ inner' ++ k.closing.letters ++ after') :
    before' = before ∧ after' = after := by
  obtain ⟨hopening, hclosing⟩ := framed_occurrences h
  obtain ⟨hfirst, ahead, hahead, -, hlast⟩ := framed_places h
  obtain ⟨hopening', hclosing'⟩ := occurrences_around (k := k) before' inner' after'
  rw [← htext, hopening] at hopening'
  rw [← htext, hclosing] at hclosing'
  have hbefore : indexOf k.opening.letters text = some before'.length :=
    indexOf_eq_some_iff.mpr ⟨before', inner' ++ (k.closing.letters ++ after'),
      by rw [htext]; simp only [List.append_assoc], rfl, by omega⟩
  have hahead' : indexOf k.closing.letters text = some (before' ++ (k.opening.letters ++ inner')).length := by
    refine indexOf_eq_some_iff.mpr ⟨_, after', by rw [htext]; simp only [List.append_assoc], rfl, ?_⟩
    rw [occurrences_append (safe_opening _).2, closing_behind_opening]
    omega
  have hlength : before'.length = before.length := by
    rw [hfirst] at hbefore
    exact (Option.some.inj hbefore).symm
  have hlength' : (before' ++ (k.opening.letters ++ inner')).length = ahead.length := by
    rw [hlast] at hahead'
    exact (Option.some.inj hahead').symm
  constructor
  · obtain ⟨inner, hframe, -⟩ := h
    have hboth : before' ++ (k.opening.letters ++ (inner' ++ (k.closing.letters ++ after'))) =
        before ++ (k.opening.letters ++ (inner ++ (k.closing.letters ++ after))) := by
      simpa only [List.append_assoc] using htext.symm.trans hframe
    exact (List.append_inj hboth hlength).1
  · have hboth : (before' ++ (k.opening.letters ++ inner')) ++ (k.closing.letters ++ after') =
        ahead ++ (k.closing.letters ++ after) := by
      simpa only [List.append_assoc] using htext.symm.trans hahead
    exact List.append_cancel_left (List.append_inj hboth hlength').2

/-- Between an opening and a closing marker that come first there, and do not come again, lies one pair. -/
theorem framed_of_places {text a behind ahead b : List α}
    (hopening : text = a ++ k.opening.letters ++ behind) (hclosing : text = ahead ++ k.closing.letters ++ b)
    (horder : a.length ≤ ahead.length) (ha : occurrences k.opening.letters a = 0)
    (hahead : occurrences k.closing.letters ahead = 0) (hbehind : occurrences k.opening.letters behind = 0)
    (hb : occurrences k.closing.letters b = 0) : k.Framed text a b := by
  -- the text ahead of the closing marker begins with `a` and the opening marker
  have hpre : a <+: ahead :=
    List.prefix_of_prefix_length_le ⟨_, (List.append_assoc a _ _).symm.trans hopening.symm⟩
      ⟨_, (List.append_assoc ahead _ _).symm.trans hclosing.symm⟩ horder
  obtain ⟨y, rfl⟩ := hpre
  have hrest : k.opening.letters ++ behind = y ++ (k.closing.letters ++ b) := by
    have hboth := hopening.symm.trans hclosing
    simpa only [List.append_assoc, List.append_cancel_left_eq] using hboth
  have hstarts : k.opening.letters <+: y ++ (k.closing.letters ++ b) := ⟨behind, hrest⟩
  have hy : y ≠ [] := by
    rintro rfl
    exact not_prefix_append k.apart b hstarts
  rw [prefix_append_iff k.opening.letters_ne_nil hy (safe_closing b).1] at hstarts
  obtain ⟨inner, rfl⟩ := hstarts
  have hbehind' : behind = inner ++ (k.closing.letters ++ b) := by
    simpa only [List.append_assoc, List.append_cancel_left_eq] using hrest
  rw [hbehind', occurrences_append (safe_closing b).1, opening_behind_closing] at hbehind
  rw [occurrences_append (safe_opening inner).2, closing_behind_opening] at hahead
  refine ⟨inner, ?_, ⟨ha, by omega⟩, ⟨by omega, by omega⟩, ⟨by omega, hb⟩⟩
  rw [hclosing]
  simp only [List.append_assoc]

end Brackets

end Words

end EventDriven
