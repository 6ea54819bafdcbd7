import ForgeRuntime.Lib.Pattern

/-!
# What a search pattern matches

The matcher of `Pattern` lists the ways of matching at a position.  Here is what it computes: the texts that match
between what stands before and what stands behind, and the pieces into which a global replacement cuts a text.

* `mem_run` — **the matcher finds exactly the texts that match**;
* `mem_occurrences` — all matches in a text, wherever they begin and however they are found;
* `replaceFrom_eq`, `scan_spec` — a replacement copies what does not match, and rewrites the rest;
* `Scan.hit_longest` — with a greedy pattern, what is rewritten is as long as it can be;
* `exists_copied` — a text in what was written lies between the rewritten pieces.
-/

namespace EventDriven

namespace Pattern

/-- The character before what stands behind a text. -/
def lastChar (prev : Option Char) (text : List Char) : Option Char := text.getLast?.or prev

@[simp] theorem lastChar_nil (prev : Option Char) : lastChar prev [] = prev := rfl

theorem lastChar_append (prev : Option Char) (a b : List Char) :
    lastChar prev (a ++ b) = lastChar (lastChar prev a) b := by
  rw [lastChar, List.getLast?_append, lastChar, lastChar, Option.or_assoc]

@[simp] theorem lastChar_concat (prev : Option Char) (a : List Char) (c : Char) :
    lastChar prev (a ++ [c]) = some c := by
  simp [lastChar]

@[simp] theorem lastChar_singleton (prev : Option Char) (c : Char) : lastChar prev [c] = some c := rfl

theorem lastChar_cons (prev : Option Char) (c : Char) (text : List Char) :
    lastChar prev (c :: text) = lastChar (some c) text := lastChar_append prev [c] text

/-! ### Matches -/

/-- The text matches, between the character before it and the text behind it. -/
def Matches : Pattern → Option Char → List Char → List Char → Prop
  | one p, _, text, _ => ∃ c, text = [c] ∧ p c = true
  | seq first second, prev, text, behind =>
      ∃ a b, text = a ++ b ∧ Matches first prev a (b ++ behind) ∧ Matches second (lastChar prev a) b behind
  | alt left right, prev, text, behind => Matches left prev text behind ∨ Matches right prev text behind
  | opt r, prev, text, behind => Matches r prev text behind ∨ text = []
  | atLeast n p, _, text, _ => n ≤ text.length ∧ ∀ c ∈ text, p c = true
  | wordBoundary, prev, text, behind => text = [] ∧ isWordAt prev ≠ isWordAt behind.head?

theorem matches_literal {s : String} {prev : Option Char} {m behind : List Char} :
    Matches (literal s) prev m behind ↔ m = s.toList := by
  unfold literal
  induction s.toList generalizing prev m with
  | nil =>
      rw [List.foldr_nil]
      constructor
      · rintro ⟨-, hall⟩
        exact List.eq_nil_iff_forall_not_mem.mpr fun c hc => absurd (hall c hc) Bool.false_ne_true
      · rintro rfl
        exact ⟨Nat.zero_le _, nofun⟩
  | cons c rest ih =>
      rw [List.foldr_cons]
      constructor
      · rintro ⟨_, b, rfl, ⟨d, rfl, hd⟩, hb⟩
        rw [ih.mp hb, beq_iff_eq.mp hd]
        rfl
      · rintro rfl
        exact ⟨[c], rest, rfl, ⟨c, rfl, beq_self_eq_true c⟩, ih.mpr rfl⟩

theorem mem_eat {p : Char → Bool} {n : Nat} {prev last : Option Char} {text behind : List Char} :
    (last, behind) ∈ eat p n prev text ↔
      ∃ m, text = m ++ behind ∧ n ≤ m.length ∧ (∀ c ∈ m, p c = true) ∧ last = lastChar prev m := by
  induction text generalizing n prev with
  | nil =>
      rw [eat]
      constructor
      · intro h
        split at h
        · rename_i hn
          obtain ⟨rfl, rfl⟩ := Prod.mk.inj (List.mem_singleton.mp h)
          exact ⟨[], rfl, Nat.le_of_eq hn, nofun, rfl⟩
        · cases h
      · rintro ⟨m, hm, hn, -, rfl⟩
        obtain ⟨rfl, rfl⟩ := List.append_eq_nil_iff.mp hm.symm
        have hzero : n = 0 := Nat.le_zero.mp hn
        simp [hzero]
  | cons c rest ih =>
      rw [eat, List.mem_append]
      constructor
      · rintro (h | h)
        · split at h
          · rename_i hc
            obtain ⟨m, rfl, hn, hall, rfl⟩ := ih.mp h
            refine ⟨c :: m, rfl, ?_, List.forall_mem_cons.mpr ⟨hc, hall⟩, (lastChar_cons prev c m).symm⟩
            rw [List.length_cons]
            omega
          · cases h
        · split at h
          · rename_i hn
            obtain ⟨rfl, rfl⟩ := Prod.mk.inj (List.mem_singleton.mp h)
            exact ⟨[], rfl, Nat.le_of_eq hn, nofun, rfl⟩
          · cases h
      · rintro ⟨m, hm, hn, hall, rfl⟩
        cases m with
        | nil =>
            have hzero : n = 0 := Nat.le_zero.mp hn
            rw [List.nil_append] at hm
            exact .inr (by simp [hzero, hm])
        | cons d m =>
            obtain ⟨rfl, rfl⟩ := List.cons.inj hm
            obtain ⟨hc, hall⟩ := List.forall_mem_cons.mp hall
            rw [if_pos hc]
            refine .inl (ih.mpr ⟨m, rfl, ?_, hall, lastChar_cons prev c m⟩)
            rw [List.length_cons] at hn
            omega

/-- **The matcher** finds exactly the texts that match. -/
theorem mem_run {r : Pattern} {prev last : Option Char} {text behind : List Char} :
    (last, behind) ∈ run r (prev, text) ↔
      ∃ m, text = m ++ behind ∧ Matches r prev m behind ∧ last = lastChar prev m := by
  induction r generalizing prev last text behind with
  | one p =>
      cases text with
      | nil => simp [run, Matches]
      | cons c rest =>
          rw [run]
          constructor
          · intro h
            split at h
            · rename_i hc
              obtain ⟨rfl, rfl⟩ := Prod.mk.inj (List.mem_singleton.mp h)
              exact ⟨[c], rfl, ⟨c, rfl, hc⟩, rfl⟩
            · cases h
          · rintro ⟨m, hm, ⟨d, rfl, hd⟩, rfl⟩
            obtain ⟨rfl, rfl⟩ := List.cons.inj hm
            simp [hd]
  | seq first second ihf ihs =>
      simp only [run, List.mem_flatMap, Prod.exists, ihf, ihs]
      constructor
      · rintro ⟨_, _, ⟨a, rfl, ha, rfl⟩, b, rfl, hb, rfl⟩
        exact ⟨a ++ b, (List.append_assoc a b behind).symm, ⟨a, b, rfl, ha, hb⟩, (lastChar_append prev a b).symm⟩
      · rintro ⟨_, rfl, ⟨a, b, rfl, ha, hb⟩, rfl⟩
        exact ⟨_, _, ⟨a, List.append_assoc a b behind, ha, rfl⟩, b, rfl, hb, lastChar_append prev a b⟩
  | alt left right ihl ihr =>
      simp only [run, List.mem_append, ihl, ihr, Matches]
      constructor
      · rintro (⟨m, hm, h, hl⟩ | ⟨m, hm, h, hl⟩)
        · exact ⟨m, hm, .inl h, hl⟩
        · exact ⟨m, hm, .inr h, hl⟩
      · rintro ⟨m, hm, h | h, hl⟩
        · exact .inl ⟨m, hm, h, hl⟩
        · exact .inr ⟨m, hm, h, hl⟩
  | opt r ih =>
      simp only [run, List.mem_append, ih, List.mem_singleton, Prod.mk.injEq, Matches]
      constructor
      · rintro (⟨m, hm, h, hl⟩ | ⟨rfl, rfl⟩)
        · exact ⟨m, hm, .inl h, hl⟩
        · exact ⟨[], rfl, .inr rfl, rfl⟩
      · rintro ⟨m, hm, h | rfl, hl⟩
        · exact .inl ⟨m, hm, h, hl⟩
        · exact .inr ⟨hl, hm.symm⟩
  | atLeast n p =>
      rw [run, mem_eat]
      simp only [Matches, and_assoc]
  | wordBoundary =>
      rw [run]
      constructor
      · intro h
        split at h
        · rename_i hb
          obtain ⟨rfl, rfl⟩ := Prod.mk.inj (List.mem_singleton.mp h)
          exact ⟨[], rfl, ⟨rfl, by simpa using hb⟩, rfl⟩
        · cases h
      · rintro ⟨m, rfl, ⟨rfl, hb⟩, rfl⟩
        rw [if_pos (by simpa using hb)]
        exact List.mem_singleton_self _

/-! ### Matches in a text -/

/-- The texts that match at a position. -/
def matchesAt (r : Pattern) (prev : Option Char) (text : List Char) : List (List Char) :=
  (run r (prev, text)).map fun pos => text.take (text.length - pos.2.length)

def occurrencesFrom (r : Pattern) (prev : Option Char) : List Char → List (List Char)
  | [] => matchesAt r prev []
  | c :: rest => matchesAt r prev (c :: rest) ++ occurrencesFrom r (some c) rest

/-- All matches in a text. -/
def occurrences (r : Pattern) (text : List Char) : List (List Char) := occurrencesFrom r none text

theorem mem_matchesAt {r : Pattern} {prev : Option Char} {text m : List Char} :
    m ∈ matchesAt r prev text ↔ ∃ behind, text = m ++ behind ∧ Matches r prev m behind := by
  simp only [matchesAt, List.mem_map, Prod.exists, mem_run]
  constructor
  · rintro ⟨_, behind, ⟨m', rfl, h, -⟩, rfl⟩
    refine ⟨behind, ?_, ?_⟩
    · simp
    · simpa using h
  · rintro ⟨behind, rfl, h⟩
    exact ⟨_, behind, ⟨m, rfl, h, rfl⟩, by simp⟩

theorem mem_occurrencesFrom {r : Pattern} {prev : Option Char} {text m : List Char} :
    m ∈ occurrencesFrom r prev text ↔
      ∃ before behind, text = before ++ m ++ behind ∧ Matches r (lastChar prev before) m behind := by
  induction text generalizing prev with
  | nil =>
      rw [occurrencesFrom, mem_matchesAt]
      constructor
      · rintro ⟨behind, heq, h⟩
        exact ⟨[], behind, heq, h⟩
      · rintro ⟨before, behind, heq, h⟩
        obtain ⟨hfront, rfl⟩ := List.append_eq_nil_iff.mp heq.symm
        obtain ⟨rfl, rfl⟩ := List.append_eq_nil_iff.mp hfront
        exact ⟨[], rfl, h⟩
  | cons c rest ih =>
      rw [occurrencesFrom, List.mem_append, mem_matchesAt, ih]
      constructor
      · rintro (⟨behind, heq, h⟩ | ⟨before, behind, rfl, h⟩)
        · exact ⟨[], behind, heq, h⟩
        · exact ⟨c :: before, behind, rfl, by rwa [lastChar_cons]⟩
      · rintro ⟨before, behind, heq, h⟩
        cases before with
        | nil => exact .inl ⟨behind, heq, h⟩
        | cons d before =>
            obtain ⟨rfl, rfl⟩ := List.cons.inj heq
            exact .inr ⟨before, behind, rfl, by rwa [lastChar_cons] at h⟩

theorem mem_occurrences {r : Pattern} {text m : List Char} :
    m ∈ occurrences r text ↔
      ∃ before behind, text = before ++ m ++ behind ∧ Matches r (lastChar none before) m behind :=
  mem_occurrencesFrom

/-! ### The pieces of a replacement -/

/-- A piece of a text that a replacement goes through: a character that is copied, or a match. -/
inductive Piece where
  | keep (c : Char)
  | hit (m : List Char)
deriving DecidableEq, Repr

/-- What stands there. -/
def Piece.source : Piece → List Char
  | keep c => [c]
  | hit m => m

/-- What is written there. -/
def Piece.render (f : List Char → List Char) : Piece → List Char
  | keep c => [c]
  | hit m => f m

def scanFrom (r : Pattern) : Nat → Option Char → List Char → List Piece
  | 0, _, rest => rest.map .keep
  | _ + 1, _, [] => []
  | n + 1, prev, c :: rest =>
      match (run r (prev, c :: rest)).find? fun pos => pos.2.length < (c :: rest).length with
      | some (before, behind) =>
          .hit ((c :: rest).take ((c :: rest).length - behind.length)) :: scanFrom r n before behind
      | none => .keep c :: scanFrom r n (some c) rest

/-- The pieces into which a global replacement cuts a text. -/
def scan (r : Pattern) (text : List Char) : List Piece := scanFrom r text.length none text

theorem replaceFrom_eq (r : Pattern) (f : List Char → List Char) (n : Nat) (prev : Option Char) (text : List Char) :
    replaceFrom r f n prev text = (scanFrom r n prev text).flatMap (Piece.render f) := by
  induction n generalizing prev text with
  | zero =>
      rw [replaceFrom, scanFrom, List.flatMap_map]
      simp [Piece.render]
  | succ n ih =>
      cases text with
      | nil => rfl
      | cons c rest =>
          rw [replaceFrom, scanFrom]
          cases (r.run (prev, c :: rest)).find? fun pos => decide (pos.2.length < (c :: rest).length) with
          | some pos => simp only [List.flatMap_cons, Piece.render, ih]
          | none => simp only [List.flatMap_cons, Piece.render, ih, List.singleton_append]

/-- **A scan**: what is copied begins no match, and a match is the first one that the matcher finds. -/
inductive Scan (r : Pattern) : Option Char → List Char → List Piece → Prop
  | done {prev : Option Char} : Scan r prev [] []
  | keep {prev : Option Char} {c : Char} {rest : List Char} {pieces : List Piece}
      (hnone : ∀ m behind, c :: rest = m ++ behind → m ≠ [] → ¬ Matches r prev m behind)
      (hrest : Scan r (some c) rest pieces) : Scan r prev (c :: rest) (.keep c :: pieces)
  | hit {prev : Option Char} {m behind : List Char} {pieces : List Piece} (hne : m ≠ [])
      (hfirst : (run r (prev, m ++ behind)).find? (fun pos => pos.2.length < (m ++ behind).length) =
        some (lastChar prev m, behind))
      (hrest : Scan r (lastChar prev m) behind pieces) : Scan r prev (m ++ behind) (.hit m :: pieces)

theorem scan_scanFrom (r : Pattern) {n : Nat} (prev : Option Char) {text : List Char} (h : text.length ≤ n) :
    Scan r prev text (scanFrom r n prev text) := by
  induction n generalizing prev text with
  | zero =>
      obtain rfl := List.eq_nil_of_length_eq_zero (Nat.le_zero.mp h)
      exact .done
  | succ n ih =>
      cases text with
      | nil => exact .done
      | cons c rest =>
          rw [List.length_cons] at h
          rw [scanFrom]
          split
          · rename_i before behind hfind
            have hshort : behind.length < (c :: rest).length := by simpa using List.find?_some hfind
            obtain ⟨m, hm, -, rfl⟩ := mem_run.mp (List.mem_of_find?_eq_some hfind)
            have htake : (c :: rest).take ((c :: rest).length - behind.length) = m := by
              rw [hm]
              simp
            have hne : m ≠ [] := by
              rintro rfl
              rw [hm] at hshort
              exact Nat.lt_irrefl _ hshort
            rw [htake]
            rw [hm] at hfind ⊢
            refine .hit hne hfind (ih _ ?_)
            rw [List.length_cons] at hshort
            omega
          · rename_i hfind
            refine .keep (fun m behind hm hne hmatch => ?_) (ih _ (by omega))
            have hmem := mem_run.mpr ⟨m, hm, hmatch, rfl⟩
            have hnot := List.find?_eq_none.mp hfind _ hmem
            apply hnot
            rw [hm]
            have hpos := List.length_pos_of_ne_nil hne
            simp only [decide_eq_true_eq, List.length_append]
            omega

theorem scan_spec (r : Pattern) (text : List Char) : Scan r none text (scan r text) :=
  scan_scanFrom r none (Nat.le_refl _)

namespace Scan

variable {r : Pattern} {prev : Option Char} {text : List Char} {pieces : List Piece}

theorem source_eq (h : Scan r prev text pieces) : pieces.flatMap Piece.source = text := by
  induction h with
  | done => rfl
  | keep hnone hrest ih => rw [List.flatMap_cons, ih, Piece.source, List.singleton_append]
  | hit hne hfirst hrest ih => rw [List.flatMap_cons, ih, Piece.source]

/-- A scan goes on behind its first pieces. -/
theorem behind {front : List Piece} (h : Scan r prev text (front ++ pieces)) :
    Scan r (lastChar prev (front.flatMap Piece.source)) (pieces.flatMap Piece.source) pieces := by
  induction front generalizing prev text with
  | nil =>
      rw [List.nil_append] at h
      rw [h.source_eq]
      exact h
  | cons piece front ih =>
      rw [List.flatMap_cons, lastChar_append]
      cases h with
      | keep hnone hrest => exact ih hrest
      | hit hne hfirst hrest => exact ih hrest

/-- Where a character is copied, nothing matches. -/
theorem not_matches {c : Char} (h : Scan r prev text (.keep c :: pieces)) {m behind : List Char}
    (hm : text = m ++ behind) (hne : m ≠ []) : ¬ Matches r prev m behind := by
  cases h with
  | keep hnone hrest => exact hnone m behind hm hne

theorem hit_matches {m : List Char} (h : Scan r prev text (.hit m :: pieces)) :
    Matches r prev m (pieces.flatMap Piece.source) := by
  cases h with
  | hit hne hfirst hrest =>
      obtain ⟨m', hm', hmatch, -⟩ := mem_run.mp (List.mem_of_find?_eq_some hfirst)
      rw [hrest.source_eq]
      rwa [List.append_cancel_right hm']

end Scan

/-! ### Longest matches -/

/-- There is one way of matching at most. -/
def Decisive (r : Pattern) : Prop := ∀ pos, (run r pos).length ≤ 1

/-- Longer matches are tried first. -/
def Greedy (r : Pattern) : Prop := ∀ pos, (run r pos).Pairwise fun a b => a.2.length ≤ b.2.length

theorem Decisive.greedy {r : Pattern} (h : Decisive r) : Greedy r := by
  intro pos
  have hlength := h pos
  rcases hrun : run r pos with _ | ⟨a, _ | ⟨b, rest⟩⟩
  · exact .nil
  · exact List.pairwise_singleton _ _
  · rw [hrun, List.length_cons, List.length_cons] at hlength
    omega

theorem decisive_one (p : Char → Bool) : Decisive (one p) := by
  rintro ⟨prev, _ | ⟨c, rest⟩⟩
  · exact Nat.zero_le _
  · rw [run]
    split
    · exact Nat.le_refl _
    · exact Nat.zero_le _

theorem run_seq (first second : Pattern) (pos : Position) :
    run (seq first second) pos = (run first pos).flatMap (run second) := by
  rw [run]

theorem decisive_seq {first second : Pattern} (hf : Decisive first) (hs : Decisive second) :
    Decisive (seq first second) := by
  intro pos
  have hlength := hf pos
  rw [run_seq]
  rcases hrun : run first pos with _ | ⟨a, _ | ⟨b, rest⟩⟩
  · exact Nat.zero_le _
  · rw [List.flatMap_singleton]
    exact hs a
  · rw [hrun, List.length_cons, List.length_cons] at hlength
    omega

/-- Two alternatives of which one fails. -/
theorem decisive_alt {left right : Pattern} (hl : Decisive left) (hr : Decisive right)
    (h : ∀ pos, run left pos = [] ∨ run right pos = []) : Decisive (alt left right) := by
  rintro pos
  rw [run]
  rcases h pos with hnil | hnil
  · rw [hnil, List.nil_append]
    exact hr pos
  · rw [hnil, List.append_nil]
    exact hl pos

theorem run_nothing (pos : Position) : run (atLeast 0 fun _ => false) pos = [pos] := by
  obtain ⟨prev, _ | ⟨c, rest⟩⟩ := pos
  · rfl
  · simp [run, eat]

theorem decisive_literal (s : String) : Decisive (literal s) := by
  unfold literal
  induction s.toList with
  | nil =>
      intro pos
      rw [List.foldr_nil, run_nothing]
      exact Nat.le_refl 1
  | cons c rest ih => exact decisive_seq (decisive_one _) ih

theorem greedy_seq {first second : Pattern} (hf : Decisive first) (hs : Greedy second) :
    Greedy (seq first second) := by
  intro pos
  have hlength := hf pos
  rw [run_seq]
  rcases hrun : run first pos with _ | ⟨a, _ | ⟨b, rest⟩⟩
  · exact .nil
  · rw [List.flatMap_singleton]
    exact hs a
  · rw [hrun, List.length_cons, List.length_cons] at hlength
    omega

theorem length_of_mem_eat {p : Char → Bool} {n : Nat} {prev : Option Char} {text : List Char} {pos : Position}
    (h : pos ∈ eat p n prev text) : pos.2.length ≤ text.length := by
  obtain ⟨m, rfl, -⟩ := mem_eat.mp h
  rw [List.length_append]
  omega

theorem greedy_atLeast (n : Nat) (p : Char → Bool) : Greedy (atLeast n p) := by
  rintro ⟨prev, text⟩
  rw [run]
  induction text generalizing n prev with
  | nil =>
      rw [eat]
      split
      · exact List.pairwise_singleton _ _
      · exact .nil
  | cons c rest ih =>
      rw [eat, List.pairwise_append]
      refine ⟨?_, ?_, ?_⟩
      · split
        · exact ih _ _
        · exact .nil
      · split
        · exact List.pairwise_singleton _ _
        · exact .nil
      · intro a ha b hb
        split at ha
        · split at hb
          · obtain rfl := List.mem_singleton.mp hb
            have hle := length_of_mem_eat ha
            show a.2.length ≤ rest.length + 1
            omega
          · cases hb
        · cases ha

theorem mem_run_one {p : Char → Bool} {pos pos' : Position} (h : pos' ∈ run (one p) pos) :
    pos'.2.length + 1 = pos.2.length := by
  obtain ⟨prev, _ | ⟨c, rest⟩⟩ := pos
  · cases h
  · rw [run] at h
    split at h
    · obtain rfl := List.mem_singleton.mp h
      rfl
    · cases h

/-- One more character keeps the order. -/
theorem greedy_seq_one {first : Pattern} (hf : Greedy first) (p : Char → Bool) : Greedy (seq first (one p)) := by
  intro pos
  rw [run_seq]
  have hsorted := hf pos
  generalize run first pos = found at hsorted
  induction found with
  | nil => exact .nil
  | cons a rest ih =>
      obtain ⟨ha, hrest⟩ := List.pairwise_cons.mp hsorted
      rw [List.flatMap_cons, List.pairwise_append]
      refine ⟨(decisive_one p).greedy a, ih hrest, ?_⟩
      intro b hb c hc
      obtain ⟨d, hd, hc⟩ := List.mem_flatMap.mp hc
      have hlong := ha d hd
      have hb' := mem_run_one hb
      have hc' := mem_run_one hc
      omega

/-- An option that excludes going on without it. -/
theorem greedy_opt_seq {r second : Pattern} (hr : Decisive r) (hs : Greedy second)
    (h : ∀ pos, run r pos = [] ∨ run second pos = []) : Greedy (seq (opt r) second) := by
  intro pos
  have hrun : run (seq (opt r) second) pos = run (seq r second) pos ++ run second pos := by
    simp [run]
  rw [hrun]
  rcases h pos with hnil | hnil
  · have hempty : run (seq r second) pos = [] := by
      rw [run_seq, hnil]
      rfl
    rw [hempty, List.nil_append]
    exact hs pos
  · rw [hnil, List.append_nil]
    exact greedy_seq hr hs pos

/-- **A match of a replacement** is as long as any at its place. -/
theorem Scan.hit_longest {r : Pattern} (hr : Greedy r) {prev : Option Char} {text m : List Char}
    {pieces : List Piece} (h : Scan r prev text (.hit m :: pieces)) {other behind : List Char}
    (hother : text = other ++ behind) (hmatch : Matches r prev other behind) : other.length ≤ m.length := by
  cases h with
  | @hit _ _ rest _ hne hfirst hrest =>
      have hmem := mem_run.mpr ⟨other, hother, hmatch, rfl⟩
      have hsorted := hr (prev, m ++ rest)
      have hlengths := congrArg List.length hother
      rw [List.length_append, List.length_append] at hlengths
      obtain ⟨hshort, front, back, hlist, hfront⟩ := List.find?_eq_some_iff_append.mp hfirst
      rw [hlist] at hmem hsorted
      have hpos := List.length_pos_of_ne_nil hne
      rcases List.mem_append.mp hmem with hbefore | hafter
      · have hnot := hfront _ hbefore
        simp only [List.length_append, Bool.not_eq_true', decide_eq_false_iff_not] at hnot
        omega
      · rcases List.mem_cons.mp hafter with heq | hback
        · have hbehind := (Prod.mk.inj heq).2
          rw [hbehind] at hlengths
          omega
        · have hle := (List.pairwise_cons.mp (List.pairwise_append.mp hsorted).2.1).1 _ hback
          simp only at hle
          omega

/-! ### Texts in what was written -/

section

variable {g : Piece → List Char} (hkeep : ∀ c, g (.keep c) = [c])

include hkeep

/-- **A cut** that is not inside a piece. -/
theorem exists_split {pieces : List Piece} {x t : List Char} (h : pieces.flatMap g = x ++ t)
    (hcut : ∀ m, .hit m ∈ pieces → ∀ c ∈ t.head?, c ∉ g (.hit m)) :
    ∃ front back, pieces = front ++ back ∧ front.flatMap g = x ∧ back.flatMap g = t := by
  induction pieces generalizing x with
  | nil =>
      obtain ⟨rfl, rfl⟩ := List.append_eq_nil_iff.mp h.symm
      exact ⟨[], [], rfl, rfl, rfl⟩
  | cons piece pieces ih =>
      rw [List.flatMap_cons] at h
      have hcut' : ∀ m, .hit m ∈ pieces → ∀ c ∈ t.head?, c ∉ g (.hit m) :=
        fun m hm => hcut m (List.mem_cons_of_mem _ hm)
      rcases List.append_eq_append_iff.mp h with ⟨rest, rfl, hrest⟩ | ⟨rest, hpiece, rfl⟩
      · obtain ⟨front, back, rfl, rfl, hback⟩ := ih hrest hcut'
        exact ⟨piece :: front, back, rfl, by rw [List.flatMap_cons], hback⟩
      · cases rest with
        | nil =>
            rw [List.append_nil] at hpiece
            exact ⟨[piece], pieces, rfl, by simpa using hpiece, rfl⟩
        | cons d rest =>
            cases piece with
            | keep c =>
                rw [hkeep] at hpiece
                cases x with
                | nil =>
                    refine ⟨[], .keep c :: pieces, rfl, rfl, ?_⟩
                    rw [List.flatMap_cons, hkeep, hpiece, List.nil_append]
                | cons e x =>
                    have hlength := congrArg List.length hpiece
                    simp only [List.length_append, List.length_cons, List.length_nil] at hlength
                    omega
            | hit m =>
                cases x with
                | nil =>
                    refine ⟨[], .hit m :: pieces, rfl, rfl, ?_⟩
                    rw [List.flatMap_cons, hpiece, List.nil_append]
                | cons e x =>
                    refine absurd ?_ (hcut m List.mem_cons_self d rfl)
                    rw [hpiece]
                    exact List.mem_append_right _ List.mem_cons_self

/-- A text without characters of the matches is copied. -/
theorem exists_kept {pieces : List Piece} {w y : List Char} (h : pieces.flatMap g = w ++ y)
    (hw : ∀ m, .hit m ∈ pieces → g (.hit m) ≠ [] ∧ ∀ c ∈ w, c ∉ g (.hit m)) :
    ∃ back, pieces = w.map .keep ++ back ∧ back.flatMap g = y := by
  induction w generalizing pieces with
  | nil => exact ⟨pieces, rfl, h⟩
  | cons c w ih =>
      cases pieces with
      | nil => cases h
      | cons piece pieces =>
          rw [List.flatMap_cons] at h
          cases piece with
          | keep d =>
              rw [hkeep] at h
              obtain ⟨rfl, hrest⟩ := List.cons.inj h
              obtain ⟨back, rfl, hback⟩ := ih hrest fun m hm =>
                ⟨(hw m (List.mem_cons_of_mem _ hm)).1, fun e he =>
                  (hw m (List.mem_cons_of_mem _ hm)).2 e (List.mem_cons_of_mem _ he)⟩
              exact ⟨back, rfl, hback⟩
          | hit m =>
              obtain ⟨hne, hchars⟩ := hw m List.mem_cons_self
              obtain ⟨d, rest, hd⟩ := List.exists_cons_of_ne_nil hne
              rw [hd] at h
              obtain ⟨rfl, -⟩ := List.cons.inj h
              refine absurd ?_ (hchars d List.mem_cons_self)
              rw [hd]
              exact List.mem_cons_self

/-- **A text without characters of the matches** lies between the matches. -/
theorem exists_copied {pieces : List Piece} {x w y : List Char} (hne : w ≠ []) (h : pieces.flatMap g = x ++ w ++ y)
    (hw : ∀ m, .hit m ∈ pieces → g (.hit m) ≠ [] ∧ ∀ c ∈ w, c ∉ g (.hit m)) :
    ∃ front back, pieces = front ++ w.map .keep ++ back ∧ front.flatMap g = x ∧ back.flatMap g = y := by
  obtain ⟨c, w', rfl⟩ := List.exists_cons_of_ne_nil hne
  rw [List.append_assoc] at h
  have hcut : ∀ m, .hit m ∈ pieces → ∀ d ∈ ((c :: w') ++ y).head?, d ∉ g (.hit m) := by
    rintro m hm d hd
    obtain rfl : c = d := by simpa using hd
    exact (hw m hm).2 c List.mem_cons_self
  obtain ⟨front, back, rfl, hx, hback⟩ := exists_split hkeep h hcut
  obtain ⟨rest, rfl, hy⟩ := exists_kept hkeep hback fun m hm => hw m (List.mem_append_right _ hm)
  exact ⟨front, rest, (List.append_assoc _ _ _).symm, hx, hy⟩

end

end Pattern

end EventDriven
