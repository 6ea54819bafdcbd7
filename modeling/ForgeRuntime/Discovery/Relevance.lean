import ForgeRuntime.Lib.OrderedMap

/-!
# The relevance gate

`evaluateCandidateRelevance` decides whether the code base files that a discovery found are related enough
to start a Deep Knowledge step: each must match by path and by content, and several must share a seed.

* `mem_sharedSeeds` — deleting seeds round by round leaves the seeds that all candidates matched;
* `relevance_gate` — when the gate opens, whatever the order of the candidates.
-/

namespace ForgeRuntime

open EventDriven

/-- The part of a code base candidate that is read. -/
structure CodeBaseCandidate where
  matches_ : List String
  matchedSeeds : Option (List String)
  relativePath : String
deriving DecidableEq, Repr

inductive RelevanceDecision where
  | needsMoreClues
  | proceedDeep
deriving DecidableEq, Repr

structure CandidateRelevanceGateResult where
  decision : RelevanceDecision
  reason : String
deriving DecidableEq, Repr

/-- A candidate that matched by path and by content. -/
def matchesPathAndContent (candidate : CodeBaseCandidate) : Bool :=
  candidate.matches_.contains "path" && candidate.matches_.contains "content"

/-- One round of the loop over the other candidates.  The set is gone through while seeds are deleted from it;
only the seed that is looked at is deleted, so each of them is looked at once. -/
def deleteUnmatched (sharedSeeds : OrderedSet String) (candidate : CodeBaseCandidate) : OrderedSet String :=
  sharedSeeds.elems.foldl (fun kept seed =>
    if seed ∈ candidate.matchedSeeds.getD [] then kept else kept.erase seed) sharedSeeds

/-- The seeds of the first candidate that are left after all other ones. -/
def sharedSeeds : List CodeBaseCandidate → OrderedSet String
  | [] => .empty
  | first :: others => others.foldl deleteUnmatched (OrderedSet.ofList (first.matchedSeeds.getD []))

def evaluateCandidateRelevance (candidates : List CodeBaseCandidate) : CandidateRelevanceGateResult :=
  if candidates = [] ∨ ∃ candidate ∈ candidates, matchesPathAndContent candidate = false then
    { decision := .needsMoreClues
      reason := "候選相關性不足；目前沒有同時命中 path 與 content 的 code_base 候選。" }
  else if candidates.length > 1 ∧ (sharedSeeds candidates).elems.length = 0 then
    { decision := .needsMoreClues
      reason := "候選相關性不足；候選群沒有共同 discovery seed，無法安全進入 deep knowledge。" }
  else
    { decision := .proceedDeep
      reason := "候選相關性足夠；將以 " ++ ((candidates.head?.map (·.relativePath)).getD "unknown") ++
        " 作為 deep knowledge 起點。" }

/-! ### The shared seeds -/

/-- A round keeps what the candidate matched: the deletions made so far are those of the seeds gone through. -/
theorem mem_deleteUnmatched {sharedSeeds : OrderedSet String} {candidate : CodeBaseCandidate} {seed : String} :
    seed ∈ deleteUnmatched sharedSeeds candidate ↔
      seed ∈ sharedSeeds ∧ seed ∈ candidate.matchedSeeds.getD [] := by
  have hfold : ∀ (gone : List String) (kept : OrderedSet String),
      seed ∈ gone.foldl (fun kept seed =>
        if seed ∈ candidate.matchedSeeds.getD [] then kept else kept.erase seed) kept ↔
      seed ∈ kept ∧ (seed ∈ gone → seed ∈ candidate.matchedSeeds.getD []) := by
    intro gone
    induction gone with
    | nil => intro kept; simp
    | cons other gone ih =>
        intro kept
        rw [List.foldl_cons, ih]
        by_cases hmatched : other ∈ candidate.matchedSeeds.getD []
        · rw [if_pos hmatched]
          constructor
          · rintro ⟨hkept, hgone⟩
            refine ⟨hkept, fun hmem => ?_⟩
            rcases List.mem_cons.mp hmem with rfl | hmem
            · exact hmatched
            · exact hgone hmem
          · rintro ⟨hkept, hgone⟩
            exact ⟨hkept, fun hmem => hgone (List.mem_cons_of_mem _ hmem)⟩
        · rw [if_neg hmatched, OrderedSet.mem_erase]
          constructor
          · rintro ⟨⟨hne, hkept⟩, hgone⟩
            exact ⟨hkept, fun hmem => hgone ((List.mem_cons.mp hmem).resolve_left hne)⟩
          · rintro ⟨hkept, hgone⟩
            refine ⟨⟨?_, hkept⟩, fun hmem => hgone (List.mem_cons_of_mem _ hmem)⟩
            rintro rfl
            exact hmatched (hgone List.mem_cons_self)
  rw [deleteUnmatched, hfold]
  constructor
  · rintro ⟨hkept, hgone⟩
    exact ⟨hkept, hgone hkept⟩
  · rintro ⟨hkept, hmatched⟩
    exact ⟨hkept, fun _ => hmatched⟩

/-- What is left after all rounds are the seeds that every candidate matched. -/
theorem mem_sharedSeeds {candidates : List CodeBaseCandidate} (hne : candidates ≠ []) {seed : String} :
    seed ∈ sharedSeeds candidates ↔ ∀ candidate ∈ candidates, seed ∈ candidate.matchedSeeds.getD [] := by
  obtain ⟨first, others, rfl⟩ := List.exists_cons_of_ne_nil hne
  have hfold : ∀ (others : List CodeBaseCandidate) (seeds : OrderedSet String),
      seed ∈ others.foldl deleteUnmatched seeds ↔
        seed ∈ seeds ∧ ∀ candidate ∈ others, seed ∈ candidate.matchedSeeds.getD [] := by
    intro others
    induction others with
    | nil => intro seeds; simp
    | cons other others ih =>
        intro seeds
        rw [List.foldl_cons, ih, mem_deleteUnmatched, List.forall_mem_cons, and_assoc]
  rw [sharedSeeds, hfold, OrderedSet.mem_ofList, List.forall_mem_cons]

theorem sharedSeeds_empty_iff {candidates : List CodeBaseCandidate} (hne : candidates ≠ []) :
    (sharedSeeds candidates).elems.length = 0 ↔
      ¬ ∃ seed, ∀ candidate ∈ candidates, seed ∈ candidate.matchedSeeds.getD [] := by
  rw [List.length_eq_zero_iff, List.eq_nil_iff_forall_not_mem, not_exists]
  exact forall_congr' fun seed => not_congr (mem_sharedSeeds hne)

/-! ### The decision -/

/-- Enough to go on: every candidate matches by path and by content, and several share a seed. -/
def AreRelated (candidates : List CodeBaseCandidate) : Prop :=
  candidates ≠ [] ∧ (∀ candidate ∈ candidates, matchesPathAndContent candidate = true) ∧
    (candidates.length = 1 ∨ ∃ seed, ∀ candidate ∈ candidates, seed ∈ candidate.matchedSeeds.getD [])

theorem proceedDeep_iff (candidates : List CodeBaseCandidate) :
    (evaluateCandidateRelevance candidates).decision = .proceedDeep ↔ AreRelated candidates := by
  unfold evaluateCandidateRelevance AreRelated
  by_cases hne : candidates = []
  · rw [if_pos (.inl hne)]
    exact iff_of_false nofun fun h => h.1 hne
  by_cases hmatch : ∀ candidate ∈ candidates, matchesPathAndContent candidate = true
  · rw [if_neg]
    · have hlength : 0 < candidates.length := List.length_pos_iff.mpr hne
      have hshared := sharedSeeds_empty_iff hne
      by_cases hgate : candidates.length > 1 ∧ (sharedSeeds candidates).elems.length = 0
      · rw [if_pos hgate]
        refine iff_of_false nofun fun h => ?_
        rcases h.2.2 with hsingle | hseed
        · omega
        · exact hshared.mp hgate.2 hseed
      · rw [if_neg hgate]
        refine iff_of_true rfl ⟨hne, hmatch, ?_⟩
        by_cases hsingle : candidates.length = 1
        · exact .inl hsingle
        · exact .inr (not_not.mp fun hnone => hgate ⟨by omega, hshared.mpr hnone⟩)
    · rintro (hnil | ⟨candidate, hmem, hfalse⟩)
      · exact hne hnil
      · rw [hmatch candidate hmem] at hfalse
        cases hfalse
  · rw [if_pos]
    · exact iff_of_false nofun fun h => hmatch h.2.1
    · refine .inr (not_not.mp fun hnone => hmatch fun candidate hmem => ?_)
      exact (Bool.not_eq_false _).mp fun hfalse => hnone ⟨candidate, hmem, hfalse⟩

theorem areRelated_perm {candidates others : List CodeBaseCandidate} (h : candidates.Perm others) :
    AreRelated candidates ↔ AreRelated others := by
  unfold AreRelated
  rw [h.length_eq]
  simp only [h.mem_iff, ne_eq, ← List.length_eq_zero_iff, h.length_eq]

/-- **The relevance gate** goes by what the candidates have in common, whatever their order, and a further candidate
never opens it. -/
theorem relevance_gate (candidates : List CodeBaseCandidate) :
    ((evaluateCandidateRelevance candidates).decision = .proceedDeep ↔
      candidates ≠ [] ∧ (∀ candidate ∈ candidates, "path" ∈ candidate.matches_ ∧ "content" ∈ candidate.matches_) ∧
        (candidates.length = 1 ∨
          ∃ seed, ∀ candidate ∈ candidates, ∃ seeds, candidate.matchedSeeds = some seeds ∧ seed ∈ seeds)) ∧
      (∀ others : List CodeBaseCandidate, candidates.Perm others →
        (evaluateCandidateRelevance others).decision = (evaluateCandidateRelevance candidates).decision) ∧
      ∀ before behind further, candidates = before ++ behind → candidates ≠ [] →
        (evaluateCandidateRelevance candidates).decision = .needsMoreClues →
        (evaluateCandidateRelevance (before ++ further :: behind)).decision = .needsMoreClues := by
  have hdecision : ∀ {a b : RelevanceDecision}, (a = .proceedDeep ↔ b = .proceedDeep) → a = b := by
    intro a b h
    cases a with
    | needsMoreClues =>
        cases b with
        | needsMoreClues => rfl
        | proceedDeep => exact absurd (h.mpr rfl) nofun
    | proceedDeep => exact (h.mp rfl).symm
  refine ⟨?_, fun others hperm => hdecision ?_, fun before behind further hsplit hne hneeds => ?_⟩
  · have hseeds : ∀ (seed : String) (candidate : CodeBaseCandidate), seed ∈ candidate.matchedSeeds.getD [] ↔
        ∃ seeds, candidate.matchedSeeds = some seeds ∧ seed ∈ seeds := by
      intro seed candidate
      cases candidate.matchedSeeds with
      | none => simp
      | some seeds => simp
    rw [proceedDeep_iff, AreRelated]
    simp only [hseeds, matchesPathAndContent, Bool.and_eq_true, List.contains_iff_mem]
  · rw [proceedDeep_iff, proceedDeep_iff]
    exact (areRelated_perm hperm).symm
  · -- what all candidates share with the further one, they share
    refine hdecision ((iff_of_false (fun hproceed => ?_) nofun))
    obtain ⟨-, hmatch, hshared⟩ := (proceedDeep_iff _).mp hproceed
    have hsub : ∀ candidate ∈ candidates, candidate ∈ before ++ further :: behind := by
      intro candidate hmem
      rw [hsplit, List.mem_append] at hmem
      rw [List.mem_append, List.mem_cons]
      exact hmem.imp_right .inr
    have hrelated : AreRelated candidates := by
      refine ⟨hne, fun candidate hmem => hmatch candidate (hsub candidate hmem), ?_⟩
      rcases hshared with hsingle | ⟨seed, hseed⟩
      · have hlength : candidates.length = 0 := by
          rw [List.length_append, List.length_cons] at hsingle
          rw [hsplit, List.length_append]
          omega
        exact absurd (List.length_eq_zero_iff.mp hlength) hne
      · exact .inr ⟨seed, fun candidate hmem => hseed candidate (hsub candidate hmem)⟩
    rw [(proceedDeep_iff _).mpr hrelated] at hneeds
    cases hneeds

/-- Two files without a common seed, in both orders and with a third one between them. -/
theorem relevance_gate_of_strangers :
    let candidate := fun seed path => CodeBaseCandidate.mk ["path", "content"] (some [seed]) path
    (evaluateCandidateRelevance [candidate "login" "b.ts", candidate "cart" "a.ts"]).decision =
        (evaluateCandidateRelevance [candidate "cart" "a.ts", candidate "login" "b.ts"]).decision ∧
      (evaluateCandidateRelevance
        [candidate "cart" "a.ts", candidate "cart" "c.ts", candidate "login" "b.ts"]).decision = .needsMoreClues := by
  intro candidate
  have hgate := relevance_gate [candidate "cart" "a.ts", candidate "login" "b.ts"]
  exact ⟨hgate.2.1 _ (.swap _ _ _),
    hgate.2.2 [candidate "cart" "a.ts"] [candidate "login" "b.ts"] (candidate "cart" "c.ts") rfl nofun
      (by decide)⟩

end ForgeRuntime
