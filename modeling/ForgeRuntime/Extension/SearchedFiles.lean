import ForgeRuntime.Extension.DiscoverySources
import ForgeRuntime.Extension.Moves
import ForgeRuntime.Extension.Runs

/-!
# The files that a Deep search leaves out

A search leaves a file out as reused when the path of a fetched candidate of its kind is the end of the path of
the file, or the other way round.  The candidate of the same file is always one of these; one of another file is,
when a file in a directory has the name of a file further up.

* `reusedCandidate_iff` — what the comparison of the paths comes to;
* `foundItems_finds`, `workflow_holdsFiles` — what a search finds and what was fetched are files of the workspace;
* `forgeDeepSearch_handsOn` — an accepted search hands on what no fetched candidate stands for;
* `search_leaves_out_same_files_iff` — when nothing but the files already there is left out;
* `search_leaves_out_other_file` — a search that leaves out a file nobody has fetched.
-/

namespace ForgeRuntime

open EventDriven EventDriven.Machine EventDriven.Text EventDriven.Turn

variable {host : Host} {files : Files}

/-! ### Paths that overlap -/

/-- The names of one path are the end of those of the other. -/
def PathsOverlap (a b : String) : Prop :=
  pathSegments b <:+ pathSegments a ∨ pathSegments a <:+ pathSegments b

instance (a b : String) : Decidable (PathsOverlap a b) := inferInstanceAs (Decidable (_ ∨ _))

/-- The comparison of two sources is one of the names in them. -/
theorem samePath_iff (a b : String) :
    Extension.samePath (Extension.forwardSlashes a) (Extension.forwardSlashes b) = true ↔ PathsOverlap a b := by
  have hends : ∀ x y : String, Extension.endsWith x ("/" ++ y) = true ↔ '/' :: y.toList <:+ x.toList := by
    intro x y
    rw [Extension.endsWith, List.isSuffixOf_iff_suffix, String.toList_append]
    rfl
  simp only [Extension.samePath, Bool.or_eq_true, beq_iff_eq, hends, PathsOverlap, pathSegments,
    Segments.suffix_segments_iff, String.toList_inj]
  constructor
  · rintro ((hsame | hends) | hends)
    · exact .inl (.inl hsame)
    · exact .inl (.inr hends)
    · exact .inr (.inr hends)
  · rintro ((hsame | hends) | (hsame | hends))
    · exact .inl (.inl hsame)
    · exact .inl (.inr hends)
    · exact .inl (.inl hsame.symm)
    · exact .inr hends

/-- The name of a tree before a path adds nothing to the comparison. -/
theorem overlap_of_prefixed {a tree path : String} (htree : (pathSegments tree).length = 1)
    (h : PathsOverlap a (tree ++ "/" ++ path)) : PathsOverlap a path := by
  obtain ⟨name, hname⟩ := List.length_eq_one_iff.mp htree
  rw [PathsOverlap, pathSegments_slash, hname, List.singleton_append] at h
  rcases h with hsuffix | hsuffix
  · exact .inl ((List.suffix_cons name _).trans hsuffix)
  · rcases List.suffix_cons_iff.mp hsuffix with hsame | hsuffix
    · exact .inl (hsame ▸ List.suffix_cons name _)
    · exact .inr hsuffix

/-! ### Candidates and files -/

/-- The candidate was made of the file with this path below its tree. -/
def GrillEvidenceCandidate.IsFile (candidate : GrillEvidenceCandidate) (path : String) : Prop :=
  path ≠ "" ∧ candidate.source = candidate.kind.text ++ "/" ++ path ∧
    Extension.relativePath? candidate.metadata = some path

instance (candidate : GrillEvidenceCandidate) (path : String) : Decidable (candidate.IsFile path) :=
  inferInstanceAs (Decidable (_ ∧ _))

/-- Every candidate of the snapshot was made of a file. -/
def GrillEvidenceSnapshot.HoldsFiles (snapshot : GrillEvidenceSnapshot) : Prop :=
  ∀ candidate ∈ snapshot.candidates.values, ∃ path, candidate.IsFile path

theorem evidenceCandidate_isFile (host : Host) (kind : GrillEvidenceKind) (found : LightDiscoveryMatch)
    (read : EvidenceReadResult) (hpath : found.relativePath ≠ "") :
    (Extension.evidenceCandidate host kind found read).IsFile found.relativePath :=
  ⟨hpath, rfl, rfl⟩

theorem candidatesOfMatch_isFile {rootDir : String} {seeds : List String} {found : LightDiscoveryMatch}
    (hpath : found.relativePath ≠ "") :
    ∀ candidate ∈ (Extension.candidatesOfMatch host files rootDir seeds found).1,
      candidate.IsFile found.relativePath := by
  intro candidate hmem
  unfold Extension.candidatesOfMatch at hmem
  cases hread : files.readEvidenceSource [rootDir, found.source.kind.text, found.relativePath] with
  | error error =>
      rw [hread] at hmem
      exact absurd hmem List.not_mem_nil
  | ok read =>
      rw [hread] at hmem
      cases hsource : found.source with
      | wiki =>
          rw [hsource] at hmem
          obtain rfl := List.mem_singleton.mp hmem
          exact evidenceCandidate_isFile host _ found read hpath
      | codeBase =>
          rw [hsource] at hmem
          rcases List.mem_cons.mp hmem with rfl | htarget
          · exact evidenceCandidate_isFile host _ found read hpath
          · rw [Option.mem_toList, Extension.targetCandidate?] at htarget
            cases hread : files.readEvidenceSource [rootDir, found.relativePath] with
            | error error =>
                rw [hread] at htarget
                cases htarget
            | ok read =>
                rw [hread] at htarget
                obtain rfl := Option.some.inj htarget
                exact evidenceCandidate_isFile host _ found read hpath

/-- **A snapshot that a discovery builds** holds files. -/
theorem buildGrillCompatibleDiscovery_holdsFiles {rootDir : String} {discovery : LightDiscoveryResult}
    {rawMessage : String} (hpaths : ∀ found ∈ discovery.matches_, found.relativePath ≠ "") :
    ∀ candidate ∈ (Extension.buildGrillCompatibleDiscovery host files rootDir discovery rawMessage).candidates.values,
      ∃ path, candidate.IsFile path := by
  have hbyId : ∀ (evidence : List GrillEvidenceCandidate) (byId : OrderedMap String GrillEvidenceCandidate),
      (∀ candidate ∈ byId.values, ∃ path, candidate.IsFile path) →
      (∀ candidate ∈ evidence, ∃ path, candidate.IsFile path) →
      ∀ candidate ∈ (evidence.foldl (fun byId c => byId.insert c.candidateId c) byId).values,
        ∃ path, candidate.IsFile path := by
    intro evidence
    induction evidence with
    | nil => exact fun byId hheld _ => hheld
    | cons first rest ih =>
        intro byId hheld hall
        refine ih _ (fun candidate hmem => ?_) fun candidate hmem => hall candidate (List.mem_cons_of_mem first hmem)
        rcases OrderedMap.mem_values_insert hmem with hfirst | hmem
        · exact hfirst ▸ hall first List.mem_cons_self
        · exact hheld candidate hmem
  refine hbyId _ _ (fun candidate hmem => absurd hmem List.not_mem_nil) fun candidate hmem => ?_
  obtain ⟨⟨evidence, other⟩, hfound, hmem⟩ := List.mem_flatMap.mp hmem
  obtain ⟨found, hmatch, hbuilt⟩ := List.mem_map.mp hfound
  have hof : candidate ∈ (Extension.candidatesOfMatch host files rootDir (host.extractDeepDiscoverySeeds rawMessage)
      found).1 := by
    rw [hbuilt]
    exact hmem
  exact ⟨found.relativePath, candidatesOfMatch_isFile (hpaths found hmatch) candidate hof⟩

/-- What is left out as reused: a fetched candidate of its kind has a path that overlaps with its own. -/
theorem reusedCandidate_iff {fetched : List GrillEvidenceCandidate} {item : EvidenceInput}
    (hfiles : ∀ candidate ∈ fetched, ∃ path, candidate.IsFile path) :
    (Extension.reusedCandidate? fetched item).isSome = true ↔
      ∃ candidate ∈ fetched, candidate.kind.text = item.kind ∧
        ∃ path, candidate.IsFile path ∧ PathsOverlap item.source path := by
  unfold Extension.reusedCandidate?
  rw [List.find?_isSome]
  refine exists_congr fun candidate => and_congr_right fun hmem => ?_
  obtain ⟨path, hfile⟩ := hfiles candidate hmem
  have hone : (pathSegments candidate.kind.text).length = 1 := by cases candidate.kind <;> decide
  have htexts : [some candidate.source, Extension.relativePath? candidate.metadata].filterMap Extension.truthy =
      [candidate.source, path] := by
    have hsource : candidate.source ≠ "" := by
      rw [hfile.2.1]
      simp [String.append_eq_empty_iff]
    have htruthy : ∀ text : String, text ≠ "" → Extension.truthy (some text) = some text := by
      intro text htext
      simp [Extension.truthy, Option.filter, htext]
    rw [hfile.2.2, List.filterMap_cons_some (htruthy _ hsource), List.filterMap_cons_some (htruthy _ hfile.1),
      List.filterMap_nil]
  rw [Bool.and_eq_true, decide_eq_true_eq, htexts]
  refine and_congr_right fun _ => ?_
  simp only [List.any_cons, List.any_nil, Bool.or_false, Bool.or_eq_true, samePath_iff]
  constructor
  · rintro (hsource | hpath)
    · rw [hfile.2.1] at hsource
      exact ⟨path, hfile, overlap_of_prefixed hone hsource⟩
    · exact ⟨path, hfile, hpath⟩
  · rintro ⟨other, hother, hoverlap⟩
    obtain rfl := Option.some.inj (hfile.2.2.symm.trans hother.2.2)
    exact .inr hoverlap

/-! ### What a search hands on -/

namespace Extension

/-- The evidence that an accepted answer hands on. -/
def Answers (P : List EvidenceInput → Prop) (reply : Reply) : Prop :=
  ∀ result, reply = .tool result → result.details.status = some .accepted →
    P (result.details.evidence.getD [])

theorem answers_tool {P : List EvidenceInput → Prop} {result : ToolResult}
    (h : result.details.status = some .accepted → P (result.details.evidence.getD [])) :
    Answers P (.tool result) := by
  intro other hother
  obtain rfl := Reply.tool.inj hother
  exact h

/-- When `m` returns, `P` holds of the evidence that an accepted answer hands on. -/
abbrev HandsOn (P : List EvidenceInput → Prop) (M : ExtensionState → Prop) (m : Ext Reply) : Prop :=
  Turn.Leads M m (fun reply _ => Answers P reply) fun _ => True

theorem handsOn_tool {P : List EvidenceInput → Prop} {M : ExtensionState → Prop} {result : ToolResult}
    (h : result.details.status = some .accepted → P (result.details.evidence.getD [])) :
    HandsOn P M (pure (.tool result)) := leads_pure fun _ _ => answers_tool h

/-- A refusal hands no evidence on. -/
theorem handsOn_refused {P : List EvidenceInput → Prop} {M : ExtensionState → Prop} {result : ToolResult}
    (h : (result.details.status == some .accepted) = false) : HandsOn P M (pure (.tool result)) :=
  handsOn_tool fun haccepted => absurd (beq_iff_eq.mpr haccepted) (by rw [h]; exact Bool.false_ne_true)

theorem handsOn_throw {P : List EvidenceInput → Prop} {M : ExtensionState → Prop} {error : String} :
    HandsOn P M (throw error) := leads_throw fun _ _ => trivial

theorem handsOn_bind {P : List EvidenceInput → Prop} {M : ExtensionState → Prop} {α : Type} {m : Ext α}
    {f : α → Ext Reply} (hf : ∀ a, HandsOn P (fun _ => True) (f a)) : HandsOn P M (m >>= f) :=
  leads_bind leads_anywhere hf

/-- A search of the files hands on what no fetched candidate stands for. -/
theorem searchWithBudget_handsOn {P : List EvidenceInput → Prop} {M : ExtensionState → Prop}
    {identity : DeepAttemptIdentity} {found : Except String (List EvidenceInput)}
    {fetched : List GrillEvidenceCandidate}
    (h : ∀ evidence, found = .ok evidence → P (evidence.filter fun item => (reusedCandidate? fetched item).isNone)) :
    HandsOn P M (searchWithBudget identity found fetched) := by
  unfold searchWithBudget
  cases found with
  | error error => exact handsOn_bind fun _ => handsOn_throw
  | ok evidence =>
      dsimp only
      split
      · exact handsOn_bind fun _ => handsOn_refused rfl
      · refine leads_get_bind fun s _ => leads_ite (fun _ => handsOn_bind fun _ => handsOn_refused rfl) fun _ => ?_
        refine handsOn_bind fun answer => leads_ite (fun _ => handsOn_refused rfl) fun _ => ?_
        exact handsOn_bind fun _ => handsOn_tool fun _ => h evidence rfl

/-- What the accepted answer of a call hands on. -/
def handedOn (host : Host) (files : Files) (s : ExtensionState) (params : DeepSearchParams)
    (workflow : ActiveWorkflowContext) : List EvidenceInput :=
  if LooksAtFiles host s params workflow then newlyFound host files s params else []

theorem searchSource_handsOn {s : ExtensionState} {identity : DeepAttemptIdentity} {params : DeepSearchParams}
    {workflow : ActiveWorkflowContext} {selected : Option GrillEvidenceCandidate}
    (hworkflow : s.activeWorkflow = some workflow) (hselected : selectedTarget? host params workflow = selected) :
    HandsOn (· = handedOn host files s params workflow) (· = s)
      (searchSource host files identity params workflow (queryOf host params) selected) := by
  refine leads_get_bind_eq fun t ht => ?_
  subst ht
  refine leads_ite (fun hreused => handsOn_tool fun _ => ?_) fun hnone => leads_ite (fun hheld =>
    handsOn_tool fun _ => ?_) fun hheld => ?_
  · obtain ⟨candidate, hmem⟩ := List.exists_mem_of_ne_nil _ hreused
    have hmatch := List.mem_filter.mp hmem
    rw [Bool.and_eq_true, decide_eq_true_eq] at hmatch
    have hlooks : ¬ LooksAtFiles host t params workflow := fun h =>
      Bool.false_ne_true ((h.1 candidate hmatch.1 hmatch.2.1).symm.trans hmatch.2.2)
    rw [handedOn, if_neg hlooks]
    rfl
  · obtain ⟨item, hmem⟩ := List.exists_mem_of_ne_nil _ hheld
    have hmatch := List.mem_filter.mp hmem
    rw [Bool.and_eq_true, decide_eq_true_eq] at hmatch
    have hlooks : ¬ LooksAtFiles host t params workflow := fun h =>
      Bool.false_ne_true ((h.2 item hmatch.1 hmatch.2.1).symm.trans hmatch.2.2)
    rw [handedOn, if_neg hlooks]
    rfl
  · have hlooks : LooksAtFiles host t params workflow := by
      have hfree := List.filter_eq_nil_iff.mp (not_not.mp hnone)
      have hfree' := List.filter_eq_nil_iff.mp (not_not.mp hheld)
      constructor
      · intro candidate hmem hkind
        simpa [hkind] using hfree candidate hmem
      · intro item hmem hkind
        simpa [hkind] using hfree' item hmem
    refine handsOn_bind fun answer => ?_
    have hsearch : HandsOn (· = handedOn host files t params workflow) (fun _ => True)
        (searchWithBudget identity (searchFiles host files params workflow selected (queryOf host params))
          (fetchedCandidates t.session workflow.snapshot)) := by
      refine searchWithBudget_handsOn fun evidence hfound => ?_
      rw [← hselected] at hfound
      have hfound' : searchFiles host files params workflow (selectedTarget? host params workflow)
          (host.toLowerCase (trim params.query)) = .ok evidence := hfound
      rw [handedOn, if_pos hlooks, newlyFound, hworkflow]
      simp only [hfound']
    cases answer with
    | stale => exact handsOn_refused rfl
    | limit => exact handsOn_refused rfl
    | accepted => exact hsearch
    | reserved => exact hsearch
    | released => exact hsearch

/-- **The accepted answer of a search**: nothing when what is held answers the query, else what the files hold and
no fetched candidate stands for. -/
theorem forgeDeepSearch_handsOn (s : ExtensionState) (params : DeepSearchParams) :
    HandsOn (fun evidence => ∀ workflow, s.activeWorkflow = some workflow →
      evidence = handedOn host files s params workflow) (· = s) (forgeDeepSearch host files params) := by
  refine leads_get_bind_eq fun t ht => ?_
  subst ht
  refine leads_ite (fun _ => handsOn_refused rfl) fun _ => ?_
  cases hworkflow : t.activeWorkflow with
  | none => exact leads_pure fun _ _ _ hreply => by cases hreply
  | some workflow =>
      have hone : ∀ {m : Ext Reply}, HandsOn (· = handedOn host files t params workflow) (· = t) m →
          HandsOn (fun evidence => ∀ other, some workflow = some other →
            evidence = handedOn host files t params other) (· = t) m := by
        intro m hm
        refine leads_mono hm (fun _ h => h) fun reply _ hanswers result hreply hstatus other hother => ?_
        rw [← Option.some.inj hother]
        exact hanswers result hreply hstatus
      refine hone (leads_ite (fun _ => handsOn_refused rfl) fun _ => leads_ite (fun _ => handsOn_refused rfl) fun _ => ?_)
      refine leads_ite (fun htarget => ?_) fun hother => ?_
      · refine leads_ite (fun _ => handsOn_refused rfl) fun _ => leads_ite (fun _ => handsOn_refused rfl) fun _ => ?_
        dsimp only
        split
        · next selected hmatching =>
            refine searchSource_handsOn hworkflow ?_
            rw [selectedTarget?, if_pos htarget]
            simp only [hmatching]
        · refine leads_get_bind fun u _ => handsOn_bind fun result => ?_
          cases result with
          | stale expected received => exact handsOn_refused rfl
          | accepted state _ | invalid state _ => exact handsOn_bind fun _ => handsOn_bind fun _ => handsOn_refused rfl
      · refine searchSource_handsOn hworkflow ?_
        rw [selectedTarget?, if_neg hother]

end Extension

/-! ### The files that are left out -/

/-- An item of a search, made of what was read. -/
def DiscoverySource.item (source : DiscoverySource) (host : Host) (kind : String) : EvidenceInput :=
  { evidenceId := Extension.createEvidenceId host kind source.path source.content
    kind := kind
    source := source.path
    title := source.path
    content := source.content
    metadata := source.metadata }

/-- An item of a search, with the path below its tree of the file that it was made of. -/
inductive Workspace.Finds (W : Workspace) (host : Host) (snapshot : GrillEvidenceSnapshot)
    (params : DeepSearchParams) : String → EvidenceInput → Prop
  | wiki {file : WorkspaceFile} (hsource : params.source = .wiki) (hfile : file ∈ W.wiki) :
      Finds W host snapshot params file.path ((W.wikiSource file).item host "wiki")
  | codeBase {file : WorkspaceFile} (hsource : params.source = .codeBase) (hfile : file ∈ W.codeBase) :
      Finds W host snapshot params file.path ((W.candidate host [params.query] file).toSource.item host "code_base")
  | target {candidate : GrillEvidenceCandidate} {path : String} (hsource : params.source = .target)
      (hcandidate : candidate ∈ snapshot.candidates.values) (hkind : candidate.kind = .target)
      (hfile : candidate.IsFile path) :
      Finds W host snapshot params path (Extension.candidateEvidence candidate)

section Search

variable {W : Workspace} {localeCompare : String → String → Ordering} {other : Files} {s : ExtensionState}
  {params : DeepSearchParams} {workflow : ActiveWorkflowContext}

/-- What the files hold for the query of a call. -/
def foundItems (host : Host) (files : Files) (params : DeepSearchParams) (workflow : ActiveWorkflowContext) :
    List EvidenceInput :=
  (Extension.searchFiles host files params workflow (Extension.selectedTarget? host params workflow)
    (Extension.queryOf host params)).toOption.getD []

/-- Every item of a search was made of a file of the workspace. -/
theorem foundItems_finds (hsnapshot : workflow.snapshot.HoldsFiles) {item : EvidenceInput}
    (hitem : item ∈ foundItems host (W.files host localeCompare other) params workflow) :
    ∃ path, W.Finds host workflow.snapshot params path item := by
  unfold foundItems Extension.searchFiles at hitem
  cases hsource : params.source with
  | wiki =>
      rw [hsource] at hitem
      obtain ⟨source, htaken, rfl⟩ := List.mem_map.mp hitem
      have hread : source ∈ W.loadWikiDiscoverySources := (List.mem_filter.mp (List.mem_of_mem_take htaken)).1
      obtain ⟨file, hfile, rfl⟩ := List.mem_map.mp hread
      exact ⟨file.path, .wiki hsource hfile⟩
  | codeBase =>
      rw [hsource] at hitem
      obtain ⟨source, htaken, rfl⟩ := List.mem_map.mp hitem
      obtain ⟨found, hfound, rfl⟩ := List.mem_map.mp (List.mem_of_mem_take htaken)
      rw [Workspace.findCodeBaseCandidates, if_neg (by simp)] at hfound
      have hsorted := (List.mem_insertionSort _).mp (List.mem_of_mem_take hfound)
      obtain ⟨file, hfile, rfl⟩ := List.mem_map.mp (List.mem_filter.mp hsorted).1
      exact ⟨file.path, .codeBase hsource hfile⟩
  | target =>
      rw [hsource] at hitem
      obtain ⟨candidate, hselected, rfl⟩ : ∃ candidate, Extension.selectedTarget? host params workflow = some candidate ∧
          Extension.candidateEvidence candidate = item := by
        cases hselected : Extension.selectedTarget? host params workflow with
        | none =>
            rw [hselected] at hitem
            exact absurd hitem List.not_mem_nil
        | some candidate =>
            rw [hselected] at hitem
            exact ⟨candidate, rfl, (List.mem_singleton.mp hitem).symm⟩
      have hmatching : candidate ∈ Extension.matchingTargets (Extension.targetCandidates host workflow
          (host.toLowerCase (trim params.query))) (params.targetSource.getD "") := by
        rw [Extension.selectedTarget?, if_pos hsource] at hselected
        split at hselected
        · next only hmatching =>
            rw [hmatching, ← Option.some.inj hselected]
            exact List.mem_cons_self
        · cases hselected
      have htarget := List.mem_filter.mp (List.mem_filter.mp hmatching).1
      rw [Bool.and_eq_true, decide_eq_true_eq] at htarget
      obtain ⟨path, hfile⟩ := hsnapshot candidate htarget.1
      exact ⟨path, .target hsource htarget.1 htarget.2.1 hfile⟩

theorem finds_kind {path : String} {item : EvidenceInput} {snapshot : GrillEvidenceSnapshot}
    (h : W.Finds host snapshot params path item) : item.kind = params.source.kind.text := by
  cases h with
  | wiki hsource => rw [hsource]; rfl
  | codeBase hsource => rw [hsource]; rfl
  | target hsource _ hkind =>
      rw [hsource]
      exact congrArg GrillEvidenceKind.text hkind

/-- The source of an item ends with the path of its file. -/
theorem finds_overlap {path : String} {item : EvidenceInput} {snapshot : GrillEvidenceSnapshot}
    (h : W.Finds host snapshot params path item) : PathsOverlap item.source path := by
  cases h with
  | @wiki file hsource hfile =>
      left
      show pathSegments file.path <:+ pathSegments (W.filePath "wiki" file)
      rw [filePath_segments]
      exact List.suffix_append _ _
  | @codeBase file hsource hfile =>
      left
      show pathSegments file.path <:+ pathSegments (W.relativePath file)
      rw [relativePath_segments]
  | @target candidate path hsource hcandidate hkind hfile =>
      left
      show pathSegments path <:+ pathSegments candidate.source
      rw [hfile.2.1, pathSegments_slash]
      exact List.suffix_append _ _

/-- A fetched candidate of the kind of the search was made of the file with this path. -/
def HasFetched (s : ExtensionState) (workflow : ActiveWorkflowContext) (params : DeepSearchParams) (path : String) :
    Prop :=
  ∃ candidate ∈ Extension.fetchedCandidates s.session workflow.snapshot,
    candidate.kind = params.source.kind ∧ candidate.IsFile path

instance (s : ExtensionState) (workflow : ActiveWorkflowContext) (params : DeepSearchParams) (path : String) :
    Decidable (HasFetched s workflow params path) := inferInstanceAs (Decidable (∃ _ ∈ _, _))

theorem fetched_of_snapshot {candidate : GrillEvidenceCandidate}
    (h : candidate ∈ Extension.fetchedCandidates s.session workflow.snapshot) :
    candidate ∈ workflow.snapshot.candidates.values := by
  obtain ⟨id, -, hget⟩ := List.mem_filterMap.mp h
  exact OrderedMap.value_mem hget

/-- An item is handed on unless the path of a fetched file of its kind overlaps with its own. -/
theorem mem_newlyFound_iff (hworkflow : s.activeWorkflow = some workflow) (hsnapshot : workflow.snapshot.HoldsFiles)
    {path : String} {item : EvidenceInput} (hitem : item ∈ foundItems host files params workflow)
    (hfinds : W.Finds host workflow.snapshot params path item) :
    item ∈ Extension.newlyFound host files s params ↔
      ∀ fetched, HasFetched s workflow params fetched → ¬ PathsOverlap item.source fetched := by
  have hfiles : ∀ candidate ∈ Extension.fetchedCandidates s.session workflow.snapshot, ∃ path, candidate.IsFile path :=
    fun candidate hmem => hsnapshot candidate (fetched_of_snapshot hmem)
  have htext : ∀ kind : GrillEvidenceKind, kind.text = item.kind ↔ kind = params.source.kind := by
    intro kind
    rw [finds_kind hfinds]
    cases kind <;> cases params.source <;> decide
  have hnew : item ∈ Extension.newlyFound host files s params ↔
      ¬ (Extension.reusedCandidate? (Extension.fetchedCandidates s.session workflow.snapshot) item).isSome = true := by
    unfold foundItems at hitem
    rw [Extension.newlyFound, hworkflow]
    cases hfound : Extension.searchFiles host files params workflow (Extension.selectedTarget? host params workflow)
        (host.toLowerCase (trim params.query)) with
    | error error =>
        rw [Extension.queryOf, hfound] at hitem
        exact absurd hitem List.not_mem_nil
    | ok evidence =>
        rw [Extension.queryOf, hfound] at hitem
        simp only [hfound, List.mem_filter, Option.isNone_iff_eq_none, Option.not_isSome_iff_eq_none]
        exact and_iff_right hitem
  rw [hnew, reusedCandidate_iff hfiles]
  constructor
  · rintro hnone fetched ⟨candidate, hmem, hkind, hfile⟩ hoverlap
    exact hnone ⟨candidate, hmem, (htext _).mpr hkind, fetched, hfile, hoverlap⟩
  · rintro hfree ⟨candidate, hmem, hkind, fetched, hfile, hoverlap⟩
    exact hfree fetched ⟨candidate, hmem, (htext _).mp hkind, hfile⟩ hoverlap

end Search

/-! ### Runs -/

/-- What a run has made its workflow of are files, when the discoveries name files. -/
theorem workflow_holdsFiles {tools : List String} {os : List Occurrence}
    (hfound : ∀ o ∈ os, ∀ rootDir goal, ∀ found ∈ (o.files.runLightDiscovery rootDir goal).matches_,
      found.relativePath ≠ "") :
    ∀ workflow ∈ (finish (extensionStep host) (loadedExtension tools) os).activeWorkflow,
      workflow.snapshot.HoldsFiles := by
  have hstep : ∀ (s : ExtensionState) (o : Occurrence),
      (∀ workflow ∈ s.activeWorkflow, workflow.snapshot.HoldsFiles) →
      (∀ rootDir goal, ∀ found ∈ (o.files.runLightDiscovery rootDir goal).matches_, found.relativePath ≠ "") →
      ∀ workflow ∈ (extensionStep host o s).2.activeWorkflow, workflow.snapshot.HoldsFiles := by
    intro s o hs hpaths
    exact path_snapshot (P := GrillEvidenceSnapshot.HoldsFiles)
      (fun goal rootDir _ => buildGrillCompatibleDiscovery_holdsFiles (hpaths rootDir goal))
      (extensionStep_path host o s) hs
  have hloaded : ∀ workflow ∈ (loadedExtension tools).activeWorkflow, workflow.snapshot.HoldsFiles := by
    intro workflow hnone
    cases hnone
  exact holds_at_finish (I := fun s : ExtensionState => ∀ workflow ∈ s.activeWorkflow, workflow.snapshot.HoldsFiles)
    hstep hloaded (admissible_of_mem hfound _)

/-- A file in a directory that has the name of a file further up, and one that has not. -/
def subFile : WorkspaceFile := ⟨["sub", "do.ts"], ⟨"sub", none⟩, by decide, by decide⟩

def libFile : WorkspaceFile := ⟨["lib", "b.ts"], ⟨"lib", none⟩, by decide, by decide⟩

def sampleWorkspace : Workspace :=
  { root := "/project"
    separator := '/'
    wiki := []
    codeBase := [⟨["do.ts"], ⟨"do", none⟩, by decide, by decide⟩, subFile, libFile]
    separator_valid := .inl rfl }

/-- The two files whose names have a word of the request in them are found first. -/
def workspaceFiles : Files :=
  sampleWorkspace.files sampleHost compare
    { sampleFiles with
      runLightDiscovery := fun _ _ => ⟨[⟨.codeBase, "do.ts", "do.ts"⟩, ⟨.codeBase, "sub/do.ts", "do.ts"⟩], []⟩
      readEvidenceSource := fun path =>
        if path.length = 3 then if path[2]? = some "sub/do.ts" then .ok subFile.read else .ok ⟨"do", none⟩
        else .error "ENOENT" }

/-- Grill has fetched `code_base/do.ts`, and the retrieval is live. -/
def beforeSearch : ExtensionState :=
  finish (extensionStep sampleHost) (loadedExtension sampleTools) (withFiles workspaceFiles
    [.input "/grill-run do it" sampleCtx, .grillEvidence sampleCandidateId,
      .grillComplete (readyForDeep "grill-1" [sampleCandidateId]) sampleCtx, .agentSettled, .deepTimer,
      .messageStart ["x"]])

def searchFor (query : String) : DeepSearchParams := ⟨"deep-1", "grill-1", query, .codeBase, none⟩

/-- The answer of a search in that state. -/
def answerTo (query : String) : Option ToolResult :=
  match (Extension.forgeDeepSearch sampleHost workspaceFiles (searchFor query) beforeSearch).1 with
  | .ok (.tool result) => some result
  | _ => none

theorem call_of_answer {query : String} {result : ToolResult} (h : answerTo query = some result) :
    (Extension.forgeDeepSearch sampleHost workspaceFiles (searchFor query) beforeSearch).1 = .ok (.tool result) := by
  unfold answerTo at h
  split at h
  · next reply hreply => rw [hreply, Option.some.inj h]
  · cases h

/-! ### The files that are left out -/

/-- **What a search leaves out are the files already there** if and only if no path of a fetched file overlaps with
that of another one. -/
theorem search_leaves_out_same_files_iff {W : Workspace} {localeCompare : String → String → Ordering} {other : Files}
    {s : ExtensionState} {params : DeepSearchParams} {workflow : ActiveWorkflowContext} {result : ToolResult}
    (hworkflow : s.activeWorkflow = some workflow)
    (hsnapshot : workflow.snapshot.HoldsFiles)
    (hcall : (Extension.forgeDeepSearch host (W.files host localeCompare other) params s).1 = .ok (.tool result))
    (haccepted : result.details.status = some .accepted) (hlooks : Extension.LooksAtFiles host s params workflow) :
    (∀ path item, item ∈ foundItems host (W.files host localeCompare other) params workflow →
        W.Finds host workflow.snapshot params path item →
        (item ∉ result.details.evidence.getD [] ↔ HasFetched s workflow params path)) ↔
      ∀ path item, item ∈ foundItems host (W.files host localeCompare other) params workflow →
        W.Finds host workflow.snapshot params path item →
        HasFetched s workflow params path ∨
          ∀ fetched, HasFetched s workflow params fetched → ¬ PathsOverlap item.source fetched := by
  have hevidence : result.details.evidence.getD [] =
      Extension.newlyFound host (W.files host localeCompare other) s params := by
    have hanswers := (@Extension.forgeDeepSearch_handsOn host (W.files host localeCompare other)
      s params s rfl).1 (.tool result) _ (Prod.ext hcall rfl) result rfl haccepted workflow hworkflow
    rw [hanswers, Extension.handedOn, if_pos hlooks]
  rw [hevidence]
  refine forall₂_congr fun path item => forall₂_congr fun hitem hfinds => ?_
  rw [mem_newlyFound_iff hworkflow hsnapshot hitem hfinds]
  constructor
  · intro hsame
    by_cases hfree : ∀ fetched, HasFetched s workflow params fetched → ¬ PathsOverlap item.source fetched
    · exact .inr hfree
    · exact .inl (hsame.mp hfree)
  · rintro (hfetched | hfree)
    · exact ⟨fun _ => hfetched, fun _ hfree => hfree path hfetched (finds_overlap hfinds)⟩
    · exact ⟨fun hout => absurd hfree hout, fun hfetched => absurd (finds_overlap hfinds) (hfree path hfetched)⟩

/-- What the two searches find, and what their answers hand on. -/
theorem answers_before_search :
    (∀ workflow ∈ beforeSearch.activeWorkflow,
      (∀ candidate ∈ workflow.snapshot.candidates.values,
        candidate.IsFile ((Extension.relativePath? candidate.metadata).getD "")) ∧
      Extension.LooksAtFiles sampleHost beforeSearch (searchFor "lib") workflow ∧
      (foundItems sampleHost workspaceFiles (searchFor "lib") workflow).map (·.source) = ["lib/b.ts"] ∧
      (∀ candidate ∈ Extension.fetchedCandidates beforeSearch.session workflow.snapshot,
        Extension.relativePath? candidate.metadata = some "do.ts") ∧
      (sampleWorkspace.candidate sampleHost ["sub"] subFile).toSource.item sampleHost "code_base" ∈
        foundItems sampleHost workspaceFiles (searchFor "sub") workflow) ∧
    beforeSearch.activeWorkflow.isSome = true ∧
    (answerTo "lib").map (fun result => (result.details.status, (result.details.evidence.getD []).map (·.source))) =
      some (some .accepted, ["lib/b.ts"]) ∧
    (answerTo "sub").map (fun result => (result.details.status, result.details.evidence)) =
      some (some .accepted, some []) := by
  decide +kernel

/-- A search that leaves out nothing: the file in another directory is handed on. -/
theorem search_hands_on_other_name : ∃ workflow result, beforeSearch.activeWorkflow = some workflow ∧
    answerTo "lib" = some result ∧
    ∀ path item, item ∈ foundItems sampleHost workspaceFiles (searchFor "lib") workflow →
      sampleWorkspace.Finds sampleHost workflow.snapshot (searchFor "lib") path item →
      (item ∉ result.details.evidence.getD [] ↔ HasFetched beforeSearch workflow (searchFor "lib") path) := by
  obtain ⟨hworkflow, hsome, hlib, -⟩ := answers_before_search
  obtain ⟨workflow, hactive⟩ := Option.isSome_iff_exists.mp hsome
  obtain ⟨hfiles, hlooks, hfound, hfetched, -⟩ := hworkflow workflow hactive
  obtain ⟨result, hresult, hdetails⟩ := Option.map_eq_some_iff.mp hlib
  refine ⟨workflow, result, hactive, hresult, ?_⟩
  refine (search_leaves_out_same_files_iff hactive (fun candidate hmem => ⟨_, hfiles candidate hmem⟩)
    (call_of_answer hresult) (Prod.mk.inj hdetails).1 hlooks).mpr ?_
  intro path item hitem _
  have hsource : item.source ∈ ["lib/b.ts"] := hfound ▸ List.mem_map_of_mem hitem
  refine .inr ?_
  rintro fetched ⟨candidate, hmem, -, hfile⟩
  obtain rfl := Option.some.inj ((hfetched candidate hmem).symm.trans hfile.2.2)
  rw [List.mem_singleton.mp hsource]
  decide

/-- **A search leaves out a file that nobody has fetched**: Grill has fetched `code_base/do.ts`, and the search
finds `code_base/sub/do.ts`. -/
theorem search_leaves_out_other_file : ∃ workflow result item, beforeSearch.activeWorkflow = some workflow ∧
    (Extension.forgeDeepSearch sampleHost workspaceFiles (searchFor "sub") beforeSearch).1 = .ok (.tool result) ∧
    result.details.status = some .accepted ∧
    item ∈ foundItems sampleHost workspaceFiles (searchFor "sub") workflow ∧
    sampleWorkspace.Finds sampleHost workflow.snapshot (searchFor "sub") "sub/do.ts" item ∧
    item ∉ result.details.evidence.getD [] ∧ ¬ HasFetched beforeSearch workflow (searchFor "sub") "sub/do.ts" := by
  obtain ⟨hworkflow, hsome, -, hsub⟩ := answers_before_search
  obtain ⟨workflow, hactive⟩ := Option.isSome_iff_exists.mp hsome
  obtain ⟨-, -, -, hfetched, hfound⟩ := hworkflow workflow hactive
  obtain ⟨result, hresult, hdetails⟩ := Option.map_eq_some_iff.mp hsub
  obtain ⟨hstatus, hevidence⟩ := Prod.mk.inj hdetails
  have hfinds : sampleWorkspace.Finds sampleHost workflow.snapshot (searchFor "sub") subFile.path
      ((sampleWorkspace.candidate sampleHost ["sub"] subFile).toSource.item sampleHost "code_base") :=
    .codeBase rfl (List.mem_cons_of_mem _ List.mem_cons_self)
  refine ⟨workflow, result, _, hactive, call_of_answer hresult, hstatus, hfound, hfinds, ?_, ?_⟩
  · rw [hevidence]
    exact List.not_mem_nil
  · rintro ⟨candidate, hmem, -, hfile⟩
    exact absurd (Option.some.inj ((hfetched candidate hmem).symm.trans hfile.2.2)) (by decide)

end ForgeRuntime
