import ForgeRuntime.Artifacts.BaseHash

/-!
# All three documents or none

A commit may fail at any call of its `try` body.  What it did until then is undone entry by entry, and the staged
files are removed; so the documents are either all written or as they were.  One file may be left: that of a document
whose writing has failed on the way is not among the entries, and nobody removes it.

* `rollback_spec` — undoing recoverable entries brings back what stood at their targets;
* `commitBody_traces` — which files of the commit its body can leave behind;
* `commit_leaves` — what a commit leaves on the disk, however it ends;
* `commit_all_or_nothing` — **all documents are written or none is, and nothing else stays but a staged file whose
  writing has failed**;
* `no_content_lost` — **whatever fails, the old content of a document is at its place or at its backup**, unless all
  documents are written.
-/

namespace ForgeRuntime

open EventDriven EventDriven.Text EventDriven.Program

variable {token : String} {original disk disk' : Disk} {α : Type}

/-- Every call is answered by the disk. -/
abbrev SureFileSystem : (c : FileCall) → Disk → Except String c.Answer → Disk → Prop := FileSystem fun _ => False

/-- A program none of whose calls may fail runs as where nothing fails. -/
theorem runs_sure {mayFail : FileCall → Prop} {p : Fs α} (hp : CallsOnly (fun c => ¬ mayFail c) p)
    {r : Except String α} (h : Runs (FileSystem mayFail) p disk r disk') : Runs SureFileSystem p disk r disk' := by
  refine hp.runs ?_ h
  rintro c w answer w' hsure (hanswer | ⟨hfails, -⟩)
  · exact .inl hanswer
  · exact absurd hfails hsure

/-! ### The calls of the phases -/

section Phases

variable {P : FileCall → Prop} {phase : Phase}

theorem callsOnly_ask (hphase : ∀ op, P ⟨phase, op⟩) (op : FileOp) : CallsOnly P (ask phase op) :=
  callsOnly_perform (hphase op)

theorem callsOnly_onlyIf {flag : Bool} {p : Fs Unit} (h : CallsOnly P p) : CallsOnly P (onlyIf flag p) :=
  callsOnly_ite h (callsOnly_done _)

theorem calls_resolveDocumentsDir (hphase : ∀ op, P ⟨phase, op⟩) (rootDir : String) :
    CallsOnly P (resolveDocumentsDir phase rootDir) := by
  refine callsOnly_ite (callsOnly_done _) (callsOnly_bind (callsOnly_ask hphase _) fun isDirectory => ?_)
  refine callsOnly_ite (callsOnly_done _) (callsOnly_bind (callsOnly_ask hphase _) fun present => ?_)
  refine callsOnly_ite (callsOnly_done _) (callsOnly_bind (callsOnly_ask hphase _) fun real => ?_)
  exact callsOnly_ite (callsOnly_done _) (callsOnly_done _)

theorem calls_baseRecord (hphase : ∀ op, P ⟨phase, op⟩) (document : DocumentKey) :
    CallsOnly P (baseRecord phase document) := by
  refine callsOnly_bind (callsOnly_ask hphase _) fun present => ?_
  refine callsOnly_ite (callsOnly_done _) (callsOnly_bind (callsOnly_ask hphase _) fun real => ?_)
  exact callsOnly_ite (callsOnly_done _) (callsOnly_bind (callsOnly_ask hphase _) fun _ => callsOnly_done _)

theorem calls_baseRecords (hphase : ∀ op, P ⟨phase, op⟩) (documents : List DocumentKey) :
    CallsOnly P (baseRecords phase documents) := by
  induction documents with
  | nil => exact callsOnly_done _
  | cons document rest ih =>
      exact callsOnly_bind (calls_baseRecord hphase document) fun _ => callsOnly_bind ih fun _ => callsOnly_done _

theorem calls_captureDocumentsBase (sha256 : List UInt8 → String) (hphase : ∀ op, P ⟨phase, op⟩) (rootDir : String) :
    CallsOnly P (captureDocumentsBase sha256 phase rootDir) :=
  callsOnly_bind (calls_resolveDocumentsDir hphase rootDir) fun _ =>
    callsOnly_bind (calls_baseRecords hphase documentKeys) fun _ => callsOnly_done _

theorem calls_rollback (hphase : ∀ op, P ⟨.rollback, op⟩) (entries : List Staged) :
    CallsOnly P (rollback token entries) := by
  induction entries with
  | nil => exact callsOnly_done _
  | cons entry rest ih =>
      have hentry : CallsOnly P (rollbackEntry token entry) :=
        callsOnly_bind (callsOnly_onlyIf (callsOnly_ask hphase _)) fun _ => callsOnly_onlyIf (callsOnly_ask hphase _)
      refine callsOnly_bind (callsOnly_attempt hentry) fun undone => callsOnly_bind ih fun errors => ?_
      cases undone with
      | error e => exact callsOnly_done _
      | ok _ => exact callsOnly_done _

theorem calls_removeStaged (hphase : ∀ op, P ⟨.cleanup, op⟩) (entries : List Staged) :
    CallsOnly P (removeStaged token entries) := by
  induction entries with
  | nil => exact callsOnly_done _
  | cons entry rest ih => exact callsOnly_bind (callsOnly_ask hphase _) fun _ => ih

theorem calls_removeBackups (hphase : ∀ op, P ⟨.finishing, op⟩) (entries : List Staged) :
    CallsOnly P (removeBackups token entries) := by
  induction entries with
  | nil => exact callsOnly_done _
  | cons entry rest ih => exact callsOnly_bind (callsOnly_onlyIf (callsOnly_ask hphase _)) fun _ => ih

end Phases

/-! ### Calls that are sure to succeed -/

/-- What a sure call to remove a path does, where no directory stands in its place. -/
theorem remove_sure {phase : Phase} {path : DiskPath} {outcome : Except String Unit}
    (hplain : disk path ≠ some (.node .directory))
    (h : Runs SureFileSystem (ask phase (.remove path true)) disk outcome disk') :
    outcome = .ok () ∧ disk' = disk.put path none := by
  have hanswer := ask_answer h
  simp only [Disk.answer] at hanswer
  cases hentry : disk path with
  | none =>
      simp only [hentry, if_true, Prod.mk.injEq] at hanswer
      obtain ⟨houtcome, hdisk⟩ := hanswer
      refine ⟨houtcome, hdisk.trans ?_⟩
      funext other
      by_cases hother : other = path
      · rw [hother, Disk.put_same, hentry]
      · rw [Disk.put_other hother]
  | some entry =>
      rw [hentry] at hanswer hplain
      cases entry with
      | link content => exact Prod.mk.inj hanswer
      | node node =>
          cases node with
          | directory => exact absurd rfl hplain
          | file content => exact Prod.mk.inj hanswer

/-- What a sure call to rename a path does, where something stands in its place. -/
theorem rename_sure {phase : Phase} {source target : DiskPath} {entry : Entry} {outcome : Except String Unit}
    (hentry : disk source = some entry)
    (h : Runs SureFileSystem (ask phase (.rename source target)) disk outcome disk') :
    outcome = .ok () ∧ disk' = (disk.put source none).put target (some entry) := by
  have hanswer := ask_answer h
  simp only [Disk.answer, hentry] at hanswer
  exact Prod.mk.inj hanswer

/-! ### The rollback -/

/-- The rollback of an entry writes its target and its backup. -/
theorem changes_rollbackEntry {mayFail : FileCall → Prop} (entry : Staged) :
    Changes mayFail (fun path => path = .target entry.document ∨ path = .backup entry.document token)
      (rollbackEntry token entry) := by
  refine changes_bind (changes_onlyIf (changes_ask ?_)) fun _ => changes_onlyIf (changes_ask ?_)
  · simp [FileOp.writes]
  · simp [FileOp.writes]

theorem changes_rollback {mayFail : FileCall → Prop} (entries : List Staged) :
    Changes mayFail (fun path => ∃ entry ∈ entries, path = .target entry.document ∨ path = .backup entry.document token)
      (rollback token entries) := by
  induction entries with
  | nil => exact changes_done _
  | cons entry rest ih =>
      refine changes_bind (changes_attempt ((changes_rollbackEntry entry).mono ?_)) fun undone => ?_
      · exact fun path hpath => ⟨entry, List.mem_cons_self, hpath⟩
      · refine changes_bind (ih.mono ?_) fun errors => ?_
        · rintro path ⟨other, hother, hpath⟩
          exact ⟨other, List.mem_cons_of_mem _ hother, hpath⟩
        · cases undone with
          | error e => exact changes_done _
          | ok _ => exact changes_done _

/-- The target holds what it held, and a backup that was made is gone. -/
structure Restored (token : String) (original disk disk' : Disk) (entry : Staged) : Prop where
  target : disk' (.target entry.document) = original (.target entry.document)
  backup : disk' (.backup entry.document token) =
    if entry.backedUp then none else disk (.backup entry.document token)

/-- **Undoing one entry** brings back what stood at its target. -/
theorem rollbackEntry_spec {entry : Staged} (hentry : Recoverable token original disk entry)
    {outcome : Except String Unit} (h : Runs SureFileSystem (rollbackEntry token entry) disk outcome disk') :
    outcome = .ok () ∧ Restored token original disk disk' entry := by
  -- first the installed file is removed, if there is one
  have hremove : ∀ {r : Except String Unit} {d : Disk},
      Runs SureFileSystem (onlyIf entry.installed (ask .rollback (.remove (.target entry.document) true))) disk r d →
        r = .ok () ∧ d (.target entry.document) =
            (if entry.installed then none else disk (.target entry.document)) ∧
          d (.backup entry.document token) = disk (.backup entry.document token) := by
    intro r d hrun
    cases hinstalled : entry.installed with
    | false =>
        rw [onlyIf, hinstalled] at hrun
        obtain ⟨rfl, rfl⟩ := runs_pure_iff.mp hrun
        exact ⟨rfl, rfl, rfl⟩
    | true =>
        rw [onlyIf, hinstalled] at hrun
        have hfile : HasFile disk (.target entry.document) := by
          unfold Recoverable at hentry
          rw [hinstalled] at hentry
          cases hbackedUp : entry.backedUp with
          | false =>
              rw [hbackedUp] at hentry
              exact hentry.1
          | true =>
              rw [hbackedUp] at hentry
              exact hentry.1
        obtain ⟨content, hcontent⟩ := hfile
        obtain ⟨rfl, rfl⟩ := remove_sure (by rw [hcontent]; simp) hrun
        refine ⟨rfl, Disk.put_same _ _ _, Disk.put_other ?_⟩
        simp
  rcases runs_bind_iff.mp h with ⟨_, d₁, hfirst, hsecond⟩ | ⟨e, hfirst, -⟩
  case inr => exact absurd (hremove hfirst).1 (by simp)
  obtain ⟨-, htarget₁, hbackup₁⟩ := hremove hfirst
  cases hbackedUp : entry.backedUp with
  | false =>
      rw [onlyIf, hbackedUp] at hsecond
      obtain ⟨rfl, rfl⟩ := runs_pure_iff.mp hsecond
      refine ⟨rfl, ?_, by rw [hbackup₁, hbackedUp]; rfl⟩
      rw [htarget₁]
      unfold Recoverable at hentry
      rw [hbackedUp] at hentry
      cases hinstalled : entry.installed with
      | false =>
          rw [hinstalled] at hentry
          exact hentry
      | true =>
          rw [hinstalled] at hentry
          exact hentry.2.symm
  | true =>
      rw [onlyIf, hbackedUp] at hsecond
      have hkept : disk (.backup entry.document token) = original (.target entry.document) ∧
          original (.target entry.document) ≠ none := by
        unfold Recoverable at hentry
        rw [hbackedUp] at hentry
        cases hinstalled : entry.installed with
        | false =>
            rw [hinstalled] at hentry
            exact hentry.2
        | true =>
            rw [hinstalled] at hentry
            exact hentry.2
      obtain ⟨old, hold⟩ := Option.ne_none_iff_exists'.mp hkept.2
      obtain ⟨rfl, rfl⟩ := rename_sure (hbackup₁.trans (hkept.1.trans hold)) hsecond
      refine ⟨rfl, ?_, ?_⟩
      · rw [Disk.put_same, hold]
      · rw [hbackedUp, Disk.put_other (by simp), Disk.put_same]
        rfl

/-- Undoing an entry leaves the paths of the other documents. -/
theorem rollbackEntry_others {mayFail : FileCall → Prop} {entry : Staged} {rest : List Staged} {r : Except String Unit}
    (hfresh : entry.document ∉ rest.map Staged.document)
    (h : Runs (FileSystem mayFail) (rollbackEntry token entry) disk r disk') {other : Staged} (hmem : other ∈ rest)
    {path : DiskPath} (hpath : OwnPath token other.document path) : disk' path = disk path := by
  refine (changes_rollbackEntry entry).same h fun hwritten => hfresh ?_
  have hown : OwnPath token entry.document path := hwritten.elim .inl fun h => .inr (.inl h)
  rw [ownPath_unique hown hpath]
  exact List.mem_map_of_mem hmem

/-- Undoing entries leaves the paths of a document that none of them has. -/
theorem rollback_others {mayFail : FileCall → Prop} {document : DocumentKey} {entries : List Staged}
    {r : Except String (List String)} (hfresh : document ∉ entries.map Staged.document)
    (h : Runs (FileSystem mayFail) (rollback token entries) disk r disk') {path : DiskPath}
    (hpath : OwnPath token document path) : disk' path = disk path := by
  refine (changes_rollback entries).same h ?_
  rintro ⟨other, hmem, hwritten⟩
  have hown : OwnPath token other.document path := hwritten.elim .inl fun h => .inr (.inl h)
  rw [ownPath_unique hpath hown] at hfresh
  exact hfresh (List.mem_map_of_mem hmem)

/-- **The rollback** of recoverable entries throws nothing and restores each of them. -/
theorem rollback_spec {entries : List Staged} (hnodup : (entries.map Staged.document).Nodup)
    (hentries : ∀ entry ∈ entries, Recoverable token original disk entry) {r : Except String (List String)}
    (h : Runs SureFileSystem (rollback token entries) disk r disk') :
    r = .ok [] ∧ ∀ entry ∈ entries, Restored token original disk disk' entry := by
  induction entries generalizing disk disk' r with
  | nil =>
      obtain ⟨rfl, rfl⟩ := runs_pure_iff.mp h
      exact ⟨rfl, fun _ hentry => absurd hentry List.not_mem_nil⟩
  | cons entry rest ih =>
      obtain ⟨hfresh, hnodup'⟩ := List.nodup_cons.mp hnodup
      obtain ⟨undone, d₁, hundone, hrest⟩ := runs_attempt_bind_iff.mp h
      obtain ⟨rfl, hrestored⟩ := rollbackEntry_spec (hentries entry List.mem_cons_self) hundone
      -- the other entries are untouched by the first
      have hother : ∀ other ∈ rest, ∀ path, OwnPath token other.document path → d₁ path = disk path :=
        fun other hmem path hpath => rollbackEntry_others hfresh hundone hmem hpath
      have hentries' : ∀ other ∈ rest, Recoverable token original d₁ other := fun other hmem =>
        (hentries other (List.mem_cons_of_mem _ hmem)).mono (hother other hmem _ (.inl rfl))
          (hother other hmem _ (.inr (.inl rfl)))
      rcases runs_bind_iff.mp hrest with ⟨errors, d₂, hrollback, hdone⟩ | ⟨e, hrollback, -⟩
      case inr => exact absurd (ih hnodup' hentries' hrollback).1 (by simp)
      obtain ⟨herrors, hrestoredRest⟩ := ih hnodup' hentries' hrollback
      cases Except.ok.inj herrors
      obtain ⟨rfl, rfl⟩ := runs_pure_iff.mp hdone
      have hkept : ∀ path, OwnPath token entry.document path → disk' path = d₁ path :=
        fun path hpath => rollback_others hfresh hrollback hpath
      refine ⟨rfl, fun other hother' => ?_⟩
      rcases List.mem_cons.mp hother' with rfl | hmem
      · exact ⟨(hkept _ (.inl rfl)).trans hrestored.target, (hkept _ (.inr (.inl rfl))).trans hrestored.backup⟩
      · refine ⟨(hrestoredRest other hmem).target, ?_⟩
        rw [(hrestoredRest other hmem).backup, hother other hmem _ (.inr (.inl rfl))]

/-! ### What the body leaves behind -/

section Traces

variable {mayFail : FileCall → Prop} {documents : DocumentsContent} {sha256 : List UInt8 → String}
  {request : CommitDocumentsRequest}

/-- The staged file of the document was broken off while its text was written. -/
def BrokenOff (mayFail : FileCall → Prop) (token : String) (documents : DocumentsContent) (document : DocumentKey)
    (original disk : Disk) : Prop :=
  ∃ existing text part, renderManagedDocument document.marker (documents.body document) existing = .ok text ∧
    part <+: bytesOf text ∧ mayFail ⟨.committing, .writeNew (.staged document token) (bytesOf text)⟩ ∧
      disk = original.put (.staged document token) (some (.node (.file part)))

/-- **What the staging leaves beside the files of its entries**: nothing, or a file that was broken off. -/
def PartLeft (mayFail : FileCall → Prop) (token : String) (documents : DocumentsContent) (staged : List Staged)
    (original left : Disk) : Prop :=
  left = original ∨ ∃ document ∉ staged.map Staged.document, BrokenOff mayFail token documents document original left

theorem PartLeft.other {staged : List Staged} {left : Disk}
    (h : PartLeft mayFail token documents staged original left) {path : DiskPath}
    (hpath : ∀ document, path ≠ .staged document token) : left path = original path := by
  rcases h with rfl | ⟨document, -, existing, text, part, -, -, -, rfl⟩
  · rfl
  · exact Disk.put_other (hpath document)

theorem PartLeft.entry {staged : List Staged} {left : Disk}
    (h : PartLeft mayFail token documents staged original left) {document : DocumentKey}
    (hmem : document ∈ staged.map Staged.document) :
    left (.staged document token) = original (.staged document token) := by
  rcases h with rfl | ⟨broken, hout, existing, text, part, -, -, -, rfl⟩
  · rfl
  · refine Disk.put_other fun heq => hout ?_
    injection heq with hdocument
    exact hdocument ▸ hmem

/-- What was left over one disk is left over another. -/
theorem PartLeft.rebase {staged : List Staged} {left : Disk} (h : PartLeft mayFail token documents staged disk left)
    (original : Disk) :
    ∃ left', PartLeft mayFail token documents staged original left' ∧ (left = disk → left' = original) ∧
      ∀ path, disk path = original path → left path = left' path := by
  by_cases hnothing : left = disk
  · subst hnothing
    exact ⟨original, .inl rfl, fun _ => rfl, fun _ hsame => hsame⟩
  · obtain ⟨document, hout, existing, text, part, hrender, hpart, hfails, rfl⟩ := h.resolve_left hnothing
    refine ⟨_, .inr ⟨document, hout, existing, text, part, hrender, hpart, hfails, rfl⟩,
      fun hsame => absurd hsame hnothing, fun path hsame => ?_⟩
    unfold Disk.put
    split
    · rfl
    · exact hsame

/-- A document that could not be staged has left nothing, or its file was broken off. -/
theorem stageDocument_error {document : DocumentKey} {e : String}
    (h : Runs (FileSystem mayFail) (stageDocument token documents document) disk (.error e) disk') :
    disk' = disk ∨ BrokenOff mayFail token documents document disk disk' := by
  rcases runs_bind_iff.mp h with ⟨existed, d₁, hexists, h₁⟩ | ⟨_, hexists, -⟩
  case inr => exact .inl (disk_same (changes_read rfl) hexists)
  have hd₁ : d₁ = disk := disk_same (changes_read rfl) hexists
  rcases runs_bind_iff.mp h₁ with ⟨existing, d₂, hexisting, h₂⟩ | ⟨_, hexisting, -⟩
  case inr => exact .inl ((disk_same (changes_readExisting document existed) hexisting).trans hd₁)
  have hd₂ : d₂ = d₁ := disk_same (changes_readExisting document existed) hexisting
  rcases runs_bind_iff.mp h₂ with ⟨text, d₃, htext, h₃⟩ | ⟨_, htext, -⟩
  case inr => exact .inl (((runs_lift_iff.mp htext).2.trans hd₂).trans hd₁)
  obtain ⟨hrender, hd₃⟩ := runs_lift_iff.mp htext
  rcases runs_bind_iff.mp h₃ with ⟨_, d₄, _, h₄⟩ | ⟨_, hwrite, -⟩
  · exact absurd (runs_pure_iff.mp h₄).1 (by simp)
  · have hsame : d₃ = disk := hd₃.trans (hd₂.trans hd₁)
    rw [hsame] at hwrite
    rcases ask_error hwrite with hnothing | ⟨hfails, hnothing | ⟨path, content, part, hop, hpart, -, -, hput⟩⟩
    · exact .inl hnothing
    · exact .inl hnothing
    · injection hop with hpath hcontent
      subst hpath hcontent
      exact .inr ⟨existing, text, part, hrender.symm, hpart, hfails, hput⟩

/-- A document is staged where nothing was. -/
theorem stageDocument_free {document : DocumentKey} {entry : Staged}
    (h : Runs (FileSystem mayFail) (stageDocument token documents document) disk (.ok entry) disk') :
    disk (.staged document token) = none := by
  obtain ⟨existed, d₁, hexists, h₁⟩ := runs_bind_ok.mp h
  obtain ⟨existing, d₂, hexisting, h₂⟩ := runs_bind_ok.mp h₁
  obtain ⟨text, d₃, htext, h₃⟩ := runs_bind_ok.mp h₂
  obtain ⟨_, d₄, hwrite, -⟩ := runs_bind_ok.mp h₃
  have hd₁ : d₁ = disk := disk_same (changes_read rfl) hexists
  have hd₂ : d₂ = d₁ := disk_same (changes_readExisting document existed) hexisting
  have hd₃ : d₃ = d₂ := (runs_lift_iff.mp htext).2
  rw [← hd₁, ← hd₂, ← hd₃]
  exact writeNew_free hwrite

/-- Only what was staged has a staged file, but for one that was broken off; what was staged had none. -/
theorem stageDocuments_traces {keys : List DocumentKey} {staged staged' : List Staged} {outcome : Except String Unit}
    (hnodup : (staged.map Staged.document ++ keys).Nodup)
    (h : Runs (FileSystem mayFail) (stageDocuments token documents keys staged) disk (.ok (staged', outcome)) disk') :
    (∀ entry ∈ staged, entry ∈ staged') ∧
      (∀ document ∈ staged'.map Staged.document,
        document ∈ staged.map Staged.document ∨ disk (.staged document token) = none) ∧
      ∃ left, PartLeft mayFail token documents staged' disk left ∧ (outcome = .ok () → left = disk) ∧
        ∀ document ∉ staged'.map Staged.document, disk' (.staged document token) = left (.staged document token) := by
  induction keys generalizing staged disk with
  | nil =>
      obtain ⟨hresult, rfl⟩ := runs_pure_iff.mp h
      cases Except.ok.inj hresult
      exact ⟨fun _ hentry => hentry, fun _ hmem => .inl hmem, disk', .inl rfl, fun _ => rfl, fun _ _ => rfl⟩
  | cons document rest ih =>
      obtain ⟨outcome₁, d₁, hstage, hrest⟩ := runs_attempt_bind_iff.mp h
      cases outcome₁ with
      | error e =>
          obtain ⟨hresult, rfl⟩ := runs_pure_iff.mp hrest
          cases Except.ok.inj hresult
          have hout : document ∉ staged'.map Staged.document := fun hmem =>
            (List.nodup_append.mp hnodup).2.2 _ hmem _ List.mem_cons_self rfl
          refine ⟨fun _ hentry => hentry, fun _ hmem => .inl hmem, disk', ?_, (fun hok => by cases hok),
            fun _ _ => rfl⟩
          exact (stageDocument_error hstage).imp id fun hbroken => ⟨document, hout, hbroken⟩
      | ok entry =>
          have hdocument : entry.document = document := (stageDocument_ok hstage).1
          have hnodup₁ : ((staged ++ [entry]).map Staged.document ++ rest).Nodup := by
            rw [List.map_append, List.map_singleton, hdocument, List.append_assoc]
            exact hnodup
          obtain ⟨hsub, hfree, left₁, hleft₁, hok, htraces⟩ := ih hnodup₁ hrest
          obtain ⟨left, hleft, hnothing, hsame⟩ := hleft₁.rebase disk
          refine ⟨fun other hother => hsub other (List.mem_append_left _ hother), fun other hother => ?_, left, hleft,
            fun hdone => hnothing (hok hdone), fun other hother => ?_⟩
          · by_cases heq : other = document
            · exact .inr (heq ▸ stageDocument_free hstage)
            · rcases hfree other hother with hmem | hnone
              · rw [List.map_append, List.map_singleton, hdocument] at hmem
                exact .inl ((List.mem_append.mp hmem).resolve_right fun h => heq (List.mem_singleton.mp h))
              · refine .inr (((changes_stageDocument document).same hstage fun hpath => heq ?_).symm.trans hnone)
                injection hpath
          rw [htraces other hother]
          refine hsame _ ((changes_stageDocument document).same hstage fun heq => hother ?_)
          have hentry : entry ∈ staged' := hsub entry (List.mem_append_right _ List.mem_cons_self)
          injection heq with hdocument' _
          rw [hdocument', ← hdocument]
          exact List.mem_map_of_mem hentry

/-- An entry that made no backup has written none. -/
theorem installDocument_backup {entry entry' : Staged} {outcome : Except String Unit}
    (h : Runs (FileSystem mayFail) (installDocument token entry) disk (.ok (entry', outcome)) disk')
    (hnone : entry'.backedUp = false) :
    disk' (.backup entry.document token) = disk (.backup entry.document token) := by
  obtain ⟨backedUp, d₁, hbackUp, h₁⟩ := runs_attempt_bind_iff.mp h
  rcases backUp_spec hbackUp with ⟨herror, rfl⟩ | ⟨rfl, -, hmoved⟩
  · cases backedUp with
    | ok _ => exact absurd rfl herror
    | error e =>
        obtain ⟨-, rfl⟩ := runs_pure_iff.mp h₁
        rfl
  · obtain ⟨installed, d₂, hlink, h₂⟩ := runs_attempt_bind_iff.mp h₁
    have hexisted : entry.existed = false := by
      cases installed with
      | error e =>
          cases Except.ok.inj (runs_pure_iff.mp h₂).1
          exact hnone
      | ok _ =>
          obtain ⟨removed, d₃, -, h₃⟩ := runs_attempt_bind_iff.mp h₂
          cases Except.ok.inj (runs_pure_iff.mp h₃).1
          exact hnone
    rw [if_neg (by rw [hexisted]; simp)] at hmoved
    have hlinked : d₂ (.backup entry.document token) = d₁ (.backup entry.document token) := ask_same rfl hlink (by simp)
    cases installed with
    | error e =>
        obtain ⟨-, rfl⟩ := runs_pure_iff.mp h₂
        rw [hlinked, hmoved]
    | ok _ =>
        obtain ⟨removed, d₃, hremove, h₃⟩ := runs_attempt_bind_iff.mp h₂
        obtain ⟨-, rfl⟩ := runs_pure_iff.mp h₃
        rw [ask_same rfl hremove (by simp), hlinked, hmoved]

theorem installDocument_document {entry entry' : Staged} {outcome : Except String Unit}
    (h : Runs (FileSystem mayFail) (installDocument token entry) disk (.ok (entry', outcome)) disk') :
    entry'.document = entry.document := by
  obtain ⟨backedUp, d₁, -, h₁⟩ := runs_attempt_bind_iff.mp h
  cases backedUp with
  | error e =>
      cases Except.ok.inj (runs_pure_iff.mp h₁).1
      rfl
  | ok _ =>
      obtain ⟨installed, d₂, -, h₂⟩ := runs_attempt_bind_iff.mp h₁
      cases installed with
      | error e =>
          cases Except.ok.inj (runs_pure_iff.mp h₂).1
          rfl
      | ok _ =>
          obtain ⟨removed, d₃, -, h₃⟩ := runs_attempt_bind_iff.mp h₂
          cases Except.ok.inj (runs_pure_iff.mp h₃).1
          rfl

theorem installDocuments_documents {entries entries' : List Staged} {outcome : Except String Unit}
    (h : Runs (FileSystem mayFail) (installDocuments token entries) disk (.ok (entries', outcome)) disk') :
    entries'.map Staged.document = entries.map Staged.document := by
  induction entries generalizing disk disk' entries' outcome with
  | nil =>
      cases Except.ok.inj (runs_pure_iff.mp h).1
      rfl
  | cons entry rest ih =>
      obtain ⟨⟨installed, outcome₁⟩, d₁, hinstall, hrest⟩ := runs_bind_ok.mp h
      have hdocument := installDocument_document hinstall
      cases outcome₁ with
      | error e =>
          cases Except.ok.inj (runs_pure_iff.mp hrest).1
          rw [List.map_cons, List.map_cons, hdocument]
      | ok _ =>
          obtain ⟨⟨installedRest, outcome₂⟩, d₂, hinstallRest, hreturn⟩ := runs_bind_ok.mp hrest
          cases Except.ok.inj (runs_pure_iff.mp hreturn).1
          rw [List.map_cons, List.map_cons, hdocument, ih hinstallRest]

/-- Only an entry that made a backup has one. -/
theorem installDocuments_backup {entries entries' : List Staged} {outcome : Except String Unit}
    (hnodup : (entries.map Staged.document).Nodup)
    (h : Runs (FileSystem mayFail) (installDocuments token entries) disk (.ok (entries', outcome)) disk') :
    ∀ entry ∈ entries', entry.backedUp = false →
      disk' (.backup entry.document token) = disk (.backup entry.document token) := by
  induction entries generalizing disk entries' outcome with
  | nil =>
      cases Except.ok.inj (runs_pure_iff.mp h).1
      exact fun _ hentry => absurd hentry List.not_mem_nil
  | cons entry rest ih =>
      obtain ⟨⟨installed, outcome₁⟩, d₁, hinstall, hrest⟩ := runs_bind_ok.mp h
      obtain ⟨hnew, hnodup'⟩ := List.nodup_cons.mp hnodup
      have hdocument := installDocument_document hinstall
      have hother : ∀ other ∈ rest, ∀ path, OwnPath token other.document path → d₁ path = disk path := by
        intro other hmem path hpath
        refine (changes_installDocument entry).same hinstall fun hown => hnew ?_
        rw [ownPath_unique hown hpath]
        exact List.mem_map_of_mem hmem
      have hfirst : installed.backedUp = false →
          d₁ (.backup installed.document token) = disk (.backup installed.document token) := by
        rw [hdocument]
        exact installDocument_backup hinstall
      cases outcome₁ with
      | error e =>
          obtain ⟨hresult, rfl⟩ := runs_pure_iff.mp hrest
          cases Except.ok.inj hresult
          intro other hmem hnone
          rcases List.mem_cons.mp hmem with rfl | hmem
          · exact hfirst hnone
          · exact hother other hmem _ (.inr (.inl rfl))
      | ok _ =>
          obtain ⟨⟨installedRest, outcome₂⟩, d₂, hinstallRest, hreturn⟩ := runs_bind_ok.mp hrest
          obtain ⟨hresult, rfl⟩ := runs_pure_iff.mp hreturn
          cases Except.ok.inj hresult
          intro other hmem hnone
          rcases List.mem_cons.mp hmem with rfl | hmem
          · refine Eq.trans ((changes_installDocuments rest).same hinstallRest ?_) (hfirst hnone)
            rintro ⟨next, hnext, hown⟩
            rw [← hdocument, ownPath_unique (.inr (.inl rfl)) hown] at hnew
            exact hnew (List.mem_map_of_mem hnext)
          · have hdocuments : other.document ∈ rest.map Staged.document := by
              rw [← installDocuments_documents hinstallRest]
              exact List.mem_map_of_mem hmem
            obtain ⟨next, hnext, hsame⟩ := List.mem_map.mp hdocuments
            rw [ih hnodup' hinstallRest other hmem hnone]
            exact hother next hnext _ (.inr (.inl (by rw [hsame])))

/-- A path stays as it is, or is removed. -/
def StaysOrGoes (path : DiskPath) (v : Option Entry) (disk : Disk) : Prop := disk path = v ∨ disk path = none

theorem keeps_staysOrGoes {phase : Phase} {op : FileOp} {path : DiskPath} (v : Option Entry)
    (hop : path ∉ op.writes ∨ ∃ force, op = .remove path force) :
    Keeps (FileSystem mayFail) (StaysOrGoes path v) (ask phase op) := by
  refine keeps_perform fun disk answer disk' hdisk hcall => ?_
  rcases hop with hother | ⟨force, rfl⟩
  · unfold StaysOrGoes
    rw [fileSystem_other hother hcall]
    exact hdisk
  · rcases hcall with hanswer | ⟨-, rfl | ⟨written, content, part, hwrite, -⟩, -⟩
    · have hdisk' : disk' = (disk.answer (.remove path force)).2 := congrArg Prod.snd hanswer
      rw [hdisk']
      simp only [Disk.answer]
      split
      · split <;> exact hdisk
      · exact hdisk
      · exact .inr (Disk.put_same _ _ _)
    · exact hdisk
    · cases hwrite

/-- The installs remove staged files, and write none. -/
theorem keeps_installDocuments (entries : List Staged) (document : DocumentKey) (v : Option Entry) :
    Keeps (FileSystem mayFail) (StaysOrGoes (.staged document token) v) (installDocuments token entries) := by
  induction entries with
  | nil => exact keeps_done _
  | cons entry rest ih =>
      have hinstall : Keeps (FileSystem mayFail) (StaysOrGoes (.staged document token) v)
          (installDocument token entry) := by
        refine keeps_bind (keeps_attempt (keeps_ite (keeps_staysOrGoes v (.inl ?_)) (keeps_done _))) fun backedUp => ?_
        · simp [FileOp.writes]
        cases backedUp with
        | error e => exact keeps_done _
        | ok _ =>
            refine keeps_bind (keeps_attempt (keeps_staysOrGoes v (.inl ?_))) fun installed => ?_
            · simp [FileOp.writes]
            cases installed with
            | error e => exact keeps_done _
            | ok _ =>
                refine keeps_bind (keeps_attempt (keeps_staysOrGoes v ?_)) fun removed => keeps_done _
                by_cases hdocument : document = entry.document
                · exact .inr ⟨false, by rw [hdocument]⟩
                · refine .inl fun hmem => hdocument ?_
                  injection List.mem_singleton.mp hmem
      refine keeps_bind hinstall fun result => ?_
      obtain ⟨entry', outcome⟩ := result
      cases outcome with
      | error e => exact keeps_done _
      | ok _ => exact keeps_bind ih fun _ => keeps_done _

/-- What the body of a commit leaves of its files, over what is left beside them: the staged files of its entries, and
the backups that they made. -/
structure Traces (token : String) (original disk : Disk) (staged : List Staged) : Prop where
  stagedFiles : ∀ document ∉ staged.map Staged.document,
    disk (.staged document token) = original (.staged document token)
  backups : ∀ document, (∀ entry, entry ∈ staged → entry.document = document → entry.backedUp = false) →
    disk (.backup document token) = original (.backup document token)
  free : ∀ document ∈ staged.map Staged.document, original (.staged document token) = none
  plain : ∀ document ∈ staged.map Staged.document, disk (.staged document token) ≠ some (.node .directory)
  other : ∀ path, path ≠ .documentsDir → (∀ document, ¬ OwnPath token document path) → disk path = original path

/-- **What the staging leaves behind**, over a disk that differs in the directory alone: the staged files of its
entries, and at most one that was broken off. -/
theorem stageDocuments_leaves {staged : List Staged} {outcome : Except String Unit}
    (hmade : ∀ path, path ≠ .documentsDir → disk path = original path)
    (h : Runs (FileSystem mayFail) (stageDocuments token documents documentKeys []) disk (.ok (staged, outcome)) disk') :
    ∃ left, PartLeft mayFail token documents staged original left ∧ Traces token left disk' staged ∧
      (outcome = .ok () → left = original) := by
  have hkeys : (([] : List Staged).map Staged.document ++ documentKeys).Nodup := documentKeys_nodup
  have hready := (stageDocuments_ready hkeys (fun _ hmem => absurd hmem List.not_mem_nil) (fun _ => rfl) h).1
  have hchanges : Changes mayFail (fun path => ∃ document ∈ documentKeys, path = .staged document token)
      (stageDocuments token documents documentKeys []) := changes_stageDocuments _ _
  obtain ⟨-, hfree, broken, hbroken, hstaged, htraces⟩ := stageDocuments_traces hkeys h
  obtain ⟨left, hleft, hnothing, hsame⟩ := hbroken.rebase original
  refine ⟨left, hleft, ⟨fun document hnone => ?_, fun document _ => ?_, fun document hmem => ?_,
    fun document hmem => ?_, fun path hpath hown => ?_⟩, fun hok => hnothing (hstaged hok)⟩
  · rw [htraces document hnone, hsame _ (hmade _ (by simp))]
  · rw [hchanges.same h (by simp), hmade _ (by simp), hleft.other (by simp)]
  · rw [hleft.entry hmem, ← hmade _ (by simp)]
    exact (hfree document hmem).resolve_left List.not_mem_nil
  · obtain ⟨entry, hentry, rfl⟩ := List.mem_map.mp hmem
    obtain ⟨-, -, existing, text, -, -, hfile⟩ := hready entry hentry
    rw [hfile]
    simp
  · have hnot : ∀ document, path ≠ .staged document token := fun document heq => hown document (.inr (.inr heq))
    rw [hchanges.same h fun ⟨document, _, heq⟩ => hnot document heq, hmade _ hpath, hleft.other hnot]

/-- **What the installs leave behind**, where nothing was backed up before them. -/
theorem Traces.installed {staged entries : List Staged} {outcome : Except String Unit}
    (htraces : Traces token original disk staged) (hnodup : (staged.map Staged.document).Nodup)
    (hnone : ∀ entry ∈ staged, entry.backedUp = false)
    (h : Runs (FileSystem mayFail) (installDocuments token staged) disk (.ok (entries, outcome)) disk') :
    Traces token original disk' entries := by
  have hdocuments := installDocuments_documents h
  have hchanges : Changes mayFail (fun path => ∃ entry ∈ staged, OwnPath token entry.document path)
      (installDocuments token staged) := changes_installDocuments _
  refine ⟨fun document hout => ?_, fun document hbackups => ?_, fun document hmem => ?_, fun document hmem => ?_,
    fun path hpath hown => ?_⟩
  · rw [hdocuments] at hout
    rw [hchanges.same h ?_, htraces.stagedFiles document hout]
    rintro ⟨entry, hentry, howns⟩
    rw [ownPath_unique (.inr (.inr rfl)) howns] at hout
    exact hout (List.mem_map_of_mem hentry)
  · rw [← htraces.backups document fun entry hentry _ => hnone entry hentry]
    by_cases hmem : document ∈ entries.map Staged.document
    · obtain ⟨entry, hentry, rfl⟩ := List.mem_map.mp hmem
      exact installDocuments_backup hnodup h entry hentry (hbackups entry hentry rfl)
    · refine hchanges.same h ?_
      rintro ⟨entry, hentry, howns⟩
      rw [hdocuments, ownPath_unique (.inr (.inl rfl)) howns] at hmem
      exact hmem (List.mem_map_of_mem hentry)
  · rw [hdocuments] at hmem
    exact htraces.free document hmem
  · rw [hdocuments] at hmem
    rcases keeps_installDocuments staged document (disk (.staged document token)) disk _ disk' (.inl rfl) h
      with hstays | hgoes
    · rw [hstays]
      exact htraces.plain document hmem
    · rw [hgoes]
      simp
  · rw [hchanges.same h ?_, htraces.other path hpath hown]
    rintro ⟨entry, -, howns⟩
    exact hown entry.document howns

/-- **What the body leaves behind**, however it ends; where it does not throw, no file was broken off, and where it
returns a result, it made no backup. -/
theorem commitBody_traces {staged : List Staged} {outcome : Except String (Option CommitDocumentsResult)}
    (h : Runs (FileSystem mayFail) (commitBody sha256 token request) disk (.ok (staged, outcome)) disk') :
    (∃ left, PartLeft mayFail token request.documents staged disk left ∧ Traces token left disk' staged ∧
      ∀ result, outcome = .ok result → left = disk) ∧
      ∀ result, outcome = .ok (some result) → ∀ entry ∈ staged, entry.backedUp = false := by
  obtain ⟨made, d₁, hmkdir, h₁⟩ := runs_attempt_bind_iff.mp h
  have hmade : ∀ path, path ≠ .documentsDir → d₁ path = disk path := fun path hpath => ask_same rfl hmkdir hpath
  cases made with
  | error e =>
      obtain ⟨hresult, rfl⟩ := runs_pure_iff.mp h₁
      cases Except.ok.inj hresult
      exact ⟨⟨disk, .inl rfl, ⟨fun _ _ => hmade _ (by simp), fun _ _ => hmade _ (by simp),
        fun _ hmem => absurd hmem List.not_mem_nil, fun _ hmem => absurd hmem List.not_mem_nil,
        fun path hpath _ => hmade path hpath⟩,
        fun _ _ => rfl⟩, fun _ hresult => by cases hresult⟩
  | ok _ =>
      obtain ⟨⟨staged₁, outcome₁⟩, d₂, hstage, h₂⟩ := runs_bind_ok.mp h₁
      have hkeys : (([] : List Staged).map Staged.document ++ documentKeys).Nodup := documentKeys_nodup
      obtain ⟨hready, -, hprefix, -⟩ := stageDocuments_ready hkeys
        (fun _ hmem => absurd hmem List.not_mem_nil) (fun _ => rfl) hstage
      have hnone : ∀ entry ∈ staged₁, entry.backedUp = false := fun entry hentry => (hready entry hentry).1
      obtain ⟨left, hleft, htraces, hnothing⟩ := stageDocuments_leaves hmade hstage
      cases outcome₁ with
      | error e =>
          obtain ⟨hresult, rfl⟩ := runs_pure_iff.mp h₂
          cases Except.ok.inj hresult
          exact ⟨⟨left, hleft, htraces, fun _ hresult => by cases hresult⟩, fun _ hresult => by cases hresult⟩
      | ok _ =>
          obtain ⟨captured, d₃, hcapture, h₃⟩ := runs_attempt_bind_iff.mp h₂
          have hsame : d₃ = d₂ := disk_same (changes_captureDocumentsBase sha256 _ _) hcapture
          subst hsame
          cases captured with
          | error e =>
              obtain ⟨hresult, rfl⟩ := runs_pure_iff.mp h₃
              cases Except.ok.inj hresult
              exact ⟨⟨left, hleft, htraces, fun _ _ => hnothing rfl⟩, fun _ hresult => by cases hresult⟩
          | ok baseHash =>
              simp only at h₃
              split at h₃
              · -- another base was found: nothing is installed
                obtain ⟨hresult, rfl⟩ := runs_pure_iff.mp h₃
                cases Except.ok.inj hresult
                exact ⟨⟨left, hleft, htraces, fun _ _ => hnothing rfl⟩, fun _ _ => hnone⟩
              · obtain ⟨⟨entries, outcome₂⟩, d₄, hinstall, h₄⟩ := runs_bind_ok.mp h₃
                obtain ⟨hresult, rfl⟩ := runs_pure_iff.mp h₄
                cases Except.ok.inj hresult
                have hnodup : (staged₁.map Staged.document).Nodup := documentKeys_nodup.sublist hprefix.sublist
                refine ⟨⟨left, ?_, htraces.installed hnodup hnone hinstall, fun _ _ => hnothing rfl⟩,
                  fun result hresult => ?_⟩
                · unfold PartLeft at hleft ⊢
                  rwa [installDocuments_documents hinstall]
                · cases outcome₂ with
                  | ok _ => cases hresult
                  | error e => cases hresult

end Traces

/-! ### Removing the files of the commit -/

/-- **The cleanup** removes the staged files of the entries. -/
theorem removeStaged_spec {entries : List Staged}
    (hplain : ∀ entry ∈ entries, disk (.staged entry.document token) ≠ some (.node .directory))
    {r : Except String Unit} (h : Runs SureFileSystem (removeStaged token entries) disk r disk') :
    r = .ok () ∧ ∀ document, disk' (.staged document token) =
      if document ∈ entries.map Staged.document then none else disk (.staged document token) := by
  induction entries generalizing disk with
  | nil =>
      obtain ⟨rfl, rfl⟩ := runs_pure_iff.mp h
      exact ⟨rfl, fun document => (if_neg List.not_mem_nil).symm⟩
  | cons entry rest ih =>
      rcases runs_bind_iff.mp h with ⟨_, d₁, hremove, hrest⟩ | ⟨e, hremove, -⟩
      case inr => exact absurd (remove_sure (hplain entry List.mem_cons_self) hremove).1 (by simp)
      obtain ⟨-, rfl⟩ := remove_sure (hplain entry List.mem_cons_self) hremove
      have hplain' : ∀ other ∈ rest,
          disk.put (.staged entry.document token) none (.staged other.document token) ≠ some (.node .directory) := by
        intro other hother
        unfold Disk.put
        split
        · simp
        · exact hplain other (List.mem_cons_of_mem _ hother)
      obtain ⟨hdone, hremoved⟩ := ih hplain' hrest
      refine ⟨hdone, fun document => ?_⟩
      rw [hremoved document, List.map_cons]
      by_cases hmem : document ∈ rest.map Staged.document
      · rw [if_pos hmem, if_pos (List.mem_cons_of_mem _ hmem)]
      · rw [if_neg hmem]
        by_cases hfirst : document = entry.document
        · rw [hfirst, Disk.put_same, if_pos List.mem_cons_self]
        · rw [Disk.put_other (by simpa using hfirst), if_neg]
          exact fun hcons => (List.mem_cons.mp hcons).elim hfirst hmem

/-- The end of a commit removes the backups that were made. -/
theorem removeBackups_spec {entries : List Staged}
    (hplain : ∀ entry ∈ entries, entry.backedUp = true →
      disk (.backup entry.document token) ≠ some (.node .directory))
    {r : Except String Unit} (h : Runs SureFileSystem (removeBackups token entries) disk r disk') :
    r = .ok () ∧ ∀ document, disk' (.backup document token) =
      if document ∈ (entries.filter Staged.backedUp).map Staged.document then none
      else disk (.backup document token) := by
  induction entries generalizing disk with
  | nil =>
      obtain ⟨rfl, rfl⟩ := runs_pure_iff.mp h
      exact ⟨rfl, fun document => (if_neg List.not_mem_nil).symm⟩
  | cons entry rest ih =>
      cases hbackedUp : entry.backedUp with
      | false =>
          rw [removeBackups, hbackedUp] at h
          have hrest : Runs SureFileSystem (removeBackups token rest) disk r disk' := h
          rw [List.filter_cons_of_neg (by rw [hbackedUp]; simp)]
          exact ih (fun other hother => hplain other (List.mem_cons_of_mem _ hother)) hrest
      | true =>
          rw [removeBackups, hbackedUp] at h
          have hsafe := hplain entry List.mem_cons_self hbackedUp
          rcases runs_bind_iff.mp h with ⟨_, d₁, hremove, hrest⟩ | ⟨e, hremove, -⟩
          case inr => exact absurd (remove_sure hsafe hremove).1 (by simp)
          obtain ⟨-, rfl⟩ := remove_sure hsafe hremove
          have hplain' : ∀ other ∈ rest, other.backedUp = true →
              disk.put (.backup entry.document token) none (.backup other.document token) ≠
                some (.node .directory) := by
            intro other hother hmade
            unfold Disk.put
            split
            · simp
            · exact hplain other (List.mem_cons_of_mem _ hother) hmade
          obtain ⟨hdone, hremoved⟩ := ih hplain' hrest
          refine ⟨hdone, fun document => ?_⟩
          rw [hremoved document, List.filter_cons_of_pos hbackedUp, List.map_cons]
          by_cases hmem : document ∈ (rest.filter Staged.backedUp).map Staged.document
          · rw [if_pos hmem, if_pos (List.mem_cons_of_mem _ hmem)]
          · rw [if_neg hmem]
            by_cases hfirst : document = entry.document
            · rw [hfirst, Disk.put_same, if_pos List.mem_cons_self]
            · rw [Disk.put_other (by simpa using hfirst), if_neg]
              exact fun hcons => (List.mem_cons.mp hcons).elim hfirst hmem

/-! ### What a check of the base has seen -/

section Checks

variable {phase : Phase} {rootDir : String}

/-- A sure question is answered by the disk, which stays as it is. -/
theorem read_sure {op : FileOp} (hop : op.writes = []) {answer : Except String op.Answer}
    (h : Runs SureFileSystem (ask phase op) disk answer disk') : answer = (disk.answer op).1 ∧ disk' = disk :=
  ⟨congrArg Prod.fst (ask_answer h), disk_same (changes_read hop) h⟩

/-- What a directory check that passes has seen. -/
theorem resolveDocumentsDir_seen
    (h : Runs SureFileSystem (resolveDocumentsDir phase rootDir) disk (.ok ()) disk') :
    ¬ Blank rootDir ∧ (disk .root).bind Entry.follow = some .directory ∧
      ((disk .documentsDir).bind Entry.follow = none ∨ disk .documentsDir = some (.node .directory)) := by
  unfold resolveDocumentsDir at h
  split at h
  · cases (runs_fail_iff.mp h).1
  · next hroot =>
      obtain ⟨isDirectory, d₁, hdirectory, h₁⟩ := runs_bind_ok.mp h
      obtain ⟨hroot', rfl⟩ := read_sure rfl hdirectory
      split at h₁
      · cases (runs_fail_iff.mp h₁).1
      · next htrue =>
          have hfound : (d₁ .root).bind Entry.follow = some .directory := by
            simp only [Disk.answer] at hroot'
            split at hroot'
            · cases hroot'
            · next n hn =>
                cases hroot'
                rw [hn]
                simpa using htrue
          refine ⟨hroot, hfound, ?_⟩
          obtain ⟨present, d₂, hexists, h₂⟩ := runs_bind_ok.mp h₁
          obtain ⟨hpresent, rfl⟩ := read_sure rfl hexists
          have hisSome := Except.ok.inj hpresent
          split at h₂
          · next hfalse =>
              rw [hfalse] at hisSome
              exact .inl (Option.isNone_iff_eq_none.mp (by simpa using hisSome.symm))
          · obtain ⟨real, d₃, hreal, h₃⟩ := runs_bind_ok.mp h₂
            obtain ⟨hanswer, rfl⟩ := read_sure rfl hreal
            split at h₃
            · next hreally =>
                rw [hreally] at hanswer
                simp only [Disk.answer] at hanswer
                split at hanswer
                · cases hanswer
                · next hentry => exact .inr hentry
                · cases hanswer
            · cases (runs_fail_iff.mp h₃).1

/-- No directory stands in the place of a document that was read. -/
theorem baseRecord_seen {document : DocumentKey} {record : List UInt8}
    (h : Runs SureFileSystem (baseRecord phase document) disk (.ok record) disk') :
    disk (.target document) ≠ some (.node .directory) := by
  obtain ⟨present, d₁, hexists, h₁⟩ := runs_bind_ok.mp h
  obtain ⟨hpresent, rfl⟩ := read_sure rfl hexists
  have hisSome := Except.ok.inj hpresent
  intro hdirectory
  rw [hdirectory] at hisSome
  split at h₁
  · next hfalse =>
      rw [hfalse] at hisSome
      cases hisSome
  · obtain ⟨real, d₂, hreal, h₂⟩ := runs_bind_ok.mp h₁
    obtain ⟨hanswer, rfl⟩ := read_sure rfl hreal
    simp only [Disk.answer, hdirectory] at hanswer
    cases hanswer
    cases (runs_fail_iff.mp h₂).1

/-- What a base that was captured has seen. -/
theorem captureDocumentsBase_seen {sha256 : List UInt8 → String} {base : String}
    (h : Runs SureFileSystem (captureDocumentsBase sha256 phase rootDir) disk (.ok base) disk') :
    ∀ document, disk (.target document) ≠ some (.node .directory) := by
  obtain ⟨_, d₁, hresolve, h₁⟩ := runs_bind_ok.mp h
  have hsame : d₁ = disk := disk_same (changes_resolveDocumentsDir _ _) hresolve
  subst hsame
  obtain ⟨records, d₂, hrecords, -⟩ := runs_bind_ok.mp h₁
  have hall : ∀ {documents : List DocumentKey} {records : List UInt8} {d : Disk},
      Runs SureFileSystem (baseRecords phase documents) d₁ (.ok records) d →
        ∀ document ∈ documents, d₁ (.target document) ≠ some (.node .directory) := by
    intro documents
    induction documents with
    | nil => exact fun _ document hmem => absurd hmem List.not_mem_nil
    | cons document rest ih =>
        intro records d hrun other hmem
        obtain ⟨record, d₃, hrecord, hrest⟩ := runs_bind_ok.mp hrun
        have hsame : d₃ = d₁ := disk_same (changes_baseRecord phase document) hrecord
        subst hsame
        rcases List.mem_cons.mp hmem with rfl | hmem
        · exact baseRecord_seen hrecord
        · obtain ⟨records', d₄, hrecords', -⟩ := runs_bind_ok.mp hrest
          exact ih hrecords' other hmem
  exact fun document => hall hrecords document (mem_documentKeys document)

end Checks

/-! ### All or none -/

section Commit

variable {mayFail : FileCall → Prop} {sha256 : List UInt8 → String} {request : CommitDocumentsRequest}

/-- No file carries the token yet. -/
def FreshToken (token : String) (disk : Disk) : Prop :=
  ∀ document, disk (.staged document token) = none ∧ disk (.backup document token) = none

/-- No backup carries the token yet. -/
def FreeBackups (token : String) (disk : Disk) : Prop := ∀ document, disk (.backup document token) = none

theorem FreshToken.backups (h : FreshToken token disk) : FreeBackups token disk := fun document => (h document).2

theorem mkdir_makes {phase : Phase}
    (hdir : (disk .documentsDir).bind Entry.follow = none ∨ disk .documentsDir = some (.node .directory))
    (h : Runs (FileSystem mayFail) (ask phase (.mkdir .documentsDir)) disk (.ok ()) disk') :
    disk' .documentsDir = some (.node .directory) := by
  have hanswer := ask_ok h (fun _ => by simp [FileOp.failure])
  simp only [Disk.answer] at hanswer
  split at hanswer
  · cases hanswer
    exact Disk.put_same _ _ _
  · next entry hentry =>
      split at hanswer
      · next hfollow =>
          cases hanswer
          rcases hdir with hnone | hreal
          · rw [hentry, Option.bind_some, hfollow] at hnone
            cases hnone
          · exact hreal
      · cases hanswer

/-- A body that gets through has made the directory. -/
theorem commitBody_directory {staged : List Staged}
    (hdir : (disk .documentsDir).bind Entry.follow = none ∨ disk .documentsDir = some (.node .directory))
    (h : Runs (FileSystem mayFail) (commitBody sha256 token request) disk (.ok (staged, .ok none)) disk') :
    disk' .documentsDir = some (.node .directory) := by
  obtain ⟨made, d₁, hmkdir, h₁⟩ := runs_attempt_bind_iff.mp h
  cases made with
  | error e => cases Except.ok.inj (runs_pure_iff.mp h₁).1
  | ok _ =>
      rw [← mkdir_makes hdir hmkdir]
      -- the rest of the body writes no directory
      obtain ⟨⟨staged₁, outcome₁⟩, d₂, hstage, h₂⟩ := runs_bind_ok.mp h₁
      have hstaged : d₂ .documentsDir = d₁ .documentsDir := (changes_stageDocuments _ _).same hstage (by simp)
      cases outcome₁ with
      | error e => cases Except.ok.inj (runs_pure_iff.mp h₂).1
      | ok _ =>
          obtain ⟨captured, d₃, hcapture, h₃⟩ := runs_attempt_bind_iff.mp h₂
          have hcaptured : d₃ = d₂ := disk_same (changes_captureDocumentsBase sha256 _ _) hcapture
          cases captured with
          | error e => cases Except.ok.inj (runs_pure_iff.mp h₃).1
          | ok baseHash =>
              simp only at h₃
              split at h₃
              · cases Except.ok.inj (runs_pure_iff.mp h₃).1
              · obtain ⟨⟨entries, outcome₂⟩, d₄, hinstall, h₄⟩ := runs_bind_ok.mp h₃
                obtain ⟨-, rfl⟩ := runs_pure_iff.mp h₄
                rw [(changes_installDocuments _).same hinstall (by simp [OwnPath]), hcaptured, hstaged]

theorem neverThrows_stageDocuments (documents : DocumentsContent) (keys : List DocumentKey) (staged : List Staged) :
    NeverThrows (stageDocuments token documents keys staged) := by
  induction keys generalizing staged with
  | nil => exact neverThrows_pure _
  | cons document rest ih =>
      refine neverThrows_bind (neverThrows_attempt _) fun outcome => ?_
      cases outcome with
      | error e => exact neverThrows_pure _
      | ok entry => exact ih _

theorem neverThrows_installDocuments (entries : List Staged) : NeverThrows (installDocuments token entries) := by
  induction entries with
  | nil => exact neverThrows_pure _
  | cons entry rest ih =>
      have hentry : NeverThrows (installDocument token entry) := by
        refine neverThrows_bind (neverThrows_attempt _) fun backedUp => ?_
        cases backedUp with
        | error e => exact neverThrows_pure _
        | ok _ =>
            refine neverThrows_bind (neverThrows_attempt _) fun installed => ?_
            cases installed with
            | error e => exact neverThrows_pure _
            | ok _ => exact neverThrows_bind (neverThrows_attempt _) fun removed => neverThrows_pure _
      refine neverThrows_bind hentry fun result => ?_
      obtain ⟨entry', outcome⟩ := result
      cases outcome with
      | error e => exact neverThrows_pure _
      | ok _ => exact neverThrows_bind ih fun _ => neverThrows_pure _

/-- The body catches what its calls throw. -/
theorem neverThrows_commitBody : NeverThrows (commitBody sha256 token request) := by
  refine neverThrows_bind (neverThrows_attempt _) fun made => ?_
  cases made with
  | error e => exact neverThrows_pure _
  | ok _ =>
      refine neverThrows_bind (neverThrows_stageDocuments _ _ _) fun result => ?_
      obtain ⟨staged, outcome⟩ := result
      cases outcome with
      | error e => exact neverThrows_pure _
      | ok _ =>
          refine neverThrows_bind (neverThrows_attempt _) fun captured => ?_
          cases captured with
          | error e => exact neverThrows_pure _
          | ok baseHash =>
              simp only
              split
              · exact neverThrows_pure _
              · exact neverThrows_bind (neverThrows_installDocuments _) fun result => neverThrows_pure _

/-- Entries of different documents. -/
theorem entry_unique {staged : List Staged} (hnodup : (staged.map Staged.document).Nodup) {a b : Staged}
    (ha : a ∈ staged) (hb : b ∈ staged) (h : a.document = b.document) : a = b :=
  List.inj_on_of_nodup_map hnodup ha hb h

/-- What a commit may leave: the files that carry its token are gone, and all other paths are as they were. -/
def LeavesNothing (original disk : Disk) : Prop :=
  ∀ path, path ≠ .documentsDir → (∀ document, path ≠ .target document) → disk path = original path

/-- A commit may leave the staged file of a document whose writing has failed, broken off in its text. -/
def LeavesPart (mayFail : FileCall → Prop) (token : String) (documents : DocumentsContent) (original disk : Disk) :
    Prop :=
  ∃ document left, BrokenOff mayFail token documents document original left ∧ LeavesNothing left disk

/-- Removing the staged files leaves every other path. -/
theorem removeStaged_others {staged : List Staged} {r : Except String Unit}
    (h : Runs (FileSystem mayFail) (removeStaged token staged) disk r disk') {path : DiskPath}
    (hpath : ∀ document, path ≠ .staged document token) : disk' path = disk path :=
  (changes_removeStaged staged).same h fun ⟨document, hwritten⟩ => hpath document hwritten

/-- A commit that gave up: its undoing has brought the documents back. -/
theorem rolledBack {staged : List Staged} {e : String} {d d₁ : Disk} {r₁ : Except String (List String)}
    {r₂ : Except String Unit} (hbackup : FreeBackups token disk)
    (hbody : Runs (FileSystem mayFail) (commitBody sha256 token request) disk (.ok (staged, .error e)) d)
    (hrollback : Runs SureFileSystem (rollback token staged.reverse) d r₁ d₁)
    (hcleanup : Runs SureFileSystem (removeStaged token staged) d₁ r₂ disk') :
    r₁ = .ok [] ∧ r₂ = .ok () ∧ (∀ document, disk' (.target document) = disk (.target document)) ∧
      (LeavesNothing disk disk' ∨ LeavesPart mayFail token request.documents disk disk') := by
  obtain ⟨hnodup, hrecoverable, huntouched, -, -⟩ := commitBody_spec hbody
  obtain ⟨⟨left, hleft, htraces, -⟩, -⟩ := commitBody_traces hbody
  have hleftBackup : ∀ document, left (.backup document token) = none :=
    fun document => (hleft.other (by simp)).trans (hbackup document)
  have hnodup' : (staged.reverse.map Staged.document).Nodup := by
    rw [List.map_reverse]
    exact List.nodup_reverse.mpr hnodup
  obtain ⟨hundo, hrestored⟩ := rollback_spec hnodup'
    (fun entry hentry => hrecoverable entry (List.mem_reverse.mp hentry)) hrollback
  have hreverse : ∀ {document}, document ∉ staged.map Staged.document →
      document ∉ staged.reverse.map Staged.document := by
    intro document hout
    rwa [List.map_reverse, List.mem_reverse]
  have hundone : ∀ path, (∀ document, path ≠ .target document ∧ path ≠ .backup document token) → d₁ path = d path := by
    intro path hpath
    refine (changes_rollback staged.reverse).same hrollback ?_
    rintro ⟨entry, -, hwritten | hwritten⟩
    · exact (hpath entry.document).1 hwritten
    · exact (hpath entry.document).2 hwritten
  have hplain : ∀ entry ∈ staged, d₁ (.staged entry.document token) ≠ some (.node .directory) := by
    intro entry hentry
    rw [hundone _ fun document => ⟨by simp, by simp⟩]
    exact htraces.plain entry.document (List.mem_map_of_mem hentry)
  obtain ⟨hclean, hremoved⟩ := removeStaged_spec hplain hcleanup
  have hkept : ∀ path, (∀ document, path ≠ .staged document token) → disk' path = d₁ path :=
    fun path hpath => removeStaged_others hcleanup hpath
  suffices hleaves : LeavesNothing left disk' by
    refine ⟨hundo, hclean, fun document => ?_, ?_⟩
    · rw [hkept _ (by simp)]
      by_cases hmem : document ∈ staged.map Staged.document
      · obtain ⟨entry, hentry, rfl⟩ := List.mem_map.mp hmem
        exact (hrestored entry (List.mem_reverse.mpr hentry)).target
      · rw [← huntouched document hmem]
        exact rollback_others (hreverse hmem) hrollback (.inl rfl)
    · rcases hleft with rfl | ⟨document, -, hbroken⟩
      · exact .inl hleaves
      · exact .inr ⟨document, left, hbroken, hleaves⟩
  intro path hdir htarget
  · by_cases hown : ∃ document, OwnPath token document path
    · obtain ⟨document, rfl | rfl | rfl⟩ := hown
      · exact absurd rfl (htarget document)
      · -- a backup was moved back, or never made
        rw [hkept _ (by simp), hleftBackup document]
        by_cases hmem : document ∈ staged.map Staged.document
        · obtain ⟨entry, hentry, rfl⟩ := List.mem_map.mp hmem
          rw [(hrestored entry (List.mem_reverse.mpr hentry)).backup]
          cases hbackedUp : entry.backedUp with
          | true => rfl
          | false =>
              rw [if_neg (by simp), ← hleftBackup entry.document]
              refine htraces.backups entry.document fun other hother hsame => ?_
              rw [entry_unique hnodup hother hentry hsame]
              exact hbackedUp
        · rw [← hleftBackup document, ← htraces.backups document fun entry hentry hsame =>
            absurd (hsame ▸ List.mem_map_of_mem hentry) hmem]
          exact rollback_others (hreverse hmem) hrollback (.inr (.inl rfl))
      · rw [hremoved document]
        split
        · next hmem => exact (htraces.free document hmem).symm
        · next hnone => rw [hundone _ fun document => ⟨by simp, by simp⟩, htraces.stagedFiles document hnone]
    · have hnot : ∀ document, ¬ OwnPath token document path := fun document h => hown ⟨document, h⟩
      rw [hkept path fun document h => hnot document (.inr (.inr h)),
        hundone path fun document => ⟨htarget document, fun h => hnot document (.inr (.inl h))⟩]
      exact htraces.other path hdir hnot

/-- A commit that saw another base: it has installed nothing. -/
theorem stoodBack {staged : List Staged} {result : CommitDocumentsResult} {d : Disk} {r : Except String Unit}
    (hbody : Runs (FileSystem mayFail) (commitBody sha256 token request) disk (.ok (staged, .ok (some result))) d)
    (hcleanup : Runs SureFileSystem (removeStaged token staged) d r disk') :
    r = .ok () ∧ (∀ base, result ≠ .committed base) ∧
      (∀ document, disk' (.target document) = disk (.target document)) ∧ LeavesNothing disk disk' := by
  obtain ⟨hnot, htargets⟩ := (commitBody_spec hbody).2.2.2.2 result rfl
  obtain ⟨⟨left, -, htraces, hnothing⟩, hbackups⟩ := commitBody_traces hbody
  rw [hnothing _ rfl] at htraces
  obtain ⟨hclean, hremoved⟩ := removeStaged_spec
    (fun entry hentry => htraces.plain entry.document (List.mem_map_of_mem hentry)) hcleanup
  have hkept : ∀ path, (∀ document, path ≠ .staged document token) → disk' path = d path :=
    fun path hpath => removeStaged_others hcleanup hpath
  refine ⟨hclean, hnot, fun document => ?_, fun path hdir htarget => ?_⟩
  · rw [hkept _ (by simp), htargets document]
  · by_cases hown : ∃ document, OwnPath token document path
    · obtain ⟨document, rfl | rfl | rfl⟩ := hown
      · exact absurd rfl (htarget document)
      · rw [hkept _ (by simp)]
        exact htraces.backups document fun entry hentry _ => hbackups result rfl entry hentry
      · rw [hremoved document]
        split
        · next hmem => exact (htraces.free document hmem).symm
        · next hnone => exact htraces.stagedFiles document hnone
    · have hnot : ∀ document, ¬ OwnPath token document path := fun document h => hown ⟨document, h⟩
      rw [hkept path fun document h => hnot document (.inr (.inr h))]
      exact htraces.other path hdir hnot

/-- A commit that got through: nothing but its documents is left. -/
theorem cleanedUp {staged : List Staged} {d d₁ d₂ : Disk} (hbackup : FreeBackups token disk)
    (hplainTargets : ∀ document, disk (.target document) ≠ some (.node .directory))
    (hbody : Runs (FileSystem mayFail) (commitBody sha256 token request) disk (.ok (staged, .ok none)) d)
    {r₁ r₂ : Except String Unit} (hcleanup : Runs SureFileSystem (removeStaged token staged) d r₁ d₁)
    (hbackups : Runs SureFileSystem (removeBackups token staged) d₁ r₂ d₂) :
    r₁ = .ok () ∧ r₂ = .ok () ∧ LeavesNothing disk d₂ ∧ (∀ document, d₂ (.target document) = d (.target document)) ∧
      d₂ .documentsDir = d .documentsDir := by
  obtain ⟨hnodup, hrecoverable, -, -, -⟩ := commitBody_spec hbody
  obtain ⟨⟨left, -, htraces, hnothing⟩, -⟩ := commitBody_traces hbody
  rw [hnothing _ rfl] at htraces
  obtain ⟨hok₁, hremoved⟩ := removeStaged_spec
    (fun entry hentry => htraces.plain entry.document (List.mem_map_of_mem hentry)) hcleanup
  have hkept₁ : ∀ path, (∀ document, path ≠ .staged document token) → d₁ path = d path :=
    fun path hpath => removeStaged_others hcleanup hpath
  have hplain : ∀ entry ∈ staged, entry.backedUp = true →
      d₁ (.backup entry.document token) ≠ some (.node .directory) := by
    intro entry hentry hmade
    have hentry' := hrecoverable entry hentry
    unfold Recoverable at hentry'
    rw [hmade] at hentry'
    have hbackup : d (.backup entry.document token) = disk (.target entry.document) := by
      cases hinstalled : entry.installed with
      | false =>
          rw [hinstalled] at hentry'
          exact hentry'.2.1
      | true =>
          rw [hinstalled] at hentry'
          exact hentry'.2.1
    rw [hkept₁ _ (by simp), hbackup]
    exact hplainTargets entry.document
  obtain ⟨hok₂, hremoved₂⟩ := removeBackups_spec hplain hbackups
  have hkept₂ : ∀ path, (∀ document, path ≠ .backup document token) → d₂ path = d₁ path := by
    intro path hpath
    exact (changes_removeBackups staged).same hbackups fun ⟨document, hwritten⟩ => hpath document hwritten
  refine ⟨hok₁, hok₂, fun path hdir htarget => ?_, fun document => ?_, ?_⟩
  · by_cases hown : ∃ document, OwnPath token document path
    · obtain ⟨document, rfl | rfl | rfl⟩ := hown
      · exact absurd rfl (htarget document)
      · rw [hremoved₂ document, (hbackup document)]
        split
        · rfl
        · next hnone =>
            rw [hkept₁ _ (by simp), ← (hbackup document)]
            refine htraces.backups document fun entry hentry hsame => ?_
            by_contra hmade
            refine hnone (List.mem_map.mpr ⟨entry, List.mem_filter.mpr ⟨hentry, ?_⟩, hsame⟩)
            simpa using hmade
      · rw [hkept₂ _ (by simp), hremoved document]
        split
        · next hmem => exact (htraces.free document hmem).symm
        · next hnone => exact htraces.stagedFiles document hnone
    · have hnot : ∀ document, ¬ OwnPath token document path := fun document h => hown ⟨document, h⟩
      rw [hkept₂ path fun document h => hnot document (.inr (.inl h)),
        hkept₁ path fun document h => hnot document (.inr (.inr h))]
      exact htraces.other path hdir hnot
  · rw [hkept₂ _ (by simp), hkept₁ _ (by simp)]
  · rw [hkept₂ _ (by simp), hkept₁ _ (by simp)]

/-- Where only calls of the body may fail, those of another phase do not. -/
theorem sure_of_phase (hfails : ∀ c, mayFail c → c.phase = .committing) {phase : Phase} (hphase : phase ≠ .committing)
    (op : FileOp) : ¬ mayFail ⟨phase, op⟩ := fun hmay => hphase (hfails _ hmay)

/-- **A body that threw** is undone: the commit reports it, and leaves what `rolledBack` says. -/
theorem failed_leaves (hfails : ∀ c, mayFail c → c.phase = .committing) (hbackup : FreeBackups token disk)
    {staged : List Staged} {e : String} {d : Disk} {r : Except String CommitDocumentsResult}
    (hbody : Runs (FileSystem mayFail) (commitBody sha256 token request) disk (.ok (staged, .error e)) d)
    (h : Runs (FileSystem mayFail) (do
      let errors ← rollback token staged.reverse
      removeStaged token staged
      pure (CommitDocumentsResult.failed (e :: errors))) d r disk') :
    ∃ errors, r = .ok (.failed errors) ∧ (∀ document, disk' (.target document) = disk (.target document)) ∧
      (LeavesNothing disk disk' ∨ LeavesPart mayFail token request.documents disk disk') := by
  have hcleanupSure : CallsOnly (fun c => ¬ mayFail c) (removeStaged token staged) :=
    calls_removeStaged (sure_of_phase hfails (by simp)) staged
  have hrollbackSure : CallsOnly (fun c => ¬ mayFail c) (rollback token staged.reverse) :=
    calls_rollback (sure_of_phase hfails (by simp)) _
  rcases runs_bind_iff.mp h with ⟨errors, d₁, hrollback, h₁⟩ | ⟨e', hrollback, -⟩
  · have hundo := runs_sure hrollbackSure hrollback
    rcases runs_bind_iff.mp h₁ with ⟨_, d₂, hcleanup, h₂⟩ | ⟨e', hcleanup, -⟩
    · obtain ⟨-, -, htargets, hleaves⟩ := rolledBack hbackup hbody hundo (runs_sure hcleanupSure hcleanup)
      obtain ⟨rfl, rfl⟩ := runs_pure_iff.mp h₂
      exact ⟨_, rfl, htargets, hleaves⟩
    · -- the removal of the staged files does not throw
      have hclean := (rolledBack hbackup hbody hundo (runs_sure hcleanupSure hcleanup)).2.1
      cases hclean
  · -- nor does the rollback
    obtain ⟨hnodup, hrecoverable, -⟩ := commitBody_spec hbody
    have hnodup' : (staged.reverse.map Staged.document).Nodup := by
      rw [List.map_reverse]
      exact List.nodup_reverse.mpr hnodup
    have hundone := (rollback_spec hnodup' (fun entry hentry => hrecoverable entry (List.mem_reverse.mp hentry))
      (runs_sure hrollbackSure hrollback)).1
    cases hundone

/-- **A body that installed the documents** is cleaned up: the commit reports the new base, and leaves nothing. -/
theorem committed_leaves (hfails : ∀ c, mayFail c → c.phase = .committing) (hbackup : FreeBackups token disk)
    {staged : List Staged} {current : String} {d : Disk} {r : Except String CommitDocumentsResult}
    (hresolve : Runs (FileSystem mayFail) (resolveDocumentsDir .checking request.rootDir) disk (.ok ()) disk)
    (hcapture : Runs (FileSystem mayFail) (captureDocumentsBase sha256 .checking request.rootDir) disk
      (.ok current) disk)
    (hbody : Runs (FileSystem mayFail) (commitBody sha256 token request) disk (.ok (staged, .ok none)) d)
    (h : Runs (FileSystem mayFail) (do
      removeStaged token staged
      removeBackups token staged
      let baseHash ← captureDocumentsBase sha256 .finishing request.rootDir
      pure (CommitDocumentsResult.committed baseHash)) d r disk') :
    ∃ base, r = .ok (.committed base) ∧ (∀ document, Written request.documents disk disk' document) ∧
      LeavesNothing disk disk' := by
  obtain ⟨hblank, hroot, hdir⟩ := resolveDocumentsDir_seen
    (runs_sure (calls_resolveDocumentsDir (sure_of_phase hfails (by simp)) _) hresolve)
  have htargetsPlain := captureDocumentsBase_seen
    (runs_sure (calls_captureDocumentsBase sha256 (sure_of_phase hfails (by simp)) _) hcapture)
  obtain ⟨⟨left, -, htraces, -⟩, -⟩ := commitBody_traces hbody
  have hplain : ∀ entry ∈ staged, d (.staged entry.document token) ≠ some (.node .directory) :=
    fun entry hentry => htraces.plain entry.document (List.mem_map_of_mem hentry)
  have hcleanupSure : CallsOnly (fun c => ¬ mayFail c) (removeStaged token staged) :=
    calls_removeStaged (sure_of_phase hfails (by simp)) staged
  have hbackupsSure : CallsOnly (fun c => ¬ mayFail c) (removeBackups token staged) :=
    calls_removeBackups (sure_of_phase hfails (by simp)) staged
  rcases runs_bind_iff.mp h with ⟨_, d₁, hcleanup, h₁⟩ | ⟨e, hcleanup, -⟩
  case inr => cases (removeStaged_spec hplain (runs_sure hcleanupSure hcleanup)).1
  have hclean := runs_sure hcleanupSure hcleanup
  rcases runs_bind_iff.mp h₁ with ⟨_, d₂, hbackups, h₂⟩ | ⟨e, hbackups, -⟩
  case inr => cases (cleanedUp hbackup htargetsPlain hbody hclean (runs_sure hbackupsSure hbackups)).2.1
  obtain ⟨-, -, hleaves, hkept, hkeptDir⟩ :=
    cleanedUp hbackup htargetsPlain hbody hclean (runs_sure hbackupsSure hbackups)
  have hwritten : ∀ document, Written request.documents disk d₂ document := by
    intro document
    obtain ⟨text, hrender, hfile⟩ := (commitBody_spec hbody).2.2.2.1 rfl document
    exact ⟨text, hrender, (hkept document).trans hfile⟩
  -- the documents that were written can be read, so the new base is captured
  choose text hrender hfile using hwritten
  have hholds : HoldsBundle d₂ fun document => some (bytesOf (text document)) :=
    { root := by rw [hleaves .root (by simp) (by simp)]; exact hroot
      documentsDir := .inr (hkeptDir.trans (commitBody_directory hdir hbody))
      target := hfile }
  rcases runs_bind_iff.mp h₂ with ⟨base, d₃, hfinal, h₃⟩ | ⟨e, hfinal, -⟩
  · obtain ⟨rfl, rfl⟩ := runs_pure_iff.mp h₃
    have hsame : disk' = d₂ := disk_same (changes_captureDocumentsBase sha256 _ _) hfinal
    subst hsame
    exact ⟨base, rfl, fun document => ⟨text document, hrender document, hfile document⟩, hleaves⟩
  · have hcaptured := runs_sure (calls_captureDocumentsBase sha256 (sure_of_phase hfails (by simp)) _) hfinal
    cases (captureDocumentsBase_runs hholds hblank hcaptured).1

/-- **What a commit leaves**, where the calls of its `try` body may fail and no backup carries its token. -/
theorem commit_leaves (hfails : ∀ c, mayFail c → c.phase = .committing) (hbackup : FreeBackups token disk)
    {r : Except String CommitDocumentsResult}
    (h : Runs (FileSystem mayFail) (commitDocumentsBundle sha256 token request) disk r disk') :
    ∃ result, r = .ok result ∧
      ((∃ base, result = .committed base) ∧ (∀ document, Written request.documents disk disk' document) ∨
        (∀ base, result ≠ .committed base) ∧ ∀ document, disk' (.target document) = disk (.target document)) ∧
      (LeavesNothing disk disk' ∨
        (∃ errors, result = .failed errors) ∧ LeavesPart mayFail token request.documents disk disk') := by
  obtain ⟨resolved, d₁, hresolve, h₁⟩ := runs_attempt_bind_iff.mp h
  have hd₁ : d₁ = disk := disk_same (changes_resolveDocumentsDir _ _) hresolve
  subst hd₁
  have hunchanged : ∀ {result : CommitDocumentsResult}, (∀ base, result ≠ .committed base) → r = .ok result →
      disk' = d₁ → ∃ result, r = .ok result ∧
        ((∃ base, result = .committed base) ∧ (∀ document, Written request.documents d₁ disk' document) ∨
          (∀ base, result ≠ .committed base) ∧ ∀ document, disk' (.target document) = d₁ (.target document)) ∧
        (LeavesNothing d₁ disk' ∨
          (∃ errors, result = .failed errors) ∧ LeavesPart mayFail token request.documents d₁ disk') := by
    rintro result hresult rfl rfl
    exact ⟨result, rfl, .inr ⟨hresult, fun _ => rfl⟩, .inl fun _ _ _ => rfl⟩
  cases resolved with
  | error e =>
      obtain ⟨hr, hdisk⟩ := runs_pure_iff.mp h₁
      exact hunchanged (by simp) hr hdisk
  | ok _ =>
      obtain ⟨captured, d₂, hcapture, h₂⟩ := runs_attempt_bind_iff.mp h₁
      have hd₂ : d₂ = d₁ := disk_same (changes_captureDocumentsBase sha256 _ _) hcapture
      subst hd₂
      cases captured with
      | error e =>
          obtain ⟨hr, hdisk⟩ := runs_pure_iff.mp h₂
          exact hunchanged (by simp) hr hdisk
      | ok current =>
          simp only at h₂
          split at h₂
          · obtain ⟨hr, hdisk⟩ := runs_pure_iff.mp h₂
            exact hunchanged (by simp) hr hdisk
          · -- the base is the expected one
            rcases runs_bind_iff.mp h₂ with ⟨⟨staged, outcome⟩, d₃, hbody, h₃⟩ | ⟨e, hbody, -⟩
            case inr =>
              obtain ⟨a, hreturned⟩ := neverThrows_commitBody.returns hbody
              cases hreturned
            rcases outcome with e | _ | result
            · -- the body threw
              obtain ⟨errors, hr, htargets, hleaves⟩ := failed_leaves hfails hbackup hbody h₃
              exact ⟨_, hr, .inr ⟨by simp, htargets⟩, hleaves.imp id fun hpart => ⟨⟨errors, rfl⟩, hpart⟩⟩
            · -- the documents are installed
              obtain ⟨base, hr, hwritten, hleaves⟩ := committed_leaves hfails hbackup hresolve hcapture hbody h₃
              exact ⟨_, hr, .inl ⟨⟨base, rfl⟩, hwritten⟩, .inl hleaves⟩
            · -- another base was found before the installs
              have hcleanupSure : CallsOnly (fun c => ¬ mayFail c) (removeStaged token staged) :=
                calls_removeStaged (sure_of_phase hfails (by simp)) staged
              rcases runs_bind_iff.mp h₃ with ⟨_, d₄, hcleanup, h₄⟩ | ⟨e, hcleanup, -⟩
              · obtain ⟨-, hnot, htargets, hleaves⟩ := stoodBack hbody (runs_sure hcleanupSure hcleanup)
                obtain ⟨rfl, rfl⟩ := runs_pure_iff.mp h₄
                exact ⟨_, rfl, .inr ⟨hnot, htargets⟩, .inl hleaves⟩
              · cases (stoodBack hbody (runs_sure hcleanupSure hcleanup)).1

/-- A commit leaves everything but the documents, their directory and its own staged files. -/
theorem commit_keeps_rest (hfails : ∀ c, mayFail c → c.phase = .committing) (hbackup : FreeBackups token disk)
    {r : Except String CommitDocumentsResult}
    (h : Runs (FileSystem mayFail) (commitDocumentsBundle sha256 token request) disk r disk') {path : DiskPath}
    (hdir : path ≠ .documentsDir) (htarget : ∀ document, path ≠ .target document)
    (hstaged : ∀ document, path ≠ .staged document token) : disk' path = disk path := by
  obtain ⟨result, -, -, hleaves | ⟨-, document, left, hbroken, hleaves⟩⟩ := commit_leaves hfails hbackup h
  · exact hleaves path hdir htarget
  · obtain ⟨existing, text, part, -, -, -, rfl⟩ := hbroken
    rw [hleaves path hdir htarget]
    exact Disk.put_other (hstaged document)

/-- **All documents or none.**  However many calls of the `try` body fail, a commit returns, and when it says
`committed` every document holds its text; otherwise every document is as it was.  Nothing else on the disk has
changed, but that `Documents` may have been made, and that a commit that says `failed` may leave one staged file whose
writing has failed. -/
theorem commit_all_or_nothing (hfails : ∀ c, mayFail c → c.phase = .committing) (hfresh : FreshToken token disk)
    {r : Except String CommitDocumentsResult}
    (h : Runs (FileSystem mayFail) (commitDocumentsBundle sha256 token request) disk r disk') :
    ∃ result, r = .ok result ∧
      ((∃ base, result = .committed base) ∧ (∀ document, Written request.documents disk disk' document) ∨
        (∀ base, result ≠ .committed base) ∧ ∀ document, disk' (.target document) = disk (.target document)) ∧
      (LeavesNothing disk disk' ∨
        (∃ errors, result = .failed errors) ∧ LeavesPart mayFail token request.documents disk disk') :=
  commit_leaves hfails hfresh.backups h

/-- Run a program where the calls in `fails` fail. -/
def runFailing (fails : FileCall → Bool) (disk : Disk) (p : Fs α) : Except String α × Disk :=
  p.eval (fun c disk => if fails c then (c.op.failure "EIO", disk) else disk.answer c.op) disk

theorem runFailing_runs (fails : FileCall → Bool) (disk : Disk) (p : Fs α) :
    Runs (FileSystem fun c => fails c = true) p disk (runFailing fails disk p).1 (runFailing fails disk p).2 := by
  refine runs_eval (fun c w => ?_) p disk
  by_cases hfails : fails c = true
  · rw [if_pos hfails]
    exact .inr ⟨hfails, .inl rfl, "EIO", rfl⟩
  · rw [if_neg hfails]
    exact .inl rfl

def reportsCommit : Except String CommitDocumentsResult → Bool
  | .ok (.committed _) => true
  | _ => false

/-- The second document cannot be put in its place. -/
def adrLinkFails (c : FileCall) : Bool :=
  decide (c.phase = .committing) && decide (c.op = .link (.staged .adr "t") (.target .adr))

/-- What a failing call leaves where the bytes of a new file get as far as `written`. -/
def FileOp.brokenOff (written : Nat) (disk : Disk) : FileOp → Disk
  | .writeNew path content =>
      if disk .documentsDir ≠ none ∧ disk path = none then
        disk.put path (some (.node (.file (content.take written))))
      else disk
  | _ => disk

theorem brokenOff_leaves (written : Nat) (disk : Disk) (op : FileOp) : op.Leaves disk (op.brokenOff written disk) := by
  cases op with
  | writeNew path content =>
      rw [FileOp.brokenOff]
      by_cases hfree : disk .documentsDir ≠ none ∧ disk path = none
      · rw [if_pos hfree]
        exact .inr ⟨path, content, content.take written, rfl, List.take_prefix _ _, hfree.1, hfree.2, rfl⟩
      · rw [if_neg hfree]
        exact .inl rfl
  | _ => exact .inl rfl

/-- Run a program where the calls in `fails` fail and a new file is broken off. -/
def runBreaking (fails : FileCall → Bool) (written : Nat) (disk : Disk) (p : Fs α) : Except String α × Disk :=
  p.eval (fun c disk => if fails c then (c.op.failure "EIO", c.op.brokenOff written disk) else disk.answer c.op) disk

theorem runBreaking_runs (fails : FileCall → Bool) (written : Nat) (disk : Disk) (p : Fs α) :
    Runs (FileSystem fun c => fails c = true) p disk (runBreaking fails written disk p).1
      (runBreaking fails written disk p).2 := by
  refine runs_eval (fun c w => ?_) p disk
  by_cases hfails : fails c = true
  · rw [if_pos hfails]
    exact .inr ⟨hfails, brokenOff_leaves written w c.op, "EIO", rfl⟩
  · rw [if_neg hfails]
    exact .inl rfl

/-- The staged file of the second document cannot be written to its end. -/
def adrWriteFails (c : FileCall) : Bool :=
  match c.phase, c.op with
  | .committing, .writeNew (.staged .adr _) _ => true
  | _, _ => false

theorem half_installed_comes_back :
    ((∀ document, (runFailing adrLinkFails latinDisk (commitDocumentsBundle sampleHash "t" latinRequest)).2
        (.target document) = latinDisk (.target document)) ∧
      LeavesNothing latinDisk (runFailing adrLinkFails latinDisk (commitDocumentsBundle sampleHash "t" latinRequest)).2) ∧
    (runBreaking adrWriteFails 3 latinDisk (commitDocumentsBundle sampleHash "t" latinRequest)).2 (.staged .adr "t") =
        some (.node (.file [0xEF, 0xBF, 0xBD])) ∧
      LeavesPart (fun c => adrWriteFails c = true) "t" latinRequest.documents latinDisk
        (runBreaking adrWriteFails 3 latinDisk (commitDocumentsBundle sampleHash "t" latinRequest)).2 := by
  have hfresh : FreshToken "t" latinDisk := fun _ => ⟨rfl, rfl⟩
  constructor
  · have hfails : ∀ c, adrLinkFails c = true → c.phase = .committing := by
      intro c hc
      rw [adrLinkFails, Bool.and_eq_true, decide_eq_true_eq] at hc
      exact hc.1
    obtain ⟨result, hresult, hends, hleaves⟩ :=
      commit_all_or_nothing hfails hfresh (runFailing_runs adrLinkFails latinDisk
        (commitDocumentsBundle sampleHash "t" latinRequest))
    refine ⟨(hends.resolve_left ?_).2, hleaves.resolve_right ?_⟩
    · rintro ⟨⟨base, rfl⟩, -⟩
      have hfailed : reportsCommit (runFailing adrLinkFails latinDisk
          (commitDocumentsBundle sampleHash "t" latinRequest)).1 = false := by decide +kernel
      rw [hresult] at hfailed
      cases hfailed
    · -- no write of a new file fails in this run
      rintro ⟨-, document, left, ⟨existing, text, part, -, -, hfailed, -⟩, -⟩
      rw [adrLinkFails, Bool.and_eq_true, decide_eq_true_eq, decide_eq_true_eq] at hfailed
      cases hfailed.2
  · have hfails : ∀ c, adrWriteFails c = true → c.phase = .committing := by
      intro c hc
      unfold adrWriteFails at hc
      split at hc
      · next hphase _ => exact hphase
      · cases hc
    have hstays : (runBreaking adrWriteFails 3 latinDisk (commitDocumentsBundle sampleHash "t" latinRequest)).2
        (.staged .adr "t") = some (.node (.file [0xEF, 0xBF, 0xBD])) := by decide +kernel
    obtain ⟨result, -, -, hleaves⟩ :=
      commit_all_or_nothing hfails hfresh (runBreaking_runs adrWriteFails 3 latinDisk
        (commitDocumentsBundle sampleHash "t" latinRequest))
    refine ⟨hstays, (hleaves.resolve_left fun hnothing => ?_).2⟩
    have hgone := hnothing (.staged .adr "t") (by simp) (by simp)
    rw [hstays] at hgone
    cases hgone

/-! ### Nothing is lost -/

/-- What stood at the target is there, or at the backup. -/
def Kept (token : String) (original disk : Disk) (document : DocumentKey) : Prop :=
  ∀ entry, original (.target document) = some entry →
    disk (.target document) = some entry ∨ disk (.backup document token) = some entry

theorem Kept.mono {document : DocumentKey} (h : Kept token original disk document)
    (htarget : disk' (.target document) = disk (.target document))
    (hbackup : disk' (.backup document token) = disk (.backup document token)) : Kept token original disk' document := by
  intro entry hentry
  rw [htarget, hbackup]
  exact h entry hentry

/-- However the undoing of an entry ends, what stood at its target is kept. -/
theorem rollbackEntry_keeps {entry : Staged} (hentry : Recoverable token original disk entry)
    {outcome : Except String Unit} (h : Runs (FileSystem mayFail) (rollbackEntry token entry) disk outcome disk') :
    Kept token original disk' entry.document := by
  intro old hold
  have hfirst : ∀ {r : Except String Unit} {d : Disk},
      Runs (FileSystem mayFail) (onlyIf entry.installed (ask .rollback (.remove (.target entry.document) true)))
        disk r d → d (.backup entry.document token) = disk (.backup entry.document token) := by
    intro r d hrun
    have hchanges : Changes mayFail (fun path => path = .target entry.document)
        (onlyIf entry.installed (ask .rollback (.remove (.target entry.document) true))) :=
      changes_onlyIf (changes_ask (by simp [FileOp.writes]))
    exact hchanges.same hrun (by simp)
  unfold Recoverable at hentry
  cases hbackedUp : entry.backedUp with
  | false =>
      rw [hbackedUp] at hentry
      cases hinstalled : entry.installed with
      | true =>
          rw [hinstalled] at hentry
          rw [hentry.2] at hold
          cases hold
      | false =>
          rw [hinstalled] at hentry
          have hsame : disk' = disk := by
            unfold rollbackEntry at h
            rw [hinstalled, hbackedUp] at h
            exact (runs_pure_iff.mp h).2
          exact .inl (hsame ▸ hentry.trans hold)
  | true =>
      have hbackup : disk (.backup entry.document token) = some old := by
        rw [hbackedUp] at hentry
        cases hinstalled : entry.installed with
        | false =>
            rw [hinstalled] at hentry
            exact hentry.2.1.trans hold
        | true =>
            rw [hinstalled] at hentry
            exact hentry.2.1.trans hold
      rcases runs_bind_iff.mp h with ⟨_, d₁, hremove, hrename⟩ | ⟨e, hremove, -⟩
      · rw [onlyIf, hbackedUp, if_pos rfl] at hrename
        have hkept := (hfirst hremove).trans hbackup
        cases outcome with
        | error e => exact .inr (ask_error_same (by simp) hrename ▸ hkept)
        | ok _ =>
            obtain ⟨moved, hmoved, rfl⟩ := rename_ok hrename
            rw [hkept] at hmoved
            cases hmoved
            exact .inl (Disk.put_same _ _ _)
      · exact .inr ((hfirst hremove).trans hbackup)

/-- However the rollback ends, what stood at the targets of its entries is kept. -/
theorem rollback_keeps {entries : List Staged} (hnodup : (entries.map Staged.document).Nodup)
    (hentries : ∀ entry ∈ entries, Recoverable token original disk entry) {r : Except String (List String)}
    (h : Runs (FileSystem mayFail) (rollback token entries) disk r disk') :
    ∀ entry ∈ entries, Kept token original disk' entry.document := by
  induction entries generalizing disk disk' r with
  | nil => exact fun _ hentry => absurd hentry List.not_mem_nil
  | cons entry rest ih =>
      obtain ⟨hfresh, hnodup'⟩ := List.nodup_cons.mp hnodup
      obtain ⟨undone, d₁, hundone, hrest⟩ := runs_attempt_bind_iff.mp h
      have hother : ∀ other ∈ rest, ∀ path, OwnPath token other.document path → d₁ path = disk path :=
        fun other hmem path hpath => rollbackEntry_others hfresh hundone hmem hpath
      have hentries' : ∀ other ∈ rest, Recoverable token original d₁ other := fun other hmem =>
        (hentries other (List.mem_cons_of_mem _ hmem)).mono (hother other hmem _ (.inl rfl))
          (hother other hmem _ (.inr (.inl rfl)))
      have hrun : ∃ r', Runs (FileSystem mayFail) (rollback token rest) d₁ r' disk' := by
        rcases runs_bind_iff.mp hrest with ⟨errors, d₂, hrollback, hdone⟩ | ⟨e, hrollback, -⟩
        · cases undone with
          | error e =>
              obtain ⟨-, rfl⟩ := runs_pure_iff.mp hdone
              exact ⟨_, hrollback⟩
          | ok _ =>
              obtain ⟨-, rfl⟩ := runs_pure_iff.mp hdone
              exact ⟨_, hrollback⟩
        · exact ⟨_, hrollback⟩
      obtain ⟨r', hrollback⟩ := hrun
      intro other hmem
      rcases List.mem_cons.mp hmem with rfl | hmem
      · have hsame : ∀ path, OwnPath token other.document path → disk' path = d₁ path :=
          fun path hpath => rollback_others hfresh hrollback hpath
        have hentry := hentries other List.mem_cons_self
        exact (rollbackEntry_keeps hentry hundone).mono (hsame _ (.inl rfl)) (hsame _ (.inr (.inl rfl)))
      · exact ih hnodup' hentries' hrollback other hmem

/-- **Nothing is lost**, whichever calls fail, those of the rollback and of the cleanup included: unless all documents
are written, the old content of each is at its place or at its backup.  A process that is stopped is one whose later
calls all fail. -/
theorem no_content_lost {r : Except String CommitDocumentsResult}
    (h : Runs (FileSystem mayFail) (commitDocumentsBundle sha256 token request) disk r disk') :
    (∀ document, Written request.documents disk disk' document) ∨ ∀ document, Kept token disk disk' document := by
  have hkept : ∀ {d : Disk}, d = disk → ∀ document, Kept token disk d document :=
    fun hd document entry hentry => .inl (hd ▸ hentry)
  obtain ⟨resolved, d₁, hresolve, h₁⟩ := runs_attempt_bind_iff.mp h
  have hd₁ : d₁ = disk := disk_same (changes_resolveDocumentsDir _ _) hresolve
  cases resolved with
  | error e => exact .inr (hkept ((runs_pure_iff.mp h₁).2.trans hd₁))
  | ok _ =>
      obtain ⟨captured, d₂, hcapture, h₂⟩ := runs_attempt_bind_iff.mp h₁
      have hd₂ : d₂ = disk := (disk_same (changes_captureDocumentsBase sha256 _ _) hcapture).trans hd₁
      cases captured with
      | error e => exact .inr (hkept ((runs_pure_iff.mp h₂).2.trans hd₂))
      | ok current =>
          simp only at h₂
          split at h₂
          · exact .inr (hkept ((runs_pure_iff.mp h₂).2.trans hd₂))
          · subst hd₂
            rcases runs_bind_iff.mp h₂ with ⟨⟨staged, outcome⟩, d₃, hbody, h₃⟩ | ⟨e, hbody, -⟩
            case inr =>
              obtain ⟨a, hreturned⟩ := neverThrows_commitBody.returns hbody
              cases hreturned
            obtain ⟨hnodup, hrecoverable, huntouched, hwritten, hreturned⟩ := commitBody_spec hbody
            -- what comes after the rollback touches no document and no backup
            have hcleanup : ∀ {d d' : Disk} {r' : Except String Unit},
                Runs (FileSystem mayFail) (removeStaged token staged) d r' d' →
                  (∀ document, d' (.target document) = d (.target document)) ∧
                    ∀ document, d' (.backup document token) = d (.backup document token) := by
              intro d d' r' hrun
              exact ⟨fun document => (changes_removeStaged staged).same hrun (by simp),
                fun document => (changes_removeStaged staged).same hrun (by simp)⟩
            rcases outcome with e | _ | result
            · right
              have hrollback : ∀ {d : Disk} {r' : Except String (List String)},
                  Runs (FileSystem mayFail) (rollback token staged.reverse) d₃ r' d →
                    ∀ document, Kept token d₂ d document := by
                intro d r' hrun document
                have hnodup' : (staged.reverse.map Staged.document).Nodup := by
                  rw [List.map_reverse]
                  exact List.nodup_reverse.mpr hnodup
                have hall := rollback_keeps hnodup'
                  (fun entry hentry => hrecoverable entry (List.mem_reverse.mp hentry)) hrun
                by_cases hmem : document ∈ staged.map Staged.document
                · obtain ⟨entry, hentry, rfl⟩ := List.mem_map.mp hmem
                  exact hall entry (List.mem_reverse.mpr hentry)
                · intro old hold
                  rw [← huntouched document hmem] at hold
                  refine .inl (Eq.trans ((changes_rollback staged.reverse).same hrun ?_) hold)
                  rintro ⟨entry, hentry, hpath | hpath⟩
                  · injection hpath with hdocument
                    exact hmem (hdocument ▸ List.mem_map_of_mem (List.mem_reverse.mp hentry))
                  · cases hpath
              rcases runs_bind_iff.mp h₃ with ⟨errors, d₄, hundo, h₄⟩ | ⟨e', hundo, -⟩
              · rcases runs_bind_iff.mp h₄ with ⟨_, d₅, hclean, h₅⟩ | ⟨e', hclean, -⟩
                · obtain ⟨-, rfl⟩ := runs_pure_iff.mp h₅
                  exact fun document => (hrollback hundo document).mono ((hcleanup hclean).1 document)
                    ((hcleanup hclean).2 document)
                · exact fun document => (hrollback hundo document).mono ((hcleanup hclean).1 document)
                    ((hcleanup hclean).2 document)
              · exact hrollback hundo
            · left
              have hends : ∀ document, disk' (.target document) = d₃ (.target document) := by
                intro document
                rcases runs_bind_iff.mp h₃ with ⟨_, d₄, hclean, h₄⟩ | ⟨e, hclean, -⟩
                case inr => exact (hcleanup hclean).1 document
                rw [← (hcleanup hclean).1 document]
                rcases runs_bind_iff.mp h₄ with ⟨_, d₅, hbackups, h₅⟩ | ⟨e, hbackups, -⟩
                case inr => exact (changes_removeBackups staged).same hbackups (by simp)
                rw [← (changes_removeBackups staged).same hbackups (show ¬ ∃ d, DiskPath.target document =
                  .backup d token by simp)]
                have hlast : Changes mayFail (fun _ => False)
                    (captureDocumentsBase sha256 .finishing request.rootDir >>= fun base =>
                      pure (CommitDocumentsResult.committed base)) :=
                  changes_bind (changes_captureDocumentsBase sha256 _ _) fun _ => changes_done _
                exact hlast.same h₅ not_false
              intro document
              obtain ⟨text, hrender, hfile⟩ := hwritten rfl document
              exact ⟨text, hrender, (hends document).trans hfile⟩
            · right
              have htargets := (hreturned result rfl).2
              have hends : ∀ document, disk' (.target document) = d₃ (.target document) := by
                intro document
                rcases runs_bind_iff.mp h₃ with ⟨_, d₄, hclean, h₄⟩ | ⟨e, hclean, -⟩
                · obtain ⟨-, rfl⟩ := runs_pure_iff.mp h₄
                  exact (hcleanup hclean).1 document
                · exact (hcleanup hclean).1 document
              exact fun document old hold => .inl (((hends document).trans (htargets document)).trans hold)

/-- The process is stopped when it puts the second document in its place: no call after that one takes place. -/
def stoppedAtAdr (c : FileCall) : Bool :=
  adrLinkFails c || decide (c.phase = .rollback) || decide (c.phase = .cleanup)

theorem stopped_commit_keeps_content :
    (runFailing stoppedAtAdr latinDisk (commitDocumentsBundle sampleHash "t" latinRequest)).2 (.target .adr) = none ∧
      ∀ document, Kept "t" latinDisk
        (runFailing stoppedAtAdr latinDisk (commitDocumentsBundle sampleHash "t" latinRequest)).2 document := by
  have hgone : (runFailing stoppedAtAdr latinDisk (commitDocumentsBundle sampleHash "t" latinRequest)).2
      (.target .adr) = none := by decide +kernel
  refine ⟨hgone, (no_content_lost (runFailing_runs stoppedAtAdr latinDisk
    (commitDocumentsBundle sampleHash "t" latinRequest))).resolve_left fun hwritten => ?_⟩
  obtain ⟨text, -, hfile⟩ := hwritten .adr
  rw [hgone] at hfile
  cases hfile

end Commit

end ForgeRuntime
