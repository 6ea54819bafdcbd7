import ForgeRuntime.Artifacts.Rollback
import ForgeRuntime.Lib.Versioned

/-!
# The documents as a versioned store

A session captures the base of the documents, prepares new ones, and commits them under that base; other sessions do
the same, and the user edits the files by hand.  The base is the version of the bundle, and a commit is a write under
a version: `documents_refine` says so for whole histories, whichever calls of the commits fail.

* `renderBundle` — the change that a commit asks for;
* `commit_taken`, `commit_refused` — a commit is taken under the present base, or the documents stay;
* `no_commit_lost` — **a commit is made over the documents that its author has seen**;
* `last_commit_stands` — **of the commits, the last one that was taken shows in the documents**.
-/

namespace ForgeRuntime

open EventDriven EventDriven.Machine EventDriven.Program EventDriven.Text

/-! ### The change that a commit asks for -/

/-- The text of a document in a bundle. -/
def Bundle.text (bundle : Bundle) (document : DocumentKey) : Option String :=
  (bundle document).map fun content => String.ofList (Utf8.decode content)

/-- **The documents rendered into a bundle.** -/
def renderBundle (documents : DocumentsContent) (bundle : Bundle) : Except String Bundle := do
  let render (document : DocumentKey) :=
    renderManagedDocument document.marker (documents.body document) (bundle.text document)
  let context ← render .context
  let adr ← render .adr
  let handoff ← render .handoff
  pure fun
    | .context => some (bytesOf context)
    | .adr => some (bytesOf adr)
    | .handoff => some (bytesOf handoff)

/-- A bundle that is rendered holds each document with its text. -/
theorem renderBundle_iff {documents : DocumentsContent} {bundle bundle' : Bundle} :
    renderBundle documents bundle = .ok bundle' ↔
      ∀ document, ∃ text, renderManagedDocument document.marker (documents.body document) (bundle.text document) =
        .ok text ∧ bundle' document = some (bytesOf text) := by
  unfold renderBundle
  constructor
  · intro h
    cases hcontext : renderManagedDocument DocumentKey.context.marker (documents.body .context)
        (bundle.text .context) with
    | error e => simp [hcontext, bind, Except.bind] at h
    | ok context =>
        cases hadr : renderManagedDocument DocumentKey.adr.marker (documents.body .adr) (bundle.text .adr) with
        | error e => simp [hcontext, hadr, bind, Except.bind] at h
        | ok adr =>
            cases hhandoff : renderManagedDocument DocumentKey.handoff.marker (documents.body .handoff)
                (bundle.text .handoff) with
            | error e => simp [hcontext, hadr, hhandoff, bind, Except.bind] at h
            | ok handoff =>
                simp only [hcontext, hadr, hhandoff, bind, Except.bind, pure, Except.pure, Except.ok.injEq] at h
                subst h
                intro document
                cases document with
                | context => exact ⟨context, hcontext, rfl⟩
                | adr => exact ⟨adr, hadr, rfl⟩
                | handoff => exact ⟨handoff, hhandoff, rfl⟩
  · intro h
    obtain ⟨context, hcontext, hcontext'⟩ := h .context
    obtain ⟨adr, hadr, hadr'⟩ := h .adr
    obtain ⟨handoff, hhandoff, hhandoff'⟩ := h .handoff
    simp only [hcontext, hadr, hhandoff, bind, Except.bind, pure, Except.pure, Except.ok.injEq]
    funext document
    cases document with
    | context => exact hcontext'.symm
    | adr => exact hadr'.symm
    | handoff => exact hhandoff'.symm

/-- What was rendered is read back from the bundle. -/
theorem text_of_bytes {bundle : Bundle} {document : DocumentKey} {text : String}
    (h : bundle document = some (bytesOf text)) : bundle.text document = some text := by
  rw [Bundle.text, h, Option.map_some, bytesOf, Utf8.decode_encode, String.ofList_toList]

/-- **Rendering forgets the rendering before**: what is outside the blocks is the same. -/
theorem renderBundle_again {first second : DocumentsContent} {bundle bundle' : Bundle}
    (h : renderBundle first bundle = .ok bundle') : renderBundle second bundle' = renderBundle second bundle := by
  have hsame : ∀ document, renderManagedDocument document.marker (second.body document) (bundle'.text document) =
      renderManagedDocument document.marker (second.body document) (bundle.text document) := by
    intro document
    obtain ⟨text, hrender, hbytes⟩ := renderBundle_iff.mp h document
    rw [text_of_bytes hbytes]
    exact render_again hrender _
  simp only [renderBundle, hsame]

/-! ### One commit -/

variable {mayFail : FileCall → Prop} {sha256 : List UInt8 → String} {token rootDir : String}
  {disk disk' : Disk} {bundle bundle' : Bundle}

/-- Where the disk holds a bundle, the texts of the documents are those of the bundle. -/
theorem HoldsBundle.existingText (hdisk : HoldsBundle disk bundle) (document : DocumentKey) :
    existingText disk document = bundle.text document := by
  rw [ForgeRuntime.existingText, hdisk.target document, Bundle.text]
  cases bundle document with
  | none => rfl
  | some content => rfl

/-- `Documents` is a directory, or nothing stands in its place. -/
def PlainDirectory (disk : Disk) : Prop :=
  disk .documentsDir = none ∨ disk .documentsDir = some (.node .directory)

/-- Code that only reads keeps what stands in its place. -/
theorem plain_of_reads {α : Type} {p : Fs α} (h : Changes mayFail (fun _ => False) p) :
    Keeps (FileSystem mayFail) PlainDirectory p := by
  intro w r w' hw hrun
  rwa [disk_same h hrun]

theorem plain_of_changes {α : Type} {paths : DiskPath → Prop} {p : Fs α} (h : Changes mayFail paths p)
    (hpaths : ¬ paths .documentsDir) : Keeps (FileSystem mayFail) PlainDirectory p := by
  intro w r w' hw hrun
  unfold PlainDirectory
  rw [h.same hrun hpaths]
  exact hw

/-- Making the directory leaves a directory. -/
theorem plain_mkdir {phase : Phase} : Keeps (FileSystem mayFail) PlainDirectory (ask phase (.mkdir .documentsDir)) := by
  refine keeps_perform fun w answer w' hw hcall => ?_
  rcases hcall with hcall | ⟨-, rfl | ⟨path, content, part, hwrite, -⟩, -⟩
  · have hdisk := congrArg Prod.snd hcall
    simp only [Disk.answer] at hdisk
    split at hdisk
    · have hmade : w' = w.put .documentsDir (some (.node .directory)) := hdisk
      rw [hmade]
      exact .inr (Disk.put_same _ _ _)
    · split at hdisk
      · exact hdisk ▸ hw
      · exact hdisk ▸ hw
  · exact hw
  · cases hwrite

/-- No commit puts anything else in the place of `Documents`. -/
theorem plain_commit (request : CommitDocumentsRequest) :
    Keeps (FileSystem mayFail) PlainDirectory (commitDocumentsBundle sha256 token request) := by
  have hcheck : ∀ phase, Keeps (FileSystem mayFail) PlainDirectory
      (captureDocumentsBase sha256 phase request.rootDir) :=
    fun phase => plain_of_reads (changes_captureDocumentsBase sha256 _ _)
  have hbody : Keeps (FileSystem mayFail) PlainDirectory (commitBody sha256 token request) := by
    refine keeps_bind (keeps_attempt plain_mkdir) fun made => ?_
    cases made with
    | error e => exact keeps_done _
    | ok _ =>
        refine keeps_bind (plain_of_changes (changes_stageDocuments _ _) (by simp)) fun result => ?_
        obtain ⟨staged, outcome⟩ := result
        cases outcome with
        | error e => exact keeps_done _
        | ok _ =>
            refine keeps_bind (keeps_attempt (hcheck _)) fun captured => ?_
            cases captured with
            | error e => exact keeps_done _
            | ok baseHash =>
                refine keeps_ite (keeps_done _) (keeps_bind ?_ fun result => keeps_done _)
                exact plain_of_changes (changes_installDocuments _) (by simp [OwnPath])
  have hcleanup : ∀ staged, Keeps (FileSystem mayFail) PlainDirectory (removeStaged token staged) :=
    fun staged => plain_of_changes (changes_removeStaged staged) (by simp)
  refine keeps_bind (keeps_attempt (plain_of_reads (changes_resolveDocumentsDir _ _))) fun resolved => ?_
  cases resolved with
  | error e => exact keeps_done _
  | ok _ =>
      refine keeps_bind (keeps_attempt (hcheck _)) fun captured => ?_
      cases captured with
      | error e => exact keeps_done _
      | ok current =>
          refine keeps_ite (keeps_done _) (keeps_bind hbody fun result => ?_)
          obtain ⟨staged, outcome⟩ := result
          cases outcome with
          | error e =>
              refine keeps_bind (plain_of_changes (changes_rollback _) (by simp)) fun errors => ?_
              exact keeps_bind (hcleanup staged) fun _ => keeps_done _
          | ok result =>
              cases result with
              | some result => exact keeps_bind (hcleanup staged) fun _ => keeps_done _
              | none =>
                  refine keeps_bind (hcleanup staged) fun _ => ?_
                  refine keeps_bind (plain_of_changes (changes_removeBackups staged) (by simp)) fun _ => ?_
                  exact keeps_bind (hcheck _) fun _ => keeps_done _

/-- What a commit leaves of the disk, apart from the documents. -/
theorem HoldsBundle.after_commit {request : CommitDocumentsRequest} {r : Except String CommitDocumentsResult}
    (hdisk : HoldsBundle disk bundle)
    (h : Runs (FileSystem mayFail) (commitDocumentsBundle sha256 token request) disk r disk')
    (hroot : disk' .root = disk .root)
    (htarget : ∀ document, disk' (.target document) = (bundle' document).map fun content => .node (.file content)) :
    HoldsBundle disk' bundle' where
  root := by
    rw [hroot]
    exact hdisk.root
  documentsDir := plain_commit request disk r disk' hdisk.documentsDir h
  target := htarget

/-- **The base that is read** is the version of the bundle, where none of the calls may fail. -/
theorem captureDocumentsBase_reads {phase : Phase} {base : String} (hsure : ∀ op, ¬ mayFail ⟨phase, op⟩)
    (hdisk : HoldsBundle disk bundle)
    (h : Runs (FileSystem mayFail) (captureDocumentsBase sha256 phase rootDir) disk (.ok base) disk') :
    base = sha256 (baseStream bundle) ∧ disk' = disk := by
  have hrun := runs_sure (calls_captureDocumentsBase sha256 hsure rootDir) h
  obtain ⟨_, d, hresolve, -⟩ := runs_bind_ok.mp hrun
  obtain ⟨hbase, hsame⟩ := captureDocumentsBase_runs hdisk (resolveDocumentsDir_seen hresolve).1 hrun
  exact ⟨Except.ok.inj hbase, hsame⟩

section Commit

variable {request : CommitDocumentsRequest}

/-- The base that a commit answers is read at its end. -/
theorem committed_capture {base : String}
    (h : Runs (FileSystem mayFail) (commitDocumentsBundle sha256 token request) disk (.ok (.committed base)) disk') :
    Runs (FileSystem mayFail) (captureDocumentsBase sha256 .finishing request.rootDir) disk' (.ok base) disk' := by
  obtain ⟨resolved, d₁, -, h₁⟩ := runs_attempt_bind_iff.mp h
  cases resolved with
  | error e => cases Except.ok.inj (runs_pure_iff.mp h₁).1
  | ok _ =>
      obtain ⟨captured, d₂, -, h₂⟩ := runs_attempt_bind_iff.mp h₁
      cases captured with
      | error e => cases Except.ok.inj (runs_pure_iff.mp h₂).1
      | ok current =>
          simp only at h₂
          split at h₂
          · cases Except.ok.inj (runs_pure_iff.mp h₂).1
          · obtain ⟨⟨staged, outcome⟩, d₃, hbody, h₃⟩ := runs_bind_ok.mp h₂
            rcases outcome with e | _ | result
            · obtain ⟨errors, d₄, -, h₄⟩ := runs_bind_ok.mp h₃
              obtain ⟨_, d₅, -, h₅⟩ := runs_bind_ok.mp h₄
              cases Except.ok.inj (runs_pure_iff.mp h₅).1
            · obtain ⟨_, d₄, -, h₄⟩ := runs_bind_ok.mp h₃
              obtain ⟨_, d₅, -, h₅⟩ := runs_bind_ok.mp h₄
              obtain ⟨baseHash, d₆, hfinal, h₆⟩ := runs_bind_ok.mp h₅
              have hd₆ : d₆ = d₅ := disk_same (changes_captureDocumentsBase sha256 _ _) hfinal
              obtain ⟨hbase, hlast⟩ := runs_pure_iff.mp h₆
              cases Except.ok.inj hbase
              rw [hlast, hd₆]
              rw [hd₆] at hfinal
              exact hfinal
            · obtain ⟨_, d₄, -, h₄⟩ := runs_bind_ok.mp h₃
              have hnot := ((commitBody_spec hbody).2.2.2.2 result rfl).1 base
              exact absurd (Except.ok.inj (runs_pure_iff.mp h₄).1).symm hnot

/-- Its base is a hash. -/
theorem committed_hash {base : String}
    (h : Runs (FileSystem mayFail) (commitDocumentsBundle sha256 token request) disk (.ok (.committed base)) disk') :
    ∃ bytes, base = sha256 bytes := by
  obtain ⟨_, d₁, -, h₁⟩ := runs_bind_ok.mp (committed_capture h)
  obtain ⟨records, d₂, -, h₂⟩ := runs_bind_ok.mp h₁
  exact ⟨records, Except.ok.inj (runs_pure_iff.mp h₂).1⟩

/-- The base that a commit expects is read before its `try`. -/
theorem committed_expected {base : String} (hfails : ∀ c, mayFail c → c.phase = .committing)
    (hdisk : HoldsBundle disk bundle)
    (h : Runs (FileSystem mayFail) (commitDocumentsBundle sha256 token request) disk (.ok (.committed base)) disk') :
    request.expectedBaseHash = sha256 (baseStream bundle) := by
  obtain ⟨resolved, d₁, hresolve, h₁⟩ := runs_attempt_bind_iff.mp h
  have hd₁ : d₁ = disk := disk_same (changes_resolveDocumentsDir _ _) hresolve
  subst hd₁
  cases resolved with
  | error e => cases Except.ok.inj (runs_pure_iff.mp h₁).1
  | ok _ =>
      obtain ⟨captured, d₂, hcapture, h₂⟩ := runs_attempt_bind_iff.mp h₁
      cases captured with
      | error e => cases Except.ok.inj (runs_pure_iff.mp h₂).1
      | ok current =>
          obtain ⟨rfl, rfl⟩ := captureDocumentsBase_reads (fun op hmay => by cases hfails _ hmay) hdisk hcapture
          simp only at h₂
          split at h₂
          · cases Except.ok.inj (runs_pure_iff.mp h₂).1
          · next hsame => exact (not_not.mp hsame).symm

/-- **A commit that is taken** expected the version of the bundle, renders its documents into it, and answers the
version of the outcome. -/
theorem commit_taken {base : String} (hfails : ∀ c, mayFail c → c.phase = .committing)
    (hdisk : HoldsBundle disk bundle) (hbackup : FreeBackups token disk)
    (h : Runs (FileSystem mayFail) (commitDocumentsBundle sha256 token request) disk (.ok (.committed base)) disk') :
    request.expectedBaseHash = sha256 (baseStream bundle) ∧
      ∃ bundle', renderBundle request.documents bundle = .ok bundle' ∧ HoldsBundle disk' bundle' ∧
        base = sha256 (baseStream bundle') := by
  have hexpected := committed_expected hfails hdisk h
  have hfinal := committed_capture h
  have hroot : disk' .root = disk .root := commit_keeps_rest hfails hbackup h (by simp) (by simp) (by simp)
  have hwritten := committed_written h
  choose text hrender hfile using hwritten
  have hdisk' : HoldsBundle disk' fun document => some (bytesOf (text document)) :=
    hdisk.after_commit h hroot hfile
  refine ⟨hexpected, _, renderBundle_iff.mpr fun document => ⟨text document, ?_, rfl⟩, hdisk', ?_⟩
  · rw [← hdisk.existingText document]
    exact hrender document
  · exact (captureDocumentsBase_reads (fun op hmay => by cases hfails _ hmay) hdisk' hfinal).1

/-- **A commit that is not taken** leaves the bundle. -/
theorem commit_refused {r : Except String CommitDocumentsResult} (hfails : ∀ c, mayFail c → c.phase = .committing)
    (hdisk : HoldsBundle disk bundle) (hbackup : FreeBackups token disk) (hr : ∀ base, r ≠ .ok (.committed base))
    (h : Runs (FileSystem mayFail) (commitDocumentsBundle sha256 token request) disk r disk') :
    HoldsBundle disk' bundle := by
  have hroot : disk' .root = disk .root := commit_keeps_rest hfails hbackup h (by simp) (by simp) (by simp)
  obtain ⟨result, rfl, hcase, -⟩ := commit_leaves hfails hbackup h
  rcases hcase with ⟨⟨base, rfl⟩, -⟩ | ⟨-, htargets⟩
  · exact absurd rfl (hr base)
  · refine hdisk.after_commit h hroot fun document => ?_
    rw [htargets document]
    exact hdisk.target document

end Commit

/-! ### Histories -/

/-- What may happen to the documents of a project: a session captures their base, or commits new ones; or they are
edited by hand. -/
inductive DocumentsEvent where
  | capture
  | commit (token : String) (expectedBaseHash : String) (documents : DocumentsContent)
  | edit (bundle : Bundle)

/-- The random token of a commit. -/
def DocumentsEvent.ownToken : DocumentsEvent → Option String
  | .commit token _ _ => some token
  | _ => none

/-- An edit by hand puts the documents. -/
def Disk.edited (disk : Disk) (bundle : Bundle) : Disk
  | .documentsDir => some (.node .directory)
  | .target document => (bundle document).map fun content => .node (.file content)
  | path => disk path

/-- The base that a commit answers. -/
def committedBase : Except String CommitDocumentsResult → Option String
  | .ok (.committed base) => some base
  | _ => none

/-- **What an event answers and does**: the programs run on the disk, and calls that `mayFail` allows may fail. -/
def DocumentsWorld (sha256 : List UInt8 → String) (rootDir : String) (mayFail : FileCall → Prop) :
    DocumentsEvent → Disk → Option String → Disk → Prop
  | .capture, disk, answered, disk' =>
      ∃ r, Runs (FileSystem mayFail) (captureDocumentsBase sha256 .checking rootDir) disk r disk' ∧ answered = r.toOption
  | .commit token expectedBaseHash documents, disk, answered, disk' =>
      ∃ r, Runs (FileSystem mayFail) (commitDocumentsBundle sha256 token ⟨rootDir, expectedBaseHash, documents⟩) disk r
        disk' ∧ answered = committedBase r
  | .edit bundle, disk, answered, disk' => answered = none ∧ disk' = disk.edited bundle

/-- An event as the store sees it. -/
def DocumentsEvent.means : DocumentsEvent → Versioned.Event String Bundle DocumentsContent
  | .capture => .read
  | .commit _ expectedBaseHash documents => .write expectedBaseHash documents
  | .edit bundle => .edit bundle

/-- The version of a bundle. -/
abbrev baseOf (sha256 : List UInt8 → String) (bundle : Bundle) : String := sha256 (baseStream bundle)

/-- The store that the documents are. -/
abbrev DocumentsStore (sha256 : List UInt8 → String) :
    Versioned.Event String Bundle DocumentsContent → Bundle → Option String → Bundle → Prop :=
  Versioned.Does (baseOf sha256) renderBundle

/-- The disk holds the bundle, and no backup carries the token of a commit that is to come. -/
def Stands (disk : Disk) (events : List DocumentsEvent) (bundle : Bundle) : Prop :=
  HoldsBundle disk bundle ∧ ∀ token ∈ events.filterMap DocumentsEvent.ownToken, FreeBackups token disk

theorem holds_edited (hdisk : HoldsBundle disk bundle) (edited : Bundle) :
    HoldsBundle (disk.edited edited) edited where
  root := hdisk.root
  documentsDir := .inr rfl
  target _ := rfl

/-- Each event does to the documents what it means for the store. -/
theorem event_refines (hfails : ∀ c, mayFail c → c.phase = .committing) (event : DocumentsEvent)
    (events : List DocumentsEvent) (disk : Disk) (answered : Option String) (disk' : Disk) (bundle : Bundle)
    (hstands : Stands disk (event :: events) bundle) (h : DocumentsWorld sha256 rootDir mayFail event disk answered disk') :
    ∃ bundle', DocumentsStore sha256 event.means bundle answered bundle' ∧ Stands disk' events bundle' := by
  obtain ⟨hdisk, htokens⟩ := hstands
  cases event with
  | capture =>
      obtain ⟨r, hrun, rfl⟩ := h
      have hsame : disk' = disk := disk_same (changes_captureDocumentsBase sha256 _ _) hrun
      subst hsame
      cases r with
      | error e => exact ⟨bundle, .unread bundle, hdisk, htokens⟩
      | ok base =>
          obtain ⟨rfl, -⟩ := captureDocumentsBase_reads (fun op hmay => by cases hfails _ hmay) hdisk hrun
          exact ⟨bundle, .read bundle, hdisk, htokens⟩
  | commit token expectedBaseHash documents =>
      obtain ⟨r, hrun, rfl⟩ := h
      have hbackup : FreeBackups token disk := htokens token List.mem_cons_self
      have htokens' : ∀ other ∈ events.filterMap DocumentsEvent.ownToken, FreeBackups other disk' := by
        intro other hother document
        rw [commit_keeps_rest hfails hbackup hrun (by simp) (by simp) (by simp)]
        exact htokens other (List.mem_cons_of_mem _ hother) document
      by_cases htaken : ∃ base, r = .ok (.committed base)
      · obtain ⟨base, rfl⟩ := htaken
        obtain ⟨hexpected, bundle', hrender, hdisk', rfl⟩ := commit_taken hfails hdisk hbackup hrun
        cases hexpected
        exact ⟨bundle', .taken hrender, hdisk', htokens'⟩
      · have hnot : ∀ base, r ≠ .ok (.committed base) := fun base hbase => htaken ⟨base, hbase⟩
        have hnone : committedBase r = none := by
          unfold committedBase
          split
          · next base => exact absurd rfl (hnot base)
          · rfl
        rw [hnone]
        exact ⟨bundle, .refused _ _ bundle, commit_refused hfails hdisk hbackup hnot hrun, htokens'⟩
  | edit edited =>
      obtain ⟨rfl, rfl⟩ := h
      refine ⟨edited, .edit bundle edited, holds_edited hdisk edited, fun token htoken => ?_⟩
      exact htokens token htoken

/-- What a step of the documents and a step of the store have to do with each other. -/
def StandsFor (step : Step DocumentsEvent (Option String) Disk)
    (shown : Step (Versioned.Event String Bundle DocumentsContent) (Option String) Bundle) : Prop :=
  shown.input = step.input.means ∧ shown.output = step.output ∧ HoldsBundle step.before shown.before ∧
    HoldsBundle step.after shown.after

section History

variable {steps : List (Step DocumentsEvent (Option String) Disk)}

/-- **The documents are a versioned store**: each history of captures, commits and edits is one of the store. -/
theorem documents_refine (hfails : ∀ c, mayFail c → c.phase = .committing) (hdisk : HoldsBundle disk bundle)
    (hfresh : ∀ token ∈ (steps.map Step.input).filterMap DocumentsEvent.ownToken, FreshToken token disk)
    (h : History (DocumentsWorld sha256 rootDir mayFail) disk steps disk') :
    ∃ shown bundle', History (DocumentsStore sha256) bundle shown bundle' ∧ HoldsBundle disk' bundle' ∧
      List.Forall₂ StandsFor steps shown := by
  obtain ⟨shown, bundle', hstore, hend, hall⟩ := h.simulate (event_refines hfails)
    ⟨hdisk, fun token htoken => (hfresh token htoken).backups⟩
  refine ⟨shown, bundle', hstore, hend.1, hall.imp ?_⟩
  rintro step answer ⟨hinput, houtput, ⟨_, hbefore, -⟩, ⟨_, hafter, -⟩⟩
  exact ⟨hinput, houtput, hbefore, hafter⟩

/-- **No edit is overwritten unseen.**  In a history of captures, commits and edits by hand, however many calls of the
commits fail: a commit that is taken under a base that was captured finds the documents as they were captured, and
writes what its documents render into these. -/
theorem no_commit_lost (hfails : ∀ c, mayFail c → c.phase = .committing) (hdisk : HoldsBundle disk bundle)
    (hfresh : ∀ token ∈ (steps.map Step.input).filterMap DocumentsEvent.ownToken, FreshToken token disk)
    (h : History (DocumentsWorld sha256 rootDir mayFail) disk steps disk')
    {capturing committing : Step DocumentsEvent (Option String) Disk} (hcapturing : capturing ∈ steps)
    (hcommitting : committing ∈ steps) {base answered : String} {documents : DocumentsContent}
    (hcapture : capturing.input = .capture) (hbase : capturing.output = some base)
    (hcommit : committing.input = .commit token base documents) (hanswered : committing.output = some answered)
    (hfree : ∀ a b : Bundle, HoldsBundle capturing.before a → HoldsBundle committing.before b →
      baseOf sha256 a = baseOf sha256 b → baseStream a = baseStream b) :
    ∀ document, committing.before (.target document) = capturing.before (.target document) ∧
      Written documents capturing.before committing.after document := by
  obtain ⟨shown, bundle', hstore, -, hall⟩ := documents_refine hfails hdisk hfresh h
  obtain ⟨reading, hreading, hinput, houtput, hread, -⟩ := exists_of_forall₂ hall hcapturing
  obtain ⟨writing, hwriting, hinput', houtput', hwrite, hwritten⟩ := exists_of_forall₂ hall hcommitting
  rw [hcapture] at hinput
  rw [hbase] at houtput
  rw [hcommit] at hinput'
  rw [hanswered] at houtput'
  obtain ⟨hsame, hrender, -⟩ := Versioned.no_lost_update
    (fun hversion => baseStream_injective (hfree _ _ hread hwrite hversion)) hinput houtput hinput' houtput'
    (hstore.step_of_mem hreading) (hstore.step_of_mem hwriting)
  intro document
  obtain ⟨text, htext, hbytes⟩ := renderBundle_iff.mp hrender document
  constructor
  · rw [hwrite.target, hread.target, hsame]
  · refine ⟨text, ?_, ?_⟩
    · rw [hread.existingText]
      exact htext
    · rw [hwritten.target, hbytes]
      rfl

/-- The commits that were taken: the base that each quoted, and the one that it was answered with. -/
def acceptedBases (steps : List (Step DocumentsEvent (Option String) Disk)) : List (String × String) :=
  steps.filterMap fun step =>
    match step.input, step.output with
    | .commit _ quoted _, some answered => some (quoted, answered)
    | _, _ => none

/-- The documents of the commits that were taken. -/
def acceptedDocuments (steps : List (Step DocumentsEvent (Option String) Disk)) : List DocumentsContent :=
  steps.filterMap fun step =>
    match step.input, step.output with
    | .commit _ _ documents, some _ => some documents
    | _, _ => none

/-- **The bases are handed on.**  Where nobody edits the documents by hand, the first commit that is taken quotes their
base at the beginning, each one the base that the one before it was answered with, and the last answer is the base of
the documents at the end. -/
theorem bases_hand_on (hfails : ∀ c, mayFail c → c.phase = .committing) (hdisk : HoldsBundle disk bundle)
    (hfresh : ∀ token ∈ (steps.map Step.input).filterMap DocumentsEvent.ownToken, FreshToken token disk)
    (h : History (DocumentsWorld sha256 rootDir mayFail) disk steps disk')
    (hedits : ∀ step ∈ steps, ∀ edited, step.input ≠ .edit edited) :
    ∃ bundle', HoldsBundle disk' bundle' ∧
      Versioned.HandsOn (baseOf sha256 bundle) (acceptedBases steps) (baseOf sha256 bundle') := by
  obtain ⟨shown, bundle', hstore, hdisk', hall⟩ := documents_refine hfails hdisk hfresh h
  refine ⟨bundle', hdisk', ?_⟩
  have hall' := List.forall₂_and_left (p := fun step => ∀ edited, step.input ≠ .edit edited) _ _ |>.mpr ⟨hedits, hall⟩
  have hsame : shown.filterMap (Versioned.handed (baseOf sha256)) = acceptedBases steps := by
    refine filterMap_of_forall₂ ?_ hall'
    rintro ⟨before, input, output, after⟩ ⟨before', input', output', after'⟩ ⟨hnot, hinput, houtput, -⟩
    simp only at hinput houtput hnot
    subst hinput houtput
    cases input with
    | capture => rfl
    | commit token quoted documents =>
        cases output' with
        | none => rfl
        | some answered => rfl
    | edit edited => exact absurd rfl (hnot edited)
  rw [← hsame]
  exact Versioned.hands_on hstore

/-- **The last commit stands.**  Where nobody edits the documents by hand, they end as if of the commits only the last
one that was taken had been there: what it renders into the documents of the beginning. -/
theorem last_commit_stands (hfails : ∀ c, mayFail c → c.phase = .committing) (hdisk : HoldsBundle disk bundle)
    (hfresh : ∀ token ∈ (steps.map Step.input).filterMap DocumentsEvent.ownToken, FreshToken token disk)
    (h : History (DocumentsWorld sha256 rootDir mayFail) disk steps disk')
    (hedits : ∀ step ∈ steps, ∀ edited, step.input ≠ .edit edited) :
    (acceptedDocuments steps = [] ∧ ∀ document, disk' (.target document) = disk (.target document)) ∨
      ∃ documents, (acceptedDocuments steps).getLast? = some documents ∧
        ∀ document, Written documents disk disk' document := by
  obtain ⟨shown, bundle', hstore, hdisk', hall⟩ := documents_refine hfails hdisk hfresh h
  have htaken : Versioned.taken shown = acceptedDocuments steps := by
    refine filterMap_of_forall₂ ?_ hall
    rintro ⟨before, input, output, after⟩ ⟨before', input', output', after'⟩ ⟨hinput, houtput, -⟩
    simp only at hinput houtput
    subst hinput houtput
    cases input with
    | capture => rfl
    | commit token quoted documents =>
        cases output' with
        | none => rfl
        | some answered => rfl
    | edit edited => rfl
  have hno : Versioned.edits shown = [] := by
    refine List.filterMap_eq_nil_iff.mpr fun answer hanswer => ?_
    obtain ⟨step, hstep, hinput, -⟩ := exists_of_forall₂ hall.flip hanswer
    cases hevent : step.input with
    | edit edited => exact absurd hevent (hedits step hstep edited)
    | capture => simp [hinput, hevent, DocumentsEvent.means]
    | commit token quoted documents => simp [hinput, hevent, DocumentsEvent.means]
  have hforget : ∀ first second s t, renderBundle first s = .ok t → renderBundle second t = renderBundle second s :=
    fun first second s t hrender => renderBundle_again hrender
  rcases Versioned.last_write_stands hforget hstore hno with ⟨hnone, hsame⟩ | ⟨documents, hlast, hrender⟩
  · refine .inl ⟨htaken ▸ hnone, fun document => ?_⟩
    rw [hdisk'.target, hdisk.target, hsame]
  · refine .inr ⟨documents, htaken ▸ hlast, fun document => ?_⟩
    obtain ⟨text, htext, hbytes⟩ := renderBundle_iff.mp hrender document
    refine ⟨text, ?_, ?_⟩
    · rw [hdisk.existingText]
      exact htext
    · rw [hdisk'.target, hbytes]
      rfl

end History

/-! ### A commit between two others -/

/-- What an event answers and does where nothing fails. -/
def runEvent (sha256 : List UInt8 → String) (rootDir : String) : DocumentsEvent → Disk → Option String × Disk
  | .capture, disk =>
      let ended := runOn disk (captureDocumentsBase sha256 .checking rootDir)
      (ended.1.toOption, ended.2)
  | .commit token expectedBaseHash documents, disk =>
      let ended := runOn disk (commitDocumentsBundle sha256 token ⟨rootDir, expectedBaseHash, documents⟩)
      (committedBase ended.1, ended.2)
  | .edit bundle, disk => (none, disk.edited bundle)

theorem runEvent_world (event : DocumentsEvent) (disk : Disk) :
    DocumentsWorld sha256 rootDir mayFail event disk (runEvent sha256 rootDir event disk).1
      (runEvent sha256 rootDir event disk).2 := by
  cases event with
  | capture =>
      simp only [DocumentsWorld, runEvent]
      exact ⟨_, runOn_runs mayFail disk (captureDocumentsBase sha256 .checking rootDir), rfl⟩
  | commit token expectedBaseHash documents =>
      simp only [DocumentsWorld, runEvent]
      exact ⟨_, runOn_runs mayFail disk (commitDocumentsBundle sha256 token ⟨rootDir, expectedBaseHash, documents⟩), rfl⟩
  | edit bundle => exact ⟨rfl, rfl⟩

/-- The base of the three documents of `latinDisk`. -/
def latinBase : String := baseOf sampleHash fun document => some (latinOld document)

/-- One session captures the base; another one commits under a base that is out of date; then the first one commits,
and once more under the base that it captured. -/
def latinEvents : List DocumentsEvent :=
  [.capture, .commit "s" "stale" ⟨"x", "y", "z"⟩, .commit "t" latinBase ⟨"c", "a", "h"⟩,
    .commit "u" latinBase ⟨"d", "b", "i"⟩]

def latinSteps : List (Step DocumentsEvent (Option String) Disk) :=
  trace (runEvent sampleHash "/project") latinDisk latinEvents

theorem latin_history :
    History (DocumentsWorld sampleHash "/project" fun _ => False) latinDisk latinSteps
      (finish (runEvent sampleHash "/project") latinDisk latinEvents) :=
  .of_trace runEvent_world latinDisk latinEvents

theorem latin_answered : latinSteps.map (fun step => step.output.isSome) = [true, false, true, false] := by
  decide +kernel

theorem latin_inputs (step : Step DocumentsEvent (Option String) Disk) (h : step ∈ latinSteps) :
    step.input ∈ latinEvents := by
  simp only [latinSteps, latinEvents, trace, stepAt, List.mem_cons, List.not_mem_nil, or_false] at h
  rcases h with rfl | rfl | rfl | rfl
  all_goals simp [latinEvents]

theorem latin_noEdits : ∀ step ∈ latinSteps, ∀ edited, step.input ≠ .edit edited := by
  intro step hstep edited hinput
  have hmem := latin_inputs step hstep
  rw [hinput] at hmem
  simp [latinEvents] at hmem

theorem latin_fresh (token : String) : FreshToken token latinDisk := fun _ => ⟨rfl, rfl⟩

/-- The first step captures the base, and the third one commits under it. -/
theorem latin_steps :
    ∃ capturing refused committing late, latinSteps = [capturing, refused, committing, late] ∧
      capturing.input = .capture ∧ committing.input = .commit "t" latinBase ⟨"c", "a", "h"⟩ ∧
      capturing.before = latinDisk :=
  ⟨_, _, _, _, rfl, rfl, rfl, rfl⟩

theorem no_commit_lost_latin :
    ∃ capturing ∈ latinSteps, ∃ committing ∈ latinSteps, committing.output.isSome ∧ ∀ document,
      committing.before (.target document) = capturing.before (.target document) ∧
        Written ⟨"c", "a", "h"⟩ capturing.before committing.after document := by
  have hanswered := latin_answered
  obtain ⟨capturing, refused, committing, late, hsteps, hcapture, hcommit, hbefore⟩ := latin_steps
  rw [hsteps] at hanswered
  simp only [List.map_cons, List.map_nil, List.cons.injEq, and_true] at hanswered
  obtain ⟨-, -, hcommitted, -⟩ := hanswered
  obtain ⟨answered, hanswered⟩ := Option.isSome_iff_exists.mp hcommitted
  have hcapturing : capturing ∈ latinSteps := by simp [hsteps]
  have hcommitting : committing ∈ latinSteps := by simp [hsteps]
  -- what the first step answers is the base of the documents
  have hroot : ¬ Blank "/project" := by decide
  have hstep := latin_history.step_of_mem hcapturing
  rw [hcapture, hbefore] at hstep
  obtain ⟨r, hrun, hcaptured⟩ := hstep
  obtain ⟨rfl, -⟩ := captureDocumentsBase_runs latinDisk_holds hroot hrun
  refine ⟨capturing, hcapturing, committing, hcommitting, hcommitted, ?_⟩
  exact no_commit_lost (by simp) latinDisk_holds (fun token _ => latin_fresh token) latin_history hcapturing hcommitting
    hcapture hcaptured hcommit hanswered fun a b _ _ hbase => sampleHash_injective _ _ hbase

theorem bases_hand_on_latin :
    ∃ bundle', HoldsBundle (finish (runEvent sampleHash "/project") latinDisk latinEvents) bundle' ∧
      Versioned.HandsOn latinBase (acceptedBases latinSteps) (baseOf sampleHash bundle') :=
  bases_hand_on (by simp) latinDisk_holds (fun token _ => latin_fresh token) latin_history latin_noEdits

theorem last_commit_stands_latin :
    (acceptedDocuments latinSteps = [] ∧ ∀ document,
        finish (runEvent sampleHash "/project") latinDisk latinEvents (.target document) =
          latinDisk (.target document)) ∨
      ∃ documents, (acceptedDocuments latinSteps).getLast? = some documents ∧ ∀ document,
        Written documents latinDisk (finish (runEvent sampleHash "/project") latinDisk latinEvents) document :=
  last_commit_stands (by simp) latinDisk_holds (fun token _ => latin_fresh token) latin_history latin_noEdits

end ForgeRuntime
