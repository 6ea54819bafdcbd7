import ForgeRuntime.Artifacts.CompareAndSwap

/-!
# What a commit answers

Where no call fails, a commit is taken whenever it can be: its base is the present one, and each document can be
rendered.  Otherwise it answers the conflict, or the error of the first document that cannot.

* `stageDocuments_sure`, `installDocuments_sure` — the phases get through;
* `storeAnswer` — what the store answers to a commit, and the bundle that it leaves;
* `commit_answers` — **the program answers and leaves the same**.
-/

namespace ForgeRuntime

open EventDriven EventDriven.Program EventDriven.Text

variable {sha256 : List UInt8 → String} {token : String} {disk disk' : Disk} {bundle : Bundle} {α : Type}

/-! ### Sure calls one after another -/

/-- A call that succeeds: the program goes on with its answer. -/
theorem runs_sure_bind {phase : Phase} {op : FileOp} {a : op.Answer} {d : Disk} {f : op.Answer → Fs α}
    {r : Except String α} (ha : disk.answer op = (.ok a, d)) (h : Runs SureFileSystem (ask phase op >>= f) disk r disk') :
    Runs SureFileSystem (f a) d r disk' := by
  rcases runs_bind_iff.mp h with ⟨b, d₁, hask, hrest⟩ | ⟨e, hask, -⟩
  · cases (ask_answer hask).trans ha
    exact hrest
  · cases (ask_answer hask).trans ha

/-- The same where the program tries the call. -/
theorem runs_sure_attempt {phase : Phase} {op : FileOp} {a : op.Answer} {d : Disk} {f : Except String op.Answer → Fs α}
    {r : Except String α} (ha : disk.answer op = (.ok a, d))
    (h : Runs SureFileSystem ((ask phase op).attempt >>= f) disk r disk') :
    Runs SureFileSystem (f (.ok a)) d r disk' := by
  obtain ⟨answer, d₁, hask, hrest⟩ := runs_attempt_bind_iff.mp h
  cases (ask_answer hask).trans ha
  exact hrest

/-! ### Staging -/

section Staging

variable {document : DocumentKey} {documents : DocumentsContent}

theorem existsSync_target (htarget : disk (.target document) = (bundle document).map fun content => .node (.file content)) :
    disk.answer (.existsSync (.target document)) = (.ok (bundle document).isSome, disk) := by
  simp only [Disk.answer, htarget]
  cases bundle document with
  | none => rfl
  | some content => rfl

/-- The text of a document is read from its file. -/
theorem readExisting_sure {r : Except String (Option String)}
    (htarget : disk (.target document) = (bundle document).map fun content => .node (.file content))
    (h : Runs SureFileSystem (readExisting document (bundle document).isSome) disk r disk') :
    r = .ok (bundle.text document) ∧ disk' = disk := by
  unfold Bundle.text
  cases hbundle : bundle document with
  | none =>
      rw [hbundle] at h
      exact runs_pure_iff.mp h
  | some content =>
      rw [hbundle] at h htarget
      have hread : disk.answer (.readFile (.target document)) = (.ok content, disk) := by
        simp only [Disk.answer, htarget]
        rfl
      exact runs_pure_iff.mp (runs_sure_bind hread h)

/-- How far staging a document comes without a call that fails: its text is rendered. -/
theorem stageDocument_renders {outcome : Except String Staged}
    (htarget : disk (.target document) = (bundle document).map fun content => .node (.file content))
    (h : Runs SureFileSystem (stageDocument token documents document) disk outcome disk') :
    Runs SureFileSystem (do
      let text ← Program.lift (renderManagedDocument document.marker (documents.body document) (bundle.text document))
      ask .committing (.writeNew (.staged document token) (bytesOf text))
      pure ⟨document, (bundle document).isSome, false, false⟩) disk outcome disk' := by
  have hrest := runs_sure_bind (existsSync_target htarget) h
  rcases runs_bind_iff.mp hrest with ⟨existing, d, hexisting, hrest⟩ | ⟨e, hexisting, -⟩
  · obtain ⟨hvalue, rfl⟩ := readExisting_sure htarget hexisting
    cases hvalue
    exact hrest
  · cases (readExisting_sure htarget hexisting).1

/-- A document that cannot be rendered is not staged. -/
theorem stageDocument_unrendered {outcome : Except String Staged} {e : String}
    (htarget : disk (.target document) = (bundle document).map fun content => .node (.file content))
    (hrender : renderManagedDocument document.marker (documents.body document) (bundle.text document) = .error e)
    (h : Runs SureFileSystem (stageDocument token documents document) disk outcome disk') :
    outcome = .error e ∧ disk' = disk := by
  have hrest := stageDocument_renders htarget h
  rw [hrender] at hrest
  rcases runs_bind_iff.mp hrest with ⟨text, d, hlift, -⟩ | ⟨e', hlift, rfl⟩
  · cases (runs_lift_iff.mp hlift).1
  · obtain ⟨herror, hsame⟩ := runs_lift_iff.mp hlift
    cases herror
    exact ⟨rfl, hsame⟩

/-- One that can be rendered is. -/
theorem stageDocument_rendered {outcome : Except String Staged} {text : String}
    (htarget : disk (.target document) = (bundle document).map fun content => .node (.file content))
    (hdir : disk .documentsDir = some (.node .directory)) (hfree : disk (.staged document token) = none)
    (hrender : renderManagedDocument document.marker (documents.body document) (bundle.text document) = .ok text)
    (h : Runs SureFileSystem (stageDocument token documents document) disk outcome disk') :
    outcome = .ok ⟨document, (bundle document).isSome, false, false⟩ := by
  have hrest := stageDocument_renders htarget h
  rw [hrender] at hrest
  have hwrite : disk.answer (.writeNew (.staged document token) (bytesOf text)) =
      (.ok (), disk.put (.staged document token) (some (.node (.file (bytesOf text))))) := by
    simp [Disk.answer, hdir, hfree]
  have hwritten : Runs SureFileSystem (ask .committing (.writeNew (.staged document token) (bytesOf text)) >>= fun _ =>
      pure ⟨document, (bundle document).isSome, false, false⟩) disk outcome disk' := hrest
  have hdone := runs_sure_bind hwrite hwritten
  exact (runs_pure_iff.mp hdone).1

/-- Whether each of the documents can be rendered, in their order. -/
def renderEach (documents : DocumentsContent) (bundle : Bundle) : List DocumentKey → Except String Unit
  | [] => .ok ()
  | document :: rest => do
      let _ ← renderManagedDocument document.marker (documents.body document) (bundle.text document)
      renderEach documents bundle rest

/-- The entry of a document that was staged. -/
def stagedEntry (bundle : Bundle) (document : DocumentKey) : Staged := ⟨document, (bundle document).isSome, false, false⟩

/-- **Staging gets through** to the first document that cannot be rendered. -/
theorem stageDocuments_sure {keys : List DocumentKey} {staged staged' : List Staged} {outcome : Except String Unit}
    (hnodup : keys.Nodup)
    (htargets : ∀ document, disk (.target document) = (bundle document).map fun content => .node (.file content))
    (hdir : disk .documentsDir = some (.node .directory)) (hfree : ∀ document ∈ keys, disk (.staged document token) = none)
    (h : Runs SureFileSystem (stageDocuments token documents keys staged) disk (.ok (staged', outcome)) disk') :
    outcome = renderEach documents bundle keys ∧
      (outcome = .ok () → staged' = staged ++ keys.map (stagedEntry bundle)) := by
  induction keys generalizing staged disk with
  | nil =>
      obtain ⟨hstaged, houtcome⟩ := Prod.mk.inj (Except.ok.inj (runs_pure_iff.mp h).1)
      exact ⟨houtcome, fun _ => hstaged.trans (List.append_nil staged).symm⟩
  | cons document rest ih =>
      obtain ⟨hnotMem, hnodup⟩ := List.nodup_cons.mp hnodup
      obtain ⟨outcome₁, d₁, hstage, hrest⟩ := runs_attempt_bind_iff.mp h
      have hother : ∀ path, path ≠ .staged document token → d₁ path = disk path :=
        fun path hpath => (changes_stageDocument document).same hstage hpath
      unfold renderEach
      cases hrender : renderManagedDocument document.marker (documents.body document) (bundle.text document) with
      | error e =>
          obtain ⟨rfl, -⟩ := stageDocument_unrendered (htargets document) hrender hstage
          cases Except.ok.inj (runs_pure_iff.mp hrest).1
          exact ⟨rfl, fun hok => by cases hok⟩
      | ok text =>
          obtain rfl := stageDocument_rendered (htargets document) hdir (hfree document List.mem_cons_self) hrender hstage
          have hfree₁ : ∀ key ∈ rest, d₁ (.staged key token) = none := by
            intro key hkey
            rw [hother _ fun heq => hnotMem (by injection heq with hsame; exact hsame ▸ hkey)]
            exact hfree key (List.mem_cons_of_mem _ hkey)
          obtain ⟨houtcome, hstaged⟩ := ih hnodup (fun key => (hother _ (by simp)).trans (htargets key))
            ((hother _ (by simp)).trans hdir) hfree₁ hrest
          refine ⟨houtcome, fun hok => ?_⟩
          rw [hstaged hok, List.append_assoc]
          rfl

end Staging

/-! ### Installing -/

/-- **An install gets through** where the staged file stands, and the target is as it was when it was staged. -/
theorem installDocument_sure {entry entry' : Staged} {outcome : Except String Unit} {content : List UInt8}
    (hstaged : disk (.staged entry.document token) = some (.node (.file content)))
    (htarget : entry.existed = (disk (.target entry.document)).isSome)
    (h : Runs SureFileSystem (installDocument token entry) disk (.ok (entry', outcome)) disk') : outcome = .ok () := by
  obtain ⟨backedUp, d₁, hbackUp, h₁⟩ := runs_attempt_bind_iff.mp h
  -- the old file is out of the way
  have hmoved : backedUp = .ok () ∧ d₁ (.target entry.document) = none ∧
      d₁ (.staged entry.document token) = some (.node (.file content)) := by
    cases hold : disk (.target entry.document) with
    | none =>
        have hnot : entry.existed = false := by rw [htarget, hold, Option.isSome_none]
        rw [hnot] at hbackUp
        obtain ⟨hdone, rfl⟩ := runs_pure_iff.mp hbackUp
        exact ⟨hdone, hold, hstaged⟩
    | some old =>
        have hexisted : entry.existed = true := by rw [htarget, hold, Option.isSome_some]
        rw [hexisted] at hbackUp
        obtain ⟨hdone, rfl⟩ := rename_sure hold hbackUp
        refine ⟨hdone, ?_, ?_⟩
        · rw [Disk.put_other (by simp), Disk.put_same]
        · rw [Disk.put_other (by simp), Disk.put_other (by simp)]
          exact hstaged
  obtain ⟨rfl, hgone, hstaged₁⟩ := hmoved
  have hlink : d₁.answer (.link (.staged entry.document token) (.target entry.document)) =
      (.ok (), d₁.put (.target entry.document) (some (.node (.file content)))) := by
    simp only [Disk.answer, hgone, hstaged₁]
  have h₂ := runs_sure_attempt hlink h₁
  have hremove : (d₁.put (.target entry.document) (some (.node (.file content)))).answer
      (.remove (.staged entry.document token) false) =
      (.ok (), (d₁.put (.target entry.document) (some (.node (.file content)))).put (.staged entry.document token) none) := by
    simp only [Disk.answer]
    rw [Disk.put_other (by simp), hstaged₁]
  have hdone := runs_sure_attempt hremove h₂
  exact (Prod.mk.inj (Except.ok.inj (runs_pure_iff.mp hdone).1)).2

/-- **The installs get through** where each of them does. -/
theorem installDocuments_sure {entries entries' : List Staged} {outcome : Except String Unit}
    (hnodup : (entries.map Staged.document).Nodup)
    (hstaged : ∀ entry ∈ entries, HasFile disk (.staged entry.document token))
    (htarget : ∀ entry ∈ entries, entry.existed = (disk (.target entry.document)).isSome)
    (h : Runs SureFileSystem (installDocuments token entries) disk (.ok (entries', outcome)) disk') : outcome = .ok () := by
  induction entries generalizing disk entries' outcome disk' with
  | nil => exact (Prod.mk.inj (Except.ok.inj (runs_pure_iff.mp h).1)).2
  | cons entry rest ih =>
      obtain ⟨hnotMem, hnodup⟩ := List.nodup_cons.mp hnodup
      obtain ⟨⟨entry', outcome₁⟩, d₁, hinstall, hrest⟩ := runs_bind_ok.mp h
      obtain ⟨content, hfile⟩ := hstaged entry List.mem_cons_self
      obtain rfl := installDocument_sure hfile (htarget entry List.mem_cons_self) hinstall
      obtain ⟨⟨rest', outcome₂⟩, d₂, hrest', hdone⟩ := runs_bind_ok.mp hrest
      -- the other documents have paths of their own
      have hother : ∀ e ∈ rest, ∀ path, OwnPath token e.document path → d₁ path = disk path := by
        intro e he path hpath
        refine (changes_installDocument entry).same hinstall fun hown => hnotMem ?_
        rw [ownPath_unique hown hpath]
        exact List.mem_map_of_mem he
      obtain rfl := ih hnodup
        (fun e he => by
          obtain ⟨content, hfile⟩ := hstaged e (List.mem_cons_of_mem _ he)
          exact ⟨content, (hother e he _ (.inr (.inr rfl))).trans hfile⟩)
        (fun e he => by
          rw [hother e he _ (.inl rfl)]
          exact htarget e (List.mem_cons_of_mem _ he)) hrest'
      exact (Prod.mk.inj (Except.ok.inj (runs_pure_iff.mp hdone).1)).2

/-! ### The commit -/

section Commit

variable {request : CommitDocumentsRequest}

/-- Making the directory gets through where nothing else stands in its place. -/
theorem mkdir_sure {phase : Phase} {made : Except String Unit} (hplain : PlainDirectory disk)
    (h : Runs SureFileSystem (ask phase (.mkdir .documentsDir)) disk made disk') :
    made = .ok () ∧ disk' .documentsDir = some (.node .directory) := by
  have hanswer := ask_answer h
  rcases hplain with hnone | hdir
  · simp only [Disk.answer, hnone] at hanswer
    obtain ⟨hmade, rfl⟩ := Prod.mk.inj hanswer
    exact ⟨hmade, Disk.put_same _ _ _⟩
  · simp only [Disk.answer, hdir, Entry.follow, if_true] at hanswer
    obtain ⟨hmade, rfl⟩ := Prod.mk.inj hanswer
    exact ⟨hmade, hdir⟩

/-- **A body over the present base gets through** if each document can be rendered. -/
theorem commitBody_sure {staged : List Staged} {outcome : Except String (Option CommitDocumentsResult)}
    (hdisk : HoldsBundle disk bundle) (hroot : ¬ Blank request.rootDir) (hfresh : FreshToken token disk)
    (hbase : request.expectedBaseHash = baseOf sha256 bundle)
    (h : Runs SureFileSystem (commitBody sha256 token request) disk (.ok (staged, outcome)) disk') :
    outcome = (renderEach request.documents bundle documentKeys).map fun _ => none := by
  obtain ⟨made, d₁, hmkdir, h₁⟩ := runs_attempt_bind_iff.mp h
  have hsame₁ : ∀ path, path ≠ .documentsDir → d₁ path = disk path := fun path hpath => ask_same rfl hmkdir hpath
  obtain ⟨rfl, hdir⟩ := mkdir_sure hdisk.documentsDir hmkdir
  have htargets₁ : ∀ document, d₁ (.target document) = disk (.target document) := fun document => hsame₁ _ (by simp)
  obtain ⟨⟨staged₁, outcome₁⟩, d₂, hstage, h₂⟩ := runs_bind_ok.mp h₁
  obtain ⟨hrendered, hentries⟩ := stageDocuments_sure documentKeys_nodup
    (fun document => (htargets₁ document).trans (hdisk.target document)) hdir
    (fun document _ => (hsame₁ _ (by simp)).trans (hfresh document).1) hstage
  rw [← hrendered]
  cases outcome₁ with
  | error e => exact (Prod.mk.inj (Except.ok.inj (runs_pure_iff.mp h₂).1)).2
  | ok _ =>
      have hnone : ∀ entry ∈ ([] : List Staged), Ready request.documents token d₁ d₁ entry :=
        fun entry hentry => absurd hentry List.not_mem_nil
      obtain ⟨hready, htargets₂, -, -⟩ :=
        stageDocuments_ready (by simpa using documentKeys_nodup) hnone (fun _ => rfl) hstage
      have hsame₂ : ∀ path, (∀ document, path ≠ .staged document token) → d₂ path = d₁ path := by
        intro path hpath
        refine (changes_stageDocuments documentKeys []).same hstage ?_
        rintro ⟨document, -, hwritten⟩
        exact hpath document hwritten
      have hdisk₂ : HoldsBundle d₂ bundle :=
        { root := by
            rw [hsame₂ _ (by simp), hsame₁ _ (by simp)]
            exact hdisk.root
          documentsDir := .inr ((hsame₂ _ (by simp)).trans hdir)
          target := fun document => ((htargets₂ document).trans (htargets₁ document)).trans (hdisk.target document) }
      obtain ⟨captured, d₃, hcapture, h₃⟩ := runs_attempt_bind_iff.mp h₂
      obtain ⟨rfl, rfl⟩ := captureDocumentsBase_runs hdisk₂ hroot hcapture
      simp only at h₃
      rw [if_neg (not_not.mpr hbase.symm)] at h₃
      obtain ⟨⟨installed, outcome₂⟩, d₄, hinstall, h₄⟩ := runs_bind_ok.mp h₃
      have hentries' : staged₁ = documentKeys.map (stagedEntry bundle) := by
        rw [hentries rfl, List.nil_append]
      obtain rfl := installDocuments_sure (by rw [hentries']; exact documentKeys_nodup)
        (fun entry hentry => by
          obtain ⟨-, -, _, text, -, -, hfile⟩ := hready entry hentry
          exact ⟨_, hfile⟩)
        (fun entry hentry => by
          rw [hentries'] at hentry
          obtain ⟨document, -, rfl⟩ := List.mem_map.mp hentry
          rw [hdisk₂.target]
          simp [stagedEntry]) hinstall
      exact (Prod.mk.inj (Except.ok.inj (runs_pure_iff.mp h₄).1)).2

/-- **What the store answers** to a commit, and the bundle that it leaves. -/
def storeAnswer (sha256 : List UInt8 → String) (request : CommitDocumentsRequest) (bundle : Bundle) :
    CommitDocumentsResult × Bundle :=
  if baseOf sha256 bundle ≠ request.expectedBaseHash then
    (.conflict "Documents base hash 已變更", bundle)
  else
    match renderBundle request.documents bundle with
    | .error e => (.failed [e], bundle)
    | .ok bundle' => (.committed (baseOf sha256 bundle'), bundle')

theorem renderEach_eq (documents : DocumentsContent) (bundle : Bundle) :
    renderEach documents bundle documentKeys = (renderBundle documents bundle).map fun _ => () := by
  simp only [renderEach, documentKeys, renderBundle]
  cases renderManagedDocument DocumentKey.context.marker (documents.body .context) (bundle.text .context) with
  | error e => rfl
  | ok context =>
      cases renderManagedDocument DocumentKey.adr.marker (documents.body .adr) (bundle.text .adr) with
      | error e => rfl
      | ok adr =>
          cases renderManagedDocument DocumentKey.handoff.marker (documents.body .handoff) (bundle.text .handoff) with
          | error e => rfl
          | ok handoff => rfl

/-- **The program answers what the store answers**, and leaves its bundle: where no call fails, a commit is taken if its
base is the present one and its documents can be rendered, and it says why if they cannot. -/
theorem commit_answers (hdisk : HoldsBundle disk bundle) (hroot : ¬ Blank request.rootDir) (hfresh : FreshToken token disk)
    {r : Except String CommitDocumentsResult}
    (h : Runs SureFileSystem (commitDocumentsBundle sha256 token request) disk r disk') :
    r = .ok (storeAnswer sha256 request bundle).1 ∧ HoldsBundle disk' (storeAnswer sha256 request bundle).2 := by
  unfold storeAnswer
  by_cases hbase : baseOf sha256 bundle = request.expectedBaseHash
  case neg =>
    rw [if_pos hbase]
    obtain ⟨hr, rfl⟩ := commitDocumentsBundle_conflict hdisk hroot hbase h
    exact ⟨hr, hdisk⟩
  rw [if_neg (not_not.mpr hbase)]
  have hfails : ∀ c : FileCall, False → c.phase = .committing := fun _ hfalse => hfalse.elim
  obtain ⟨result, hr, -, -⟩ := commit_leaves hfails hfresh.backups h
  subst hr
  obtain ⟨resolved, d₁, hresolve, h₁⟩ := runs_attempt_bind_iff.mp h
  obtain ⟨rfl, rfl⟩ := resolveDocumentsDir_runs hdisk hroot hresolve
  obtain ⟨captured, d₂, hcapture, h₂⟩ := runs_attempt_bind_iff.mp h₁
  obtain ⟨rfl, rfl⟩ := captureDocumentsBase_runs hdisk hroot hcapture
  simp only at h₂
  rw [if_neg (not_not.mpr hbase)] at h₂
  obtain ⟨⟨staged, outcome⟩, d₃, hbody, h₃⟩ := runs_bind_ok.mp h₂
  have houtcome := commitBody_sure hdisk hroot hfresh hbase.symm hbody
  rw [renderEach_eq] at houtcome
  cases hrender : renderBundle request.documents bundle with
  | error e =>
      rw [hrender] at houtcome
      subst houtcome
      obtain ⟨errors, d₄, hrollback, h₄⟩ := runs_bind_ok.mp h₃
      obtain ⟨_, d₅, hcleanup, h₅⟩ := runs_bind_ok.mp h₄
      obtain ⟨hundone, -⟩ := rolledBack hfresh.backups hbody hrollback hcleanup
      cases Except.ok.inj hundone
      cases Except.ok.inj (runs_pure_iff.mp h₅).1
      exact ⟨rfl, commit_refused hfails hdisk hfresh.backups (by simp) h⟩
  | ok bundle' =>
      rw [hrender] at houtcome
      subst houtcome
      obtain ⟨_, d₄, -, h₄⟩ := runs_bind_ok.mp h₃
      obtain ⟨_, d₅, -, h₅⟩ := runs_bind_ok.mp h₄
      obtain ⟨base, d₆, -, h₆⟩ := runs_bind_ok.mp h₅
      cases Except.ok.inj (runs_pure_iff.mp h₆).1
      obtain ⟨-, taken, htaken, hdisk', rfl⟩ := commit_taken hfails hdisk hfresh.backups h
      cases hrender.symm.trans htaken
      exact ⟨rfl, hdisk'⟩

theorem commit_answers_latin :
    latinCommit.1 = .ok (storeAnswer sampleHash latinRequest fun document => some (latinOld document)).1 ∧
      HoldsBundle latinCommit.2 (storeAnswer sampleHash latinRequest fun document => some (latinOld document)).2 := by
  have hroot : ¬ Blank latinRequest.rootDir := by
    show ¬ Blank "/project"
    decide
  have hrun : Runs SureFileSystem (commitDocumentsBundle sampleHash "t" latinRequest) latinDisk latinCommit.1
      latinCommit.2 := runOn_runs _ latinDisk _
  exact commit_answers latinDisk_holds hroot (latin_fresh "t") hrun

end Commit

end ForgeRuntime
