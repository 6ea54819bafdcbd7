import ForgeRuntime.Artifacts.DocumentsWriter

/-!
# Runs of a commit

What the parts of `commitDocumentsBundle` change on the disk, and what they leave behind.

* `Changes` — the paths outside which a program leaves the disk alone, through failing calls too;
* `stageDocuments_ready` — what is staged is the rendered text of the document over its old content;
* `installDocuments_spec` — installs that get through have put the staged files in place.
-/

namespace ForgeRuntime

open EventDriven EventDriven.Program

variable {mayFail : FileCall → Prop} {α β : Type}

/-! ### What a program changes -/

/-- The paths that a call writes to. -/
def FileOp.writes : FileOp → List DiskPath
  | .mkdir path | .writeNew path _ | .link _ path | .remove path _ => [path]
  | .rename source target => [source, target]
  | _ => []

theorem answer_other {op : FileOp} {path : DiskPath} (h : path ∉ op.writes) (disk : Disk) :
    (disk.answer op).2 path = disk path := by
  cases op with
  | isDirectory _ | isRealFile _ | isRealDirectory _ | readFile _ =>
      simp only [Disk.answer]
      split <;> rfl
  | existsSync _ => rfl
  | mkdir made =>
      simp only [FileOp.writes, List.mem_singleton] at h
      simp only [Disk.answer]
      split
      · exact Disk.put_other h
      · split <;> rfl
  | writeNew written content =>
      simp only [FileOp.writes, List.mem_singleton] at h
      simp only [Disk.answer]
      split
      · rfl
      · split
        · rfl
        · exact Disk.put_other h
  | rename source target =>
      simp only [FileOp.writes, List.mem_cons, List.not_mem_nil, or_false, not_or] at h
      simp only [Disk.answer]
      split
      · rfl
      · exact (Disk.put_other h.2).trans (Disk.put_other h.1)
  | link source target =>
      simp only [FileOp.writes, List.mem_singleton] at h
      simp only [Disk.answer]
      split
      · rfl
      · rfl
      · exact Disk.put_other h
  | remove removed force =>
      simp only [FileOp.writes, List.mem_singleton] at h
      simp only [Disk.answer]
      split
      · split <;> rfl
      · rfl
      · exact Disk.put_other h

theorem fileSystem_other {c : FileCall} {path : DiskPath} {disk disk' : Disk} {answer : Except String c.Answer}
    (hpath : path ∉ c.op.writes) (h : FileSystem mayFail c disk answer disk') : disk' path = disk path := by
  rcases h with h | ⟨-, rfl | ⟨written, content, part, hop, -, -, -, rfl⟩, -⟩
  · obtain ⟨-, rfl⟩ := Prod.mk.inj h
    exact answer_other hpath disk
  · rfl
  · rw [hop, FileOp.writes, List.mem_singleton] at hpath
    exact Disk.put_other hpath

/-- Outside `paths` the program leaves the disk alone. -/
def Changes (mayFail : FileCall → Prop) (paths : DiskPath → Prop) (p : Fs α) : Prop :=
  ∀ path v, ¬ paths path → Keeps (FileSystem mayFail) (fun disk => disk path = v) p

variable {paths : DiskPath → Prop}

theorem changes_done (r : Except String α) : Changes mayFail paths (.done r : Fs α) :=
  fun _ _ _ => keeps_done r

theorem changes_ask {phase : Phase} {op : FileOp} (h : ∀ path ∈ op.writes, paths path) :
    Changes mayFail paths (ask phase op) := by
  intro path v hpath
  refine keeps_perform fun disk answer disk' hdisk hcall => ?_
  rw [fileSystem_other (fun hmem => hpath (h path hmem)) hcall]
  exact hdisk

theorem changes_bind {p : Fs α} {f : α → Fs β} (hp : Changes mayFail paths p) (hf : ∀ a, Changes mayFail paths (f a)) :
    Changes mayFail paths (p >>= f) :=
  fun path v hpath => keeps_bind (hp path v hpath) fun a => hf a path v hpath

theorem changes_attempt {p : Fs α} (hp : Changes mayFail paths p) : Changes mayFail paths p.attempt :=
  fun path v hpath => keeps_attempt (hp path v hpath)

theorem changes_ite {c : Prop} [Decidable c] {p q : Fs α} (hp : Changes mayFail paths p)
    (hq : Changes mayFail paths q) : Changes mayFail paths (if c then p else q) := by
  split
  · exact hp
  · exact hq

theorem changes_read {phase : Phase} {op : FileOp} (h : op.writes = []) : Changes mayFail paths (ask phase op) :=
  changes_ask (by simp [h])

theorem Changes.mono {wider : DiskPath → Prop} {p : Fs α} (h : Changes mayFail paths p)
    (hwider : ∀ path, paths path → wider path) : Changes mayFail wider p :=
  fun path v hpath => h path v fun hin => hpath (hwider path hin)

/-- The run of a program that does not change a path leaves it as it was. -/
theorem Changes.same {p : Fs α} (h : Changes mayFail paths p) {disk disk' : Disk} {r : Except String α}
    (hrun : Runs (FileSystem mayFail) p disk r disk') {path : DiskPath} (hpath : ¬ paths path) :
    disk' path = disk path :=
  h path (disk path) hpath disk r disk' rfl hrun

/-- A program that changes nothing leaves the disk as it was. -/
theorem disk_same {p : Fs α} (h : Changes mayFail (fun _ => False) p) {disk disk' : Disk} {r : Except String α}
    (hrun : Runs (FileSystem mayFail) p disk r disk') : disk' = disk := by
  funext path
  exact h.same hrun not_false

/-- A call that writes one path leaves the others. -/
theorem ask_same {phase : Phase} {op : FileOp} {written path : DiskPath} (hop : op.writes = [written])
    {disk disk' : Disk} {answer : Except String op.Answer}
    (h : Runs (FileSystem mayFail) (ask phase op) disk answer disk') (hpath : path ≠ written) :
    disk' path = disk path := by
  have hchanges : Changes mayFail (fun path => path = written) (ask phase op) := changes_ask (by simp [hop])
  exact hchanges.same h hpath

/-! ### Reading the base -/

theorem changes_resolveDocumentsDir (phase : Phase) (rootDir : String) :
    Changes mayFail paths (resolveDocumentsDir phase rootDir) := by
  refine changes_ite (changes_done _) (changes_bind (changes_read rfl) fun isDirectory => ?_)
  refine changes_ite (changes_done _) (changes_bind (changes_read rfl) fun present => ?_)
  refine changes_ite (changes_done _) (changes_bind (changes_read rfl) fun real => ?_)
  exact changes_ite (changes_done _) (changes_done _)

theorem changes_baseRecord (phase : Phase) (document : DocumentKey) :
    Changes mayFail paths (baseRecord phase document) := by
  refine changes_bind (changes_read rfl) fun present => ?_
  refine changes_ite (changes_done _) (changes_bind (changes_read rfl) fun real => ?_)
  exact changes_ite (changes_done _) (changes_bind (changes_read rfl) fun content => changes_done _)

theorem changes_baseRecords (phase : Phase) (documents : List DocumentKey) :
    Changes mayFail paths (baseRecords phase documents) := by
  induction documents with
  | nil => exact changes_done _
  | cons document rest ih =>
      exact changes_bind (changes_baseRecord phase document) fun record =>
        changes_bind ih fun records => changes_done _

/-- Reading the base changes nothing. -/
theorem changes_captureDocumentsBase (sha256 : List UInt8 → String) (phase : Phase) (rootDir : String) :
    Changes mayFail paths (captureDocumentsBase sha256 phase rootDir) :=
  changes_bind (changes_resolveDocumentsDir phase rootDir) fun _ =>
    changes_bind (changes_baseRecords phase documentKeys) fun _ => changes_done _

/-! ### Calls that succeed -/

theorem ask_iff {phase : Phase} {op : FileOp} {answer : Except String op.Answer} {disk disk' : Disk} :
    Runs (FileSystem mayFail) (ask phase op) disk answer disk' ↔
      FileSystem mayFail ⟨phase, op⟩ disk answer disk' := runs_perform_iff

/-- Only `existsSync` answers when it fails. -/
theorem ask_ok {phase : Phase} {op : FileOp} {a : op.Answer} {disk disk' : Disk}
    (h : Runs (FileSystem mayFail) (ask phase op) disk (.ok a) disk')
    (hop : ∀ message, op.failure message ≠ .ok a) : disk.answer op = (.ok a, disk') := by
  rcases ask_iff.mp h with h | ⟨-, -, message, hmessage⟩
  · exact h.symm
  · exact absurd hmessage.symm (hop message)

variable {phase : Phase} {disk disk' : Disk}

theorem readFile_ok {path : DiskPath} {content : List UInt8}
    (h : Runs (FileSystem mayFail) (ask phase (.readFile path)) disk (.ok content) disk') :
    (disk path).bind Entry.follow = some (.file content) ∧ disk' = disk := by
  have hanswer := ask_ok h (fun _ => nofun)
  simp only [Disk.answer] at hanswer
  split at hanswer
  · cases hanswer
  · cases hanswer
  · next found hfound =>
      cases hanswer
      exact ⟨hfound, rfl⟩

theorem writeNew_ok {path : DiskPath} {content : List UInt8}
    (h : Runs (FileSystem mayFail) (ask phase (.writeNew path content)) disk (.ok ()) disk') :
    disk' = disk.put path (some (.node (.file content))) := by
  have hanswer := ask_ok h (fun _ => nofun)
  simp only [Disk.answer] at hanswer
  split at hanswer
  · cases hanswer
  · split at hanswer
    · cases hanswer
    · cases hanswer
      rfl

/-- A new file is made only where nothing is. -/
theorem writeNew_free {path : DiskPath} {content : List UInt8}
    (h : Runs (FileSystem mayFail) (ask phase (.writeNew path content)) disk (.ok ()) disk') : disk path = none := by
  have hanswer := ask_ok h (fun _ => by simp [FileOp.failure])
  simp only [Disk.answer] at hanswer
  split at hanswer
  · cases hanswer
  · split at hanswer
    · cases hanswer
    · next hnone => simpa using hnone

theorem rename_ok {source target : DiskPath}
    (h : Runs (FileSystem mayFail) (ask phase (.rename source target)) disk (.ok ()) disk') :
    ∃ entry, disk source = some entry ∧ disk' = (disk.put source none).put target (some entry) := by
  have hanswer := ask_ok h (fun _ => nofun)
  simp only [Disk.answer] at hanswer
  split at hanswer
  · cases hanswer
  · next entry hentry =>
      cases hanswer
      exact ⟨entry, hentry, rfl⟩

theorem link_ok {source target : DiskPath}
    (h : Runs (FileSystem mayFail) (ask phase (.link source target)) disk (.ok ()) disk') :
    ∃ entry, disk source = some entry ∧ disk target = none ∧ disk' = disk.put target (some entry) := by
  have hanswer := ask_ok h (fun _ => nofun)
  simp only [Disk.answer] at hanswer
  split at hanswer
  · cases hanswer
  · cases hanswer
  · next entry hentry hfree =>
      cases hanswer
      exact ⟨entry, hentry, hfree, rfl⟩

/-- A call that the disk refuses does nothing, and one that fails may break off a new file. -/
theorem ask_error {op : FileOp} {e : String}
    (h : Runs (FileSystem mayFail) (ask phase op) disk (.error e) disk') :
    disk' = disk ∨ mayFail ⟨phase, op⟩ ∧ op.Leaves disk disk' := by
  rcases ask_iff.mp h with h | ⟨hfails, hleaves, -⟩
  · left
    have hanswer : disk.answer op = (.error e, disk') := h.symm
    cases op with
    | existsSync path => cases hanswer
    | _ =>
        simp only [Disk.answer] at hanswer
        repeat' first
          | cases hanswer <;> rfl
          | split at hanswer
  · exact .inr ⟨hfails, hleaves⟩

/-- A call that writes no new file does nothing when it ends with an error. -/
theorem ask_error_same {op : FileOp} {e : String} (hop : ∀ path content, op ≠ .writeNew path content)
    (h : Runs (FileSystem mayFail) (ask phase op) disk (.error e) disk') : disk' = disk := by
  rcases ask_error h with hsame | ⟨-, hsame | ⟨path, content, part, hwrite, -⟩⟩
  · exact hsame
  · exact hsame
  · exact absurd hwrite (hop path content)

/-! ### Staging -/

variable {token : String} {documents : DocumentsContent}

/-- What the staging of `entry` read at its target. -/
def ReadAtTarget (original : Disk) (entry : Staged) (existing : Option String) : Prop :=
  if entry.existed then
    ∃ content, (original (.target entry.document)).bind Entry.follow = some (.file content) ∧
      existing = some (String.ofList (Utf8.decode content))
  else existing = none

/-- The staged file of `entry` holds the rendered text of its document. -/
def Ready (documents : DocumentsContent) (token : String) (original disk : Disk) (entry : Staged) : Prop :=
  entry.backedUp = false ∧ entry.installed = false ∧ ∃ existing text, ReadAtTarget original entry existing ∧
    renderManagedDocument entry.document.marker (documents.body entry.document) existing = .ok text ∧
    disk (.staged entry.document token) = some (.node (.file (bytesOf text)))

theorem changes_readExisting (document : DocumentKey) (existed : Bool) :
    Changes mayFail paths (readExisting document existed) :=
  changes_ite (changes_bind (changes_read rfl) fun _ => changes_done _) (changes_done _)

theorem changes_stageDocument (document : DocumentKey) :
    Changes mayFail (fun path => path = .staged document token) (stageDocument token documents document) := by
  refine changes_bind (changes_read rfl) fun existed =>
    changes_bind (changes_readExisting document existed) fun existing =>
      changes_bind (changes_done _) fun text => changes_bind (changes_ask ?_) fun _ => changes_done _
  simp [FileOp.writes]

theorem changes_stageDocuments (keys : List DocumentKey) (staged : List Staged) :
    Changes mayFail (fun path => ∃ document ∈ keys, path = .staged document token)
      (stageDocuments token documents keys staged) := by
  induction keys generalizing staged with
  | nil => exact changes_done _
  | cons document rest ih =>
      refine changes_bind (changes_attempt ((changes_stageDocument document).mono ?_)) fun outcome => ?_
      · rintro path rfl
        exact ⟨document, List.mem_cons_self, rfl⟩
      · cases outcome with
        | error e => exact changes_done _
        | ok entry =>
            refine (ih _).mono ?_
            rintro path ⟨key, hkey, rfl⟩
            exact ⟨key, List.mem_cons_of_mem _ hkey, rfl⟩

theorem stageDocument_ok {document : DocumentKey} {entry : Staged}
    (h : Runs (FileSystem mayFail) (stageDocument token documents document) disk (.ok entry) disk') :
    entry.document = document ∧ Ready documents token disk disk' entry := by
  obtain ⟨existed, d₁, hexists, h⟩ := runs_bind_ok.mp h
  obtain ⟨existing, d₂, hexisting, h⟩ := runs_bind_ok.mp h
  obtain ⟨text, d₃, htext, h⟩ := runs_bind_ok.mp h
  obtain ⟨_, d₄, hwrite, h⟩ := runs_bind_ok.mp h
  obtain ⟨hentry, rfl⟩ := runs_pure_iff.mp h
  obtain ⟨hrender, rfl⟩ := runs_lift_iff.mp htext
  cases Except.ok.inj hentry
  have hd₁ : d₁ = disk := disk_same (changes_read rfl) hexists
  subst hd₁
  refine ⟨rfl, rfl, rfl, existing, text, ?_, hrender.symm, ?_⟩
  · cases existed with
    | false => exact Except.ok.inj (runs_pure_iff.mp hexisting).1
    | true =>
        obtain ⟨content, d₂', hread, hdone⟩ := runs_bind_ok.mp hexisting
        exact ⟨content, (readFile_ok hread).1, Except.ok.inj (runs_pure_iff.mp hdone).1⟩
  · rw [writeNew_ok hwrite]
    exact Disk.put_same _ _ _

variable {original : Disk}

theorem Ready.mono {entry : Staged} (h : Ready documents token original disk entry)
    (hstaged : disk' (.staged entry.document token) = disk (.staged entry.document token)) :
    Ready documents token original disk' entry := by
  obtain ⟨hbackedUp, hinstalled, existing, text, hread, hrender, hfile⟩ := h
  exact ⟨hbackedUp, hinstalled, existing, text, hread, hrender, hstaged.trans hfile⟩

theorem Ready.of_read {entry : Staged} (h : Ready documents token disk disk' entry)
    (htarget : disk (.target entry.document) = original (.target entry.document)) :
    Ready documents token original disk' entry := by
  obtain ⟨hbackedUp, hinstalled, existing, text, hread, hrender, hfile⟩ := h
  refine ⟨hbackedUp, hinstalled, existing, text, ?_, hrender, hfile⟩
  unfold ReadAtTarget at hread ⊢
  rwa [← htarget]

/-- **What is staged** is the rendered text of each document over what stands at its target. -/
theorem stageDocuments_ready {keys : List DocumentKey} {staged staged' : List Staged}
    {outcome : Except String Unit} (hnodup : (staged.map Staged.document ++ keys).Nodup)
    (hready : ∀ entry ∈ staged, Ready documents token original disk entry)
    (htargets : ∀ document, disk (.target document) = original (.target document))
    (h : Runs (FileSystem mayFail) (stageDocuments token documents keys staged) disk (.ok (staged', outcome)) disk') :
    (∀ entry ∈ staged', Ready documents token original disk' entry) ∧
      (∀ document, disk' (.target document) = original (.target document)) ∧
      staged'.map Staged.document <+: staged.map Staged.document ++ keys ∧
      (outcome = .ok () → staged'.map Staged.document = staged.map Staged.document ++ keys) := by
  induction keys generalizing staged disk with
  | nil =>
      obtain ⟨hresult, rfl⟩ := runs_pure_iff.mp h
      cases Except.ok.inj hresult
      rw [List.append_nil]
      exact ⟨hready, htargets, List.prefix_refl _, fun _ => rfl⟩
  | cons document rest ih =>
      obtain ⟨outcome₁, d₁, hstage, hrest⟩ := runs_attempt_bind_iff.mp h
      have hsame : ∀ path, path ≠ .staged document token → d₁ path = disk path :=
        fun path hpath => (changes_stageDocument document).same hstage hpath
      have htargets₁ : ∀ key, d₁ (.target key) = original (.target key) :=
        fun key => (hsame (.target key) nofun).trans (htargets key)
      have hready₁ : ∀ entry ∈ staged, Ready documents token original d₁ entry := by
        intro entry hentry
        refine (hready entry hentry).mono (hsame _ fun heq => ?_)
        have hdocument : entry.document = document := by
          injection heq
        rw [List.nodup_append] at hnodup
        exact hnodup.2.2 _ (List.mem_map_of_mem hentry) _ List.mem_cons_self hdocument
      cases outcome₁ with
      | error e =>
          obtain ⟨hresult, rfl⟩ := runs_pure_iff.mp hrest
          cases Except.ok.inj hresult
          exact ⟨hready₁, htargets₁, List.prefix_append _ _, nofun⟩
      | ok entry =>
          obtain ⟨rfl, hentry⟩ := stageDocument_ok hstage
          have hnodup₁ : ((staged ++ [entry]).map Staged.document ++ rest).Nodup := by
            simpa using hnodup
          have hready₂ : ∀ e ∈ staged ++ [entry], Ready documents token original d₁ e := by
            intro e he
            rcases List.mem_append.mp he with he | he
            · exact hready₁ e he
            · rw [List.mem_singleton.mp he]
              exact hentry.of_read (htargets _)
          simpa using ih hnodup₁ hready₂ htargets₁ hrest

/-! ### Installing -/

/-- A regular file stands at the path. -/
def HasFile (disk : Disk) (path : DiskPath) : Prop := ∃ content, disk path = some (.node (.file content))

/-- **How far an entry has come**: what stood at its target is there, or at its backup, or there was nothing. -/
def Recoverable (token : String) (original disk : Disk) (entry : Staged) : Prop :=
  match entry.backedUp, entry.installed with
  | false, false => disk (.target entry.document) = original (.target entry.document)
  | true, false => disk (.target entry.document) = none ∧
      disk (.backup entry.document token) = original (.target entry.document) ∧
      original (.target entry.document) ≠ none
  | false, true => HasFile disk (.target entry.document) ∧ original (.target entry.document) = none
  | true, true => HasFile disk (.target entry.document) ∧
      disk (.backup entry.document token) = original (.target entry.document) ∧
      original (.target entry.document) ≠ none

theorem Recoverable.mono {entry : Staged} (h : Recoverable token original disk entry)
    (htarget : disk' (.target entry.document) = disk (.target entry.document))
    (hbackup : disk' (.backup entry.document token) = disk (.backup entry.document token)) :
    Recoverable token original disk' entry := by
  unfold Recoverable HasFile at h ⊢
  rw [htarget, hbackup]
  exact h

/-- The paths of a document in a commit. -/
def OwnPath (token : String) (document : DocumentKey) (path : DiskPath) : Prop :=
  path = .target document ∨ path = .backup document token ∨ path = .staged document token

theorem changes_onlyIf {flag : Bool} {p : Fs Unit} (h : Changes mayFail paths p) :
    Changes mayFail paths (onlyIf flag p) := changes_ite h (changes_done _)

theorem changes_installDocument (entry : Staged) :
    Changes mayFail (OwnPath token entry.document) (installDocument token entry) := by
  refine changes_bind (changes_attempt (changes_onlyIf (changes_ask ?_))) fun backedUp => ?_
  · simp [FileOp.writes, OwnPath]
  cases backedUp with
  | error e => exact changes_done _
  | ok _ =>
      refine changes_bind (changes_attempt (changes_ask ?_)) fun installed => ?_
      · simp [FileOp.writes, OwnPath]
      cases installed with
      | error e => exact changes_done _
      | ok _ =>
          refine changes_bind (changes_attempt (changes_ask ?_)) fun removed => changes_done _
          simp [FileOp.writes, OwnPath]

/-- The first step of an install: the old file is moved out of the way. -/
theorem backUp_spec {entry : Staged} {outcome : Except String Unit}
    (h : Runs (FileSystem mayFail)
      (onlyIf entry.existed (ask .committing (.rename (.target entry.document) (.backup entry.document token))))
      disk outcome disk') :
    (outcome ≠ .ok () ∧ disk' = disk) ∨
      (outcome = .ok () ∧ disk' (.staged entry.document token) = disk (.staged entry.document token) ∧
        if entry.existed then
          disk' (.target entry.document) = none ∧ disk (.target entry.document) ≠ none ∧
            disk' (.backup entry.document token) = disk (.target entry.document)
        else disk' = disk) := by
  unfold onlyIf at h
  cases hexisted : entry.existed with
  | false =>
      rw [hexisted] at h
      obtain ⟨rfl, rfl⟩ := runs_pure_iff.mp h
      exact .inr ⟨rfl, rfl, rfl⟩
  | true =>
      rw [hexisted] at h
      cases outcome with
      | error e => exact .inl ⟨nofun, ask_error_same (by simp) h⟩
      | ok _ =>
          obtain ⟨old, hold, rfl⟩ := rename_ok h
          refine .inr ⟨rfl, ?_, ?_, ?_, ?_⟩
          · simp [Disk.put]
          · simp [Disk.put]
          · simp [hold]
          · simp [Disk.put, hold]

/-- **One install**, however it ends: the entry is recoverable, and if it got through, the staged file is in the
place of the target. -/
theorem installDocument_spec {entry entry' : Staged} {outcome : Except String Unit} {content : List UInt8}
    (hbackedUp : entry.backedUp = false) (hinstalled : entry.installed = false)
    (hstaged : disk (.staged entry.document token) = some (.node (.file content)))
    (htarget : disk (.target entry.document) = original (.target entry.document))
    (h : Runs (FileSystem mayFail) (installDocument token entry) disk (.ok (entry', outcome)) disk') :
    entry'.document = entry.document ∧ Recoverable token original disk' entry' ∧
      (outcome = .ok () → disk' (.target entry.document) = some (.node (.file content)) ∧
        (entry.existed = false → original (.target entry.document) = none)) := by
  obtain ⟨backedUp, d₁, hbackUp, h⟩ := runs_attempt_bind_iff.mp h
  rcases backUp_spec hbackUp with ⟨herror, rfl⟩ | ⟨rfl, hstaged₁, hmoved⟩
  · -- the old file could not be moved
    cases backedUp with
    | ok _ => exact absurd rfl herror
    | error e =>
        obtain ⟨hresult, rfl⟩ := runs_pure_iff.mp h
        cases Except.ok.inj hresult
        refine ⟨rfl, ?_, nofun⟩
        simpa only [Recoverable, hbackedUp, hinstalled] using htarget
  · obtain ⟨installed, d₂, hlink, h⟩ := runs_attempt_bind_iff.mp h
    cases installed with
    | error e =>
        -- the old file was moved, and the staged one could not be linked
        obtain ⟨hresult, rfl⟩ := runs_pure_iff.mp h
        cases Except.ok.inj hresult
        cases ask_error_same (by simp) hlink
        refine ⟨rfl, ?_, nofun⟩
        cases hexisted : entry.existed with
        | false =>
            simp only [hexisted, Bool.false_eq_true, if_false] at hmoved
            simpa only [Recoverable, hexisted, hinstalled, hmoved] using htarget
        | true =>
            simp only [hexisted, if_true] at hmoved
            simp only [Recoverable, hinstalled]
            exact ⟨hmoved.1, hmoved.2.2.trans htarget, htarget ▸ hmoved.2.1⟩
    | ok _ =>
        obtain ⟨new, hnew, hfree, rfl⟩ := link_ok hlink
        obtain ⟨removed, d₃, hremove, h⟩ := runs_attempt_bind_iff.mp h
        obtain ⟨hresult, rfl⟩ := runs_pure_iff.mp h
        cases Except.ok.inj hresult
        have hnew' : new = .node (.file content) := by
          rw [hstaged₁, hstaged] at hnew
          exact (Option.some.inj hnew).symm
        have hremoved : ∀ path, path ≠ .staged entry.document token →
            disk' path = d₁.put (.target entry.document) (some new) path := by
          intro path hpath
          exact ask_same rfl hremove hpath
        have hput : disk' (.target entry.document) = some (.node (.file content)) := by
          rw [hremoved (.target entry.document) nofun, Disk.put_same, hnew']
        have hbackup : disk' (.backup entry.document token) = d₁ (.backup entry.document token) := by
          rw [hremoved (.backup entry.document token) nofun]
          exact Disk.put_other nofun
        refine ⟨rfl, ?_, fun _ => ⟨hput, fun hexisted => ?_⟩⟩
        · cases hexisted : entry.existed with
          | false =>
              simp only [hexisted, Bool.false_eq_true, if_false] at hmoved
              simp only [Recoverable]
              refine ⟨⟨content, hput⟩, ?_⟩
              rw [← htarget, ← hmoved]
              exact hfree
          | true =>
              simp only [hexisted, if_true] at hmoved
              simp only [Recoverable]
              refine ⟨⟨content, hput⟩, ?_, htarget ▸ hmoved.2.1⟩
              rw [hbackup, hmoved.2.2, htarget]
        · simp only [hexisted, Bool.false_eq_true, if_false] at hmoved
          rw [← htarget, ← hmoved]
          exact hfree

/-- The text of the document that stands at its target. -/
def existingText (disk : Disk) (document : DocumentKey) : Option String :=
  match (disk (.target document)).bind Entry.follow with
  | some (.file content) => some (String.ofList (Utf8.decode content))
  | _ => none

/-- The target of the document holds its text rendered over the original one. -/
def Written (documents : DocumentsContent) (original disk : Disk) (document : DocumentKey) : Prop :=
  ∃ text, renderManagedDocument document.marker (documents.body document) (existingText original document) =
      .ok text ∧ disk (.target document) = some (.node (.file (bytesOf text)))

theorem changes_installDocuments (entries : List Staged) :
    Changes mayFail (fun path => ∃ entry ∈ entries, OwnPath token entry.document path)
      (installDocuments token entries) := by
  induction entries with
  | nil => exact changes_done _
  | cons entry rest ih =>
      refine changes_bind ((changes_installDocument entry).mono ?_) fun result => ?_
      · exact fun path hpath => ⟨entry, List.mem_cons_self, hpath⟩
      · rcases result with ⟨entry', _ | _⟩
        · exact changes_done _
        · refine changes_bind (ih.mono ?_) fun _ => changes_done _
          rintro path ⟨other, hother, hpath⟩
          exact ⟨other, List.mem_cons_of_mem _ hother, hpath⟩

theorem ownPath_unique {d d' : DocumentKey} {path : DiskPath} (h : OwnPath token d path) (h' : OwnPath token d' path) :
    d = d' := by
  rcases h with rfl | rfl | rfl <;> rcases h' with h' | h' | h' <;> cases h' <;> rfl

/-- **The installs**, however they end: every entry is recoverable, and if they got through, every document is
written. -/
theorem installDocuments_spec {entries entries' : List Staged} {outcome : Except String Unit}
    (hnodup : (entries.map Staged.document).Nodup)
    (hready : ∀ entry ∈ entries, Ready documents token original disk entry)
    (htargets : ∀ entry ∈ entries, disk (.target entry.document) = original (.target entry.document))
    (h : Runs (FileSystem mayFail) (installDocuments token entries) disk (.ok (entries', outcome)) disk') :
    entries'.map Staged.document = entries.map Staged.document ∧
      (∀ entry ∈ entries', Recoverable token original disk' entry) ∧
      (outcome = .ok () → ∀ entry ∈ entries, Written documents original disk' entry.document) := by
  induction entries generalizing disk entries' outcome with
  | nil =>
      obtain ⟨hresult, rfl⟩ := runs_pure_iff.mp h
      cases Except.ok.inj hresult
      exact ⟨rfl, nofun, nofun⟩
  | cons entry rest ih =>
      obtain ⟨⟨installed, outcome₁⟩, d₁, hinstall, hrest⟩ := runs_bind_ok.mp h
      obtain ⟨hfresh, hnodup'⟩ := List.nodup_cons.mp hnodup
      obtain ⟨hbackedUp, hinstalled, existing, text, hread, hrender, hfile⟩ := hready entry List.mem_cons_self
      obtain ⟨hdocument, hrecoverable, hdone⟩ := installDocument_spec hbackedUp hinstalled hfile
        (htargets entry List.mem_cons_self) hinstall
      -- the paths of the other documents are as before
      have hother : ∀ other ∈ rest, ∀ path, OwnPath token other.document path → d₁ path = disk path := by
        intro other hmem path hpath
        refine (changes_installDocument entry).same hinstall fun hown => hfresh ?_
        rw [ownPath_unique hown hpath]
        exact List.mem_map_of_mem hmem
      have hready' : ∀ other ∈ rest, Ready documents token original d₁ other := fun other hmem =>
        (hready other (List.mem_cons_of_mem _ hmem)).mono (hother other hmem _ (.inr (.inr rfl)))
      have htargets' : ∀ other ∈ rest, d₁ (.target other.document) = original (.target other.document) :=
        fun other hmem => (hother other hmem _ (.inl rfl)).trans (htargets other (List.mem_cons_of_mem _ hmem))
      cases outcome₁ with
      | error e =>
          obtain ⟨hresult, rfl⟩ := runs_pure_iff.mp hrest
          cases Except.ok.inj hresult
          refine ⟨by rw [List.map_cons, List.map_cons, hdocument], ?_, nofun⟩
          rintro other (_ | ⟨_, hmem⟩)
          · exact hrecoverable
          · -- an entry behind the one that failed has not begun
            have hnotBegun := hready' other hmem
            simp only [Recoverable, hnotBegun.1, hnotBegun.2.1]
            exact htargets' other hmem
      | ok _ =>
          obtain ⟨⟨installedRest, outcome₂⟩, d₂, hinstallRest, hreturn⟩ := runs_bind_ok.mp hrest
          obtain ⟨hresult, rfl⟩ := runs_pure_iff.mp hreturn
          cases Except.ok.inj hresult
          obtain ⟨hdocuments, hrecoverableRest, hwrittenRest⟩ := ih hnodup' hready' htargets' hinstallRest
          have hkept : ∀ path, OwnPath token entry.document path → disk' path = d₁ path := by
            intro path hpath
            refine (changes_installDocuments rest).same hinstallRest ?_
            rintro ⟨other, hmem, hown⟩
            rw [ownPath_unique hpath hown] at hfresh
            exact hfresh (List.mem_map_of_mem hmem)
          refine ⟨by rw [List.map_cons, List.map_cons, hdocument, hdocuments], ?_, ?_⟩
          · rintro other (_ | ⟨_, hmem⟩)
            · refine hrecoverable.mono (hkept _ ?_) (hkept _ ?_)
              · exact .inl (by rw [hdocument])
              · exact .inr (.inl (by rw [hdocument]))
            · exact hrecoverableRest other hmem
          · rintro hok other (_ | ⟨_, hmem⟩)
            · obtain ⟨hput, hfree⟩ := hdone rfl
              refine ⟨text, ?_, (hkept _ (.inl rfl)).trans hput⟩
              rw [← hrender]
              congr 1
              unfold ReadAtTarget at hread
              unfold existingText
              split at hread
              · obtain ⟨content, hfound, rfl⟩ := hread
                rw [hfound]
              · next hnew =>
                  rw [hfree (Bool.eq_false_iff.mpr hnew), hread]
                  rfl
            · exact hwrittenRest hok other hmem

/-! ### The body of the commit -/

variable {sha256 : List UInt8 → String} {request : CommitDocumentsRequest}

theorem documentKeys_nodup : documentKeys.Nodup := by decide

theorem mem_documentKeys (document : DocumentKey) : document ∈ documentKeys := by cases document <;> decide

/-- **The `try` body**, however it ends: every entry is recoverable, a document without an entry is as it was, and
if the body got through, every document is written. -/
theorem commitBody_spec {staged : List Staged} {outcome : Except String (Option CommitDocumentsResult)}
    (h : Runs (FileSystem mayFail) (commitBody sha256 token request) disk (.ok (staged, outcome)) disk') :
    (staged.map Staged.document).Nodup ∧ (∀ entry ∈ staged, Recoverable token disk disk' entry) ∧
      (∀ document ∉ staged.map Staged.document, disk' (.target document) = disk (.target document)) ∧
      (outcome = .ok none → ∀ document, Written request.documents disk disk' document) ∧
      (∀ result, outcome = .ok (some result) → (∀ base, result ≠ .committed base) ∧
        ∀ document, disk' (.target document) = disk (.target document)) := by
  obtain ⟨made, d₁, hmkdir, h₁⟩ := runs_attempt_bind_iff.mp h
  have htargets₁ : ∀ document, d₁ (.target document) = disk (.target document) := by
    intro document
    exact ask_same rfl hmkdir nofun
  cases made with
  | error e =>
      obtain ⟨hresult, rfl⟩ := runs_pure_iff.mp h₁
      cases Except.ok.inj hresult
      exact ⟨List.nodup_nil, nofun, fun document _ => htargets₁ document, nofun, nofun⟩
  | ok _ =>
      obtain ⟨⟨staged₁, outcome₁⟩, d₂, hstage, h₂⟩ := runs_bind_ok.mp h₁
      have hkeys : (([] : List Staged).map Staged.document ++ documentKeys).Nodup := documentKeys_nodup
      obtain ⟨hready, htargets₂, hprefix, hall⟩ := stageDocuments_ready hkeys nofun htargets₁ hstage
      simp only [List.map_nil, List.nil_append] at hprefix hall
      have hnodup : (staged₁.map Staged.document).Nodup := documentKeys_nodup.sublist hprefix.sublist
      have hrecoverable : ∀ entry ∈ staged₁, Recoverable token disk d₂ entry := by
        intro entry hentry
        simp only [Recoverable, (hready entry hentry).1, (hready entry hentry).2.1]
        exact htargets₂ entry.document
      cases outcome₁ with
      | error e =>
          obtain ⟨hresult, rfl⟩ := runs_pure_iff.mp h₂
          cases Except.ok.inj hresult
          exact ⟨hnodup, hrecoverable, fun document _ => htargets₂ document, nofun, nofun⟩
      | ok _ =>
          obtain ⟨captured, d₃, hcapture, h₃⟩ := runs_attempt_bind_iff.mp h₂
          have hsame : d₃ = d₂ := disk_same (changes_captureDocumentsBase sha256 _ _) hcapture
          subst hsame
          cases captured with
          | error e =>
              obtain ⟨hresult, rfl⟩ := runs_pure_iff.mp h₃
              cases Except.ok.inj hresult
              exact ⟨hnodup, hrecoverable, fun document _ => htargets₂ document, nofun, nofun⟩
          | ok baseHash =>
              simp only at h₃
              split at h₃
              · obtain ⟨hresult, rfl⟩ := runs_pure_iff.mp h₃
                cases Except.ok.inj hresult
                refine ⟨hnodup, hrecoverable, fun document _ => htargets₂ document, nofun, ?_⟩
                rintro result ⟨⟩
                exact ⟨fun base => nofun, htargets₂⟩
              · obtain ⟨⟨entries, outcome₂⟩, d₄, hinstall, h₄⟩ := runs_bind_ok.mp h₃
                obtain ⟨hresult, rfl⟩ := runs_pure_iff.mp h₄
                cases Except.ok.inj hresult
                obtain ⟨hdocuments, hrecoverable', hwritten⟩ := installDocuments_spec hnodup hready
                  (fun entry _ => htargets₂ entry.document) hinstall
                refine ⟨hdocuments ▸ hnodup, hrecoverable', fun document hnone => ?_, ?_, ?_⟩
                · rw [hdocuments] at hnone
                  refine ((changes_installDocuments staged₁).same hinstall ?_).trans (htargets₂ document)
                  rintro ⟨entry, hentry, hown⟩
                  rw [ownPath_unique (.inl rfl) hown] at hnone
                  exact hnone (List.mem_map_of_mem hentry)
                · intro hok document
                  have hmem : document ∈ staged₁.map Staged.document := by
                    rw [hall rfl]
                    exact mem_documentKeys document
                  obtain ⟨entry, hentry, rfl⟩ := List.mem_map.mp hmem
                  refine hwritten ?_ entry hentry
                  cases outcome₂ with
                  | ok _ => rfl
                  | error e => cases hok
                · intro result hresult'
                  cases outcome₂ with
                  | ok _ => cases hresult'
                  | error e => cases hresult'

/-! ### A commit that gets through -/

theorem changes_removeStaged (staged : List Staged) :
    Changes mayFail (fun path => ∃ document, path = .staged document token) (removeStaged token staged) := by
  induction staged with
  | nil => exact changes_done _
  | cons entry rest ih =>
      refine changes_bind (changes_ask ?_) fun _ => ih
      rintro path hpath
      exact ⟨entry.document, by simpa [FileOp.writes] using hpath⟩

theorem changes_removeBackups (staged : List Staged) :
    Changes mayFail (fun path => ∃ document, path = .backup document token) (removeBackups token staged) := by
  induction staged with
  | nil => exact changes_done _
  | cons entry rest ih =>
      refine changes_bind (changes_onlyIf (changes_ask ?_)) fun _ => ih
      rintro path hpath
      exact ⟨entry.document, by simpa [FileOp.writes] using hpath⟩

/-- **A commit that says so has written every document.** -/
theorem committed_written {base : String}
    (h : Runs (FileSystem mayFail) (commitDocumentsBundle sha256 token request) disk (.ok (.committed base)) disk')
    (document : DocumentKey) : Written request.documents disk disk' document := by
  obtain ⟨resolved, d₁, hresolve, h₁⟩ := runs_attempt_bind_iff.mp h
  cases resolved with
  | error e => cases Except.ok.inj (runs_pure_iff.mp h₁).1
  | ok _ =>
      obtain ⟨captured, d₂, hcapture, h₂⟩ := runs_attempt_bind_iff.mp h₁
      cases captured with
      | error e => cases Except.ok.inj (runs_pure_iff.mp h₂).1
      | ok current =>
          simp only at h₂
          split at h₂
          · cases Except.ok.inj (runs_pure_iff.mp h₂).1
          · obtain ⟨⟨staged, outcome⟩, d₃, hbody, h₃⟩ := runs_bind_ok.mp h₂
            have hbefore : d₂ = disk := by
              rw [disk_same (changes_captureDocumentsBase sha256 _ _) hcapture,
                disk_same (changes_resolveDocumentsDir _ _) hresolve]
            subst hbefore
            obtain ⟨-, -, -, hwritten, hreturned⟩ := commitBody_spec hbody
            match outcome, h₃ with
            | .error e, h₃ =>
                obtain ⟨errors, d₄, -, h₄⟩ := runs_bind_ok.mp h₃
                obtain ⟨_, d₅, -, h₅⟩ := runs_bind_ok.mp h₄
                cases Except.ok.inj (runs_pure_iff.mp h₅).1
            | .ok (some result), h₃ =>
                obtain ⟨_, d₄, -, h₄⟩ := runs_bind_ok.mp h₃
                exact absurd (Except.ok.inj (runs_pure_iff.mp h₄).1).symm ((hreturned result rfl).1 base)
            | .ok none, h₃ =>
                obtain ⟨_, d₄, hcleanup, h₄⟩ := runs_bind_ok.mp h₃
                obtain ⟨_, d₅, hbackups, h₅⟩ := runs_bind_ok.mp h₄
                obtain ⟨_, d₆, hfinal, h₆⟩ := runs_bind_ok.mp h₅
                obtain ⟨-, rfl⟩ := runs_pure_iff.mp h₆
                obtain ⟨text, hrender, hfile⟩ := hwritten rfl document
                refine ⟨text, hrender, ?_⟩
                rw [disk_same (changes_captureDocumentsBase sha256 _ _) hfinal,
                  (changes_removeBackups staged).same hbackups (by simp),
                  (changes_removeStaged staged).same hcleanup (by simp)]
                exact hfile

end ForgeRuntime
