import ForgeRuntime.Artifacts.UnmanagedBytes
import ForgeRuntime.Lib.PrefixCode

/-!
# The base hash

`captureDocumentsBase` hashes what stands in the place of the three documents.  The hashed bytes name each document,
say whether it is there, and give its length in front of its content, so they can be read back whatever the files
contain: two bundles with the same bytes are the same.

* `baseStream_injective` — the hashed bytes tell all bundles apart;
* `captureDocumentsBase_runs` — these are the bytes that the program hashes;
* `commitDocumentsBundle_conflict` — a base of another hash is a conflict;
* `base_hash_tells_bundles_apart` — with a hash free of collisions, the base is the bundle.
-/

namespace ForgeRuntime

open EventDriven EventDriven.Text EventDriven.Program

/-- What stands in the place of each document: nothing, or a file with its bytes. -/
abbrev Bundle := DocumentKey → Option (List UInt8)

/-- The bytes that a document adds. -/
def documentRecord (document : DocumentKey) (content : Option (List UInt8)) : List UInt8 :=
  bytesOf document.fileName ++ [0] ++
    match content with
    | none => bytesOf "missing" ++ [0]
    | some content => bytesOf "present" ++ [0] ++ bytesOf (toString content.length) ++ [0] ++ content

/-- The bytes that are hashed. -/
def baseStream (bundle : Bundle) : List UInt8 :=
  documentKeys.flatMap fun document => documentRecord document (bundle document)

/-! ### Reading the bytes back -/

/-- A text without NUL is encoded without NUL. -/
theorem zero_notMem_bytesOf {text : String} (h : Char.ofNat 0 ∉ text.toList) : (0 : UInt8) ∉ bytesOf text := by
  intro hmem
  obtain ⟨before, behind, hsplit⟩ := List.append_of_mem hmem
  have hread : Utf8.decode (bytesOf text) = text.toList := Utf8.decode_encode _
  rw [hsplit, Utf8.decode_sync before (by decide) behind] at hread
  have hzero : Utf8.decode (0 :: behind) = Char.ofNat 0 :: Utf8.decode behind := by
    show Utf8.decodeFrom none (0 :: behind) = _
    rw [Utf8.decodeFrom_ascii none (by decide)]
    rfl
  rw [hzero] at hread
  exact h (hread ▸ List.mem_append_right _ List.mem_cons_self)

theorem zero_notMem_digits (n : Nat) : Char.ofNat 0 ∉ (toString n).toList := by
  rw [Nat.toString_eq_ofList_toDigits, String.toList_ofList]
  intro hmem
  exact absurd (Nat.isDigit_of_mem_toDigits (by decide) (by decide) hmem) (by decide)

/-- A decimal number up to NUL. -/
theorem prefixCode_size : PrefixCode fun n : Nat => bytesOf (toString n) ++ [0] := by
  refine prefixCode_terminated (fun m n h => ?_) fun n => zero_notMem_bytesOf (zero_notMem_digits n)
  exact toString_injective (String.toList_inj.mp (Utf8.encode_injective h))

/-- The record of a document can be read off the front, whatever its file contains. -/
theorem prefixCode_documentRecord (document : DocumentKey) : PrefixCode (documentRecord document) := by
  have hcode := prefixCode_behind (bytesOf document.fileName ++ [0])
    (prefixCode_optional (show (0x6D : UInt8) ≠ 0x70 by decide) ((bytesOf "missing").tail ++ [0])
      ((bytesOf "present").tail ++ [0]) (prefixCode_sized prefixCode_size))
  have hsame : documentRecord document = fun content => bytesOf document.fileName ++ [0] ++
      content.elim (0x6D :: ((bytesOf "missing").tail ++ [0])) fun content =>
        0x70 :: ((bytesOf "present").tail ++ [0]) ++ (bytesOf (toString content.length) ++ [0] ++ content) := by
    funext content
    cases content with
    | none => rfl
    | some content =>
        simp only [documentRecord, Option.elim_some, List.append_assoc]
        rfl
  rw [hsame]
  exact hcode

/-- **The hashed bytes tell all bundles apart.** -/
theorem baseStream_injective {a b : Bundle} (h : baseStream a = baseStream b) : a = b := by
  have hstream : (documentKeys.flatMap fun document => documentRecord document (a document)) ++ [] =
      (documentKeys.flatMap fun document => documentRecord document (b document)) ++ [] := congrArg (· ++ []) h
  funext document
  exact (prefixCode_flatMap prefixCode_documentRecord hstream).1 document (mem_documentKeys document)

/-! ### What the program hashes -/

/-- The disk holds the bundle: a root directory, `Documents` in it or nothing, and each document as a plain file
or not at all. -/
structure HoldsBundle (disk : Disk) (bundle : Bundle) : Prop where
  root : (disk .root).bind Entry.follow = some .directory
  documentsDir : disk .documentsDir = none ∨ disk .documentsDir = some (.node .directory)
  target : ∀ document, disk (.target document) = (bundle document).map fun content => .node (.file content)

/-- Where nothing fails, a call is answered by the disk. -/
theorem ask_answer {phase : Phase} {op : FileOp} {answer : Except String op.Answer} {disk disk' : Disk}
    (h : Runs (FileSystem fun _ => False) (ask phase op) disk answer disk') : (answer, disk') = disk.answer op := by
  rcases ask_iff.mp h with h | ⟨hfails, -⟩
  · exact h
  · exact hfails.elim

/-- A question that the disk answers with `a`: the program goes on with it. -/
theorem runs_ask_bind {α : Type} {phase : Phase} {op : FileOp} {a : op.Answer} {f : op.Answer → Fs α} {disk disk' : Disk}
    {r : Except String α} (ha : disk.answer op = (.ok a, disk))
    (h : Runs (FileSystem fun _ => False) (ask phase op >>= f) disk r disk') :
    Runs (FileSystem fun _ => False) (f a) disk r disk' := by
  rcases runs_bind_iff.mp h with ⟨b, disk₁, hask, hrest⟩ | ⟨e, hask, -⟩
  · have hanswer := (ask_answer hask).trans ha
    cases hanswer
    exact hrest
  · exact absurd ((ask_answer hask).trans ha) (by simp)

section Runs

variable {disk disk' : Disk} {bundle : Bundle} {phase : Phase} {rootDir : String}

theorem resolveDocumentsDir_runs (hdisk : HoldsBundle disk bundle) (hroot : ¬ Blank rootDir) {r : Except String Unit}
    (h : Runs (FileSystem fun _ => False) (resolveDocumentsDir phase rootDir) disk r disk') :
    r = .ok () ∧ disk' = disk := by
  rw [resolveDocumentsDir, if_neg hroot] at h
  have hdirectory : disk.answer (.isDirectory .root) = (.ok true, disk) := by
    simp only [Disk.answer, hdisk.root]
    rfl
  have hrest := runs_ask_bind hdirectory h
  rw [if_neg (by decide)] at hrest
  rcases hdisk.documentsDir with hnone | hsome
  · have hexists : disk.answer (.existsSync .documentsDir) = (.ok false, disk) := by
      simp only [Disk.answer, hnone]
      rfl
    have hdone := runs_ask_bind hexists hrest
    rw [if_pos rfl] at hdone
    exact runs_pure_iff.mp hdone
  · have hexists : disk.answer (.existsSync .documentsDir) = (.ok true, disk) := by
      simp only [Disk.answer, hsome]
      rfl
    have hreal : disk.answer (.isRealDirectory .documentsDir) = (.ok true, disk) := by
      simp only [Disk.answer, hsome]
    have hdone := runs_ask_bind hexists hrest
    rw [if_neg (by decide)] at hdone
    have hend := runs_ask_bind hreal hdone
    rw [if_pos rfl] at hend
    exact runs_pure_iff.mp hend

theorem baseRecord_runs (hdisk : HoldsBundle disk bundle) {document : DocumentKey} {r : Except String (List UInt8)}
    (h : Runs (FileSystem fun _ => False) (baseRecord phase document) disk r disk') :
    r = .ok (documentRecord document (bundle document)) ∧ disk' = disk := by
  have htarget := hdisk.target document
  unfold baseRecord at h
  cases hbundle : bundle document with
  | none =>
      rw [hbundle, Option.map_none] at htarget
      have hexists : disk.answer (.existsSync (.target document)) = (.ok false, disk) := by
        simp only [Disk.answer, htarget]
        rfl
      have hdone := runs_ask_bind hexists h
      rw [if_pos rfl] at hdone
      obtain ⟨rfl, hsame⟩ := runs_pure_iff.mp hdone
      refine ⟨?_, hsame⟩
      rw [documentRecord, List.append_assoc _ _ (_ ++ _)]
      simp only [List.append_assoc]
  | some content =>
      rw [hbundle, Option.map_some] at htarget
      have hexists : disk.answer (.existsSync (.target document)) = (.ok true, disk) := by
        simp only [Disk.answer, htarget]
        rfl
      have hreal : disk.answer (.isRealFile (.target document)) = (.ok true, disk) := by
        simp only [Disk.answer, htarget]
      have hcontent : disk.answer (.readFile (.target document)) = (.ok content, disk) := by
        simp only [Disk.answer, htarget]
        rfl
      have hpresent := runs_ask_bind hexists h
      rw [if_neg (show ¬ true = false by simp)] at hpresent
      have hfile := runs_ask_bind hreal hpresent
      rw [if_neg (show ¬ true = false by simp)] at hfile
      have hread := runs_ask_bind hcontent hfile
      obtain ⟨rfl, hsame⟩ := runs_pure_iff.mp hread
      refine ⟨?_, hsame⟩
      rw [documentRecord]
      simp only [List.append_assoc]

theorem baseRecords_runs (hdisk : HoldsBundle disk bundle) {documents : List DocumentKey}
    {r : Except String (List UInt8)}
    (h : Runs (FileSystem fun _ => False) (baseRecords phase documents) disk r disk') :
    r = .ok (documents.flatMap fun document => documentRecord document (bundle document)) ∧ disk' = disk := by
  induction documents generalizing r disk' with
  | nil => exact runs_pure_iff.mp h
  | cons document rest ih =>
      rw [baseRecords] at h
      rcases runs_bind_iff.mp h with ⟨record, disk₁, hrecord, hrest⟩ | ⟨e, hrecord, -⟩
      · obtain ⟨hvalue, rfl⟩ := baseRecord_runs hdisk hrecord
        cases hvalue
        rcases runs_bind_iff.mp hrest with ⟨records, disk₂, hrecords, hpure⟩ | ⟨e, hrecords, -⟩
        · obtain ⟨hvalues, rfl⟩ := ih hrecords
          cases hvalues
          exact runs_pure_iff.mp hpure
        · exact absurd (ih hrecords).1 nofun
      · exact absurd (baseRecord_runs hdisk hrecord).1 nofun

/-- **The base** is the hash of the bytes of the bundle. -/
theorem captureDocumentsBase_runs {sha256 : List UInt8 → String} (hdisk : HoldsBundle disk bundle)
    (hroot : ¬ Blank rootDir) {r : Except String String}
    (h : Runs (FileSystem fun _ => False) (captureDocumentsBase sha256 phase rootDir) disk r disk') :
    r = .ok (sha256 (baseStream bundle)) ∧ disk' = disk := by
  rw [captureDocumentsBase] at h
  rcases runs_bind_iff.mp h with ⟨u, disk₁, hresolve, hrest⟩ | ⟨e, hresolve, -⟩
  · obtain ⟨-, rfl⟩ := resolveDocumentsDir_runs hdisk hroot hresolve
    rcases runs_bind_iff.mp hrest with ⟨records, disk₂, hrecords, hpure⟩ | ⟨e, hrecords, -⟩
    · obtain ⟨hvalues, rfl⟩ := baseRecords_runs hdisk hrecords
      cases hvalues
      exact runs_pure_iff.mp hpure
    · exact absurd (baseRecords_runs hdisk hrecords).1 nofun
  · exact absurd (resolveDocumentsDir_runs hdisk hroot hresolve).1 nofun

/-- A commit that expects another base is a conflict, and changes nothing. -/
theorem commitDocumentsBundle_conflict {sha256 : List UInt8 → String} {token : String}
    {request : CommitDocumentsRequest} (hdisk : HoldsBundle disk bundle) (hroot : ¬ Blank request.rootDir)
    (hbase : sha256 (baseStream bundle) ≠ request.expectedBaseHash) {r : Except String CommitDocumentsResult}
    (h : Runs (FileSystem fun _ => False) (commitDocumentsBundle sha256 token request) disk r disk') :
    r = .ok (.conflict "Documents base hash 已變更") ∧ disk' = disk := by
  rw [commitDocumentsBundle] at h
  obtain ⟨resolved, disk₁, hresolve, hrest⟩ := runs_attempt_bind_iff.mp h
  obtain ⟨rfl, rfl⟩ := resolveDocumentsDir_runs hdisk hroot hresolve
  obtain ⟨captured, disk₂, hcapture, hcommit⟩ := runs_attempt_bind_iff.mp hrest
  obtain ⟨rfl, rfl⟩ := captureDocumentsBase_runs hdisk hroot hcapture
  dsimp only at hcommit
  rw [if_pos hbase] at hcommit
  exact runs_pure_iff.mp hcommit

end Runs

/-! ### The base is the bundle -/

/-- **The base hash tells bundles apart.**  The hashed bytes of two bundles are equal only if the bundles are; so with a
hash free of collisions an unchanged base means an unchanged bundle, and a commit that expects the base of another
bundle is a conflict. -/
theorem base_hash_tells_bundles_apart :
    (∀ a b : Bundle, baseStream a = baseStream b → ∀ document, a document = b document) ∧
      ∀ (sha256 : List UInt8 → String), (∀ x y, sha256 x = sha256 y → x = y) →
        ∀ (rootDir : String), ¬ Blank rootDir →
        ∀ (disk : Disk) (bundle : Bundle), HoldsBundle disk bundle →
          (∀ phase r disk', Runs (FileSystem fun _ => False) (captureDocumentsBase sha256 phase rootDir) disk r disk' →
            r = .ok (sha256 (baseStream bundle)) ∧ disk' = disk) ∧
          ∀ before : Bundle,
            (sha256 (baseStream before) = sha256 (baseStream bundle) ↔
              ∀ document, before document = bundle document) ∧
            ∀ (token : String) (documents : DocumentsContent) (r : Except String CommitDocumentsResult) (disk' : Disk),
              (∃ document, before document ≠ bundle document) →
              Runs (FileSystem fun _ => False)
                (commitDocumentsBundle sha256 token ⟨rootDir, sha256 (baseStream before), documents⟩) disk r disk' →
              r = .ok (.conflict "Documents base hash 已變更") ∧ disk' = disk := by
  have hsame : ∀ a b : Bundle, baseStream a = baseStream b → ∀ document, a document = b document :=
    fun a b h document => congrFun (baseStream_injective h) document
  refine ⟨hsame, fun sha256 hfree rootDir hroot disk bundle hdisk => ⟨fun phase r disk' h => ?_, fun before => ?_⟩⟩
  · exact captureDocumentsBase_runs hdisk hroot h
  · constructor
    · constructor
      · exact fun h => hsame before bundle (hfree _ _ h)
      · intro h
        exact congrArg (fun b => sha256 (baseStream b)) (funext h)
    · rintro token documents r disk' ⟨document, hedited⟩ h
      have hhash : sha256 (baseStream bundle) ≠ sha256 (baseStream before) := by
        intro hbase
        exact hedited (hsame bundle before (hfree _ _ hbase) document).symm
      refine commitDocumentsBundle_conflict hdisk ?_ ?_ h
      · exact hroot
      · exact hhash

/-! ### An edit that is noticed -/

theorem sampleHash_injective (x y : List UInt8) (h : sampleHash x = sampleHash y) : x = y := by
  have hchar : Function.Injective fun b : UInt8 => Char.ofNat b.toNat := by
    have hnat : ∀ d : UInt8, (Char.ofNat d.toNat).toNat = d.toNat := by
      intro d
      have hlt : d.toNat < 256 := d.toNat_lt
      have hvalid : d.toNat.isValidChar := .inl (by omega)
      rw [Char.ofNat, dif_pos hvalid]
      rfl
    intro b c hbc
    have hsame := congrArg Char.toNat hbc
    dsimp only at hsame
    rw [hnat, hnat] at hsame
    exact UInt8.toNat_inj.mp hsame
  exact hchar.list_map (String.ofList_injective h)

theorem latinDisk_holds : HoldsBundle latinDisk fun document => some (latinOld document) where
  root := rfl
  documentsDir := .inr rfl
  target := latin_old

/-- The base is that of three empty documents; since then `ADR.md` was edited. -/
def staleRequest : CommitDocumentsRequest :=
  ⟨"/project", sampleHash (baseStream fun _ => some []), ⟨"c", "a", "h"⟩⟩

theorem stale_commit_conflicts :
    (runOn latinDisk (commitDocumentsBundle sampleHash "t" staleRequest)).1 =
      .ok (.conflict "Documents base hash 已變更") := by
  have htold := base_hash_tells_bundles_apart.2 sampleHash sampleHash_injective "/project" (by decide) latinDisk _
    latinDisk_holds
  have hconflict := (htold.2 fun _ => some []).2 "t" ⟨"c", "a", "h"⟩ _ _ ⟨.adr, by decide⟩ (runOn_runs _ latinDisk _)
  exact hconflict.1

end ForgeRuntime
