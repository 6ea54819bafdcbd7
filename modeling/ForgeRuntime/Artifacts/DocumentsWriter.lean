import ForgeRuntime.Artifacts.ManagedBlock
import ForgeRuntime.Lib.Program
import ForgeRuntime.Lib.Utf8
import ForgeRuntime.Runtime.SessionTypes

/-!
# The documents writer

`commitDocumentsBundle` stages the three documents beside their targets, checks the base once more, and then moves
each old file out of the way and the staged one into its place; on an error it undoes what it did.  It is given as
the program of its calls to the file system, so it can be run where calls fail.

* `Disk.answer` — what a call does where nothing fails;
* `FileSystem` — a call may also fail, where `mayFail` allows it, and then leaves what `FileOp.Leaves` says;
* `captureDocumentsBase`, `commitDocumentsBundle` — the programs of the source.
-/

namespace ForgeRuntime

open EventDriven EventDriven.Text EventDriven.Program

/-! ### The disk -/

inductive Node where
  | file (content : List UInt8)
  | directory
deriving DecidableEq, Repr

/-- What stands at a path; a symbolic link leads to a node, or nowhere. -/
inductive Entry where
  | node (n : Node)
  | link (leadsTo : Option Node)
deriving DecidableEq, Repr

/-- What `statSync` finds. -/
def Entry.follow : Entry → Option Node
  | .node n => some n
  | .link leadsTo => leadsTo

/-- The root directory, `Documents` in it, and the files of a commit in `Documents`: a target, its staged file
`.name.token.tmp` and its backup `.name.token.bak`. -/
inductive DiskPath where
  | root
  | documentsDir
  | target (document : DocumentKey)
  | staged (document : DocumentKey) (token : String)
  | backup (document : DocumentKey) (token : String)
deriving DecidableEq, Repr

/-- What stands at each path. -/
abbrev Disk := DiskPath → Option Entry

def Disk.put (disk : Disk) (path : DiskPath) (entry : Option Entry) : Disk :=
  fun p => if p = path then entry else disk p

theorem Disk.put_same (disk : Disk) (path : DiskPath) (entry : Option Entry) : disk.put path entry path = entry :=
  if_pos rfl

theorem Disk.put_other {disk : Disk} {path p : DiskPath} {entry : Option Entry} (h : p ≠ path) :
    disk.put path entry p = disk p := if_neg h

/-! ### Calls -/

inductive FileOp where
  | isDirectory (path : DiskPath)
  | existsSync (path : DiskPath)
  | isRealFile (path : DiskPath)
  | isRealDirectory (path : DiskPath)
  | readFile (path : DiskPath)
  | mkdir (path : DiskPath)
  | writeNew (path : DiskPath) (content : List UInt8)
  | rename (source target : DiskPath)
  | link (source target : DiskPath)
  | remove (path : DiskPath) (force : Bool)
deriving DecidableEq, Repr

@[reducible] def FileOp.Answer : FileOp → Type
  | .isDirectory _ | .existsSync _ | .isRealFile _ | .isRealDirectory _ => Bool
  | .readFile _ => List UInt8
  | _ => Unit

/-- What a call answers and does where nothing fails. -/
def Disk.answer (disk : Disk) : (op : FileOp) → Except String op.Answer × Disk
  | .isDirectory path =>
      match (disk path).bind Entry.follow with
      | none => (.error "ENOENT", disk)
      | some n => (.ok (n = .directory), disk)
  | .existsSync path => (.ok ((disk path).bind Entry.follow).isSome, disk)
  | .isRealFile path =>
      match disk path with
      | none => (.error "ENOENT", disk)
      | some (.node (.file _)) => (.ok true, disk)
      | some _ => (.ok false, disk)
  | .isRealDirectory path =>
      match disk path with
      | none => (.error "ENOENT", disk)
      | some (.node .directory) => (.ok true, disk)
      | some _ => (.ok false, disk)
  | .readFile path =>
      match (disk path).bind Entry.follow with
      | none => (.error "ENOENT", disk)
      | some .directory => (.error "EISDIR", disk)
      | some (.file content) => (.ok content, disk)
  | .mkdir path =>
      match disk path with
      | none => (.ok (), disk.put path (some (.node .directory)))
      | some entry => if entry.follow = some .directory then (.ok (), disk) else (.error "EEXIST", disk)
  | .writeNew path content =>
      if disk .documentsDir = none then (.error "ENOENT", disk)
      else if disk path ≠ none then (.error "EEXIST", disk)
      else (.ok (), disk.put path (some (.node (.file content))))
  | .rename source target =>
      match disk source with
      | none => (.error "ENOENT", disk)
      | some entry => (.ok (), (disk.put source none).put target (some entry))
  | .link source target =>
      match disk source, disk target with
      | none, _ => (.error "ENOENT", disk)
      | some _, some _ => (.error "EEXIST", disk)
      | some entry, none => (.ok (), disk.put target (some entry))
  | .remove path force =>
      match disk path with
      | none => if force then (.ok (), disk) else (.error "ENOENT", disk)
      | some (.node .directory) => (.error "EISDIR", disk)
      | some _ => (.ok (), disk.put path none)

/-- A failing call: `existsSync` says that nothing is there, every other call throws. -/
def FileOp.failure (message : String) : (op : FileOp) → Except String op.Answer
  | .existsSync _ => .ok false
  | .isDirectory _ | .isRealFile _ | .isRealDirectory _ => .error message
  | .readFile _ => .error message
  | .mkdir _ => .error message
  | .writeNew _ _ => .error message
  | .rename _ _ => .error message
  | .link _ _ => .error message
  | .remove _ _ => .error message

/-- The stretch of the commit that a call belongs to. -/
inductive Phase where
  /-- before the `try` -/
  | checking
  /-- the `try` body -/
  | committing
  /-- the `catch` -/
  | rollback
  /-- the `finally` -/
  | cleanup
  /-- after it -/
  | finishing
deriving DecidableEq, Repr

structure FileCall where
  phase : Phase
  op : FileOp

@[reducible] def FileCall.Answer (c : FileCall) : Type := c.op.Answer

abbrev Fs (α : Type) := Program FileCall FileCall.Answer α

/-- What a failing call leaves: nothing, but for a new file, which is made first and written then, and may be broken
off after any of its bytes. -/
def FileOp.Leaves (op : FileOp) (disk disk' : Disk) : Prop :=
  disk' = disk ∨ ∃ path content part, op = .writeNew path content ∧ part <+: content ∧ disk .documentsDir ≠ none ∧
    disk path = none ∧ disk' = disk.put path (some (.node (.file part)))

/-- **The file system** answers a call and does what it asks for, or, where `mayFail` allows it, the call fails. -/
def FileSystem (mayFail : FileCall → Prop) (c : FileCall) (disk : Disk) (answer : Except String c.Answer)
    (disk' : Disk) : Prop :=
  (answer, disk') = disk.answer c.op ∨
    (mayFail c ∧ c.op.Leaves disk disk' ∧ ∃ message, answer = c.op.failure message)

def ask (phase : Phase) (op : FileOp) : Fs op.Answer := Program.perform (FileCall.mk phase op)

/-- Run the program where the flag is set. -/
def onlyIf (flag : Bool) (p : Fs Unit) : Fs Unit := if flag then p else pure ()

/-! ### The base -/

/-- The bytes of a text in UTF-8. -/
def bytesOf (text : String) : List UInt8 := Utf8.encode text.toList

def resolveDocumentsDir (phase : Phase) (rootDir : String) : Fs Unit :=
  if Blank rootDir then
    Program.fail "Documents writer 需要明確的 rootDir"
  else do
    let isDirectory ← ask phase (.isDirectory .root)
    if isDirectory = false then
      Program.fail "Documents writer rootDir 必須是目錄"
    else
      let present ← ask phase (.existsSync .documentsDir)
      if present = false then
        pure ()
      else
        let real ← ask phase (.isRealDirectory .documentsDir)
        if real then pure () else Program.fail "Documents 路徑必須是實體目錄"

/-- What a document adds to the hashed bytes. -/
def baseRecord (phase : Phase) (document : DocumentKey) : Fs (List UInt8) := do
  let name := bytesOf document.fileName ++ [0]
  let present ← ask phase (.existsSync (.target document))
  if present = false then
    pure (name ++ bytesOf "missing" ++ [0])
  else
    let real ← ask phase (.isRealFile (.target document))
    if real = false then
      Program.fail (document.fileName ++ " 必須是實體檔案")
    else
      let content ← ask phase (.readFile (.target document))
      pure (name ++ bytesOf "present" ++ [0] ++ bytesOf (toString content.length) ++ [0] ++ content)

/-- The keys of `DOCUMENTS`, in its order. -/
def documentKeys : List DocumentKey := [.context, .adr, .handoff]

def baseRecords (phase : Phase) : List DocumentKey → Fs (List UInt8)
  | [] => pure []
  | document :: rest => do
      let record ← baseRecord phase document
      let records ← baseRecords phase rest
      pure (record ++ records)

variable (sha256 : List UInt8 → String)

def captureDocumentsBase (phase : Phase) (rootDir : String) : Fs String := do
  resolveDocumentsDir phase rootDir
  let records ← baseRecords phase documentKeys
  pure (sha256 records)

/-! ### The commit -/

structure CommitDocumentsRequest where
  rootDir : String
  expectedBaseHash : String
  documents : DocumentsContent

/-- An element of `staged`; its paths are those of its document. -/
structure Staged where
  document : DocumentKey
  existed : Bool
  backedUp : Bool
  installed : Bool
deriving DecidableEq, Repr

variable (token : String)

/-- `existed ? readFileSync(target, "utf8") : undefined` -/
def readExisting (document : DocumentKey) (existed : Bool) : Fs (Option String) :=
  if existed then do
    let content ← ask .committing (.readFile (.target document))
    pure (some (String.ofList (Utf8.decode content)))
  else
    pure none

def stageDocument (documents : DocumentsContent) (document : DocumentKey) : Fs Staged := do
  let existed ← ask .committing (.existsSync (.target document))
  let existing ← readExisting document existed
  let text ← Program.lift (renderManagedDocument document.marker (documents.body document) existing)
  ask .committing (.writeNew (.staged document token) (bytesOf text))
  pure ⟨document, existed, false, false⟩

/-- Stage the documents; the ones that were staged are given back also when one throws. -/
def stageDocuments (documents : DocumentsContent) :
    List DocumentKey → List Staged → Fs (List Staged × Except String Unit)
  | [], staged => pure (staged, .ok ())
  | document :: rest, staged => do
      let outcome ← (stageDocument token documents document).attempt
      match outcome with
      | .error e => pure (staged, .error e)
      | .ok entry => stageDocuments documents rest (staged ++ [entry])

/-- Put a staged document in the place of its target; the flags say how far it came. -/
def installDocument (entry : Staged) : Fs (Staged × Except String Unit) := do
  let backedUp ←
    (onlyIf entry.existed
      (ask .committing (.rename (.target entry.document) (.backup entry.document token)))).attempt
  match backedUp with
  | .error e => pure (entry, .error e)
  | .ok () =>
      let entry := { entry with backedUp := entry.existed }
      let installed ←
        (ask .committing (.link (.staged entry.document token) (.target entry.document))).attempt
      match installed with
      | .error e => pure (entry, .error e)
      | .ok () =>
          let entry := { entry with installed := true }
          let removed ← (ask .committing (.remove (.staged entry.document token) false)).attempt
          pure (entry, removed)

/-- Install the staged documents in order, up to the first that throws. -/
def installDocuments : List Staged → Fs (List Staged × Except String Unit)
  | [] => pure ([], .ok ())
  | entry :: rest => do
      let (entry, outcome) ← installDocument token entry
      match outcome with
      | .error e => pure (entry :: rest, .error e)
      | .ok () =>
          let (rest, outcome) ← installDocuments rest
          pure (entry :: rest, outcome)

/-- The `try` body: what was staged, and the result it returned, if any, or what it threw. -/
def commitBody (request : CommitDocumentsRequest) :
    Fs (List Staged × Except String (Option CommitDocumentsResult)) := do
  let made ← (ask .committing (.mkdir .documentsDir)).attempt
  match made with
  | .error e => pure ([], .error e)
  | .ok () =>
      let (staged, outcome) ← stageDocuments token request.documents documentKeys []
      match outcome with
      | .error e => pure (staged, .error e)
      | .ok () =>
          let captured ← (captureDocumentsBase sha256 .committing request.rootDir).attempt
          match captured with
          | .error e => pure (staged, .error e)
          | .ok baseHash =>
              if baseHash ≠ request.expectedBaseHash then
                pure (staged, .ok (some (.conflict "Documents base hash 在提交前已變更")))
              else
                let (staged, outcome) ← installDocuments token staged
                pure (staged, outcome.map fun _ => none)

def rollbackEntry (entry : Staged) : Fs Unit := do
  onlyIf entry.installed (ask .rollback (.remove (.target entry.document) true))
  onlyIf entry.backedUp (ask .rollback (.rename (.backup entry.document token) (.target entry.document)))

/-- Undo the entries, and collect what the undoing threw. -/
def rollback : List Staged → Fs (List String)
  | [] => pure []
  | entry :: rest => do
      let undone ← (rollbackEntry token entry).attempt
      let errors ← rollback rest
      match undone with
      | .error e => pure (e :: errors)
      | .ok () => pure errors

def removeStaged : List Staged → Fs Unit
  | [] => pure ()
  | entry :: rest => do
      ask .cleanup (.remove (.staged entry.document token) true)
      removeStaged rest

def removeBackups : List Staged → Fs Unit
  | [] => pure ()
  | entry :: rest => do
      onlyIf entry.backedUp (ask .finishing (.remove (.backup entry.document token) true))
      removeBackups rest

/-- `randomUUID` gives the token of the commit. -/
def commitDocumentsBundle (request : CommitDocumentsRequest) : Fs CommitDocumentsResult := do
  let resolved ← (resolveDocumentsDir .checking request.rootDir).attempt
  match resolved with
  | .error e => pure (.invalid [e])
  | .ok () =>
      let captured ← (captureDocumentsBase sha256 .checking request.rootDir).attempt
      match captured with
      | .error e => pure (.invalid [e])
      | .ok currentBaseHash =>
          if currentBaseHash ≠ request.expectedBaseHash then
            pure (.conflict "Documents base hash 已變更")
          else
            let (staged, outcome) ← commitBody sha256 token request
            match outcome with
            | .error e =>
                let errors ← rollback token staged.reverse
                removeStaged token staged
                pure (.failed (e :: errors))
            | .ok (some result) =>
                removeStaged token staged
                pure result
            | .ok none =>
                removeStaged token staged
                removeBackups token staged
                let baseHash ← captureDocumentsBase sha256 .finishing request.rootDir
                pure (.committed baseHash)

end ForgeRuntime
