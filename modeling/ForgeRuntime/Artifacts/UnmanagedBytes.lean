import ForgeRuntime.Artifacts.CommitRuns

/-!
# What a commit does to the bytes around the block

A commit reads each document as UTF-8, renders the block into the text, and writes the bytes of the text.  The
markers are ASCII, so the bytes around the block are decoded and encoded on their own, and they come back exactly
when they are UTF-8.  A document without a block is followed by the block, so an end that was cut off in the middle
of a replacement character is completed instead of changed.

* `keeps_iff` — the bytes outside the block of one document are kept exactly when they are UTF-8;
* `unmanaged_bytes_survive` — the commits that keep them in all three documents;
* `commit_replaces_bytes` — a commit that does not.
-/

namespace ForgeRuntime

open EventDriven EventDriven.Program EventDriven.Utf8 EventDriven.Words

/-! ### The bytes of the markers -/

def beginBytes (document : DocumentKey) : List UInt8 := bytesOf (beginMarker document.marker)

def endBytes (document : DocumentKey) : List UInt8 := bytesOf (endMarker document.marker)

/-- The two markers of a document, as bytes. -/
def DocumentKey.byteBrackets (document : DocumentKey) : Brackets UInt8 where
  opening := ⟨0x3C, (beginBytes document).tail, by cases document <;> decide⟩
  closing := ⟨0x3C, (endBytes document).tail, by cases document <;> decide⟩
  closing_head := by cases document <;> decide
  opening_head := by cases document <;> decide
  apart := by cases document <;> decide

theorem beginBytes_letters (document : DocumentKey) :
    beginBytes document = document.byteBrackets.opening.letters := by
  cases document <;> decide

theorem endBytes_letters (document : DocumentKey) : endBytes document = document.byteBrackets.closing.letters := by
  cases document <;> decide

theorem beginBytes_encode (document : DocumentKey) :
    beginBytes document = encode document.brackets.opening.letters := by
  rw [beginBytes, bytesOf, beginMarker_letters]

theorem endBytes_encode (document : DocumentKey) :
    endBytes document = encode document.brackets.closing.letters := by
  rw [endBytes, bytesOf, endMarker_letters]

theorem begin_ascii (document : DocumentKey) : Ascii document.brackets.opening.letters := by
  rw [← beginMarker_letters]
  cases document <;> decide

/-! ### Reading around the markers -/

theorem decode_begin (document : DocumentKey) (x y : List UInt8) :
    decode (x ++ (beginBytes document ++ y)) = decode x ++ (document.brackets.opening.letters ++ decode y) := by
  rw [beginBytes_encode]
  exact decode_around (by decide : '<'.toNat < 0x80) _ x y

theorem decode_end (document : DocumentKey) (x y : List UInt8) :
    decode (x ++ (endBytes document ++ y)) = decode x ++ (document.brackets.closing.letters ++ decode y) := by
  rw [endBytes_encode]
  exact decode_around (by decide : '<'.toNat < 0x80) _ x y

/-- A block in the bytes is a block in the text. -/
theorem decode_block (document : DocumentKey) (before inner after : List UInt8) :
    decode (before ++ beginBytes document ++ inner ++ endBytes document ++ after) =
      decode before ++ document.brackets.opening.letters ++ decode inner ++ document.brackets.closing.letters ++
        decode after := by
  simp only [List.append_assoc]
  rw [decode_begin, decode_end]

/-- Bytes that are read without a marker hold none. -/
theorem unmarked_bytes {document : DocumentKey} {x : List UInt8} (h : document.brackets.Unmarked (decode x)) :
    document.byteBrackets.Unmarked x := by
  constructor
  · refine occurrences_eq_zero_iff.mpr fun hin => occurrences_eq_zero_iff.mp h.1 ?_
    rw [← beginBytes_letters] at hin
    obtain ⟨p, q, rfl⟩ := hin
    rw [List.append_assoc, decode_begin]
    exact ⟨decode p, decode q, by rw [List.append_assoc]⟩
  · refine occurrences_eq_zero_iff.mpr fun hin => occurrences_eq_zero_iff.mp h.2 ?_
    rw [← endBytes_letters] at hin
    obtain ⟨p, q, rfl⟩ := hin
    rw [List.append_assoc, decode_end]
    exact ⟨decode p, decode q, by rw [List.append_assoc]⟩

/-- The begin marker stands in the bytes where it is read. -/
theorem begin_infix_of_decode {document : DocumentKey} {x : List UInt8}
    (h : document.brackets.opening.letters <:+: decode x) : beginBytes document <:+: x := by
  obtain ⟨p, q, hx⟩ := h
  rw [List.append_assoc] at hx
  obtain ⟨y, z, rfl, -, -⟩ := split_of_decode (begin_ascii document) Marker.letters_ne_nil hx.symm
  exact ⟨y, z, by rw [beginBytes_encode, List.append_assoc]⟩

/-! ### One document -/

/-- The bytes outside the block are kept: those around it, or all of them where there is none. -/
structure KeepsUnmanaged (document : DocumentKey) (old new : List UInt8) : Prop where
  around : ∀ before inner after, old = before ++ beginBytes document ++ inner ++ endBytes document ++ after →
    ∃ inner', new = before ++ beginBytes document ++ inner' ++ endBytes document ++ after
  whole : ¬ beginBytes document <:+: old → old <+: new

/-- The bytes outside the block are UTF-8; without a block they may also end in the first byte, or the first two
bytes, of the replacement character. -/
structure UnmanagedUtf8 (document : DocumentKey) (old : List UInt8) : Prop where
  around : ∀ before inner after, old = before ++ beginBytes document ++ inner ++ endBytes document ++ after →
    Valid before ∧ Valid after
  whole : ¬ beginBytes document <:+: old →
    Valid old ∨ ∃ text, Valid text ∧ (old = text ++ [0xEF] ∨ old = text ++ [0xEF, 0xBF])

/-- The bytes of a rendered text. -/
theorem bytesOf_render {document : DocumentKey} {body : String} {p q : List Char} :
    bytesOf (String.ofList p ++ managedBlock document.marker body ++ String.ofList q) =
      encode p ++ beginBytes document ++ encode ('\n' :: (Text.trim body).toList ++ ['\n']) ++ endBytes document ++
        encode q := by
  rw [bytesOf, beginBytes_encode, endBytes_encode]
  simp only [String.toList_append, String.toList_ofList, managedBlock_letters, encode_append, List.append_assoc]

variable {document : DocumentKey} {body text : String} {old : List UInt8}

/-- With a block: both sides of it are decoded and encoded on their own. -/
theorem keeps_around_iff {before inner after : List UInt8}
    (hold : old = before ++ beginBytes document ++ inner ++ endBytes document ++ after)
    (h : renderManagedDocument document.marker body (some (String.ofList (decode old))) = .ok text) :
    (∃ inner', bytesOf text = before ++ beginBytes document ++ inner' ++ endBytes document ++ after) ↔
      Valid before ∧ Valid after := by
  obtain ⟨p, q, hframe, rfl, -⟩ := render_framed h
  obtain ⟨-, hbody, -⟩ := render_ok h
  rw [Option.getD_some, String.toList_ofList] at hframe
  have htext : decode old = decode before ++ document.brackets.opening.letters ++ decode inner ++
      document.brackets.closing.letters ++ decode after := by
    rw [hold, decode_block]
  have hframed : document.brackets.Framed (decode old) p q := by
    rcases managedFrame_cases hframe with hframed | ⟨hclear, -, -⟩
    · exact hframed
    · refine absurd ?_ (occurrences_eq_zero_iff.mp hclear.1)
      rw [htext]
      exact ⟨decode before, decode inner ++ document.brackets.closing.letters ++ decode after,
        by simp only [List.append_assoc]⟩
  obtain ⟨hp, hq⟩ := Brackets.framed_unique hframed htext
  subst hp hq
  obtain ⟨-, -, hbefore, -, hafter⟩ := hframed
  rw [bytesOf_render]
  constructor
  · rintro ⟨inner', hnew⟩
    -- in the new bytes the block is found in one way only
    have hbytes : document.byteBrackets.Framed
        (encode (decode before) ++ beginBytes document ++ encode ('\n' :: (Text.trim body).toList ++ ['\n']) ++
          endBytes document ++ encode (decode after)) (encode (decode before)) (encode (decode after)) := by
      refine ⟨_, by rw [beginBytes_letters, endBytes_letters], ?_, ?_, ?_⟩
      · exact unmarked_bytes (by rw [decode_encode]; exact hbefore)
      · exact unmarked_bytes (by rw [decode_encode]; exact unmarked_body hbody)
      · exact unmarked_bytes (by rw [decode_encode]; exact hafter)
    rw [hnew, beginBytes_letters, endBytes_letters] at hbytes
    obtain ⟨hsame, hsame'⟩ := Brackets.framed_unique hbytes rfl
    exact ⟨(encode_decode_iff before).mp hsame.symm, (encode_decode_iff after).mp hsame'.symm⟩
  · rintro ⟨hvalid, hvalid'⟩
    rw [(encode_decode_iff before).mpr hvalid, (encode_decode_iff after).mpr hvalid']
    exact ⟨_, rfl⟩

/-- Without a block: the text is followed by the block. -/
theorem keeps_whole_iff (hold : ¬ beginBytes document <:+: old)
    (h : renderManagedDocument document.marker body (some (String.ofList (decode old))) = .ok text) :
    old <+: bytesOf text ↔
      Valid old ∨ ∃ text, Valid text ∧ (old = text ++ [0xEF] ∨ old = text ++ [0xEF, 0xBF]) := by
  obtain ⟨p, q, hframe, rfl, -⟩ := render_framed h
  rw [Option.getD_some, String.toList_ofList] at hframe
  rcases managedFrame_cases hframe with ⟨inner, htext, -⟩ | ⟨-, rfl, rfl⟩
  · refine absurd (begin_infix_of_decode ?_) hold
    rw [htext]
    exact ⟨p, inner ++ document.brackets.closing.letters ++ q, by simp only [List.append_assoc]⟩
  · rw [bytesOf, String.toList_append, String.toList_append, String.toList_ofList, appendedTo, List.append_assoc,
      List.append_assoc]
    exact prefix_encode_decode_iff old _

/-- **One document**: what is outside its block is kept exactly when it is UTF-8. -/
theorem keeps_iff (h : renderManagedDocument document.marker body (some (String.ofList (decode old))) = .ok text) :
    KeepsUnmanaged document old (bytesOf text) ↔ UnmanagedUtf8 document old := by
  constructor
  · intro hkeeps
    refine ⟨fun before inner after hold => ?_, fun hnone => (keeps_whole_iff hnone h).mp (hkeeps.whole hnone)⟩
    exact (keeps_around_iff hold h).mp (hkeeps.around before inner after hold)
  · intro hutf8
    refine ⟨fun before inner after hold => ?_, fun hnone => (keeps_whole_iff hnone h).mpr (hutf8.whole hnone)⟩
    exact (keeps_around_iff hold h).mpr (hutf8.around before inner after hold)

/-! ### The commit -/

/-- **The bytes outside the blocks survive** a commit of three existing documents exactly when they are UTF-8. -/
theorem unmanaged_bytes_survive {mayFail : FileCall → Prop} {sha256 : List UInt8 → String} {token : String}
    {request : CommitDocumentsRequest} {disk disk' : Disk} {base : String} {old : DocumentKey → List UInt8}
    (hold : ∀ document, disk (.target document) = some (.node (.file (old document))))
    (h : Runs (FileSystem mayFail) (commitDocumentsBundle sha256 token request) disk (.ok (.committed base)) disk') :
    (∀ document, ∃ new, disk' (.target document) = some (.node (.file new)) ∧
        KeepsUnmanaged document (old document) new) ↔
      ∀ document, UnmanagedUtf8 document (old document) := by
  refine forall_congr' fun document => ?_
  obtain ⟨text, hrender, hfile⟩ := committed_written h document
  have hexisting : existingText disk document = some (String.ofList (decode (old document))) := by
    rw [existingText, hold document]
    rfl
  rw [hexisting] at hrender
  rw [hfile, ← keeps_iff hrender]
  constructor
  · rintro ⟨new, hnew, hkeeps⟩
    cases hnew
    exact hkeeps
  · exact fun hkeeps => ⟨_, rfl, hkeeps⟩

/-! ### A commit that does not keep them -/

/-- An empty project, but for the three documents; `ADR.md` holds one byte that is no UTF-8. -/
def latinDisk : Disk
  | .root | .documentsDir => some (.node .directory)
  | .target .adr => some (.node (.file [0xFF]))
  | .target _ => some (.node (.file []))
  | _ => none

def latinOld : DocumentKey → List UInt8
  | .adr => [0xFF]
  | _ => []

/-- Bytes as a text of the same length. -/
def sampleHash (bytes : List UInt8) : String := String.ofList (bytes.map fun b => Char.ofNat b.toNat)

/-- Run a program on a disk where nothing fails. -/
def runOn {α : Type} (disk : Disk) (p : Fs α) : Except String α × Disk :=
  p.eval (fun c disk => disk.answer c.op) disk

theorem runOn_runs {α : Type} (mayFail : FileCall → Prop) (disk : Disk) (p : Fs α) :
    Runs (FileSystem mayFail) p disk (runOn disk p).1 (runOn disk p).2 :=
  runs_eval (fun _ _ => .inl rfl) p disk

/-- The request of a commit on this disk, with its base. -/
def latinRequest : CommitDocumentsRequest where
  rootDir := "/project"
  expectedBaseHash :=
    match (runOn latinDisk (captureDocumentsBase sampleHash .checking "/project")).1 with
    | .ok base => base
    | .error e => e
  documents := ⟨"c", "a", "h"⟩

def latinCommit : Except String CommitDocumentsResult × Disk :=
  runOn latinDisk (commitDocumentsBundle sampleHash "t" latinRequest)

theorem latin_committed : ∃ base, latinCommit.1 = .ok (.committed base) := by
  have hends : (match latinCommit.1 with | .ok (.committed _) => true | _ => false) = true := by decide +kernel
  split at hends
  · next base hbase => exact ⟨base, hbase⟩
  · cases hends

theorem latin_old (document : DocumentKey) :
    latinDisk (.target document) = some (.node (.file (latinOld document))) := by
  cases document <;> rfl

theorem latin_runs (base : String) (h : latinCommit.1 = .ok (.committed base)) :
    Runs (FileSystem fun _ => False) (commitDocumentsBundle sampleHash "t" latinRequest) latinDisk
      (.ok (.committed base)) latinCommit.2 := by
  rw [← h]
  exact runOn_runs _ latinDisk _

theorem unmanaged_bytes_survive_latin :
    (∀ document, ∃ new, latinCommit.2 (.target document) = some (.node (.file new)) ∧
        KeepsUnmanaged document (latinOld document) new) ↔
      ∀ document, UnmanagedUtf8 document (latinOld document) := by
  obtain ⟨base, hbase⟩ := latin_committed
  exact unmanaged_bytes_survive latin_old (latin_runs base hbase)

/-- The first byte of a file. -/
def firstByte : Option Entry → Option UInt8
  | some (.node (.file content)) => content.head?
  | _ => none

/-- **A byte that is no UTF-8 is replaced.** -/
theorem commit_replaces_bytes :
    ¬ ∀ (sha256 : List UInt8 → String) (token : String) (request : CommitDocumentsRequest) (disk disk' : Disk)
        (base : String) (old : DocumentKey → List UInt8),
      (∀ document, disk (.target document) = some (.node (.file (old document)))) →
      Runs (FileSystem fun _ => False) (commitDocumentsBundle sha256 token request) disk
        (.ok (.committed base)) disk' →
      ∀ document, ∃ new, disk' (.target document) = some (.node (.file new)) ∧
        KeepsUnmanaged document (old document) new := by
  intro hall
  obtain ⟨base, hbase⟩ := latin_committed
  obtain ⟨new, hnew, hkeeps⟩ := hall _ _ _ _ _ base latinOld latin_old (latin_runs base hbase) .adr
  obtain ⟨rest, rfl⟩ := hkeeps.whole (by decide)
  have hfirst : firstByte (latinCommit.2 (.target .adr)) = some 0xEF := by decide +kernel
  rw [hnew] at hfirst
  have hsame : (0xFF : UInt8) = 0xEF := Option.some.inj hfirst
  exact absurd hsame (by decide)

end ForgeRuntime
