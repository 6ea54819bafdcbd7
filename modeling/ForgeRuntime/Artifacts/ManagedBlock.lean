import ForgeRuntime.Artifacts.Documents
import ForgeRuntime.Lib.Words

/-!
# The managed block of a document

`renderManagedDocument` puts the rendered text between the markers of the document and leaves what stands around
them.  The two markers begin with a letter that does not come again in them, so neither of them can arise across
a seam, whatever the text around the block ends or begins with.

* `managedFrame` — what a text contributes to the next rendering: what stands before and behind the block;
* `managedFrame_framed` — a rendered text has the frame that it was rendered into;
* `managed_block_laws` — one block, its text, what is kept, and the laws of rendering again.
-/

namespace ForgeRuntime

open EventDriven EventDriven.Text EventDriven.Words

/-! ### Rendering -/

/-- The rows of `DOCUMENTS`. -/
inductive DocumentKey where
  | context
  | adr
  | handoff
deriving DecidableEq, Repr

def DocumentKey.fileName : DocumentKey → String
  | .context => "CONTEXT.md"
  | .adr => "ADR.md"
  | .handoff => "handoff.md"

def DocumentKey.marker : DocumentKey → String
  | .context => "CONTEXT"
  | .adr => "ADR"
  | .handoff => "HANDOFF"

def DocumentsContent.body (documents : DocumentsContent) : DocumentKey → String
  | .context => documents.context
  | .adr => documents.adr
  | .handoff => documents.handoff

/-- What every marker begins with. -/
def markerPrefix : String := "<!-- forge-runtime:"

def beginMarker (marker : String) : String := markerPrefix ++ marker ++ ":begin -->"

def endMarker (marker : String) : String := markerPrefix ++ marker ++ ":end -->"

def managedBlock (marker body : String) : String :=
  beginMarker marker ++ "\n" ++ trim body ++ "\n" ++ endMarker marker

def slice (text : String) (start stop : Nat) : String :=
  String.ofList ((text.toList.take stop).drop start)

def renderManagedDocument (marker body : String) (existing : Option String) : Except String String :=
  let begin_ := beginMarker marker
  let end_ := endMarker marker
  if Blank body then
    throw (marker ++ " 文件內容不得為空")
  else if markerPrefix.toList <:+: body.toList then
    throw (marker ++ " 文件內容不得包含 Forge managed marker")
  else
    let block := managedBlock marker body
    match existing with
    | none => pure (block ++ "\n")
    | some existing =>
        if existing = "" then
          pure (block ++ "\n")
        else
          match indexOf begin_.toList existing.toList, indexOf end_.toList existing.toList with
          | none, none =>
              pure (existing ++ (if existing.toList.getLast? = some '\n' then "" else "\n") ++ block ++ "\n")
          | some beginIndex, some endIndex =>
              if endIndex < beginIndex ∨
                  indexFrom begin_.toList existing.toList (beginIndex + begin_.length) ≠ none ∨
                  indexFrom end_.toList existing.toList (endIndex + end_.length) ≠ none then
                throw (marker ++ " managed block 標記不完整或重複")
              else
                pure (slice existing 0 beginIndex ++ block ++
                  slice existing (endIndex + end_.length) existing.length)
          | _, _ => throw (marker ++ " managed block 標記不完整或重複")

example : renderManagedDocument "ADR" " b\n" (some "a") =
    .ok "a\n<!-- forge-runtime:ADR:begin -->\nb\n<!-- forge-runtime:ADR:end -->\n" := by decide +kernel

/-! ### The markers -/

def DocumentKey.beginWord (document : DocumentKey) : Marker Char where
  head := '<'
  tail := (beginMarker document.marker).toList.tail
  head_notMem := by cases document <;> decide

def DocumentKey.endWord (document : DocumentKey) : Marker Char where
  head := '<'
  tail := (endMarker document.marker).toList.tail
  head_notMem := by cases document <;> decide

/-- The two markers of a document. -/
def DocumentKey.brackets (document : DocumentKey) : Brackets Char where
  opening := document.beginWord
  closing := document.endWord
  closing_head := document.beginWord.head_notMem
  opening_head := document.endWord.head_notMem
  apart := by cases document <;> decide

theorem beginMarker_letters (document : DocumentKey) :
    (beginMarker document.marker).toList = document.brackets.opening.letters := by
  cases document <;> decide

theorem endMarker_letters (document : DocumentKey) :
    (endMarker document.marker).toList = document.brackets.closing.letters := by
  cases document <;> decide

theorem beginMarker_length (document : DocumentKey) :
    (beginMarker document.marker).length = document.brackets.opening.letters.length := by
  rw [← beginMarker_letters, String.length_toList]

theorem endMarker_length (document : DocumentKey) :
    (endMarker document.marker).length = document.brackets.closing.letters.length := by
  rw [← endMarker_letters, String.length_toList]

theorem prefix_of_begin (document : DocumentKey) :
    markerPrefix.toList <+: document.brackets.opening.letters := by
  rw [← beginMarker_letters]
  cases document <;> decide

theorem prefix_of_end (document : DocumentKey) : markerPrefix.toList <+: document.brackets.closing.letters := by
  rw [← endMarker_letters]
  cases document <;> decide

theorem safe_newline (document : DocumentKey) (b : List Char) : document.brackets.SafeSeam ('\n' :: b) := by
  cases document <;> exact ⟨by simp; decide, by simp; decide⟩

theorem unmarked_newline (document : DocumentKey) (b : List Char) :
    document.brackets.Unmarked ('\n' :: b) ↔ document.brackets.Unmarked b :=
  Brackets.unmarked_cons (show '<' ≠ '\n' by decide) (show '<' ≠ '\n' by decide) b

theorem unmarked_lineEnd (document : DocumentKey) : document.brackets.Unmarked ['\n'] :=
  (unmarked_newline document []).mpr Brackets.unmarked_nil

/-- What is written between the markers holds neither of them. -/
theorem unmarked_body {document : DocumentKey} {body : String} (h : ¬ markerPrefix.toList <:+: body.toList) :
    document.brackets.Unmarked ('\n' :: (trim body).toList ++ ['\n']) := by
  have htrim : (trim body).toList <:+: body.toList := by
    rw [trim_toList]
    exact (List.rdropWhile_prefix _ _).isInfix.trans (List.dropWhile_suffix _).isInfix
  have hbody : document.brackets.Unmarked (trim body).toList := by
    refine ⟨occurrences_eq_zero_iff.mpr fun hin => ?_, occurrences_eq_zero_iff.mpr fun hin => ?_⟩
    · exact h ((prefix_of_begin document).isInfix.trans (hin.trans htrim))
    · exact h ((prefix_of_end document).isInfix.trans (hin.trans htrim))
  rw [List.cons_append, unmarked_newline, Brackets.unmarked_append (safe_newline document [])]
  exact ⟨hbody, unmarked_lineEnd document⟩

/-! ### Frames -/

/-- What the next rendering puts before and behind the block. -/
def managedFrame (document : DocumentKey) (existing : List Char) : Option (List Char × List Char) :=
  if existing = [] then
    some ([], ['\n'])
  else
    match indexOf document.brackets.opening.letters existing, indexOf document.brackets.closing.letters existing with
    | none, none => some (existing ++ (if existing.getLast? = some '\n' then [] else ['\n']), ['\n'])
    | some beginIndex, some endIndex =>
        if endIndex < beginIndex ∨
            indexFrom document.brackets.opening.letters existing (beginIndex + document.brackets.opening.letters.length) ≠ none ∨
            indexFrom document.brackets.closing.letters existing (endIndex + document.brackets.closing.letters.length) ≠ none then
          none
        else
          some (existing.take beginIndex, existing.drop (endIndex + document.brackets.closing.letters.length))
    | _, _ => none

/-- **A framed text has its own frame.** -/
theorem managedFrame_framed {document : DocumentKey} {text before after : List Char}
    (h : document.brackets.Framed text before after) : managedFrame document text = some (before, after) := by
  obtain ⟨hbegin, ahead, hahead, horder, hend⟩ := Brackets.framed_places h
  obtain ⟨inner, htext, hbefore, hinner, hafter⟩ := h
  have hfromBegin : text = before ++ document.brackets.opening.letters ++
      (inner ++ (document.brackets.closing.letters ++ after)) := by
    rw [htext]
    simp only [List.append_assoc]
  have hbehind : occurrences document.brackets.opening.letters
      (inner ++ (document.brackets.closing.letters ++ after)) = 0 := by
    rw [occurrences_append (Brackets.safe_closing _).1, Brackets.opening_behind_closing, hinner.1, hafter.1]
  have honce : indexFrom document.brackets.opening.letters text
      (before.length + document.brackets.opening.letters.length) = none := by
    rw [hfromBegin, indexFrom_behind]
    exact hbehind
  have hendOnce : indexFrom document.brackets.closing.letters text
      (ahead.length + document.brackets.closing.letters.length) = none := by
    rw [hahead, indexFrom_behind]
    exact hafter.2
  have hne : text ≠ [] := by
    rw [hfromBegin]
    simp
  have hlength : ¬ ahead.length < before.length := Nat.not_lt.mpr horder
  rw [managedFrame, if_neg hne, hbegin, hend]
  simp only [honce, hendOnce, hlength, ne_eq, not_true_eq_false, or_false, if_false, Option.some.injEq,
    Prod.mk.injEq]
  constructor
  · rw [hfromBegin, List.append_assoc, List.take_left]
  · rw [hahead, ← List.length_append, List.drop_left]

/-- The text that a rendering appends a block to: the existing one with a newline at its end. -/
def appendedTo (existing : List Char) : List Char :=
  existing ++ (if existing = [] ∨ existing.getLast? = some '\n' then [] else ['\n'])

theorem appendedTo_cons {existing : List Char} (h : existing ≠ []) :
    appendedTo existing = existing ++ (if existing.getLast? = some '\n' then [] else ['\n']) := by
  simp [appendedTo, h]

theorem unmarked_appendedTo {document : DocumentKey} {existing : List Char} (h : document.brackets.Unmarked existing) :
    document.brackets.Unmarked (appendedTo existing) := by
  unfold appendedTo
  split
  · rw [List.append_nil]
    exact h
  · rw [Brackets.unmarked_append (safe_newline document [])]
    exact ⟨h, unmarked_lineEnd document⟩

/-- A text that can be rendered has one block, or no marker at all. -/
theorem managedFrame_cases {document : DocumentKey} {text before after : List Char}
    (h : managedFrame document text = some (before, after)) :
    document.brackets.Framed text before after ∨
      (document.brackets.Unmarked text ∧ before = appendedTo text ∧ after = ['\n']) := by
  unfold managedFrame at h
  split at h
  · next hnil =>
      obtain ⟨rfl, rfl⟩ := Prod.mk.inj (Option.some.inj h)
      rw [hnil]
      exact .inr ⟨Brackets.unmarked_nil, rfl, rfl⟩
  · next hne =>
      split at h
      · next hbegin hend =>
          obtain ⟨rfl, rfl⟩ := Prod.mk.inj (Option.some.inj h)
          exact .inr ⟨⟨indexOf_eq_none_iff.mp hbegin, indexOf_eq_none_iff.mp hend⟩,
            (appendedTo_cons hne).symm, rfl⟩
      · next beginIndex endIndex hbegin hend =>
          obtain ⟨a, behind, htext, rfl, ha⟩ := indexOf_eq_some_iff.mp hbegin
          obtain ⟨ahead, b, htext', rfl, hahead⟩ := indexOf_eq_some_iff.mp hend
          split at h
          · cases h
          · next hguard =>
              simp only [not_or, not_not, Nat.not_lt] at hguard
              obtain ⟨horder, honce, hendOnce⟩ := hguard
              obtain ⟨rfl, rfl⟩ := Prod.mk.inj (Option.some.inj h)
              rw [htext, indexFrom_behind] at honce
              rw [htext', indexFrom_behind] at hendOnce
              have htake : text.take a.length = a := by
                rw [htext, List.append_assoc, List.take_left]
              have hdrop : text.drop (ahead.length + document.brackets.closing.letters.length) = b := by
                rw [htext', ← List.length_append, List.drop_left]
              rw [htake, hdrop]
              exact .inl (Brackets.framed_of_places htext htext' horder ha hahead honce hendOnce)
      · cases h

/-! ### Rendering in frames -/

theorem managedBlock_letters (document : DocumentKey) (body : String) :
    (managedBlock document.marker body).toList =
      document.brackets.opening.letters ++ ('\n' :: (trim body).toList ++ ['\n']) ++ document.brackets.closing.letters := by
  simp [managedBlock, String.toList_append, beginMarker_letters, endMarker_letters]

theorem slice_to (text : String) (stop : Nat) : slice text 0 stop = String.ofList (text.toList.take stop) := rfl

theorem slice_from (text : String) (start : Nat) :
    slice text start text.length = String.ofList (text.toList.drop start) := by
  rw [slice, ← String.length_toList, List.take_length]

/-- Rendering puts the block into the frame of the text. -/
theorem render_eq_frame (document : DocumentKey) (body : String) (existing : Option String) :
    renderManagedDocument document.marker body existing =
      if Blank body then
        throw (document.marker ++ " 文件內容不得為空")
      else if markerPrefix.toList <:+: body.toList then
        throw (document.marker ++ " 文件內容不得包含 Forge managed marker")
      else
        match managedFrame document (existing.getD "").toList with
        | none => throw (document.marker ++ " managed block 標記不完整或重複")
        | some (before, after) =>
            pure (String.ofList before ++ managedBlock document.marker body ++ String.ofList after) := by
  unfold renderManagedDocument managedFrame
  split
  · rfl
  split
  · rfl
  cases existing with
  | none => simp
  | some existing =>
      by_cases hempty : existing = ""
      · simp [hempty]
      · have hne : existing.toList ≠ [] := fun h => hempty (String.toList_eq_nil_iff.mp h)
        simp only [Option.getD_some, hempty, hne, if_false, beginMarker_letters, endMarker_letters,
          beginMarker_length, endMarker_length, slice_to, slice_from]
        split
        · split <;> simp
        · split <;> rfl
        · rfl

theorem framed_block {document : DocumentKey} {body : String} {before after : List Char}
    (hbody : ¬ markerPrefix.toList <:+: body.toList) (hbefore : document.brackets.Unmarked before)
    (hafter : document.brackets.Unmarked after) :
    document.brackets.Framed
      (String.ofList before ++ managedBlock document.marker body ++ String.ofList after).toList before after := by
  refine ⟨'\n' :: (trim body).toList ++ ['\n'], ?_, hbefore, unmarked_body hbody, hafter⟩
  simp only [String.toList_append, String.toList_ofList, managedBlock_letters, List.append_assoc]

/-- A body that is rendered holds no marker, and the text has a frame. -/
theorem render_ok {document : DocumentKey} {body : String} {existing : Option String} {out : String}
    (h : renderManagedDocument document.marker body existing = .ok out) :
    ¬ Blank body ∧ ¬ markerPrefix.toList <:+: body.toList ∧
      ∃ before after, managedFrame document (existing.getD "").toList = some (before, after) ∧
        out = String.ofList before ++ managedBlock document.marker body ++ String.ofList after := by
  rw [render_eq_frame] at h
  split at h
  · cases h
  · next hblank =>
      split at h
      · cases h
      · next hbody =>
          refine ⟨hblank, hbody, ?_⟩
          cases hframe : managedFrame document (existing.getD "").toList with
          | none =>
              rw [hframe] at h
              cases h
          | some sides =>
              rw [hframe] at h
              exact ⟨sides.1, sides.2, rfl, (Except.ok.inj h).symm⟩

/-- What is rendered is one block, in the frame of the text. -/
theorem render_framed {document : DocumentKey} {body : String} {existing : Option String} {out : String}
    (h : renderManagedDocument document.marker body existing = .ok out) :
    ∃ before after, managedFrame document (existing.getD "").toList = some (before, after) ∧
      out = String.ofList before ++ managedBlock document.marker body ++ String.ofList after ∧
      document.brackets.Framed out.toList before after := by
  obtain ⟨hblank, hbody, before, after, hframe, rfl⟩ := render_ok h
  refine ⟨before, after, hframe, rfl, ?_⟩
  rcases managedFrame_cases hframe with ⟨inner, htext, hbefore, hinner, hafter⟩ | ⟨hclear, rfl, rfl⟩
  · exact framed_block hbody hbefore hafter
  · exact framed_block hbody (unmarked_appendedTo hclear)
      (unmarked_lineEnd document)

/-- The last body that is rendered decides. -/
theorem render_again {document : DocumentKey} {body : String} {existing : Option String} {out : String}
    (h : renderManagedDocument document.marker body existing = .ok out) (body' : String) :
    renderManagedDocument document.marker body' (some out) =
      renderManagedDocument document.marker body' existing := by
  obtain ⟨before, after, hframe, hout, hframed⟩ := render_framed h
  rw [render_eq_frame, render_eq_frame document body' existing, Option.getD_some, hframe,
    managedFrame_framed hframed]

/-- What a rendering with `before` and `after` around its block keeps of the text: what stood around its old block,
or all of it, with a newline after the block and at most one before it. -/
def KeepsOutside (document : DocumentKey) (existing before after : String) : Prop :=
  (∃ inner, existing = before ++ beginMarker document.marker ++ inner ++ endMarker document.marker ++ after ∧
      occurrences (beginMarker document.marker).toList existing.toList = 1 ∧
      occurrences (endMarker document.marker).toList existing.toList = 1) ∨
    (occurrences (beginMarker document.marker).toList existing.toList = 0 ∧
      occurrences (endMarker document.marker).toList existing.toList = 0 ∧
      (before = existing ∨ before = existing ++ "\n") ∧ after = "\n")

theorem keepsOutside {document : DocumentKey} {existing : String} {before after : List Char}
    (h : managedFrame document existing.toList = some (before, after)) :
    KeepsOutside document existing (String.ofList before) (String.ofList after) := by
  unfold KeepsOutside
  rw [beginMarker_letters, endMarker_letters]
  rcases managedFrame_cases h with hframed | ⟨hclear, rfl, rfl⟩
  · obtain ⟨hbegin, hend⟩ := Brackets.framed_occurrences hframed
    obtain ⟨inner, htext, -⟩ := hframed
    refine .inl ⟨String.ofList inner, ?_, hbegin, hend⟩
    apply String.toList_inj.mp
    simp only [String.toList_append, String.toList_ofList, beginMarker_letters, endMarker_letters, htext]
  · refine .inr ⟨hclear.1, hclear.2, ?_, rfl⟩
    unfold appendedTo
    split
    · exact .inl (by simp)
    · exact .inr (by simp)

/-- **The laws of the managed block.**  A rendered text has one begin and one end marker, in this order, with the
trimmed body on lines of its own between them; it keeps what stood outside the block; rendering again changes
nothing, and a later body overwrites an earlier one. -/
theorem managed_block_laws (document : DocumentKey) (body : String) (existing : Option String) (out : String)
    (h : renderManagedDocument document.marker body existing = .ok out) :
    (∃ before after,
      out = before ++ beginMarker document.marker ++ ("\n" ++ trim body ++ "\n") ++
        endMarker document.marker ++ after ∧ KeepsOutside document (existing.getD "") before after) ∧
    occurrences (beginMarker document.marker).toList out.toList = 1 ∧
    occurrences (endMarker document.marker).toList out.toList = 1 ∧
    renderManagedDocument document.marker body (some out) = .ok out ∧
    ∀ body', renderManagedDocument document.marker body' (some out) =
      renderManagedDocument document.marker body' existing := by
  obtain ⟨before, after, hframe, hout, hframed⟩ := render_framed h
  refine ⟨⟨String.ofList before, String.ofList after, ?_, keepsOutside hframe⟩, ?_, ?_, ?_, render_again h⟩
  · rw [hout]
    simp only [managedBlock, String.append_assoc]
  · rw [beginMarker_letters]
    exact (Brackets.framed_occurrences hframed).1
  · rw [endMarker_letters]
    exact (Brackets.framed_occurrences hframed).2
  · rw [render_again h, h]

theorem managed_block_laws_newContext :
    renderManagedDocument "CONTEXT" "b"
        (some "a\n<!-- forge-runtime:CONTEXT:begin -->\nb\n<!-- forge-runtime:CONTEXT:end -->\n") =
      .ok "a\n<!-- forge-runtime:CONTEXT:begin -->\nb\n<!-- forge-runtime:CONTEXT:end -->\n" :=
  (managed_block_laws .context " b" (some "a") _ (by decide +kernel)).2.2.2.2 "b" |>.trans (by decide +kernel)

end ForgeRuntime
