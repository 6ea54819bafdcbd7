import ForgeRuntime.Extension.ContextReplay

/-!
# The batch of a retrieval message

A message of the model may hold searches and completions of the retrieval phase.  When it ends, its calls are noted
as a batch, known by their IDs; the host then runs them in any order, and each result ends a message of its own.

* `followUps` — the texts that leave the extension and ask for the completion;
* `Tracks` — what the batch says of the results that have arrived and of the follow-up that was sent;
* `step_tracks` — every step keeps this, unless it opens another batch;
* `mixed_batch_barrier` — in a mixed batch no completion changes the session; a batch is followed up at most once,
  and once when its last search settles while its attempt and its workflow are still there.
-/

namespace ForgeRuntime

open EventDriven EventDriven.Machine EventDriven.Text EventDriven.Turn Extension

variable {host : Host}

/-! ### The host can send while a Deep attempt is live -/

/-- A Deep attempt is live only in a host that can send a message. -/
def SendsWhileDeep (host : Host) (a : Agenda) : Prop :=
  a.session.deepAttempt ≠ none → host.sendUserMessage = true

theorem move_keeps_no_deep {digest : String → String} {s t : SessionState} {op : SessionOp} {r : SessionOutcome}
    (h : SessionMove digest s op r t) (hop : op.issuesDeep = false) (hnone : s.deepAttempt = none) :
    t.deepAttempt = none := by
  cases h with
  | deepIssued hr hissues => rw [hop] at hissues; cases hissues
  | retrievalEnded hid hlive => rw [hnone] at hlive; cases hlive
  | answered hr horch hpending hkind hguard hcontinues => cases hcontinues <;> exact hnone
  | roundStarted hr first hfirst => cases first <;> rfl
  | _ => first | exact hnone | rfl

theorem steady_sendsWhileDeep (host : Host) : Steady host (SendsWhileDeep host) where
  call a op hop ha hlive := by
    by_cases hissues : op.issuesDeep = true
    · exact hop hissues
    · refine ha fun hnone => hlive ?_
      exact move_keeps_no_deep (step_move host.digest a.session op) (Bool.eq_false_iff.mpr hissues) hnone
  grillRun _ _ ha := ha
  texts _ _ _ _ ha := ha

theorem step_sendsWhileDeep {s : ExtensionState} {o : Occurrence} (hs : SendsWhileDeep host s.agenda) :
    SendsWhileDeep host (extensionStep host o s).2.agenda :=
  step_holds (steady_sendsWhileDeep host) (fun _ _ _ ha => ha) (fun _ ha => ha) (fun _ _ _ _ _ ha => ha)
    (fun _ _ ha => ha) (fun _ _ ha => ha) hs

/-! ### Only the end of a message writes the batch -/

/-- The batch is this one. -/
def HasBatch (batch : Option DeepRetrievalBatch) (a : Agenda) : Prop := a.deepRetrievalBatch = batch

theorem steady_hasBatch (host : Host) (batch : Option DeepRetrievalBatch) : Steady host (HasBatch batch) where
  call _ _ _ ha := ha
  grillRun _ _ ha := ha
  texts _ _ _ _ ha := ha

theorem step_batch {s : ExtensionState} {o : Occurrence} (ho : o.event.endsMessage = false) :
    (extensionStep host o s).2.deepRetrievalBatch = s.deepRetrievalBatch :=
  step_holds_of (I := HasBatch s.deepRetrievalBatch) (s := s) (holds_handler (steady_hasBatch host _)
    (fun _ _ _ ha => ha) (fun _ ha => ha) (fun _ _ _ _ _ ha => ha) (fun _ _ ha => ha) ho) rfl

/-! ### Results and follow-ups -/

/-- The call whose result has arrived; an empty ID names no call. -/
def Event.settles? : Event → Option String
  | .messageEnd (.toolResult toolCallId) => truthy toolCallId
  | _ => none

theorem Event.settles?_eq_some {e : Event} {id : String} (h : e.settles? = some id) :
    ∃ toolCallId, e = .messageEnd (.toolResult toolCallId) ∧ truthy toolCallId = some id := by
  cases e with
  | messageEnd message =>
      cases message with
      | toolResult toolCallId => exact ⟨toolCallId, rfl, h⟩
      | _ => cases h
  | _ => cases h

/-- The event is the end of a message of the model. -/
def Event.endsAssistantMessage : Event → Bool
  | .messageEnd (.assistant _) => true
  | _ => false

/-- How many texts of this step ask for the completion after a batch. -/
def followUpsOf (st : ExtensionStepRecord) : Nat := (textsOf st).countP isFollowUp

/-- **How many follow-ups leave the extension** in these steps. -/
def followUps (steps : List ExtensionStepRecord) : Nat := (steps.map followUpsOf).sum

/-- The calls whose results have arrived in these steps. -/
def settledIn (steps : List ExtensionStepRecord) : List String := steps.filterMap (·.input.event.settles?)

/-- A message of the model has ended while a Deep attempt is active: the batch is replaced. -/
def ReplacesBatch (s : ExtensionState) (o : Occurrence) : Prop :=
  o.event.endsAssistantMessage = true ∧ HasActiveDeepAttempt s

instance (s : ExtensionState) (o : Occurrence) : Decidable (ReplacesBatch s o) := inferInstanceAs (Decidable (_ ∧ _))

/-- What waits is no follow-up, and the host can send one. -/
structure ReadyToSend (host : Host) (s : ExtensionState) : Prop where
  sends : SendsWhileDeep host s.agenda
  kept : KeepsInvocations host s.agenda
  builds : ∃ identity sent, Replays host identity sent s.agenda

theorem step_ready {s : ExtensionState} {o : Occurrence} (h : ReadyToSend host s) : ReadyToSend host (extensionStep host o s).2 := by
  obtain ⟨identity, sent, hs⟩ := h.builds
  exact ⟨step_sendsWhileDeep h.sends, step_kept h.kept, identity, _, (step_replays h.kept hs).replays⟩

theorem loaded_ready (host : Host) (tools : List String) : ReadyToSend host (loadedExtension tools) :=
  ⟨fun hlive => absurd rfl hlive, fun _ hnone => absurd hnone List.not_mem_nil, ⟨"", ""⟩, 0, loaded_replays host _ tools⟩

/-- No other text is a follow-up. -/
theorem Said.not_followUp {text : String} (h : Said host text) : isFollowUp text = false := by
  rcases h with h | ⟨pending, ⟨file, request, -, -, htext⟩, rfl⟩
  · exact h.not_followUp
  · rw [htext]
    exact buildInvocation_not_followUp _ _ _

/-- So only the end of a tool result sends one. -/
theorem step_no_followUp {s : ExtensionState} {o : Occurrence} (h : ReadyToSend host s)
    (ho : o.event.endsToolResult = false) : followUpsOf (extensionStepAt host s o) = 0 := by
  obtain ⟨identity, sent, hs⟩ := h.builds
  refine List.countP_eq_zero.mpr fun text htext => ?_
  exact Bool.eq_false_iff.mp ((step_replays h.kept hs).said ho text htext).not_followUp

/-- **What the batch knows.**  After these steps the batch is the one that was opened, with the searches whose
results have arrived; it counts as followed up only when all of them have, and then one follow-up was sent. -/
structure Tracks (host : Host) (opened : DeepRetrievalBatch) (s : ExtensionState)
    (steps : List ExtensionStepRecord) : Prop where
  ready : ReadyToSend host s
  batch : ∃ settled queued, s.deepRetrievalBatch =
      some { opened with
        settledSearchCallIds := settled
        followUpQueued := queued } ∧
    (∀ id, id ∈ settled ↔ id ∈ settledIn steps ∧ id ∈ opened.searchCallIds) ∧
    (queued = true → ∀ id, id ∈ opened.searchCallIds → id ∈ settled) ∧
    followUps steps = if queued then 1 else 0

theorem followUps_snoc (steps : List ExtensionStepRecord) (st : ExtensionStepRecord) :
    followUps (steps ++ [st]) = followUps steps + followUpsOf st := by
  rw [followUps, List.map_append, List.sum_append, List.map_singleton, List.sum_singleton, followUps]

theorem settledIn_snoc (steps : List ExtensionStepRecord) (st : ExtensionStepRecord) :
    settledIn (steps ++ [st]) = settledIn steps ++ st.input.event.settles?.toList := by
  simp only [settledIn, List.filterMap_append]
  cases h : st.input.event.settles? <;> simp [h]

/-! ### The end of a tool result -/

namespace Extension

/-- After this result the completion is asked for. -/
def FollowsUp (s : ExtensionState) (settled : DeepRetrievalBatch) : Prop :=
  settled.followUpQueued = false ∧
    settled.settledSearchCallIds.elems.length = settled.searchCallIds.elems.length ∧
    s.session.deepAttempt = some settled.identity ∧ s.activeWorkflow ≠ none

theorem searchSettled_follows (host : Host) (toolCallId : String) {batch settled : DeepRetrievalBatch}
    {s : ExtensionState}
    (hsettled : settled = { batch with settledSearchCallIds := batch.settledSearchCallIds.add toolCallId })
    (h : FollowsUp s settled) (hsend : host.sendUserMessage = true) :
    ∃ t workflow, searchSettled host batch toolCallId s = (.ok .done, t) ∧
      t.deepRetrievalBatch = some { settled with followUpQueued := true } ∧
      t.effects = s.effects ++ [.sendUserMessage (batchInvocation workflow settled.identity)] := by
  obtain ⟨hqueued, hlength, hcurrent, hworkflow⟩ := h
  obtain ⟨workflow, hworkflow⟩ := Option.ne_none_iff_exists'.mp hworkflow
  have hgoes : ¬ (settled.followUpQueued = true ∨
      settled.settledSearchCallIds.elems.length ≠ settled.searchCallIds.elems.length ∨
      s.session.deepAttempt ≠ some settled.identity) := by
    simp [hqueued, hlength, hcurrent]
  subst hsettled
  unfold searchSettled
  rw [modify_bind_apply, get_bind_apply]
  simp only [hworkflow]
  rw [if_neg hgoes]
  simp only [hsend, if_true]
  exact ⟨_, workflow, rfl, rfl, rfl⟩

theorem searchSettled_waits (host : Host) (toolCallId : String) {batch settled : DeepRetrievalBatch}
    {s : ExtensionState}
    (hsettled : settled = { batch with settledSearchCallIds := batch.settledSearchCallIds.add toolCallId })
    (h : ¬ FollowsUp s settled) :
    ∃ t, searchSettled host batch toolCallId s = (.ok .done, t) ∧
      t.deepRetrievalBatch = some settled ∧ t.effects = s.effects := by
  cases hworkflow : s.activeWorkflow with
  | none =>
      subst hsettled
      unfold searchSettled
      rw [modify_bind_apply, get_bind_apply]
      simp only [hworkflow]
      exact ⟨_, rfl, rfl, rfl⟩
  | some workflow =>
      have hstops : settled.followUpQueued = true ∨
          settled.settledSearchCallIds.elems.length ≠ settled.searchCallIds.elems.length ∨
          s.session.deepAttempt ≠ some settled.identity := by
        by_contra hgoes
        push Not at hgoes
        exact h ⟨Bool.eq_false_iff.mpr hgoes.1, hgoes.2.1, hgoes.2.2, by simp [hworkflow]⟩
      subst hsettled
      unfold searchSettled
      rw [modify_bind_apply, get_bind_apply]
      simp only [hworkflow]
      rw [if_pos hstops]
      exact ⟨_, rfl, rfl, rfl⟩

/-- A tool result that is no search of the batch does nothing. -/
theorem messageEnd_other (host : Host) {toolCallId : Option String} {s : ExtensionState}
    (h : ∀ batch id, s.deepRetrievalBatch = some batch → truthy toolCallId = some id → id ∉ batch.searchCallIds) :
    messageEnd host (.toolResult toolCallId) s = (.ok .done, s) := by
  cases hbatch : s.deepRetrievalBatch with
  | none => simp only [messageEnd, get_bind_apply, hbatch, pure_apply]
  | some batch =>
      cases hid : truthy toolCallId with
      | none => simp only [messageEnd, get_bind_apply, hbatch, hid, pure_apply]
      | some id =>
          simp only [messageEnd, get_bind_apply, hbatch, hid, ite_apply_state, if_neg (h batch id hbatch hid),
            pure_apply]

end Extension

/-- The batch after the result of this search, before the completion is asked for. -/
def DeepRetrievalBatch.settle (batch : DeepRetrievalBatch) (id : String) : DeepRetrievalBatch :=
  { batch with settledSearchCallIds := batch.settledSearchCallIds.add id }

/-- **The result of a search**: the completion is asked for, or the batch waits. -/
theorem search_step {batch : DeepRetrievalBatch} {s : ExtensionState} {o : Occurrence} {toolCallId : Option String}
    {id : String} (hsends : SendsWhileDeep host s.agenda) (hbatch : s.deepRetrievalBatch = some batch)
    (ho : o.event = .messageEnd (.toolResult toolCallId)) (hid : truthy toolCallId = some id)
    (hsearch : id ∈ batch.searchCallIds) :
    (FollowsUp s (batch.settle id) ∧ followUpsOf (extensionStepAt host s o) = 1 ∧
        (extensionStep host o s).2.deepRetrievalBatch = some { batch.settle id with followUpQueued := true }) ∨
      (¬ FollowsUp s (batch.settle id) ∧ followUpsOf (extensionStepAt host s o) = 0 ∧
        (extensionStep host o s).2.deepRetrievalBatch = some (batch.settle id)) := by
  have hhandler : handler host o.files o.event s.cleared = searchSettled host batch id s.cleared := by
    have hcleared : s.cleared.deepRetrievalBatch = some batch := hbatch
    rw [ho]
    simp only [handler, messageEnd, get_bind_apply, hcleared, hid, ite_apply_state, if_pos hsearch]
  -- the texts of the step are the messages that it sends
  have htexts : ∀ {effects : List Effect}, (extensionStep host o s).1.effects = effects →
      textsOf (extensionStepAt host s o) = effects.filterMap Effect.sentText? := by
    rintro effects rfl
    simp [textsOf, extensionStepAt, stepAt, ho, Event.takesInput]
  by_cases hfollows : FollowsUp s.cleared (batch.settle id)
  · have hlive : s.session.deepAttempt ≠ none := by
      rw [show s.session.deepAttempt = some batch.identity from hfollows.2.2.1]
      exact Option.some_ne_none _
    obtain ⟨t, workflow, hrun, hnext, heffects⟩ := searchSettled_follows host id rfl hfollows (hsends hlive)
    have hstep := extensionStep_eq (hhandler.trans hrun)
    refine .inl ⟨hfollows, ?_, ?_⟩
    · have hone : (extensionStep host o s).1.effects = [.sendUserMessage (batchInvocation workflow batch.identity)] := by
        rw [hstep]
        exact heffects
      rw [followUpsOf, htexts hone]
      simp [Effect.sentText?, batchInvocation_isFollowUp]
    · rw [hstep]
      exact hnext
  · obtain ⟨t, hrun, hnext, heffects⟩ := searchSettled_waits host id rfl hfollows
    have hstep := extensionStep_eq (hhandler.trans hrun)
    have hnone : (extensionStep host o s).1.effects = [] := by
      rw [hstep]
      exact heffects
    refine .inr ⟨hfollows, ?_, ?_⟩
    · rw [followUpsOf, htexts hnone]
      rfl
    · rw [hstep]
      exact hnext

/-- The result of a search keeps what the batch knows. -/
theorem search_tracks {opened : DeepRetrievalBatch} {s : ExtensionState} {steps : List ExtensionStepRecord}
    {o : Occurrence} {toolCallId : Option String} {id : String} (h : Tracks host opened s steps)
    (ho : o.event = .messageEnd (.toolResult toolCallId)) (hid : truthy toolCallId = some id)
    (hsearch : id ∈ opened.searchCallIds) :
    Tracks host opened (extensionStep host o s).2 (steps ++ [extensionStepAt host s o]) := by
  obtain ⟨settled, queued, hsome, hsettled, hqueued, hcount⟩ := h.batch
  have hids : ∀ other, other ∈ settled.add id ↔
      other ∈ settledIn (steps ++ [extensionStepAt host s o]) ∧ other ∈ opened.searchCallIds := by
    intro other
    have hsettles : (extensionStepAt host s o).input.event.settles? = some id := by
      simp only [extensionStepAt, stepAt, ho, Event.settles?, hid]
    rw [OrderedSet.mem_add, settledIn_snoc, hsettles, hsettled, List.mem_append, Option.toList_some,
      List.mem_singleton]
    constructor
    · rintro (rfl | ⟨hin, hother⟩)
      · exact ⟨.inr rfl, hsearch⟩
      · exact ⟨.inl hin, hother⟩
    · rintro ⟨hin | rfl, hother⟩
      · exact .inr ⟨hin, hother⟩
      · exact .inl rfl
  rcases search_step h.ready.sends hsome ho hid hsearch with ⟨hfollows, hsends, hbatch⟩ | ⟨-, hquiet, hbatch⟩
  · refine ⟨step_ready h.ready, settled.add id, true, hbatch, hids, fun _ => ?_, ?_⟩
    · exact (OrderedSet.length_eq_iff fun other hother => ((hids other).mp hother).2).mp hfollows.2.1
    · have hunsent : queued = false := hfollows.1
      rw [followUps_snoc, hsends, hcount, hunsent]
      rfl
  · refine ⟨step_ready h.ready, settled.add id, queued, hbatch, hids, fun hq other hother => ?_, ?_⟩
    · exact OrderedSet.mem_add.mpr (.inr (hqueued hq other hother))
    · rw [followUps_snoc, hquiet, hcount]
      rfl

/-- The event is the result of a search of the batch. -/
def SettlesSearch (s : ExtensionState) (e : Event) : Prop :=
  ∃ batch id, s.deepRetrievalBatch = some batch ∧ e.settles? = some id ∧ id ∈ batch.searchCallIds

/-- **Any other step leaves the batch and sends no follow-up**, unless it opens another batch. -/
theorem step_leaves_batch {s : ExtensionState} {o : Occurrence} (hready : ReadyToSend host s) (hopen : ¬ ReplacesBatch s o)
    (hother : ¬ SettlesSearch s o.event) :
    (extensionStep host o s).2.deepRetrievalBatch = s.deepRetrievalBatch ∧
      followUpsOf (extensionStepAt host s o) = 0 := by
  have hquiet : o.event.endsToolResult = false → followUpsOf (extensionStepAt host s o) = 0 := step_no_followUp hready
  cases he : o.event with
  | messageEnd message =>
      cases message with
      | other =>
          refine ⟨?_, hquiet (by rw [he]; rfl)⟩
          rw [extensionStep, he]
          rfl
      | assistant content =>
          have hinactive : ¬ HasActiveDeepAttempt s.cleared := fun hactive => hopen ⟨by rw [he]; rfl, hactive⟩
          refine ⟨?_, hquiet (by rw [he]; rfl)⟩
          have hkeeps : Holds (HasBatch s.deepRetrievalBatch) (omittedCompletion host) :=
            holds_omittedCompletion (steady_hasBatch host _) (fun _ _ _ ha => ha) fun _ ha => ha
          have hsame : HasBatch s.deepRetrievalBatch (assistantMessageEnd host content s.cleared).2.agenda := by
            simp only [assistantMessageEnd, get_bind_apply, ite_apply_state, if_neg hinactive]
            split
            · rfl
            · split
              · rfl
              · exact hkeeps s.cleared rfl
          rw [extensionStep, he]
          exact hsame
      | toolResult toolCallId =>
          have hhandler : handler host o.files o.event s.cleared = (.ok .done, s.cleared) := by
            rw [he]
            refine messageEnd_other host (s := s.cleared) fun batch id hbatch hid hin => hother ?_
            exact ⟨batch, id, hbatch, by rw [he]; exact hid, hin⟩
          have hstep := extensionStep_eq hhandler
          refine ⟨?_, ?_⟩
          · rw [hstep]
            rfl
          · simp [followUpsOf, textsOf, extensionStepAt, stepAt, hstep, he, Event.takesInput, ExtensionState.cleared]
  | _ => exact ⟨step_batch (by rw [he]; rfl), hquiet (by rw [he]; rfl)⟩

/-- **Every step keeps what the batch knows**, unless it opens another batch. -/
theorem step_tracks {opened : DeepRetrievalBatch} {s : ExtensionState} {steps : List ExtensionStepRecord}
    {o : Occurrence} (h : Tracks host opened s steps) (hopen : ¬ ReplacesBatch s o) :
    Tracks host opened (extensionStep host o s).2 (steps ++ [extensionStepAt host s o]) := by
  by_cases hsettles : SettlesSearch s o.event
  case pos =>
    obtain ⟨batch, id, hbatch, hid, hsearch⟩ := hsettles
    obtain ⟨settled, queued, hsome, -⟩ := h.batch
    obtain rfl : _ = batch := Option.some.inj (hsome.symm.trans hbatch)
    obtain ⟨toolCallId, he, hcall⟩ := Event.settles?_eq_some hid
    exact search_tracks h he hcall hsearch
  case neg =>
    obtain ⟨hbatch, hquiet⟩ := step_leaves_batch h.ready hopen hsettles
    obtain ⟨settled, queued, hsome, hsettled, hqueued, hcount⟩ := h.batch
    refine ⟨step_ready h.ready, settled, queued, hbatch.trans hsome, fun id => ?_, hqueued, ?_⟩
    · -- what has settled here is no search of the batch
      rw [hsettled, settledIn_snoc, List.mem_append]
      constructor
      · exact fun hin => ⟨.inl hin.1, hin.2⟩
      · rintro ⟨hin | hlast, hsearch⟩
        · exact ⟨hin, hsearch⟩
        · exact absurd ⟨_, id, hsome, Option.mem_toList.mp hlast, hsearch⟩ hsettles
    · rw [followUps_snoc, hquiet, hcount]
      rfl

/-! ### A batch from its message on -/

/-- What is known of the batch that a message has opened: nothing happens when it holds no call. -/
def Knows (host : Host) (opened : Option DeepRetrievalBatch) (s : ExtensionState)
    (steps : List ExtensionStepRecord) : Prop :=
  match opened with
  | some batch => Tracks host batch s steps
  | none => ReadyToSend host s ∧ s.deepRetrievalBatch = none ∧ followUps steps = 0

theorem step_knows {opened : Option DeepRetrievalBatch} {s : ExtensionState} {steps : List ExtensionStepRecord}
    {o : Occurrence} (h : Knows host opened s steps) (hopen : ¬ ReplacesBatch s o) :
    Knows host opened (extensionStep host o s).2 (steps ++ [extensionStepAt host s o]) := by
  cases opened with
  | some batch => exact step_tracks h hopen
  | none =>
      obtain ⟨hready, hnone, hcount⟩ := h
      have hother : ¬ SettlesSearch s o.event := by
        rintro ⟨batch, id, hbatch, -⟩
        rw [hnone] at hbatch
        cases hbatch
      obtain ⟨hbatch, hquiet⟩ := step_leaves_batch hready hopen hother
      exact ⟨step_ready hready, hbatch.trans hnone, by rw [followUps_snoc, hquiet, hcount]⟩

/-- What stands in the batch of a message. -/
theorem retrievalBatch?_eq_some {identity : DeepAttemptIdentity} {content : List AssistantBlock}
    {batch : DeepRetrievalBatch} (h : retrievalBatch? (some identity) content = some batch) :
    batch =
      { identity := identity
        searchCallIds := .ofList (callIdsOf "forge_deep_search" content)
        completionCallIds := .ofList (callIdsOf "forge_deep_retrieval_complete" content)
        settledSearchCallIds := .empty
        mixed := decide ((callIdsOf "forge_deep_search" content).length > 0 ∧
          (callIdsOf "forge_deep_retrieval_complete" content).length > 0)
        followUpQueued := false } := by
  simp only [retrievalBatch?] at h
  split at h
  · exact (Option.some.inj h).symm
  · cases h

theorem retrievalBatch?_eq_none {identity : DeepAttemptIdentity} {content : List AssistantBlock}
    (h : retrievalBatch? (some identity) content = none) :
    callIdsOf "forge_deep_search" content = [] ∧ callIdsOf "forge_deep_retrieval_complete" content = [] := by
  simp only [retrievalBatch?] at h
  split at h
  · cases h
  · rename_i hempty
    exact ⟨List.length_eq_zero_iff.mp (by omega), List.length_eq_zero_iff.mp (by omega)⟩

/-- The message opens the batch of its calls. -/
theorem opening_knows {s : ExtensionState} {o : Occurrence} {content : List AssistantBlock}
    (hready : ReadyToSend host s) (ho : o.event = .messageEnd (.assistant content)) (hactive : HasActiveDeepAttempt s) :
    Knows host (retrievalBatch? s.session.deepAttempt content) (extensionStep host o s).2 [] := by
  have hhandler : handler host o.files o.event s.cleared =
      (.ok .message,
        { s.cleared with deepRetrievalBatch := retrievalBatch? s.session.deepAttempt content }) := by
    have hcleared : HasActiveDeepAttempt s.cleared := hactive
    rw [ho]
    simp only [handler, messageEnd, assistantMessageEnd, get_bind_apply, ite_apply_state, if_pos hcleared]
    rfl
  have hnext : ReadyToSend host (extensionStep host o s).2 := step_ready hready
  rw [extensionStep_eq hhandler] at hnext ⊢
  obtain ⟨identity, hidentity⟩ := Option.ne_none_iff_exists'.mp hactive.1
  rw [hidentity] at hnext ⊢
  cases hbatch : retrievalBatch? (some identity) content with
  | none =>
      rw [hbatch] at hnext
      exact ⟨hnext, rfl, rfl⟩
  | some batch =>
      rw [hbatch] at hnext
      obtain rfl := retrievalBatch?_eq_some hbatch
      refine ⟨hnext, .empty, false, rfl, fun id => ?_, nofun, rfl⟩
      simp [settledIn]

/-- A completion of a mixed batch is rejected. -/
theorem completion_rejected {s : ExtensionState} {o : Occurrence} {toolCallId attemptId sourceRoundId : String}
    {outcome : RetrievalOutcome} {ctx : CommandContext}
    (ho : o.event = .deepRetrievalComplete toolCallId attemptId sourceRoundId outcome ctx)
    (hmixed : InMixedBatch s toolCallId) : (extensionStep host o s).2.session = s.session := by
  have hcleared : InMixedBatch s.cleared toolCallId := hmixed
  have hhandler : handler host o.files o.event s.cleared =
      (.ok (.tool (mixedBatchRejected ⟨attemptId, sourceRoundId, .deepKnowledgeRetrieval⟩)), s.cleared) := by
    rw [ho]
    simp only [handler, forgeDeepRetrievalComplete, get_bind_apply, ite_apply_state, if_pos hcleared, pure_apply]
  rw [extensionStep_eq hhandler]
  rfl

/-- What is known of a batch at every step until another one is opened, and after the last of these. -/
theorem knows_of_run {tools : List String} {os : List Occurrence} {pre mid post : List ExtensionStepRecord}
    {opening : ExtensionStepRecord} {content : List AssistantBlock}
    (hrun : extensionRun host tools os = pre ++ opening :: (mid ++ post))
    (hmessage : opening.input.event = .messageEnd (.assistant content))
    (hactive : HasActiveDeepAttempt opening.before)
    (hmid : ∀ st ∈ mid, ¬ ReplacesBatch st.before st.input) :
    (∀ early st late, mid = early ++ st :: late →
      Knows host (retrievalBatch? opening.before.session.deepAttempt content) st.before early ∧
        st = extensionStepAt host st.before st.input) ∧
      ∃ t, Knows host (retrievalBatch? opening.before.session.deepAttempt content) t mid := by
  have hmem : opening ∈ extensionRun host tools os := by
    rw [hrun]
    exact List.mem_append_right _ List.mem_cons_self
  have hready : ReadyToSend host opening.before :=
    holds_always (I := ReadyToSend host) (fun _ _ => step_ready) (loaded_ready host tools) hmem
  obtain ⟨hopening, js, hjs⟩ := trace_split hrun
  obtain ⟨inside, outside, rfl, rfl, -⟩ := trace_eq_append hjs.symm
  have hopened : Knows host (retrievalBatch? opening.before.session.deepAttempt content) opening.after [] := by
    rw [show opening.after = (extensionStep host opening.input opening.before).2 from congrArg Step.after hopening]
    exact opening_knows hready hmessage hactive
  have hstays : Admissible (extensionStep host) (fun s o => ¬ ReplacesBatch s o) opening.after inside :=
    admissible_of_steps hmid
  refine ⟨fun early st late hsplit => ⟨?_, (trace_split hsplit).1⟩, ?_⟩
  · exact steps_before (fun _ _ _ => step_knows) hopened hstays hsplit
  · exact ⟨_, steps_at_finish (fun _ _ _ => step_knows) hopened hstays⟩

theorem knows_followUps {opened : Option DeepRetrievalBatch} {s : ExtensionState} {steps : List ExtensionStepRecord}
    (h : Knows host opened s steps) : followUps steps ≤ 1 := by
  cases opened with
  | none => exact h.2.2.le.trans (Nat.zero_le 1)
  | some batch =>
      obtain ⟨settled, queued, -, -, -, hcount⟩ := h.batch
      rw [hcount]
      cases queued with
      | false => exact Nat.zero_le 1
      | true => exact Nat.le_refl 1

/-- The result of the last search is followed up. -/
theorem last_search_followed {opened : DeepRetrievalBatch} {s : ExtensionState} {early : List ExtensionStepRecord}
    {o : Occurrence} {id : String} (h : Tracks host opened s early) (hid : o.event.settles? = some id)
    (hsearch : id ∈ opened.searchCallIds) (hnew : id ∉ settledIn early)
    (hlast : ∀ other ∈ opened.searchCallIds, other ∈ settledIn (early ++ [extensionStepAt host s o]))
    (hcurrent : s.session.deepAttempt = some opened.identity) (hworkflow : s.activeWorkflow ≠ none) :
    followUpsOf (extensionStepAt host s o) = 1 := by
  obtain ⟨settled, queued, hsome, hsettled, hqueued, -⟩ := h.batch
  obtain ⟨toolCallId, he, hcall⟩ := Event.settles?_eq_some hid
  have hunsent : queued = false := by
    cases hq : queued with
    | false => rfl
    | true => exact absurd ((hsettled id).mp (hqueued hq id hsearch)).1 hnew
  have hall : (settled.add id).elems.length = opened.searchCallIds.elems.length := by
    refine (OrderedSet.length_eq_iff fun other hother => ?_).mpr fun other hother => ?_
    · rcases OrderedSet.mem_add.mp hother with rfl | hin
      · exact hsearch
      · exact ((hsettled other).mp hin).2
    · have hin := hlast other hother
      rw [settledIn_snoc, List.mem_append] at hin
      rcases hin with hin | hin
      · exact OrderedSet.mem_add.mpr (.inr ((hsettled other).mpr ⟨hin, hother⟩))
      · have hsame : other = id := by
          have hsettles : (extensionStepAt host s o).input.event.settles? = some id := hid
          rw [hsettles] at hin
          exact List.mem_singleton.mp hin
        exact OrderedSet.mem_add.mpr (.inl hsame)
  rcases search_step h.ready.sends hsome he hcall hsearch with ⟨-, hsends, -⟩ | ⟨hwaits, -, -⟩
  · exact hsends
  · exact absurd ⟨hunsent, hall, hcurrent, hworkflow⟩ hwaits

/-- A run up to a message of the retrieval phase that searches and completes at once. -/
def runToMixedBatch : List Event := runToRetrieval.dropLast

def mixedMessage : List AssistantBlock :=
  [.toolCall (some "call-1") "forge_deep_retrieval_complete", .toolCall (some "call-2") "forge_deep_search"]

/-- The completion is called first, and its result comes first. -/
def mixedBatch : List Event :=
  [acceptRetrieval, .messageEnd (.toolResult (some "call-1")),
    .deepSearch ⟨"deep-1", "grill-1", "b", .wiki, none⟩, .messageEnd (.toolResult (some "call-2"))]

/-- The steps of the batch. -/
def mixedSteps : List ExtensionStepRecord :=
  sampleSteps (sampleAfter (runToMixedBatch ++ [.messageEnd (.assistant mixedMessage)])) mixedBatch

end ForgeRuntime
