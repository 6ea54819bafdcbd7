import ForgeRuntime.Extension.AgendaHandlers

/-!
# What a step says to the model

The texts of a step are the messages that it sends and what it makes of an input.  Four kinds of steps say what other
steps do not: the build timer and an answer to a build question send the invocation of a build stage, the command
`continue` may send one again, and the end of a tool result asks for the completion after a batch of searches.

* `ExtensionStepRecord.texts` — the texts of a step;
* `result_words` — what the end of a tool result says;
* `step_kept` — what waits is a text of a Grill round or of a Deep step;
* `handler_speaks`, `step_speaks` — so is every text of any other step.
-/

namespace ForgeRuntime

open EventDriven EventDriven.Machine EventDriven.Text EventDriven.Turn Extension

variable {host : Host} {files : Files}

/-- The event is an input, or wakes one. -/
def Event.takesInput : Event → Bool
  | .input _ _ => true
  | .resume _ _ => true
  | _ => false

/-- The event is the end of a tool result. -/
def Event.endsToolResult : Event → Bool
  | .messageEnd (.toolResult _) => true
  | _ => false

/-- What the input of a step becomes, when it becomes a text. -/
def StepOutput.transformed? (output : StepOutput) : Option String := output.reply.toOption.bind Reply.transformed?

/-- **The texts for the model that leave the extension in a step**: the messages that are sent, and what an input
becomes. -/
def textsOf (st : ExtensionStepRecord) : List String :=
  st.output.effects.filterMap Effect.sentText? ++
    if st.input.event.takesInput then st.output.transformed?.toList else []

/-! ### What waits -/

/-- Every text that is kept is one of a Grill round or of a Deep step. -/
def KeepsInvocations (host : Host) (a : Agenda) : Prop := ∀ text ∈ a.keptTexts, Invocation host text

/-- And so is every text that was sent. -/
def Speaks (host : Host) (a : Agenda) : Prop := KeepsInvocations host a ∧ ∀ text ∈ a.sentTexts, Invocation host text

theorem steady_keepsInvocations (host : Host) : Steady host (KeepsInvocations host) where
  call _ _ _ ha := ha
  grillRun _ _ ha := ha
  texts _ _ _ hnew ha text htext := (hnew text (List.mem_append_left _ htext)).elim (ha text) id

theorem steady_speaks (host : Host) : Steady host (Speaks host) where
  call _ _ _ ha := ha
  grillRun _ _ ha := ha
  texts a kept sent hnew ha := by
    have hall : ∀ text ∈ kept ++ sent, Invocation host text := fun text htext => (hnew text htext).elim (ha.1 text) id
    refine ⟨fun text htext => hall text (List.mem_append_left _ htext), fun text htext => ?_⟩
    rcases List.mem_append.mp htext with hsent | hsent
    · exact ha.2 text hsent
    · exact hall text (List.mem_append_right _ hsent)

theorem clears_speaks : Clears (Speaks host) := fun _ ha => ⟨fun _ hnone => absurd hnone List.not_mem_nil, ha.2⟩

/-- **What waits stays what it is.** -/
theorem step_kept {s : ExtensionState} {o : Occurrence} (hs : KeepsInvocations host s.agenda) :
    KeepsInvocations host (extensionStep host o s).2.agenda :=
  step_holds (steady_keepsInvocations host) (fun _ _ _ ha => ha) (fun _ _ _ hnone => absurd hnone List.not_mem_nil)
    (fun _ _ _ _ _ ha => ha) (fun _ _ ha => ha) (fun _ _ ha => ha) hs

/-! ### What is sent -/

/-- The text asks for the completion after a batch of searches. -/
def AsksForCompletion (text : String) : Prop := ∃ workflow identity, text = batchInvocation workflow identity

/-- Nothing else was sent. -/
def SendsBatch (a : Agenda) : Prop := ∀ text ∈ a.sentTexts, AsksForCompletion text

theorem holds_sendBatch (workflow : ActiveWorkflowContext) (identity : DeepAttemptIdentity) :
    Holds SendsBatch (sendUserMessage (batchInvocation workflow identity)) := by
  intro s hs text htext
  rw [sendUserMessage_agenda] at htext
  rcases List.mem_append.mp htext with hsent | hsent
  · exact hs text hsent
  · exact ⟨workflow, identity, List.mem_singleton.mp hsent⟩

/-- **The end of a tool result** asks for the completion after a batch, or sends nothing. -/
theorem result_words {s : ExtensionState} {o : Occurrence} (ho : o.event.endsToolResult = true) :
    ∀ text ∈ textsOf (extensionStepAt host s o), AsksForCompletion text := by
  cases he : o.event with
  | messageEnd message =>
      cases message with
      | toolResult toolCallId =>
          have hkeeps : Holds SendsBatch (handler host o.files o.event) := by
            rw [he]
            exact holds_resultEnd (fun _ _ ha => ha) holds_sendBatch toolCallId
          intro text htext
          simp only [textsOf, extensionStepAt, stepAt, he, Event.takesInput, Bool.false_eq_true, if_false,
            List.append_nil] at htext
          exact hkeeps s.cleared (fun _ hnone => absurd hnone List.not_mem_nil) text htext
      | _ => rw [he] at ho; cases ho
  | _ => rw [he] at ho; cases ho

/-- **What a handler sends** is of a Grill round or of a Deep step, but for the build timer, the command `continue`
and the end of a tool result. -/
theorem handler_speaks {e : Event} (htimer : e ≠ .buildTimer) (hcontinue : e.continues = false)
    (hresult : e.endsToolResult = false) : Holds (Speaks host) (handler host files e) := by
  have hI := steady_speaks host
  have hask : Asks (Speaks host) := fun _ _ _ ha => ha
  have hbuild : Builds (Speaks host) := fun _ _ _ _ _ ha => ha
  cases he : e.endsMessage with
  | false =>
      refine holds_handler_of hI hask clears_speaks (keepsBuilds_of_builds hI hask hbuild) he (fun h => absurd h htimer)
        (fun _ _ _ => holds_input hI hask (holds_answerInput hI hask clears_speaks hbuild _ _)) fun h => ?_
      rw [hcontinue] at h
      cases h
  | true =>
      cases e with
      | messageEnd message =>
          refine holds_messageEnd_of hI hask clears_speaks (fun _ _ ha => ha) fun toolCallId hmessage => ?_
          rw [hmessage] at hresult
          cases hresult
      | _ => cases he

theorem step_sends {s : ExtensionState} {o : Occurrence} (hs : KeepsInvocations host s.agenda)
    (htimer : o.event ≠ .buildTimer) (hcontinue : o.event.continues = false)
    (hresult : o.event.endsToolResult = false) :
    ∀ text ∈ (extensionStep host o s).1.effects.filterMap Effect.sentText?, Invocation host text :=
  (handler_speaks htimer hcontinue hresult s.cleared ⟨hs, fun _ hnone => absurd hnone List.not_mem_nil⟩).2

/-- A step whose reply is known. -/
theorem texts_of_reply {s : ExtensionState} {o : Occurrence}
    (hsent : ∀ text ∈ (extensionStep host o s).1.effects.filterMap Effect.sentText?, Invocation host text)
    (hreply : o.event.takesInput = true → InvocationIfAny host (extensionStep host o s).1.transformed?) :
    ∀ text ∈ textsOf (extensionStepAt host s o), Invocation host text := by
  intro text htext
  rcases List.mem_append.mp htext with hmem | hmem
  · exact hsent text hmem
  · cases htakes : o.event.takesInput with
    | false =>
        rw [show (extensionStepAt host s o).input.event.takesInput = false from htakes] at hmem
        cases hmem
    | true =>
        rw [show (extensionStepAt host s o).input.event.takesInput = true from htakes] at hmem
        exact hreply htakes text (Option.mem_toList.mp hmem)

/-- What a handler returns. -/
theorem transformed_of_returns {s : ExtensionState} {o : Occurrence}
    (h : ∀ reply t, handler host o.files o.event s.cleared = (.ok reply, t) → InvocationIfAny host reply.transformed?) :
    InvocationIfAny host (extensionStep host o s).1.transformed? := by
  intro text htext
  rcases hrun : handler host o.files o.event s.cleared with ⟨error | reply, t⟩
  · rw [extensionStep_eq hrun] at htext
    cases htext
  · rw [extensionStep_eq hrun] at htext
    exact h reply t hrun text htext

/-- **What any other step says** is a text of a Grill round or of a Deep step. -/
theorem step_speaks {s : ExtensionState} {o : Occurrence} (hs : KeepsInvocations host s.agenda)
    (htimer : o.event ≠ .buildTimer) (hcontinue : o.event.continues = false)
    (hresult : o.event.endsToolResult = false) (hinput : ∀ rawText ctx, o.event ≠ .input rawText ctx) :
    ∀ text ∈ textsOf (extensionStepAt host s o), Invocation host text := by
  refine texts_of_reply (step_sends hs htimer hcontinue hresult) fun htakes => ?_
  cases he : o.event with
  | input rawText ctx => exact absurd he (hinput rawText ctx)
  | resume index settlement =>
      refine transformed_of_returns fun reply t hrun => ?_
      rw [he] at hrun
      exact returns_resume index settlement s.cleared reply t hrun
  | _ => rw [he] at htakes; cases htakes

end ForgeRuntime
