import ForgeRuntime.Extension.BuildTools
import ForgeRuntime.Extension.Commands
import ForgeRuntime.Extension.DeepTools
import ForgeRuntime.Lib.Machine

/-!
# The extension as a machine

`Event` is everything that can reach the extension: the calls of its tools, the events of the host, the
command, its timers, and what the suspended code is woken with.  Events arrive in any order, and a suspended
piece of code may be woken at any time, so a run of the machine is an interleaving.

A step answers with what the handler returned or threw, the calls of the session it made, and its effects.
-/

namespace ForgeRuntime

open EventDriven EventDriven.Text

/-- Everything that can reach the extension. -/
inductive Event where
  | grillEvidence (candidateId : String)
  | grillComplete (payload : Json String) (ctx : CommandContext)
  | deepSearch (params : DeepSearchParams)
  | deepRetrievalComplete (toolCallId attemptId sourceRoundId : String) (outcome : RetrievalOutcome)
      (ctx : CommandContext)
  | deepComplete (toolCallId attemptId sourceRoundId : String) (outcome : UnderstandingOutcome)
      (ctx : CommandContext)
  | contextComplete (attemptId sourceRoundId : String) (outcome : ContextBuildCompletion)
      (ctx : CommandContext)
  | adrComplete (attemptId sourceRoundId : String) (outcome : AdrOutcome) (ctx : CommandContext)
  | toolCall (toolName : String)
  | toolResult (toolCallId toolName : String) (isError : Option Bool)
  | messageStart (texts : List String)
  | messageEnd (message : EndedMessage)
  | agentSettled
  | discoveryTimer
  | buildTimer
  | deepTimer
  | input (rawText : String) (ctx : CommandContext)
  | command (args : String) (ctx : CommandContext)
  | resume (index : Nat) (settlement : Settlement)

namespace Extension

variable (host : Host) (files : Files)

/-! ### Waking suspended code -/

/-- The selector or editor is closed: its question is released and the caller returns. -/
def closeUi (ui : OpenUi) : Ext Reply := do
  releaseUiLease ui.leaseKey
  match ui.reply with
  | some result => return .tool result
  | none => return .done

/-- What an error inside a UI comes to: the question is released, and the caller reports the error or
throws it. -/
def failUi (ui : OpenUi) (error : String) : Ext Reply := do
  releaseUiLease ui.leaseKey
  if ui.catches then
    notify (waitUserUiFailure error)
    match ui.reply with
    | some result => return .tool result
    | none => return .done
  else
    throw error

/-- The answer of a UI goes to `resumeWaitUserAnswer`. -/
def submitUiAnswer (ui : OpenUi) (answer : String) : Ext Reply := do
  match ← Turn.attempt (resumeWaitUserAnswer host files answer ui.ctx) with
  | .error error => failUi ui error
  | .ok .sending => do
      modify fun s => { s with suspended := s.suspended ++ [.answerSent ui] }
      return .waiting
  | .ok _ => closeUi ui

/-- The selector again, after an editor that was left empty. -/
def reopenSelector (ui : OpenUi) : Ext Reply := do
  openSelector { ui with editing := false }
  return .waiting

def openEditor (ui : OpenUi) : Ext Reply := do
  emit .custom
  modify fun s => { s with suspended := s.suspended ++ [.ui { ui with editing := true }] }
  return .waiting

/-- What the user chose or wrote. -/
def uiSelection (ui : OpenUi) (selection : Option String) : Ext Reply :=
  match ui.editing, selection with
  | false, none => closeUi ui
  | false, some choice =>
      if choice = runtimeOwnedInputLabel then
        if ui.ctx.custom then openEditor ui else closeUi ui
      else submitUiAnswer host files ui choice
  | true, none => reopenSelector ui
  | true, some answer =>
      if Blank answer then reopenSelector ui else submitUiAnswer host files ui (trim answer)

/-- Wake a suspended piece of code.  A settlement of another kind than the one it waits for cannot come. -/
def wake : Suspension → Settlement → Ext Reply
  | .ui ui, .selection selection => uiSelection host files ui selection
  | .ui ui, .thrown error => failUi ui error
  | .answerSent ui, .sent => closeUi ui
  | .answerSent ui, .thrown error => failUi ui error
  | .omissionNotice, .sent => endOmission host
  | .omissionNotice, .thrown error => throw error
  | .intent canonicalRequest rootDir _, .route startForge =>
      if startForge then startFromInput host files canonicalRequest rootDir else return .continue_
  | .newSession, .switched cancelled =>
      if cancelled then publishCurrent
      else do
        leaveWorkflow host
        return .done
  | .newSession, .thrown error => throw error
  | .grillResultSent, .sent => do
      refreshPendingGrillRun
      return .done
  | .grillResultSent, .thrown error => throw error
  | _, _ => return .done

/-- Does a suspended piece of code wait for this kind of settlement? -/
def Suspension.Awaits : Suspension → Settlement → Bool
  | .ui _, .selection _ | .ui _, .thrown _ => true
  | .answerSent _, .sent | .answerSent _, .thrown _ => true
  | .omissionNotice, .sent | .omissionNotice, .thrown _ => true
  | .intent _ _ _, .route _ => true
  | .newSession, .switched _ | .newSession, .thrown _ => true
  | .grillResultSent, .sent | .grillResultSent, .thrown _ => true
  | _, _ => false

/-- Take a suspended piece of code off the list and wake it. -/
def resume (index : Nat) (settlement : Settlement) : Ext Reply := do
  match (← get).suspended[index]? with
  | some suspension =>
      if Suspension.Awaits suspension settlement then
        modify fun s => { s with suspended := s.suspended.eraseIdx index }
        wake host files suspension settlement
      else
        return .done
  | none => return .done

/-! ### Handlers -/

/-- The handler of an event. -/
def handler : Event → Ext Reply
  | .grillEvidence candidateId => forgeGrillEvidence candidateId
  | .grillComplete payload ctx => forgeGrillComplete host payload ctx
  | .deepSearch params => forgeDeepSearch host files params
  | .deepRetrievalComplete toolCallId attemptId sourceRoundId outcome ctx =>
      forgeDeepRetrievalComplete host toolCallId attemptId sourceRoundId outcome ctx
  | .deepComplete toolCallId attemptId sourceRoundId outcome ctx =>
      forgeDeepComplete host files toolCallId attemptId sourceRoundId outcome ctx
  | .contextComplete attemptId sourceRoundId outcome ctx =>
      forgeContextComplete host files attemptId sourceRoundId outcome ctx
  | .adrComplete attemptId sourceRoundId outcome ctx =>
      forgeAdrComplete host files attemptId sourceRoundId outcome ctx
  | .toolCall toolName => toolCall toolName
  | .toolResult toolCallId toolName isError => toolResult host files toolCallId toolName isError
  | .messageStart texts => messageStart texts
  | .messageEnd message => messageEnd host message
  | .agentSettled => agentSettled
  | .discoveryTimer => discoveryTimer host
  | .buildTimer => buildTimer host
  | .deepTimer => deepTimer host
  | .input rawText ctx => input host files rawText ctx
  | .command args ctx => command host files args ctx
  | .resume index settlement => resume host files index settlement

end Extension

/-! ### The machine -/

/-- An event with the answers of the file system while it is handled. -/
structure Occurrence where
  files : Files
  event : Event

/-- What a step answers. -/
structure StepOutput where
  reply : Except String Reply
  calls : List SessionOp
  effects : List Effect

/-- The state in which the handler of a step starts. -/
def ExtensionState.cleared (s : ExtensionState) : ExtensionState := { s with calls := [], effects := [] }

/-- One step: the handler of the event runs to its end or to the next point at which it waits. -/
def extensionStep (host : Host) (occurrence : Occurrence) (s : ExtensionState) :
    StepOutput × ExtensionState :=
  let run := Extension.handler host occurrence.files occurrence.event s.cleared
  (⟨run.1, run.2.calls, run.2.effects⟩, run.2)

end ForgeRuntime
