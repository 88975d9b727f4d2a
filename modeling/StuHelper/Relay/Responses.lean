import StuHelper.Lib.Text
import StuHelper.Relay.Claude

/-!
# Responses events as chat chunks

`OaiResponsesToChatStreamHandler` reads the events of the Responses API and sends chat
completion chunks.  It numbers the tool calls by the order in which their ids appear, sends
the name of a tool call once, and sends no tool call any more when there is text.

What the handler sends is a list of actions.  In the OpenAI format the chunks go to the
client as they are; in the Claude format each chunk goes through `HandleStreamFormat`, and
the usage is stored before the stop chunk.
-/

namespace StuHelper.Relay

open Lib

/-! ## Events -/

/-- The usage of a response, as far as it is copied into fields that the conversion reads. -/
structure ResponsesUsage where
  inputTokens : Int := 0
  outputTokens : Int := 0
  totalTokens : Int := 0
  /-- `InputTokensDetails.CachedTokens`, if there are details. -/
  cachedTokens : Option Int := none
  deriving DecidableEq, Repr

/-- `dto.OpenAIResponsesResponse` in the events `response.created` and
`response.completed`. -/
structure ResponsesResponse where
  model : String := ""
  usage : Option ResponsesUsage := none
  deriving DecidableEq, Repr

/-- `dto.ResponsesOutput`.  The arguments are the value of `ArgumentsString`. -/
structure ResponsesOutput where
  type : String
  id : String := ""
  role : String := ""
  callId : String := ""
  name : String := ""
  arguments : String := ""
  /-- The type and the text of each content part. -/
  content : List (String × String) := []
  deriving DecidableEq, Repr

/-- `dto.ResponsesStreamResponse`, by its type. -/
inductive ResponsesEvent where
  | created (response : Option ResponsesResponse)
  | reasoningSummaryTextDelta (delta : String)
  | reasoningSummaryTextDone
  | outputTextDelta (delta : String)
  | outputItemAdded (item : Option ResponsesOutput)
  | outputItemDone (item : Option ResponsesOutput)
  | functionCallArgumentsDelta (itemId delta : String)
  | functionCallArgumentsDone
  | completed (response : Option ResponsesResponse)
  /-- `response.error` and `response.failed`. -/
  | failed
  /-- Any other type. -/
  | other
  deriving DecidableEq, Repr

/-- What the handler does for the client. -/
inductive ChatAction where
  | chunk (response : StreamResponse)
  | storeUsage (usage : Usage)
  deriving DecidableEq, Repr

/-! ## The handler -/

/-- The variables of the handler.  An id that `toolCallIndexByID` does not hold gets the
number of ids as its index, so the map is the list of the ids in their order. -/
structure ResponsesState where
  model : String := ""
  usage : Usage := {}
  totalTokens : Int := 0
  outputText : String := ""
  usageText : String := ""
  sentStart : Bool := false
  sentStop : Bool := false
  sawToolCall : Bool := false
  /-- `streamErr` is set. -/
  streamErr : Bool := false
  toolCallIndexByID : List String := []
  toolCallNameByID : String → String := fun _ => ""
  toolCallArgsByID : String → String := fun _ => ""
  toolCallNameSent : String → Bool := fun _ => false
  toolCallCanonicalIDByItemID : String → String := fun _ => ""
  hasSentReasoningSummary : Bool := false
  needsReasoningSummarySeparator : Bool := false

/-- What a step of the handler does. -/
abbrev Acted := Out ChatAction ResponsesState

def generateStartEmptyResponse (id model : String) : StreamResponse :=
  { id := id, model := model, choices := [{ delta := { content := some "" } }] }

def generateStopResponse (id model finishReason : String) : StreamResponse :=
  { id := id, model := model, choices := [{ finishReason := some finishReason }] }

def deltaChunk (id model : String) (delta : ChoiceDelta) : StreamResponse :=
  { id := id, model := model, choices := [{ delta := delta }] }

section Handler

variable (responseId : String)

/-- The closure `sendStartIfNeeded`. -/
def sendStartIfNeeded (state : ResponsesState) : Acted :=
  if state.sentStart then .silent state
  else ⟨[.chunk (generateStartEmptyResponse responseId state.model)],
    { state with sentStart := true }⟩

/-- The blank lines between two parts of a summary. -/
def separated (state : ResponsesState) (delta : String) : String :=
  if state.needsReasoningSummarySeparator then
    if "\n\n".toList.isPrefixOf delta.toList then delta
    else if "\n".toList.isPrefixOf delta.toList then "\n" ++ delta
    else "\n\n" ++ delta
  else delta

/-- The closure `sendReasoningSummaryDelta`. -/
def sendReasoningSummaryDelta (delta : String) (state : ResponsesState) : Acted :=
  if delta = "" then .silent state
  else
    let text := separated state delta
    (sendStartIfNeeded responseId { state with needsReasoningSummarySeparator := false }).andThen
      fun state =>
        ⟨[.chunk (deltaChunk responseId state.model { reasoningContent := some text })],
          { state with
            usageText := state.usageText ++ text
            hasSentReasoningSummary := true }⟩

/-- The part of `sendToolCallDelta` after the start chunk. -/
def sendToolCallChunk (callId name argsDelta : String) (state : ResponsesState) : Acted :=
  let ids := if callId ∈ state.toolCallIndexByID then state.toolCallIndexByID
    else state.toolCallIndexByID ++ [callId]
  let names := if name ≠ "" then Function.update state.toolCallNameByID callId name
    else state.toolCallNameByID
  let known := if names callId ≠ "" then names callId else name
  let sendsName := known ≠ "" ∧ ¬ state.toolCallNameSent callId
  let tool : ToolCallResponse :=
    { index := some (ids.idxOf callId)
      id := callId
      name := if sendsName then known else ""
      arguments := argsDelta }
  ⟨[.chunk (deltaChunk responseId state.model { toolCalls := [tool] })],
    { state with
      toolCallIndexByID := ids
      toolCallNameByID := names
      toolCallNameSent := if sendsName then Function.update state.toolCallNameSent callId true
        else state.toolCallNameSent
      sawToolCall := true
      usageText := state.usageText ++ tool.name ++ argsDelta }⟩

/-- The closure `sendToolCallDelta`. -/
def sendToolCallDelta (callId name argsDelta : String) (state : ResponsesState) : Acted :=
  if callId = "" then .silent state
  else if state.outputText ≠ "" then .silent state
  else
    (sendStartIfNeeded responseId state).andThen
      (sendToolCallChunk responseId callId name argsDelta)

/-- The case of `response.output_text.delta`. -/
def outputTextDelta (delta : String) (state : ResponsesState) : Acted :=
  (sendStartIfNeeded responseId state).andThen fun state =>
    if delta ≠ "" then
      ⟨[.chunk (deltaChunk responseId state.model { content := some delta })],
        { state with
          outputText := state.outputText ++ delta
          usageText := state.usageText ++ delta }⟩
    else .silent state

/-- The id under which a function call is known. -/
def ResponsesOutput.callID (item : ResponsesOutput) : String :=
  let callId := Text.trimSpace item.callId
  if callId = "" then Text.trimSpace item.id else callId

/-- The arguments that have not been sent yet. -/
def remainingArguments (prevArgs newArgs : String) : String :=
  if newArgs ≠ "" then
    if prevArgs.toList.isPrefixOf newArgs.toList then
      String.ofList (newArgs.toList.drop prevArgs.toList.length)
    else newArgs
  else ""

/-- What the handler notes of a function call. -/
def ResponsesState.noteItem (state : ResponsesState) (item : ResponsesOutput) : ResponsesState :=
  let itemId := Text.trimSpace item.id
  let name := Text.trimSpace item.name
  { state with
    toolCallCanonicalIDByItemID :=
      if itemId ≠ "" ∧ item.callID ≠ "" then
        Function.update state.toolCallCanonicalIDByItemID itemId item.callID
      else state.toolCallCanonicalIDByItemID
    toolCallNameByID :=
      if name ≠ "" then Function.update state.toolCallNameByID item.callID name
      else state.toolCallNameByID
    toolCallArgsByID :=
      if item.arguments ≠ "" then
        Function.update state.toolCallArgsByID item.callID item.arguments
      else state.toolCallArgsByID }

/-- The case of `response.output_item.added` and `response.output_item.done`. -/
def outputItem (item : Option ResponsesOutput) (state : ResponsesState) : Acted :=
  match item with
  | none => .silent state
  | some item =>
    if item.type ≠ "function_call" then .silent state
    else
      sendToolCallDelta responseId item.callID (Text.trimSpace item.name)
        (remainingArguments (state.toolCallArgsByID item.callID) item.arguments)
        (state.noteItem item)

/-- What the handler notes of an argument delta. -/
def ResponsesState.noteArguments (state : ResponsesState) (callId delta : String) :
    ResponsesState :=
  { state with
    toolCallArgsByID := Function.update state.toolCallArgsByID callId
      (state.toolCallArgsByID callId ++ delta) }

/-- The id of the function call that an item holds. -/
def ResponsesState.callIdOfItem (state : ResponsesState) (itemId : String) : String :=
  let itemId := Text.trimSpace itemId
  let canonical := state.toolCallCanonicalIDByItemID itemId
  if canonical = "" then itemId else canonical

/-- The case of `response.function_call_arguments.delta`. -/
def functionCallArgumentsDelta (itemId delta : String) (state : ResponsesState) : Acted :=
  let callId := state.callIdOfItem itemId
  if callId = "" then .silent state
  else sendToolCallDelta responseId callId "" delta (state.noteArguments callId delta)

def completedUsage (response : ResponsesResponse) (state : ResponsesState) : ResponsesState :=
  match response.usage with
  | none => state
  | some reported =>
    let promptTokens := if reported.inputTokens ≠ 0 then reported.inputTokens
      else state.usage.promptTokens
    let completionTokens := if reported.outputTokens ≠ 0 then reported.outputTokens
      else state.usage.completionTokens
    { state with
      usage := { state.usage with
        promptTokens := promptTokens
        completionTokens := completionTokens
        cachedTokens := reported.cachedTokens.getD state.usage.cachedTokens }
      totalTokens := if reported.totalTokens ≠ 0 then reported.totalTokens
        else promptTokens + completionTokens }

def nameModel (response : ResponsesResponse) (state : ResponsesState) : ResponsesState :=
  { state with model := if response.model ≠ "" then response.model else state.model }

def readCompleted (response : Option ResponsesResponse) (state : ResponsesState) : ResponsesState :=
  match response with
  | none => state
  | some response => completedUsage response (nameModel response state)

def sendStopIfNeeded (state : ResponsesState) : Acted :=
  if state.sentStop then .silent state
  else
    let finishReason := if state.sawToolCall ∧ state.outputText = "" then "tool_calls" else "stop"
    ⟨[.storeUsage state.usage, .chunk (generateStopResponse responseId state.model finishReason)],
      { state with sentStop := true }⟩

/-- The case of `response.completed`. -/
def completed (response : Option ResponsesResponse) (state : ResponsesState) : Acted :=
  (sendStartIfNeeded responseId (readCompleted response state)).andThen
    (sendStopIfNeeded responseId)

/-- The function that `OaiResponsesToChatStreamHandler` passes to the scanner. -/
def responsesEvent (state : ResponsesState) (event : ResponsesEvent) : Acted :=
  if state.streamErr then .silent state
  else
    match event with
    | .created none => .silent state
    | .created (some response) => .silent (nameModel response state)
    | .reasoningSummaryTextDelta delta => sendReasoningSummaryDelta responseId delta state
    | .reasoningSummaryTextDone =>
      .silent { state with
        needsReasoningSummarySeparator :=
          state.needsReasoningSummarySeparator || state.hasSentReasoningSummary }
    | .outputTextDelta delta => outputTextDelta responseId delta state
    | .outputItemAdded item => outputItem responseId item state
    | .outputItemDone item => outputItem responseId item state
    | .functionCallArgumentsDelta itemId delta =>
      functionCallArgumentsDelta responseId itemId delta state
    | .functionCallArgumentsDone => .silent state
    | .completed response => completed responseId response state
    | .failed => .silent { state with streamErr := true }
    | .other => .silent state

/-- The end of `OaiResponsesToChatStreamHandler`; `estimate` is `ResponseText2Usage`. -/
def responsesEnd (estimate : String → Usage) (state : ResponsesState) : Acted :=
  if state.streamErr then .silent state
  else
    (sendStartIfNeeded responseId
      { state with
        usage := if state.totalTokens = 0 then estimate state.usageText else state.usage }).andThen
          (sendStopIfNeeded responseId)

def oaiResponsesToChatStreamHandler (estimate : String → Usage) (model : String)
    (events : List ResponsesEvent) : Acted :=
  (transduce (responsesEvent responseId) { model := model } events).andThen
    (responsesEnd responseId estimate)

end Handler

def claudeAction (info : RelayInfo) : ChatAction → Sent
  | .chunk response => handleStreamFormat info response
  | .storeUsage usage => .silent { info with usage := some usage }

/-- The events that a client of the Claude format receives. -/
def claudeEvents (info : RelayInfo) (actions : List ChatAction) : List ClaudeResponse :=
  (transduce claudeAction info actions).events

/-! ## No message is closed -/

/-- Chunks with a choice and without a usage, the first of them without a finish reason. -/
def Unclosing : Bool → List ChatAction → Prop
  | _, [] => True
  | started, .storeUsage _ :: rest => Unclosing started rest
  | started, .chunk response :: rest =>
    (response.choices ≠ [] ∧ response.usage = none ∧
      (started = true ∨ response.isFinished = false)) ∧ Unclosing true rest

/-- Whether there is a chunk. -/
def sendsChunk (actions : List ChatAction) : Bool :=
  actions.any fun action => match action with
    | .chunk _ => true
    | .storeUsage _ => false

theorem Unclosing.append {started : Bool} {front back : List ChatAction}
    (first : Unclosing started front) (rest : Unclosing (started || sendsChunk front) back) :
    Unclosing started (front ++ back) := by
  induction front generalizing started with
  | nil => simpa [sendsChunk] using rest
  | cons action front ih =>
    cases action with
    | storeUsage => exact ih first rest
    | chunk =>
      refine ⟨first.1, ih first.2 ?_⟩
      simpa [sendsChunk] using rest

/-- A step that sends such chunks and knows whether it has sent any. -/
structure Unclosed (started : Bool) (acted : Acted) : Prop where
  actions : Unclosing started acted.events
  sentStart : acted.state.sentStart = (started || sendsChunk acted.events)

theorem Unclosed.andThen {started : Bool} {first : Acted} {next : ResponsesState → Acted}
    (here : Unclosed started first) (there : Unclosed first.state.sentStart (next first.state)) :
    Unclosed started (first.andThen next) where
  actions := by
    rw [here.sentStart] at there
    exact here.actions.append there.actions
  sentStart := by
    have last := there.sentStart
    rw [here.sentStart, Bool.or_assoc] at last
    rw [Out.andThen_state, last, Out.andThen_events]
    simp [sendsChunk]

theorem Unclosed.silent (state : ResponsesState) : Unclosed state.sentStart (.silent state) where
  actions := trivial
  sentStart := by simp [sendsChunk]

section Handler

variable (responseId : String) (state : ResponsesState)

theorem sendStartIfNeeded_unclosed :
    Unclosed state.sentStart (sendStartIfNeeded responseId state) ∧
      (sendStartIfNeeded responseId state).state.sentStart = true := by
  unfold sendStartIfNeeded
  split
  next sent => exact ⟨.silent state, sent⟩
  · exact ⟨⟨⟨⟨nofun, rfl, .inr rfl⟩, trivial⟩, by simp [sendsChunk]⟩, rfl⟩

theorem unclosed_chunk {response : StreamResponse} {next : ResponsesState}
    (some : response.choices ≠ []) (bare : response.usage = none) (sent : next.sentStart = true) :
    Unclosed true ⟨[.chunk response], next⟩ :=
  ⟨⟨⟨some, bare, .inl rfl⟩, trivial⟩, sent⟩

theorem Unclosed.afterStart {state : ResponsesState} {next : ResponsesState → Acted}
    (there : ∀ state : ResponsesState, state.sentStart = true → Unclosed true (next state)) :
    Unclosed state.sentStart ((sendStartIfNeeded responseId state).andThen next) := by
  obtain ⟨start, sent⟩ := sendStartIfNeeded_unclosed responseId state
  apply start.andThen
  rw [sent]
  exact there _ sent

theorem sendToolCallDelta_unclosed (callId name argsDelta : String) (state : ResponsesState) :
    Unclosed state.sentStart (sendToolCallDelta responseId callId name argsDelta state) := by
  unfold sendToolCallDelta
  split
  · exact .silent state
  split
  · exact .silent state
  · exact Unclosed.afterStart responseId fun state sent => unclosed_chunk nofun rfl sent

theorem noteItem_sentStart (item : ResponsesOutput) :
    (state.noteItem item).sentStart = state.sentStart := by
  rw [ResponsesState.noteItem]

theorem outputItem_unclosed (item : Option ResponsesOutput) (state : ResponsesState) :
    Unclosed state.sentStart (outputItem responseId item state) := by
  cases item with
  | none => exact .silent state
  | some item =>
    rw [outputItem]
    split
    · exact .silent state
    · rw [← noteItem_sentStart state item]
      apply sendToolCallDelta_unclosed

theorem sendStopIfNeeded_unclosed {state : ResponsesState} (sent : state.sentStart = true) :
    Unclosed true (sendStopIfNeeded responseId state) := by
  unfold sendStopIfNeeded
  split
  · rw [← sent]
    exact .silent state
  · exact ⟨⟨⟨nofun, rfl, .inl rfl⟩, trivial⟩, sent⟩

theorem readCompleted_sentStart (response : Option ResponsesResponse) (state : ResponsesState) :
    (readCompleted response state).sentStart = state.sentStart := by
  cases response with
  | none => rfl
  | some response =>
    obtain ⟨_, usage⟩ := response
    cases usage with
    | none | some => rfl

theorem responsesEvent_unclosed (event : ResponsesEvent) :
    Unclosed state.sentStart (responsesEvent responseId state event) := by
  unfold responsesEvent
  split
  · exact .silent state
  cases event with
  | created response =>
    cases response with
    | none => exact .silent state
    | some response => exact .silent (nameModel response state)
  | reasoningSummaryTextDelta =>
    simp only [sendReasoningSummaryDelta]
    split
    · exact .silent state
    · exact @Unclosed.afterStart responseId
        { state with needsReasoningSummarySeparator := false } _
        fun state sent => unclosed_chunk nofun rfl sent
  | reasoningSummaryTextDone => exact ⟨trivial, by simp [sendsChunk]⟩
  | outputTextDelta =>
    apply Unclosed.afterStart responseId
    intro state sent
    split
    · exact unclosed_chunk nofun rfl sent
    · rw [← sent]
      exact .silent state
  | outputItemAdded item | outputItemDone item => exact outputItem_unclosed responseId item state
  | functionCallArgumentsDelta itemId delta =>
    simp only [functionCallArgumentsDelta]
    split
    · exact .silent state
    · exact sendToolCallDelta_unclosed responseId _ _ _ (state.noteArguments _ delta)
  | functionCallArgumentsDone => exact .silent state
  | completed response =>
    rw [← readCompleted_sentStart response state]
    exact Unclosed.afterStart responseId fun state sent => sendStopIfNeeded_unclosed responseId sent
  | failed => exact ⟨trivial, by simp [sendsChunk]⟩
  | other => exact .silent state

theorem responsesEnd_unclosed (estimate : String → Usage) (state : ResponsesState) :
    Unclosed state.sentStart (responsesEnd responseId estimate state) := by
  unfold responsesEnd
  split
  · exact .silent state
  · exact @Unclosed.afterStart responseId
      { state with
        usage := if state.totalTokens = 0 then estimate state.usageText else state.usage } _
      fun state sent => sendStopIfNeeded_unclosed responseId sent

theorem responsesEvents_unclosed (events : List ResponsesEvent) :
    Unclosed state.sentStart (transduce (responsesEvent responseId) state events) := by
  induction events generalizing state with
  | nil => exact .silent state
  | cons event events ih => exact (responsesEvent_unclosed responseId state event).andThen (ih _)

end Handler

end StuHelper.Relay
