import StuHelper.Lib.Transducer

/-!
# Chat completion chunks as Claude events

A request in the Claude format may be served by an upstream that streams OpenAI chunks.
`StreamResponseOpenAI2Claude` translates chunk by chunk and keeps its place in the record of
the request: which content block is open, the index of that block, and whether the message
is closed.

`OaiStreamHandler` holds the last chunk back.  All chunks before it are counted and sent
on; the last one is sent when the stream has ended and the usage is known.
-/

namespace StuHelper.Relay

open Lib

/-! ## Chunks -/

/-- `dto.Usage`, as far as the conversion reads it. -/
structure Usage where
  promptTokens : Int := 0
  completionTokens : Int := 0
  /-- `PromptTokensDetails.CachedTokens`. -/
  cachedTokens : Int := 0
  /-- `PromptTokensDetails.CachedCreationTokens`. -/
  cachedCreationTokens : Int := 0
  claudeCacheCreation5mTokens : Int := 0
  claudeCacheCreation1hTokens : Int := 0
  deriving DecidableEq, Repr

/-- `dto.ToolCallResponse`: a fragment of a tool call. -/
structure ToolCallResponse where
  index : Option Int := none
  id : String := ""
  /-- `Function.Name`. -/
  name : String := ""
  /-- `Function.Arguments`. -/
  arguments : String := ""
  deriving DecidableEq, Repr

/-- `dto.ChatCompletionsStreamResponseChoiceDelta`. -/
structure ChoiceDelta where
  content : Option String := none
  reasoningContent : Option String := none
  reasoning : Option String := none
  toolCalls : List ToolCallResponse := []
  deriving DecidableEq, Repr

/-- `dto.ChatCompletionsStreamResponseChoice`. -/
structure StreamChoice where
  delta : ChoiceDelta := {}
  finishReason : Option String := none
  deriving DecidableEq, Repr

/-- `dto.ChatCompletionsStreamResponse`. -/
structure StreamResponse where
  id : String := ""
  model : String := ""
  choices : List StreamChoice := []
  usage : Option Usage := none
  deriving DecidableEq, Repr

def ChoiceDelta.getContentString (delta : ChoiceDelta) : String := delta.content.getD ""

def ChoiceDelta.getReasoningContent (delta : ChoiceDelta) : String :=
  match delta.reasoningContent with
  | some text => text
  | none => delta.reasoning.getD ""

def StreamChoice.isFinished (choice : StreamChoice) : Bool :=
  choice.finishReason.getD "" ≠ ""

def StreamResponse.isFinished (response : StreamResponse) : Bool :=
  response.choices.head?.any StreamChoice.isFinished

def StreamResponse.getFirstToolCall (response : StreamResponse) : Option ToolCallResponse :=
  response.choices.head?.bind fun choice => choice.delta.toolCalls.head?

def generateFinalUsageResponse (id model : String) (usage : Usage) : StreamResponse :=
  { id := id, model := model, usage := some usage }

/-! ## Events -/

/-- `dto.ClaudeUsage`; the split of the cache creation is left out when both parts are 0. -/
structure ClaudeUsage where
  inputTokens : Int
  outputTokens : Int
  cacheCreationInputTokens : Int
  cacheReadInputTokens : Int
  cacheCreation : Option (Int × Int)
  deriving DecidableEq, Repr

/-- The content block of a `content_block_start`. -/
inductive ContentBlock where
  | text
  | thinking
  | toolUse (id name : String)
  deriving DecidableEq, Repr

/-- The delta of a `content_block_delta`. -/
inductive BlockDelta where
  | text (text : String)
  | thinking (thinking : String)
  | inputJson (partialJson : String)
  deriving DecidableEq, Repr

/-- `dto.ClaudeResponse`: the events of a stream. -/
inductive ClaudeResponse where
  | messageStart (id model : String) (inputTokens : Int)
  | contentBlockStart (index : Int) (contentBlock : ContentBlock)
  | contentBlockDelta (index : Int) (delta : BlockDelta)
  | contentBlockStop (index : Int)
  | messageDelta (usage : ClaudeUsage) (stopReason : String)
  | messageStop
  deriving DecidableEq, Repr

/-- `LastMessageTypeNone` and the others. -/
inductive LastMessageType where
  | none
  | text
  | thinking
  | tools
  deriving DecidableEq, Repr

/-- `RelayInfo` with its `ClaudeConvertInfo`, as far as the conversion uses them. -/
structure RelayInfo where
  sendResponseCount : Nat := 0
  estimatePromptTokens : Int := 0
  lastMessagesType : LastMessageType := .none
  index : Int := 0
  usage : Option Usage := none
  finishReason : String := ""
  done : Bool := false
  toolCallBaseIndex : Int := 0
  toolCallMaxIndexOffset : Int := 0
  deriving DecidableEq, Repr

/-- What a step sends to the client. -/
abbrev Sent := Out ClaudeResponse RelayInfo

def normalizeCacheCreationSplit (totalTokens tokens5m tokens1h : Int) : Int × Int :=
  let remainder := max (totalTokens - tokens5m - tokens1h) 0
  (tokens5m + remainder, tokens1h)

/-- `buildClaudeUsageFromOpenAIUsage` of a usage that is not nil. -/
def buildClaudeUsageFromOpenAIUsage (oaiUsage : Usage) : ClaudeUsage :=
  let (cacheCreation5m, cacheCreation1h) := normalizeCacheCreationSplit
    oaiUsage.cachedCreationTokens oaiUsage.claudeCacheCreation5mTokens
    oaiUsage.claudeCacheCreation1hTokens
  { inputTokens := oaiUsage.promptTokens
    outputTokens := oaiUsage.completionTokens
    cacheCreationInputTokens := oaiUsage.cachedCreationTokens
    cacheReadInputTokens := oaiUsage.cachedTokens
    cacheCreation := if cacheCreation5m > 0 ∨ cacheCreation1h > 0 then
        some (cacheCreation5m, cacheCreation1h)
      else none }

/-- `unicode.ToLower`, as far as its values are ASCII: apart from the ASCII capitals these are
the images of the Kelvin sign and of the dotted capital I. -/
def toLowerChar (char : Char) : Char :=
  if char.val = 0x212A then 'k' else if char.val = 0x130 then 'i' else char.toLower

/-- `OpenAIFinishReasonToClaudeStopReason`. -/
def stopReasonOpenAI2Claude (finishReason : String) : String :=
  match String.ofList (finishReason.toList.map toLowerChar) with
  | "stop" => "end_turn"
  | "stop_sequence" => "stop_sequence"
  | "length" => "max_tokens"
  | "max_tokens" => "max_tokens"
  | "content_filter" => "refusal"
  | "tool_calls" => "tool_use"
  | _ => finishReason

/-! ## Blocks -/

/-- The closure `stopOpenBlocks`. -/
def stopOpenBlocks (info : RelayInfo) : List ClaudeResponse :=
  match info.lastMessagesType with
  | .none => []
  | .text | .thinking => [.contentBlockStop info.index]
  | .tools => (List.range (info.toolCallMaxIndexOffset + 1).toNat).map fun (offset : Nat) =>
    .contentBlockStop (info.toolCallBaseIndex + offset)

/-- The closure `stopOpenBlocksAndAdvance`. -/
def stopOpenBlocksAndAdvance (info : RelayInfo) : Sent :=
  match info.lastMessagesType with
  | .none => .silent info
  | .text | .thinking =>
    ⟨stopOpenBlocks info, { info with index := info.index + 1, lastMessagesType := .none }⟩
  | .tools =>
    ⟨stopOpenBlocks info,
      { info with
        index := info.toolCallBaseIndex + info.toolCallMaxIndexOffset + 1
        toolCallBaseIndex := 0
        toolCallMaxIndexOffset := 0
        lastMessagesType := .none }⟩

/-- What a delta says.  Reasoning goes before text. -/
inductive Speech where
  | text (said : String)
  | thinking (said : String)
  deriving DecidableEq, Repr

namespace Speech

def type : Speech → LastMessageType
  | .text _ => .text
  | .thinking _ => .thinking

def block : Speech → ContentBlock
  | .text _ => .text
  | .thinking _ => .thinking

def delta : Speech → BlockDelta
  | .text said => .text said
  | .thinking said => .thinking said

end Speech

def ChoiceDelta.speech (delta : ChoiceDelta) : Option Speech :=
  if delta.getReasoningContent ≠ "" then some (.thinking delta.getReasoningContent)
  else if delta.getContentString ≠ "" then some (.text delta.getContentString)
  else none

/-- The end of a message: the blocks are stopped, and the usage is reported if there is
one. -/
def finishMessage (response : StreamResponse) (info : RelayInfo) : Sent :=
  let report := match response.usage.or info.usage with
    | some oaiUsage => [ClaudeResponse.messageDelta (buildClaudeUsageFromOpenAIUsage oaiUsage)
        (stopReasonOpenAI2Claude info.finishReason)]
    | none => []
  ⟨stopOpenBlocks info ++ report ++ [.messageStop], { info with done := true }⟩

/-! ## The first chunk -/

/-- The tool call of a first chunk; only the first fragment is looked at. -/
def firstToolCall (response : StreamResponse) (info : RelayInfo) : Sent :=
  match response.getFirstToolCall with
  | none => .silent info
  | some toolCall =>
    ⟨.contentBlockStart 0 (.toolUse toolCall.id toolCall.name) ::
        (if toolCall.arguments ≠ "" then [.contentBlockDelta 0 (.inputJson toolCall.arguments)]
        else []),
      { info with
        lastMessagesType := .tools
        toolCallBaseIndex := 0
        toolCallMaxIndexOffset := 0 }⟩

/-- The text or reasoning of a first chunk. -/
def firstSpeech (response : StreamResponse) (info : RelayInfo) : Sent :=
  match response.choices.head?.bind fun choice => choice.delta.speech with
  | none => .silent info
  | some speech =>
    let advanced : Sent := if info.lastMessagesType ≠ speech.type then
        stopOpenBlocksAndAdvance info
      else .silent info
    advanced.andThen fun info =>
      ⟨[.contentBlockStart info.index speech.block, .contentBlockDelta info.index speech.delta],
        { info with lastMessagesType := speech.type }⟩

def firstFinish (response : StreamResponse) (info : RelayInfo) : Sent :=
  match response.choices with
  | [] => .silent info
  | choice :: _ =>
    if choice.isFinished then
      finishMessage response { info with finishReason := choice.finishReason.getD "" }
    else .silent info

/-- The branch of `StreamResponseOpenAI2Claude` for the first response. -/
def firstResponse (response : StreamResponse) (info : RelayInfo) : Sent :=
  let started : Sent :=
    ⟨[.messageStart response.id response.model info.estimatePromptTokens], info⟩
  ((started.andThen (firstToolCall response)).andThen (firstSpeech response)).andThen
    (firstFinish response)

/-! ## The other chunks -/

/-- The fragments with the offsets of their blocks. -/
def numbered (toolCalls : List ToolCallResponse) : List (Int × ToolCallResponse) :=
  toolCalls.mapIdx fun i toolCall => (toolCall.index.getD i, toolCall)

/-- One round of the loop over the fragments; the state is `maxOffset`. -/
def toolFragment (base maxOffset : Int) (fragment : Int × ToolCallResponse) :
    Out ClaudeResponse Int :=
  let (offset, toolCall) := fragment
  let start := if toolCall.name ≠ "" then
      [ClaudeResponse.contentBlockStart (base + offset) (.toolUse toolCall.id toolCall.name)]
    else []
  let delta := if toolCall.arguments ≠ "" then
      [ClaudeResponse.contentBlockDelta (base + offset) (.inputJson toolCall.arguments)]
    else []
  ⟨start ++ delta, if offset > maxOffset then offset else maxOffset⟩

def enterTools (info : RelayInfo) : Sent :=
  if info.lastMessagesType ≠ .tools then
    (stopOpenBlocksAndAdvance info).andThen fun info =>
      .silent { info with
        toolCallBaseIndex := info.index
        toolCallMaxIndexOffset := 0
        lastMessagesType := .tools }
  else .silent info

def sendToolCalls (toolCalls : List ToolCallResponse) (info : RelayInfo) : Sent :=
  (enterTools info).andThen fun info =>
    let sent := transduce (toolFragment info.toolCallBaseIndex) info.toolCallMaxIndexOffset
      (numbered toolCalls)
    ⟨sent.events,
      { info with
        toolCallMaxIndexOffset := sent.state
        index := info.toolCallBaseIndex + sent.state }⟩

/-- The text or reasoning of a chunk. -/
def sendSpeech (speech : Speech) (info : RelayInfo) : Sent :=
  let opened : Sent := if info.lastMessagesType ≠ speech.type then
      (stopOpenBlocksAndAdvance info).andThen fun info =>
        ⟨[.contentBlockStart info.index speech.block], info⟩
    else .silent info
  opened.andThen fun info =>
    ⟨[.contentBlockDelta info.index speech.delta], { info with lastMessagesType := speech.type }⟩

/-- The content of a chunk. -/
def sendDelta (delta : ChoiceDelta) (info : RelayInfo) : Sent :=
  if delta.toolCalls ≠ [] then sendToolCalls delta.toolCalls info
  else
    match delta.speech with
    | some speech => sendSpeech speech info
    | none => .silent info

/-- A chunk without choices closes the message if a usage is known. -/
def usageResponse (response : StreamResponse) (info : RelayInfo) : Sent :=
  match response.usage.or info.usage with
  | none => .silent info
  | some oaiUsage =>
    let stopReason := stopReasonOpenAI2Claude info.finishReason
    ⟨stopOpenBlocks info ++
        [.messageDelta (buildClaudeUsageFromOpenAIUsage oaiUsage)
          (if stopReason = "" then "end_turn" else stopReason), .messageStop],
      { info with done := true }⟩

def streamResponseOpenAI2Claude (response : StreamResponse) (info : RelayInfo) : Sent :=
  if info.done then .silent info
  else if info.sendResponseCount = 1 then firstResponse response info
  else
    match response.choices with
    | [] => usageResponse response info
    | chosenChoice :: _ =>
      if chosenChoice.isFinished then
        let info := { info with finishReason := chosenChoice.finishReason.getD "" }
        -- the usage of an earlier chunk is looked up here and not used
        if response.usage.isNone then .silent info
        else (sendDelta chosenChoice.delta info).andThen (finishMessage response)
      else sendDelta chosenChoice.delta info

section Cases

variable {response : StreamResponse} {info : RelayInfo}

theorem streamResponseOpenAI2Claude_done (done : info.done = true) :
    streamResponseOpenAI2Claude response info = .silent info := if_pos done

variable (isOpen : info.done = false)

include isOpen

theorem streamResponseOpenAI2Claude_first (first : info.sendResponseCount = 1) :
    streamResponseOpenAI2Claude response info = firstResponse response info := by
  rw [streamResponseOpenAI2Claude, if_neg (Bool.eq_false_iff.mp isOpen), if_pos first]

theorem streamResponseOpenAI2Claude_usage (later : info.sendResponseCount ≠ 1)
    (none : response.choices = []) :
    streamResponseOpenAI2Claude response info = usageResponse response info := by
  rw [streamResponseOpenAI2Claude, if_neg (Bool.eq_false_iff.mp isOpen), if_neg later]
  simp only [none]

theorem streamResponseOpenAI2Claude_choice {choice : StreamChoice} {others : List StreamChoice}
    (later : info.sendResponseCount ≠ 1) (choices : response.choices = choice :: others) :
    streamResponseOpenAI2Claude response info = if choice.isFinished then
        if response.usage.isNone then
          .silent { info with finishReason := choice.finishReason.getD "" }
        else
          (sendDelta choice.delta
            { info with finishReason := choice.finishReason.getD "" }).andThen
              (finishMessage response)
      else sendDelta choice.delta info := by
  rw [streamResponseOpenAI2Claude, if_neg (Bool.eq_false_iff.mp isOpen), if_neg later]
  simp only [choices]

end Cases

/-! ## What the steps leave alone -/

/-- The steps within a message move the blocks only. -/
structure RelayInfo.Keeps (info next : RelayInfo) : Prop where
  sendResponseCount : next.sendResponseCount = info.sendResponseCount
  usage : next.usage = info.usage
  finishReason : next.finishReason = info.finishReason
  done : next.done = info.done

variable (response : StreamResponse) (info : RelayInfo)

theorem RelayInfo.Keeps.refl : info.Keeps info := ⟨rfl, rfl, rfl, rfl⟩

theorem RelayInfo.Keeps.trans {first second third : RelayInfo} (left : first.Keeps second)
    (right : second.Keeps third) : first.Keeps third where
  sendResponseCount := right.sendResponseCount.trans left.sendResponseCount
  usage := right.usage.trans left.usage
  finishReason := right.finishReason.trans left.finishReason
  done := right.done.trans left.done

theorem stopOpenBlocksAndAdvance_keeps : info.Keeps (stopOpenBlocksAndAdvance info).state := by
  unfold stopOpenBlocksAndAdvance
  cases info.lastMessagesType with
  | none => exact .refl info
  | text | thinking | tools => exact ⟨rfl, rfl, rfl, rfl⟩

theorem sendSpeech_keeps (speech : Speech) (info : RelayInfo) :
    info.Keeps (sendSpeech speech info).state := by
  by_cases last : info.lastMessagesType = speech.type
  · simp only [sendSpeech, last, ne_eq, not_true, if_false, Out.andThen_state, Out.silent_state]
    exact ⟨rfl, rfl, rfl, rfl⟩
  · simp only [sendSpeech, last, ne_eq, not_false_eq_true, if_true, Out.andThen_state]
    exact (stopOpenBlocksAndAdvance_keeps info).trans ⟨rfl, rfl, rfl, rfl⟩

theorem enterTools_keeps : info.Keeps (enterTools info).state := by
  unfold enterTools
  split
  · exact (stopOpenBlocksAndAdvance_keeps info).trans ⟨rfl, rfl, rfl, rfl⟩
  · exact .refl info

theorem sendDelta_keeps (delta : ChoiceDelta) (info : RelayInfo) :
    info.Keeps (sendDelta delta info).state := by
  unfold sendDelta
  split
  · exact (enterTools_keeps info).trans ⟨rfl, rfl, rfl, rfl⟩
  · split
    · exact sendSpeech_keeps _ info
    · exact .refl info

theorem firstToolCall_keeps : info.Keeps (firstToolCall response info).state := by
  unfold firstToolCall
  split
  · exact .refl info
  · exact ⟨rfl, rfl, rfl, rfl⟩

theorem firstSpeech_keeps : info.Keeps (firstSpeech response info).state := by
  unfold firstSpeech
  split
  · exact .refl info
  split
  · exact (stopOpenBlocksAndAdvance_keeps info).trans ⟨rfl, rfl, rfl, rfl⟩
  · exact ⟨rfl, rfl, rfl, rfl⟩

theorem streamResponseOpenAI2Claude_kept :
    (streamResponseOpenAI2Claude response info).state.sendResponseCount = info.sendResponseCount ∧
      (streamResponseOpenAI2Claude response info).state.usage = info.usage := by
  unfold streamResponseOpenAI2Claude
  split
  · exact ⟨rfl, rfl⟩
  split
  · have keeps := (firstToolCall_keeps response info).trans (firstSpeech_keeps response _)
    rw [← keeps.sendResponseCount, ← keeps.usage]
    simp only [firstResponse, Out.andThen_state, firstFinish]
    split
    · exact ⟨rfl, rfl⟩
    · split
      · exact ⟨rfl, rfl⟩
      · exact ⟨rfl, rfl⟩
  split
  · unfold usageResponse
    split
    · exact ⟨rfl, rfl⟩
    · exact ⟨rfl, rfl⟩
  rename_i choice others chosen
  split
  · split
    · exact ⟨rfl, rfl⟩
    · have keeps := sendDelta_keeps choice.delta
        { info with finishReason := choice.finishReason.getD "" }
      exact ⟨keeps.sendResponseCount, keeps.usage⟩
  · have keeps := sendDelta_keeps choice.delta info
    exact ⟨keeps.sendResponseCount, keeps.usage⟩

theorem streamResponseOpenAI2Claude_count :
    (streamResponseOpenAI2Claude response info).state.sendResponseCount = info.sendResponseCount :=
  (streamResponseOpenAI2Claude_kept response info).1

/-! ## The stream -/

/-- The record before a chunk is converted: the chunk is counted, and a usage is stored. -/
def RelayInfo.receive (info : RelayInfo) (usage : Option Usage) : RelayInfo :=
  { info with
    sendResponseCount := info.sendResponseCount + 1
    usage := usage.or info.usage }

/-- `HandleStreamFormat` in the Claude format, with `handleClaudeFormat`. -/
def handleStreamFormat (info : RelayInfo) (response : StreamResponse) : Sent :=
  streamResponseOpenAI2Claude response (info.receive response.usage)

/-- `HandleFinalResponse` in the Claude format. -/
def handleFinalResponse (usage : Usage) (info : RelayInfo) (last : StreamResponse) : Sent :=
  (streamResponseOpenAI2Claude last { info with usage := some usage }).andThen fun info =>
    .silent { info with done := true }

/-- The chunks of a stream that ends normally, in `OaiStreamHandler`.  The usage is the one
that the handler has found or estimated at the end. -/
def oaiStreamHandler (usage : Usage) : RelayInfo → List StreamResponse → Sent
  | info, [] => .silent info
  | info, [last] => handleFinalResponse usage info last
  | info, response :: next :: rest =>
    (handleStreamFormat info response).andThen fun info =>
      oaiStreamHandler usage info (next :: rest)

end StuHelper.Relay
