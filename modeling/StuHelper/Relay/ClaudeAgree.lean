import StuHelper.Lib.Text
import StuHelper.Relay.ChatClient

/-!
# Claude messages as chat completions

`StreamResponseClaude2OpenAI` converts the events of a Claude stream one by one and keeps no
state; a tool call gets the index of its content block.  `ResponseClaude2OpenAI` converts a
whole message; a text overwrites the text before it.

The two agree where the tool calls come before all other blocks, all texts but the last are
empty, and the arguments are streamed as `json.Marshal` writes them.
-/

namespace StuHelper.Relay

open Lib ChatReader List

variable {ω : Type}

/-! ## Events -/

/-- The type of a content block or of a delta. -/
inductive MediaType where
  | text
  | thinking
  | toolUse
  | textDelta
  | thinkingDelta
  | signatureDelta
  | inputJsonDelta
  /-- No type, as in the delta of a `message_delta`. -/
  | none
  deriving DecidableEq, Repr

/-- `dto.ClaudeMediaMessage` as a content block, a delta or a message; absent fields are nil. -/
structure ClaudeMedia (ω : Type) where
  type : MediaType := .none
  text : Option String := none
  thinking : Option String := none
  partialJson : Option String := none
  stopReason : Option String := none
  id : String := ""
  model : String := ""
  name : String := ""
  input : Option ω := none
  deriving DecidableEq, Repr

inductive ClaudeEventType where
  | messageStart
  | contentBlockStart
  | contentBlockDelta
  | messageDelta
  | messageStop
  /-- `content_block_stop`, `ping` and the others. -/
  | other
  deriving DecidableEq, Repr

/-- `dto.ClaudeResponse` as an event of a stream. -/
structure ClaudeEvent (ω : Type) where
  type : ClaudeEventType
  model : String := ""
  index : Option Int := none
  contentBlock : Option (ClaudeMedia ω) := none
  delta : Option (ClaudeMedia ω) := none
  message : Option (ClaudeMedia ω) := none
  deriving DecidableEq, Repr

def stopReasonClaude2OpenAI (reason : String) : String :=
  match String.ofList (reason.toList.map toLowerChar) with
  | "stop_sequence" => "stop"
  | "end_turn" => "stop"
  | "max_tokens" => "length"
  | "tool_use" => "tool_calls"
  | "refusal" => "content_filter"
  | _ => reason

/-! ## One event -/

namespace ClaudeEvent

/-- The choice and the tool calls of a `content_block_start`. -/
def blockStart (event : ClaudeEvent ω) (block : ClaudeMedia ω) :
    StreamChoice × List ToolCallResponse :=
  ({ delta := { content := if block.type = .text then block.text else none } },
    if block.type = .toolUse then
      [{ index := some (event.index.getD 0), id := block.id, name := block.name, arguments := "" }]
    else [])

/-- The choice and the tool calls of a `content_block_delta`. -/
def blockDelta (event : ClaudeEvent ω) (delta : ClaudeMedia ω) :
    StreamChoice × List ToolCallResponse :=
  let content := delta.text
  match delta.type with
  | .inputJsonDelta =>
    ({ delta := { content := content } },
      [{ index := some (event.index.getD 0), arguments := delta.partialJson.getD "" }])
  | .signatureDelta => ({ delta := { content := content, reasoningContent := some "\n" } }, [])
  | .thinkingDelta => ({ delta := { content := content, reasoningContent := delta.thinking } }, [])
  | _ => ({ delta := { content := content } }, [])

/-- The finish reason of a `message_delta`. -/
def finishReason (event : ClaudeEvent ω) : Option String :=
  (event.delta.bind ClaudeMedia.stopReason).bind fun reason =>
    if stopReasonClaude2OpenAI reason ≠ "null" then some (stopReasonClaude2OpenAI reason) else none

/-- The choice of an event, with the tool calls; `none` where nothing is sent. -/
def choice? (event : ClaudeEvent ω) : Option (StreamChoice × List ToolCallResponse) :=
  match event.type with
  | .messageStart => some ({ delta := { content := some "" } }, [])
  | .contentBlockStart => event.contentBlock.map event.blockStart
  | .contentBlockDelta => some ((event.delta.map event.blockDelta).getD ({}, []))
  | .messageDelta => some ({ finishReason := event.finishReason }, [])
  | .messageStop => none
  | .other => none

def chunk? (event : ClaudeEvent ω) : Option StreamResponse :=
  event.choice?.map fun (choice, tools) =>
    let started := if event.type = .messageStart then event.message else none
    { id := (started.map ClaudeMedia.id).getD ""
      model := (started.map ClaudeMedia.model).getD event.model
      choices := [if tools ≠ [] then
          { choice with delta := { choice.delta with content := none, toolCalls := tools } }
        else choice] }

/-- The code dereferences `PartialJson`, which is nil. -/
def derefsNil (event : ClaudeEvent ω) : Bool :=
  event.type = .contentBlockDelta &&
    event.delta.any fun delta => delta.type = .inputJsonDelta && delta.partialJson.isNone

end ClaudeEvent

def streamResponseClaude2OpenAI (event : ClaudeEvent ω) : Except String (Option StreamResponse) :=
  if event.derefsNil then .error "nil pointer dereference" else .ok event.chunk?

/-- The chunks that a client receives. -/
def claudeChunks (events : List (ClaudeEvent ω)) : Except String (List StreamResponse) :=
  (events.mapM streamResponseClaude2OpenAI).map fun chunks => chunks.filterMap id

/-! ## The whole message -/

/-- `dto.OpenAITextResponse`, as `ResponseClaude2OpenAI` builds it. -/
structure ClaudeTextResponse where
  id : String
  model : String
  message : Message
  reasoningContent : Option String
  finishReason : String
  deriving DecidableEq, Repr

/-- The variables of the loop over the content blocks. -/
structure ContentPass where
  responseText : String
  tools : List ToolCallRequest := []
  thinkingContent : String := ""
  deriving DecidableEq, Repr

/-- One content block; `marshal` is `json.Marshal`. -/
def ContentPass.block (marshal : Option ω → String) (pass : ContentPass) (message : ClaudeMedia ω) :
    ContentPass :=
  match message.type with
  | .toolUse =>
    { pass with tools := pass.tools ++ [⟨message.id, message.name, marshal message.input⟩] }
  | .thinking => { pass with thinkingContent := message.thinking.getD pass.thinkingContent }
  | .text => { pass with responseText := message.text.getD "" }
  | _ => pass

def responseClaude2OpenAI (marshal : Option ω → String) (id model stopReason : String)
    (content : List (ClaudeMedia ω)) : ClaudeTextResponse :=
  let responseText := ((content.head?.bind ClaudeMedia.text).getD "")
  let responseThinking := ((content.head?.bind ClaudeMedia.thinking).getD "")
  let pass := content.foldl (ContentPass.block marshal) { responseText := responseText }
  { id := id
    model := model
    message :=
      { role := "assistant"
        content := some (.string pass.responseText)
        toolCalls := if pass.tools ≠ [] then some pass.tools else none }
    reasoningContent :=
      if pass.thinkingContent ≠ "" then some pass.thinkingContent
      else if responseThinking ≠ "" then some responseThinking
      else none
    finishReason := stopReasonClaude2OpenAI stopReason }

/-- The message that a client finds in the response. -/
def ClaudeTextResponse.chatMessage (response : ClaudeTextResponse) : ChatMessage :=
  { content := response.message.stringContent
    toolCalls := response.message.parseToolCalls
    finishReason := some response.finishReason }

/-! ## Streams -/

def startEvent (index : Int) (block : ClaudeMedia ω) : ClaudeEvent ω :=
  { type := .contentBlockStart, index := some index, contentBlock := some block }

def deltaEvent (index : Int) (delta : ClaudeMedia ω) : ClaudeEvent ω :=
  { type := .contentBlockDelta, index := some index, delta := some delta }

/-- A content block and how it is streamed: what it starts with and the pieces that follow. -/
inductive StreamedBlock (ω : Type) where
  | text (started : Option String) (deltas : List String)
  | thinking (deltas : List String) (signatures : Nat)
  | toolUse (id name : String) (input : ω) (deltas : List String)
  deriving DecidableEq, Repr

open StreamedBlock

namespace StreamedBlock

def whole : StreamedBlock ω → ClaudeMedia ω
  | .text started deltas => { type := .text, text := some (started.getD "" ++ String.join deltas) }
  | .thinking deltas _ => { type := .thinking, thinking := some (String.join deltas) }
  | .toolUse id name input _ => { type := .toolUse, id := id, name := name, input := some input }

def start : StreamedBlock ω → ClaudeMedia ω
  | .text started _ => { type := .text, text := started }
  | .thinking _ _ => { type := .thinking }
  | .toolUse id name _ _ => { type := .toolUse, id := id, name := name }

def deltas : StreamedBlock ω → List (ClaudeMedia ω)
  | .text _ pieces => pieces.map fun piece => { type := .textDelta, text := some piece }
  | .thinking pieces signatures =>
    pieces.map (fun piece => { type := .thinkingDelta, thinking := some piece }) ++
      replicate signatures { type := .signatureDelta }
  | .toolUse _ _ _ pieces =>
    pieces.map fun piece => { type := .inputJsonDelta, partialJson := some piece }

def events (index : Int) (block : StreamedBlock ω) : List (ClaudeEvent ω) :=
  startEvent index block.start :: block.deltas.map (deltaEvent index)

def isTool : StreamedBlock ω → Bool
  | .toolUse _ _ _ _ => true
  | .text _ _ | .thinking _ _ => false

def call? : StreamedBlock ω → Option ToolCallRequest
  | .toolUse id name _ deltas => some ⟨id, name, String.join deltas⟩
  | .text _ _ | .thinking _ _ => none

def text? : StreamedBlock ω → Option String
  | .text started deltas => some (started.getD "" ++ String.join deltas)
  | .thinking _ _ | .toolUse _ _ _ _ => none

end StreamedBlock

def blockEvents (index : Int) : List (StreamedBlock ω) → List (ClaudeEvent ω)
  | [] => []
  | block :: blocks => block.events index ++ blockEvents (index + 1) blocks

def messageStartEvent (id model : String) : ClaudeEvent ω :=
  { type := .messageStart, message := some { id := id, model := model } }

def messageDeltaEvent (stopReason : String) : ClaudeEvent ω :=
  { type := .messageDelta, delta := some { stopReason := some stopReason } }

/-- The events stream these blocks; a `content_block_stop`, a `ping` and the like may come
anywhere. -/
def StreamsMessage (id model stopReason : String) (blocks : List (StreamedBlock ω))
    (events : List (ClaudeEvent ω)) : Prop :=
  events.filter (·.type ≠ .other) = [messageStartEvent id model] ++ blockEvents 0 blocks ++
      [messageDeltaEvent stopReason, { type := .messageStop }]

def toolsFrom (index : Int) : List (StreamedBlock ω) → List (Int × ToolCallRequest)
  | [] => []
  | block :: blocks =>
    (block.call?.map fun call => (index, call)).toList ++ toolsFrom (index + 1) blocks

def blockTexts (blocks : List (StreamedBlock ω)) : List String :=
  blocks.filterMap text?

/-- Only the last text is not empty, no tool call comes after another block, the arguments are
streamed as they are marshalled, and the stop reason is not `null`. -/
structure Aligned (marshal : Option ω → String) (stopReason : String)
    (blocks : List (StreamedBlock ω)) : Prop where
  texts : ∀ text ∈ (blockTexts blocks).dropLast, text = ""
  tools : ∀ block ∈ blocks.dropWhile isTool, block.isTool = false
  arguments : ∀ id name input deltas, .toolUse id name input deltas ∈ blocks →
    String.join deltas = marshal (some input)
  reason : stopReason ≠ "null"

/-! ## The chunks -/

theorem claudeChunks_eq {events : List (ClaudeEvent ω)}
    (sound : ∀ event ∈ events, event.derefsNil = false) :
    claudeChunks events = .ok (events.filterMap ClaudeEvent.chunk?) := by
  have converted : events.mapM streamResponseClaude2OpenAI =
      .ok (events.map ClaudeEvent.chunk?) := by
    induction events with
    | nil => rfl
    | cons event events ih =>
      obtain ⟨here, later⟩ := forall_mem_cons.mp sound
      have step : streamResponseClaude2OpenAI event = .ok event.chunk? := by
        rw [streamResponseClaude2OpenAI, here, if_neg Bool.false_ne_true]
      rw [mapM_cons, step, ih later]
      rfl
  rw [claudeChunks, converted, Except.map, filterMap_map]
  rfl

theorem derefsNil_of_type {event : ClaudeEvent ω} (other : event.type ≠ .contentBlockDelta) :
    event.derefsNil = false := by
  simp [ClaudeEvent.derefsNil, other]

theorem blockEvents_sound (index : Int) (blocks : List (StreamedBlock ω)) :
    ∀ event ∈ blockEvents index blocks, event.derefsNil = false := by
  induction blocks generalizing index with
  | nil => exact forall_mem_nil _
  | cons block blocks ih =>
    refine forall_mem_append.mpr ⟨forall_mem_cons.mpr ⟨derefsNil_of_type nofun, ?_⟩,
      ih (index + 1)⟩
    rw [forall_mem_map]
    cases block with
    | text | toolUse =>
      rw [deltas, forall_mem_map]
      exact fun _ _ => rfl
    | thinking =>
      rw [deltas, forall_mem_append, forall_mem_map]
      refine ⟨fun _ _ => rfl, fun signature member => ?_⟩
      rw [eq_of_mem_replicate member]
      rfl

variable {id model stopReason : String} {blocks : List (StreamedBlock ω)}
  {events : List (ClaudeEvent ω)}

theorem StreamsMessage.sound (streams : StreamsMessage id model stopReason blocks events) :
    ∀ event ∈ events, event.derefsNil = false := by
  have sent : ∀ event ∈ events.filter (·.type ≠ .other), event.derefsNil = false := by
    rw [streams]
    simp only [forall_mem_append, forall_mem_cons]
    exact ⟨⟨⟨derefsNil_of_type nofun, forall_mem_nil _⟩, blockEvents_sound 0 blocks⟩,
      derefsNil_of_type nofun, derefsNil_of_type nofun, forall_mem_nil _⟩
  intro event member
  by_cases other : event.type = .other
  · exact derefsNil_of_type (by rw [other]; exact nofun)
  · exact sent event (mem_filter.mpr ⟨member, decide_eq_true other⟩)

/-! ## The client -/

def ChatReader.see (reader : ChatReader) (event : ClaudeEvent ω) : ChatReader :=
  match event.chunk? with
  | none => reader
  | some response => reader.read response

theorem foldl_see (reader : ChatReader) (events : List (ClaudeEvent ω)) :
    (events.filterMap ClaudeEvent.chunk?).foldl read reader = events.foldl see reader := by
  rw [foldl_filterMap]
  apply foldl_ext
  intro reader event _
  rw [see]
  cases event.chunk? <;> rfl

section Deltas

variable (reader : ChatReader) (index : Int)

theorem foldl_textDeltas (pieces : List String) :
    (pieces.map fun piece => deltaEvent index
        ({ type := .textDelta, text := some piece } : ClaudeMedia ω)).foldl see reader =
      { reader with content := reader.content ++ String.join pieces } := by
  induction pieces generalizing reader with
  | nil =>
    rw [String.join_nil, String.append_empty]
    rfl
  | cons piece pieces ih =>
    rw [map_cons, foldl_cons, ih, String.join_cons, ← String.append_assoc]
    rfl

theorem content_append_empty : { reader with content := reader.content ++ "" } = reader := by
  rw [String.append_empty]

variable {reader index}

theorem see_toolStart (new : ∀ entry ∈ reader.toolCalls, entry.1 < index) (id name : String) :
    reader.see (startEvent index ({ type := .toolUse, id := id, name := name } : ClaudeMedia ω)) =
      { reader with toolCalls := reader.toolCalls ++ [(index, ⟨id, name, ""⟩)] } := by
  have read : reader.see (startEvent index
      ({ type := .toolUse, id := id, name := name } : ClaudeMedia ω)) =
        { reader with
          content := reader.content ++ ""
          toolCalls := readFragment reader.toolCalls
            { index := some index, id := id, name := name, arguments := "" } } := rfl
  rw [read, String.append_empty, readFragment, upsert_of_not]
  · rfl
  · intro entry member
    exact decide_eq_false (Int.ne_of_lt (new entry member))

variable {front : List (Int × ToolCallRequest)} {name sent : String}

theorem see_inputDelta (calls : reader.toolCalls = front ++ [(index, ⟨id, name, sent⟩)])
    (new : ∀ entry ∈ front, entry.1 < index) (piece : String) :
    reader.see (deltaEvent index
      ({ type := .inputJsonDelta, partialJson := some piece } : ClaudeMedia ω)) =
        { reader with toolCalls := front ++ [(index, ⟨id, name, sent ++ piece⟩)] } := by
  have read : reader.see (deltaEvent index
      ({ type := .inputJsonDelta, partialJson := some piece } : ClaudeMedia ω)) =
        { reader with
          content := reader.content ++ ""
          toolCalls := readFragment reader.toolCalls
            { index := some index, arguments := piece } } := rfl
  rw [read, String.append_empty, readFragment, calls, upsert_last]
  · simp [ToolCallRequest.extend]
  · intro entry member
    exact decide_eq_false (Int.ne_of_lt (new entry member))
  · exact decide_eq_true rfl

theorem foldl_inputDeltas (calls : reader.toolCalls = front ++ [(index, ⟨id, name, sent⟩)])
    (new : ∀ entry ∈ front, entry.1 < index) (pieces : List String) :
    (pieces.map fun piece => deltaEvent index
        ({ type := .inputJsonDelta, partialJson := some piece } : ClaudeMedia ω)).foldl see reader =
      { reader with toolCalls := front ++ [(index, ⟨id, name, sent ++ String.join pieces⟩)] } := by
  induction pieces generalizing reader sent with
  | nil =>
    rw [String.join_nil, String.append_empty, ← calls]
    rfl
  | cons piece pieces ih =>
    rw [map_cons, foldl_cons, see_inputDelta calls new, ih rfl, String.join_cons,
      ← String.append_assoc]

end Deltas

theorem foldl_block {reader : ChatReader} {index : Int}
    (new : ∀ entry ∈ reader.toolCalls, entry.1 < index) (block : StreamedBlock ω) :
    (block.events index).foldl see reader =
      { reader with
        content := reader.content ++ block.text?.getD ""
        toolCalls := reader.toolCalls ++ (block.call?.map fun call => (index, call)).toList } := by
  rw [events, foldl_cons]
  cases block with
  | text started pieces =>
    have start : reader.see (startEvent index (text started pieces : StreamedBlock ω).start) =
        { reader with content := reader.content ++ started.getD "" } := by
      cases started with
      | none | some => rfl
    rw [start, deltas, map_map, Function.comp_def, foldl_textDeltas]
    simp [text?, call?, String.append_assoc]
  | thinking pieces signatures =>
    have start : reader.see
        (startEvent index (thinking pieces signatures : StreamedBlock ω).start) = reader :=
      content_append_empty reader
    rw [start]
    refine (foldlRecOn (motive := (· = reader)) _ _ rfl ?_).trans ?_
    · rintro _ rfl event member
      obtain ⟨_, inside, rfl⟩ := mem_map.mp member
      cases mem_append.mp inside with
      | inl thought =>
        obtain ⟨_, -, rfl⟩ := mem_map.mp thought
        exact content_append_empty _
      | inr signature =>
        rw [eq_of_mem_replicate signature]
        exact content_append_empty _
    · simp [text?, call?]
  | toolUse id name input pieces =>
    have start : reader.see (startEvent index
        (toolUse id name input pieces).start) =
          { reader with toolCalls := reader.toolCalls ++ [(index, ⟨id, name, ""⟩)] } :=
      see_toolStart new id name
    rw [start, deltas, map_map, Function.comp_def, foldl_inputDeltas rfl new,
      String.empty_append]
    simp [text?, call?]

/-- What a client has read after the blocks. -/
theorem foldl_blockEvents {reader : ChatReader} {index : Int}
    (new : ∀ entry ∈ reader.toolCalls, entry.1 < index) (blocks : List (StreamedBlock ω)) :
    (blockEvents index blocks).foldl see reader =
      { reader with
        content := reader.content ++ String.join (blockTexts blocks)
        toolCalls := reader.toolCalls ++ toolsFrom index blocks } := by
  induction blocks generalizing reader index with
  | nil =>
    have empty : String.join (blockTexts ([] : List (StreamedBlock ω))) = "" := rfl
    rw [empty, String.append_empty, toolsFrom, append_nil]
    rfl
  | cons block blocks ih =>
    have later : ∀ entry ∈ reader.toolCalls ++
        (block.call?.map fun call => (index, call)).toList, entry.1 < index + 1 := by
      intro entry member
      cases mem_append.mp member with
      | inl old => exact Int.lt_trans (new entry old) (Int.lt_succ index)
      | inr added =>
        obtain ⟨_, -, rfl⟩ := Option.mem_map.mp (Option.mem_toList.mp added)
        exact Int.lt_succ index
    have texts : String.join (blockTexts (block :: blocks)) =
        block.text?.getD "" ++ String.join (blockTexts blocks) := by
      rw [blockTexts, filterMap_cons]
      cases block.text? with
      | none => rw [Option.getD_none, String.empty_append, blockTexts]
      | some => rw [String.join_cons, Option.getD_some, blockTexts]
    rw [blockEvents, foldl_append, foldl_block new, ih later, texts, toolsFrom,
      String.append_assoc, append_assoc]

theorem see_messageDelta {reader : ChatReader} (running : reader.finishReason = none)
    (stopReason : String) :
    reader.see (messageDeltaEvent stopReason : ClaudeEvent ω) =
      { reader with
        finishReason :=
          if stopReasonClaude2OpenAI stopReason ≠ "null" then
            some (stopReasonClaude2OpenAI stopReason)
          else none } := by
  have read : reader.see (messageDeltaEvent stopReason : ClaudeEvent ω) =
      { reader with
        content := reader.content ++ ""
        finishReason := (messageDeltaEvent stopReason : ClaudeEvent ω).finishReason.or
          reader.finishReason } := rfl
  rw [read, String.append_empty, running, Option.or_none, ClaudeEvent.finishReason,
    messageDeltaEvent, Option.bind_some, Option.bind_some]

theorem foldl_streamsMessage (streams : StreamsMessage id model stopReason blocks events) :
    events.foldl see {} =
      { content := String.join (blockTexts blocks)
        toolCalls := toolsFrom 0 blocks
        finishReason :=
          if stopReasonClaude2OpenAI stopReason ≠ "null" then
            some (stopReasonClaude2OpenAI stopReason)
          else none } := by
  -- the other events are not sent
  have sent : (events.filter (·.type ≠ .other)).foldl see {} = events.foldl see {} := by
    rw [foldl_filter]
    congr 1
    funext reader event
    split
    next => rfl
    next other =>
      have isOther : event.type = .other := by simpa using other
      simp [see, ClaudeEvent.chunk?, ClaudeEvent.choice?, isOther]
  rw [← sent, streams, foldl_append, foldl_append]
  have started : [(messageStartEvent id model : ClaudeEvent ω)].foldl see {} = {} := rfl
  have read := @foldl_blockEvents ω {} 0 nofun blocks
  have empty : ({} : ChatReader).content ++ String.join (blockTexts blocks) =
      String.join (blockTexts blocks) := String.empty_append
  rw [started, read, empty, nil_append, foldl_cons, foldl_cons, foldl_nil,
    see_messageDelta rfl]
  rfl

/-! ## The whole message -/

def wholeCalls (marshal : Option ω → String) (blocks : List (StreamedBlock ω)) :
    List ToolCallRequest :=
  blocks.filterMap fun
    | .toolUse id name input _ => some ⟨id, name, marshal (some input)⟩
    | .text _ _ | .thinking _ _ => none

variable (marshal : Option ω → String) {block : StreamedBlock ω}

theorem wholeCalls_toolUse (id name : String) (input : ω) (deltas : List String)
    (blocks : List (StreamedBlock ω)) :
    wholeCalls marshal (.toolUse id name input deltas :: blocks) =
      ⟨id, name, marshal (some input)⟩ :: wholeCalls marshal blocks := rfl

theorem foldl_content (pass : ContentPass) (blocks : List (StreamedBlock ω)) :
    ((blocks.map whole).foldl (ContentPass.block marshal) pass).responseText =
        (blockTexts blocks).getLast?.getD pass.responseText ∧
      ((blocks.map whole).foldl (ContentPass.block marshal) pass).tools =
        pass.tools ++ wholeCalls marshal blocks := by
  induction blocks generalizing pass with
  | nil => exact ⟨rfl, (append_nil _).symm⟩
  | cons block blocks ih =>
    rw [map_cons, foldl_cons]
    obtain ⟨text, tools⟩ := ih (pass.block marshal block.whole)
    rw [text, tools]
    cases block with
    | text =>
      exact ⟨(congrArg (Option.getD · pass.responseText) getLast?_cons).symm, rfl⟩
    | thinking => exact ⟨rfl, rfl⟩
    | toolUse =>
      refine ⟨rfl, ?_⟩
      rw [wholeCalls_toolUse, append_cons]
      rfl

theorem chatMessage_claude (id model stopReason : String) (blocks : List (StreamedBlock ω)) :
    (responseClaude2OpenAI marshal id model stopReason (blocks.map whole)).chatMessage =
      ⟨(blockTexts blocks).getLast?.getD "", wholeCalls marshal blocks,
        some (stopReasonClaude2OpenAI stopReason)⟩ := by
  have first : (blockTexts blocks).getLast?.getD
      ((((blocks.map whole).head?).bind ClaudeMedia.text).getD "") =
        (blockTexts blocks).getLast?.getD "" := by
    cases last : (blockTexts blocks).getLast? with
    | some => rfl
    | none =>
      have none := getLast?_eq_none_iff.mp last
      cases blocks with
      | nil => rfl
      | cons block =>
        cases block with
        | text => cases none
        | thinking | toolUse => rfl
  obtain ⟨text, tools⟩ := foldl_content marshal
    { responseText := (((blocks.map whole).head?).bind ClaudeMedia.text).getD "" }
    blocks
  simp only [responseClaude2OpenAI, ClaudeTextResponse.chatMessage, Message.stringContent,
    Message.parseToolCalls, text, tools, first, nil_append]
  by_cases none : wholeCalls marshal blocks = []
  · simp [none]
  · simp [none]

/-! ## Agreement -/

theorem stopReason_null_iff (reason : String) :
    stopReasonClaude2OpenAI reason = "null" ↔ reason = "null" := by
  constructor
  · unfold stopReasonClaude2OpenAI
    split
    next => exact fun wrong => absurd wrong (by decide)
    next => exact fun wrong => absurd wrong (by decide)
    next => exact fun wrong => absurd wrong (by decide)
    next => exact fun wrong => absurd wrong (by decide)
    next => exact fun wrong => absurd wrong (by decide)
    next => exact fun same => same
  · intro isNull
    rw [isNull]
    decide

theorem join_eq_last_iff (texts : List String) :
    String.join texts = texts.getLast?.getD "" ↔ ∀ text ∈ texts.dropLast, text = "" := by
  cases eq_nil_or_concat texts with
  | inl empty =>
    rw [empty]
    exact iff_of_true rfl nofun
  | inr split =>
    obtain ⟨_, last, rfl⟩ := split
    rw [concat_eq_append, getLast?_append, getLast?_singleton, Option.some_or,
      Option.getD_some, dropLast_concat, String.join_append, ← Text.join_eq_empty_iff]
    have one : String.join [last] = last := by
      rw [String.join_cons, String.join_nil, String.append_empty]
    rw [one]
    constructor
    · intro same
      have long := congrArg String.length same
      rw [String.length_append] at long
      exact String.length_eq_zero_iff.mp (by omega)
    · intro empty
      rw [empty, String.empty_append]

theorem exists_of_isTool (tool : block.isTool = true) :
    ∃ id name input deltas, block = .toolUse id name input deltas := by
  cases block with
  | text | thinking => cases tool
  | toolUse id name input deltas => exact ⟨id, name, input, deltas, rfl⟩

variable (index : Int)

theorem toolsFrom_toolUse (id name : String) (input : ω) (deltas : List String)
    (blocks : List (StreamedBlock ω)) :
    toolsFrom index (.toolUse id name input deltas :: blocks) =
      (index, ⟨id, name, String.join deltas⟩) :: toolsFrom (index + 1) blocks := rfl

theorem toolsFrom_other (other : block.isTool = false) (index : Int)
    (blocks : List (StreamedBlock ω)) :
    toolsFrom index (block :: blocks) = toolsFrom (index + 1) blocks := by
  cases block with
  | text | thinking => rfl
  | toolUse => cases other

section

variable (blocks : List (StreamedBlock ω))

/-- The streamed tool calls are those of the whole message exactly where the arguments are. -/
theorem calls_eq_iff (index : Int) :
    (toolsFrom index blocks).map Prod.snd = wholeCalls marshal blocks ↔
      ∀ id name input deltas, .toolUse id name input deltas ∈ blocks →
        String.join deltas = marshal (some input) := by
  induction blocks generalizing index with
  | nil => exact iff_of_true rfl fun _ _ _ _ member => absurd member not_mem_nil
  | cons block blocks ih =>
    cases tool : block.isTool with
    | false =>
      have whole : wholeCalls marshal (block :: blocks) = wholeCalls marshal blocks := by
        cases block with
        | text | thinking => rfl
        | toolUse => cases tool
      rw [toolsFrom_other tool, whole, ih]
      constructor
      · intro later id name input deltas member
        cases mem_cons.mp member with
        | inl isThis =>
          rw [← isThis] at tool
          cases tool
        | inr after => exact later _ _ _ _ after
      · intro all id name input deltas member
        exact all _ _ _ _ (mem_cons_of_mem _ member)
    | true =>
      obtain ⟨id, name, input, deltas, rfl⟩ := exists_of_isTool tool
      rw [toolsFrom_toolUse, wholeCalls_toolUse, map_cons, cons.injEq, ih]
      constructor
      · rintro ⟨same, later⟩ otherId otherName otherInput otherDeltas member
        cases mem_cons.mp member with
        | inl isThis =>
          cases isThis
          exact congrArg ToolCallRequest.arguments same
        | inr after => exact later _ _ _ _ after
      · intro all
        refine ⟨?_, fun _ _ _ _ member => all _ _ _ _ (mem_cons_of_mem _ member)⟩
        rw [all id name input deltas mem_cons_self]

theorem index_le_toolsFrom : ∀ entry ∈ toolsFrom index blocks, index ≤ entry.1 := by
  induction blocks generalizing index with
  | nil => exact fun entry member => absurd member not_mem_nil
  | cons block blocks ih =>
    intro entry member
    cases mem_append.mp member with
    | inl here =>
      obtain ⟨_, -, rfl⟩ := Option.mem_map.mp (Option.mem_toList.mp here)
      exact Int.le_refl index
    | inr later => exact Int.le_trans (Int.le_of_lt (Int.lt_succ index)) (ih _ entry later)

theorem toolsFrom_eq_nil_iff :
    toolsFrom index blocks = [] ↔ ∀ block ∈ blocks, block.isTool = false := by
  induction blocks generalizing index with
  | nil => exact iff_of_true rfl nofun
  | cons block blocks ih =>
    rw [toolsFrom, append_eq_nil_iff, ih, forall_mem_cons]
    cases block with
    | text | thinking | toolUse => simp [call?, isTool]

/-- The indices are the numbers of the tool calls exactly where the tool calls come first. -/
theorem numbered_iff :
    toolsFrom index blocks = Lib.numbered index ((toolsFrom index blocks).map Prod.snd) ↔
      ∀ block ∈ blocks.dropWhile isTool, block.isTool = false := by
  induction blocks generalizing index with
  | nil => exact iff_of_true rfl nofun
  | cons block blocks ih =>
    cases tool : block.isTool with
    | true =>
      obtain ⟨_, _, _, _, rfl⟩ := exists_of_isTool tool
      rw [toolsFrom_toolUse, map_cons, Lib.numbered, List.cons.injEq,
        dropWhile_cons_of_pos tool, ← ih (index + 1)]
      exact and_iff_right rfl
    | false =>
      -- a tool call after this block has a greater index
      rw [toolsFrom_other tool, dropWhile_cons_of_neg (Bool.eq_false_iff.mp tool),
        forall_mem_cons, and_iff_right tool, ← toolsFrom_eq_nil_iff (index + 1)]
      constructor
      · intro same
        cases tools : toolsFrom (index + 1) blocks with
        | nil => rfl
        | cons entry =>
          have later := index_le_toolsFrom (index + 1) blocks entry
            (by rw [tools]; exact mem_cons_self)
          rw [tools, map_cons, Lib.numbered, List.cons.injEq] at same
          have first : entry.1 = index := congrArg Prod.fst same.1
          omega
      · intro empty
        rw [empty]
        rfl

end

/-- The streamed message is the whole one, with the tool calls numbered from 0 on, exactly where
the blocks are aligned. -/
theorem claude_agree_iff (marshal : Option ω → String)
    (streams : StreamsMessage id model stopReason blocks events) :
    (∃ chunks, claudeChunks events = .ok chunks ∧
      assembled chunks = (responseClaude2OpenAI marshal id model stopReason
        (blocks.map StreamedBlock.whole)).chatMessage ∧
      (chunks.foldl ChatReader.read {}).toolCalls = Lib.numbered 0 (assembled chunks).toolCalls) ↔
      Aligned marshal stopReason blocks := by
  have chunks := claudeChunks_eq streams.sound
  have read := foldl_streamsMessage streams
  rw [← foldl_see] at read
  simp only [chunks, Except.ok.injEq, exists_eq_left', assembled, read, ChatReader.message,
    chatMessage_claude, ChatMessage.mk.injEq, numbered_iff, calls_eq_iff, join_eq_last_iff]
  constructor
  · rintro ⟨⟨texts, arguments, reason⟩, tools⟩
    refine ⟨texts, tools, arguments, fun isNull => ?_⟩
    rw [if_neg (not_not.mpr ((stopReason_null_iff stopReason).mpr isNull))] at reason
    cases reason
  · intro aligned
    refine ⟨⟨aligned.texts, aligned.arguments, ?_⟩, aligned.tools⟩
    rw [if_pos (mt (stopReason_null_iff stopReason).mp aligned.reason)]

/-- The events of these blocks and nothing else. -/
def plainClaudeEvents (blocks : List (StreamedBlock String)) : List (ClaudeEvent String) :=
  [messageStartEvent "msg_1" "claude"] ++ blockEvents 0 blocks ++
    [messageDeltaEvent "tool_use", { type := .messageStop }]

/-- A tool call whose arguments come in two pieces. -/
def weatherTool : StreamedBlock String := .toolUse "toolu_1" "weather" "\x7b\x7d" ["\x7b", "\x7d"]

/-- A text of two pieces. -/
def rainText : StreamedBlock String := .text (some "") ["It ", "rains."]

/-- The tool call comes first. -/
theorem claude_agree_toolFirst :
    StreamsMessage "msg_1" "claude" "tool_use" [weatherTool, rainText]
        (plainClaudeEvents [weatherTool, rainText]) ∧
      ∃ chunks, claudeChunks (plainClaudeEvents [weatherTool, rainText]) = .ok chunks ∧
        assembled chunks = (responseClaude2OpenAI (fun input => input.getD "null") "msg_1" "claude"
          "tool_use" ([weatherTool, rainText].map whole)).chatMessage ∧
        (chunks.foldl read {}).toolCalls =
          Lib.numbered 0 (assembled chunks).toolCalls := by
  have streams : StreamsMessage "msg_1" "claude" "tool_use" [weatherTool, rainText]
      (plainClaudeEvents [weatherTool, rainText]) := by
    unfold StreamsMessage
    decide
  refine ⟨streams, (claude_agree_iff _ streams).mpr ⟨by decide, by decide, ?_, by decide⟩⟩
  exact (calls_eq_iff (fun input => input.getD "null") [weatherTool, rainText] 0).mp (by decide)

/-- After a text the tool call has the index 1. -/
theorem claude_disagree :
    StreamsMessage "msg_1" "claude" "tool_use" [rainText, weatherTool]
        (plainClaudeEvents [rainText, weatherTool]) ∧
      ¬ ∃ chunks, claudeChunks (plainClaudeEvents [rainText, weatherTool]) = .ok chunks ∧
        assembled chunks = (responseClaude2OpenAI (fun input => input.getD "null") "msg_1" "claude"
          "tool_use" ([rainText, weatherTool].map whole)).chatMessage ∧
        (chunks.foldl read {}).toolCalls =
          Lib.numbered 0 (assembled chunks).toolCalls := by
  constructor
  · unfold StreamsMessage
    decide
  · rintro ⟨chunks, converted, -, numbered⟩
    have done : claudeChunks (plainClaudeEvents [rainText, weatherTool]) =
        .ok ((plainClaudeEvents [rainText, weatherTool]).filterMap ClaudeEvent.chunk?) := by
      decide
    cases converted.symm.trans done
    exact absurd numbered (by decide)

end StuHelper.Relay
