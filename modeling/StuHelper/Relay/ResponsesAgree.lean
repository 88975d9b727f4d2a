import StuHelper.Relay.ResponsesChat

/-!
# Streamed and whole Responses output

`ResponsesResponseToChatCompletionsResponse` converts a whole response.  It gives the tool
calls only where there is no text.  The stream handler cannot know whether text will come: it
sends tool calls until there is text.  The two agree exactly where no tool call comes before
the text, and where, without text, the ids of the tool calls are distinct.
-/

namespace StuHelper.Relay

open Lib Text List

/-! ## The whole response -/

/-- `dto.OpenAITextResponse` with its only choice. -/
structure OpenAITextResponse where
  id : String
  model : String
  message : Message
  finishReason : String
  usage : Usage
  /-- `Usage.TotalTokens`. -/
  totalTokens : Int
  deriving DecidableEq, Repr

/-- The texts that an item adds to the output text. -/
def ResponsesOutput.outputTexts (out : ResponsesOutput) : List String :=
  if out.type ≠ "message" then []
  else if out.role ≠ "" ∧ out.role ≠ "assistant" then []
  else (out.content.filter fun (type, text) => type = "output_text" ∧ text ≠ "").map Prod.snd

def extractOutputTextFromResponses (output : List ResponsesOutput) : String :=
  let text := String.join (output.flatMap ResponsesOutput.outputTexts)
  if text ≠ "" then text
  else String.join ((output.flatMap fun out => out.content.map Prod.snd).filter (· ≠ ""))

def ResponsesOutput.toolCall? (out : ResponsesOutput) : Option ToolCallRequest :=
  if out.type ≠ "function_call" then none
  else
    let name := trimSpace out.name
    if name = "" then none else some ⟨out.callID, name, out.arguments⟩

/-- `ResponsesResponseToChatCompletionsResponse` for a response with this output.  The usage is
copied as in the stream. -/
def responsesResponseToChatCompletionsResponse (resp : ResponsesResponse)
    (output : List ResponsesOutput) (id : String) : OpenAITextResponse :=
  let text := extractOutputTextFromResponses output
  let toolCalls := if text = "" then output.filterMap ResponsesOutput.toolCall? else []
  let message : Message := { role := "assistant", content := some (.string text) }
  { id := id
    model := resp.model
    message := if toolCalls ≠ [] then
        { message with content := some (.string ""), toolCalls := some toolCalls }
      else message
    finishReason := if toolCalls ≠ [] then "tool_calls" else "stop"
    usage := (completedUsage resp {}).usage
    totalTokens := (completedUsage resp {}).totalTokens }

/-- The message that a client finds in a response. -/
def OpenAITextResponse.chatMessage (response : OpenAITextResponse) : ChatMessage :=
  { content := response.message.stringContent
    toolCalls := response.message.parseToolCalls
    finishReason := some response.finishReason }

/-! ## Streams -/

/-- A function call and how it is streamed: the arguments that are there when the item is added,
the pieces that follow, and what only the finished item has. -/
structure StreamedCall where
  id : String
  callId : String
  name : String
  added : String
  deltas : List String
  rest : String
  named : trimSpace name ≠ ""
  identified : trimSpace callId ≠ ""
  deriving DecidableEq, Repr

/-- An item of the output: a message of the assistant whose output texts come in pieces, or a
function call. -/
inductive StreamedItem where
  | message (id : String) (parts : List (List String))
  | functionCall (call : StreamedCall)
  deriving DecidableEq, Repr

open StreamedItem

def StreamedCall.item (call : StreamedCall) (arguments : String) : ResponsesOutput :=
  { type := "function_call"
    id := call.id
    callId := call.callId
    name := call.name
    arguments := arguments }

def StreamedCall.arguments (call : StreamedCall) : String :=
  call.added ++ String.join call.deltas ++ call.rest

namespace StreamedItem

/-- The finished item. -/
def output : StreamedItem → ResponsesOutput
  | .message id parts =>
    { type := "message"
      id := id
      role := "assistant"
      content := parts.map fun deltas => ("output_text", String.join deltas) }
  | .functionCall call => call.item call.arguments

def events : StreamedItem → List ResponsesEvent
  | .message id parts =>
    .outputItemAdded (some { type := "message", id := id, role := "assistant" }) ::
      (parts.flatten.map .outputTextDelta ++ [.outputItemDone (some (output (.message id parts)))])
  | .functionCall call =>
    .outputItemAdded (some (call.item call.added)) ::
      (call.deltas.map (.functionCallArgumentsDelta call.id) ++
        [.outputItemDone (some (call.item call.arguments))])

def text : StreamedItem → String
  | .message _ parts => String.join parts.flatten
  | .functionCall _ => ""

def call? : StreamedItem → Option StreamedCall
  | .message _ _ => none
  | .functionCall call => some call

end StreamedItem

/-- The id under which a function call is known. -/
def StreamedCall.callID (call : StreamedCall) : String := trimSpace call.callId

/-- The event carries a part of the output or the end. -/
def ResponsesEvent.carries : ResponsesEvent → Bool
  | .outputTextDelta _ | .outputItemAdded _ | .outputItemDone _ | .functionCallArgumentsDelta _ _
  | .completed _ | .failed => true
  | .created _ | .reasoningSummaryTextDelta _ | .reasoningSummaryTextDone
  | .functionCallArgumentsDone | .other => false

/-- The events stream these items one after the other, then complete the response.  Other events
may come anywhere. -/
def Streams (items : List StreamedItem) (resp : ResponsesResponse) (events : List ResponsesEvent) :
    Prop :=
  events.filter ResponsesEvent.carries =
    items.flatMap StreamedItem.events ++ [.completed (some resp)]

def outputText (items : List StreamedItem) : String := String.join (items.map text)

/-- No function call comes before the text; where there is no text, the ids of the function calls
are distinct. -/
def Settles (items : List StreamedItem) : Prop :=
  if outputText items = "" then
    ((items.filterMap call?).map StreamedCall.callID).Nodup
  else ∀ item ∈ items.takeWhile (·.text = ""), item.call? = none

instance (items : List StreamedItem) (resp : ResponsesResponse) (events : List ResponsesEvent) :
    Decidable (Streams items resp events) :=
  inferInstanceAs (Decidable (_ = _))

instance (items : List StreamedItem) : Decidable (Settles items) :=
  inferInstanceAs (Decidable (if outputText items = "" then
    ((items.filterMap call?).map StreamedCall.callID).Nodup
    else ∀ item ∈ items.takeWhile (·.text = ""), item.call? = none))

/-! ## The message of the whole response -/

theorem join_outputTexts (item : StreamedItem) :
    String.join item.output.outputTexts = item.text := by
  cases item with
  | functionCall => rfl
  | message id parts =>
    have filtered : (message id parts).output.outputTexts =
        (parts.map String.join).filter (· ≠ "") := by
      simp [output, ResponsesOutput.outputTexts, filter_map, Function.comp_def]
    rw [filtered, join_filter_ne_empty, text, ← flatMap_id, join_flatMap]
    rfl

theorem join_content (item : StreamedItem) :
    String.join (item.output.content.map Prod.snd) = item.text := by
  cases item with
  | functionCall => rfl
  | message =>
    rw [text, ← flatMap_id, join_flatMap, output, map_map]
    rfl

variable (items : List StreamedItem)

theorem extractOutputText_eq :
    extractOutputTextFromResponses (items.map output) = outputText items := by
  have texts : String.join ((items.map output).flatMap ResponsesOutput.outputTexts) =
      outputText items := by
    rw [join_flatMap, map_map, outputText]
    exact congrArg String.join (map_congr_left fun item _ => join_outputTexts item)
  have contents : String.join ((items.map output).flatMap
      fun out => out.content.map Prod.snd) = outputText items := by
    rw [join_flatMap, map_map, outputText]
    exact congrArg String.join (map_congr_left fun item _ => join_content item)
  rw [extractOutputTextFromResponses, texts, join_filter_ne_empty, contents]
  exact ite_self _

def StreamedCall.request (call : StreamedCall) : ToolCallRequest :=
  ⟨call.callID, trimSpace call.name, call.arguments⟩

theorem StreamedCall.item_callID (call : StreamedCall) (arguments : String) :
    (call.item arguments).callID = call.callID :=
  if_neg call.identified

theorem StreamedCall.item_toolCall? (call : StreamedCall) :
    (call.item call.arguments).toolCall? = some call.request := by
  have isCall : ¬ (call.item call.arguments).type ≠ "function_call" := not_not.mpr rfl
  have named : ¬ trimSpace (call.item call.arguments).name = "" := call.named
  rw [ResponsesOutput.toolCall?, if_neg isCall]
  simp only [if_neg named, call.item_callID]
  rfl

def requests (items : List StreamedItem) : List ToolCallRequest :=
  (items.filterMap call?).map StreamedCall.request

theorem toolCalls_eq : (items.map output).filterMap ResponsesOutput.toolCall? = requests items := by
  rw [filterMap_map, requests, map_filterMap]
  apply filterMap_congr
  intro item _
  cases item with
  | message => rfl
  | functionCall call =>
    simp only [Function.comp_apply, output, call?,
      call.item_toolCall?, Option.map_some]

theorem chatMessage_eq (resp : ResponsesResponse) (items : List StreamedItem) (id : String) :
    (responsesResponseToChatCompletionsResponse resp (items.map output) id).chatMessage =
      if outputText items = "" then
        ⟨"", requests items, some (if requests items ≠ [] then "tool_calls" else "stop")⟩
      else ⟨outputText items, [], some "stop"⟩ := by
  simp only [responsesResponseToChatCompletionsResponse, extractOutputText_eq, toolCalls_eq]
  by_cases mute : outputText items = ""
  · by_cases none : requests items = []
    · simp [mute, none, OpenAITextResponse.chatMessage, Message.stringContent,
        Message.parseToolCalls]
    · simp [mute, none, OpenAITextResponse.chatMessage, Message.stringContent,
        Message.parseToolCalls]
  · simp [mute, OpenAITextResponse.chatMessage, Message.stringContent, Message.parseToolCalls]

/-! ## The session of a stream -/

namespace Session

variable {session : Session}

/-- Only the events that carry something count. -/
theorem foldl_carries (session : Session) (events : List ResponsesEvent) :
    (events.filter ResponsesEvent.carries).foldl step session = events.foldl step session := by
  rw [foldl_filter]
  congr 1
  funext session event
  split
  next => rfl
  rename_i idle
  unfold step
  split
  · rfl
  cases event with
  | created | reasoningSummaryTextDelta => rfl
  | reasoningSummaryTextDone | functionCallArgumentsDone | other => rfl
  | outputTextDelta | outputItemAdded | outputItemDone => exact absurd rfl idle
  | functionCallArgumentsDelta | completed | failed => exact absurd rfl idle

/-- What happens while a function call is streamed: no text comes, tool calls are sent only where
there is no text, and the empty item id stands for no call. -/
structure Onward (before after : Session) : Prop where
  text : after.text = before.text
  finishReason : after.finishReason = before.finishReason
  failed : after.failed = before.failed
  calls : before.text ≠ "" → after.calls = before.calls
  grows : before.calls ≠ [] → after.calls ≠ []
  items : before.items "" = "" → after.items "" = ""

theorem Onward.refl (session : Session) : Onward session session :=
  ⟨rfl, rfl, rfl, fun _ => rfl, id, id⟩

theorem Onward.trans {first second third : Session} (here : Onward first second)
    (there : Onward second third) : Onward first third where
  text := there.text.trans here.text
  finishReason := there.finishReason.trans here.finishReason
  failed := there.failed.trans here.failed
  calls := fun spoken => (there.calls (here.text ▸ spoken)).trans (here.calls spoken)
  grows := there.grows ∘ here.grows
  items := there.items ∘ here.items

variable (callId name delta : String) {id : String}

theorem add_onward (session : Session) : Onward session (session.add callId name delta) := by
  unfold add
  split
  next => exact .refl session
  next sends =>
    rw [not_or, not_not] at sends
    exact ⟨rfl, rfl, rfl, fun spoken => absurd sends.2 spoken, fun _ => upsert_ne_nil _, id⟩

theorem item_onward (item : Option ResponsesOutput) (session : Session) :
    Onward session (session.item item) := by
  cases item with
  | none => exact .refl session
  | some item =>
    simp only [Session.item]
    split
    next => exact .refl session
    have learned : Onward session (session.learn item) := by
      refine ⟨rfl, rfl, rfl, fun _ => rfl, id, fun none => ?_⟩
      simp only [learn]
      split
      next known => exact (Function.update_of_ne (Ne.symm known.1) _ _).trans none
      next => exact none
    exact learned.trans (add_onward _ _ _ _)

theorem piece_onward (itemId delta : String) (session : Session) :
    Onward session (session.piece itemId delta) := by
  simp only [piece]
  split
  next => exact .refl session
  have noted : Onward session (session.lengthen (session.callOf itemId) delta) :=
    ⟨rfl, rfl, rfl, fun _ => rfl, id, id⟩
  exact noted.trans (add_onward _ _ _ _)

theorem item_of_other {item : ResponsesOutput} (other : item.type ≠ "function_call")
    (session : Session) : session.item (some item) = session := by
  simp only [Session.item, if_pos other]

section Alive

variable (alive : session.failed = false)

include alive

theorem step_added (item : Option ResponsesOutput) :
    session.step (.outputItemAdded item) = session.item item :=
  if_neg (alive ▸ Bool.false_ne_true)

theorem step_done (item : Option ResponsesOutput) :
    session.step (.outputItemDone item) = session.item item :=
  if_neg (alive ▸ Bool.false_ne_true)

theorem step_delta (itemId delta : String) :
    session.step (.functionCallArgumentsDelta itemId delta) = session.piece itemId delta :=
  if_neg (alive ▸ Bool.false_ne_true)

theorem step_text (delta : String) :
    session.step (.outputTextDelta delta) = { session with text := session.text ++ delta } :=
  if_neg (alive ▸ Bool.false_ne_true)

theorem foldl_deltas_onward (itemId : String) (deltas : List String) :
    Onward session ((deltas.map (.functionCallArgumentsDelta itemId)).foldl step session) := by
  induction deltas generalizing session with
  | nil => exact .refl session
  | cons delta deltas ih =>
    rw [map_cons, foldl_cons, step_delta alive]
    have here := piece_onward itemId delta session
    exact here.trans (ih (here.failed.trans alive))

theorem functionCall_onward (call : StreamedCall) :
    Onward session ((functionCall call).events.foldl step session) := by
  rw [events, foldl_cons, step_added alive, foldl_append]
  have added := item_onward (some (call.item call.added)) session
  have pieces := foldl_deltas_onward (added.failed.trans alive) call.id call.deltas
  have both := added.trans pieces
  rw [foldl_cons, foldl_nil, step_done (both.failed.trans alive)]
  exact both.trans (item_onward _ _)

theorem message_read (id : String) (parts : List (List String)) :
    (StreamedItem.message id parts).events.foldl step session =
      { session with text := session.text ++ String.join parts.flatten } := by
  have texts : ∀ deltas : List String, ∀ session : Session, session.failed = false →
      (deltas.map ResponsesEvent.outputTextDelta).foldl step session =
        { session with text := session.text ++ String.join deltas } := by
    intro deltas
    induction deltas with
    | nil => exact fun session _ => by simp
    | cons delta deltas ih =>
      intro session alive
      rw [map_cons, foldl_cons, step_text alive, ih, String.join_cons,
        ← String.append_assoc]
      exact alive
  rw [events, foldl_cons, step_added alive, foldl_append]
  rw [item_of_other (show "message" ≠ "function_call" by decide), texts _ _ alive,
    foldl_cons, foldl_nil, step_done]
  · exact item_of_other (show "message" ≠ "function_call" by decide) _
  · exact alive

end Alive

/-- The session while a function call is streamed that the session before had not heard of. -/
structure InProgress (before : Session) (call : StreamedCall) (sent : String) (session : Session) :
    Prop where
  text : session.text = ""
  failed : session.failed = false
  calls : session.calls = before.calls ++ [⟨call.callID, trimSpace call.name, sent⟩]
  here : session.arguments call.callID = sent
  elsewhere : ∀ id, id ≠ call.callID → session.arguments id = before.arguments id
  none : session.items "" = ""
  item : session.callOf call.id = if trimSpace call.id = "" then "" else call.callID

/-- The call is new to the session. -/
structure New (call : StreamedCall) (session : Session) : Prop where
  calls : call.callID ∉ session.calls.map ToolCallRequest.id
  arguments : session.arguments call.callID = ""

theorem remainingArguments_append (sent rest : String) :
    remainingArguments sent (sent ++ rest) = rest := by
  have isPrefix : sent.toList.isPrefixOf (sent ++ rest).toList = true := by
    rw [List.isPrefixOf_iff_prefix, String.toList_append]
    exact prefix_append _ _
  rw [remainingArguments, if_pos isPrefix]
  split
  next => rw [String.toList_append, drop_left, String.ofList_toList]
  next empty =>
    rw [not_not, String.append_eq_empty_iff] at empty
    exact empty.2.symm

theorem add_arguments (session : Session) :
    (session.add callId name delta).arguments = session.arguments := by
  unfold add
  split
  · rfl
  · rfl

theorem add_callOf (session : Session) (itemId : String) :
    (session.add callId name delta).callOf itemId = session.callOf itemId := by
  unfold add
  split
  · rfl
  · rfl

theorem add_last {callId : String} (some : callId ≠ "") (mute : session.text = "")
    {front : List ToolCallRequest} {name sent : String} (named : name ≠ "")
    (calls : session.calls = front ++ [⟨callId, name, sent⟩])
    (new : callId ∉ front.map ToolCallRequest.id) (again delta : String) :
    (session.add callId again delta).calls = front ++ [⟨callId, name, sent ++ delta⟩] := by
  rw [add, if_neg (not_or.mpr ⟨some, not_not.mpr mute⟩)]
  simp only [calls]
  rw [upsert_last]
  · simp [ToolCallRequest.extend, some, named]
  · intro call inside
    apply decide_eq_false
    exact fun same => new (mem_map.mpr ⟨call, inside, same⟩)
  · exact decide_eq_true rfl

theorem learn_here {call : StreamedCall} {arguments : String}
    (known : arguments = "" → session.arguments call.callID = "") :
    (session.learn (call.item arguments)).arguments call.callID = arguments := by
  simp only [learn, call.item_callID]
  split
  next => exact Function.update_self _ _ _
  next empty => exact (known (not_not.mp empty)).trans (not_not.mp empty).symm

theorem learn_elsewhere {call : StreamedCall} (arguments : String) (other : id ≠ call.callID) :
    (session.learn (call.item arguments)).arguments id = session.arguments id := by
  simp only [learn, call.item_callID]
  split
  next => exact Function.update_of_ne other _ _
  next => rfl

theorem learn_item {call : StreamedCall} (none : session.items "" = "") (arguments : String) :
    (session.learn (call.item arguments)).callOf call.id =
      if trimSpace call.id = "" then "" else call.callID := by
  have some : call.callID ≠ "" := call.identified
  have same : (call.item arguments).id = call.id := rfl
  simp only [callOf, learn, call.item_callID, same]
  by_cases noItem : trimSpace call.id = ""
  · simp [noItem, none]
  · simp [noItem, some]

theorem item_call (call : StreamedCall) (arguments : String) (session : Session) :
    session.item (some (call.item arguments)) =
      (session.learn (call.item arguments)).add call.callID (trimSpace call.name)
        (remainingArguments (session.arguments call.callID) arguments) := by
  have isCall : ¬ (call.item arguments).type ≠ "function_call" := not_not.mpr rfl
  simp only [item, if_neg isCall, call.item_callID]
  rfl

namespace InProgress

variable {before : Session} {call : StreamedCall} {sent : String}

theorem added (alive : before.failed = false) (mute : before.text = "")
    (none : before.items "" = "") (new : New call before) :
    InProgress before call call.added (before.item (some (call.item call.added))) := by
  have some : call.callID ≠ "" := call.identified
  have onward := item_onward (.some (call.item call.added)) before
  have all : remainingArguments (before.arguments call.callID) call.added = call.added := by
    rw [new.arguments]
    exact remainingArguments_append "" call.added
  rw [item_call, all] at onward ⊢
  constructor
  case text => exact onward.text.trans mute
  case failed => exact onward.failed.trans alive
  case none => exact onward.items none
  case calls =>
    have quiet : (before.learn (call.item call.added)).text = "" := mute
    rw [add, if_neg (not_or.mpr ⟨some, not_not.mpr quiet⟩)]
    apply upsert_of_not
    intro call inside
    apply decide_eq_false
    exact fun same => new.calls (mem_map.mpr ⟨call, inside, same⟩)
  case here =>
    rw [add_arguments]
    exact learn_here fun _ => new.arguments
  case elsewhere =>
    intro id other
    rw [add_arguments]
    exact learn_elsewhere _ other
  case item =>
    rw [add_callOf]
    exact learn_item none _

theorem piece (new : New call before) (progress : InProgress before call sent session)
    (delta : String) :
    InProgress before call (if trimSpace call.id = "" then sent else sent ++ delta)
      (session.piece call.id delta) := by
  have some : call.callID ≠ "" := call.identified
  have onward := piece_onward call.id delta session
  have item := progress.item
  by_cases noItem : trimSpace call.id = ""
  · rw [if_pos noItem] at item ⊢
    have same : session.piece call.id delta = session := by simp only [Session.piece, item, if_true]
    rw [same]
    exact progress
  · rw [if_neg noItem] at item ⊢
    have piece : session.piece call.id delta =
        (session.lengthen call.callID delta).add call.callID "" delta := by
      simp only [Session.piece, item, if_neg some]
    rw [piece] at onward ⊢
    constructor
    case text => exact onward.text.trans progress.text
    case failed => exact onward.failed.trans progress.failed
    case none => exact onward.items progress.none
    case calls =>
      exact @add_last (session.lengthen _ delta) _ some progress.text _ _ _ call.named
        progress.calls new.calls "" delta
    case here =>
      simp only [add_arguments, lengthen, Function.update_self, progress.here]
    case elsewhere =>
      intro id other
      simp only [add_arguments, lengthen, Function.update_of_ne other]
      exact progress.elsewhere id other
    case item =>
      rw [add_callOf, if_neg noItem]
      exact item

theorem pieces (new : New call before) (progress : InProgress before call sent session)
    (deltas : List String) :
    InProgress before call (if trimSpace call.id = "" then sent else sent ++ String.join deltas)
      ((deltas.map (.functionCallArgumentsDelta call.id)).foldl step session) := by
  induction deltas generalizing sent session with
  | nil =>
    rw [String.join_nil, String.append_empty, ite_self]
    exact progress
  | cons delta deltas ih =>
    have next := ih (progress.piece new delta)
    rw [map_cons, foldl_cons, step_delta progress.failed]
    by_cases noItem : trimSpace call.id = ""
    · simp only [noItem, if_true] at next ⊢
      exact next
    · simp only [noItem, if_false] at next ⊢
      rw [String.join_cons, ← String.append_assoc]
      exact next

theorem done {rest : String} (new : New call before)
    (progress : InProgress before call sent session) (all : call.arguments = sent ++ rest) :
    InProgress before call call.arguments (session.item (some (call.item call.arguments))) := by
  have some : call.callID ≠ "" := call.identified
  have onward := item_onward (.some (call.item call.arguments)) session
  have left : remainingArguments (session.arguments call.callID) call.arguments = rest := by
    rw [progress.here, all, remainingArguments_append]
  rw [item_call, left] at onward ⊢
  constructor
  case text => exact onward.text.trans progress.text
  case failed => exact onward.failed.trans progress.failed
  case none => exact onward.items progress.none
  case calls =>
    rw [all]
    exact @add_last (session.learn _) _ some progress.text _ _ _ call.named progress.calls
      new.calls _ _
  case here =>
    rw [add_arguments]
    apply learn_here
    intro empty
    rw [all, String.append_eq_empty_iff] at empty
    rw [progress.here, empty.1]
  case elsewhere =>
    intro id other
    rw [add_arguments, learn_elsewhere _ other]
    exact progress.elsewhere id other
  case item =>
    rw [add_callOf]
    exact learn_item progress.none _

theorem whole (alive : before.failed = false) (mute : before.text = "")
    (none : before.items "" = "") (new : New call before) :
    InProgress before call call.arguments ((functionCall call).events.foldl step before) := by
  have pieces := (added alive mute none new).pieces new call.deltas
  rw [events, foldl_cons, step_added alive, foldl_append, foldl_cons,
    foldl_nil, step_done pieces.failed]
  by_cases noItem : trimSpace call.id = ""
  · rw [if_pos noItem] at pieces
    apply pieces.done new
    rw [StreamedCall.arguments, String.append_assoc]
  · rw [if_neg noItem] at pieces
    exact pieces.done new rfl

end InProgress

/-! ## All items -/

def read (items : List StreamedItem) (session : Session) : Session :=
  (items.flatMap events).foldl step session

theorem read_cons (item : StreamedItem) (items : List StreamedItem) (session : Session) :
    session.read (item :: items) = (item.events.foldl step session).read items := by
  rw [read, flatMap_cons, foldl_append, read]

/-- What happens while items are streamed. -/
structure Advances (said : String) (before after : Session) : Prop where
  text : after.text = before.text ++ said
  finishReason : after.finishReason = before.finishReason
  failed : after.failed = before.failed
  calls : before.text ≠ "" → after.calls = before.calls
  grows : before.calls ≠ [] → after.calls ≠ []
  items : before.items "" = "" → after.items "" = ""

variable (alive : session.failed = false)

include alive

theorem item_advances (item : StreamedItem) :
    Advances item.text session (item.events.foldl step session) := by
  cases item with
  | message =>
    rw [message_read alive]
    exact ⟨rfl, rfl, rfl, fun _ => rfl, fun some => some, fun none => none⟩
  | functionCall call =>
    have onward := functionCall_onward alive call
    exact { onward with text := onward.text.trans String.append_empty.symm }

theorem read_advances (items : List StreamedItem) :
    Advances (outputText items) session (session.read items) := by
  induction items generalizing session with
  | nil => exact ⟨String.append_empty.symm, rfl, rfl, fun _ => rfl, id, id⟩
  | cons item items ih =>
    have here := item_advances alive item
    have there := ih (here.failed.trans alive)
    rw [read_cons, outputText, map_cons, String.join_cons, ← outputText]
    constructor
    case text => rw [there.text, here.text, String.append_assoc]
    case finishReason => exact there.finishReason.trans here.finishReason
    case failed => exact there.failed.trans here.failed
    case calls =>
      intro spoken
      have still : (item.events.foldl step session).text ≠ "" := by
        rw [here.text, ne_eq, String.append_eq_empty_iff]
        exact fun empty => spoken empty.1
      exact (there.calls still).trans (here.calls spoken)
    case grows => exact there.grows ∘ here.grows
    case items => exact there.items ∘ here.items

theorem message_silent {parts : List (List String)}
    (empty : (StreamedItem.message id parts).text = "") :
    (StreamedItem.message id parts).events.foldl step session = session := by
  rw [message_read alive, show String.join parts.flatten = "" from empty, String.append_empty]

theorem read_calls_of_none {items : List StreamedItem}
    (none : ∀ item ∈ items.takeWhile (·.text = ""), item.call? = none) :
    (session.read items).calls = session.calls := by
  induction items with
  | nil => rfl
  | cons item items ih =>
    rw [read_cons]
    by_cases empty : item.text = ""
    · rw [takeWhile_cons_of_pos (by simpa using empty), forall_mem_cons] at none
      cases item with
      | functionCall => cases none.1
      | message =>
        rw [message_silent alive empty]
        exact ih none.2
    · cases item with
      | functionCall => exact absurd rfl empty
      | message id parts =>
        have here := item_advances alive (.message id parts)
        have spoken : ((StreamedItem.message id parts).events.foldl step session).text ≠ "" := by
          rw [here.text, ne_eq, String.append_eq_empty_iff]
          exact fun both => empty both.2
        rw [(read_advances (here.failed.trans alive) items).calls spoken, message_read alive]

variable (mute : session.text = "")

include mute

theorem functionCall_sends
    (call : StreamedCall) : ((functionCall call).events.foldl step session).calls ≠ [] := by
  have some : call.callID ≠ "" := call.identified
  have added := item_onward (.some (call.item call.added)) session
  have pieces := foldl_deltas_onward (added.failed.trans alive) call.id call.deltas
  rw [events, foldl_cons, step_added alive, foldl_append, foldl_cons,
    foldl_nil, step_done (pieces.failed.trans (added.failed.trans alive))]
  apply (item_onward _ _).grows
  apply pieces.grows
  have still : (session.learn (call.item call.added)).text = "" := mute
  rw [item_call, add, if_neg (not_or.mpr ⟨some, not_not.mpr still⟩)]
  exact upsert_ne_nil _

theorem read_calls_of_some {items : List StreamedItem}
    (some : ∃ item ∈ items.takeWhile (·.text = ""), item.call? ≠ none) :
    (session.read items).calls ≠ [] := by
  induction items with
  | nil =>
    obtain ⟨item, member, -⟩ := some
    exact absurd member not_mem_nil
  | cons item items ih =>
    rw [read_cons]
    cases item with
    | functionCall call =>
      have here := functionCall_onward alive call
      apply (read_advances (here.failed.trans alive) items).grows
      exact functionCall_sends alive mute call
    | message id parts =>
      obtain ⟨item, member, isCall⟩ := some
      by_cases empty : (StreamedItem.message id parts).text = ""
      · rw [takeWhile_cons_of_pos (by simpa using empty)] at member
        rw [message_silent alive empty]
        cases mem_cons.mp member with
        | inl same => exact absurd (same ▸ rfl) isCall
        | inr later => exact ih ⟨item, later, isCall⟩
      · rw [takeWhile_cons_of_neg (by simpa using empty)] at member
        exact absurd member not_mem_nil

theorem read_calls_of_distinct (none : session.items "" = "") {items : List StreamedItem}
    (silent : ∀ item ∈ items, item.text = "")
    (distinct : ((items.filterMap call?).map StreamedCall.callID).Nodup)
    (new : ∀ call ∈ items.filterMap call?, New call session) :
    (session.read items).calls = session.calls ++ requests items := by
  induction items generalizing session with
  | nil => exact (append_nil _).symm
  | cons item items ih =>
    obtain ⟨silentHere, silentLater⟩ := forall_mem_cons.mp silent
    rw [read_cons]
    cases item with
    | message =>
      rw [message_silent alive silentHere]
      exact ih alive mute none silentLater distinct new
    | functionCall call =>
      have calls : (functionCall call :: items).filterMap call? =
          call :: items.filterMap call? := rfl
      rw [calls, map_cons, nodup_cons] at distinct
      rw [calls, forall_mem_cons] at new
      have sent := InProgress.whole alive mute none new.1
      rw [ih sent.failed sent.text sent.none silentLater distinct.2, sent.calls, append_assoc]
      · rfl
      · intro other member
        have differs : other.callID ≠ call.callID := fun same =>
          distinct.1 (mem_map.mpr ⟨other, member, same⟩)
        have before := new.2 other member
        constructor
        case calls =>
          rw [sent.calls, map_append, mem_append, not_or]
          exact ⟨before.calls, fun here => differs (mem_singleton.mp here)⟩
        case arguments => rw [sent.elsewhere _ differs, before.arguments]

end Session

/-! ## Agreement -/

variable {events : List ResponsesEvent} {resp : ResponsesResponse}

theorem foldl_streams {items : List StreamedItem} (streams : Streams items resp events) :
    events.foldl Session.step {} = (Session.read items {}).finish := by
  have alive : (Session.read items {}).failed = false := (Session.read_advances rfl items).failed
  rw [← Session.foldl_carries, streams, foldl_append, foldl_cons, foldl_nil]
  exact if_neg (Bool.eq_false_iff.mp alive)

theorem assembled_streams (responseId : String) (estimate : String → Usage) (model : String)
    (shouldIncludeUsage : Bool) {items : List StreamedItem} (streams : Streams items resp events) :
    assembled (openaiChunks responseId shouldIncludeUsage
      (oaiResponsesToChatStreamHandler responseId estimate model events)) =
        ⟨outputText items, (Session.read items {}).calls,
          some (if (Session.read items {}).calls ≠ [] ∧ outputText items = "" then "tool_calls"
            else "stop")⟩ := by
  have advances := @Session.read_advances {} rfl items
  have text : (Session.read items {}).text = outputText items :=
    advances.text.trans String.empty_append
  have running : (events.foldl Session.step {}).failed = false := by
    rw [foldl_streams streams]
    exact advances.failed
  have ended := @Heard.andThen _ _ _ (responsesEnd responseId estimate) _
    (responsesEvents_heard responseId model events)
    fun _ heard => responsesEnd_heard responseId heard estimate running
  have read := message_heard ended
  -- the usage chunk has no choice
  have usage : ∀ (reader : ChatReader) (sends : Bool) (model : String) (usage : Usage),
      (if sends then [generateFinalUsageResponse responseId model usage] else []).foldl
        ChatReader.read reader = reader := by
    intro _ sends _ _
    cases sends with
    | false | true => rfl
  -- the chunks say what the actions say
  have chunks : ∀ actions : List ChatAction, (actions.filterMap ChatAction.chunk?).foldl
      ChatReader.read {} = actions.foldl ChatReader.hear {} := by
    intro actions
    rw [foldl_filterMap]
    apply foldl_ext
    rintro reader (_ | _) - <;> rfl
  rw [assembled, openaiChunks, foldl_append, usage, chunks,
    oaiResponsesToChatStreamHandler, read, foldl_streams streams,
    Session.finish, Session.finish, advances.finishReason, Session.message, text]
  rfl

/-- The streamed message is the message of the whole response exactly where no function call
comes before the text and, without text, the ids of the function calls are distinct. -/
theorem responses_agree_iff (responseId : String) (estimate : String → Usage) (model id : String)
    (shouldIncludeUsage : Bool) {items : List StreamedItem} {resp : ResponsesResponse}
    {events : List ResponsesEvent} (streams : Streams items resp events) :
    assembled (openaiChunks responseId shouldIncludeUsage
      (oaiResponsesToChatStreamHandler responseId estimate model events)) =
        (responsesResponseToChatCompletionsResponse resp (items.map StreamedItem.output)
          id).chatMessage ↔ Settles items := by
  rw [assembled_streams responseId estimate model shouldIncludeUsage streams, chatMessage_eq,
    Settles]
  by_cases mute : outputText items = ""
  · rw [if_pos mute, if_pos mute, mute]
    constructor
    · intro same
      have calls : (Session.read items {}).calls = requests items :=
        congrArg ChatMessage.toolCalls same
      have distinct := (responsesEvents_heard "" "" events).distinct
      rw [foldl_streams streams] at distinct
      change ((Session.read items {}).calls.map ToolCallRequest.id).Nodup at distinct
      rwa [calls, requests, map_map] at distinct
    · intro distinct
      have calls := @Session.read_calls_of_distinct {} rfl rfl rfl items
        (fun _ member => join_eq_empty_iff.mp mute _ (mem_map_of_mem member)) distinct
        fun call _ => ⟨not_mem_nil, rfl⟩
      rw [calls, nil_append]
      simp
  · rw [if_neg mute, if_neg mute]
    constructor
    · intro same item member
      have calls : (Session.read items {}).calls = [] := congrArg ChatMessage.toolCalls same
      by_contra isCall
      exact @Session.read_calls_of_some {} rfl rfl items ⟨item, member, isCall⟩ calls
    · intro none
      rw [@Session.read_calls_of_none {} rfl items none]
      simp

def textFirst : List StreamedItem :=
  [.message "msg_1" [["It ", "rains."]],
    .functionCall ⟨"fc_1", "call_1", "weather", "", ["\x7b", "\x7d"], "", by decide, by decide⟩]

def plainEvents (items : List StreamedItem) (resp : ResponsesResponse) : List ResponsesEvent :=
  items.flatMap StreamedItem.events ++ [.completed (some resp)]

/-- The text comes first: both converters give the text. -/
theorem responses_agree_textFirst :
    Streams textFirst {} (plainEvents textFirst {}) ∧
      assembled (openaiChunks "resp_1" false
        (oaiResponsesToChatStreamHandler "resp_1" (fun _ => {}) "gpt" (plainEvents textFirst {}))) =
        (responsesResponseToChatCompletionsResponse {} (textFirst.map StreamedItem.output)
          "resp_1").chatMessage :=
  ⟨by decide, (responses_agree_iff "resp_1" (fun _ => {}) "gpt" "resp_1" false
    (show Streams textFirst {} (plainEvents textFirst {}) from by decide)).mpr (by decide)⟩

/-- The function call comes first: the stream gives the tool call and the text, the whole
response only the text. -/
theorem responses_disagree :
    Streams textFirst.reverse {} (plainEvents textFirst.reverse {}) ∧
      assembled (openaiChunks "resp_1" false
        (oaiResponsesToChatStreamHandler "resp_1" (fun _ => {}) "gpt"
          (plainEvents textFirst.reverse {}))) ≠
        (responsesResponseToChatCompletionsResponse {}
          (textFirst.reverse.map StreamedItem.output) "resp_1").chatMessage := by
  decide

end StuHelper.Relay
