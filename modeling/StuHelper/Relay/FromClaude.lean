import Mathlib.Data.List.Perm.Basic
import StuHelper.Lib.Text
import StuHelper.Relay.Message

/-!
# Claude requests as OpenAI requests

`ClaudeToOpenAIRequest` takes the messages of a Claude request apart.  A tool result becomes a
message of its own, in front of the message that the other blocks make up, and that message
holds either tool calls or text and images.
-/

namespace StuHelper.Relay

variable {ι : Type}

/-! ## Claude requests -/

inductive ToolResultContent (ι : Type) where
  | string (text : String)
  | media (value : ι)
  deriving DecidableEq, Repr

/-- `dto.ClaudeMediaMessage` in a request, by its type.  The types that the conversion does
not look at are taken together. -/
inductive ClaudeMediaMessage (ι : Type) where
  | text (text : Option String) (cacheControl : String)
  | image (mediaType data : String)
  | toolUse (id name : String) (input : ι)
  | toolResult (toolUseId name : String) (content : ToolResultContent ι)
  | other (id name : String)
  deriving DecidableEq, Repr

/-- `dto.ClaudeMessage`: its content is a string or a list of blocks. -/
inductive ClaudeContent (ι : Type) where
  | string (text : String)
  | blocks (blocks : List (ClaudeMediaMessage ι))
  deriving DecidableEq, Repr

/-- `dto.ClaudeMessage`. -/
structure ClaudeMessage (ι : Type) where
  role : String
  content : ClaudeContent ι
  deriving DecidableEq, Repr

open ClaudeMessage List

/-- The `System` of a request: a string, or text blocks with their cache control. -/
inductive ClaudeSystem where
  | string (text : String)
  | blocks (texts : List (Option String × String))
  deriving DecidableEq, Repr

/-- `dto.ClaudeRequest`, as far as the messages depend on it. -/
structure ClaudeRequest (ι : Type) where
  system : Option ClaudeSystem := none
  messages : List (ClaudeMessage ι)
  deriving DecidableEq, Repr

/-- The encoding of values as JSON: `json.Marshal`, and `ParseMediaContent` followed by
`Marshal`. -/
structure Json (ι : Type) where
  marshal : ι → Option String
  encodeMedia : ι → String

def Json.toJSONString (json : Json ι) (value : ι) : String := (json.marshal value).getD "\x7b\x7d"

namespace ClaudeMediaMessage

def id : ClaudeMediaMessage ι → String
  | .toolUse id _ _ | .other id _ => id
  | .text _ _ | .image _ _ | .toolResult _ _ _ => ""

def name : ClaudeMediaMessage ι → String
  | .toolUse _ name _ | .toolResult _ name _ | .other _ name => name
  | .text _ _ | .image _ _ => ""

end ClaudeMediaMessage

/-- `ParseContent`; a string is not a list of blocks. -/
def ClaudeMessage.parseContent (message : ClaudeMessage ι) : List (ClaudeMediaMessage ι) :=
  match message.content with
  | .string _ => []
  | .blocks blocks => blocks

def ClaudeRequest.searchToolNameByToolCallId (request : ClaudeRequest ι) (toolCallId : String) :
    String :=
  (((request.messages.flatMap parseContent).find? fun block =>
    block.id = toolCallId).map ClaudeMediaMessage.name).getD ""

/-! ## The conversion -/

def convertSystem (isOpenRouterClaude : Bool) : Option ClaudeSystem → List Message
  | none => []
  | some (.string text) =>
    if text ≠ "" then [{ role := "system", content := some (.string text) }] else []
  | some (.blocks texts) =>
    if texts = [] then []
    else if isOpenRouterClaude then
      [{ role := "system"
         content := some (.media (texts.map fun (text, cacheControl) =>
           .text (text.getD "") cacheControl)) }]
    else
      [{ role := "system"
         content := some (.string (String.join (texts.map fun (text, _) => text.getD ""))) }]

/-- The variables of the loop over the blocks of a message. -/
structure BlockPass where
  openAIMessages : List Message
  toolCalls : List ToolCallRequest := []
  mediaMessages : List MediaContent := []
  deriving DecidableEq, Repr

section Conversion

variable (json : Json ι) (request : ClaudeRequest ι)

def ToolResultContent.encode : ToolResultContent ι → String
  | .string text => text
  | .media value => json.encodeMedia value

def imageData (mediaType data : String) : String := "data:" ++ mediaType ++ ";base64," ++ data

def toolMessage (toolUseId name : String) (content : ToolResultContent ι) : Message :=
  { role := "tool"
    name := some (if name = "" then request.searchToolNameByToolCallId toolUseId else name)
    toolCallId := toolUseId
    content := some (.string (content.encode json)) }

/-- One round of the loop over the blocks. -/
def convertBlock (pass : BlockPass) : ClaudeMediaMessage ι → BlockPass
  | .text text cacheControl =>
    { pass with
      mediaMessages := pass.mediaMessages ++ [.text (text.getD "") cacheControl] }
  | .image mediaType data =>
    { pass with
      mediaMessages := pass.mediaMessages ++ [.imageUrl (imageData mediaType data) "" ""] }
  | .toolUse id name input =>
    { pass with toolCalls := pass.toolCalls ++ [⟨id, name, json.toJSONString input⟩] }
  | .toolResult toolUseId name content =>
    { pass with
      openAIMessages := pass.openAIMessages ++ [toolMessage json request toolUseId name content] }
  | .other _ _ => pass

/-- One round of the loop over the messages. -/
def convertMessage (openAIMessages : List Message) (message : ClaudeMessage ι) : List Message :=
  let openAIMessage : Message := { role := message.role }
  let (openAIMessages, openAIMessage) : List Message × Message :=
    match message.content with
    | .string text => (openAIMessages, { openAIMessage with content := some (.string text) })
    | .blocks blocks =>
      let pass := blocks.foldl (convertBlock json request) ⟨openAIMessages, [], []⟩
      let openAIMessage := if pass.toolCalls ≠ [] then
          { openAIMessage with toolCalls := some pass.toolCalls }
        else openAIMessage
      let openAIMessage := if pass.mediaMessages ≠ [] ∧ pass.toolCalls = [] then
          { openAIMessage with content := some (.media pass.mediaMessages) }
        else openAIMessage
      (pass.openAIMessages, openAIMessage)
  if openAIMessage.parseContent ≠ [] ∨ openAIMessage.toolCalls.isSome then
    openAIMessages ++ [openAIMessage]
  else openAIMessages

/-- The messages of `ClaudeToOpenAIRequest`. -/
def claudeToOpenAIRequest (isOpenRouterClaude : Bool) : List Message :=
  request.messages.foldl (convertMessage json request)
    (convertSystem isOpenRouterClaude request.system)

end Conversion

/-! ## What a message becomes -/

namespace ClaudeMediaMessage

def toolCall (json : Json ι) : ClaudeMediaMessage ι → Option ToolCallRequest
  | .toolUse id name input => some ⟨id, name, json.toJSONString input⟩
  | .text _ _ | .image _ _ | .toolResult _ _ _ | .other _ _ => none

def mediaMessage : ClaudeMediaMessage ι → Option MediaContent
  | .text said cacheControl => some (.text (said.getD "") cacheControl)
  | .image mediaType data => some (.imageUrl (imageData mediaType data) "" "")
  | .toolUse _ _ _ | .toolResult _ _ _ | .other _ _ => none

def oaiToolMessage (json : Json ι) (request : ClaudeRequest ι) :
    ClaudeMediaMessage ι → Option Message
  | .toolResult toolUseId name content => some (toolMessage json request toolUseId name content)
  | .text _ _ | .image _ _ | .toolUse _ _ _ | .other _ _ => none

end ClaudeMediaMessage

namespace ClaudeMessage

/-- The tool calls among the blocks. -/
def toolCalls (json : Json ι) (message : ClaudeMessage ι) : List ToolCallRequest :=
  message.parseContent.filterMap (ClaudeMediaMessage.toolCall json)

/-- The texts and images among the blocks. -/
def mediaMessages (message : ClaudeMessage ι) : List MediaContent :=
  message.parseContent.filterMap ClaudeMediaMessage.mediaMessage

/-- The messages of the tool results among the blocks. -/
def toolMessages (json : Json ι) (request : ClaudeRequest ι) (message : ClaudeMessage ι) :
    List Message :=
  message.parseContent.filterMap (ClaudeMediaMessage.oaiToolMessage json request)

def ownMessage (json : Json ι) (message : ClaudeMessage ι) : Option Message :=
  match message.content with
  | .string text => some { role := message.role, content := some (.string text) }
  | .blocks _ =>
    if message.toolCalls json ≠ [] then
      some { role := message.role, toolCalls := some (message.toolCalls json) }
    else if message.mediaMessages ≠ [] then
      some { role := message.role, content := some (.media message.mediaMessages) }
    else none

def converted (json : Json ι) (request : ClaudeRequest ι) (message : ClaudeMessage ι) :
    List Message :=
  message.toolMessages json request ++ (message.ownMessage json).toList

end ClaudeMessage

section Conversion

variable (json : Json ι) (request : ClaudeRequest ι)

theorem foldl_convertBlock (pass : BlockPass) (role : String)
    (blocks : List (ClaudeMediaMessage ι)) :
    let message : ClaudeMessage ι := ⟨role, .blocks blocks⟩
    blocks.foldl (convertBlock json request) pass =
      ⟨pass.openAIMessages ++ message.toolMessages json request,
        pass.toolCalls ++ message.toolCalls json, pass.mediaMessages ++ message.mediaMessages⟩ := by
  simp only [toolMessages, toolCalls, mediaMessages, parseContent]
  induction blocks generalizing pass with
  | nil => simp
  | cons block blocks ih =>
    rw [foldl_cons, ih]
    cases block with
    | text | image | toolUse | toolResult | other =>
      simp [convertBlock, filterMap_cons, ClaudeMediaMessage.oaiToolMessage,
        ClaudeMediaMessage.toolCall, ClaudeMediaMessage.mediaMessage]

theorem convertMessage_eq (openAIMessages : List Message) (message : ClaudeMessage ι) :
    convertMessage json request openAIMessages message =
      openAIMessages ++ message.converted json request := by
  obtain ⟨role, content⟩ := message
  cases content with
  | string =>
    simp [convertMessage, converted, toolMessages, ownMessage, parseContent, Message.parseContent]
  | blocks blocks =>
    simp only [convertMessage, converted, ownMessage,
      foldl_convertBlock json request _ role, nil_append]
    by_cases calls : (mk role (.blocks blocks)).toolCalls json = []
    · by_cases media : (mk role (.blocks blocks)).mediaMessages = []
      · simp [calls, media, Message.parseContent]
      · simp [calls, media, Message.parseContent]
    · simp [calls]

end Conversion

/-! ## The conversation -/

/-- What a conversation consists of. -/
inductive Item where
  | text (text : String)
  | image (url : String)
  | call (id name arguments : String)
  | result (toolUseId content : String)
  deriving DecidableEq, Repr

/-- The item of a part of a message. -/
def MediaContent.item : MediaContent → Option Item
  | .text said _ => if said = "" then none else some (.text said)
  | .imageUrl url _ _ => some (.image url)
  | .inputAudio _ _ | .file _ _ _ | .videoUrl _ => none

def ToolCallRequest.item (call : ToolCallRequest) : Item := .call call.id call.name call.arguments

def Message.items (message : Message) : List Item :=
  if message.role = "tool" then [.result message.toolCallId message.stringContent]
  else message.parseContent.filterMap MediaContent.item ++
    message.parseToolCalls.map ToolCallRequest.item

def ClaudeMediaMessage.item (json : Json ι) : ClaudeMediaMessage ι → Option Item
  | .text said _ => if said.getD "" = "" then none else some (.text (said.getD ""))
  | .image mediaType data => some (.image (imageData mediaType data))
  | .toolUse id name input => some (.call id name (json.toJSONString input))
  | .toolResult toolUseId _ content => some (.result toolUseId (content.encode json))
  | .other _ _ => none

def ClaudeMessage.items (json : Json ι) (message : ClaudeMessage ι) : List Item :=
  match message.content with
  | .string text => if text = "" then [] else [.text text]
  | .blocks blocks => blocks.filterMap (ClaudeMediaMessage.item json)

/-- The messages keep the conversation of the request.  After the system message there is a
group of messages for each message of the request; every item occurs once, the items of one
message are in their order, and every tool message comes after its tool call. -/
def KeepsConversation (json : Json ι) (request : ClaudeRequest ι) (system messages : List Message) :
    Prop :=
  ∃ groups : List (List Message), messages = system ++ groups.flatten ∧
      (groups.flatten.flatMap Message.items).Perm
        (request.messages.flatMap (items json)) ∧
      List.Forall₂ (fun message group => ∀ converted ∈ group,
        converted.items.Sublist (message.items json)) request.messages groups ∧
      ToolsAfterCalls messages

namespace Item

def isResult : Item → Bool
  | .result _ _ => true
  | _ => false

def isCall : Item → Bool
  | .call _ _ _ => true
  | _ => false

def isMedia : Item → Bool
  | .text _ | .image _ => true
  | _ => false

end Item

namespace ClaudeMediaMessage

def isToolUse : ClaudeMediaMessage ι → Bool
  | .toolUse _ _ _ => true
  | .text _ _ | .image _ _ | .toolResult _ _ _ | .other _ _ => false

/-- The block is an image or a text that is not empty. -/
def isShown : ClaudeMediaMessage ι → Bool
  | .text said _ => said.getD "" ≠ ""
  | .image _ _ => true
  | .toolUse _ _ _ | .toolResult _ _ _ | .other _ _ => false

def toolUseId : ClaudeMediaMessage ι → Option String
  | .toolUse id _ _ => some id
  | .text _ _ | .image _ _ | .toolResult _ _ _ | .other _ _ => none

def answer : ClaudeMediaMessage ι → Option String
  | .toolResult toolUseId _ _ => some toolUseId
  | .text _ _ | .image _ _ | .toolUse _ _ _ | .other _ _ => none

end ClaudeMediaMessage

namespace ClaudeMessage

variable (json : Json ι) (request : ClaudeRequest ι)
variable {message : ClaudeMessage ι}

def isString (message : ClaudeMessage ι) : Bool :=
  match message.content with
  | .string _ => true
  | .blocks _ => false

/-- The message has nothing but tool results, and so no message of its own. -/
def Silent (message : ClaudeMessage ι) : Prop :=
  message.isString = false ∧
    ∀ block ∈ message.parseContent, block.isToolUse = false ∧ block.mediaMessage = none

/-- The message does not have both tool calls and text or images. -/
def OneKind (message : ClaudeMessage ι) : Prop :=
  (∀ block ∈ message.parseContent, block.isToolUse = false) ∨
    ∀ block ∈ message.parseContent, block.isShown = false

/-- The ids that the tool results answer. -/
def answers (message : ClaudeMessage ι) : List String :=
  message.parseContent.filterMap ClaudeMediaMessage.answer

def heldIds (message : ClaudeMessage ι) : List String :=
  if message.role = "assistant" then message.parseContent.filterMap ClaudeMediaMessage.toolUseId
  else []

theorem flatMap_filterMap_items {β : Type} (made : ClaudeMediaMessage ι → Option β)
    (items : β → List Item) (kind : Item → Bool)
    (each : ∀ block : ClaudeMediaMessage ι,
      (made block).toList.flatMap items = (block.item json).toList.filter kind)
    (blocks : List (ClaudeMediaMessage ι)) :
    (blocks.filterMap made).flatMap items =
      (blocks.filterMap (ClaudeMediaMessage.item json)).filter kind := by
  simp only [filterMap_eq_flatMap_toList, flatMap_assoc, filter_flatMap, each]

theorem toolMessages_items (message : ClaudeMessage ι) :
    (message.toolMessages json request).flatMap Message.items =
      (message.items json).filter Item.isResult := by
  obtain ⟨role, content⟩ := message
  cases content with
  | string =>
    simp only [items]
    split
    · rfl
    · rfl
  | blocks blocks =>
    refine flatMap_filterMap_items json _ _ _ (fun block => ?_) blocks
    cases block with
    | text =>
      simp only [ClaudeMediaMessage.item]
      split
      · rfl
      · rfl
    | image | toolUse | toolResult | other => rfl

theorem toolCalls_items (role : String) (blocks : List (ClaudeMediaMessage ι)) :
    ((mk role (.blocks blocks)).toolCalls json).map ToolCallRequest.item =
      ((mk role (.blocks blocks)).items json).filter Item.isCall := by
  rw [map_eq_flatMap]
  apply flatMap_filterMap_items json
  intro block
  cases block with
  | text =>
    simp only [ClaudeMediaMessage.item]
    split
    · rfl
    · rfl
  | image | toolUse | toolResult | other => rfl

theorem mediaMessages_items (role : String) (blocks : List (ClaudeMediaMessage ι)) :
    (mk role (.blocks blocks)).mediaMessages.filterMap MediaContent.item =
      ((mk role (.blocks blocks)).items json).filter Item.isMedia := by
  rw [filterMap_eq_flatMap_toList]
  apply flatMap_filterMap_items json
  intro block
  cases block with
  | text =>
    simp only [ClaudeMediaMessage.item, ClaudeMediaMessage.mediaMessage, Option.toList_some,
      flatMap_singleton, MediaContent.item]
    split
    · rfl
    · rfl
  | image | toolUse | toolResult | other => rfl

theorem toolCall_eq_none_iff (block : ClaudeMediaMessage ι) :
    block.toolCall json = none ↔ block.isToolUse = false := by
  cases block with
  | text | image => exact iff_of_true rfl rfl
  | toolUse => exact iff_of_false nofun nofun
  | toolResult | other => exact iff_of_true rfl rfl

theorem ownMessage_eq_none_iff (message : ClaudeMessage ι) :
    message.ownMessage json = none ↔ message.Silent := by
  obtain ⟨role, content⟩ := message
  cases content with
  | string => exact iff_of_false nofun nofun
  | blocks blocks =>
    have none : (mk role (.blocks blocks)).ownMessage json = none ↔
        (mk role (.blocks blocks)).toolCalls json = [] ∧
          (mk role (.blocks blocks)).mediaMessages = [] := by
      simp only [ownMessage]
      split
      next calls => simpa using fun empty => absurd empty calls
      rename_i calls
      rw [and_iff_right (not_not.mp calls)]
      split
      next media => simpa using media
      next media => simpa using media
    rw [none, toolCalls, mediaMessages, filterMap_eq_nil_iff, filterMap_eq_nil_iff]
    constructor
    · intro both
      refine ⟨rfl, fun block member => ?_⟩
      exact ⟨(toolCall_eq_none_iff json block).mp (both.1 block member), both.2 block member⟩
    · rintro ⟨-, all⟩
      exact ⟨fun block member => (toolCall_eq_none_iff json block).mpr (all block member).1,
        fun block member => (all block member).2⟩

theorem ownMessage_items (heard : message.role = "tool" → message.Silent) :
    (message.ownMessage json).toList.flatMap Message.items =
      if (message.items json).filter Item.isCall = [] then (message.items json).filter Item.isMedia
      else (message.items json).filter Item.isCall := by
  have speaks : ∀ own, message.ownMessage json = some own → message.role ≠ "tool" := by
    intro own some tool
    rw [(message.ownMessage_eq_none_iff json).mpr (heard tool)] at some
    cases some
  obtain ⟨role, content⟩ := message
  cases content with
  | string text =>
    have role := speaks _ rfl
    by_cases empty : text = ""
    · simp [ownMessage, Message.items, role, Message.parseContent, Message.parseToolCalls,
        MediaContent.item, items, empty]
    · have media : [Item.text text].filter Item.isMedia = [.text text] := rfl
      have calls : [Item.text text].filter Item.isCall = [] := rfl
      simp [ownMessage, Message.items, role, Message.parseContent, Message.parseToolCalls,
        MediaContent.item, items, empty, calls, media]
  | blocks blocks =>
    simp only [← toolCalls_items, map_eq_nil_iff, ← mediaMessages_items]
    by_cases calls : (mk role (.blocks blocks)).toolCalls json = []
    · rw [if_pos calls]
      by_cases media : (mk role (.blocks blocks)).mediaMessages = []
      · simp [ownMessage, calls, media]
      have own : (mk role (.blocks blocks)).ownMessage json = some
          { role := role
            content := some (.media (mk role (.blocks blocks)).mediaMessages) } := by
        simp [ownMessage, calls, media]
      have role := speaks _ own
      rw [own]
      simp [Message.items, role, Message.parseContent, Message.parseToolCalls]
    · have own : (mk role (.blocks blocks)).ownMessage json = some
          { role := role
            toolCalls := some ((mk role (.blocks blocks)).toolCalls json) } := by
        simp [ownMessage, calls]
      have role := speaks _ own
      rw [if_neg calls, own]
      simp [Message.items, role, Message.parseContent, Message.parseToolCalls]

theorem ownMessage_role {own : Message} (some : message.ownMessage json = some own) :
    own.role = message.role ∧ own.toolCallId = "" := by
  unfold ownMessage at some
  split at some
  · cases some
    exact ⟨rfl, rfl⟩
  split at some
  · cases some
    exact ⟨rfl, rfl⟩
  · split at some
    · cases some
      exact ⟨rfl, rfl⟩
    · cases some

theorem converted_items (heard : message.role = "tool" → message.Silent) :
    (message.converted json request).flatMap Message.items =
      (message.items json).filter Item.isResult ++
        if (message.items json).filter Item.isCall = [] then
          (message.items json).filter Item.isMedia
        else (message.items json).filter Item.isCall := by
  rw [converted, flatMap_append, toolMessages_items, ownMessage_items json heard]

theorem filter_item_isMedia (blocks : List (ClaudeMediaMessage ι)) :
    (blocks.filterMap (ClaudeMediaMessage.item json)).filter Item.isMedia = [] ↔
      ∀ block ∈ blocks, block.isShown = false := by
  rw [filter_filterMap, filterMap_eq_nil_iff]
  refine forall₂_congr fun block _ => ?_
  cases block with
  | text said =>
    simp only [ClaudeMediaMessage.item, ClaudeMediaMessage.isShown]
    split
    next empty => simp [empty]
    next said => simp [said, Item.isMedia]
  | image => exact iff_of_false nofun nofun
  | toolUse | toolResult | other => exact iff_of_true rfl rfl

theorem oneKind_iff (message : ClaudeMessage ι) :
    message.OneKind ↔ (message.items json).filter Item.isCall = [] ∨
      (message.items json).filter Item.isMedia = [] := by
  obtain ⟨_, content⟩ := message
  cases content with
  | string =>
    refine iff_of_true (.inl nofun) (.inl ?_)
    simp only [items]
    split
    · rfl
    · rfl
  | blocks blocks =>
    refine or_congr ?_ (filter_item_isMedia json blocks).symm
    rw [← toolCalls_items, map_eq_nil_iff, toolCalls, filterMap_eq_nil_iff]
    simp only [toolCall_eq_none_iff]

theorem converted_perm (heard : message.role = "tool" → message.Silent)
    (oneKind : message.OneKind) :
    ((message.converted json request).flatMap Message.items).Perm (message.items json) := by
  rw [converted_items json request heard]
  refine List.Perm.trans ?_ (filter_append_perm Item.isResult (message.items json))
  apply List.Perm.append_left
  apply List.Perm.of_eq
  cases (message.oneKind_iff json).mp oneKind with
  | inl noCall =>
    rw [if_pos noCall]
    apply filter_congr
    intro item member
    have notCall := filter_eq_nil_iff.mp noCall item member
    cases item with
    | text | image => rfl
    | call => exact absurd rfl notCall
    | result => rfl
  | inr noMedia =>
    have calls : (message.items json).filter Item.isCall =
        (message.items json).filter fun item => !item.isResult := by
      apply filter_congr
      intro item member
      have notMedia := filter_eq_nil_iff.mp noMedia item member
      cases item with
      | text | image => exact absurd rfl notMedia
      | call | result => rfl
    split
    next none => rw [noMedia, ← calls, none]
    next => exact calls

/-- The items of each of these messages are in their order. -/
theorem converted_sublist (heard : message.role = "tool" → message.Silent) :
    ∀ made ∈ message.converted json request, made.items.Sublist (message.items json) := by
  intro made member
  cases mem_append.mp member with
  | inl tool =>
    have part := sublist_flatten_of_mem (mem_map_of_mem (f := Message.items) tool)
    rw [← flatMap_def, toolMessages_items] at part
    exact part.trans filter_sublist
  | inr own =>
    have part := ownMessage_items json heard
    rw [Option.mem_toList.mp own, Option.toList_some, flatMap_singleton] at part
    rw [part]
    split
    · exact filter_sublist
    · exact filter_sublist

theorem toolMessages_role (message : ClaudeMessage ι) :
    ∀ made ∈ message.toolMessages json request, made.role = "tool" := by
  intro made member
  obtain ⟨block, -, some⟩ := mem_filterMap.mp member
  cases block with
  | toolResult =>
    cases some
    rfl
  | text | image | toolUse | other => cases some

theorem toolMessages_toolCallId (message : ClaudeMessage ι) :
    (message.toolMessages json request).map Message.toolCallId = message.answers := by
  rw [toolMessages, answers, map_filterMap]
  congr 1
  funext block
  cases block with
  | toolResult | text | image | toolUse | other => rfl

/-- Its tool messages come after their tool calls if the ids are known. -/
theorem linked_converted (heard : message.role = "tool" → message.Silent) (known : List String) :
    linked known (message.converted json request) ↔ ∀ id ∈ message.answers, id ∈ known := by
  have own : ∀ known, linked known (message.ownMessage json).toList := by
    intro known
    cases some : message.ownMessage json with
    | none => trivial
    | some =>
      refine ⟨fun tool => ?_, trivial⟩
      have silent := heard ((ownMessage_role json some).1.symm.trans tool)
      rw [(message.ownMessage_eq_none_iff json).mpr silent] at some
      cases some
  rw [converted, linked_append, linked_tools (message.toolMessages_role json request),
    and_iff_left (own _), ← message.toolMessages_toolCallId json request, forall_mem_map]

theorem converted_heldIds (message : ClaudeMessage ι) :
    (message.converted json request).flatMap Message.heldIds = message.heldIds := by
  have tools : (message.toolMessages json request).flatMap Message.heldIds = [] := by
    rw [flatMap_eq_nil_iff]
    intro tool member
    rw [Message.heldIds, message.toolMessages_role json request tool member]
    rfl
  have ids : (message.toolCalls json).map ToolCallRequest.id =
      message.parseContent.filterMap ClaudeMediaMessage.toolUseId := by
    rw [toolCalls, map_filterMap]
    congr 1
    funext block
    cases block with
    | toolResult | text | image | toolUse | other => rfl
  rw [converted, flatMap_append, tools, nil_append, heldIds, ← ids]
  obtain ⟨role, content⟩ := message
  cases content with
  | string => simp [ownMessage, Message.heldIds, Message.parseToolCalls, toolCalls, parseContent]
  | blocks blocks =>
    by_cases calls : (mk role (.blocks blocks)).toolCalls json = []
    · by_cases media : (mk role (.blocks blocks)).mediaMessages = []
      · simp [ownMessage, calls, media]
      · simp [ownMessage, calls, media, Message.heldIds, Message.parseToolCalls]
    · simp [ownMessage, calls, Message.heldIds, Message.parseToolCalls]

end ClaudeMessage

/-- Every tool result answers a tool call of an earlier message of the assistant. -/
def answered : List String → List (ClaudeMessage ι) → Prop
  | _, [] => True
  | known, message :: messages =>
    (∀ id ∈ message.answers, id ∈ known) ∧ answered (known ++ message.heldIds) messages

theorem linked_flatMap_converted (json : Json ι) (request : ClaudeRequest ι)
    {messages : List (ClaudeMessage ι)}
    (heard : ∀ message ∈ messages, message.role = "tool" → message.Silent) (known : List String) :
    linked known (messages.flatMap (converted json request)) ↔ answered known messages := by
  induction messages generalizing known with
  | nil => exact Iff.rfl
  | cons message messages ih =>
    obtain ⟨here, later⟩ := forall_mem_cons.mp heard
    rw [flatMap_cons, linked_append, message.linked_converted json request here,
      message.converted_heldIds json request, ih later, answered]

instance decidableAnswered : (known : List String) → (messages : List (ClaudeMessage ι)) →
    Decidable (answered known messages)
  | _, [] => isTrue trivial
  | known, message :: messages =>
    have := decidableAnswered (known ++ message.heldIds) messages
    inferInstanceAs (Decidable (_ ∧ _))

/-! ## Exactly once -/

/-- What is missing in one part is not made up for in another. -/
theorem countP_eq_of_flatMap {α β : Type} {kind : β → Bool} {fewer more : α → List β}
    {parts : List α} (le : ∀ part ∈ parts, (fewer part).countP kind ≤ (more part).countP kind)
    (same : (parts.flatMap more).countP kind = (parts.flatMap fewer).countP kind) :
    ∀ part ∈ parts, (fewer part).countP kind = (more part).countP kind := by
  rw [countP_flatMap, countP_flatMap] at same
  exact (Lib.Text.sum_map_eq_iff le).mp same.symm

theorem countP_filter_self {α : Type} (kind : α → Bool) (list : List α) :
    (list.filter kind).countP kind = list.countP kind := by
  rw [countP_filter]
  simp only [Bool.and_self]

namespace ClaudeMessage

variable (json : Json ι) (request : ClaudeRequest ι)

theorem countP_isResult (message : ClaudeMessage ι) :
    (message.items json).countP Item.isResult ≤
        ((message.converted json request).flatMap Message.items).countP Item.isResult ∧
      ((message.items json).countP Item.isResult =
          ((message.converted json request).flatMap Message.items).countP Item.isResult →
        message.role = "tool" → message.Silent) := by
  by_cases heard : message.role = "tool" → message.Silent
  · refine ⟨?_, fun _ => heard⟩
    rw [converted_items json request heard, countP_append, countP_filter_self]
    exact Nat.le_add_right _ _
  · obtain ⟨tool, speaks⟩ := Classical.not_imp.mp heard
    -- a message with the role of a tool is taken for a tool result
    obtain ⟨own, some⟩ := Option.ne_none_iff_exists'.mp
      (mt (message.ownMessage_eq_none_iff json).mp speaks)
    obtain ⟨role, unnamed⟩ := ownMessage_role json some
    rw [converted, flatMap_append, toolMessages_items, some, Option.toList_some,
      flatMap_singleton, Message.items, if_pos (role.trans tool), unnamed, countP_append,
      countP_filter_self, countP_singleton]
    refine ⟨Nat.le_add_right _ _, fun same => ?_⟩
    exact absurd same (Nat.ne_of_lt (Nat.lt_succ_self _))

/-- The texts and images of a message with tool calls are lost. -/
theorem countP_isMedia {message : ClaudeMessage ι}
    (heard : message.role = "tool" → message.Silent) :
    ((message.converted json request).flatMap Message.items).countP Item.isMedia ≤
        (message.items json).countP Item.isMedia ∧
      (((message.converted json request).flatMap Message.items).countP Item.isMedia =
        (message.items json).countP Item.isMedia → message.OneKind) := by
  have apart : ∀ kind : Item → Bool, (∀ item, kind item = true → item.isMedia = false) →
      ((message.items json).filter kind).countP Item.isMedia = 0 := by
    intro kind none
    rw [countP_eq_zero]
    intro item member
    rw [none item (mem_filter.mp member).2]
    exact nofun
  have results := apart Item.isResult fun
    | .result _ _, _ => rfl
  have calls := apart Item.isCall fun
    | .call _ _ _, _ => rfl
  rw [converted_items json request heard, countP_append, results, Nat.zero_add]
  split
  next none =>
    rw [countP_filter_self]
    exact ⟨Nat.le_refl _, fun _ => (message.oneKind_iff json).mpr (.inl none)⟩
  rw [calls]
  refine ⟨Nat.zero_le _, fun same => (message.oneKind_iff json).mpr (.inr ?_)⟩
  rw [filter_eq_nil_iff]
  exact countP_eq_zero.mp same.symm

end ClaudeMessage

theorem linked_convertSystem (isOpenRouterClaude : Bool) (system : Option ClaudeSystem) :
    linked [] (convertSystem isOpenRouterClaude system) ∧
      [] ++ (convertSystem isOpenRouterClaude system).flatMap Message.heldIds = [] := by
  have roles : ∀ message ∈ convertSystem isOpenRouterClaude system, message.role = "system" := by
    intro message member
    unfold convertSystem at member
    split at member
    · cases member
    · split at member
      · rw [mem_singleton.mp member]
      · cases member
    · split at member
      · cases member
      · split at member
        · rw [mem_singleton.mp member]
        · rw [mem_singleton.mp member]
  refine ⟨(linked_iff _ _).mpr fun before tool after split isTool => ?_, ?_⟩
  · have system := roles tool (split ▸ mem_append_right before mem_cons_self)
    rw [isTool] at system
    exact absurd system (by decide)
  · rw [nil_append, flatMap_eq_nil_iff]
    intro message member
    rw [Message.heldIds, roles message member]
    rfl

/-- The conversion keeps the conversation exactly when no message has both tool calls and text
or images, every tool result answers a tool call of an earlier message of the assistant, and
no message has the role of a tool. -/
theorem conversation_kept_iff (json : Json ι) (request : ClaudeRequest ι)
    (isOpenRouterClaude : Bool) :
    KeepsConversation json request (convertSystem isOpenRouterClaude request.system)
        (claudeToOpenAIRequest json request isOpenRouterClaude) ↔
      (∀ message ∈ request.messages, (message.role = "tool" → message.Silent) ∧ message.OneKind) ∧
        answered [] request.messages := by
  have whole : claudeToOpenAIRequest json request isOpenRouterClaude =
      convertSystem isOpenRouterClaude request.system ++
        request.messages.flatMap (converted json request) := by
    rw [claudeToOpenAIRequest, funext₂ (convertMessage_eq json request), foldl_append_eq_append]
    rfl
  have tools : (∀ message ∈ request.messages, message.role = "tool" → message.Silent) →
      (ToolsAfterCalls (claudeToOpenAIRequest json request isOpenRouterClaude) ↔
        answered [] request.messages) := by
    intro heard
    obtain ⟨silent, nothing⟩ := linked_convertSystem isOpenRouterClaude request.system
    rw [toolsAfterCalls_iff, whole, linked_append, and_iff_right silent, nothing,
      linked_flatMap_converted json request heard]
  constructor
  · rintro ⟨groups, split, perm, -, after⟩
    have flat : groups.flatten = request.messages.flatMap (converted json request) :=
      (append_cancel_left (whole.symm.trans split)).symm
    rw [flat, flatMap_assoc] at perm
    have heard : ∀ message ∈ request.messages, message.role = "tool" → message.Silent := by
      intro message member
      apply (message.countP_isResult json request).2
      exact countP_eq_of_flatMap (fun message _ => (message.countP_isResult json request).1)
        (perm.countP_eq Item.isResult) message member
    have oneKind : ∀ message ∈ request.messages, message.OneKind := by
      intro message member
      apply (countP_isMedia json request (heard message member)).2
      exact countP_eq_of_flatMap
        (fun message member => (countP_isMedia json request (heard message member)).1)
        (perm.countP_eq Item.isMedia).symm message member
    exact ⟨fun message member => ⟨heard message member, oneKind message member⟩,
      (tools heard).mp after⟩
  · rintro ⟨each, after⟩
    refine ⟨request.messages.map (converted json request), ?_, ?_, ?_, ?_⟩
    · rw [whole, flatMap_def]
    · rw [← flatMap_def, flatMap_assoc]
      apply List.Perm.flatMap_left
      intro message member
      exact converted_perm json request (each message member).1
        (each message member).2
    · rw [forall₂_map_right_iff, forall₂_same]
      intro message member
      exact converted_sublist json request (each message member).1
    · exact (tools fun message member => (each message member).1).mpr after

/-- Values that are their own encoding. -/
def plainJson : Json String := ⟨some, id⟩

/-- The assistant says something and calls a tool. -/
def textWithCall : ClaudeRequest String :=
  { messages := [⟨"user", .blocks [.text (some "which way?") ""]⟩,
      ⟨"assistant", .blocks [.text (some "let me see") "", .toolUse "call_0" "map" "north"]⟩,
      ⟨"user", .blocks [.toolResult "call_0" "" (.string "left")]⟩] }

def resultWithCall : ClaudeRequest String :=
  { messages := [⟨"user", .blocks [.text (some "which way?") ""]⟩,
      ⟨"assistant", .blocks [.toolUse "call_0" "map" "north",
        .toolResult "call_0" "" (.string "left")]⟩] }

/-- The text is lost in one of these requests, and the result comes before the call in the
other. -/
theorem conversation_not_kept :
    ¬ KeepsConversation plainJson textWithCall []
        (claudeToOpenAIRequest plainJson textWithCall false) ∧
      ¬ KeepsConversation plainJson resultWithCall []
        (claudeToOpenAIRequest plainJson resultWithCall false) := by
  constructor
  · rintro ⟨groups, split, perm, -, -⟩
    rw [nil_append] at split
    rw [← split] at perm
    exact absurd perm.length_eq (by decide +kernel)
  · rintro ⟨-, -, -, -, after⟩
    exact absurd after (by decide +kernel)

end StuHelper.Relay
